-- Fitting tokens together to the tree of a document. A missing node counts as an
-- empty scalar wherever an entry, a key or a value may be left out.
import QuerySieve.Value
import QuerySieve.Yaml.Node
import QuerySieve.Yaml.Token.Lexer

namespace QuerySieve.Yaml.Node

/-! ## State -/

/-- A node that has a name: where it starts, and the node once it is complete. -/
structure Anchored where
  start : Mark
  node : Option Node

structure State where
  /-- The tokens that were not read yet. -/
  row : Token.Row
  anchors : List (Text × Anchored)
  /-- What the handles of tags stand for. -/
  handles : List (Text × Text)

/-- A step of reading, which may end in a fault. -/
abbrev Reader := StateT State (Except Fault)

/-- Complains about the structure at a mark. -/
def fail {α : Type} (problem : Problem) (mark : Mark)
    (during : Option (Activity × Option Mark) := none) : Reader α :=
  throw (.complaint { stage := .structure_, during, problem, mark })

/-- Complains about an anchor or an alias at a mark. -/
def failReference {α : Type} (problem : Problem) (mark : Mark)
    (during : Option (Activity × Option Mark) := none) : Reader α :=
  throw (.complaint { stage := .references, during, problem, mark })

/-- The next token. Where the row broke off, its fault is met. -/
def peek : Reader Token := do
  let s ← get
  match s.row.tokens, s.row.fault with
  | t :: _, _ => return t
  | [], some f => throw f
  | [], none => return ⟨.streamEnd, .start, .start⟩

def peekKind : Reader Token.Kind := return (← peek).kind

/-- Takes the next token. -/
def take : Reader Token := do
  let t ← peek
  modify fun s => { s with row := { s.row with tokens := s.row.tokens.drop 1 } }
  return t

/-- A token that fits nowhere. -/
def misfit {α : Type} (m : Misfit) (during : Option (Activity × Mark)) : Reader α := do
  let t ← peek
  fail (.misfit m t.kind.shown) t.start (during.map fun (a, since) => (a, some since))

/-! ## What may stand before a node -/

/-- The name and the tag of a node. -/
structure Properties where
  anchor : Option Text := none
  tag : Option RawTag := none
  /-- Where the first of them starts. -/
  start : Option Mark := none
  /-- Where the last of them stops. -/
  stop : Option Mark := none
  tagStart : Option Mark := none

/-- Takes an anchor, if one is next. -/
def takeAnchor (p : Properties) : Reader Properties := do
  let t ← peek
  match t.kind with
  | .anchor name =>
    let _ ← take
    return { p with anchor := some name, start := p.start.or (some t.start), stop := some t.stop }
  | _ => return p

/-- Takes a tag, if one is next. -/
def takeTag (p : Properties) : Reader Properties := do
  let t ← peek
  match t.kind with
  | .tag raw =>
    let _ ← take
    return { p with
      tag := some raw, start := p.start.or (some t.start), stop := some t.stop,
      tagStart := some t.start }
  | _ => return p

/-- Takes an anchor and a tag, in either order. -/
def takeProperties : Reader Properties := do
  let p ← takeAnchor {}
  if p.anchor.isSome then takeTag p
  else
    let p ← takeTag p
    if p.tag.isSome then takeAnchor p else return p

/-- The tag with its handle replaced by what the handle stands for. -/
def fullTag (p : Properties) : Reader (Option Text) := do
  match p.tag with
  | none => return none
  | some ⟨none, suffix⟩ => return some suffix
  | some ⟨some handle, suffix⟩ =>
    match Pairs.find? handle (← get).handles with
    | some lead => return some (lead ++ suffix)
    | none =>
      fail (.unknownHandle handle) (p.tagStart.getD .start) (some (.node, p.start))

/-- The tag that only says that no tag is meant. -/
def openTag : Text := "!"

/-! ## Names of nodes -/

/-- Refuses a name that is taken. -/
def ensureFresh (anchor : Option Text) (start : Mark) : Reader Unit := do
  match anchor with
  | none => return
  | some name =>
    match Pairs.find? name (← get).anchors with
    | none => return
    | some before =>
      failReference .secondAnchor start (some (.anchorBefore name, some before.start))

/-- Gives a name to a node. -/
def name (anchor : Option Text) (start : Mark) (node : Option Node) : Reader Unit :=
  match anchor with
  | none => return
  | some name =>
    modify fun s => { s with anchors := Pairs.put name ⟨start, node⟩ s.anchors }

/-- The node that an alias stands for. -/
def resolve (name : Text) (mark : Mark) : Reader Node := do
  match Pairs.find? name (← get).anchors with
  | none => failReference (.undefinedAlias name) mark
  | some ⟨_, some n⟩ => return n
  | some ⟨start, none⟩ => return .loop start

/-! ## Nodes -/

/-- Where a node stands: what it may be depends on what is around it. -/
inductive Place
  /-- Between brackets. -/
  | flow
  /-- An entry of a block list. -/
  | entry
  /-- A key or a value of a block mapping. A list there may stand at the column of its key. -/
  | member
  deriving DecidableEq, Repr

def endsBlockEntry : Token.Kind → Bool
  | .blockEntry | .blockEnd => true
  | _ => false

def endsIndentlessEntry : Token.Kind → Bool
  | .blockEntry | .key | .value | .blockEnd => true
  | _ => false

def endsBlockMember : Token.Kind → Bool
  | .key | .value | .blockEnd => true
  | _ => false

def endsFlowPairKey : Token.Kind → Bool
  | .value | .flowEntry | .flowSequenceEnd => true
  | _ => false

def endsFlowPairValue : Token.Kind → Bool
  | .flowEntry | .flowSequenceEnd => true
  | _ => false

def endsFlowKey : Token.Kind → Bool
  | .value | .flowEntry | .flowMappingEnd => true
  | _ => false

def endsFlowValue : Token.Kind → Bool
  | .flowEntry | .flowMappingEnd => true
  | _ => false

mutual

/-- A node, after an anchor and a tag. -/
def node : Nat → Place → Reader Node
  | 0, _ => return default
  | fuel + 1, place => do
    let t ← peek
    match t.kind with
    | .alias name =>
      let _ ← take
      resolve name t.start
    | _ => do
      let p ← takeProperties
      let written ← fullTag p
      let tag := if written = some openTag then none else written
      let t ← peek
      let start := p.start.getD t.start
      let collection (items : Reader Node) : Reader Node := do
        ensureFresh p.anchor start
        name p.anchor start none
        let n ← items
        name p.anchor start (some n)
        return n
      let leaf (n : Node) : Reader Node := do
        ensureFresh p.anchor start
        name p.anchor start (some n)
        return n
      match t.kind, place with
      | .blockEntry, .member =>
        collection do return .list tag (← indentlessEntries fuel) start
      | .scalar text plain, _ =>
        let _ ← take
        leaf (.scalar tag (plain && written.isNone || written = some openTag) text start)
      | .flowSequenceStart, _ =>
        collection do
          let _ ← take
          return .list tag (← flowEntries fuel t.start true) start
      | .flowMappingStart, _ =>
        collection do
          let _ ← take
          return .map tag (← flowPairs fuel t.start true) start
      | .blockSequenceStart, .entry | .blockSequenceStart, .member =>
        collection do
          let _ ← take
          return .list tag (← blockEntries fuel t.start) start
      | .blockMappingStart, .entry | .blockMappingStart, .member =>
        collection do
          let _ ← take
          return .map tag (← blockPairs fuel t.start) start
      | _, _ =>
        if p.start.isSome then leaf (.scalar tag tag.isNone [] start)
        else
          misfit .nodeContent (some (if place = .flow then .flowNode else .blockNode, start))

/-- A node, or an empty scalar at a mark if a token comes that ends it. -/
def nodeOrEmpty : Nat → Place → (ends : Token.Kind → Bool) → Mark → Reader Node
  | 0, _, _, mark => return .empty mark
  | fuel + 1, place, ends, mark => do
    if ends (← peekKind) then return .empty mark else node fuel place

/-- A value after its colon, or an empty scalar if there is no colon. -/
def valueOrEmpty : Nat → Place → (ends : Token.Kind → Bool) → Reader Node
  | 0, _, _ => return default
  | fuel + 1, place, ends => do
    let t ← peek
    if t.kind = .value then
      let _ ← take
      nodeOrEmpty fuel place ends t.stop
    else return .empty t.start

/-- The entries of a block list that starts at a mark. -/
def blockEntries : Nat → Mark → Reader (List Node)
  | 0, _ => return []
  | fuel + 1, start => do
    let t ← peek
    if t.kind = .blockEntry then
      let _ ← take
      let item ← nodeOrEmpty fuel .entry endsBlockEntry t.stop
      return item :: (← blockEntries fuel start)
    else if t.kind = .blockEnd then
      let _ ← take
      return []
    else misfit .blockEnd (some (.blockCollection, start))

/-- The entries of a block list at the column of its key. -/
def indentlessEntries : Nat → Reader (List Node)
  | 0 => return []
  | fuel + 1 => do
    let t ← peek
    if t.kind = .blockEntry then
      let _ ← take
      let item ← nodeOrEmpty fuel .entry endsIndentlessEntry t.stop
      return item :: (← indentlessEntries fuel)
    else return []

/-- The pairs of a block mapping that starts at a mark. -/
def blockPairs : Nat → Mark → Reader (List (Node × Node))
  | 0, _ => return []
  | fuel + 1, start => do
    let t ← peek
    if t.kind = .key then
      let _ ← take
      let key ← nodeOrEmpty fuel .member endsBlockMember t.stop
      let value ← valueOrEmpty fuel .member endsBlockMember
      return (key, value) :: (← blockPairs fuel start)
    else if t.kind = .blockEnd then
      let _ ← take
      return []
    else misfit .blockEnd (some (.blockMapping, start))

/-- The entries of a list in brackets that starts at a mark. -/
def flowEntries : Nat → Mark → (first : Bool) → Reader (List Node)
  | 0, _, _ => return []
  | fuel + 1, start, first => do
    if (← peekKind) = .flowSequenceEnd then
      let _ ← take
      return []
    unless first do
      if (← peekKind) = .flowEntry then
        let _ ← take
      else misfit .flowSequenceEnd (some (.flowSequence, start))
    let t ← peek
    if t.kind = .flowSequenceEnd then
      let _ ← take
      return []
    let item ←
      if t.kind = .key then do
        let _ ← take
        let key ← nodeOrEmpty fuel .flow endsFlowPairKey t.stop
        let value ← valueOrEmpty fuel .flow endsFlowPairValue
        pure (.map none [(key, value)] t.start)
      else node fuel .flow
    return item :: (← flowEntries fuel start false)

/-- The pairs of a mapping in braces that starts at a mark. -/
def flowPairs : Nat → Mark → (first : Bool) → Reader (List (Node × Node))
  | 0, _, _ => return []
  | fuel + 1, start, first => do
    if (← peekKind) = .flowMappingEnd then
      let _ ← take
      return []
    unless first do
      if (← peekKind) = .flowEntry then
        let _ ← take
      else misfit .flowMappingEnd (some (.flowMapping, start))
    let t ← peek
    if t.kind = .flowMappingEnd then
      let _ ← take
      return []
    if t.kind = .key then
      let _ ← take
      let key ← nodeOrEmpty fuel .flow endsFlowKey t.stop
      let value ← valueOrEmpty fuel .flow endsFlowValue
      return (key, value) :: (← flowPairs fuel start false)
    else
      let key ← node fuel .flow
      let value := .empty (← peek).start
      return (key, value) :: (← flowPairs fuel start false)

end

/-! ## Documents -/

/-- The handles that every document has. -/
def standardHandles : List (Text × Text) := [("!", "!"), ("!!", "tag:yaml.org,2002:")]

/-- Takes the directives before a document. -/
def takeDirectives : Nat → (versionGiven : Bool) → List (Text × Text) → Reader (List (Text × Text))
  | 0, _, handles => return handles
  | fuel + 1, versionGiven, handles => do
    let t ← peek
    match t.kind with
    | .directive d =>
      let _ ← take
      match d with
      | .version major _ =>
        if versionGiven then fail .versionTwice t.start
        if major ≠ 1 then fail .wrongVersion t.start
        takeDirectives fuel true handles
      | .tag handle lead =>
        if (Pairs.find? handle handles).isSome then fail (.handleTwice handle) t.start
        takeDirectives fuel versionGiven (handles ++ [(handle, lead)])
      | .other _ => takeDirectives fuel versionGiven handles
    | _ => return handles

/-- Goes past marks that end documents. -/
def skipDocumentEnds : Nat → Reader Unit
  | 0 => return
  | fuel + 1 => do
    if (← peekKind) = .documentEnd then
      let _ ← take
      skipDocumentEnds fuel

/-- Opens a document by its mark, after its directives; gives where it starts, or nothing
at the end of the stream. -/
def openDocument : Reader (Option Mark) := do
  let fuel := (← get).row.tokens.length + 1
  skipDocumentEnds fuel
  let t ← peek
  if t.kind = .streamEnd then return none
  let handles ← takeDirectives fuel false []
  unless (← peekKind) = .documentStart do misfit .documentStart none
  let _ ← take
  let more := standardHandles.filter fun h => (Pairs.find? h.1 handles).isNone
  modify fun s => { s with handles := handles ++ more }
  return some t.start

/-- The mark or the directive before a document stands next, or nothing is left. -/
def startsExplicitly : Token.Kind → Bool
  | .directive _ | .documentStart | .streamEnd => true
  | _ => false

/-- Nothing stands in a document. -/
def endsDocument : Token.Kind → Bool
  | .directive _ | .documentStart | .documentEnd | .streamEnd => true
  | _ => false

/-- The only document of a stream; nothing if there is none. -/
def document : Reader (Option Node) := do
  let fuel := 4 * (← get).row.tokens.length + 8
  let root ←
    if startsExplicitly (← peekKind) then do
      match ← openDocument with
      | none => pure none
      | some _ => do
        let t ← peek
        pure (some (← if endsDocument t.kind then pure (.empty t.start) else node fuel .entry))
    else do
      modify fun s => { s with handles := standardHandles }
      pure (some (← node fuel .entry))
  match root with
  | none => return none
  | some root =>
    match ← openDocument with
    | none => return some root
    | some start => failReference .secondDocument start (some (.oneDocument, some root.start))

/-- The tree of a document. -/
def ofRow (row : Token.Row) : Except Fault (Option Node) :=
  (document.run { row, anchors := [], handles := [] }).map (·.1)

/-- The tree of a document from what can be read of it. -/
def ofFeed (f : Feed) : Except Fault (Option Node) := ofRow (Token.row f)

end QuerySieve.Yaml.Node
