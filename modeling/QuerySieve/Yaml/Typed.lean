-- Reading a tree with every scalar as what its tag or its form says. A mapping can
-- take in the pairs of others. The nodes are checked level by level, the outer ones
-- first, so the fault that is met is the first one of the outermost level that has
-- any.
import QuerySieve.Text.Lowercase
import QuerySieve.Value
import QuerySieve.Yaml.Binary
import QuerySieve.Yaml.Form
import QuerySieve.Yaml.Plain

namespace QuerySieve.Yaml.Node

/-- A kind of node as messages name it. -/
def kindName : Node → Text
  | .scalar _ _ _ _ => "scalar"
  | .list _ _ _ => "sequence"
  | .map _ _ _ | .loop _ => "mapping"

/-! ## Scalars -/

/-- The text of a node that is read as a scalar. A mapping may hold it under a key for its
value. -/
def scalarText : Node → Except Fault Text
  | .scalar _ _ text _ => .ok text
  | .map _ pairs start => go pairs start
  | n => refuse (.nodeKind "scalar" n.kindName) n.start
where
  /-- Looks for the key. -/
  go : List (Node × Node) → Mark → Except Fault Text
    | [], start => refuse (.nodeKind "scalar" "mapping") start
    | (k, v) :: ps, start => if k.sort? = some .value then scalarText v else go ps start

/-- The truth value of a word. -/
def truth (t : Text) : Except Fault Value :=
  match Pairs.find? t.lower Form.truths with
  | some b => .ok (.bool b)
  | none => .error (.scalar (.notBool t.lower))

/-- A timestamp stands for itself; it only has to be one. -/
def timestamp (t : Text) : Except Fault Value :=
  match Timestamp.ofText? (Form.body t) with
  | none => .error (.scalar .notTimestamp)
  | some s =>
    match s.fault? with
    | some f => .error (.scalar f)
    | none => .ok .other

/-- The octets that a scalar at a mark writes. -/
def binary (t : Text) (start : Mark) : Except Fault Value :=
  match Binary.decode t with
  | .ok b => .ok (.bytes b)
  | .error problem => refuse problem start

/-- Takes a result or ends in the fault of a scalar. -/
def orScalarFault {α : Type} : Except ScalarFault α → Except Fault α
  | .ok a => .ok a
  | .error f => .error (.scalar f)

/-- The value of a node that is read as a scalar of a sort; nothing for other sorts. -/
def scalarValue? (n : Node) : Sort_ → Option (Except Fault Value)
  | .null => some do
    let _ ← scalarText n
    return .null
  | .bool => some do truth (← scalarText n)
  | .int => some do return .int (← orScalarFault (Number.whole (← scalarText n)))
  | .real => some do return .real (← orScalarFault (Number.real (← scalarText n)))
  | .timestamp => some do timestamp (← scalarText n)
  | .binary => some do binary (← scalarText n) n.start
  | .text => some do return .text (← scalarText n)
  | _ => none

/-! ## Merging -/

/-- A key for the value of a mapping counts as text between other keys. -/
def plainKey (k : Node) : Node :=
  match k with
  | .scalar _ _ text start =>
    if k.sort? = some .value then .scalar (some Sort_.text.tag) false text start else k
  | k => k

mutual

/-- The pairs of a mapping that starts at a mark, after the pairs that it takes in.
Both kinds apart. -/
def mergedPairs (start : Mark) :
    List (Node × Node) → Except Fault (List (Node × Node) × List (Node × Node))
  | [] => .ok ([], [])
  | (k, v) :: ps => do
    if k.sort? = some .merge then
      let taken ← mergeSource start v
      let (more, own) ← mergedPairs start ps
      return (taken ++ more, own)
    else
      let (taken, own) ← mergedPairs start ps
      return (taken, (plainKey k, v) :: own)

/-- The pairs that a mapping takes in from a node. -/
def mergeSource (start : Mark) : Node → Except Fault (List (Node × Node))
  | .map _ pairs own => do
    let (taken, kept) ← mergedPairs own pairs
    return taken ++ kept
  | .list _ items _ => mergeItems start items
  | .loop _ => .ok []
  | .scalar _ _ _ here => refuse (.mergeSource "scalar") here (some (.buildingMapping, some start))

/-- The pairs that a mapping takes in from a list of mappings, those of the last one first. -/
def mergeItems (start : Mark) : List Node → Except Fault (List (Node × Node))
  | [] => .ok []
  | .map _ pairs own :: ns => do
    let (taken, kept) ← mergedPairs own pairs
    let rest ← mergeItems start ns
    return rest ++ taken ++ kept
  | .loop _ :: ns => mergeItems start ns
  | n :: _ => refuse (.mergeItem n.kindName) n.start (some (.buildingMapping, some start))

end

/-- The pairs of a mapping that starts at a mark, those that it takes in first. -/
def allPairs (start : Mark) (pairs : List (Node × Node)) : Except Fault (List (Node × Node)) := do
  let (taken, own) ← mergedPairs start pairs
  return taken ++ own

/-! ## Levels -/

/-- Sorts whose nodes are opened after the level that they stand in. -/
def opensLater : Sort_ → Bool
  | .list | .map | .orderedMap | .pairs | .set => true
  | _ => false

/-- Checks a node as part of its level; what it has to be opened for comes later. -/
def checkShallow (n : Node) : Except Fault (List Node) :=
  match n with
  | .loop _ => .ok []
  | n =>
    match n.sort? with
    | none => refuse (.noReading n.tagName) n.start
    | some s =>
      match scalarValue? n s with
      | some (.ok _) => .ok []
      | some (.error e) => .error e
      | none => if opensLater s then .ok [n] else refuse (.noReading n.tagName) n.start

/-- Checks nodes in order. -/
def checkAll : List Node → Except Fault (List Node)
  | [] => .ok []
  | n :: ns => do
    let later ← checkShallow n
    return later ++ (← checkAll ns)

/-- Whether a node can only be a value and no key. -/
def isCollection (n : Node) : Bool :=
  match n with
  | .loop _ => true
  | n => n.sort?.any opensLater

/-- Checks the keys and the values of a mapping that starts at a mark. -/
def checkPairs (start : Mark) : List (Node × Node) → Except Fault (List Node)
  | [] => .ok []
  | (k, v) :: ps => do
    let _ ← checkShallow k
    if isCollection k then refuse .unhashableKey k.start (some (.buildingMapping, some start))
    let later ← checkShallow v
    return later ++ (← checkPairs start ps)

/-- Checks the items of an ordered map, or of a list of pairs, that starts at a mark. -/
def checkSinglePairs (activity : Activity) (start : Mark) : List Node → Except Fault (List Node)
  | [] => .ok []
  | .map _ [(k, v)] _ :: ns => do
    let later ← checkShallow k
    let more ← checkShallow v
    return later ++ more ++ (← checkSinglePairs activity start ns)
  | .map _ pairs here :: _ => refuse (.pairCount pairs.length) here (some (activity, some start))
  | n :: _ => refuse (.notPair n.kindName) n.start (some (activity, some start))

/-- Opens a node, and checks what is in it. -/
def open_ (n : Node) : Except Fault (List Node) :=
  match n.sort?, n with
  | some .list, .list _ items _ => checkAll items
  | some .list, n => refuse (.nodeKind "sequence" n.kindName) n.start
  | some .orderedMap, .list _ items start => checkSinglePairs .orderedMap start items
  | some .orderedMap, n => refuse (.notList n.kindName) n.start (some (.orderedMap, some n.start))
  | some .pairs, .list _ items start => checkSinglePairs .pairs start items
  | some .pairs, n => refuse (.notList n.kindName) n.start (some (.pairs, some n.start))
  | _, .map _ pairs start => do checkPairs start (← allPairs start pairs)
  | _, n => refuse (.nodeKind "mapping" n.kindName) n.start

/-- Opens the nodes of a level in order. -/
def openAll : List Node → Except Fault (List Node)
  | [] => .ok []
  | n :: ns => do
    let later ← open_ n
    return later ++ (← openAll ns)

/-- Opens level after level, at most so many. -/
def checkLevels : Nat → List Node → Except Fault Unit
  | _, [] => .ok ()
  | 0, _ => .ok ()
  | fuel + 1, ns => do checkLevels fuel (← openAll ns)

mutual

/-- How many levels a node has. -/
def depth : Node → Nat
  | .list _ items _ => depthItems items + 1
  | .map _ pairs _ => depthPairs pairs + 1
  | .scalar _ _ _ _ | .loop _ => 0

def depthItems : List Node → Nat
  | [] => 0
  | n :: ns => max (depth n) (depthItems ns)

def depthPairs : List (Node × Node) → Nat
  | [] => 0
  | (k, v) :: ps => max (max (depth k) (depth v)) (depthPairs ps)

end

/-- Checks a whole tree. -/
def check (n : Node) : Except Fault Unit := do checkLevels (n.depth + 1) (← checkShallow n)

/-! ## Values -/

mutual

/-- The collection that starts at a mark, an outer one before those in it. -/
def collection? (m : Mark) : Node → Option Node
  | .list tag items start =>
    if start = m then some (.list tag items start) else collectionOfItems? m items
  | .map tag pairs start =>
    if start = m then some (.map tag pairs start) else collectionOfPairs? m pairs
  | .scalar _ _ _ _ | .loop _ => none

def collectionOfItems? (m : Mark) : List Node → Option Node
  | [] => none
  | n :: ns => (collection? m n).or (collectionOfItems? m ns)

def collectionOfPairs? (m : Mark) : List (Node × Node) → Option Node
  | [] => none
  | (k, v) :: ps => ((collection? m k).or (collection? m v)).or (collectionOfPairs? m ps)

end

/-- The value of a node of a tree that passed its check, at most so many levels of it. A
loop goes on with the collection of the tree that it leads back to, but once only; nothing
reads what is any deeper. Pairs whose keys are no text are left out. -/
def typed : Nat → (tree : Option Node) → Node → Value
  | 0, _, _ => .other
  | fuel + 1, tree, .loop start =>
    match tree.bind (collection? start) with
    | some n => typed fuel none n
    | none => .other
  | fuel + 1, tree, n =>
    match n.sort?, n with
    | some .list, .list _ items _ => .list (items.map (typed fuel tree))
    | some .map, .map _ pairs start =>
      match allPairs start pairs with
      | .error _ => .other
      | .ok pairs =>
        .map (Pairs.table (pairs.filterMap fun p =>
          match typed fuel tree p.1 with
          | .text key => some (key, typed fuel tree p.2)
          | _ => none))
    | some s, n =>
      match scalarValue? n s with
      | some (.ok v) => v
      | _ => .other
    | none, _ => .other

/-- The value of a document; an empty stream is null. -/
def typedDocument (f : Feed) : Except Fault Value :=
  match ofFeed f with
  | .error e => .error e
  | .ok none => .ok .null
  | .ok (some n) =>
    match check n with
    | .error e => .error e
    | .ok () => .ok (typed (2 * n.depth + 2) (some n) n)

end QuerySieve.Yaml.Node
