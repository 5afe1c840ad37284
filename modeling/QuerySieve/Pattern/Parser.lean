-- From the text of a pattern to its tree. The reading goes from left to right
-- with one token known ahead, and the first thing wrong ends it. The descent goes
-- at most four calls down for each token, so a fuel of four times the length of
-- the text is never used up.
import QuerySieve.Pattern.Cursor

namespace QuerySieve.Pattern

/-! ## Escapes -/

/-- The byte that an escaped letter stands for, in a set and outside. -/
def escapedByte? (b : UInt8) : Option UInt8 :=
  if b = 0x61 then some 0x07
  else if b = 0x62 then some 0x08
  else if b = 0x66 then some 0x0C
  else if b = 0x6E then some 0x0A
  else if b = 0x72 then some 0x0D
  else if b = 0x74 then some 0x09
  else if b = 0x76 then some 0x0B
  else if b = 0x5C then some 0x5C
  else none

/-- The class that an escaped letter stands for, and whether it is negated. -/
def escapedClass? (b : UInt8) : Option (Class × Bool) :=
  if b = 0x64 then some (.digit, false)
  else if b = 0x44 then some (.digit, true)
  else if b = 0x73 then some (.space, false)
  else if b = 0x53 then some (.space, true)
  else if b = 0x77 then some (.word, false)
  else if b = 0x57 then some (.word, true)
  else none

/-- The place that an escaped letter stands for. -/
def escapedAnchor? (b : UInt8) : Option Anchor :=
  if b = 0x41 then some .start
  else if b = 0x62 then some .boundary
  else if b = 0x42 then some .noBoundary
  else if b = 0x5A then some .end_
  else none

/-- The text of an escape, with what was read after its letter. -/
def escapeText (b : UInt8) (more : Bytes) : Text := (Token.escaped b).text ++ more.flatMap byteText

/-- Complains about an escape and stands where it starts. -/
def failEscape {α : Type} (cause : Text → Cause) (b : UInt8) (more : Bytes) : Reader α :=
  fail (cause (escapeText b more)) (more.length + 2)

/-- Reads the two digits of a hexadecimal escape. -/
def readHexEscape (b : UInt8) : Reader UInt8 := do
  let digits ← takeWhile isHex 2
  if digits.length = 2 then return (digitsValue 16 digits).toUInt8
  else failEscape .incompleteEscape b digits

/-- The byte of three octal digits. -/
def octalByte (b : UInt8) (more : Bytes) : Reader UInt8 := do
  let value := digitsValue 8 (b :: more)
  if value > 0o377 then failEscape .octalTooLarge b more else return value.toUInt8

/-- Reads an escape inside a set. -/
def readSetEscape (b : UInt8) : Reader Member := do
  if let some c := escapedByte? b then return .byte c
  if let some (c, negated) := escapedClass? b then return .class_ c negated
  if b = 0x78 then return .byte (← readHexEscape b)
  if isOctal b then return .byte (← octalByte b (← takeWhile isOctal 2))
  if isDigit b || isLetter b then failEscape .badEscape b []
  return .byte b

/-- Reads a reference to a group by its number, of one digit or two. -/
def readBackref (b : UInt8) (more : Bytes) : Reader Item := do
  let index := digitsValue 10 (b :: more)
  let s ← get
  if index ≤ s.groups.length then
    match s.closed? index with
    | none => fail .openGroup (more.length + 2)
    | some extent =>
      checkLookbehind index
      return .backref index extent
  else fail (.noSuchGroup index) (more.length + 1)

/-- Reads an escape outside a set. -/
def readEscape (b : UInt8) : Reader Item := do
  if let some a := escapedAnchor? b then return .anchor a
  if let some (c, negated) := escapedClass? b then return .set false [.class_ c negated]
  if let some c := escapedByte? b then return .byte c
  if b = 0x78 then return .byte (← readHexEscape b)
  if b = 0x30 then return .byte (digitsValue 8 (b :: (← takeWhile isOctal 2))).toUInt8
  if isDigit b then
    let second ← takeWhile isDigit 1
    if isOctal b && second.any isOctal then
      let third ← takeWhile isOctal 1
      if third.isEmpty then readBackref b second
      else return .byte (← octalByte b (second ++ third))
    else readBackref b second
  else if isLetter b then failEscape .badEscape b []
  else return .byte b

/-! ## Sets -/

/-- Reads a member of a set from its first token. -/
def readMember : Token → Reader Member
  | .plain b => return .byte b
  | .escaped b => readSetEscape b

/-- Reads the members of a set up to its bracket, after those before. The set
starts at a place. -/
def readMembers (start : Nat) : (fuel : Nat) → List Member → Reader (List Member)
  | 0, _ => failAt .unterminatedSet start
  | fuel + 1, before => do
    let some first ← take | failAt .unterminatedSet start
    if first = .plain 0x5D && !before.isEmpty then return before
    let a ← readMember first
    if ← accept 0x2D then
      let some last ← take | failAt .unterminatedSet start
      if last = .plain 0x5D then return before ++ [a, .byte 0x2D]
      let b ← readMember last
      match a, b with
      | .byte lo, .byte hi =>
        if hi < lo then fail (.badRange first.text last.text) (first.length + 1 + last.length)
        else readMembers start fuel (before ++ [.range lo hi])
      | _, _ => fail (.badRange first.text last.text) (first.length + 1 + last.length)
    else readMembers start fuel (before ++ [a])

/-- Reads a set after its bracket. A set of one byte is that byte. -/
def readSet : Reader Item := do
  let start := (← get).place - 1
  let negated ← accept 0x5E
  let members ← readMembers start ((← get).rest.length + 1) []
  match members.eraseDups with
  | [.byte b] => return if negated then .notByte b else .byte b
  | members => return .set negated members

/-! ## Repetitions -/

/-- No count may reach this. -/
def countLimit : Nat := 0xFFFFFFFF

/-- The number that the digits of a count write. -/
def readCount (digits : Bytes) : Reader Nat := do
  if digits.length > digitLimit then throw (.countTooLong digits.length)
  let n := digitsValue 10 digits
  if n ≥ countLimit then throw .countTooLarge
  return n

/-- Reads the counts between braces, after the first one. Nothing is read when
the braces hold no counts: then the brace is an ordinary byte. -/
def readBraces : Reader (Option (Nat × Option Nat)) := do
  if (← next?) = some (.plain 0x7D) then return none
  let s ← get
  let lo ← takeAll isDigit
  let hi ← if ← accept 0x2C then takeAll isDigit else pure lo
  if ← accept 0x7D then
    let least ← if lo.isEmpty then pure 0 else readCount lo
    if hi.isEmpty then return some (least, none)
    let most ← readCount hi
    if most < least then failAt .countsReversed s.place
    return some (least, some most)
  else
    set s
    return none

/-- Reads the mark after a quantifier that says how eager it is. -/
def readGreed : Reader Greed := do
  if ← accept 0x3F then return .lazy
  if ← accept 0x2B then return .possessive
  return .greedy

/-- Repeats the last item of a row that is kept with the last item first. The
quantifier stands at a place. -/
def repeatLast (place least : Nat) (most : Option Nat) (row : List Item) : Reader (List Item) := do
  match row with
  | [] => failAt .nothingToRepeat place
  | .anchor _ :: _ => failAt .nothingToRepeat place
  | .repeated _ _ _ _ :: _ => failAt .repeatedRepeat place
  | item :: row =>
    let body := item.plainGroup?.getD [item]
    return .repeated (← readGreed) least most body :: row

/-! ## Options inside the text -/

def optionOf? (b : UInt8) : Option Options :=
  if b = 0x69 then some { ignoreCase := true }
  else if b = 0x4C then some { locale := true }
  else if b = 0x6D then some { multiline := true }
  else if b = 0x73 then some { dotAll := true }
  else if b = 0x78 then some { verbose := true }
  else if b = 0x61 then some { ascii := true }
  else if b = 0x74 then some { template := true }
  else if b = 0x75 then some { unicode := true }
  else none

/-- Complains about a token in place of an option: a letter is an unknown one. -/
def failOption {α : Type} (t : Token) (missing : Cause) : Reader α :=
  match t with
  | .plain b => fail (if isLatinLetter b.toNat then .unknownOption else missing) 1
  | .escaped _ => fail missing 2

/-- Reads the options that a group turns on, from the letter of the first one on.
Gives them with the byte that ends them. -/
def readOn : (fuel : Nat) → Options → UInt8 → Reader (Options × UInt8)
  | 0, _, _ => fail .missingOptionEnd
  | fuel + 1, on, letter => do
    let option := (optionOf? letter).getD {}
    if option.unicode then fail .unicodeOption
    let on := on.union option
    if option.letterKinds ≠ {} && on.letterKinds ≠ option then fail .letterKindsClash
    match ← take with
    | none => fail .missingOptionEnd
    | some (.plain b) =>
      if b = 0x29 || b = 0x2D || b = 0x3A then return (on, b)
      else if (optionOf? b).isSome then readOn fuel on b
      else failOption (.plain b) .missingOptionEnd
    | some t => failOption t .missingOptionEnd

/-- Reads the options that a group turns off, from the letter of the first one
on. -/
def readOff : (fuel : Nat) → Options → UInt8 → Reader Options
  | 0, _, _ => fail .missingColon
  | fuel + 1, off, letter => do
    let option := (optionOf? letter).getD {}
    if option.letterKinds ≠ {} then fail .letterKindOff
    let off := off.union option
    match ← take with
    | none => fail .missingColon
    | some (.plain b) =>
      if b = 0x3A then return off
      else if (optionOf? b).isSome then readOff fuel off b
      else failOption (.plain b) .missingColon
    | some t => failOption t .missingColon

/-- Reads options from their first byte on. Either they are for the whole pattern,
and nothing is given, or they open a group. -/
def readOptions (first : UInt8) : Reader (Option (Options × Options)) := do
  let fuel := (← get).rest.length + 1
  let (on, last) ← if first = 0x2D then pure ({}, first) else readOn fuel {} first
  if last = 0x29 then
    modify fun s => { s with options := s.options.union on }
    return none
  if on.template then fail .globalOptionOn 1
  let off ←
    if last = 0x2D then
      match ← take with
      | none => fail .missingOption
      | some (.plain b) =>
        if (optionOf? b).isSome then readOff fuel {} b else failOption (.plain b) .missingOption
      | some t => failOption t .missingOption
    else pure {}
  if off.template then fail .globalOptionOff 1
  if on.minus (on.minus off) ≠ {} then fail .optionOnAndOff 1
  return some (on, off)

/-! ## Alternatives -/

/-- The first item of every sequence, if all have the same one. -/
def commonHead? : List (List Item) → Option Item
  | [] => none
  | first :: others =>
    match first with
    | [] => none
    | head :: _ =>
      if others.all fun s => (s.head?.map head.sameLeaf).getD false then some head else none

/-- Takes the items that all sequences start with out of them. -/
def factor : (fuel : Nat) → List (List Item) → List Item × List (List Item)
  | 0, alternatives => ([], alternatives)
  | fuel + 1, alternatives =>
    match commonHead? alternatives with
    | none => ([], alternatives)
    | some head =>
      let (heads, tails) := factor fuel (alternatives.map (·.drop 1))
      (head :: heads, tails)

/-- The members of a sequence that is one byte or one set. -/
def asMembers? : List Item → Option (List Member)
  | [.byte b] => some [.byte b]
  | [.set false members] => some members
  | _ => none

/-- Alternatives as one sequence: what all start with comes first, and single
bytes and sets become one set. -/
def joinAlternatives : List (List Item) → List Item
  | [] => []
  | [s] => s
  | s :: ss =>
    let (heads, tails) := factor (s.length + 1) (s :: ss)
    match tails.mapM asMembers? with
    | some sets => heads ++ [.set false sets.flatten.eraseDups]
    | none => heads ++ [.branch tails]

/-! ## Sequences and groups -/

/-- Skips a comment up to the end of its line. -/
def skipComment : (fuel : Nat) → Reader Unit
  | 0 => return
  | fuel + 1 => do
    match ← take with
    | none => return
    | some t => if t = .plain 0x0A then return else skipComment fuel

/-- Skips a comment in a group that starts at a place. -/
def skipCommentGroup (start : Nat) : (fuel : Nat) → Reader Unit
  | 0 => failAt .unterminatedComment start
  | fuel + 1 => do
    match ← take with
    | none => failAt .unterminatedComment start
    | some t => if t = .plain 0x29 then return else skipCommentGroup start fuel

/-- Ends a group that starts at a place. -/
def endGroup (start : Nat) : Reader Unit := do
  unless ← accept 0x29 do failAt .unterminatedGroup start

/-- No group has a number as large as this. -/
def groupLimit : Nat := 0x3FFFFFFF

/-- The number of the group that a condition asks for. -/
def readCondition : Reader Nat := do
  let name ← takeName 0x29
  let index ←
    if isIdentifier name then
      match (← get).names.find? (·.1 = name) with
      | some (_, index) => pure index
      | none => fail (.unknownGroupName name) (name.length + 1)
    else
      match readInt? name with
      | some (.ofNat 0) => fail .badGroupNumber (name.length + 1)
      | some (.ofNat index) =>
        if groupLimit ≤ index then fail (.noSuchGroup index) (name.length + 1)
        modify fun s =>
          if s.asked.any (·.1 = index) then s
          else { s with asked := s.asked ++ [(index, s.place - name.length - 1)] }
        pure index
      | _ => fail (.badGroupName name) (name.length + 1)
  checkLookbehind index
  return index

/-- Reads a reference to a group by its name. -/
def readNamedBackref : Reader Item := do
  let name ← takeName 0x29
  if !isIdentifier name then fail (.badGroupName name) (name.length + 1)
  let s ← get
  match s.names.find? (·.1 = name) with
  | none => fail (.unknownGroupName name) (name.length + 1)
  | some (_, index) =>
    match s.closed? index with
    | none => fail .openGroup (name.length + 1)
    | some extent =>
      checkLookbehind index
      return .backref index extent

/-- Marks where a lookbehind starts and runs a step in it. -/
def insideLookbehind {α : Type} (step : Reader α) : Reader α := do
  let outer := (← get).beforeLookbehind
  if outer.isNone then
    modify fun s => { s with beforeLookbehind := some s.groups.length }
  let a ← step
  if outer.isNone then modify fun s => { s with beforeLookbehind := none }
  return a

mutual

/-- Reads alternatives up to the end of the group or of the pattern. The first
alternative of the whole pattern may turn options on. -/
def readAlternatives (fuel : Nat) (verbose outermost first : Bool) : Reader (List (List Item)) := do
  match fuel with
  | 0 => return []
  | fuel + 1 =>
    let s ← readItems fuel verbose (outermost && first) []
    if ← accept 0x7C then
      let whole := (← get).options.verbose
      return s :: (← readAlternatives fuel (if outermost then whole else verbose) outermost false)
    else return [s]

/-- Reads the items of one alternative, after a row that is kept with the last
item first. -/
def readItems (fuel : Nat) (verbose first : Bool) (row : List Item) : Reader (List Item) := do
  match fuel with
  | 0 => return row.reverse
  | fuel + 1 =>
    let done : Reader (List Item) :=
      return row.reverse.flatMap fun i => i.plainGroup?.getD [i]
    match ← next? with
    | none => done
    | some (.escaped b) =>
      let _ ← take
      readItems fuel verbose first ((← readEscape b) :: row)
    | some (.plain b) =>
      if b = 0x7C || b = 0x29 then done
      else
        let place := (← get).place
        let _ ← take
        if verbose && isSpace b then readItems fuel verbose first row
        else if verbose && b = 0x23 then
          skipComment ((← get).rest.length + 1)
          readItems fuel verbose first row
        else if b = 0x5B then readItems fuel verbose first ((← readSet) :: row)
        else if b = 0x3F then
          readItems fuel verbose first (← repeatLast place 0 (some 1) row)
        else if b = 0x2A then readItems fuel verbose first (← repeatLast place 0 none row)
        else if b = 0x2B then readItems fuel verbose first (← repeatLast place 1 none row)
        else if b = 0x7B then
          match ← readBraces with
          | none => readItems fuel verbose first (.byte b :: row)
          | some (least, most) =>
            readItems fuel verbose first (← repeatLast place least most row)
        else if b = 0x2E then readItems fuel verbose first (.any :: row)
        else if b = 0x5E then readItems fuel verbose first (.anchor .lineStart :: row)
        else if b = 0x24 then readItems fuel verbose first (.anchor .lineEnd :: row)
        else if b = 0x28 then
          match ← readGroup fuel verbose (first && row.isEmpty) place with
          | some item => readItems fuel verbose first (item :: row)
          | none =>
            -- A comment, or options for the whole pattern.
            let whole := (← get).options.verbose
            readItems fuel (verbose || (first && row.isEmpty && whole)) first row
        else readItems fuel verbose first (.byte b :: row)

/-- Reads a group after its parenthesis, which stands at a place. A comment and
options for the whole pattern give no item. -/
def readGroup (fuel : Nat) (verbose first : Bool) (start : Nat) : Reader (Option Item) := do
  match fuel with
  | 0 => return none
  | fuel + 1 =>
    if !(← accept 0x3F) then
      let index ← openGroup none
      let body ← readBody fuel verbose
      endGroup start
      closeGroup index body
      return some (.group (some index) {} {} body)
    match ← take with
    | none => fail .endOfPattern
    | some (.escaped b) => fail (.unknownExtension ("?" ++ (Token.escaped b).text)) 3
    | some (.plain b) =>
      if b = 0x50 then
        if ← accept 0x3C then
          let name ← takeName 0x3E
          if !isIdentifier name then fail (.badGroupName name) (name.length + 1)
          let index ← openGroup (some name)
          let body ← readBody fuel verbose
          endGroup start
          closeGroup index body
          return some (.group (some index) {} {} body)
        else if ← accept 0x3D then return some (← readNamedBackref)
        else
          match ← take with
          | none => fail .endOfPattern
          | some t => fail (.unknownExtension ("?P" ++ t.text)) (t.length + 2)
      else if b = 0x3A then
        let body ← readBody fuel verbose
        endGroup start
        return some (.group none {} {} body)
      else if b = 0x23 then
        skipCommentGroup start ((← get).rest.length + 1)
        return none
      else if b = 0x3D || b = 0x21 then
        let body ← readBody fuel verbose
        endGroup start
        return some (.look none (b = 0x21) body)
      else if b = 0x3C then
        match ← take with
        | none => fail .endOfPattern
        | some t =>
          if t ≠ .plain 0x3D && t ≠ .plain 0x21 then
            fail (.unknownExtension ("?<" ++ t.text)) (t.length + 2)
          let body ← insideLookbehind (readBody fuel verbose)
          endGroup start
          return some (.look (some (extentOf body)) (t = .plain 0x21) body)
      else if b = 0x28 then
        let index ← readCondition
        let yes ← readItems fuel verbose false []
        let no ← if ← accept 0x7C then
            let no ← readItems fuel verbose false []
            if (← next?) = some (.plain 0x7C) then fail .thirdBranch
            pure (some no)
          else pure none
        endGroup start
        return some (.cond index yes no)
      else if b = 0x3E then
        let body ← readBody fuel verbose
        endGroup start
        return some (.atomic body)
      else if (optionOf? b).isSome || b = 0x2D then
        match ← readOptions b with
        | none => if first then return none else failAt .optionsNotFirst start
        | some (on, off) =>
          let body ← readBody fuel ((verbose || on.verbose) && !off.verbose)
          endGroup start
          return some (.group none on off body)
      else fail (.unknownExtension ("?" ++ (Token.plain b).text)) 2

/-- Reads what stands in a group. -/
def readBody (fuel : Nat) (verbose : Bool) : Reader (List Item) := do
  match fuel with
  | 0 => return []
  | fuel + 1 => return joinAlternatives (← readAlternatives fuel verbose false true)

end

/-! ## Whole patterns -/

mutual

/-- What a tree asks for that cannot be: a lookbehind without a fixed extent, or a
repetition under the template option. The first in the order of the text. -/
def Item.flaw? (template : Bool) : Item → Option Cause
  | .byte _ | .notByte _ | .set _ _ | .any | .anchor _ | .backref _ _ => none
  | .group _ _ _ body | .atomic body => flawIn? template body
  | .repeated greed _ _ body =>
    if template then
      some (.templateRepeat (match greed with
        | .greedy => "MAX_REPEAT"
        | .lazy => "MIN_REPEAT"
        | .possessive => "POSSESSIVE_REPEAT"))
    else flawIn? template body
  | .look back _ body =>
    match back with
    | none => flawIn? template body
    | some e =>
      if e.least > countLimit then some .lookbehindTooFar
      else if e.least ≠ e.most then some .lookbehindNotFixed
      else flawIn? template body
  | .branch alternatives => flawInAny? template alternatives
  | .cond _ yes no =>
    (flawIn? template yes).or (match no with
      | none => none
      | some items => flawIn? template items)

def flawIn? (template : Bool) : List Item → Option Cause
  | [] => none
  | i :: is => (i.flaw? template).or (flawIn? template is)

def flawInAny? (template : Bool) : List (List Item) → Option Cause
  | [] => none
  | s :: ss => (flawIn? template s).or (flawInAny? template ss)

end

/-- Reads a whole pattern. -/
def readWhole : Reader (List Item) := do
  refuseDangling
  let s ← get
  let alternatives ← readAlternatives (4 * s.rest.length + 4) s.options.verbose true true
  let s ← get
  if s.options.ascii && s.options.locale then throw .letterKinds
  if s.next?.isSome then fail .unbalanced
  for (index, place) in s.asked do
    if index > s.groups.length then failAt (.noSuchGroup index) place
  return joinAlternatives alternatives

/-- The tree of a pattern and the options of the whole of it. -/
def parse (options : Options) (source : Bytes) : Except Complaint (List Item × Options) := do
  let (items, s) ← readWhole.run ⟨source, 0, options, [], [], none, []⟩
  match flawIn? s.options.template items with
  | some cause => throw (.malformed cause none)
  | none => return (items, s.options)

end QuerySieve.Pattern
