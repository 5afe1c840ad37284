-- Reading the text of a pattern. The text is a row of tokens, each a byte or a
-- backslash with the byte after it, and one token is always known ahead; a
-- backslash that ends the text is refused as soon as it comes up.
import QuerySieve.Pattern.Complaint
import QuerySieve.Pattern.Syntax

namespace QuerySieve.Pattern

/-! ## Tokens -/

inductive Token
  | plain (b : UInt8)
  | escaped (b : UInt8)
  deriving DecidableEq, Repr

def Token.length : Token → Nat
  | .plain _ => 1
  | .escaped _ => 2

/-- A byte as a code point of the same number. -/
def byteText (b : UInt8) : Text := [CodePoint.ofNat b.toNat]

def Token.text : Token → Text
  | .plain b => byteText b
  | .escaped b => "\\" ++ byteText b

/-! ## The state of a reader -/

structure State where
  /-- What was not read yet. -/
  rest : Bytes
  /-- How much was read. -/
  place : Nat
  /-- The options of the whole pattern, as far as it was read. -/
  options : Options
  /-- The extents of the groups so far, none for an open one. -/
  groups : List (Option Extent)
  names : List (Text × Nat)
  /-- The number of groups before the outermost open lookbehind. -/
  beforeLookbehind : Option Nat
  /-- The group numbers that conditions ask for, and where each stands first. -/
  asked : List (Nat × Nat)

/-- A step of reading, which may end in a complaint. -/
abbrev Reader := StateT State (Except Complaint)

def failAt {α : Type} (cause : Cause) (place : Nat) : Reader α :=
  throw (.malformed cause (some place))

/-- Complains some bytes before the next token. -/
def fail {α : Type} (cause : Cause) (back : Nat := 0) : Reader α := do
  failAt cause ((← get).place - back)

/-- The next token. -/
def State.next? (s : State) : Option Token :=
  match s.rest with
  | [] => none
  | [b] => some (.plain b)
  | b :: c :: _ => if b = 0x5C then some (.escaped c) else some (.plain b)

def next? : Reader (Option Token) := return (← get).next?

/-- Refuses a backslash that ends the text. -/
def refuseDangling : Reader Unit := do
  let s ← get
  if s.rest = [0x5C] then failAt .danglingEscape s.place

/-- Takes the next token. -/
def take : Reader (Option Token) := do
  let s ← get
  match s.next? with
  | none => return none
  | some t =>
    set { s with rest := s.rest.drop t.length, place := s.place + t.length }
    refuseDangling
    return some t

/-- Takes the next token if it is a byte. -/
def accept (b : UInt8) : Reader Bool := do
  if (← next?) = some (.plain b) then
    let _ ← take
    return true
  else return false

/-- Takes at most so many bytes that pass a test. -/
def takeWhile (test : UInt8 → Bool) : Nat → Reader Bytes
  | 0 => return []
  | n + 1 => do
    match ← next? with
    | some (.plain b) =>
      if test b then
        let _ ← take
        return b :: (← takeWhile test n)
      else return []
    | _ => return []

/-- Takes bytes as long as they pass a test. -/
def takeAll (test : UInt8 → Bool) : Reader Bytes := do takeWhile test (← get).rest.length

/-- Takes a name and the byte that ends it. -/
def takeName (terminator : UInt8) : Reader Text := do go (← get).rest.length []
where
  /-- Goes on with what was read so far. -/
  go : Nat → Text → Reader Text
    | 0, name => unended name
    | fuel + 1, name => do
      match ← take with
      | none => unended name
      | some t =>
        if t = .plain terminator then
          if name.isEmpty then fail .missingGroupName 1 else return name
        else go fuel (name ++ t.text)
  /-- No terminator was found. -/
  unended (name : Text) : Reader Text :=
    if name.isEmpty then fail .missingGroupName
    else fail (.unterminatedName (byteText terminator)) name.length

/-! ## Kinds of bytes -/

def isDigit (b : UInt8) : Bool := 0x30 ≤ b && b ≤ 0x39
def isOctal (b : UInt8) : Bool := 0x30 ≤ b && b ≤ 0x37
def isHex (b : UInt8) : Bool :=
  isDigit b || (0x41 ≤ b && b ≤ 0x46) || (0x61 ≤ b && b ≤ 0x66)
def isLetter (b : UInt8) : Bool := (0x41 ≤ b && b ≤ 0x5A) || (0x61 ≤ b && b ≤ 0x7A)

/-- Space, tab, line feed, carriage return, vertical tab and form feed. -/
def isSpace (b : UInt8) : Bool := b = 0x20 || (0x09 ≤ b && b ≤ 0x0D)

/-- Letters, digits and the underscore. -/
def isWord (b : UInt8) : Bool := isLetter b || isDigit b || b = 0x5F

/-- A code point below 256 that is a letter. -/
def isLatinLetter (n : Nat) : Bool :=
  (0x41 ≤ n && n ≤ 0x5A) || (0x61 ≤ n && n ≤ 0x7A) || n = 0xAA || n = 0xB5 || n = 0xBA
    || (0xC0 ≤ n && n ≤ 0xFF && n != 0xD7 && n != 0xF7)

def hexValue (b : UInt8) : Nat :=
  if isDigit b then b.toNat - 0x30 else b.toNat % 32 + 9

/-- The number that digits of a base write. -/
def digitsValue (base : Nat) (digits : Bytes) : Nat :=
  digits.foldl (fun n b => n * base + hexValue b) 0

/-- The name of a group: a letter or an underscore, then also digits. -/
def isIdentifier : Text → Bool
  | [] => false
  | c :: name =>
    (isLatinLetter c.val || c = '_')
      && name.all fun d => isLatinLetter d.val || d = '_' || d.isAsciiDigit || d.val = 0xB7

/-! ## Numbers in names -/

/-- A blank around a number. -/
def isNumberBlank (c : CodePoint) : Bool :=
  (0x09 ≤ c.val && c.val ≤ 0x0D) || (0x1C ≤ c.val && c.val ≤ 0x20) || c.val = 0x85 || c.val = 0xA0

/-- Digits, with single underscores between them. -/
def spacedDigits? : Text → Option (List Nat)
  | [] => none
  | [c] => if c.isAsciiDigit then some [c.val - 0x30] else none
  | c :: d :: t =>
    if c.isAsciiDigit then
      if d = '_' then (spacedDigits? t).map ((c.val - 0x30) :: ·)
      else (spacedDigits? (d :: t)).map ((c.val - 0x30) :: ·)
    else none

/-- The most digits that a number may have. -/
def digitLimit : Nat := 4300

/-- A whole number with an optional sign and blanks around it. -/
def readInt? (t : Text) : Option Int :=
  let t := ((t.dropWhile isNumberBlank).reverse.dropWhile isNumberBlank).reverse
  let (negative, digits) := match t with
    | [] => (false, [])
    | c :: r => if c = '-' then (true, r) else if c = '+' then (false, r) else (false, c :: r)
  match spacedDigits? digits with
  | none => none
  | some ds =>
    if ds.length > digitLimit then none
    else
      let n : Nat := ds.foldl (fun n d => n * 10 + d) 0
      some (if negative then - (n : Int) else n)

/-! ## Groups -/

/-- A group that was opened and closed. -/
def State.closed? (s : State) (index : Nat) : Option Extent :=
  if index = 0 then none else (s.groups[index - 1]?).bind id

/-- Inside a lookbehind only closed groups from before it can be asked for. -/
def checkLookbehind (index : Nat) : Reader Unit := do
  let s ← get
  match s.beforeLookbehind with
  | none => return
  | some before =>
    if (s.closed? index).isNone then fail .openGroup
    if index > before then fail .groupInLookbehind

/-- Opens the next group, under a name if it has one. -/
def openGroup (name : Option Text) : Reader Nat := do
  let s ← get
  let index := s.groups.length + 1
  match name with
  | none => set { s with groups := s.groups ++ [none] }
  | some name =>
    match s.names.find? (·.1 = name) with
    | some (_, before) => fail (.groupNameTaken name index before) (name.length + 1)
    | none =>
      set { s with groups := s.groups ++ [none], names := s.names ++ [(name, index)] }
  return index

/-- Closes a group around what was read in it. -/
def closeGroup (index : Nat) (body : List Item) : Reader Unit :=
  modify fun s => { s with groups := s.groups.set (index - 1) (some (extentOf body)) }

end QuerySieve.Pattern
