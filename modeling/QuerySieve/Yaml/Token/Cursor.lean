-- The state of a reader that cuts a document into tokens, and the steps it goes
-- by. The end of a document reads as a zero, which no document holds.
import QuerySieve.Yaml.Feed
import QuerySieve.Yaml.Token

namespace QuerySieve.Yaml.Token

/-! ## State -/

/-- A place where a key may have started, to be told by a colon after it. -/
structure KeyStart where
  /-- How many tokens come before the key. -/
  number : Nat
  /-- Nothing but a key can stand there. -/
  required : Bool
  mark : Mark
  deriving DecidableEq, Repr

structure State where
  rest : Text
  mark : Mark
  /-- What is met at the end of the rest, if it is not the end of the document. -/
  broken : Option Fault
  /-- Tokens that were read and not handed out, the oldest first. -/
  queue : List Token
  /-- How many tokens were handed out. -/
  taken : Nat
  /-- The end was read. -/
  done : Bool
  /-- How many brackets are open. -/
  flow : Nat
  /-- The column of the innermost block collection, below zero outside of all. -/
  indent : Int
  /-- The columns of the block collections around it. -/
  indents : List Int
  /-- A key without a question mark may start here. -/
  keyAllowed : Bool
  /-- The places where a key may have started, by the number of brackets open. -/
  keyStarts : List (Nat × KeyStart)

def State.start (f : Feed) : State where
  rest := f.text
  mark := .start
  broken := f.broken
  queue := []
  taken := 0
  done := false
  flow := 0
  indent := -1
  indents := []
  keyAllowed := true
  keyStarts := []

/-- A step of reading, which may end in a fault. -/
abbrev Reader := StateT State (Except Fault)

/-- Complains at the current place. -/
def fail {α : Type} (problem : Problem) (during : Option (Activity × Option Mark)) : Reader α := do
  throw (.complaint { stage := .tokens, during, problem, mark := (← get).mark })

/-- Complains about an activity that started at a mark. -/
def failSince {α : Type} (activity : Activity) (since : Mark) (problem : Problem) : Reader α :=
  fail problem (some (activity, some since))

/-! ## Kinds of code points -/

/-- Stands for the end of the document. -/
def ending : CodePoint := CodePoint.ofNat 0

def lineFeed : CodePoint := '\n'

def isBreakOrEnd (c : CodePoint) : Bool := c = ending || isBreak c
def isSpaceBreakOrEnd (c : CodePoint) : Bool := c = ' ' || isBreakOrEnd c
def isBlank (c : CodePoint) : Bool := c = ' ' || c = '\t'
def isBlankBreakOrEnd (c : CodePoint) : Bool := isBlank c || isBreakOrEnd c

def isOneOf (chars : String) (c : CodePoint) : Bool := (Text.ofString chars).contains c

/-- Letters, digits, the dash and the underscore. -/
def isNameChar (c : CodePoint) : Bool :=
  c.isAsciiUpper || c.isAsciiLower || c.isAsciiDigit || c = '-' || c = '_'

def isHex (c : CodePoint) : Bool :=
  c.isAsciiDigit || (0x41 ≤ c.val && c.val ≤ 0x46) || (0x61 ≤ c.val && c.val ≤ 0x66)

/-- The value of a hexadecimal digit. -/
def hexValue (c : CodePoint) : Nat := if c.isAsciiDigit then c.val - 0x30 else c.val % 32 + 9

/-! ## Looking ahead -/

/-- Ends the reading if it gets to where the feed broke off. -/
def ensureRead (count : Nat) : Reader Unit := do
  let s ← get
  match s.broken with
  | some f => if (s.rest.drop count).isEmpty then throw f
  | none => return

/-- The code point so many places ahead. -/
def peek (ahead : Nat := 0) : Reader CodePoint := do
  ensureRead ahead
  return ((← get).rest.drop ahead).headD ending

/-- How many code points that pass a test come next. -/
def runLength (test : CodePoint → Bool) : Reader Nat := do
  let n := ((← get).rest.takeWhile test).length
  ensureRead n
  return n

/-! ## Going on -/

/-- The mark after the next code point of a text. The byte order mark has no width, and a carriage
return before a line feed ends no line. -/
def advanced (m : Mark) (c : CodePoint) (rest : Text) : Mark :=
  if isBreak c && !(c = '\r' && rest.head? = some (CodePoint.ofChar '\n')) then
    ⟨m.index + 1, m.line + 1, 0⟩
  else if c.val = 0xFEFF then ⟨m.index + 1, m.line, m.column⟩
  else ⟨m.index + 1, m.line, m.column + 1⟩

/-- What stays after so many code points, and the mark there. -/
def skipped : (count : Nat) → Text → Mark → Text × Mark
  | 0, t, m => (t, m)
  | _ + 1, [], m => ([], m)
  | n + 1, c :: t, m => skipped n t (advanced m c t)

/-- Goes on by so many code points. -/
def skip (count : Nat := 1) : Reader Unit := do
  ensureRead (count + 1)
  modify fun s =>
    let (rest, mark) := skipped count s.rest s.mark
    { s with rest, mark }

/-- Takes so many code points. -/
def take (count : Nat) : Reader Text := do
  let t := (← get).rest.take count
  skip count
  return t

/-- Takes the code points that pass a test. -/
def takeWhile (test : CodePoint → Bool) : Reader Text := do take (← runLength test)

/-- Goes past the code points that pass a test. -/
def skipWhile (test : CodePoint → Bool) : Reader Unit := do
  let _ ← takeWhile test

def here : Reader Mark := return (← get).mark

/-- A mark for starting or ending a document stands next. -/
def atMarker (marker : String) : Reader Bool := do
  if (← get).rest.take 3 = Text.ofString marker then return isBlankBreakOrEnd (← peek 3)
  else return false

/-- A mark for starting or ending a document stands next. -/
def atSeparator : Reader Bool := do
  if ← atMarker "---" then return true else atMarker "..."

/-- Takes a line end, if one stands next. It counts as a line feed, save for the
separators of lines and of paragraphs. -/
def takeBreak : Reader Text := do
  let c ← peek
  if c = '\r' || c = '\n' || c.val = 0x85 then
    skip (if c = '\r' && (← peek 1) = '\n' then 2 else 1)
    return [lineFeed]
  else if isBreak c then take 1
  else return []

/-- Goes past a comment, if one stands next. -/
def skipComment : Reader Unit := do
  if (← peek) = '#' then skipWhile fun c => !isBreakOrEnd c

/-- Adds a token to the queue. -/
def enqueue (t : Token) : Reader Unit := modify fun s => { s with queue := s.queue ++ [t] }

end QuerySieve.Yaml.Token
