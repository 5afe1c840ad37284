-- Cutting a document into tokens. Indentation opens and closes block collections,
-- and a colon turns what stands before it into a key after the fact, so a token is
-- only handed out once no key can start at it any more.
import QuerySieve.Yaml.Token.Plain
import QuerySieve.Yaml.Token.Quoted
import QuerySieve.Yaml.Token.Tag

namespace QuerySieve.Yaml.Token

/-! ## Keys without a question mark -/

/-- How far a key may reach before its colon. -/
def keyReach : Nat := 1024

/-- The place is too far back, or on another line. -/
def KeyStart.isStale (k : KeyStart) (m : Mark) : Bool :=
  k.mark.line ≠ m.line || keyReach < m.index - k.mark.index

/-- Gives up a place where a key may have started. -/
def giveUp (k : KeyStart) : Reader Unit := do
  if k.required then failSince .simpleKey k.mark .noColon

/-- Gives up the places that are too far back. -/
def dropStale : Reader Unit := do
  let s ← get
  for (_, k) in s.keyStarts do
    if k.isStale s.mark then giveUp k
  set { s with keyStarts := s.keyStarts.filter fun (_, k) => !k.isStale s.mark }

/-- The place between as many brackets as are open. -/
def State.keyStart? (s : State) : Option KeyStart :=
  (s.keyStarts.find? fun (level, _) => level = s.flow).map (·.2)

/-- Forgets the place between as many brackets as are open. -/
def State.withoutKeyStart (s : State) : State :=
  { s with keyStarts := s.keyStarts.filter fun (level, _) => level ≠ s.flow }

/-- Gives up the place between as many brackets as are open. -/
def dropKeyStart : Reader Unit := do
  let s ← get
  match s.keyStart? with
  | none => return
  | some k =>
    giveUp k
    set s.withoutKeyStart

/-- Remembers that a key may start here, if one is allowed to. -/
def saveKeyStart : Reader Unit := do
  let s ← get
  if s.keyAllowed then
    let required : Bool := s.flow = 0 && s.indent = s.mark.column
    dropKeyStart
    let k : KeyStart := ⟨s.taken + s.queue.length, required, s.mark⟩
    modify fun s => { s with keyStarts := s.keyStarts ++ [(s.flow, k)] }

def allowKeys (allowed : Bool) : Reader Unit := modify fun s => { s with keyAllowed := allowed }

/-! ## Indentation -/

/-- A token without width. -/
def enqueueAt (mark : Mark) (kind : Kind) : Reader Unit := enqueue ⟨kind, mark, mark⟩

/-- Closes the block collections that stand deeper than a column. -/
def unwind (column : Int) : Reader Unit := do
  let s ← get
  if s.flow = 0 then
    let (closed, indent, indents) := close s.indents s.indent
    let ends : List Token := List.replicate closed ⟨.blockEnd, s.mark, s.mark⟩
    set { s with indent, indents, queue := s.queue ++ ends }
where
  /-- How many are closed, and the columns of those that stay. -/
  close : List Int → Int → Nat × Int × List Int
    | [], indent => (0, indent, [])
    | outer :: rest, indent =>
      if column < indent then
        let (n, indent, indents) := close rest outer
        (n + 1, indent, indents)
      else (0, indent, outer :: rest)

/-- Opens a block collection at a column, if that is deeper than the innermost one. -/
def indentTo (column : Int) : Reader Bool := do
  let s ← get
  if s.indent < column then
    set { s with indent := column, indents := s.indent :: s.indents }
    return true
  else return false

/-! ## Single tokens -/

/-- Takes code points as one token. -/
def enqueueSigns (count : Nat) (kind : Kind) : Reader Unit := do
  let start ← here
  skip count
  enqueue ⟨kind, start, ← here⟩

/-- Ends all block collections before a token of its own line. -/
def closeAll : Reader Unit := do
  unwind (-1)
  dropKeyStart
  allowKeys false

def fetchEnd : Reader Unit := do
  closeAll
  modify fun s => { s with keyStarts := [], done := true }
  enqueueAt (← here) .streamEnd

def fetchOpening (kind : Kind) : Reader Unit := do
  saveKeyStart
  modify fun s => { s with flow := s.flow + 1, keyAllowed := true }
  enqueueSigns 1 kind

def fetchClosing (kind : Kind) : Reader Unit := do
  dropKeyStart
  modify fun s => { s with flow := s.flow - 1, keyAllowed := false }
  enqueueSigns 1 kind

def fetchFlowEntry : Reader Unit := do
  allowKeys true
  dropKeyStart
  enqueueSigns 1 .flowEntry

/-- Outside of brackets, refuses a sign where no key may start, and opens a block
collection at it. -/
def openBlock (problem : Problem) (kind : Kind) : Reader Unit := do
  let s ← get
  if s.flow = 0 then
    unless s.keyAllowed do fail problem none
    if ← indentTo s.mark.column then enqueueAt s.mark kind

def fetchBlockEntry : Reader Unit := do
  openBlock .entryHere .blockSequenceStart
  allowKeys true
  dropKeyStart
  enqueueSigns 1 .blockEntry

def fetchKey : Reader Unit := do
  openBlock .keyHere .blockMappingStart
  allowKeys ((← get).flow = 0)
  dropKeyStart
  enqueueSigns 1 .key

/-- Puts tokens before the token of a number. -/
def insertAt (number : Nat) (tokens : List Token) : Reader Unit :=
  modify fun s =>
    let (before, after) := s.queue.splitAt (number - s.taken)
    { s with queue := before ++ tokens ++ after }

/-- A colon: it makes a key of what stands before it, or is the value of a key that a
question mark started. -/
def fetchValue : Reader Unit := do
  let s ← get
  match s.keyStart? with
  | some k =>
    set s.withoutKeyStart
    let opens ← if s.flow = 0 then indentTo k.mark.column else pure false
    let start : List Token := if opens then [⟨.blockMappingStart, k.mark, k.mark⟩] else []
    insertAt k.number (start ++ [⟨.key, k.mark, k.mark⟩])
    allowKeys false
  | none =>
    openBlock .valueHere .blockMappingStart
    allowKeys (s.flow = 0)
    dropKeyStart
  enqueueSigns 1 .value

/-- Takes a token at which a key may start, and after which none may. -/
def fetchKeyable (step : Reader Token) : Reader Unit := do
  saveKeyStart
  allowKeys false
  enqueue (← step)

def fetchBlockScalar (folded : Bool) : Reader Unit := do
  allowKeys true
  dropKeyStart
  enqueue (← takeBlock folded)

/-! ## The next token -/

/-- Goes past blanks, comments and line ends. Outside of brackets a key may start on a new
line. -/
def skipToToken : Reader Unit := do
  if (← here).index = 0 && (← peek).val = 0xFEFF then skip
  go (← get).rest.length
where
  /-- Goes past at most so many lines. -/
  go : Nat → Reader Unit
    | 0 => return
    | fuel + 1 => do
      skipWhile (· = ' ')
      skipComment
      if isBreak (← peek) then
        let _ ← takeBreak
        if (← get).flow = 0 then allowKeys true
        go fuel

/-- Starts a plain scalar: no sign, or one of a few signs before a code point that
is no blank. -/
def startsPlain (inFlow : Bool) (c next : CodePoint) : Bool :=
  !(isBlankBreakOrEnd c || isOneOf "-?:,[]\x7b\x7d#&*!|>'\"%@`" c)
    || (!isBlankBreakOrEnd next && (c = '-' || (!inFlow && (c = '?' || c = ':'))))

/-- Reads on to one more token, which may bring others with it. -/
def fetch : Reader Unit := do
  skipToToken
  dropStale
  unwind (← get).mark.column
  let s ← get
  let c ← peek
  let atMargin : Bool := s.mark.column = 0
  let inFlow : Bool := 0 < s.flow
  if c = ending then return ← fetchEnd
  if c = '%' && atMargin then
    closeAll
    return ← enqueue (← takeDirective)
  if atMargin && c = '-' then
    if ← atMarker "---" then
      closeAll
      return ← enqueueSigns 3 .documentStart
  if atMargin && c = '.' then
    if ← atMarker "..." then
      closeAll
      return ← enqueueSigns 3 .documentEnd
  if c = '[' then return ← fetchOpening .flowSequenceStart
  if c = '\x7b' then return ← fetchOpening .flowMappingStart
  if c = ']' then return ← fetchClosing .flowSequenceEnd
  if c = '\x7d' then return ← fetchClosing .flowMappingEnd
  if c = ',' then return ← fetchFlowEntry
  if c = '*' then return ← fetchKeyable (takeAnchor .alias .alias)
  if c = '&' then return ← fetchKeyable (takeAnchor .anchor .anchor)
  if c = '!' then return ← fetchKeyable takeTag
  if c = '|' && !inFlow then return ← fetchBlockScalar false
  if c = '>' && !inFlow then return ← fetchBlockScalar true
  if c = '\'' then return ← fetchKeyable (takeQuoted false)
  if c = '"' then return ← fetchKeyable (takeQuoted true)
  let next ← peek 1
  if c = '-' && isBlankBreakOrEnd next then return ← fetchBlockEntry
  if c = '?' && (inFlow || isBlankBreakOrEnd next) then return ← fetchKey
  if c = ':' && (inFlow || isBlankBreakOrEnd next) then return ← fetchValue
  if startsPlain inFlow c next then return ← fetchKeyable takePlain
  fail (.unstartable c) (some (.seekingToken, none))

/-! ## All tokens -/

/-- A row of tokens, and the fault that ended it, if it does not go to the end of the
document. -/
structure Row where
  tokens : List Token
  fault : Option Fault
  deriving Repr

/-- No key can start at the oldest token. -/
def State.isSettled (s : State) : Bool :=
  s.done || s.keyStarts.all fun (_, k) => k.number ≠ s.taken

/-- Hands out the tokens that are settled. -/
def handOut : List Token → State → List Token × Except Fault State
  | [], s => ([], .ok { s with queue := [] })
  | t :: ts, s =>
    match (if s.done then Except.ok s else (dropStale.run s).map (·.2)) with
    | .error f => ([], .error f)
    | .ok s =>
      if s.isSettled then
        let (more, next) := handOut ts { s with taken := s.taken + 1 }
        (t :: more, next)
      else ([], .ok { s with queue := t :: ts })

/-- Hands out tokens and reads on, at most so many times. -/
def readRow : Nat → State → Row
  | 0, _ => ⟨[], none⟩
  | fuel + 1, s =>
    match handOut s.queue s with
    | (ready, .error f) => ⟨ready, some f⟩
    | (ready, .ok s) =>
      if s.done then ⟨ready, none⟩
      else match fetch.run s with
        | .error f => ⟨ready, some f⟩
        | .ok (_, s) =>
          let more := readRow fuel s
          ⟨ready ++ more.tokens, more.fault⟩

/-- The tokens of a document. -/
def row (f : Feed) : Row := readRow (f.text.length + 2) (.start f)

end QuerySieve.Yaml.Token
