-- Scalars in quotes. Between single quotes only the quote itself is written
-- twice; between double quotes a backslash starts an escape. A line end between
-- the quotes counts as a blank, and empty lines count as line ends.
import QuerySieve.Yaml.Token.Cursor

namespace QuerySieve.Yaml.Token

/-! ## Escapes -/

/-- What an escape of one code point stands for. -/
def simpleEscape? (c : CodePoint) : Option CodePoint :=
  let table : List (Char × Nat) := [('0', 0x00), ('a', 0x07), ('b', 0x08), ('t', 0x09),
    ('\t', 0x09), ('n', 0x0A), ('v', 0x0B), ('f', 0x0C), ('r', 0x0D), ('e', 0x1B), (' ', 0x20), ('"', 0x22),
    ('\\', 0x5C), ('/', 0x2F), ('N', 0x85), ('_', 0xA0), ('L', 0x2028), ('P', 0x2029)]
  (table.find? fun p => CodePoint.ofChar p.1 = c).map fun p => CodePoint.ofNat p.2

/-- How many hexadecimal digits an escape by number has. -/
def escapeWidth? (c : CodePoint) : Option Nat :=
  if c = 'x' then some 2
  else if c = 'u' then some 4
  else if c = 'U' then some 8
  else none

/-- The number that hexadecimal digits write. -/
def hexNumber (t : Text) : Nat := t.foldl (fun n c => n * 16 + hexValue c) 0

/-- The last number that an escape can name at all. -/
def wordLimit : Nat := 0x7FFFFFFF

/-- The code point of a number. -/
def codePointOf (n : Nat) : Except ScalarFault CodePoint :=
  if h : n < 0x110000 then .ok ⟨n, h⟩
  else if n ≤ wordLimit then .error .escapeRange
  else .error .escapeTooLarge

/-- Takes the digits of an escape by number. -/
def takeEscapeNumber (start : Mark) (width : Nat) : Reader CodePoint := do
  let s ← get
  let good := ((s.rest.take width).takeWhile isHex).length
  if good < width then
    failSince .doubleQuoted start (.wanted (.escape width) (← peek good))
  match codePointOf (hexNumber (s.rest.take width)) with
  | .error f => throw (.scalar f)
  | .ok c =>
    skip width
    return c

/-! ## Line ends between quotes -/

/-- Takes the blanks and line ends at the start of a line. -/
def takeQuotedBreaks (start : Mark) : Reader Text := do go (← get).rest.length
where
  /-- Takes at most so many line ends. -/
  go : Nat → Reader Text
    | 0 => return []
    | fuel + 1 => do
      if ← atSeparator then failSince .quoted start .documentSeparator
      skipWhile isBlank
      if isBreak (← peek) then
        let c ← takeBreak
        return c ++ (← go fuel)
      else return []

/-- Takes blanks, and folds line ends. -/
def takeQuotedSpaces (start : Mark) : Reader Text := do
  let blanks ← takeWhile isBlank
  let c ← peek
  if c = ending then failSince .quoted start .endOfStream
  if isBreak c then
    let first ← takeBreak
    let breaks ← takeQuotedBreaks start
    if first = [lineFeed] then
      return if breaks.isEmpty then [' '] else breaks
    else return first ++ breaks
  else return blanks

/-! ## Code points between quotes -/

/-- Takes an escape after its backslash. -/
def takeEscape (start : Mark) : Reader Text := do
  let c ← peek
  match simpleEscape? c, escapeWidth? c with
  | some e, _ =>
    skip
    return [e]
  | none, some width =>
    skip
    return [← takeEscapeNumber start width]
  | none, none =>
    if isBreak c then
      let _ ← takeBreak
      takeQuotedBreaks start
    else failSince .doubleQuoted start (.unknownEscape c)

/-- Takes what is no blank, up to a blank, a line end or the quote that ends the
scalar. -/
def takeQuotedRun (double : Bool) (start : Mark) : Reader Text := do go (← get).rest.length
where
  /-- Takes at most so many parts. -/
  go : Nat → Reader Text
    | 0 => return []
    | fuel + 1 => do
      let run ← takeWhile fun c => !isOneOf "'\"\\" c && !isBlankBreakOrEnd c
      let c ← peek
      if !double && c = '\'' && (← peek 1) = '\'' then
        skip 2
        return run ++ [c] ++ (← go fuel)
      else if (double && c = '\'') || (!double && (c = '"' || c = '\\')) then
        skip
        return run ++ [c] ++ (← go fuel)
      else if double && c = '\\' then
        skip
        let e ← takeEscape start
        return run ++ e ++ (← go fuel)
      else return run

/-- Takes a scalar in quotes. -/
def takeQuoted (double : Bool) : Reader Token := do
  let start ← here
  let quote ← peek
  skip
  let first ← takeQuotedRun double start
  let more ← go quote start ((← get).rest.length + 1)
  skip
  return ⟨.scalar (first ++ more) false, start, ← here⟩
where
  /-- Takes at most so many runs up to the quote. -/
  go (quote : CodePoint) (start : Mark) : Nat → Reader Text
    | 0 => return []
    | fuel + 1 => do
      if (← peek) = quote then return []
      let spaces ← takeQuotedSpaces start
      let run ← takeQuotedRun double start
      return spaces ++ run ++ (← go quote start fuel)

end QuerySieve.Yaml.Token
