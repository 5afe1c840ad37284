-- Scalars in blocks of lines. A literal one keeps its line ends and a folded one
-- turns single line ends into blanks. The header tells what becomes of the line
-- ends after the last line, and may tell the indentation.
import QuerySieve.Yaml.Token.Cursor

namespace QuerySieve.Yaml.Token

/-! ## Headers -/

/-- What becomes of the line ends after the last line of a block. -/
inductive Chomping
  /-- One stays. -/
  | clip
  | strip
  | keep
  deriving DecidableEq, Repr

/-- Takes the sign that tells what becomes of the last line ends. -/
def takeChomping : Reader Chomping := do
  let c ← peek
  if c = '+' then
    skip
    return .keep
  else if c = '-' then
    skip
    return .strip
  else return .clip

/-- Takes the digit that tells the indentation. -/
def takeIncrement (start : Mark) : Reader (Option Nat) := do
  let c ← peek
  if c.isAsciiDigit then
    if c = '0' then failSince .blockScalar start .zeroIndentation
    skip
    return some (c.val - 0x30)
  else return none

/-- Takes the signs of a header, in either order. -/
def takeHeader (start : Mark) : Reader (Chomping × Option Nat) := do
  let chomping ← takeChomping
  let increment ← takeIncrement start
  let chomping ←
    if chomping = .clip && increment.isSome then takeChomping else pure chomping
  let c ← peek
  unless isSpaceBreakOrEnd c do failSince .blockScalar start (.wanted .blockIndicators c)
  return (chomping, increment)

/-- Goes past the rest of a line, which may only hold a comment. -/
def skipLine (activity : Activity) (start : Mark) : Reader Unit := do
  skipWhile (· = ' ')
  skipComment
  let c ← peek
  unless isBreakOrEnd c do failSince activity start (.wanted .lineEnd c)
  let _ ← takeBreak

/-! ## Lines -/

/-- Takes the empty lines before the first line, and finds the deepest column in
them. -/
def takeFirstBreaks : Reader (Text × Nat × Mark) := do go (← get).rest.length 0 (← here)
where
  /-- Takes at most so many code points. -/
  go : Nat → Nat → Mark → Reader (Text × Nat × Mark)
    | 0, deepest, stop => return ([], deepest, stop)
    | fuel + 1, deepest, stop => do
      let c ← peek
      if c = ' ' then
        skip
        go fuel (max deepest (← here).column) stop
      else if isBreak c then
        let b ← takeBreak
        let (more, deepest, stop) ← go fuel deepest (← here)
        return (b ++ more, deepest, stop)
      else return ([], deepest, stop)

/-- Goes past spaces up to a column. -/
def skipIndentation (column : Nat) : Reader Unit := do
  let s ← get
  let spaces := (s.rest.take (column - s.mark.column)).takeWhile (· = CodePoint.ofChar ' ')
  skip spaces.length

/-- Takes empty lines, and the spaces before the next one up to a column. -/
def takeBreaks (column : Nat) : Reader (Text × Mark) := do
  let stop ← here
  skipIndentation column
  go (← get).rest.length stop
where
  /-- Takes at most so many lines. -/
  go : Nat → Mark → Reader (Text × Mark)
    | 0, stop => return ([], stop)
    | fuel + 1, stop => do
      if isBreak (← peek) then
        let b ← takeBreak
        let stop' ← here
        skipIndentation column
        let (more, stop) ← go fuel stop'
        return (b ++ more, stop)
      else return ([], stop)

/-! ## Blocks -/

/-- The lines of a block: their text without the last line end, that line end, the
empty lines after it, and where the block stops. -/
structure Lines where
  text : Text
  lastBreak : Text
  after : Text
  stop : Mark

/-- Takes lines that start in a column, with the empty lines before them. -/
def takeLines (folded : Bool) (column : Nat) : Nat → (breaks : Text) → (stop : Mark) → Reader Lines
  | 0, breaks, stop => return ⟨[], [], breaks, stop⟩
  | fuel + 1, breaks, stop => do
    if (← here).column ≠ column || (← peek) = ending then return ⟨[], [], breaks, stop⟩
    let startsWithText := !isBlank (← peek)
    let line ← takeWhile fun c => !isBreakOrEnd c
    let lineBreak ← takeBreak
    let (after, stop) ← takeBreaks column
    if (← here).column ≠ column || (← peek) = ending then
      return ⟨breaks ++ line, lineBreak, after, stop⟩
    let glue : Text :=
      if folded && lineBreak = [lineFeed] && startsWithText && !isBlank (← peek) then
        if after.isEmpty then [' '] else []
      else lineBreak
    let more ← takeLines folded column fuel after stop
    return { more with text := breaks ++ line ++ glue ++ more.text }

/-- Takes a scalar in a block of lines. -/
def takeBlock (folded : Bool) : Reader Token := do
  let start ← here
  skip
  let (chomping, increment) ← takeHeader start
  skipLine .blockScalar start
  let least := max 1 ((← get).indent + 1).toNat
  let (column, breaks, stop) ← match increment with
    | none => do
      let (breaks, deepest, stop) ← takeFirstBreaks
      pure (max least deepest, breaks, stop)
    | some n => do
      let column := least + n - 1
      let (breaks, stop) ← takeBreaks column
      pure (column, breaks, stop)
  let lines ← takeLines folded column ((← get).rest.length + 1) breaks stop
  let tail : Text := match chomping with
    | .strip => []
    | .clip => lines.lastBreak
    | .keep => lines.lastBreak ++ lines.after
  return ⟨.scalar (lines.text ++ tail) false, start, lines.stop⟩

end QuerySieve.Yaml.Token
