-- Scalars without quotes. A plain scalar ends at a comment, at a colon that a
-- blank follows, or where its lines stop being indented; between brackets also at
-- the signs that part the items.
import QuerySieve.Yaml.Token.Cursor

namespace QuerySieve.Yaml.Token

/-! ## Line ends in plain scalars -/

/-- Takes spaces and line ends; nothing if a mark for starting or ending a document
stands at the start of a line. -/
def takePlainBreaks : Reader (Option Text) := do go (← get).rest.length
where
  /-- Takes at most so many of them. -/
  go : Nat → Reader (Option Text)
    | 0 => return some []
    | fuel + 1 => do
      let c ← peek
      if c = ' ' then
        skip
        go fuel
      else if isBreak c then
        let b ← takeBreak
        if ← atSeparator then return none
        return (← go fuel).map (b ++ ·)
      else return some []

/-- Takes spaces, and folds line ends. It gives nothing where the scalar ends. -/
def takePlainSpaces : Reader Text := do
  let spaces ← takeWhile (· = ' ')
  if isBreak (← peek) then
    let first ← takeBreak
    modify fun s => { s with keyAllowed := true }
    if ← atSeparator then return []
    match ← takePlainBreaks with
    | none => return []
    | some breaks =>
      if first = [lineFeed] then return if breaks.isEmpty then [' '] else breaks
      else return first ++ breaks
  else return spaces

/-! ## Plain scalars -/

/-- The length of the part of a text that a plain scalar goes on for. -/
def plainLength (inFlow : Bool) : Text → Nat
  | [] => 0
  | c :: t =>
    let next := t.headD ending
    if isBlankBreakOrEnd c then 0
    else if c = ':' && (isBlankBreakOrEnd next || (inFlow && isOneOf ",[]\x7b\x7d" next)) then 0
    else if inFlow && isOneOf ",?[]\x7b\x7d" c then 0
    else plainLength inFlow t + 1

/-- Takes a plain scalar. -/
def takePlain : Reader Token := do
  let start ← here
  let (text, stop) ← go (← get).rest.length [] start
  return ⟨.scalar text true, start, stop⟩
where
  /-- Goes on after some spaces, which only count if more of the scalar follows. -/
  go : Nat → Text → Mark → Reader (Text × Mark)
    | 0, _, stop => return ([], stop)
    | fuel + 1, spaces, stop => do
      if (← peek) = '#' then return ([], stop)
      let s ← get
      let n := plainLength (0 < s.flow) s.rest
      ensureRead (n + 1)
      if n = 0 then return ([], stop)
      modify fun s => { s with keyAllowed := false }
      let run ← take n
      let stop ← here
      let between ← takePlainSpaces
      let s ← get
      let isOutside : Bool := s.flow = 0 && (s.mark.column : Int) < s.indent + 1
      if between.isEmpty || (← peek) = '#' || isOutside then
        return (spaces ++ run, stop)
      let (more, stop) ← go fuel between stop
      return (spaces ++ run ++ more, stop)

end QuerySieve.Yaml.Token
