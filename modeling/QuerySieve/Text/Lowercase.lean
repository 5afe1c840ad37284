-- Lower case for whole texts. Each code point has its own lower-case form, and
-- only the capital sigma looks around: at the end of a word it takes its final
-- form.
import QuerySieve.Text.CaseTable
import QuerySieve.Text.Printable

namespace QuerySieve

/-! ## One code point -/

/-- The place of a code point in a run decides its lower-case partner. -/
def CaseRun.lower? (r : CaseRun) (c : CodePoint) : Option CodePoint :=
  if r.first ≤ c.val && c.val ≤ r.last && (c.val - r.first) % r.step = 0 then
    some (CodePoint.ofNat (r.lower + (c.val - r.first)))
  else none

/-- The lower-case form of a code point by itself. The dotted capital I has two
code points in its form. -/
def CodePoint.lower (c : CodePoint) : Text :=
  if c.val < 0x80 then [c.asciiSmall]
  else if c.val = 0x130 then [CodePoint.ofNat 0x69, CodePoint.ofNat 0x307]
  else match caseRuns.findSome? (·.lower? c) with
    | some l => [l]
    | none => [c]

/-- A letter that has case. -/
def CodePoint.isCased (c : CodePoint) : Bool :=
  c.isAsciiUpper || c.isAsciiLower || c.within casedRanges

/-- A code point that is skipped when the letters around a sigma are looked for. -/
def CodePoint.isCaseIgnorable (c : CodePoint) : Bool := c.within caseIgnorableRanges

/-! ## Whole texts -/

/-- The first code point that is not skipped is a letter that has case. -/
def Text.meetsCased (t : Text) : Bool :=
  match t.dropWhile CodePoint.isCaseIgnorable with
  | [] => false
  | c :: _ => c.isCased

/-- Lower case of the rest of a text, with the code points before it, the
nearest first. A sigma is final after a letter and before none. -/
def Text.lowerAfter (before : Text) : Text → Text
  | [] => []
  | c :: rest =>
    (if c = 0x3A3 then
      [if Text.meetsCased before && !Text.meetsCased rest then 0x3C2 else 0x3C3]
    else c.lower) ++ Text.lowerAfter (c :: before) rest

/-- The text in lower case. -/
def Text.lower (t : Text) : Text := Text.lowerAfter [] t

end QuerySieve
