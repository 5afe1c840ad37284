-- Places in a document. Messages show a place by line and column, and for a
-- document given as text also by an excerpt of its line with a caret below.
import QuerySieve.Text.Basic

namespace QuerySieve.Yaml

/-! ## Line ends -/

/-- Line feed, carriage return, next line, and the separators of lines and of
paragraphs. -/
def isBreak (c : CodePoint) : Bool :=
  c = '\n' || c = '\r' || c.val = 0x85 || c.val = 0x2028 || c.val = 0x2029

/-! ## Marks -/

/-- A place, counted from zero. -/
structure Mark where
  /-- Code points before the place. -/
  index : Nat
  line : Nat
  column : Nat
  deriving DecidableEq, Inhabited, Repr

def Mark.start : Mark := ⟨0, 0, 0⟩

/-- Two marks that messages show alike. -/
def Mark.sameSpot (a b : Mark) : Bool := a.line = b.line && a.column = b.column

/-- Where a document comes from. -/
structure Source where
  name : Text
  /-- The text of the document, if messages excerpt it. -/
  text : Option Text

/-! ## Excerpts -/

/-- Half the width of an excerpt, its middle left out. -/
def reach : Nat := 36

/-- What an excerpt shows for what it leaves out. -/
def gap : Text := " ... "

/-- A side of an excerpt, read away from the mark: it ends with its line, and a
side that is longer than the reach gives up its far end to a gap. -/
def side (t : Text) : Text × Bool :=
  let line := t.takeWhile fun c => !isBreak c
  if reach < line.length then (line.take (reach + 1 - gap.length), true) else (line, false)

/-- The line of a mark and a caret under the mark. -/
def excerpt (text : Text) (m : Mark) : Text :=
  let (before, cutBefore) := side (text.take m.index).reverse
  let (after, cutAfter) := side (text.drop m.index)
  let lead := List.replicate 4 (CodePoint.ofChar ' ') ++ (if cutBefore then gap else [])
  lead ++ before.reverse ++ after ++ (if cutAfter then gap else []) ++ "\n"
    ++ List.replicate (lead.length + before.length) (CodePoint.ofChar ' ') ++ "^"

/-- A mark as messages show it. -/
def Mark.shown (source : Source) (m : Mark) : Text :=
  "  in \"" ++ source.name ++ "\", line " ++ Text.ofNat (m.line + 1) ++ ", column "
    ++ Text.ofNat (m.column + 1)
    ++ (match source.text with
      | none => []
      | some text => ":\n" ++ excerpt text m)

end QuerySieve.Yaml
