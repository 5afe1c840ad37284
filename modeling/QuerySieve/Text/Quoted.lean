-- Text between quotes, as messages show it. The quote mark is the single one
-- unless only the text holds single ones; the mark, the backslash and whatever
-- cannot be printed are written as escapes.
import QuerySieve.Text.Printable

namespace QuerySieve

/-- The mark to quote a text with: double only when a single one is inside and
no double one is. -/
def Text.quoteMark (t : Text) : CodePoint :=
  if t.contains '\'' && !t.contains '"' then '"' else '\''

/-- A code point by its number. -/
def CodePoint.numbered (c : CodePoint) : Text :=
  if c.val < 0x100 then "\\x" ++ hexDigits 2 c.val
  else if c.val < 0x10000 then "\\u" ++ hexDigits 4 c.val
  else "\\U" ++ hexDigits 8 c.val

/-- The written form of one code point between two marks. -/
def CodePoint.escaped (mark c : CodePoint) : Text :=
  if c = mark || c = '\\' then ['\\', c]
  else if c = '\t' then "\\t"
  else if c = '\n' then "\\n"
  else if c = '\r' then "\\r"
  else if c.isPrintable then [c]
  else c.numbered

/-- The text between its marks. -/
def Text.quoted (t : Text) : Text :=
  let mark := t.quoteMark
  [mark] ++ t.flatMap (CodePoint.escaped mark) ++ [mark]

end QuerySieve
