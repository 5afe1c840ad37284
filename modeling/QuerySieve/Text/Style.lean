-- Escapes for terminals. A text that does not go to a terminal loses the sequences that
-- would style it there: an escape, a bracket, parameters and one letter.
import QuerySieve.Text.Basic

namespace QuerySieve.Style

/-- Starts a sequence. -/
def isEscape (c : CodePoint) : Bool := c.val = 0x1B

/-- Stands between the bracket and the letter. -/
def isParameter (c : CodePoint) : Bool := c.isAsciiDigit || c = ';' || c = '?'

/-- Ends a sequence. -/
def isFinal (c : CodePoint) : Bool := c.isAsciiUpper || c.isAsciiLower

/-- Drops sequences. What is held, in reverse, may turn out to be the start of one; it is kept
if it does not. -/
def dropFrom : (held : Text) → Text → Text
  | held, [] => held.reverse
  | [], c :: t => if isEscape c then dropFrom [c] t else c :: dropFrom [] t
  | [e], c :: t =>
    if c = '[' then dropFrom [c, e] t
    else if isEscape c then e :: dropFrom [c] t
    else e :: c :: dropFrom [] t
  | held, c :: t =>
    if isParameter c then dropFrom (c :: held) t
    else if isFinal c then dropFrom [] t
    else if isEscape c then held.reverse ++ dropFrom [c] t
    else held.reverse ++ c :: dropFrom [] t

/-- The text without the sequences that would style it. -/
def drop (t : Text) : Text := dropFrom [] t

end QuerySieve.Style
