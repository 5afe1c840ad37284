-- Splitting a line into words. Blanks end a word, a quotation of either kind
-- joins what stands in it to the word, and an empty quotation is a word too.
-- The backslash and the number sign are ordinary.
import QuerySieve.Text.Basic

namespace QuerySieve.Words

/-- Space, tab, carriage return and line feed. -/
def isBlank (c : CodePoint) : Bool := c = ' ' || c = '\t' || c = '\r' || c = '\n'

/-- The single and the double quote. -/
def isQuote (c : CodePoint) : Bool := c = '\'' || c = '"'

/-- Where a reader of a line stands. -/
inductive Place
  /-- Between words. -/
  | gap
  /-- In a word, with its code points so far, the last one first. -/
  | word (read : Text)
  /-- In a quotation that the mark closes. -/
  | quotation (mark : CodePoint) (read : Text)

/-- The words of a line from a place on; nothing if a quotation is left open. -/
def splitFrom : Place → Text → Option (List Text)
  | .gap, [] => some []
  | .word read, [] => some [read.reverse]
  | .quotation _ _, [] => none
  | .gap, c :: t =>
    if isBlank c then splitFrom .gap t
    else if isQuote c then splitFrom (.quotation c []) t
    else splitFrom (.word [c]) t
  | .word read, c :: t =>
    if isBlank c then (splitFrom .gap t).map (read.reverse :: ·)
    else if isQuote c then splitFrom (.quotation c read) t
    else splitFrom (.word (c :: read)) t
  | .quotation mark read, c :: t =>
    if c = mark then splitFrom (.word read) t else splitFrom (.quotation mark (c :: read)) t

/-- The words of a line; nothing if a quotation is left open. -/
def split? (line : Text) : Option (List Text) := splitFrom .gap line

/-- What is said of a quotation that is left open. -/
def unclosed : Text := "No closing quotation"

end QuerySieve.Words
