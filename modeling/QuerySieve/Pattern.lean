-- Compiled patterns: the tree of a pattern with the options it runs under. A
-- compiled pattern keeps its text, and searching is unanchored. Groups may stand
-- in one another to any depth here: that the host gives up on calls that nest too
-- deeply is left out.
import QuerySieve.Pattern.Matcher
import QuerySieve.Pattern.Parser

namespace QuerySieve

/-- A pattern that compiled. -/
structure Pattern where
  source : Bytes
  ignoreCase : Bool
  items : List Pattern.Item
  options : Pattern.Options

namespace Pattern

/-- Compiles the text of a pattern. -/
def compile (source : Bytes) (ignoreCase : Bool) : Except Complaint Pattern := do
  let (items, options) ← parse { ignoreCase } source
  return ⟨source, ignoreCase, items, options⟩

/-- Some part of the key matches. -/
def isFoundIn (p : Pattern) (key : Bytes) : Bool := search p.items p.options key

end Pattern

end QuerySieve
