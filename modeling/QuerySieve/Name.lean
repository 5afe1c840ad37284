-- Names of variables. A declaration writes `$` and then letters, digits or
-- underscores; a look-up may leave the `$` out. Either way the name counts in
-- lower case.
import QuerySieve.Text.Lowercase

namespace QuerySieve.Name

/-- Stands before a name. -/
def sigil : CodePoint := '$'

/-- ASCII letters, digits and the underscore. -/
def isNameChar (c : CodePoint) : Bool :=
  c.isAsciiUpper || c.isAsciiLower || c.isAsciiDigit || c = '_'

/-- What can be wrong with a declared name. -/
inductive Fault
  | noSigil
  | empty
  | badChars
  deriving DecidableEq, Repr

def Fault.message : Fault → Text
  | .noSigil => "args_filter variable must start with '$'"
  | .empty => "args_filter variable name cannot be empty"
  | .badChars => "args_filter variable name contains invalid characters"

/-- The name that a declaration gives, in lower case and without the sigil. -/
def parse : Text → Except Fault Text
  | [] => .error .noSigil
  | c :: name =>
    if c ≠ sigil then .error .noSigil
    else if name.isEmpty then .error .empty
    else if name.all isNameChar then .ok (Text.lower name)
    else .error .badChars

/-- A text without one leading sigil. -/
def bare : Text → Text
  | [] => []
  | c :: name => if c = sigil then name else c :: name

/-- The key under which a name is kept and looked up. -/
def normalize (name : Text) : Text := (bare name).lower

end QuerySieve.Name
