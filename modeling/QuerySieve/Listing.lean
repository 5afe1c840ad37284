-- Definitions laid out for people: a heading for each name, and below it a line for
-- each rule. The same as a value has one member for each name.
import QuerySieve.Registry

namespace QuerySieve

/-! ## Rules -/

/-- Stands before a pattern. Nothing stands before a literal. -/
def Matcher.mark (m : Matcher) : Text :=
  match m.ignoreCase? with
  | none => []
  | some true => "~* "
  | some false => "~ "

/-- A rule, which stands at an index, as a line. -/
def Rule.line (index : Nat) (r : Rule) : Text :=
  "  [" ++ Text.ofNat index ++ "] " ++ r.action.name ++ " " ++ r.matcher.mark
    ++ r.matcher.describe

/-- Rules as lines, the first of which stands at an index. -/
def Rule.lines : Nat → List Rule → List Text
  | _, [] => []
  | index, r :: rules => r.line index :: lines (index + 1) rules

/-! ## Definitions -/

namespace Definition

/-- What is worth a note about a definition. -/
def notes (d : Definition) : List Text :=
  (if d.volatile then [Text.ofString "volatile"] else [])
    ++ (if d.isIdentity then [Text.ofString "identity"] else [])

def heading (name : Text) (d : Definition) : Text :=
  let notes : Text :=
    if d.notes.isEmpty then [] else " (" ++ Text.join ", " d.notes ++ ")"
  Name.sigil :: name ++ ": initial " ++ d.initial.name ++ notes

/-- A definition as lines. -/
def lines (name : Text) (d : Definition) : List Text :=
  d.heading name :: Rule.lines 0 d.rules

end Definition

/-! ## Registries -/

namespace Registry

/-- All definitions by ascending name, or a note that there are none. -/
def listing (r : Registry) : List Text :=
  if r.size = 0 then ["No args_filter blocks declared"]
  else r.items.flatMap fun (name, d) => d.lines name

/-- All definitions laid out as a value. -/
def layout (r : Registry) : Value :=
  .map (r.items.map fun (name, d) => (Name.sigil :: name, d.layout))

end Registry

end QuerySieve
