-- Values as JSON text, in ASCII: on one line, or with each member on a line of
-- its own.
import QuerySieve.Value

namespace QuerySieve.Json

/-! ## Strings -/

/-- A code unit of UTF-16 as an escape. -/
def unit (n : Nat) : Text := "\\u" ++ hexDigits 4 n

/-- A code point inside a JSON string. -/
def escape (c : CodePoint) : Text :=
  if c = '"' then "\\\""
  else if c = '\\' then "\\\\"
  else if c = '\n' then "\\n"
  else if c = '\r' then "\\r"
  else if c = '\t' then "\\t"
  else if c.val = 0x08 then "\\b"
  else if c.val = 0x0C then "\\f"
  else if 0x20 ≤ c.val && c.val < 0x7F then [c]
  else if c.val < 0x10000 then unit c.val
  else unit (0xD800 + (c.val - 0x10000) / 1024) ++ unit (0xDC00 + (c.val - 0x10000) % 1024)

def string (t : Text) : Text := "\"" ++ t.flatMap escape ++ "\""

/-! ## Layout -/

/-- How members are set apart: the step of the indentation, or nothing for one
line. -/
abbrev Layout := Option Nat

/-- What stands before a member at a depth. -/
def Layout.lead (l : Layout) (depth : Nat) : Text :=
  match l with
  | none => []
  | some step => CodePoint.ofChar '\n' :: List.replicate (step * depth) (CodePoint.ofChar ' ')

/-- Members between brackets. -/
def Layout.enclose (l : Layout) (depth : Nat) (first last : CodePoint) (members : List Text) :
    Text :=
  if members.isEmpty then [first, last]
  else
    first :: Text.join "," (members.map (l.lead (depth + 1) ++ ·)) ++ l.lead depth ++ [last]

/-- A name and its value. -/
def Layout.member (l : Layout) (name value : Text) : Text :=
  string name ++ (if l.isSome then (": " : Text) else ":") ++ value

mutual

/-- A value at a depth. What JSON cannot write is null. -/
def write (l : Layout) (depth : Nat) : Value → Text
  | .bool true => "true"
  | .bool false => "false"
  | .int i => Text.ofInt i
  | .text t => string t
  | .list items => l.enclose depth '[' ']' (writeItems l (depth + 1) items)
  | .map pairs | .ledger pairs _ =>
    l.enclose depth '\x7b' '\x7d'
      ((Pairs.table (writePairs l (depth + 1) pairs)).map fun p => l.member p.1 p.2)
  | .null | .real _ | .bytes _ | .other => "null"

def writeItems (l : Layout) (depth : Nat) : List Value → List Text
  | [] => []
  | v :: vs => write l depth v :: writeItems l depth vs

def writePairs (l : Layout) (depth : Nat) : List (Text × Value) → List (Text × Text)
  | [] => []
  | (k, v) :: ps => (k, write l depth v) :: writePairs l depth ps

end

/-- A value on one line. -/
def compact (v : Value) : Text := write none 0 v

/-- A value with each member on its own line, two blanks deeper than what it is
in. -/
def indented (v : Value) : Text := write (some 2) 0 v

end QuerySieve.Json
