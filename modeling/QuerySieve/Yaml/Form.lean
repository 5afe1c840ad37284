-- What an untagged scalar stands for. Its form alone tells it: a few words are
-- truth values or null, digits are numbers or dates, and all else is text.
import QuerySieve.Yaml.Node
import QuerySieve.Yaml.Number
import QuerySieve.Yaml.Timestamp

namespace QuerySieve.Yaml

/-! ## Standard tags -/

/-- The tags that have a meaning of their own. -/
inductive Sort_
  | null
  | bool
  | int
  | real
  | timestamp
  | binary
  | text
  | list
  | map
  | orderedMap
  | pairs
  | set
  /-- A key that takes in the pairs of other mappings. -/
  | merge
  /-- A key for the value of a mapping as a whole. -/
  | value
  deriving DecidableEq, Repr

namespace Sort_

/-- What standard tags start with. -/
def lead : Text := "tag:yaml.org,2002:"

def suffix : Sort_ → Text
  | .null => "null"
  | .bool => "bool"
  | .int => "int"
  | .real => "float"
  | .timestamp => "timestamp"
  | .binary => "binary"
  | .text => "str"
  | .list => "seq"
  | .map => "map"
  | .orderedMap => "omap"
  | .pairs => "pairs"
  | .set => "set"
  | .merge => "merge"
  | .value => "value"

def tag (s : Sort_) : Text := lead ++ s.suffix

def all : List Sort_ :=
  [.null, .bool, .int, .real, .timestamp, .binary, .text, .list, .map, .orderedMap, .pairs, .set,
    .merge, .value]

def ofTag? (t : Text) : Option Sort_ := all.find? fun s => s.tag = t

end Sort_

/-! ## Forms of scalars -/

namespace Form

/-- Digits and underscores in a base. -/
def isRun (base : Nat) (t : Text) : Bool :=
  !t.isEmpty && t.all fun c => c = '_' || (Number.digit? base c).isSome

/-- A digit and then digits and underscores. -/
def isDigits : Text → Bool
  | [] => false
  | c :: t => c.isAsciiDigit && t.all fun c => c = '_' || c.isAsciiDigit

/-- One or two digits below sixty. -/
def isSixtieth (t : Text) : Bool :=
  match t with
  | [c] => c.isAsciiDigit
  | [c, d] => 0x30 ≤ c.val && c.val ≤ 0x35 && d.isAsciiDigit
  | _ => false

/-- A whole number without its sign. -/
def isWholeBody (t : Text) : Bool :=
  match Text.dropLead? "0b" t, Text.dropLead? "0x" t, Text.dropLead? "0" t with
  | some digits, _, _ => isRun 2 digits
  | none, some digits, _ => isRun 16 digits
  | none, none, some rest => rest.isEmpty || isRun 8 rest
  | none, none, none =>
    match Text.splitAt ':' t with
    | [] => false
    | first :: parts => isDigits first && parts.all isSixtieth

def isWhole (t : Text) : Bool := isWholeBody (Number.splitSign t).2

/-- Nothing, or a letter, a sign and digits. -/
def isExponent : Text → Bool
  | [] => true
  | c :: t =>
    (c = 'e' || c = 'E')
      && match t with
        | [] => false
        | s :: digits =>
          (s = '-' || s = '+') && !digits.isEmpty && digits.all CodePoint.isAsciiDigit

/-- What comes after the point of a number. -/
def isFraction (t : Text) : Bool :=
  isExponent (t.dropWhile fun c => c = '_' || c.isAsciiDigit)

/-- A number with a point. One that starts with its point has no sign. -/
def isReal (t : Text) : Bool :=
  let (_, body) := Number.splitSign t
  let infinities : List Text := [".inf", ".Inf", ".INF"]
  let nans : List Text := [".nan", ".NaN", ".NAN"]
  if infinities.contains body || nans.contains t then true
  else
    let front := body.takeWhile fun c => c ≠ CodePoint.ofChar '.'
    match body.drop front.length with
    | [] => false
    | _ :: back =>
      if front.isEmpty then
        body.length = t.length && isFraction back && (back.head?.any CodePoint.isAsciiDigit)
      else match Text.splitAt ':' front with
        | [] => false
        | [whole] => isDigits whole && isFraction back
        | whole :: parts =>
          isDigits whole && parts.all isSixtieth && back.all fun c => c = '_' || c.isAsciiDigit

/-- The words for truth values, in lower case. -/
def truths : List (Text × Bool) :=
  [("yes", true), ("no", false), ("true", true), ("false", false), ("on", true), ("off", false)]

/-- A word all in lower case, all in upper case, or with a capital. -/
def isCasedAlike (word t : Text) : Bool :=
  let upper : Text := word.map CodePoint.asciiCapital
  t = word || t = upper || t = upper.take 1 ++ word.drop 1

def isTruth (t : Text) : Bool := truths.any fun w => isCasedAlike w.1 t

def isNull (t : Text) : Bool :=
  t.isEmpty || t = Text.ofString "~" || isCasedAlike "null" t

/-- The part of a scalar that tells its form: all but a line feed that ends it. -/
def body (t : Text) : Text :=
  if 1 < t.length && t.getLast? = some (CodePoint.ofChar '\n') then t.dropLast else t

/-- What a scalar with this body stands for, if it has no tag. -/
def sortOf (t : Text) : Sort_ :=
  if isTruth t then .bool
  else if isReal t then .real
  else if isWhole t then .int
  else if t = Text.ofString "<<" then .merge
  else if isNull t then .null
  else if Timestamp.isForm t then .timestamp
  else if t = Text.ofString "=" then .value
  else .text

/-- The marks of a tag, an anchor and an alias. -/
def marks : List Text := ["!", "&", "*"]

/-- The tag of a scalar without one. A mark alone has a tag that nothing reads. -/
def tagOf (t : Text) : Text :=
  if marks.contains (body t) then Sort_.lead ++ "yaml" else (sortOf (body t)).tag

end Form

/-! ## Tags of nodes -/

/-- The tag of a node, written or not. -/
def Node.tagName : Node → Text
  | .scalar tag byForm text _ => tag.getD (if byForm then Form.tagOf text else Sort_.text.tag)
  | .list tag _ _ => tag.getD Sort_.list.tag
  | .map tag _ _ => tag.getD Sort_.map.tag
  | .loop _ => Sort_.map.tag

/-- The meaning of the tag of a node, if it has one. -/
def Node.sort? (n : Node) : Option Sort_ := Sort_.ofTag? n.tagName

end QuerySieve.Yaml
