-- What can go wrong. A failure belongs to the filters themselves: a name, a
-- directive, a rules file or the registry. Everything else that can end a step,
-- such as bytes that are no UTF-8, is a stray error. Both have a kind and a
-- message, and a failure can also be laid out as a value.
import QuerySieve.Pattern.Complaint
import QuerySieve.Words
import QuerySieve.World
import QuerySieve.Yaml.Complaint

namespace QuerySieve

/-! ## Failures -/

/-- The error beneath a failure. -/
structure Beneath where
  kind : Text
  message : Text
  deriving DecidableEq, Repr

/-- The directive that a failure is about. -/
structure Place where
  directive : Option Text := none
  /-- The block as its name was written. -/
  block : Option Text := none
  args : List Text := []
  deriving DecidableEq, Repr

namespace Failure

/-- What a failure is about. -/
inductive Kind
  | general
  | configuration
  /-- A rules file cannot be read, or has the wrong shape. -/
  | file (path : Option Text)
  | directive (at_ : Place)
  /-- A pattern in a directive does not compile. -/
  | pattern (at_ : Place) (source : Option Text)
  /-- Two declarations have the same name. -/
  | duplicate (name : Option Text)
  /-- The registry takes no more declarations. -/
  | frozen
  deriving DecidableEq, Repr

def Kind.name : Kind → Text
  | .general => "ArgsFilterError"
  | .configuration => "ConfigError"
  | .file _ => "ConfigFileError"
  | .directive _ => "DirectiveError"
  | .pattern _ _ => "RegexCompileError"
  | .duplicate _ => "DuplicateFilterError"
  | .frozen => "RegistryFrozenError"

/-- The names of a kind and of the wider kinds it belongs to. -/
def Kind.lineage : Kind → List Text
  | .general => [Kind.general.name]
  | .configuration => [Kind.configuration.name, Kind.general.name]
  | .pattern at_ source =>
    [(Kind.pattern at_ source).name, (Kind.directive at_).name, Kind.configuration.name,
      Kind.general.name]
  | .frozen => [Kind.frozen.name, Kind.general.name]
  | kind => [kind.name, Kind.configuration.name, Kind.general.name]

end Failure

structure Failure where
  kind : Failure.Kind
  message : Text
  details : List (Text × Value) := []
  cause : Option Beneath := none

namespace Failure

/-- The fields of a directive failure. -/
def placeFields (p : Place) : List (Text × Value) :=
  [Value.field "directive" (.optional p.directive), Value.field "block" (.optional p.block),
    Value.field "args" (.list (p.args.map .text))]

/-- The fields that only failures of a kind have. -/
def Kind.fields : Kind → List (Text × Value)
  | .general | .configuration | .frozen => []
  | .file path => [Value.field "path" (.optional path)]
  | .directive at_ => placeFields at_
  | .pattern at_ source => placeFields at_ ++ [Value.field "pattern" (.optional source)]
  | .duplicate name => [Value.field "name" (.optional name)]

/-- The field of the error beneath, if there is one. -/
def causeFields : Option Beneath → List (Text × Value)
  | none => []
  | some c =>
    [Value.field "cause" (.map [Value.field "type" (.text c.kind),
      Value.field "message" (.text c.message)])]

/-- A failure laid out as a value. -/
def layout (f : Failure) : Value :=
  .map ([Value.field "type" (.text f.kind.name), Value.field "message" (.text f.message),
    Value.field "details" (.map f.details)] ++ causeFields f.cause ++ f.kind.fields)

/-- What stands after the message: the details, if there are any, and the cause. -/
def suffix (f : Failure) : Text :=
  let details : Text :=
    if f.details.isEmpty then "" else " | Details: " ++ (Value.map f.details).shown
  match f.cause with
  | none => details
  | some c => details ++ " | Caused by: " ++ c.message

/-- What a failure says. The message of a directive stands alone, so that it can be
looked for word by word; others add their details and their cause. -/
def shown (f : Failure) : Text :=
  match f.kind with
  | .directive _ | .pattern _ _ => f.message
  | _ => f.message ++ f.suffix

/-- Puts a failure into a block. -/
def inBlock (block : Text) (f : Failure) : Failure :=
  match f.kind with
  | .directive at_ => { f with kind := .directive { at_ with block := some block } }
  | .pattern at_ source => { f with kind := .pattern { at_ with block := some block } source }
  | _ => f

end Failure

/-! ## Stray errors -/

/-- An error that no failure stands for. -/
inductive Stray
  /-- A pattern that was not in a directive. -/
  | pattern (complaint : Pattern.Complaint) (source : Bytes)
  | unencodable (e : Unencodable)
  | undecodable (e : Undecodable)
  | path (e : PathError)
  /-- A scalar of a document is out of range. -/
  | scalar (f : Yaml.ScalarFault)
  /-- A line leaves a quotation open. -/
  | unclosed
  deriving DecidableEq, Repr

def Stray.kind : Stray → Text
  | .pattern (.malformed _ _) _ => "error"
  | .pattern .countTooLarge _ => "OverflowError"
  | .pattern (.countTooLong _) _ => "ValueError"
  | .pattern .letterKinds _ => "ValueError"
  | .unencodable _ => "UnicodeEncodeError"
  | .undecodable _ => "UnicodeDecodeError"
  | .path e => e.kind
  | .scalar f => f.kind
  | .unclosed => "ValueError"

def Stray.message : Stray → Text
  | .pattern complaint source => complaint.message source
  | .unencodable e => e.message
  | .undecodable e => e.message
  | .path e => e.message
  | .scalar f => f.message
  | .unclosed => Words.unclosed

/-! ## Either -/

/-- What ends a step. -/
inductive Trouble
  | failure (f : Failure)
  | stray (s : Stray)

def Trouble.kind : Trouble → Text
  | .failure f => f.kind.name
  | .stray s => s.kind

def Trouble.message : Trouble → Text
  | .failure f => f.shown
  | .stray s => s.message

end QuerySieve
