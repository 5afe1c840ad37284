-- Rules documents. A document maps one root key to blocks, and a block is a list
-- of directives; a directive is a line, which is split into words, or a list of
-- words. The shape of the whole document is checked before any block is compiled.
import QuerySieve.Registry
import QuerySieve.Words

namespace QuerySieve.Document

/-! ## What can be wrong -/

/-- The key that the blocks stand under. -/
def rootKey : Text := "args_filters"

/-- What can be wrong with the shape of a document. -/
inductive Fault
  | notMapping
  | rootTwice
  | rootNotMapping
  | blockNotList (block : Text)
  /-- A line leaves a quotation open. -/
  | unclosedLine (line block : Text)
  | argumentsNotText (entry : Value) (block : Text)
  | notDirective (entry : Value) (block : Text)
  | emptyDirective (block : Text)

def Fault.message : Fault → Text
  | .notMapping => "args_filter rules file must be a mapping"
  | .rootTwice => "'" ++ rootKey ++ "' is declared more than once"
  | .rootNotMapping => "'" ++ rootKey ++ "' must map variable names to directive lists"
  | .blockNotList block => "args_filter block " ++ block ++ " must be a list of directives"
  | .unclosedLine line block =>
    "cannot parse directive " ++ Text.quoted line ++ " in args_filter block " ++ block ++ ": "
      ++ Words.unclosed
  | .argumentsNotText entry block =>
    "directive arguments must be strings in args_filter block " ++ block ++ ": " ++ entry.shown
  | .notDirective entry block =>
    "directive must be a string or a list in args_filter block " ++ block ++ ": " ++ entry.shown
  | .emptyDirective block => "empty directive in args_filter block " ++ block

/-- The error beneath: only an open quotation has one. -/
def Fault.cause : Fault → Option Beneath
  | .unclosedLine _ _ => some ⟨"ValueError", Words.unclosed⟩
  | _ => none

def Fault.failure (f : Fault) : Failure :=
  { kind := .file none, message := f.message, cause := f.cause }

/-! ## Directives -/

/-- The texts of a list that holds nothing else. -/
def texts? : List Value → Option (List Text)
  | [] => some []
  | .text t :: vs => (texts? vs).map (t :: ·)
  | _ :: _ => none

/-- The words of an entry. -/
def entryWords (block : Text) : Value → Except Fault (List Text)
  | .text line =>
    match Words.split? line with
    | some words => .ok words
    | none => .error (.unclosedLine line block)
  | .list items =>
    match texts? items with
    | some words => .ok words
    | none => .error (.argumentsNotText (.list items) block)
  | entry => .error (.notDirective entry block)

/-- The directive of an entry: its first word is the name. -/
def directive (block : Text) (entry : Value) : Except Fault Directive :=
  match entryWords block entry with
  | .error e => .error e
  | .ok [] => .error (.emptyDirective block)
  | .ok (name :: args) => .ok ⟨name, args.map .text⟩

/-! ## Blocks -/

/-- No value at all, or an empty text. -/
def isEmpty : Value → Bool
  | .null => true
  | .text t => t.isEmpty
  | _ => false

/-- The entries of a block; an empty value is a block without any. -/
def entries (block : Text) (v : Value) : Except Fault (List Value) :=
  if isEmpty v then .ok []
  else match v with
    | .list items => .ok items
    | _ => .error (.blockNotList block)

/-- A block with its directives. -/
def block (name : Text) (v : Value) : Except Fault (Text × List Directive) := do
  let directives ← (← entries name v).mapM (directive name)
  return (name, directives)

/-! ## Whole documents -/

/-- The blocks of the value under the root key. Every pair of the mapping is one, repeated
names included. -/
def rootBlocks (root : Value) : Except Fault (List (Text × List Directive)) :=
  if isEmpty root then .ok []
  else match root.pairs? with
    | some found => found.mapM fun p => block p.1 p.2
    | none => .error .rootNotMapping

/-- The blocks of a document, in the order they stand. The root key is looked up in the
table; whether it is repeated is told by the pairs. -/
def blocks (v : Value) : Except Fault (List (Text × List Directive)) :=
  match v, v.pairs? with
  | .null, _ => .ok []
  | _, none => .error .notMapping
  | _, some pairs =>
    if 1 < pairs.countP (fun p => p.1 = rootKey) then .error .rootTwice
    else rootBlocks ((v.get? rootKey).getD .null)

/-- Declares blocks in order. -/
def declareAll : List (Text × List Directive) → Draft → Attempt Draft
  | [], d => return d
  | (name, directives) :: rest, d => do
    let (d, _) ← d.declare name directives
    declareAll rest d

/-- The registry that a document makes up. -/
def registry (v : Value) : Attempt Registry := do
  match blocks v with
  | .error e => Attempt.fail e.failure
  | .ok found =>
    let d ← declareAll found {}
    let (_, r) ← d.freeze
    return r

end QuerySieve.Document
