-- Blocks of directives. The directives of a block are applied in order to a
-- definition that starts out empty; the first one that is not valid ends the
-- block with a failure, and nothing of the block is left.
import QuerySieve.Name
import QuerySieve.Rule

namespace QuerySieve

/-! ## Directives -/

/-- An argument of a directive, as text or as bytes. -/
inductive Arg
  | text (t : Text)
  | bytes (b : Bytes)
  deriving DecidableEq, Repr

namespace Arg

/-- The argument as text; malformed bytes show as replacement marks. -/
def asText : Arg → Text
  | .text t => t
  | .bytes b => b.decodeReplacing

/-- The octets of the argument. -/
def asBytes : Arg → Except Unencodable Bytes
  | .text t => t.encode
  | .bytes b => .ok b

end Arg

structure Directive where
  name : Text
  args : List Arg
  deriving DecidableEq, Repr

/-! ## Complaints -/

namespace Block

/-- What can be wrong with a directive, a pattern apart. -/
inductive Fault
  | arity (directive : Text)
  | initialTwice
  | initialValue
  | operator (directive : Text)
  | unknownDirective
  deriving DecidableEq, Repr

def Fault.message : Fault → Text
  | .arity d => "invalid number of arguments in \"" ++ d ++ "\" directive"
  | .initialTwice => "\"initial\" directive is duplicate"
  | .initialValue => "\"initial\" must be \"all\" or \"none\""
  | .operator d => "\"" ++ d ++ "\" expects literal, \"~\", or \"~*\""
  | .unknownDirective => "unknown directive inside args_filter block"

/-- The part of the program that compiling writes records for. -/
def source : Text := "argsfilter.compiler"

/-- Records what is wrong and fails with it. -/
def refuse {α : Type} (message : Text) (at_ : Place) : Attempt α := do
  record .error source message
  Attempt.fail { kind := .directive at_, message }

/-- Refuses a directive. -/
def refuseDirective {α : Type} (fault : Fault) (d : Directive) : Attempt α :=
  refuse fault.message { directive := some d.name, args := d.args.map Arg.asText }

/-! ## One directive -/

/-- Takes a result or ends in a stray error. -/
def orStray {α ε : Type} (stray : ε → Stray) : Except ε α → Attempt α
  | .ok a => return a
  | .error e => Attempt.stray (stray e)

/-- `initial` takes `all` or `none`, and stands once in a block. -/
def applyInitial (d : Directive) (block : Definition) : Attempt Definition :=
  match d.args with
  | [value] =>
    if block.initialSet then refuseDirective .initialTwice d
    else if value.asText = Text.ofString "all" then return block.setInitial .all
    else if value.asText = Text.ofString "none" then return block.setInitial .none
    else refuseDirective .initialValue d
  | _ => refuseDirective (.arity d.name) d

/-- Compiles the pattern of a directive. -/
def compilePattern (d : Directive) (arg : Arg) (ignoreCase : Bool) : Attempt Pattern := do
  let bytes ← orStray .unencodable arg.asBytes
  match Pattern.compile bytes ignoreCase with
  | .ok p => return p
  | .error (.malformed cause place) =>
    let said := (Pattern.Complaint.malformed cause place).message bytes
    let message := "failed to compile regex: " ++ said
    record .error source message
    Attempt.fail {
      kind := .pattern { directive := some d.name, args := d.args.map Arg.asText } (some arg.asText)
      message
      cause := some ⟨"error", said⟩ }
  | .error complaint => Attempt.stray (.pattern complaint bytes)

/-- `include` and `exclude` take a literal key, or `~` or `~*` and a pattern. -/
def applyRule (action : Action) (d : Directive) (block : Definition) : Attempt Definition :=
  match d.args with
  | [key] => do
    let key ← orStray .unencodable key.asBytes
    return block.push ⟨action, .literal key⟩
  | [operator, pattern] => do
    let ignoreCase ←
      if operator.asText = Text.ofString "~" then pure false
      else if operator.asText = Text.ofString "~*" then pure true
      else refuseDirective (.operator d.name) d
    let p ← compilePattern d pattern ignoreCase
    return block.push ⟨action, .pattern p⟩
  | _ => refuseDirective (.arity d.name) d

/-- `volatile` takes nothing. -/
def applyVolatile (d : Directive) (block : Definition) : Attempt Definition :=
  if d.args.isEmpty then return block.markVolatile else refuseDirective (.arity d.name) d

/-- Applies one directive to what the ones before it made. -/
def apply (d : Directive) (block : Definition) : Attempt Definition :=
  if d.name = Text.ofString "initial" then applyInitial d block
  else if d.name = Action.keep.name then applyRule .keep d block
  else if d.name = Action.drop.name then applyRule .drop d block
  else if d.name = Text.ofString "volatile" then applyVolatile d block
  else refuseDirective .unknownDirective d

/-! ## Whole blocks -/

/-- Applies directives in order. -/
def applyAll : List Directive → Definition → Attempt Definition
  | [], block => return block
  | d :: ds, block => do applyAll ds (← apply d block)

/-- Compiles the directives of a block whose name was written so. -/
def compile (directives : List Directive) (block : Text := "-") : Attempt Definition := do
  let d ← Attempt.mapFailure (Failure.inBlock block) (applyAll directives {})
  record .debug source
    ("args_filter: compiled block '" ++ block ++ "' initial=" ++ d.initial.name ++ " volatile="
      ++ Definition.truth d.volatile ++ " rules=" ++ Text.ofNat d.rules.length)
  return d

/-- Reads a declared name. -/
def parseName (raw : Text) : Attempt Text :=
  match Name.parse raw with
  | .ok name => return name
  | .error fault => refuse fault.message { block := some raw }

/-- Compiles a block with its name. -/
def compileNamed (raw : Text) (directives : List Directive) : Attempt (Text × Definition) :=
  Attempt.within (.configuring raw) do
    let name ← parseName raw
    let d ← compile directives raw
    return (name, d)

end Block

end QuerySieve
