-- The registry of definitions. While it is a draft, blocks are declared in it,
-- each name once; a frozen registry is only read. Names are looked up in lower
-- case and with or without the sigil.
import QuerySieve.Block

namespace QuerySieve

/-! ## Frozen registries -/

/-- Definitions by name, in the order they were registered. -/
structure Registry where
  filters : List (Text × Definition) := []

namespace Registry

/-- The definition of a name. -/
def lookup? (r : Registry) (name : Text) : Option Definition :=
  Pairs.find? (Name.normalize name) r.filters

/-- The names in ascending order. -/
def names (r : Registry) : List Text := (r.filters.map (·.1)).mergeSort Text.le

/-- The names in ascending order, each with its definition. -/
def items (r : Registry) : List (Text × Definition) :=
  r.names.filterMap fun n => (Pairs.find? n r.filters).map (n, ·)

def contains (r : Registry) (name : Text) : Bool :=
  r.filters.any fun f => f.1 = Name.normalize name

def size (r : Registry) : Nat := r.filters.length

/-- How a registry shows itself. -/
def shown (r : Registry) : Text :=
  "FilterRegistry(" ++ (Value.list (r.names.map .text)).shown ++ ")"

/-- The part of the program that registering writes records for. -/
def source : Text := "argsfilter.registry"

end Registry

/-! ## Drafts -/

/-- A registry that still takes declarations, until it is frozen. -/
structure Draft where
  filters : List (Text × Definition) := []
  frozen : Bool := false

/-- A step on a draft, which it changes in place. What it changed stays changed, even
if it ends in trouble after that. -/
abbrev Drafting := ExceptT Trouble (StateT Draft Journaled)

namespace Drafting

/-- A step that has no draft at hand. -/
def ofAttempt {α : Type} (step : Attempt α) : Drafting α :=
  ExceptT.mk (liftM (n := StateT Draft Journaled) step.run)

instance : MonadLift Attempt Drafting := ⟨ofAttempt⟩

/-- Runs a step under a context and goes back to the one before it, however the
step ends. -/
def within {α : Type} (c : Context) (step : Drafting α) : Drafting α :=
  ExceptT.mk fun d => QuerySieve.within c (step.run d)

/-- Fails once the registry was frozen. -/
def ensureOpen : Drafting Unit := do
  if (← getThe Draft).frozen then
    Attempt.fail { kind := .frozen, message := "args_filter registry is frozen" }

/-- Fails if a key is taken. -/
def ensureFree (key : Text) : Drafting Unit := do
  if (← getThe Draft).filters.any fun f => f.1 = key then
    let message := "duplicate args_filter declaration for $" ++ key
    record .error Registry.source message
    Attempt.fail { kind := .duplicate (some key), message }

/-- Registers a compiled definition under a name. -/
def register (name : Text) (definition : Definition) : Drafting Unit := do
  ensureOpen
  let key := Name.normalize name
  ensureFree key
  modifyThe Draft fun d => { d with filters := Pairs.put key definition d.filters }
  record .debug Registry.source ("args_filter: registered variable '$" ++ key ++ "'")

/-- Compiles a block and registers it. The name is checked before any directive is
looked at. -/
def declare (raw : Text) (directives : List Directive) : Drafting Definition := do
  ensureOpen
  let name ← within (.configuring raw) do
    let name ← Block.parseName raw
    ensureFree name
    return name
  let (_, definition) ← Block.compileNamed raw directives
  register name definition
  return definition

/-- Ends the draft: it takes nothing more, and what it holds can be read. -/
def freeze : StateT Draft Journaled Registry := do
  modifyThe Draft fun d => { d with frozen := true }
  let r : Registry := ⟨(← getThe Draft).filters⟩
  record .info Registry.source ("args_filter: " ++ Text.ofNat r.size ++ " filter(s) ready")
  return r

end Drafting

namespace Draft

def contains (d : Draft) (name : Text) : Bool :=
  d.filters.any fun f => f.1 = Name.normalize name

def size (d : Draft) : Nat := d.filters.length

/-- The draft after a step and what the step gave. A draft is dropped with the trouble
that a step on it ends in. -/
def after {α : Type} (d : Draft) (step : Drafting α) : Attempt (Draft × α) :=
  ExceptT.mk do
    let (result, d) ← step.run d
    return result.map fun a => (d, a)

def register (d : Draft) (name : Text) (definition : Definition) : Attempt Draft := do
  return (← d.after (Drafting.register name definition)).1

def declare (d : Draft) (raw : Text) (directives : List Directive) :
    Attempt (Draft × Definition) :=
  d.after (Drafting.declare raw directives)

def freeze (d : Draft) : Journaled (Draft × Registry) := do
  let (r, d) ← Drafting.freeze d
  return (d, r)

end Draft

end QuerySieve
