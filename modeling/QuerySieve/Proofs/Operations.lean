-- Runs of every kind of operation. At one bench lie the definition under construction, the
-- definitions that were made, a draft and the registries that were frozen from it. An operation
-- that ends in trouble leaves the bench as it was, and the run goes on.
import QuerySieve.Evaluation
import QuerySieve.Proofs.Runs

namespace QuerySieve

/-! ## The bench -/

/-- What lies at hand between two operations. -/
structure Bench where
  /-- The definition under construction. -/
  block : Definition := {}
  /-- The definitions that were made, an empty one first. -/
  definitions : List Definition := [{}]
  draft : Draft := {}
  /-- The registries that were frozen, an empty one first. -/
  registries : List Registry := [{}]

namespace Bench

/-- A definition that was made; the empty one where there is none. -/
def definition (b : Bench) (index : Nat) : Definition := b.definitions.getD index {}

/-- A registry that was frozen; the empty one where there is none. -/
def registry (b : Bench) (index : Nat) : Registry := b.registries.getD index {}

/-- Puts a rule into the definition under construction. -/
def push (b : Bench) (r : Rule) : Bench := { b with block := b.block.push r }

/-- Puts a definition to those that were made. -/
def make (b : Bench) (d : Definition) : Bench := { b with definitions := b.definitions ++ [d] }

/-- The bench after a call on its draft. -/
def afterCall (b : Bench) (d : Draft) : Except Trouble Reply → Bench
  | .ok (.declared definition) => { b.make definition with draft := d }
  | .ok (.frozen r) => { b with draft := d, registries := b.registries ++ [r] }
  | _ => { b with draft := d }

end Bench

/-! ## Operations -/

/-- One thing to do at the bench. -/
inductive Operation
  | setInitial (p : Policy)
  | markVolatile
  | push (r : Rule)
  /-- Compiles a pattern and puts a rule with it. -/
  | pattern (action : Action) (source : Arg) (ignoreCase : Bool)
  /-- Makes the definition under construction as it now is. -/
  | build
  | compile (directives : List Directive) (block : Text)
  | compileNamed (raw : Text) (directives : List Directive)
  /-- Asks a definition whether it keeps a key. -/
  | keep (index : Nat) (key : Bytes)
  /-- Asks each rule of a definition for itself. -/
  | askEach (index : Nat) (key : Bytes)
  | filter (index : Nat) (query : Bytes)
  | call (c : Call)
  | holds (name : Text)
  | size
  | lookup (index : Nat) (name : Text)
  | names (index : Nat)
  | evaluate (index : Nat) (name : Text) (query : Bytes)
  | faults
  | resetFaults

/-- What an operation answers. -/
inductive Answer
  | done
  | rule (r : Rule)
  | definition (d : Definition)
  | named (name : Text) (d : Definition)
  | truth (b : Bool)
  | truths (bs : List Bool)
  | bytes (b : Bytes)
  | reply (r : Reply)
  | found (d : Option Definition)
  | names (names : List Text)
  | count (n : Nat)
  | value (e : Option Evaluated)

/-- Compiles a pattern that stands in no directive. -/
def Pattern.compileArg (source : Arg) (ignoreCase : Bool) : Attempt Pattern := do
  let octets ← Block.orStray .unencodable source.asBytes
  Block.orStray (fun complaint => .pattern complaint octets) (Pattern.compile octets ignoreCase)

/-- The count of faults. -/
def faultCount : Journaled Nat := fun j => (j.faults, j)

namespace Bench

/-- Runs an attempt, and answers and keeps what it gives. -/
def attempt {α : Type} (b : Bench) (step : Attempt α) (keep : α → Answer × Bench) :
    Journaled (Except Trouble Answer × Bench) := do
  match ← step.run with
  | .ok a => return (.ok (keep a).1, (keep a).2)
  | .error t => return (.error t, b)

/-- Runs a step that only answers. -/
def reply {α : Type} (b : Bench) (step : Journaled α) (answer : α → Answer) :
    Journaled (Except Trouble Answer × Bench) := do
  return (.ok (answer (← step)), b)

/-- Performs one operation: the answer, and the bench after it. -/
def perform (b : Bench) : Operation → Journaled (Except Trouble Answer × Bench)
  | .setInitial p => return (.ok .done, { b with block := b.block.setInitial p })
  | .markVolatile => return (.ok .done, { b with block := b.block.markVolatile })
  | .push r => return (.ok (.rule r), b.push r)
  | .pattern action source ignoreCase =>
    b.attempt (Pattern.compileArg source ignoreCase) fun p =>
      (.rule ⟨action, .pattern p⟩, b.push ⟨action, .pattern p⟩)
  | .build => return (.ok (.definition b.block), b.make b.block)
  | .compile directives block =>
    b.attempt (Block.compile directives block) fun d => (.definition d, b.make d)
  | .compileNamed raw directives =>
    b.attempt (Block.compileNamed raw directives) fun (name, d) => (.named name d, b.make d)
  | .keep index key => b.reply ((b.definition index).shouldKeep key) .truth
  | .askEach index key =>
    b.reply ((b.definition index).rules.mapM fun r => r.matcher.matches_ key) .truths
  | .filter index query => b.reply (Query.filterM (b.definition index).shouldKeep query) .bytes
  | .call c => do
    let (result, d) ← c.perform.run b.draft
    return (result.map Answer.reply, b.afterCall d result)
  | .holds name => return (.ok (.truth (b.draft.contains name)), b)
  | .size => return (.ok (.count b.draft.size), b)
  | .lookup index name => return (.ok (.found ((b.registry index).lookup? name)), b)
  | .names index => return (.ok (.names (b.registry index).names), b)
  | .evaluate index name query => b.reply ((b.registry index).evaluate name query) .value
  | .faults => b.reply faultCount .count
  | .resetFaults => b.reply QuerySieve.resetFaults fun _ => .done

/-- Performs operations one after another. Trouble in one does not end the run. -/
def performAll (b : Bench) : List Operation → Journaled (List (Except Trouble Answer) × Bench)
  | [] => return ([], b)
  | o :: os => do
    let (answer, b) ← b.perform o
    let (answers, b) ← performAll b os
    return (answer :: answers, b)

end Bench

end QuerySieve
