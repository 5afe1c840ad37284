-- Steps that only write. Compiling and registering do nothing to the journal but write records,
-- under contexts that they open; none of these records comes from matching. What holds for every
-- such step is derived from this once, and not again for each of them.
import Mathlib.Tactic.SplitIfs
import QuerySieve.Proofs.Operations

namespace QuerySieve

/-! ## Ways to build such steps -/

/-- The step only writes records, none of them as a part of matching, and opens contexts. -/
inductive OnlyRecords : {α : Type} → Journaled α → Prop
  | pure {α : Type} (a : α) : OnlyRecords (pure a : Journaled α)
  | bind {α β : Type} {step : Journaled α} {next : α → Journaled β} (first : OnlyRecords step)
      (rest : ∀ a, OnlyRecords (next a)) : OnlyRecords (step >>= next)
  | record (level : Level) {source : Text} (other : source ≠ Matcher.source) (message : Text) :
      OnlyRecords (record level source message)
  | within {α : Type} (c : Context) {step : Journaled α} (inside : OnlyRecords step) :
      OnlyRecords (within c step)

/-- The attempt only writes records. -/
def Attempt.OnlyRecords {α : Type} (step : Attempt α) : Prop := QuerySieve.OnlyRecords step.run

namespace Attempt.OnlyRecords

variable {α β : Type}

theorem pure (a : α) : OnlyRecords (pure a : Attempt α) := QuerySieve.OnlyRecords.pure _

theorem fail (f : Failure) : OnlyRecords (fail f : Attempt α) := QuerySieve.OnlyRecords.pure _

theorem stray (s : Stray) : OnlyRecords (stray s : Attempt α) := QuerySieve.OnlyRecords.pure _

theorem bind {step : Attempt α} {next : α → Attempt β} (first : OnlyRecords step)
    (rest : ∀ a, OnlyRecords (next a)) : OnlyRecords (step >>= next) := by
  change QuerySieve.OnlyRecords (step.run >>= ExceptT.bindCont next)
  apply QuerySieve.OnlyRecords.bind first
  intro r
  cases r with
  | error t => exact QuerySieve.OnlyRecords.pure _
  | ok a => exact rest a

theorem record (level : Level) {source : Text} (other : source ≠ Matcher.source)
    (message : Text) : OnlyRecords (liftM (record level source message) : Attempt Unit) :=
  QuerySieve.OnlyRecords.bind (.record level other message) fun _ => QuerySieve.OnlyRecords.pure _

theorem within {step : Attempt α} (c : Context) (inside : OnlyRecords step) :
    OnlyRecords (within c step) := QuerySieve.OnlyRecords.within c inside

theorem mapFailure {step : Attempt α} (change : Failure → Failure) (inside : OnlyRecords step) :
    OnlyRecords (mapFailure change step) := by
  change QuerySieve.OnlyRecords (ExceptT.tryCatch step _)
  unfold ExceptT.tryCatch
  apply QuerySieve.OnlyRecords.bind inside
  rintro ((f | s) | a)
  · exact QuerySieve.OnlyRecords.pure _
  · exact QuerySieve.OnlyRecords.pure _
  · exact QuerySieve.OnlyRecords.pure _

end Attempt.OnlyRecords

/-- The step only writes records, whatever the draft is. -/
def Drafting.OnlyRecords {α : Type} (step : Drafting α) : Prop :=
  ∀ d, QuerySieve.OnlyRecords (step.run d)

namespace Drafting.OnlyRecords

variable {α β : Type}

theorem pure (a : α) : OnlyRecords (pure a : Drafting α) :=
  fun _ => QuerySieve.OnlyRecords.pure _

theorem bind {step : Drafting α} {next : α → Drafting β} (first : OnlyRecords step)
    (rest : ∀ a, OnlyRecords (next a)) : OnlyRecords (step >>= next) := by
  intro d
  change QuerySieve.OnlyRecords (step.run d >>= fun p => ExceptT.bindCont next p.1 p.2)
  apply QuerySieve.OnlyRecords.bind (first d)
  rintro ⟨r, d'⟩
  cases r with
  | error t => exact QuerySieve.OnlyRecords.pure _
  | ok a => exact rest a d'

theorem get : OnlyRecords (getThe Draft : Drafting Draft) :=
  fun _ => QuerySieve.OnlyRecords.pure _

theorem modify (change : Draft → Draft) : OnlyRecords (modifyThe Draft change : Drafting Unit) :=
  fun _ => QuerySieve.OnlyRecords.pure _

theorem attempt {step : Attempt α} (inside : step.OnlyRecords) :
    OnlyRecords (ofAttempt step) := by
  intro d
  change QuerySieve.OnlyRecords (step.run >>= fun r => Pure.pure (r, d))
  exact QuerySieve.OnlyRecords.bind inside fun _ => QuerySieve.OnlyRecords.pure _

theorem record (level : Level) {source : Text} (other : source ≠ Matcher.source)
    (message : Text) :
    OnlyRecords (liftM (QuerySieve.record level source message) : Drafting Unit) := by
  intro d
  exact QuerySieve.OnlyRecords.bind (.record level other message) fun _ =>
    QuerySieve.OnlyRecords.pure _

theorem within {step : Drafting α} (c : Context) (inside : OnlyRecords step) :
    OnlyRecords (within c step) := fun d => QuerySieve.OnlyRecords.within c (inside d)

end Drafting.OnlyRecords

/-! ## Compiling -/

namespace Block

theorem source_ne : source ≠ Matcher.source := by decide

theorem refuse_records {α : Type} (message : Text) (at_ : Place) :
    Attempt.OnlyRecords (refuse message at_ : Attempt α) :=
  .bind (.record _ source_ne _) fun _ => .fail _

theorem orStray_records {α ε : Type} (stray : ε → Stray) (r : Except ε α) :
    Attempt.OnlyRecords (orStray stray r) := by
  cases r with
  | error e => exact .stray _
  | ok a => exact .pure a

theorem applyInitial_records (d : Directive) (block : Definition) :
    Attempt.OnlyRecords (applyInitial d block) := by
  unfold applyInitial
  split
  · split_ifs
    · exact refuse_records _ _
    · exact .pure _
    · exact .pure _
    · exact refuse_records _ _
  · exact refuse_records _ _

theorem compilePattern_records (d : Directive) (arg : Arg) (ignoreCase : Bool) :
    Attempt.OnlyRecords (compilePattern d arg ignoreCase) := by
  unfold compilePattern
  apply Attempt.OnlyRecords.bind (orStray_records _ _)
  intro octets
  split
  · exact .pure _
  · exact .bind (.record _ source_ne _) fun _ => .fail _
  · exact .stray _

theorem applyRule_records (action : Action) (d : Directive) (block : Definition) :
    Attempt.OnlyRecords (applyRule action d block) := by
  unfold applyRule
  split
  · exact .bind (orStray_records _ _) fun _ => .pure _
  next operator source args =>
    have compiled : ∀ ignoreCase, Attempt.OnlyRecords (do
        let p ← compilePattern d source ignoreCase
        return block.push ⟨action, .pattern p⟩) :=
      fun ignoreCase => .bind (compilePattern_records _ _ _) fun _ => .pure _
    split_ifs
    · exact .bind (.pure false) compiled
    · exact .bind (.pure true) compiled
    · exact .bind (refuse_records _ _) compiled
  · exact refuse_records _ _

theorem apply_records (d : Directive) (block : Definition) :
    Attempt.OnlyRecords (apply d block) := by
  unfold apply
  split_ifs
  · exact applyInitial_records d block
  · exact applyRule_records .keep d block
  · exact applyRule_records .drop d block
  · unfold applyVolatile
    split_ifs
    · exact .pure _
    · exact refuse_records _ _
  · exact refuse_records _ _

theorem applyAll_records (ds : List Directive) (block : Definition) :
    Attempt.OnlyRecords (applyAll ds block) := by
  induction ds generalizing block with
  | nil => exact .pure block
  | cons d ds ih => exact .bind (apply_records d block) ih

theorem compile_records (ds : List Directive) (block : Text) :
    Attempt.OnlyRecords (compile ds block) := by
  apply Attempt.OnlyRecords.bind (.mapFailure _ (applyAll_records ds {}))
  intro d
  exact .bind (.record _ source_ne _) fun _ => .pure d

theorem parseName_records (raw : Text) : Attempt.OnlyRecords (parseName raw) := by
  unfold parseName
  split
  · exact .pure _
  · exact refuse_records _ _

theorem compileNamed_records (raw : Text) (ds : List Directive) :
    Attempt.OnlyRecords (compileNamed raw ds) := by
  apply Attempt.OnlyRecords.within
  apply Attempt.OnlyRecords.bind (parseName_records raw)
  intro name
  exact .bind (compile_records ds raw) fun d => .pure (name, d)

end Block

theorem Pattern.compileArg_records (source : Arg) (ignoreCase : Bool) :
    Attempt.OnlyRecords (compileArg source ignoreCase) :=
  .bind (Block.orStray_records _ _) fun _ => Block.orStray_records _ _

/-! ## Registering -/

theorem Registry.source_ne : source ≠ Matcher.source := by decide

namespace Drafting

theorem ensureOpen_records : OnlyRecords ensureOpen := by
  apply OnlyRecords.bind .get
  intro d
  split
  · exact .attempt (.fail _)
  · exact .pure ()

theorem ensureFree_records (key : Text) : OnlyRecords (ensureFree key) := by
  apply OnlyRecords.bind .get
  intro d
  split
  · exact .bind (.record _ Registry.source_ne _) fun _ => .attempt (.fail _)
  · exact .pure ()

theorem register_records (name : Text) (definition : Definition) :
    OnlyRecords (register name definition) := by
  apply OnlyRecords.bind ensureOpen_records
  intro _
  apply OnlyRecords.bind (ensureFree_records _)
  intro _
  exact .bind (.modify _) fun _ => .record _ Registry.source_ne _

theorem declare_records (raw : Text) (ds : List Directive) : OnlyRecords (declare raw ds) := by
  apply OnlyRecords.bind ensureOpen_records
  intro _
  apply OnlyRecords.bind
  · apply OnlyRecords.within
    apply OnlyRecords.bind (.attempt (Block.parseName_records raw))
    intro name
    exact .bind (ensureFree_records name) fun _ => .pure name
  · intro name
    apply OnlyRecords.bind (.attempt (Block.compileNamed_records raw ds))
    rintro ⟨key, definition⟩
    exact .bind (register_records name definition) fun _ => .pure definition

theorem freeze_records (d : Draft) : QuerySieve.OnlyRecords (freeze d) :=
  QuerySieve.OnlyRecords.bind (.record _ Registry.source_ne _) fun _ => .pure _

end Drafting

theorem Call.perform_records (c : Call) : Drafting.OnlyRecords c.perform := by
  cases c with
  | declare raw ds => exact .bind (Drafting.declare_records raw ds) fun _ => .pure _
  | register name definition =>
    exact .bind (Drafting.register_records name definition) fun _ => .pure _
  | freeze =>
    intro d
    exact OnlyRecords.bind (Drafting.freeze_records d) fun _ => .pure _

/-! ## At the bench -/

/-- The operation searches for no key and has no use for the count of faults: it compiles,
registers or looks something up. -/
def Operation.isPlain : Operation → Bool
  | .keep _ _ | .askEach _ _ | .filter _ _ | .evaluate _ _ _ | .faults | .resetFaults => false
  | _ => true

namespace Bench

theorem attempt_records {α : Type} (b : Bench) {step : Attempt α} (keep : α → Answer × Bench)
    (inside : step.OnlyRecords) : OnlyRecords (b.attempt step keep) := by
  apply OnlyRecords.bind inside
  intro r
  cases r with
  | ok a => exact .pure _
  | error t => exact .pure _

theorem perform_records (b : Bench) {o : Operation} (plain : o.isPlain = true) :
    OnlyRecords (b.perform o) := by
  cases o with
  | pattern action source ignoreCase =>
    exact b.attempt_records _ (Pattern.compileArg_records source ignoreCase)
  | compile directives block => exact b.attempt_records _ (Block.compile_records directives block)
  | compileNamed raw directives =>
    exact b.attempt_records _ (Block.compileNamed_records raw directives)
  | call c => exact .bind (c.perform_records b.draft) fun _ => .pure _
  | keep | askEach | filter | evaluate | faults | resetFaults => cases plain
  | setInitial | markVolatile | push | build | holds | size | lookup | names => exact .pure _

end Bench

end QuerySieve
