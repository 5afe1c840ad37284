-- The laws of tags. A record carries the context that is open where it is written, and a step that
-- opens a context goes back to the one before it however it ends. So each record of a run tells the
-- operation that wrote it: a query that was filtered, or a block that was read.
import QuerySieve.Proofs.Escapes
import QuerySieve.Proofs.Filtering
import QuerySieve.Proofs.Operations

namespace QuerySieve

/-! ## What a step writes -/

/-- One journal comes out of another by records that were written after those there were. -/
structure Journal.Adds (j : Journal) (new : List Record) (j' : Journal) : Prop where
  threshold : j'.threshold = j.threshold
  context : j'.context = j.context
  records : j'.records.toList = j.records.toList ++ new

namespace Journal.Adds

variable {j j' j'' : Journal} {new more : List Record}

theorem refl (j : Journal) : j.Adds [] j := ⟨rfl, rfl, (List.append_nil _).symm⟩

theorem trans (h : j.Adds new j') (h' : j'.Adds more j'') : j.Adds (new ++ more) j'' := by
  refine ⟨h'.threshold.trans h.threshold, h'.context.trans h.context, ?_⟩
  rw [h'.records, h.records, List.append_assoc]

/-- The record that is written, unless its level is not kept. -/
theorem write (level : Level) (source message : Text) (j : Journal) :
    j.Adds (if j.threshold.keeps level then [⟨level, source, j.context, message⟩] else [])
      (j.write level source message) := by
  unfold Journal.write
  split
  · exact ⟨rfl, rfl, by simp⟩
  · exact refl j

end Journal.Adds

/-- All that a step writes has a tag, which may depend on the context that the step is taken in. -/
def Tags {α : Type} (tag : Context → Context) (step : Journaled α) : Prop :=
  ∀ j : Journal, ∃ new, j.Adds new (step j).2 ∧ ∀ r ∈ new, r.context = tag j.context

/-- The messages of the errors among records. -/
def errorsOf (records : List Record) : List Text :=
  (records.filter fun r => r.level = .error).map Record.message

theorem errorsOf_append (new more : List Record) :
    errorsOf (new ++ more) = errorsOf new ++ errorsOf more := by
  simp [errorsOf]

/-- Likewise, and the errors that a step writes are the messages that its result stands for, if
errors are kept at all. -/
def Tells {α : Type} (tag : Context → Context) (messages : α → List Text) (step : Journaled α) :
    Prop :=
  ∀ j : Journal, ∃ new, j.Adds new (step j).2 ∧ (∀ r ∈ new, r.context = tag j.context) ∧
    errorsOf new = if j.threshold.keeps .error then messages (step j).1 else []

/-- Records with one tag before records with one tag. -/
theorem tagged_append {new more : List Record} {c : Context} (h : ∀ r ∈ new, r.context = c)
    (h' : ∀ r ∈ more, r.context = c) : ∀ r ∈ new ++ more, r.context = c := by
  intro r hr
  rcases List.mem_append.mp hr with hr | hr
  · exact h r hr
  · exact h' r hr

theorem tagged_write (level : Level) (source message : Text) (j : Journal) :
    ∀ r ∈ (if j.threshold.keeps level then [⟨level, source, j.context, message⟩] else
      ([] : List Record)), r.context = j.context := by
  intro r hr
  split at hr
  · rw [List.mem_singleton.mp hr]
  · cases hr

/-! ## Steps that only tag -/

namespace Tags

variable {α β : Type} {tag : Context → Context}

theorem pure (a : α) : Tags tag (pure a) := by
  intro j
  exact ⟨[], .refl j, by simp⟩

theorem bind {step : Journaled α} {next : α → Journaled β} (hs : Tags tag step)
    (hn : ∀ a, Tags tag (next a)) : Tags tag (step >>= next) := by
  intro j
  obtain ⟨new, adds, tagged⟩ := hs j
  obtain ⟨more, adds', tagged'⟩ := hn (step j).1 (step j).2
  rw [adds.context] at tagged'
  exact ⟨new ++ more, adds.trans adds', tagged_append tagged tagged'⟩

theorem map (f : α → β) {step : Journaled α} (h : Tags tag step) : Tags tag (f <$> step) := by
  rw [map_eq_pure_bind]
  exact bind h fun a => pure (f a)

theorem record (level : Level) (source message : Text) :
    Tags id (record level source message) := by
  intro j
  exact ⟨_, .write level source message j, tagged_write level source message j⟩

theorem isEnabled {next : Bool → Journaled β} (level : Level)
    (hn : ∀ enabled, Tags tag (next enabled)) : Tags tag (isEnabled level >>= next) :=
  fun j => hn (j.threshold.keeps level) j

theorem whenEnabled {step : Journaled Unit} (level : Level) (h : Tags tag step) :
    Tags tag (whenEnabled level step) := by
  apply isEnabled
  intro enabled
  cases enabled with
  | true => exact h
  | false => exact pure ()

/-- A step under a context of its own tags with this one, and the one before is back after it. -/
theorem within {step : Journaled α} (c : Context) (h : Tags id step) :
    Tags (fun _ => c) (within c step) := by
  intro j
  obtain ⟨new, adds, tagged⟩ := h { j with context := c }
  exact ⟨new, ⟨adds.threshold, rfl, adds.records⟩, tagged⟩

theorem countFault : Tags tag countFault := by
  intro j
  exact ⟨[], ⟨rfl, rfl, by simp [QuerySieve.countFault]⟩, by simp⟩

theorem mapM {step : α → Journaled β} (h : ∀ a, Tags tag (step a)) (xs : List α) :
    Tags tag (xs.mapM step) := by
  induction xs with
  | nil => exact pure []
  | cons x xs ih =>
    rw [List.mapM_cons]
    exact bind (h x) fun b => bind ih fun bs => pure (b :: bs)

end Tags

theorem Tells.tags {α : Type} {tag : Context → Context} {messages : α → List Text}
    {step : Journaled α} (h : Tells tag messages step) : Tags tag step := by
  intro j
  obtain ⟨new, adds, tagged, -⟩ := h j
  exact ⟨new, adds, tagged⟩

/-! ## Filtering a query -/

/-- A search that breaks off is recorded under the context of the query. -/
theorem Matcher.matches_tags (m : Matcher) (key : Bytes) : Tags id (m.matches_ key) := by
  cases m with
  | literal k => exact .pure _
  | pattern p => exact .pure _
  | faulty source ignoreCase error =>
    apply Tags.bind .countFault
    intro faults
    exact .bind (.record _ _ _) fun _ => .pure false

namespace Definition

theorem trace_tags (tracing : Bool) (key : Bytes) (line : Text) :
    Tags id (trace tracing key line) := by
  unfold trace
  split
  · exact .record _ _ _
  · exact .pure ()

theorem ask_tags (tracing : Bool) (key : Bytes) (keep : Bool) (index : Nat) (r : Rule) :
    Tags id (ask tracing key keep index r) := by
  unfold ask
  apply Tags.bind (r.matcher.matches_tags key)
  intro found
  cases found with
  | true => exact .bind (trace_tags _ _ _) fun _ => .pure _
  | false => exact .bind (trace_tags _ _ _) fun _ => .pure _

theorem askAll_tags (tracing : Bool) (key : Bytes) (keep : Bool) (index : Nat)
    (rules : List Rule) : Tags id (askAll tracing key keep index rules) := by
  induction rules generalizing keep index with
  | nil => exact .pure keep
  | cons r rules ih => exact .bind (ask_tags tracing key keep index r) fun keep => ih keep _

theorem shouldKeep_tags (d : Definition) (key : Bytes) : Tags id (d.shouldKeep key) := by
  unfold shouldKeep
  apply Tags.isEnabled
  intro tracing
  split
  · exact .bind (trace_tags _ _ _) fun _ => .pure _
  · apply Tags.bind (trace_tags _ _ _)
    intro _
    apply Tags.bind (askAll_tags _ _ _ _ _)
    intro keep
    exact .bind (trace_tags _ _ _) fun _ => .pure keep

end Definition

theorem Query.filterM_tags {keep : Bytes → Journaled Bool} (h : ∀ k, Tags id (keep k))
    (q : Bytes) : Tags id (filterM keep q) := by
  rw [filterM_eq]
  exact .map _ (.mapM (fun s => h (splitKey s)) _)

theorem Registry.evaluate_tags (r : Registry) (name : Text) (q : Bytes) :
    Tags (fun _ => .serving name) (r.evaluate name q) := by
  unfold evaluate
  apply Tags.within
  cases r.lookup? name with
  | none => exact .bind (.record _ _ _) fun _ => .pure none
  | some d =>
    apply Tags.bind (.whenEnabled _ (.record _ _ _))
    intro _
    cases d.isIdentity with
    | true => exact .bind (.record _ _ _) fun _ => .pure _
    | false =>
      apply Tags.bind (Query.filterM_tags d.shouldKeep_tags q)
      intro filtered
      exact .bind (.whenEnabled _ (.record _ _ _)) fun _ => .pure _

/-! ## Attempts -/

/-- A step that writes nothing, where there is nothing to tell. -/
theorem Tells.silent {α : Type} {tag : Context → Context} {messages : α → List Text}
    {step : Journaled α} (same : ∀ j, (step j).2 = j) (nothing : ∀ j, messages (step j).1 = []) :
    Tells tag messages step := by
  intro j
  rw [same, nothing]
  exact ⟨[], .refl j, by simp, (ite_self _).symm⟩

/-- The messages of a step come before those of the rest, which may depend on what it gave. -/
theorem Tells.bind {α β : Type} {tag : Context → Context} {messages : α → List Text}
    (rest : α → β → List Text) {all : β → List Text} {step : Journaled α}
    {next : α → Journaled β} (hs : Tells tag messages step) (hn : ∀ a, Tells tag (rest a) (next a))
    (join : ∀ a j, all (next a j).1 = messages a ++ rest a (next a j).1) :
    Tells tag all (step >>= next) := by
  intro j
  obtain ⟨new, adds, tagged, errors⟩ := hs j
  obtain ⟨more, adds', tagged', errors'⟩ := hn (step j).1 (step j).2
  rw [adds.context] at tagged'
  refine ⟨new ++ more, adds.trans adds', tagged_append tagged tagged', ?_⟩
  change _ = if _ then all (next (step j).1 (step j).2).1 else []
  rw [errorsOf_append, errors, errors', adds.threshold, join]
  split <;> rfl

/-- What is told of a result: each failure once, but not that a draft is frozen. -/
def told {α : Type} : Except Trouble α → List Text
  | .error (.failure f) => if f.kind = .frozen then [] else [f.message]
  | .error (.stray _) | .ok _ => []

/-- Whatever fails in the attempt is told, once. -/
def Attempt.Tells {α : Type} (tag : Context → Context) (step : Attempt α) : Prop :=
  QuerySieve.Tells tag told step.run

/-- What is left to be told after a step. Where it failed, that is told already. -/
def Attempt.leftToTell {α β : Type} : Except Trouble α → Except Trouble β → List Text
  | .ok _ => told
  | .error _ => fun _ => []

namespace Attempt.Tells

variable {α β : Type} {tag : Context → Context}

theorem pure (a : α) : Tells tag (pure a : Attempt α) :=
  QuerySieve.Tells.silent (fun _ => rfl) fun _ => rfl

theorem stray (s : Stray) : Tells tag (stray s : Attempt α) :=
  QuerySieve.Tells.silent (fun _ => rfl) fun _ => rfl

theorem bind {step : Attempt α} {next : α → Attempt β} (hs : Tells tag step)
    (hn : ∀ a, Tells tag (next a)) : Tells tag (step >>= next) := by
  change QuerySieve.Tells tag told (step.run >>= ExceptT.bindCont next)
  apply QuerySieve.Tells.bind leftToTell hs
  · rintro (t | a)
    · exact .silent (fun _ => rfl) fun _ => rfl
    · exact hn a
  · rintro ((f | s) | a) j
    · exact (List.append_nil _).symm
    · rfl
    · rfl

/-- What is no error may be recorded at any time. -/
theorem record {level : Level} (quiet : level ≠ .error) (source message : Text) :
    Tells id (liftM (record level source message) : Attempt Unit) := by
  intro j
  refine ⟨_, .write level source message j, tagged_write level source message j, ?_⟩
  change _ = if _ then [] else []
  rw [ite_self]
  split
  · simp [errorsOf, quiet]
  · rfl

/-- An error is recorded, and then its message is that of the failure. -/
theorem fail (source : Text) {f : Failure} (unfrozen : f.kind ≠ .frozen) :
    Tells id (do
      QuerySieve.record .error source f.message
      Attempt.fail f : Attempt α) := by
  intro j
  refine ⟨_, .write .error source f.message j, tagged_write .error source f.message j, ?_⟩
  change _ = if _ then told (.error (.failure f) : Except Trouble α) else []
  rw [told, if_neg unfrozen]
  split
  · simp [errorsOf]
  · rfl

theorem within {step : Attempt α} (c : Context) (h : Tells id step) :
    Tells (fun _ => c) (within c step) := by
  intro j
  obtain ⟨new, adds, tagged, errors⟩ := h { j with context := c }
  exact ⟨new, ⟨adds.threshold, rfl, adds.records⟩, tagged, errors⟩

/-- The change leaves what is told of each failure. -/
theorem mapFailure {step : Attempt α} {change : Failure → Failure} (h : Tells tag step)
    (same : ∀ f, told (.error (.failure (change f)) : Except Trouble α) =
      told (.error (.failure f) : Except Trouble α)) :
    Tells tag (mapFailure change step) := by
  unfold Tells Attempt.mapFailure
  change QuerySieve.Tells tag told (ExceptT.tryCatch step _)
  unfold ExceptT.tryCatch
  apply QuerySieve.Tells.bind (fun _ _ => []) h
  · rintro ((f | s) | a)
    · exact .silent (fun _ => rfl) fun _ => rfl
    · exact .silent (fun _ => rfl) fun _ => rfl
    · exact .silent (fun _ => rfl) fun _ => rfl
  · rintro ((f | s) | a) j
    · exact (same f).trans (List.append_nil _).symm
    · rfl
    · rfl

end Attempt.Tells

/-! ## Blocks -/

namespace Block

theorem refuse_tells {α : Type} (message : Text) (at_ : Place) :
    Attempt.Tells id (refuse message at_ : Attempt α) := by
  apply Attempt.Tells.fail
  simp

theorem orStray_tells {α ε : Type} (stray : ε → Stray) (e : Except ε α) :
    Attempt.Tells id (orStray stray e) := by
  cases e with
  | ok a => exact .pure a
  | error e => exact .stray _

theorem applyInitial_tells (d : Directive) (block : Definition) :
    Attempt.Tells id (applyInitial d block) := by
  unfold applyInitial
  split
  · split_ifs
    · exact refuse_tells _ _
    · exact .pure _
    · exact .pure _
    · exact refuse_tells _ _
  · exact refuse_tells _ _

theorem compilePattern_tells (d : Directive) (arg : Arg) (ignoreCase : Bool) :
    Attempt.Tells id (compilePattern d arg ignoreCase) := by
  apply Attempt.Tells.bind (orStray_tells _ _)
  intro bytes
  split
  · exact .pure _
  · apply Attempt.Tells.fail
    simp
  · exact .stray _

theorem applyRule_tells (action : Action) (d : Directive) (block : Definition) :
    Attempt.Tells id (applyRule action d block) := by
  unfold applyRule
  split
  · exact .bind (orStray_tells _ _) fun _ => .pure _
  next operator source args =>
    have compiled : ∀ ignoreCase, Attempt.Tells id (do
        let p ← compilePattern d source ignoreCase
        return block.push ⟨action, .pattern p⟩) :=
      fun ignoreCase => .bind (compilePattern_tells _ _ _) fun _ => .pure _
    split_ifs
    · exact .bind (.pure false) compiled
    · exact .bind (.pure true) compiled
    · exact .bind (refuse_tells _ _) compiled
  · exact refuse_tells _ _

theorem apply_tells (d : Directive) (block : Definition) : Attempt.Tells id (apply d block) := by
  unfold apply
  split_ifs
  · exact applyInitial_tells d block
  · exact applyRule_tells .keep d block
  · exact applyRule_tells .drop d block
  · unfold applyVolatile
    split_ifs
    · exact .pure _
    · exact refuse_tells _ _
  · exact refuse_tells _ _

theorem applyAll_tells (ds : List Directive) (block : Definition) :
    Attempt.Tells id (applyAll ds block) := by
  induction ds generalizing block with
  | nil => exact .pure block
  | cons d ds ih => exact .bind (apply_tells d block) ih

/-- To put a failure into its block changes neither its message nor that it is told. -/
theorem told_inBlock {α : Type} (block : Text) (f : Failure) :
    told (.error (.failure (f.inBlock block)) : Except Trouble α) =
      told (.error (.failure f) : Except Trouble α) := by
  unfold Failure.inBlock
  split
  next kind => simp [told, kind]
  next kind => simp [told, kind]
  · rfl

theorem compile_tells (ds : List Directive) (block : Text) :
    Attempt.Tells id (compile ds block) := by
  apply Attempt.Tells.bind ((applyAll_tells ds {}).mapFailure (told_inBlock block))
  intro d
  exact .bind (.record (by decide) _ _) fun _ => .pure d

theorem parseName_tells (raw : Text) : Attempt.Tells id (parseName raw) := by
  unfold parseName
  split
  · exact .pure _
  · exact refuse_tells _ _

theorem compileNamed_tells (raw : Text) (ds : List Directive) :
    Attempt.Tells (fun _ => .configuring raw) (compileNamed raw ds) := by
  apply Attempt.Tells.within
  apply Attempt.Tells.bind (parseName_tells raw)
  intro name
  exact .bind (compile_tells ds raw) fun d => .pure (name, d)

end Block

theorem Pattern.compileArg_tells (source : Arg) (ignoreCase : Bool) :
    Attempt.Tells id (compileArg source ignoreCase) :=
  .bind (Block.orStray_tells _ _) fun _ => Block.orStray_tells _ _

/-! ## Steps on a draft -/

namespace Drafting

/-- Whatever fails in a step on a draft is told, once. -/
def Tells {α : Type} (tag : Context → Context) (step : Drafting α) : Prop :=
  ∀ d : Draft, QuerySieve.Tells tag (fun p => told p.1) (step.run d)

namespace Tells

variable {α β : Type} {tag : Context → Context}

theorem pure (a : α) : Tells tag (pure a) := fun _ => .silent (fun _ => rfl) fun _ => rfl

theorem bind {step : Drafting α} {next : α → Drafting β} (hs : Tells tag step)
    (hn : ∀ a, Tells tag (next a)) : Tells tag (step >>= next) := by
  intro d
  change QuerySieve.Tells tag _ (step.run d >>= fun p => ExceptT.bindCont next p.1 p.2)
  apply QuerySieve.Tells.bind (fun p p' => Attempt.leftToTell p.1 p'.1) (hs d)
  · rintro ⟨t | a, d'⟩
    · exact .silent (fun _ => rfl) fun _ => rfl
    · exact hn a d'
  · rintro ⟨(f | s) | a, d'⟩ j
    · exact (List.append_nil _).symm
    · rfl
    · rfl

theorem attempt {step : Attempt α} (h : step.Tells tag) : Tells tag (ofAttempt step) := by
  intro d
  change QuerySieve.Tells tag _ (step.run >>= fun r => Pure.pure (r, d))
  apply QuerySieve.Tells.bind (fun _ _ => []) h
  · exact fun _ => .silent (fun _ => rfl) fun _ => rfl
  · exact fun r j => (List.append_nil _).symm

theorem within {step : Drafting α} (c : Context) (h : Tells id step) :
    Tells (fun _ => c) (within c step) := by
  intro d j
  obtain ⟨new, adds, tagged, errors⟩ := h d { j with context := c }
  exact ⟨new, ⟨adds.threshold, rfl, adds.records⟩, tagged, errors⟩

theorem get : Tells tag (getThe Draft) := fun _ => .silent (fun _ => rfl) fun _ => rfl

theorem modify (change : Draft → Draft) : Tells tag (modifyThe Draft change) :=
  fun _ => .silent (fun _ => rfl) fun _ => rfl

end Tells

/-- That the draft is frozen is written nowhere. -/
theorem ensureOpen_tells (tag : Context → Context) : Tells tag ensureOpen := by
  apply Tells.bind .get
  intro d
  split
  · exact .attempt (.silent (fun _ => rfl) fun _ => rfl)
  · exact .pure ()

theorem ensureFree_tells (key : Text) : Tells id (ensureFree key) := by
  apply Tells.bind .get
  intro d
  split
  · have unfrozen : (Draft.duplicateRefusal key).kind ≠ .frozen := by
      simp [Draft.duplicateRefusal]
    exact .attempt (.fail Registry.source unfrozen)
  · exact .pure ()

theorem register_tells (name : Text) (definition : Definition) :
    Tells id (register name definition) := by
  apply Tells.bind (ensureOpen_tells id)
  intro _
  apply Tells.bind (ensureFree_tells _)
  intro _
  apply Tells.bind (.modify _)
  intro _
  exact .attempt (.record (by decide) _ _)

theorem freeze_tags (d : Draft) : Tags id (freeze d) := .bind (.record _ _ _) fun _ => .pure _

theorem checked_tells (raw : Text) (ds : List Directive) :
    Tells (fun _ => .configuring raw) (checked raw ds) := by
  apply Tells.bind (ensureOpen_tells _)
  intro _
  apply Tells.bind
  · apply Tells.within
    apply Tells.bind (.attempt (Block.parseName_tells raw))
    intro name
    exact .bind (ensureFree_tells name) fun _ => .pure name
  · intro name
    apply Tells.bind (.attempt (Block.compileNamed_tells raw ds))
    rintro ⟨key, definition⟩
    exact .pure _

end Drafting

end QuerySieve
