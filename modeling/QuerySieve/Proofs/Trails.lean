-- The laws of trails. A run of operations leaves records behind, and each of them can be told from
-- its tag: it belongs to the query of an evaluation, to the block of a declaration, or to neither.
-- Between two operations no phase is open, however the ones before ended.
import QuerySieve.Proofs.Tags

namespace QuerySieve

/-! ## One operation -/

/-- The context in which an operation does its work. -/
def Operation.context : Operation → Context
  | .evaluate _ name _ => .serving name
  | .compileNamed raw _ => .configuring raw
  | .call (.declare raw _) => .configuring raw
  | _ => .outside

/-- An operation of a run, with its answer and the records that it wrote. -/
structure Part where
  operation : Operation
  answer : Except Trouble Answer
  records : List Record

namespace Part

/-- The record of a key that was registered. It is written outside any phase. -/
def registered (level : Level) (key : Text) : List Record :=
  if level.keeps .debug then
    [⟨.debug, Registry.source, .outside, "args_filter: registered variable '$" ++ key ++ "'"⟩]
  else []

/-- What is written of the registering at the end of a declaration. -/
def registering (level : Level) (p : Part) : List Record :=
  match p.operation, p.answer with
  | .call (.declare raw _), .ok _ => registered level (Name.normalize raw)
  | _, _ => []

def errors (p : Part) : List Record := p.records.filter fun r => r.level = .error

/-- All that an operation writes is tagged with its context, but for the record of a registered
key. A declaration that fails before the draft is frozen has one error, with its message and the
tag of the block, and no other has any. -/
structure Traced (level : Level) (p : Part) : Prop where
  tagged : ∃ own, p.records = own ++ p.registering level ∧ ∀ r ∈ own, r.context = p.operation.context
  once : ∀ raw ds f, p.operation = .call (.declare raw ds) → p.answer = .error (.failure f) →
    f.kind ≠ .frozen → level.keeps .error = true →
    ∃ source, p.errors = [⟨.error, source, .configuring raw, f.message⟩]
  quiet : ∀ raw ds, p.operation = .call (.declare raw ds) →
    (∀ f, p.answer = .error (.failure f) → f.kind = .frozen) → p.errors = []

/-- The part is what comes of its operation at a bench, with a journal that has its records after
it. -/
structure Passes (p : Part) (b : Bench) (j : Journal) (b' : Bench) (j' : Journal) : Prop where
  performs : b.perform p.operation j = ((p.answer, b'), j')
  adds : j.Adds p.records j'
  traced : p.Traced j.threshold

end Part

/-! ## Declarations -/

namespace Drafting

variable {d d' : Draft} {j j' : Journal}

theorem run_bind_ok {α β : Type} {step : Drafting α} {next : α → Drafting β} {a : α}
    (h : step.run d j = ((.ok a, d'), j')) :
    (step >>= next).run d j = (next a).run d' j' := by
  change ExceptT.bindCont next (step.run d j).1.1 (step.run d j).1.2 (step.run d j).2 = _
  rw [h]
  rfl

theorem run_bind_error {α β : Type} {step : Drafting α} {next : α → Drafting β} {t : Trouble}
    (h : step.run d j = ((.error t, d'), j')) :
    (step >>= next).run d j = ((.error t, d'), j') := by
  change ExceptT.bindCont next (step.run d j).1.1 (step.run d j).1.2 (step.run d j).2 = _
  rw [h]
  rfl

/-- A key that is free is registered with one record, under the context there is. -/
theorem register_run {name : Text} (definition : Definition) (unfrozen : d.frozen = false)
    (free : ¬ d.Holds (Name.normalize name)) :
    (register name definition).run d j = ((.ok (), d.extend (Name.normalize name) definition),
      j.write .debug Registry.source
        ("args_filter: registered variable '$" ++ Name.normalize name ++ "'")) := by
  have hopen : ensureOpen.run d j = ((.ok (), d), j) := by
    unfold ensureOpen
    change ((if d.frozen then _ else _ : Drafting Unit).run d j) = _
    rw [if_neg (by simp [unfrozen])]
    rfl
  have hfree : (ensureFree (Name.normalize name)).run d j = ((.ok (), d), j) := by
    unfold ensureFree
    change ((if (d.filters.any _) = true then _ else _ : Drafting Unit).run d j) = _
    rw [if_neg (fun h => free ((any_iff_holds d _).mp h))]
    rfl
  have hput : ({ d with filters := Pairs.put (Name.normalize name) definition d.filters } : Draft) =
      d.extend (Name.normalize name) definition := by
    rw [Pairs.put_of_notMem free]
    rfl
  unfold register
  rw [run_bind_ok hopen, run_bind_ok hfree, ← hput]
  rfl

theorem declare_run {raw name : Text} {ds : List Directive} {definition : Definition}
    (checks : (checked raw ds).run d j = ((.ok (name, definition), d), j'))
    (unfrozen : d.frozen = false) (free : ¬ d.Holds (Name.normalize name)) :
    (declare raw ds).run d j = ((.ok definition, d.extend (Name.normalize name) definition),
      j'.write .debug Registry.source
        ("args_filter: registered variable '$" ++ Name.normalize name ++ "'")) := by
  rw [declare_eq, run_bind_ok checks, run_bind_ok (register_run definition unfrozen free)]
  rfl

end Drafting

/-! ## Each kind of operation -/

/-- Where all that is told is tagged with one context, the one error of a failure is known but
for its source. -/
theorem exists_error {records : List Record} {c : Context} {message : Text}
    (tagged : ∀ r ∈ records, r.context = c) (told : errorsOf records = [message]) :
    ∃ source, records.filter (fun r => r.level = .error) = [⟨.error, source, c, message⟩] := by
  unfold errorsOf at told
  obtain ⟨r, only, hmessage⟩ := List.map_eq_singleton_iff.mp told
  have mem : r ∈ records.filter fun r => r.level = .error := by
    rw [only]
    exact List.mem_singleton_self r
  obtain ⟨hr, herror⟩ := List.mem_filter.mp mem
  refine ⟨r.source, ?_⟩
  rw [only, ← tagged r hr, ← hmessage, ← of_decide_eq_true herror]

theorem adds_registered {j : Journal} (key : Text) (outside : j.context = .outside) :
    j.Adds (Part.registered j.threshold key)
      (j.write .debug Registry.source ("args_filter: registered variable '$" ++ key ++ "'")) := by
  unfold Part.registered
  rw [← outside]
  exact .write _ _ _ _

theorem filter_registered (level : Level) (key : Text) :
    (Part.registered level key).filter (fun r => r.level = .error) = [] := by
  unfold Part.registered
  split
  · simp
  · rfl

namespace Bench

variable (b : Bench)

theorem attempt_tags {α : Type} {tag : Context → Context} {step : Attempt α}
    (keep : α → Answer × Bench) (h : Attempt.Tells tag step) :
    Tags tag (b.attempt step keep) := by
  apply Tags.bind (Tells.tags h)
  intro r
  cases r with
  | ok a => exact .pure _
  | error t => exact .pure _

theorem reply_tags {α : Type} {tag : Context → Context} {step : Journaled α}
    (answer : α → Answer) (h : Tags tag step) : Tags tag (b.reply step answer) :=
  .bind h fun _ => .pure _

/-- Every operation but a declaration tags all that it writes with its context, if no phase is open
where it starts. -/
theorem perform_tags {o : Operation} (other : ∀ raw ds, o ≠ .call (.declare raw ds)) :
    ∃ tag : Context → Context, tag .outside = o.context ∧ Tags tag (b.perform o) := by
  cases o with
  | pattern action source ignoreCase =>
    exact ⟨id, rfl, b.attempt_tags _ (Pattern.compileArg_tells source ignoreCase)⟩
  | compile directives block =>
    exact ⟨id, rfl, b.attempt_tags _ (Block.compile_tells directives block)⟩
  | compileNamed raw directives =>
    exact ⟨_, rfl, b.attempt_tags _ (Block.compileNamed_tells raw directives)⟩
  | keep index key => exact ⟨id, rfl, b.reply_tags _ ((b.definition index).shouldKeep_tags key)⟩
  | askEach index key =>
    exact ⟨id, rfl, b.reply_tags _ (.mapM (fun r => r.matcher.matches_tags key) _)⟩
  | filter index query =>
    have keep := (b.definition index).shouldKeep_tags
    exact ⟨id, rfl, b.reply_tags _ (Query.filterM_tags keep query)⟩
  | call c =>
    cases c with
    | declare raw ds => exact absurd rfl (other raw ds)
    | register name definition =>
      have hperform : Drafting.Tells id (Call.register name definition).perform :=
        .bind (Drafting.register_tells name definition) fun _ => .pure _
      exact ⟨id, rfl, .bind (hperform b.draft).tags fun _ => .pure _⟩
    | freeze =>
      have hperform : Tags id (Call.freeze.perform.run b.draft) :=
        Tags.bind (Drafting.freeze_tags b.draft) fun _ => .pure _
      exact ⟨id, rfl, .bind hperform fun _ => .pure _⟩
  | evaluate index name query =>
    exact ⟨_, rfl, b.reply_tags _ ((b.registry index).evaluate_tags name query)⟩
  | faults => exact ⟨id, rfl, b.reply_tags _ fun j => ⟨[], .refl j, by simp⟩⟩
  | resetFaults =>
    refine ⟨id, rfl, b.reply_tags _ fun j => ⟨[], ⟨rfl, rfl, ?_⟩, by simp⟩⟩
    exact (List.append_nil _).symm
  | setInitial | markVolatile | push | build | holds | size | lookup | names =>
    exact ⟨id, rfl, .pure _⟩

theorem perform_call {c : Call} {r : Except Trouble Reply} {d : Draft} {j j' : Journal}
    (h : c.perform.run b.draft j = ((r, d), j')) :
    b.perform (.call c) j = ((r.map Answer.reply, b.afterCall d r), j') := by
  change (fun p : (Except Trouble Reply × Draft) × Journal =>
    ((p.1.1.map Answer.reply, b.afterCall p.1.2 p.1.1), p.2)) (c.perform.run b.draft j) = _
  rw [h]

end Bench

theorem Part.Traced.of_tagged {level : Level} {o : Operation} {answer : Except Trouble Answer}
    {records : List Record} (other : ∀ raw ds, o ≠ .call (.declare raw ds))
    (tagged : ∀ r ∈ records, r.context = o.context) : Traced level ⟨o, answer, records⟩ := by
  have none : registering level ⟨o, answer, records⟩ = [] := by
    unfold registering
    split
    next raw _ _ _ _ => exact absurd ‹_› (other raw _)
    · rfl
  refine ⟨⟨records, ?_, tagged⟩, ?_, ?_⟩
  · rw [none, List.append_nil]
  · intro raw ds f h
    exact absurd h (other raw ds)
  · intro raw ds h
    exact absurd h (other raw ds)

/-- A declaration that ends where it is checked. -/
theorem Part.Traced.of_stopped {α : Type} {level : Level} {raw : Text} {ds : List Directive}
    {t : Trouble} {records : List Record} (tagged : ∀ r ∈ records, r.context = .configuring raw)
    (errors : errorsOf records =
      if level.keeps .error then told (.error t : Except Trouble α) else []) :
    Traced level ⟨.call (.declare raw ds), .error t, records⟩ := by
  refine ⟨⟨records, (List.append_nil _).symm, tagged⟩, ?_, ?_⟩
  · rintro raw' ds' f ⟨⟩ ⟨⟩ unfrozen kept
    rw [if_pos kept, told, if_neg unfrozen] at errors
    exact exists_error tagged errors
  · rintro raw' ds' ⟨⟩ frozen
    have silent : errorsOf records = [] := by
      rw [errors]
      rcases t with f | s
      · rw [told, if_pos (frozen f rfl), ite_self]
      · exact ite_self _
    exact List.map_eq_nil_iff.mp silent

/-- A declaration that was checked and then registered. -/
theorem Part.Traced.of_declared {level : Level} {raw : Text} {ds : List Directive}
    {definition : Definition} {own : List Record} (tagged : ∀ r ∈ own, r.context = .configuring raw)
    (silent : errorsOf own = []) :
    Traced level ⟨.call (.declare raw ds), .ok (.reply (.declared definition)),
      own ++ registered level (Name.normalize raw)⟩ := by
  refine ⟨⟨own, rfl, tagged⟩, ?_, ?_⟩
  · rintro raw' ds' f ⟨⟩ ⟨⟩
  · rintro raw' ds' ⟨⟩ -
    unfold errors
    rw [List.filter_append, filter_registered, List.append_nil]
    exact List.map_eq_nil_iff.mp silent

namespace Bench

variable (b : Bench)

theorem declare_passes (raw : Text) (ds : List Directive) {j : Journal}
    (outside : j.context = .outside) :
    ∃ (p : Part) (b' : Bench) (j' : Journal),
      p.operation = .call (.declare raw ds) ∧ p.Passes b j b' j' := by
  obtain ⟨own, adds, tagged, errors⟩ := Drafting.checked_tells raw ds b.draft j
  rcases hrun : (Drafting.checked raw ds).run b.draft j with ⟨⟨r, d⟩, j'⟩
  rw [hrun] at adds errors
  rcases Drafting.checked_cases b.draft raw ds with ⟨t, leads, -⟩ | ⟨name, definition, leads,
    unfrozen, rfl, plain, free, -⟩
  · cases (congrArg Prod.fst hrun).symm.trans (leads j)
    have hdeclare : (Drafting.declare raw ds).run b.draft j = ((.error t, b.draft), j') := by
      rw [Drafting.declare_eq]
      exact Drafting.run_bind_error hrun
    have hcall := b.perform_call (c := .declare raw ds) (Drafting.run_bind_error hdeclare)
    exact ⟨⟨_, _, own⟩, _, _, rfl, hcall, adds, .of_stopped tagged errors⟩
  · cases (congrArg Prod.fst hrun).symm.trans (leads j)
    have hkey : Name.normalize name.lower = name.lower :=
      Name.normalize_key (Name.parse_of_plain plain)
    have hdeclare := Drafting.declare_run hrun unfrozen (hkey.symm ▸ free)
    have hcall := b.perform_call (c := .declare (Name.sigil :: name) ds)
      (Drafting.run_bind_ok hdeclare)
    have written := adds_registered (Name.normalize name.lower) (adds.context.trans outside)
    refine ⟨⟨_, _, _⟩, _, _, rfl, hcall, adds.trans written, ?_⟩
    rw [adds.threshold, hkey, ← Name.normalize_sigil name]
    exact .of_declared tagged (errors.trans (ite_self _))

/-- One operation, from a bench and a journal outside any phase. -/
theorem perform_passes (o : Operation) {j : Journal} (outside : j.context = .outside) :
    ∃ (p : Part) (b' : Bench) (j' : Journal), p.operation = o ∧ p.Passes b j b' j' := by
  by_cases declares : ∃ raw ds, o = .call (.declare raw ds)
  · obtain ⟨raw, ds, rfl⟩ := declares
    exact b.declare_passes raw ds outside
  · have other : ∀ raw ds, o ≠ .call (.declare raw ds) := fun raw ds h => declares ⟨raw, ds, h⟩
    obtain ⟨tag, htag, tags⟩ := b.perform_tags other
    obtain ⟨records, adds, tagged⟩ := tags j
    rw [outside, htag] at tagged
    exact ⟨⟨o, (b.perform o j).1.1, records⟩, _, _, rfl, rfl, adds, .of_tagged other tagged⟩

end Bench

/-! ## Whole runs -/

/-- A run of operations, part after part. No phase is open before, between and after them. -/
inductive Trail : Bench → Journal → List Part → Bench → Journal → Prop
  | nil {b : Bench} {j : Journal} (outside : j.context = .outside) : Trail b j [] b j
  | cons {b b' b'' : Bench} {j j' j'' : Journal} {p : Part} {parts : List Part}
      (outside : j.context = .outside) (passes : p.Passes b j b' j')
      (rest : Trail b' j' parts b'' j'') : Trail b j (p :: parts) b'' j''

namespace Trail

variable {b b' : Bench} {j j' : Journal} {parts : List Part}

theorem performs (h : Trail b j parts b' j') :
    b.performAll (parts.map Part.operation) j = ((parts.map Part.answer, b'), j') := by
  induction h with
  | nil => rfl
  | @cons b b' b'' j j' j'' p parts outside passes rest ih =>
    change (fun r : (Except Trouble Answer × Bench) × Journal =>
      (fun r' : (List (Except Trouble Answer) × Bench) × Journal =>
        ((r.1.1 :: r'.1.1, r'.1.2), r'.2)) (r.1.2.performAll (parts.map Part.operation) r.2))
      (b.perform p.operation j) = _
    rw [passes.performs]
    dsimp only
    rw [ih]
    rfl

/-- The journal at the end holds the records of the parts, in their order. -/
theorem adds (h : Trail b j parts b' j') : j.Adds (parts.flatMap Part.records) j' := by
  induction h with
  | nil => exact .refl _
  | cons outside passes rest ih => exact passes.adds.trans ih

theorem outside (h : Trail b j parts b' j') : j'.context = .outside := by
  induction h with
  | nil outside => exact outside
  | cons _ _ _ ih => exact ih

end Trail

theorem Bench.exists_trail (b : Bench) (os : List Operation) {j : Journal}
    (outside : j.context = .outside) :
    ∃ parts b' j', Trail b j parts b' j' ∧ parts.map Part.operation = os := by
  induction os generalizing b j with
  | nil => exact ⟨[], b, j, .nil outside, rfl⟩
  | cons o os ih =>
    obtain ⟨p, b', j', rfl, passes⟩ := b.perform_passes o outside
    obtain ⟨parts, b'', j'', trail, rfl⟩ := ih b' (passes.adds.context.trans outside)
    exact ⟨p :: parts, b'', j'', .cons outside passes trail, rfl⟩

/-! ## The law -/

/-- Each record of a run can be told from its tag, whatever the operations are and however each of
them ends. An evaluation tags what it writes with its name, down to a search that breaks off; a
declaration tags what it writes of its block with the name of the block, and only the record of
the registered key stands outside. A declaration that ends in a failure, that the draft is frozen
apart, has its message in exactly one error with the tag of the block. No phase is open before,
between and after the operations. -/
theorem Bench.every_record_tells_its_block (b : Bench) (os : List Operation) (level : Level) :
    ∃ parts b' j', Trail b (.empty level) parts b' j' ∧ parts.map Part.operation = os ∧
      b.performAll os (.empty level) = ((parts.map Part.answer, b'), j') ∧
      j'.records.toList = parts.flatMap Part.records ∧ j'.context = .outside := by
  obtain ⟨parts, b', j', trail, rfl⟩ := b.exists_trail os (j := .empty level) rfl
  exact ⟨parts, b', j', trail, rfl, trail.performs, trail.adds.records, trail.outside⟩

example : (Operation.call (.declare [] [])).context = ⟨"config", "-"⟩ := by decide

end QuerySieve
