-- The laws of the count of faults. Every rule is asked about every key, whatever the rules before
-- it decided, so the searches that break off in an operation are known beforehand. Each of them is
-- counted once, and one error tells of it with the count that it led to.
import QuerySieve.Proofs.Records
import QuerySieve.Proofs.Tags

namespace QuerySieve

/-! ## Searches that break off -/

/-- A search that breaks off: the pattern that is looked for, and what goes wrong. -/
structure Breakdown where
  pattern : Bytes
  error : Text

/-- What is told of a search that broke off, as the fault of a number. -/
def Breakdown.message (b : Breakdown) (number : Nat) : Text :=
  "regex execution failed for pattern '" ++ b.pattern.decodeReplacing ++ "': " ++ b.error
    ++ " (faults so far: " ++ Text.ofNat number ++ ")"

/-- What is told of searches that broke off one after another, where so many did before. -/
def numbered (count : Nat) (bs : List Breakdown) : List Text :=
  (bs.zipIdx (count + 1)).map fun p => p.1.message p.2

theorem numbered_append (count : Nat) (bs more : List Breakdown) :
    numbered count (bs ++ more) = numbered count bs ++ numbered (count + bs.length) more := by
  unfold numbered
  rw [List.zipIdx_append, List.map_append, Nat.add_right_comm]

/-- How the searches of a matcher break off, if they do. -/
def Matcher.breakdown? : Matcher → Option Breakdown
  | .faulty source _ error => some ⟨source, error⟩
  | .literal _ | .pattern _ => none

namespace Definition

/-- The searches that break off when the rules are asked about a key. -/
def breakdowns (d : Definition) : List Breakdown :=
  d.rules.flatMap fun r => r.matcher.breakdown?.toList

/-- The searches that break off when a query is filtered. -/
def breakdownsIn (d : Definition) (query : Bytes) : List Breakdown :=
  (Query.segments query).flatMap fun _ => d.breakdowns

/-- How many rules have a matcher whose every search breaks off. -/
def faultyRules (d : Definition) : Nat := d.rules.countP fun r => r.matcher.isFaulty

theorem length_breakdowns (d : Definition) : d.breakdowns.length = d.faultyRules := by
  unfold breakdowns faultyRules
  induction d.rules with
  | nil => rfl
  | cons r rules ih =>
    rw [List.flatMap_cons, List.length_append, ih, List.countP_cons, Nat.add_comm]
    cases r.matcher with
    | literal k | pattern p | faulty source ignoreCase error => rfl

end Definition

/-- What is told of faults among records: the messages of the errors that come from matching. -/
def faultsTold (records : List Record) : List Text :=
  (records.filter fun r => r.level = .error && r.source = Matcher.source).map Record.message

theorem faultsTold_append (new more : List Record) :
    faultsTold (new ++ more) = faultsTold new ++ faultsTold more := by
  simp [faultsTold]

/-! ## Steps and their faults -/

/-- Just these searches break off in the step, one after another: the count grows by their number,
and if errors are kept, one tells of each, with the count up to it. -/
def Breaks {α : Type} (bs : List Breakdown) (step : Journaled α) : Prop :=
  ∀ j : Journal, (step j).2.faults = j.faults + bs.length ∧
    ∃ new, j.Adds new (step j).2 ∧
      faultsTold new = if j.threshold.keeps .error then numbered j.faults bs else []

namespace Breaks

variable {α β : Type} {bs more : List Breakdown}

theorem pure (a : α) : Breaks [] (pure a) := fun j => ⟨rfl, [], .refl j, (ite_self _).symm⟩

theorem bind {step : Journaled α} {next : α → Journaled β} (first : Breaks bs step)
    (rest : ∀ a, Breaks more (next a)) : Breaks (bs ++ more) (step >>= next) := by
  intro j
  obtain ⟨count, new, adds, told⟩ := first j
  obtain ⟨count', new', adds', told'⟩ := rest (step j).1 (step j).2
  refine ⟨?_, new ++ new', adds.trans adds', ?_⟩
  · change (next (step j).1 (step j).2).2.faults = _
    rw [count', count, List.length_append, Nat.add_assoc]
  · rw [faultsTold_append, told, told', adds.threshold, count, numbered_append]
    split <;> rfl

/-- Nothing breaks off after the step. -/
theorem andThen {step : Journaled α} {next : α → Journaled β} (first : Breaks bs step)
    (rest : ∀ a, Breaks [] (next a)) : Breaks bs (step >>= next) := by
  have h := bind first rest
  rwa [List.append_nil] at h

/-- Nothing breaks off before the rest. -/
theorem ofRest {step : Journaled α} {next : α → Journaled β} (first : Breaks [] step)
    (rest : ∀ a, Breaks bs (next a)) : Breaks bs (step >>= next) := bind first rest

theorem map (f : α → β) {step : Journaled α} (h : Breaks bs step) : Breaks bs (f <$> step) := by
  rw [map_eq_pure_bind]
  exact andThen h fun a => pure (f a)

theorem mapM {step : α → Journaled β} {each : α → List Breakdown}
    (h : ∀ a, Breaks (each a) (step a)) (xs : List α) :
    Breaks (xs.flatMap each) (xs.mapM step) := by
  induction xs with
  | nil => exact pure []
  | cons x xs ih =>
    rw [List.mapM_cons, List.flatMap_cons]
    exact bind (h x) fun b => andThen ih fun bs => pure (b :: bs)

/-- A record that is no error from matching tells of no fault. -/
theorem record {level : Level} {source : Text} (other : level ≠ .error ∨ source ≠ Matcher.source)
    (message : Text) : Breaks [] (record level source message) := by
  intro j
  refine ⟨?_, _, .write level source message j, ?_⟩
  · change (j.write level source message).faults = j.faults
    unfold Journal.write
    split <;> rfl
  · change _ = if _ then [] else []
    rw [ite_self]
    split
    · rcases other with h | h <;> simp [faultsTold, h]
    · rfl

theorem isEnabled {next : Bool → Journaled β} (level : Level)
    (rest : ∀ enabled, Breaks bs (next enabled)) : Breaks bs (isEnabled level >>= next) :=
  fun j => rest (j.threshold.keeps level) j

theorem whenEnabled {step : Journaled Unit} (level : Level) (h : Breaks [] step) :
    Breaks [] (whenEnabled level step) := by
  apply isEnabled
  intro enabled
  cases enabled with
  | true => exact h
  | false => exact pure ()

theorem within {step : Journaled α} (c : Context) (h : Breaks bs step) :
    Breaks bs (within c step) := by
  intro j
  obtain ⟨count, new, adds, told⟩ := h { j with context := c }
  exact ⟨count, new, ⟨adds.threshold, rfl, adds.records⟩, told⟩

theorem of_onlyRecords {step : Journaled α} (h : OnlyRecords step) : Breaks [] step := by
  induction h with
  | pure a => exact pure a
  | bind _ _ first rest => exact bind first rest
  | record level other message => exact record (.inr other) message
  | within c _ inside => exact within c inside

end Breaks

/-! ## Filtering a query -/

theorem Matcher.matches_breaks (m : Matcher) (key : Bytes) :
    Breaks m.breakdown?.toList (m.matches_ key) := by
  cases m with
  | literal k => exact .pure _
  | pattern p => exact .pure _
  | faulty source ignoreCase error =>
    intro j
    -- The count goes up before the record is put together.
    let counted : Journal := { j with faults := j.faults + 1 }
    let message := Breakdown.message ⟨source, error⟩ counted.faults
    have written := Journal.Adds.write .error Matcher.source message counted
    have leaves : ((faulty source ignoreCase error).matches_ key j).2 =
        counted.write .error Matcher.source message := rfl
    rw [leaves]
    refine ⟨?_, _, ⟨written.threshold, written.context, written.records⟩, ?_⟩
    · unfold Journal.write
      split <;> rfl
    · change faultsTold (if j.threshold.keeps .error then _ else _) = _
      split
      · rfl
      · rfl

namespace Definition

theorem trace_breaks (tracing : Bool) (key : Bytes) (line : Text) :
    Breaks [] (trace tracing key line) := by
  unfold trace
  split
  · exact .record (.inl (by decide)) _
  · exact .pure ()

theorem ask_breaks (tracing : Bool) (key : Bytes) (keep : Bool) (index : Nat) (r : Rule) :
    Breaks r.matcher.breakdown?.toList (ask tracing key keep index r) := by
  unfold ask
  apply Breaks.andThen (r.matcher.matches_breaks key)
  intro found
  cases found with
  | true => exact .andThen (trace_breaks _ _ _) fun _ => .pure _
  | false => exact .andThen (trace_breaks _ _ _) fun _ => .pure _

/-- Induction on the rules: what is decided before a rule has no say in whether it is asked. -/
theorem askAll_breaks (tracing : Bool) (key : Bytes) (keep : Bool) (index : Nat)
    (rules : List Rule) :
    Breaks (rules.flatMap fun r => r.matcher.breakdown?.toList)
      (askAll tracing key keep index rules) := by
  induction rules generalizing keep index with
  | nil => exact .pure keep
  | cons r rules ih => exact .bind (ask_breaks tracing key keep index r) fun keep => ih keep _

theorem shouldKeep_breaks (d : Definition) (key : Bytes) :
    Breaks d.breakdowns (d.shouldKeep key) := by
  unfold shouldKeep breakdowns
  apply Breaks.isEnabled
  intro tracing
  cases d.rules with
  | nil => exact .andThen (trace_breaks _ _ _) fun _ => .pure _
  | cons r rules =>
    apply Breaks.ofRest (trace_breaks _ _ _)
    intro _
    apply Breaks.andThen (askAll_breaks _ _ _ _ _)
    intro keep
    exact .bind (trace_breaks _ _ _) fun _ => .pure keep

end Definition

theorem Query.filterM_breaks (d : Definition) (q : Bytes) :
    Breaks (d.breakdownsIn q) (filterM d.shouldKeep q) := by
  rw [filterM_eq]
  exact .map _ (.mapM (fun s => d.shouldKeep_breaks (splitKey s)) _)

/-! ## Operations -/

namespace Operation

/-- The searches that break off in an operation at a bench, in the order in which they are
tried. -/
def breakdowns (b : Bench) : Operation → List Breakdown
  | .keep index _ | .askEach index _ => (b.definition index).breakdowns
  | .filter index query => (b.definition index).breakdownsIn query
  | .evaluate index name query =>
    match (b.registry index).lookup? name with
    | none => []
    | some d => d.breakdownsIn query
  | _ => []

/-- How many faults an operation adds at a bench: one for each rule that is asked and breaks off,
and in a query all rules are asked once for each piece that is not empty. -/
def due (b : Bench) : Operation → Nat
  | .keep index _ | .askEach index _ => (b.definition index).faultyRules
  | .filter index query => pieceCount query * (b.definition index).faultyRules
  | .evaluate index name query =>
    match (b.registry index).lookup? name with
    | none => 0
    | some d => pieceCount query * d.faultyRules
  | _ => 0
where
  pieceCount (query : Bytes) : Nat :=
    (query.splitOn Query.separator).countP fun p => !p.isEmpty

/-- The operation sets the count of faults back. -/
def isReset : Operation → Bool
  | .resetFaults => true
  | _ => false

theorem length_breakdownsIn (query : Bytes) (d : Definition) :
    (d.breakdownsIn query).length = due.pieceCount query * d.faultyRules := by
  have pieces : (Query.segments query).length = due.pieceCount query := by
    rw [Query.segments_eq, due.pieceCount, List.countP_eq_length_filter]
  rw [← pieces, ← d.length_breakdowns, Definition.breakdownsIn]
  simp [List.length_flatMap]

theorem length_breakdowns (b : Bench) (o : Operation) : (o.breakdowns b).length = o.due b := by
  cases o with
  | keep index key | askEach index key => exact Definition.length_breakdowns _
  | filter index query => exact length_breakdownsIn query _
  | evaluate index name query =>
    simp only [breakdowns, due]
    cases (b.registry index).lookup? name with
    | none => rfl
    | some d => exact length_breakdownsIn query d
  | _ => rfl

end Operation

/-- Nothing breaks off in a definition that is the identity, so its fast path misses no fault. -/
theorem Definition.breakdownsIn_of_isIdentity {d : Definition} (h : d.isIdentity = true)
    (q : Bytes) : d.breakdownsIn q = [] := by
  rw [isIdentity, Bool.and_eq_true, List.isEmpty_iff] at h
  simp [breakdownsIn, breakdowns, h.2]

theorem Registry.evaluate_breaks (b : Bench) (index : Nat) (name : Text) (q : Bytes) :
    Breaks ((Operation.evaluate index name q).breakdowns b)
      ((b.registry index).evaluate name q) := by
  simp only [Operation.breakdowns, evaluate]
  apply Breaks.within
  cases (b.registry index).lookup? name with
  | none => exact .andThen (.record (.inl (by decide)) _) fun _ => .pure none
  | some d =>
    apply Breaks.ofRest (.whenEnabled _ (.record (.inl (by decide)) _))
    intro _
    change Breaks (d.breakdownsIn q) _
    cases h : d.isIdentity with
    | true =>
      rw [d.breakdownsIn_of_isIdentity h]
      exact .andThen (.record (.inl (by decide)) _) fun _ => .pure _
    | false =>
      apply Breaks.andThen (Query.filterM_breaks d q)
      intro filtered
      exact .andThen (.whenEnabled _ (.record (.inl (by decide)) _)) fun _ => .pure _

namespace Bench

theorem reply_breaks {α : Type} {bs : List Breakdown} (b : Bench) {step : Journaled α}
    (answer : α → Answer) (h : Breaks bs step) : Breaks bs (b.reply step answer) :=
  .andThen h fun _ => .pure _

/-- Setting the count back apart, what breaks off in an operation is all that it adds to the
count. -/
theorem perform_breaks (b : Bench) {o : Operation} (counting : o.isReset = false) :
    Breaks (o.breakdowns b) (b.perform o) := by
  cases o with
  | keep index key => exact b.reply_breaks _ (Definition.shouldKeep_breaks _ key)
  | askEach index key =>
    exact b.reply_breaks _ (.mapM (fun r : Rule => r.matcher.matches_breaks key) _)
  | filter index query => exact b.reply_breaks _ (Query.filterM_breaks _ query)
  | evaluate index name query =>
    exact b.reply_breaks _ (Registry.evaluate_breaks b index name query)
  | faults => exact b.reply_breaks _ fun j => ⟨rfl, [], .refl j, (ite_self _).symm⟩
  | resetFaults => cases counting
  | _ => exact .of_onlyRecords (b.perform_records rfl)

/-- The step law of the count, and of what is told of it. -/
theorem perform_faults (b : Bench) (o : Operation) (j : Journal) :
    (b.perform o j).2.faults = (if o.isReset then 0 else j.faults + o.due b) ∧
    ∃ new, j.Adds new (b.perform o j).2 ∧
      faultsTold new =
        if j.threshold.keeps .error then numbered j.faults (o.breakdowns b) else [] := by
  cases h : o.isReset with
  | true =>
    cases o with
    | resetFaults => exact ⟨rfl, [], ⟨rfl, rfl, (List.append_nil _).symm⟩, (ite_self _).symm⟩
    | _ => cases h
  | false =>
    rw [if_neg Bool.false_ne_true, ← o.length_breakdowns b]
    exact b.perform_breaks h j

/-! ## Runs -/

/-- The operations of a run, each with the bench that it finds. -/
def turns (b : Bench) : List Operation → Journal → List (Bench × Operation)
  | [], _ => []
  | o :: os, j => (b, o) :: turns (b.perform o j).1.2 os (b.perform o j).2

/-- What the last operations of a run add up to, back to where the count was last set back. -/
def dueSinceReset (turns : List (Bench × Operation)) : Nat :=
  ((turns.reverse.takeWhile fun t => !t.2.isReset).map fun t => t.2.due t.1).sum

theorem dueSinceReset_append_single (before : List (Bench × Operation)) (b : Bench)
    (o : Operation) :
    dueSinceReset (before ++ [(b, o)]) =
      if o.isReset then 0 else dueSinceReset before + o.due b := by
  rw [dueSinceReset, List.reverse_append, List.reverse_singleton, List.singleton_append,
    List.takeWhile_cons]
  cases o.isReset with
  | true => rfl
  | false => exact Nat.add_comm _ _

theorem performAll_append_single (b : Bench) (os : List Operation) (o : Operation)
    (j : Journal) :
    (b.performAll (os ++ [o]) j).1.2 =
      ((b.performAll os j).1.2.perform o (b.performAll os j).2).1.2 ∧
    (b.performAll (os ++ [o]) j).2 =
      ((b.performAll os j).1.2.perform o (b.performAll os j).2).2 := by
  induction os generalizing b j with
  | nil => exact ⟨rfl, rfl⟩
  | cons _ os ih => exact ih _ _

theorem turns_append_single (b : Bench) (os : List Operation) (o : Operation) (j : Journal) :
    b.turns (os ++ [o]) j = b.turns os j ++ [((b.performAll os j).1.2, o)] := by
  induction os generalizing b j with
  | nil => rfl
  | cons _ os ih => exact congrArg _ (ih _ _)

/-- Induction on the operations from the last one on, since the sum goes back from there. -/
theorem performAll_faults (b : Bench) (os : List Operation) {j : Journal} (zero : j.faults = 0) :
    (b.performAll os j).2.faults = dueSinceReset (b.turns os j) ∧
    (b.performAll os j).2.threshold = j.threshold := by
  induction os using List.reverseRecOn with
  | nil => exact ⟨zero, rfl⟩
  | append_singleton os o ih =>
    obtain ⟨count, new, adds, -⟩ :=
      (b.performAll os j).1.2.perform_faults o (b.performAll os j).2
    rw [(b.performAll_append_single os o j).2, turns_append_single, dueSinceReset_append_single,
      count, adds.threshold, ih.1]
    exact ⟨rfl, ih.2⟩

end Bench

/-! ## The law -/

/-- After any run that starts with no fault counted, the count is what the operations since it was
last set back add up to: one for each rule that is asked and breaks off, whatever was decided
before it. Any operation that follows tells, if errors are kept, once of each search that breaks
off in it, and with the count that the search led to. -/
theorem each_broken_search_is_counted_and_told_once (b : Bench) (level : Level)
    (os : List Operation) (o : Operation) :
    ∃ answers b' j new, b.performAll os (.empty level) = ((answers, b'), j) ∧
      j.faults = Bench.dueSinceReset (b.turns os (.empty level)) ∧
      (b'.perform .faults j).1.1 = .ok (.count j.faults) ∧
      j.Adds new (b'.perform o j).2 ∧
      (o.breakdowns b').length = o.due b' ∧
      faultsTold new = if level.keeps .error then numbered j.faults (o.breakdowns b') else [] := by
  obtain ⟨count, threshold⟩ := b.performAll_faults os (j := .empty level) rfl
  obtain ⟨-, new, adds, told⟩ :=
    (b.performAll os (.empty level)).1.2.perform_faults o (b.performAll os (.empty level)).2
  rw [threshold] at told
  exact ⟨_, _, _, new, rfl, count, rfl, adds, o.length_breakdowns _, told⟩

/-- A query of two segments counts two, and what was counted before the count was set back is
forgotten. -/
example :
    (Bench.performAll {}
      [.push ⟨.keep, .faulty (Bytes.ofString "a") false "broken"⟩, .build,
        .keep 1 (Bytes.ofString "b"), .resetFaults, .filter 1 (Bytes.ofString "a&&b=1")]
      (.empty .error)).2.faults = 2 := by
  rfl

end QuerySieve
