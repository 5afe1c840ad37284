-- The laws of log levels. Two runs of the same operations at two levels go in step: each operation
-- answers the same and leaves the same bench and the same count of faults, and the journal at the
-- higher level has just the records of the other one that the level keeps.
import QuerySieve.Proofs.Filtering
import QuerySieve.Proofs.Records

namespace QuerySieve

/-! ## Two runs in step -/

/-- The journals of two runs, the second at a level that is no lower. -/
structure Journal.Agree (lo hi : Level) (j j' : Journal) : Prop where
  order : lo.rank ≤ hi.rank
  low : j.threshold = lo
  high : j'.threshold = hi
  context : j'.context = j.context
  faults : j'.faults = j.faults
  records : j'.records.toList = j.records.toList.filter fun r => hi.keeps r.level

/-- Two steps give the same at two levels, and journals that agree go on agreeing. The steps
may differ, because what a step does may depend on its level. -/
def Alike {α : Type} (lo hi : Level) (step step' : Journaled α) : Prop :=
  ∀ j j', Journal.Agree lo hi j j' →
    (step' j').1 = (step j).1 ∧ Journal.Agree lo hi (step j).2 (step' j').2

namespace Alike

variable {α β : Type} {lo hi : Level}

theorem pure (a : α) : Alike lo hi (pure a) (pure a) := fun _ _ agree => ⟨rfl, agree⟩

theorem bind {step step' : Journaled α} {next next' : α → Journaled β}
    (hs : Alike lo hi step step') (hn : ∀ a, Alike lo hi (next a) (next' a)) :
    Alike lo hi (step >>= next) (step' >>= next') := by
  intro j j' agree
  obtain ⟨same, agree⟩ := hs j j' agree
  change (next' (step' j').1 (step' j').2).1 = (next (step j).1 (step j).2).1 ∧
    Journal.Agree lo hi (next (step j).1 (step j).2).2 (next' (step' j').1 (step' j').2).2
  rw [same]
  exact hn _ _ _ agree

/-- A step that asks for the level goes on as each of the two levels says. -/
theorem isEnabled {next next' : Bool → Journaled β} (level : Level)
    (hn : Alike lo hi (next (lo.keeps level)) (next' (hi.keeps level))) :
    Alike lo hi (isEnabled level >>= next) (isEnabled level >>= next') := by
  intro j j' agree
  obtain ⟨same, after⟩ := hn j j' agree
  change (next' (j'.threshold.keeps level) j').1 = (next (j.threshold.keeps level) j).1 ∧
    Journal.Agree lo hi (next (j.threshold.keeps level) j).2 (next' (j'.threshold.keeps level) j').2
  rw [agree.low, agree.high]
  exact ⟨same, after⟩

/-- A record that the higher level keeps is kept in both journals, and one that only the lower
level keeps is not among those that are compared. -/
theorem record (level : Level) (source message : Text) :
    Alike lo hi (record level source message) (record level source message) := by
  rintro j j' ⟨order, rfl, rfl, context, faults, records⟩
  refine ⟨rfl, ?_⟩
  change Journal.Agree _ _ (j.write level source message) (j'.write level source message)
  unfold Journal.write
  cases high : j'.threshold.keeps level with
  | true =>
    have low : j.threshold.keeps level = true := by
      simp only [Level.keeps, decide_eq_true_eq] at high ⊢
      omega
    rw [if_pos low, if_pos rfl]
    refine ⟨order, rfl, rfl, context, faults, ?_⟩
    simp [records, context, high]
  | false =>
    rw [if_neg Bool.false_ne_true]
    split
    · refine ⟨order, rfl, rfl, context, faults, ?_⟩
      simp [records, high]
    · exact ⟨order, rfl, rfl, context, faults, records⟩

/-- Leaving out a record that the level does not keep comes to the same as writing it. -/
theorem if_keeps_record (level : Level) (source message : Text) (j : Journal) :
    (if j.threshold.keeps level then QuerySieve.record level source message
      else Pure.pure () : Journaled Unit) j = QuerySieve.record level source message j := by
  by_cases keeps : j.threshold.keeps level = true
  · rw [if_pos keeps]
  · rw [if_neg keeps]
    change ((), j) = ((), j.write level source message)
    rw [Journal.write, if_neg keeps]

theorem record_if (level : Level) (source message : Text) :
    Alike lo hi (if lo.keeps level then QuerySieve.record level source message else Pure.pure ())
      (if hi.keeps level then QuerySieve.record level source message else Pure.pure ()) := by
  intro j j' agree
  have low := if_keeps_record level source message j
  have high := if_keeps_record level source message j'
  rw [agree.low] at low
  rw [agree.high] at high
  rw [low, high]
  exact record level source message j j' agree

theorem within {step step' : Journaled α} (c : Context) (h : Alike lo hi step step') :
    Alike lo hi (within c step) (within c step') := by
  intro j j' agree
  obtain ⟨same, after⟩ := h { j with context := c } { j' with context := c }
    ⟨agree.order, agree.low, agree.high, rfl, agree.faults, agree.records⟩
  exact ⟨same, after.order, after.low, after.high, agree.context, after.faults, after.records⟩

end Alike

/-! ## Steps that the level has no say in -/

/-- The step goes in step with itself at every two levels. -/
def LevelBlind {α : Type} (step : Journaled α) : Prop := ∀ lo hi, Alike lo hi step step

namespace LevelBlind

variable {α β : Type}

theorem pure (a : α) : LevelBlind (pure a) := fun _ _ => .pure a

theorem bind {step : Journaled α} {next : α → Journaled β} (hs : LevelBlind step)
    (hn : ∀ a, LevelBlind (next a)) : LevelBlind (step >>= next) :=
  fun lo hi => .bind (hs lo hi) fun a => hn a lo hi

theorem map (f : α → β) {step : Journaled α} (h : LevelBlind step) :
    LevelBlind (f <$> step) := by
  rw [map_eq_pure_bind]
  exact bind h fun a => pure (f a)

theorem record (level : Level) (source message : Text) :
    LevelBlind (record level source message) := fun _ _ => .record level source message

theorem whenEnabled_record (level : Level) (source message : Text) :
    LevelBlind (whenEnabled level (QuerySieve.record level source message)) :=
  fun _ _ => .isEnabled level (.record_if level source message)

theorem within {step : Journaled α} (c : Context) (h : LevelBlind step) :
    LevelBlind (within c step) := fun lo hi => .within c (h lo hi)

theorem countFault : LevelBlind countFault := by
  intro lo hi j j' agree
  refine ⟨congrArg (· + 1) agree.faults, ?_⟩
  exact { agree with faults := congrArg (· + 1) agree.faults }

theorem resetFaults : LevelBlind resetFaults :=
  fun _ _ _ _ agree => ⟨rfl, { agree with faults := rfl }⟩

theorem faultCount : LevelBlind faultCount := fun _ _ _ _ agree => ⟨agree.faults, agree⟩

theorem mapM {step : α → Journaled β} (h : ∀ a, LevelBlind (step a)) (xs : List α) :
    LevelBlind (xs.mapM step) := by
  induction xs with
  | nil => exact pure []
  | cons x xs ih =>
    rw [List.mapM_cons]
    exact bind (h x) fun b => bind ih fun bs => pure (b :: bs)

end LevelBlind

/-- A step that only writes records asks for no level. -/
theorem LevelBlind.of_onlyRecords {α : Type} {step : Journaled α} (h : OnlyRecords step) :
    LevelBlind step := by
  induction h with
  | pure a => exact .pure a
  | bind _ _ first rest => exact .bind first rest
  | record level other message => exact .record level _ message
  | within c _ inside => exact .within c inside

/-! ## Deciding on a key -/

/-- A search that breaks off is counted at every level. -/
theorem Matcher.matches_blind (m : Matcher) (key : Bytes) : LevelBlind (m.matches_ key) := by
  cases m with
  | literal k => exact .pure _
  | pattern p => exact .pure _
  | faulty source ignoreCase error =>
    apply LevelBlind.bind .countFault
    intro faults
    exact .bind (.record _ _ _) fun _ => .pure false

namespace Definition

variable {lo hi : Level}

/-- The account is given at the level of the run. -/
theorem trace_alike (key : Bytes) (line : Text) :
    Alike lo hi (trace (lo.keeps .debug) key line) (trace (hi.keeps .debug) key line) :=
  .record_if _ _ _

theorem ask_alike (key : Bytes) (keep : Bool) (index : Nat) (r : Rule) :
    Alike lo hi (ask (lo.keeps .debug) key keep index r)
      (ask (hi.keeps .debug) key keep index r) := by
  unfold ask
  apply Alike.bind (r.matcher.matches_blind key lo hi)
  intro found
  cases found with
  | true => exact .bind (trace_alike key _) fun _ => .pure _
  | false => exact .bind (trace_alike key _) fun _ => .pure keep

/-- Induction on the rules: what is decided before a rule is the same in both runs. -/
theorem askAll_alike (key : Bytes) (keep : Bool) (index : Nat) (rules : List Rule) :
    Alike lo hi (askAll (lo.keeps .debug) key keep index rules)
      (askAll (hi.keeps .debug) key keep index rules) := by
  induction rules generalizing keep index with
  | nil => exact .pure keep
  | cons r rules ih => exact .bind (ask_alike key keep index r) fun keep => ih keep (index + 1)

theorem shouldKeep_blind (d : Definition) (key : Bytes) : LevelBlind (d.shouldKeep key) := by
  intro lo hi
  unfold shouldKeep
  apply Alike.isEnabled
  cases d.rules with
  | nil => exact .bind (trace_alike key _) fun _ => .pure _
  | cons r rules =>
    apply Alike.bind (trace_alike key _)
    intro _
    apply Alike.bind (askAll_alike key _ _ _)
    intro keep
    exact .bind (trace_alike key _) fun _ => .pure keep

end Definition

theorem Query.filterM_blind {keep : Bytes → Journaled Bool} (h : ∀ k, LevelBlind (keep k))
    (q : Bytes) : LevelBlind (filterM keep q) := by
  rw [filterM_eq]
  exact .map _ (.mapM (fun s => h (splitKey s)) _)

theorem Registry.evaluate_blind (r : Registry) (name : Text) (q : Bytes) :
    LevelBlind (r.evaluate name q) := by
  unfold evaluate
  apply LevelBlind.within
  cases r.lookup? name with
  | none => exact .bind (.record _ _ _) fun _ => .pure _
  | some d =>
    apply LevelBlind.bind (.whenEnabled_record _ _ _)
    intro _
    cases d.isIdentity with
    | true => exact .bind (.record _ _ _) fun _ => .pure _
    | false =>
      apply LevelBlind.bind (Query.filterM_blind d.shouldKeep_blind q)
      intro filtered
      exact .bind (.whenEnabled_record _ _ _) fun _ => .pure _

/-! ## Whole runs -/

namespace Bench

theorem reply_blind {α : Type} (b : Bench) {step : Journaled α} (answer : α → Answer)
    (h : LevelBlind step) : LevelBlind (b.reply step answer) := .bind h fun _ => .pure _

theorem perform_blind (b : Bench) (o : Operation) : LevelBlind (b.perform o) := by
  cases o with
  | keep index key => exact b.reply_blind _ ((b.definition index).shouldKeep_blind key)
  | askEach index key =>
    exact b.reply_blind _ (.mapM (fun r => r.matcher.matches_blind key) _)
  | filter index query =>
    exact b.reply_blind _ (Query.filterM_blind (b.definition index).shouldKeep_blind query)
  | evaluate index name query =>
    exact b.reply_blind _ ((b.registry index).evaluate_blind name query)
  | faults => exact b.reply_blind _ .faultCount
  | resetFaults => exact b.reply_blind _ .resetFaults
  | _ => exact .of_onlyRecords (b.perform_records rfl)

/-- Operations are performed in step, one after another. -/
theorem performAll_blind (b : Bench) (os : List Operation) : LevelBlind (b.performAll os) := by
  induction os generalizing b with
  | nil => exact .pure _
  | cons o os ih =>
    apply LevelBlind.bind (b.perform_blind o)
    rintro ⟨answer, b'⟩
    exact .bind (ih b') fun _ => .pure _

end Bench

/-! ## The law -/

theorem Journal.agree_empty {lo hi : Level} (order : lo.rank ≤ hi.rank) :
    Journal.Agree lo hi (.empty lo) (.empty hi) := ⟨order, rfl, rfl, rfl, rfl, rfl⟩

namespace Bench

/-- Whatever operations are performed, at two levels they answer the same, trouble included, leave
the same definitions, draft and registries and count the same faults. The records at the higher
level are those at the lower one whose own level is at or above the higher one, in their order. -/
theorem the_log_level_changes_no_answer (b : Bench) (os : List Operation) {lo hi : Level}
    (order : lo.rank ≤ hi.rank) :
    (b.performAll os (.empty hi)).1 = (b.performAll os (.empty lo)).1 ∧
    (b.performAll os (.empty hi)).2.faults = (b.performAll os (.empty lo)).2.faults ∧
    (b.performAll os (.empty hi)).2.records.toList =
      (b.performAll os (.empty lo)).2.records.toList.filter fun r => hi.keeps r.level := by
  have agree := Journal.agree_empty order
  obtain ⟨same, after⟩ := b.performAll_blind os lo hi _ _ agree
  exact ⟨same, after.faults, after.records⟩

/-- Makes a definition with a pattern that breaks off, asks it for a key and fails to declare. -/
def faultyRun : List Operation :=
  [.setInitial .all, .push ⟨.drop, .faulty (Bytes.ofString "a") false "broken"⟩, .build,
    .keep 1 (Bytes.ofString "k"), .call (.declare "args" []), .faults]

/-- At the lower level there is an account of the decision around the two errors. -/
theorem faultyRun_at_two_levels :
    Level.debug.rank ≤ Level.error.rank ∧
    (performAll {} faultyRun (.empty .error)).1 = (performAll {} faultyRun (.empty .debug)).1 ∧
    (performAll {} faultyRun (.empty .debug)).2.records.toList.map Record.level =
      [.debug, .error, .debug, .debug, .error] ∧
    (performAll {} faultyRun (.empty .error)).2.records.toList.map Record.level =
      [.error, .error] := by
  have order : Level.debug.rank ≤ Level.error.rank := by decide
  obtain ⟨same, -, records⟩ := the_log_level_changes_no_answer {} faultyRun order
  have low : (performAll {} faultyRun (.empty .debug)).2.records.toList.map Record.level =
      [.debug, .error, .debug, .debug, .error] := rfl
  refine ⟨order, same, low, ?_⟩
  rw [records]
  change List.map Record.level (List.filter (Level.error.keeps ∘ Record.level) _) = _
  rw [← List.filter_map, low]
  decide

end Bench

end QuerySieve
