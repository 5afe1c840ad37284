-- The law of the account of a decision. An account opens with the policy, tells of each rule in
-- order and closes with the decision, and an error of a search that broke off stands right before
-- what is told of its rule.
import QuerySieve.Proofs.Accounts
import QuerySieve.Proofs.Decision

namespace QuerySieve

/-! ## Steps and what they write -/

/-- Taken with a journal, the step gives a value and writes just these records. -/
def Leaves {α : Type} (step : Journaled α) (j : Journal) (a : α) (new : List Record) : Prop :=
  (step j).1 = a ∧ j.Adds new (step j).2

namespace Leaves

variable {α β : Type} {j : Journal} {step : Journaled α} {next : α → Journaled β} {a : α} {b : β}
  {new more : List Record}

theorem pure (a : α) (j : Journal) : Leaves (pure a) j a [] := ⟨rfl, .refl j⟩

theorem bind (first : Leaves step j a new) (rest : Leaves (next a) (step j).2 b more) :
    Leaves (step >>= next) j b (new ++ more) := by
  obtain ⟨rfl, adds⟩ := first
  exact ⟨rest.1, adds.trans rest.2⟩

/-- Nothing is written after the step. -/
theorem last (first : Leaves step j a new) (b : β) :
    Leaves (step >>= fun _ => Pure.pure b) j b new := by
  have ends : Leaves (Pure.pure b) (step j).2 b [] := pure b _
  have h : Leaves (step >>= fun _ => Pure.pure b) j b (new ++ []) := first.bind ends
  rwa [List.append_nil] at h

theorem isEnabled {next : Bool → Journaled β} (level : Level)
    (rest : Leaves (next (j.threshold.keeps level)) j b new) :
    Leaves (isEnabled level >>= next) j b new := rest

end Leaves

/-! ## What is told of one rule -/

/-- What an account tells of a rule. -/
structure Verdict where
  rule : Rule
  /-- The place of the rule in its definition. -/
  index : Nat
  /-- The search that broke off and its number, if one did. -/
  fault : Option (Breakdown × Nat)
  /-- The decision that the rule came to, if it matched. -/
  decision : Option Bool

namespace Verdict

/-- A line of the account of a decision on a key. -/
def line (c : Context) (key : Bytes) (said : Text) : Record :=
  ⟨.debug, Matcher.source, c, "args_filter: key='" ++ key.decodeReplacing ++ "' " ++ said⟩

/-- What is said of the rule itself. -/
def said (v : Verdict) : Text :=
  let rule := "rule[" ++ Text.ofNat v.index ++ "] " ++ v.rule.label
  match v.decision with
  | some keep => rule ++ " matched; keep=" ++ Definition.truth keep
  | none => rule ++ " did not match"

/-- The errors of a fault, of which there is at most one. -/
def errors (c : Context) (v : Verdict) : List Record :=
  v.fault.toList.map fun f => ⟨.error, Matcher.source, c, f.1.message f.2⟩

/-- The records of a rule: the error of its fault, if there is one, and then its line. -/
def records (c : Context) (key : Bytes) (v : Verdict) : List Record :=
  v.errors c ++ [line c key v.said]

/-- The verdict is true of its rule. A rule that matched came to its own action, and a rule with a
fault did not match. -/
structure Holds (key : Bytes) (v : Verdict) : Prop where
  matched : Gives (v.rule.matcher.matches_ key) v.decision.isSome
  action : ∀ keep, v.decision = some keep → keep = (v.rule.action = .keep)
  fault : v.fault.map Prod.fst = v.rule.matcher.breakdown?
  faulty : v.fault.isSome → v.decision = none

end Verdict

/-- What is told of a rule at an index, where so many searches broke off before. -/
def Rule.verdict (key : Bytes) (index count : Nat) (r : Rule) : Verdict where
  rule := r
  index
  fault := r.matcher.breakdown?.map fun b => (b, count + 1)
  decision := if r.matcher.accepts key then some (r.action = .keep) else none

theorem Rule.verdict_holds (key : Bytes) (index count : Nat) (r : Rule) :
    (r.verdict key index count).Holds key := by
  refine ⟨?_, ?_, ?_, ?_⟩
  · have gives := r.matcher.matches_gives key
    unfold Rule.verdict
    cases h : r.matcher.accepts key with
    | true => simpa [h] using gives
    | false => simpa [h] using gives
  · intro keep h
    simp only [Rule.verdict, Option.ite_none_right_eq_some, Option.some.injEq] at h
    simp [← h.2, Rule.verdict]
  · simp [Rule.verdict, Function.comp_def]
  · unfold Rule.verdict
    cases r.matcher with
    | literal k => exact nofun
    | pattern p => exact nofun
    | faulty source ignoreCase error => exact fun _ => rfl

namespace Definition

/-! ## One rule -/

variable {j : Journal}

theorem trace_leaves (level : j.threshold = .debug) (key : Bytes) (said : Text) :
    Leaves (trace true key said) j () [Verdict.line j.context key said] := by
  have written := Journal.Adds.write .debug Matcher.source
    ("args_filter: key='" ++ key.decodeReplacing ++ "' " ++ said) j
  rw [level] at written
  exact ⟨rfl, written⟩

/-- A search writes the error of its fault, if it broke off. -/
theorem matches_leaves (level : j.threshold = .debug) (key : Bytes) (index : Nat) (r : Rule) :
    Leaves (r.matcher.matches_ key) j (r.matcher.accepts key)
      ((r.verdict key index j.faults).errors j.context) := by
  refine ⟨r.matcher.matches_gives key j, ?_⟩
  unfold Rule.verdict Verdict.errors
  cases r.matcher with
  | literal k => exact .refl j
  | pattern p => exact .refl j
  | faulty source ignoreCase error =>
    let counted : Journal := { j with faults := j.faults + 1 }
    have written := Journal.Adds.write .error Matcher.source
      (Breakdown.message ⟨source, error⟩ counted.faults) counted
    rw [show counted.threshold = .debug from level] at written
    exact ⟨written.threshold, written.context, written.records⟩

/-- To ask a rule writes its verdict, and the decision changes where the rule matched. -/
theorem ask_leaves (level : j.threshold = .debug) (key : Bytes) (keep : Bool) (index : Nat)
    (r : Rule) :
    Leaves (ask true key keep index r) j ((r.verdict key index j.faults).decision.getD keep)
      ((r.verdict key index j.faults).records j.context key) := by
  have searched := matches_leaves level key index r
  have told := trace_leaves (searched.2.threshold.trans level) key
    (r.verdict key index j.faults).said
  rw [searched.2.context] at told
  unfold ask Verdict.records
  apply searched.bind
  unfold Verdict.said at told ⊢
  cases found : r.matcher.accepts key with
  | true =>
    have decided : (r.verdict key index j.faults).decision = some (r.action = .keep : Bool) := by
      simp [Rule.verdict, found]
    rw [decided] at told ⊢
    exact told.last _
  | false =>
    have undecided : (r.verdict key index j.faults).decision = none := by
      simp [Rule.verdict, found]
    rw [undecided] at told ⊢
    exact told.last _

/-! ## All rules -/

/-- What is told of rules, the first of which stands at an index, where so many searches broke off
before. -/
structure Account (key : Bytes) (rules : List Rule) (index count : Nat) (told : List Verdict) :
    Prop where
  order : told.map (fun v => (v.rule, v.index)) = rules.zipIdx index
  holds : ∀ v ∈ told, v.Holds key
  faults : told.filterMap Verdict.fault =
    (rules.flatMap fun r => r.matcher.breakdown?.toList).zipIdx (count + 1)

theorem account_nil (key : Bytes) (index count : Nat) : Account key [] index count [] :=
  ⟨rfl, List.forall_mem_nil _, rfl⟩

theorem Account.cons {key : Bytes} {rules : List Rule} {index count : Nat} {told : List Verdict}
    (r : Rule)
    (h : Account key rules (index + 1) (count + r.matcher.breakdown?.toList.length) told) :
    Account key (r :: rules) index count (r.verdict key index count :: told) := by
  refine ⟨?_, ?_, ?_⟩
  · rw [List.map_cons, h.order, List.zipIdx_cons]
    rfl
  · exact List.forall_mem_cons.mpr ⟨r.verdict_holds key index count, h.holds⟩
  · rw [List.filterMap_cons, h.faults, List.flatMap_cons, List.zipIdx_append]
    unfold Rule.verdict
    cases r.matcher.breakdown? with
    | none => rfl
    | some b => rfl

/-- The decision after rules: that of the last one that matched, or the one before them. -/
def lastDecision (keep : Bool) (told : List Verdict) : Bool :=
  (told.filterMap Verdict.decision).getLast?.getD keep

theorem lastDecision_cons (keep : Bool) (v : Verdict) (told : List Verdict) :
    lastDecision keep (v :: told) = lastDecision (v.decision.getD keep) told := by
  unfold lastDecision
  rw [List.filterMap_cons]
  cases v.decision with
  | none => rfl
  | some b => simp [List.getLast?_cons]

/-- Induction on the rules: each is told of, and the decision goes on from the one before. -/
theorem askAll_leaves (level : j.threshold = .debug) (key : Bytes) (keep : Bool) (index : Nat)
    (rules : List Rule) :
    ∃ told, Account key rules index j.faults told ∧
      Leaves (askAll true key keep index rules) j (lastDecision keep told)
        (told.flatMap fun v => v.records j.context key) := by
  induction rules generalizing j keep index with
  | nil => exact ⟨[], account_nil key index j.faults, .pure keep j⟩
  | cons r rules ih =>
    have asked := ask_leaves level key keep index r
    have counted := (ask_breaks true key keep index r j).1
    obtain ⟨told, account, writes⟩ := ih (asked.2.threshold.trans level)
      ((r.verdict key index j.faults).decision.getD keep) (index + 1)
    rw [counted] at account
    rw [asked.2.context] at writes
    refine ⟨_, account.cons r, ?_⟩
    rw [lastDecision_cons, List.flatMap_cons]
    exact asked.bind writes

/-! ## The law -/

/-- The first line of an account. -/
def opening (d : Definition) : Text :=
  "evaluating " ++ Text.ofNat d.rules.length ++ " rules; initial_keep=" ++ truth (d.initial = .all)

/-- The last line of an account. -/
def closing (keep : Bool) : Text := "final keep=" ++ truth keep

/-- The lines of an account are the records that are not errors. -/
theorem filter_records (c : Context) (key : Bytes) (told : List Verdict) :
    (told.flatMap fun v => v.records c key).filter (·.level = .debug) =
      told.map fun v => Verdict.line c key v.said := by
  induction told with
  | nil => rfl
  | cons v told ih =>
    rw [List.flatMap_cons, List.filter_append, ih, List.map_cons]
    unfold Verdict.records Verdict.errors
    cases v.fault with
    | none => rfl
    | some f => rfl

/-- With an account, a definition with rules writes the opening line, what is told of each rule in
order, and the closing line. Whether a rule is said to have matched is what its own search gives,
and then it is said with the action of the rule; the error of a fault stands right before the line
of its rule, which did not match. What is closed with is the value, and it is the decision of the
last rule that matched, or the initial one where none did. -/
theorem the_account_of_a_decision_is_true (d : Definition) (full : d.rules ≠ []) (key : Bytes)
    (level : j.threshold = .debug) :
    ∃ told new, Account key d.rules 0 j.faults told ∧
      (d.shouldKeep key j).1 = lastDecision (d.initial = .all) told ∧
      j.Adds new (d.shouldKeep key j).2 ∧
      new = Verdict.line j.context key d.opening
        :: (told.flatMap fun v => v.records j.context key)
        ++ [Verdict.line j.context key (closing (d.shouldKeep key j).1)] ∧
      new.filter (·.level = .debug) = Verdict.line j.context key d.opening
        :: (told.map fun v => Verdict.line j.context key v.said)
        ++ [Verdict.line j.context key (closing (d.shouldKeep key j).1)] := by
  have opened := trace_leaves level key d.opening
  have counted := (trace_breaks true key d.opening j).1
  obtain ⟨told, account, asked⟩ := askAll_leaves (opened.2.threshold.trans level) key
    (d.initial = .all) 0 d.rules
  have closed := trace_leaves (asked.2.threshold.trans (opened.2.threshold.trans level)) key
    (closing (lastDecision (d.initial = .all) told))
  rw [asked.2.context, opened.2.context] at closed
  rw [opened.2.context] at asked
  rw [counted] at account
  obtain ⟨value, adds⟩ : Leaves (d.shouldKeep key) j (lastDecision (d.initial = .all) told)
      ([Verdict.line j.context key d.opening] ++ ((told.flatMap fun v => v.records j.context key) ++
        [Verdict.line j.context key (closing (lastDecision (d.initial = .all) told))])) := by
    apply Leaves.isEnabled
    rw [level, if_neg (by simpa using full)]
    exact opened.bind (asked.bind (closed.last _))
  refine ⟨told, _, account, value, adds, ?_, ?_⟩
  · rw [value]
    rfl
  · rw [value, List.filter_append, List.filter_append, filter_records]
    rfl

/-- The first rule drops one key, and every search of the second breaks off. -/
def brokenRules : Definition where
  initial := .all
  rules := [⟨.drop, .literal (Bytes.ofString "a")⟩,
    ⟨.keep, .faulty (Bytes.ofString "b") false "broken"⟩]

/-- The error stands before the line of the second rule, and the first rule decides. -/
theorem brokenRules_account :
    brokenRules.rules ≠ [] ∧ (Journal.empty .debug).threshold = .debug ∧
    (∃ told, Account (Bytes.ofString "a") brokenRules.rules 0 0 told ∧
      lastDecision true told = false) ∧
    (brokenRules.shouldKeep (Bytes.ofString "a") (.empty .debug)).2.records.toList.map
        Record.message =
      (["args_filter: key='a' evaluating 2 rules; initial_keep=True",
        "args_filter: key='a' rule[0] exclude literal matched; keep=False",
        "regex execution failed for pattern 'b': broken (faults so far: 1)",
        "args_filter: key='a' rule[1] include regex did not match",
        "args_filter: key='a' final keep=False"] : List Text) := by
  have full : brokenRules.rules ≠ [] := by simp [brokenRules]
  obtain ⟨told, new, account, value, -⟩ :=
    the_account_of_a_decision_is_true brokenRules full (Bytes.ofString "a")
      (rfl : (Journal.empty .debug).threshold = .debug)
  exact ⟨full, rfl, ⟨told, account, value.symm⟩, by cbv⟩

end Definition

end QuerySieve
