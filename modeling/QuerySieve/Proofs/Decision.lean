-- The laws of deciding on a key. The rules are asked from the first to the last and each
-- one may overrule those before it, so the last rule that accepts the key decides, and
-- the policy decides where no rule does.
import QuerySieve.Proofs.Gives

namespace QuerySieve

/-! ## Matchers -/

/-- Whether a matcher accepts a key. A search that breaks off accepts none. -/
def Matcher.accepts : Matcher → Bytes → Bool
  | .literal k, key => k = key
  | .pattern p, key => p.isFoundIn key
  | .faulty _ _ _, _ => false

theorem Matcher.matches_gives (m : Matcher) (key : Bytes) :
    Gives (m.matches_ key) (m.accepts key) := by
  cases m with
  | literal k => exact Gives.pure _
  | pattern p => exact Gives.pure _
  | faulty source ignoreCase error =>
    -- The count differs from journal to journal, but it goes into the record only.
    intro j
    rfl

namespace Definition

/-! ## Rules in order -/

/-- The last rule that accepts a key. -/
def lastRule? (rules : List Rule) (key : Bytes) : Option Rule :=
  rules.reverse.find? fun r => r.matcher.accepts key

/-- The decision of rules that are asked in order, where `keep` was decided before
them. -/
def decision (keep : Bool) (rules : List Rule) (key : Bytes) : Bool :=
  match lastRule? rules key with
  | some r => r.action = .keep
  | none => keep

theorem decision_cons (keep : Bool) (r : Rule) (rules : List Rule) (key : Bytes) :
    decision keep (r :: rules) key =
      decision (if r.matcher.accepts key then r.action = .keep else keep) rules key := by
  unfold decision lastRule?
  rw [List.reverse_cons, List.find?_append]
  cases rules.reverse.find? fun r => r.matcher.accepts key with
  | some last => rfl
  | none =>
    by_cases h : r.matcher.accepts key = true
    · simp [h]
    · simp [h]

/-- Whether a definition keeps a key. -/
def keeps (d : Definition) (key : Bytes) : Bool := decision (d.initial = .all) d.rules key

/-! ## The journaled decision -/

theorem trace_gives (tracing : Bool) (key : Bytes) (line : Text) :
    Gives (trace tracing key line) () := by
  cases tracing with
  | true => exact Gives.record _ _ _
  | false => exact Gives.pure _

theorem ask_gives (tracing : Bool) (key : Bytes) (keep : Bool) (index : Nat) (r : Rule) :
    Gives (ask tracing key keep index r)
      (if r.matcher.accepts key then r.action = .keep else keep) := by
  unfold ask
  apply Gives.bind (r.matcher.matches_gives key)
  by_cases h : r.matcher.accepts key = true
  · simp only [h, if_true]
    exact Gives.bind (trace_gives _ _ _) (Gives.pure _)
  · simp only [h, Bool.false_eq_true, if_false]
    exact Gives.bind (trace_gives _ _ _) (Gives.pure _)

theorem askAll_gives (tracing : Bool) (key : Bytes) (keep : Bool) (index : Nat)
    (rules : List Rule) :
    Gives (askAll tracing key keep index rules) (decision keep rules key) := by
  induction rules generalizing keep index with
  | nil => exact Gives.pure _
  | cons r rules ih =>
    rw [decision_cons]
    exact Gives.bind (ask_gives tracing key keep index r) (ih _ _)

theorem shouldKeep_gives (d : Definition) (key : Bytes) :
    Gives (d.shouldKeep key) (d.keeps key) := by
  unfold shouldKeep keeps
  apply Gives.isEnabled
  intro tracing
  cases hr : d.rules with
  | nil => exact Gives.bind (trace_gives _ _ _) (Gives.pure _)
  | cons r rules =>
    apply Gives.bind (trace_gives _ _ _)
    apply Gives.bind (askAll_gives _ _ _ _ _)
    exact Gives.bind (trace_gives _ _ _) (Gives.pure _)

end Definition

end QuerySieve
