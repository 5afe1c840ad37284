-- The laws of searches that break off. A rule whose every search breaks off matches no key and
-- leaves what was decided before it. So a definition decides as it would without such rules,
-- wherever they stand and however many they are.
import QuerySieve.Proofs.Decision
import QuerySieve.Proofs.Filtering
import QuerySieve.Proofs.Operations

namespace QuerySieve

/-! ## What decides -/

/-- No search of the rule breaks off, and the rule matches the key. -/
def Rule.Finds (r : Rule) (key : Bytes) : Prop :=
  r.matcher.isFaulty = false ∧ Gives (r.matcher.matches_ key) true

theorem Matcher.accepts_of_isFaulty {m : Matcher} (h : m.isFaulty = true) (key : Bytes) :
    m.accepts key = false := by
  cases m with
  | literal k | pattern p => cases h
  | faulty source ignoreCase error => rfl

theorem Rule.finds_iff (r : Rule) (key : Bytes) :
    r.Finds key ↔ r.matcher.accepts key = true := by
  constructor
  · rintro ⟨-, found⟩
    exact (r.matcher.matches_gives key).unique found
  · intro accepts
    refine ⟨?_, accepts ▸ r.matcher.matches_gives key⟩
    rw [Bool.eq_false_iff]
    intro faulty
    rw [Matcher.accepts_of_isFaulty faulty] at accepts
    cases accepts

namespace Definition

/-- What is decided on a key: the effect of the last rule that finds it, or the policy where no
rule does. -/
inductive Decides (d : Definition) (key : Bytes) : Bool → Prop
  | rule {before after : List Rule} {r : Rule} (split : d.rules = before ++ r :: after)
      (finds : r.Finds key) (last : ∀ s ∈ after, ¬ s.Finds key) : Decides d key (r.action = .keep)
  | policy (none : ∀ r ∈ d.rules, ¬ r.Finds key) : Decides d key (d.initial = .all)

theorem lastRule?_eq_some_iff {rules : List Rule} {key : Bytes} {r : Rule} :
    lastRule? rules key = some r ↔ r.Finds key ∧
      ∃ before after, rules = before ++ r :: after ∧ ∀ s ∈ after, ¬ s.Finds key := by
  simp only [Rule.finds_iff, Bool.not_eq_true]
  unfold lastRule?
  rw [List.find?_eq_some_iff_append]
  apply and_congr_right
  intro _
  constructor
  · rintro ⟨after, before, split, last⟩
    refine ⟨before.reverse, after.reverse, ?_, by simpa using last⟩
    rw [← List.reverse_reverse rules, split]
    simp
  · rintro ⟨before, after, rfl, last⟩
    exact ⟨after.reverse, before.reverse, by simp, by simpa using last⟩

theorem lastRule?_eq_none_iff {rules : List Rule} {key : Bytes} :
    lastRule? rules key = none ↔ ∀ r ∈ rules, ¬ r.Finds key := by
  simp [lastRule?, Rule.finds_iff]

theorem decides_iff {d : Definition} {key : Bytes} {b : Bool} :
    d.Decides key b ↔ b = d.keeps key := by
  unfold keeps decision
  constructor
  · intro h
    cases h with
    | rule split finds last =>
      rw [lastRule?_eq_some_iff.mpr ⟨finds, _, _, split, last⟩]
    | policy none => rw [lastRule?_eq_none_iff.mpr none]
  · rintro rfl
    cases found : lastRule? d.rules key with
    | some r =>
      obtain ⟨finds, before, after, split, last⟩ := lastRule?_eq_some_iff.mp found
      exact .rule split finds last
    | none => exact .policy (lastRule?_eq_none_iff.mp found)

/-! ## Leaving out the rules that break off -/

/-- The definition without the rules whose every search breaks off. -/
def sound (d : Definition) : Definition :=
  { d with rules := d.rules.filter fun r => !r.matcher.isFaulty }

theorem sound_setInitial (p : Policy) (d : Definition) :
    (d.setInitial p).sound = d.sound.setInitial p := rfl

theorem sound_markVolatile (d : Definition) : d.markVolatile.sound = d.sound.markVolatile := rfl

theorem sound_push (r : Rule) (d : Definition) :
    (d.push r).sound = if r.matcher.isFaulty then d.sound else d.sound.push r := by
  cases h : r.matcher.isFaulty with
  | true => simp [sound, push, h]
  | false => simp [sound, push, h]

/-- To look for a rule that accepts the key is to pass over those that break off. -/
theorem keeps_sound (d : Definition) (key : Bytes) : d.sound.keeps key = d.keeps key := by
  have same : lastRule? d.sound.rules key = lastRule? d.rules key := by
    unfold lastRule? sound
    rw [← List.filter_reverse, List.find?_filter]
    congr 1
    funext r
    cases h : r.matcher.isFaulty with
    | true => simp [Matcher.accepts_of_isFaulty h]
    | false => simp
  unfold keeps decision
  rw [same]
  rfl

end Definition

/-! ## Building without them -/

/-- The operation puts a rule whose every search breaks off. -/
def Operation.pushesFaulty : Operation → Bool
  | .push r => r.matcher.isFaulty
  | _ => false

theorem Block.orStray_comesTo {α ε : Type} (stray : ε → Stray) (e : Except ε α) :
    ∃ r, (orStray stray e).ComesTo r := by
  cases e with
  | ok a => exact ⟨_, orStray_ok stray a⟩
  | error e => exact ⟨_, orStray_error stray e⟩

theorem Pattern.compileArg_comesTo (source : Arg) (ignoreCase : Bool) :
    ∃ r, (compileArg source ignoreCase).ComesTo r := by
  unfold compileArg
  cases source.asBytes with
  | error e => exact ⟨_, .stop (Block.orStray_error _ e)⟩
  | ok octets =>
    obtain ⟨r, comes⟩ := Block.orStray_comesTo (fun complaint => .pattern complaint octets)
      (Pattern.compile octets ignoreCase)
    exact ⟨r, .bind (Block.orStray_ok _ octets) comes⟩

namespace Bench

theorem attempt_gives {α : Type} (b : Bench) {step : Attempt α} {r : Except Trouble α}
    (comes : step.ComesTo r) (keep : α → Answer × Bench) :
    Gives (b.attempt step keep) (match r with
      | .ok a => (.ok (keep a).1, (keep a).2)
      | .error t => (.error t, b)) := by
  apply Gives.bind comes
  cases r with
  | ok a => exact Gives.pure _
  | error t => exact Gives.pure _

/-- What is compiled as a whole is put beside the definition under construction. -/
theorem attempt_block {α : Type} (b : Bench) (step : Attempt α) {keep : α → Answer × Bench}
    (aside : ∀ a, (keep a).2.block = b.block) (j : Journal) :
    (b.attempt step keep j).1.2.block = b.block := by
  have runs (next : Except Trouble α → Journaled (Except Trouble Answer × Bench)) :
      (step.run >>= next) j = next (step.run j).1 (step.run j).2 := rfl
  rw [attempt, runs]
  cases (step.run j).1 with
  | ok a => exact aside a
  | error t => rfl

theorem afterCall_block (b : Bench) (d : Draft) (r : Except Trouble Reply) :
    (b.afterCall d r).block = b.block := by
  unfold afterCall
  split <;> rfl

variable {b b' : Bench} (same : b'.block = b.block.sound)
include same

theorem perform_sound {o : Operation} (other : o.pushesFaulty = false) (j j' : Journal) :
    (b'.perform o j').1.2.block = (b.perform o j).1.2.block.sound := by
  cases o with
  | setInitial p =>
    change b'.block.setInitial p = (b.block.setInitial p).sound
    rw [same, Definition.sound_setInitial]
  | markVolatile =>
    change b'.block.markVolatile = b.block.markVolatile.sound
    rw [same, Definition.sound_markVolatile]
  | push r =>
    change b'.block.push r = (b.block.push r).sound
    have sound : r.matcher.isFaulty = false := other
    rw [same, Definition.sound_push, sound, if_neg Bool.false_ne_true]
  | pattern action source ignoreCase =>
    obtain ⟨r, comes⟩ := Pattern.compileArg_comesTo source ignoreCase
    unfold perform
    rw [attempt_gives b comes _ j, attempt_gives b' comes _ j']
    cases r with
    | error t => exact same
    | ok p =>
      change b'.block.push _ = (b.block.push _).sound
      rw [same, Definition.sound_push]
      rfl
  | compile ds block =>
    unfold perform
    rw [attempt_block b _ (fun _ => rfl) j, attempt_block b' _ (fun _ => rfl) j', same]
  | compileNamed raw ds =>
    unfold perform
    rw [attempt_block b _ (fun _ => rfl) j, attempt_block b' _ (fun _ => rfl) j', same]
  | call c =>
    change (b'.afterCall _ _).block = (b.afterCall _ _).block.sound
    rw [afterCall_block, afterCall_block, same]
  | _ => exact same

theorem perform_of_pushesFaulty {o : Operation} (h : o.pushesFaulty = true) (j : Journal) :
    b'.block = (b.perform o j).1.2.block.sound := by
  cases o with
  | push r =>
    have faulty : r.matcher.isFaulty = true := h
    change b'.block = (b.block.push r).sound
    rw [same, Definition.sound_push, faulty, if_pos rfl]
  | _ => cases h

/-- Induction on the operations. Where a rule that breaks off is put, only the whole run goes on;
otherwise both do, in step. -/
theorem performAll_sound (os : List Operation) (j j' : Journal) :
    (b'.performAll (os.filter fun o => !o.pushesFaulty) j').1.2.block =
      (b.performAll os j).1.2.block.sound := by
  induction os generalizing b b' j j' with
  | nil => exact same
  | cons o os ih =>
    cases h : o.pushesFaulty with
    | true =>
      rw [List.filter_cons_of_neg (by simp [h])]
      exact ih (perform_of_pushesFaulty same h j) _ _
    | false =>
      rw [List.filter_cons_of_pos (by simp [h])]
      exact ih (perform_sound same h j j') _ _

end Bench

/-! ## The law -/

/-- A definition decides by the last rule that matches the key without breaking off, or by its
policy where there is none. So nothing is decided otherwise, on a key or on the segments of a
query, if all rules that break off are left out; and a definition is built without them by the
same operations but those that put them. -/
theorem a_rule_that_breaks_off_decides_nothing (d : Definition) :
    (∀ key, ∃ b, Gives (d.shouldKeep key) b ∧ ∀ c, d.Decides key c ↔ c = b) ∧
    (∀ key j j', (d.sound.shouldKeep key j').1 = (d.shouldKeep key j).1) ∧
    (∀ q j j', (Query.filterM d.sound.shouldKeep q j').1 = (Query.filterM d.shouldKeep q j).1) ∧
    ∀ os j j', (Bench.performAll {} (os.filter fun o => !o.pushesFaulty) j').1.2.block =
      (Bench.performAll {} os j).1.2.block.sound := by
  refine ⟨?_, ?_, ?_, ?_⟩
  · exact fun key => ⟨_, d.shouldKeep_gives key, fun c => Definition.decides_iff⟩
  · intro key j j'
    rw [d.sound.shouldKeep_gives key j', d.shouldKeep_gives key j, d.keeps_sound]
  · intro q j j'
    rw [Query.filterM_gives d.sound.shouldKeep_gives q j',
      Query.filterM_gives d.shouldKeep_gives q j]
    simp only [d.keeps_sound]
  · exact fun os j j' => Bench.performAll_sound rfl os j j'

example :
    Definition.keeps
      { rules := [⟨.keep, .literal (Bytes.ofString "a")⟩,
          ⟨.drop, .faulty (Bytes.ofString "a") false "broken"⟩] } (Bytes.ofString "a") = true := by
  decide

end QuerySieve
