-- The laws of whole blocks. The directives of a block are applied in order; the block
-- compiles if each one is valid after those before it, and the definition is then the
-- projection of the list. Otherwise the first directive that is not valid is refused.
import Mathlib
import QuerySieve.Proofs.Directives

namespace QuerySieve.Block

open Directive

/-- Each directive is valid after the ones before it. -/
def Accepted (ds : List Directive) : Prop :=
  ∀ before d after, ds = before ++ d :: after → Valid (before.any isInitial) d

/-- A definition says what a list of directives says: the policy of the only directive
that gives one, and one rule for each directive that makes one, in order. -/
structure Projection (ds : List Directive) (d : Definition) : Prop where
  initialSet : d.initialSet = ds.any isInitial
  once : (ds.filter isInitial).length ≤ 1
  given : ∀ e ∈ ds, e.isInitial = true →
    ∃ value, e.args = [value] ∧ value.asText = d.initial.name
  absent : (∀ e ∈ ds, e.isInitial = false) → d.initial = .none
  volatile : d.volatile = ds.any isVolatile
  rules : List.Forall₂ Makes (ds.filter isRule) d.rules

/-! ## One more directive -/

theorem Accepted.nil : Accepted [] := by
  intro before d after split
  simp at split

theorem Accepted.snoc {ds : List Directive} {d : Directive} (h : Accepted ds)
    (hd : Valid (ds.any isInitial) d) : Accepted (ds ++ [d]) := by
  intro before e after split
  rcases List.eq_nil_or_concat after with rfl | ⟨after', last, rfl⟩
  · obtain ⟨rfl, he⟩ := List.append_inj' split rfl
    cases he
    exact hd
  · rw [List.concat_eq_append, ← List.cons_append, ← List.append_assoc] at split
    obtain ⟨rfl, _⟩ := List.append_inj' split rfl
    exact h before e after' rfl

theorem isRule_of_isInitial {d : Directive} (h : d.isInitial = true) :
    d.isRule = false ∧ d.isVolatile = false := by
  simp only [isInitial, decide_eq_true_eq] at h
  simp only [isRule, isInclude, isExclude, isVolatile, h]
  decide

theorem isInitial_of_isRule {d : Directive} (h : d.isRule = true) :
    d.isInitial = false ∧ d.isVolatile = false := by
  simp only [isRule, isInclude, isExclude, Bool.or_eq_true, decide_eq_true_eq] at h
  simp only [isInitial, isVolatile]
  rcases h with h | h
  · rw [h]
    decide
  · rw [h]
    decide

theorem isInitial_of_isVolatile {d : Directive} (h : d.isVolatile = true) :
    d.isInitial = false ∧ d.isRule = false := by
  simp only [isVolatile, decide_eq_true_eq] at h
  simp only [isRule, isInclude, isExclude, isInitial, h]
  decide

theorem isRule_of_makes {d : Directive} {r : Rule} (h : d.Makes r) : d.isRule = true := by
  cases h with
  | literal name => exact isRule_of_action name
  | pattern name => exact isRule_of_action name

theorem Projection.empty : Projection [] {} where
  initialSet := rfl
  once := by simp
  given := by simp
  absent := fun _ => rfl
  volatile := rfl
  rules := .nil

theorem Projection.setInitial {ds : List Directive} {d : Definition} {e : Directive}
    {value : Arg} {p : Policy} (h : Projection ds d) (name : e.isInitial = true)
    (args : e.args = [value]) (first : d.initialSet = false) (policy : value.asText = p.name) :
    Projection (ds ++ [e]) (d.setInitial p) := by
  obtain ⟨hrule, hvolatile⟩ := isRule_of_isInitial name
  have hnone : ∀ x ∈ ds, x.isInitial = false := by
    rw [h.initialSet, List.any_eq_false] at first
    simpa using first
  have hfilter : ds.filter isInitial = [] := by
    rw [List.filter_eq_nil_iff]
    simpa using hnone
  constructor
  · simp [Definition.setInitial, name]
  · simp [hfilter, name]
  · intro x hx given
    rcases List.mem_append.mp hx with hx | hx
    · rw [hnone x hx] at given
      cases given
    · cases List.mem_singleton.mp hx
      exact ⟨value, args, policy⟩
  · intro habsent
    have := habsent e (by simp)
    rw [name] at this
    cases this
  · simp [Definition.setInitial, h.volatile, hvolatile]
  · simpa [Definition.setInitial, hrule] using h.rules

/-- A directive that gives no policy leaves the given one as it was. -/
theorem Projection.given_snoc {ds : List Directive} {d : Definition} {e : Directive}
    (h : Projection ds d) (hinitial : e.isInitial = false) :
    ∀ x ∈ ds ++ [e], x.isInitial = true →
      ∃ value, x.args = [value] ∧ value.asText = d.initial.name := by
  intro x hx given
  rcases List.mem_append.mp hx with hx | hx
  · exact h.given x hx given
  · cases List.mem_singleton.mp hx
    rw [hinitial] at given
    cases given

theorem Projection.push {ds : List Directive} {d : Definition} {e : Directive} {r : Rule}
    (h : Projection ds d) (makes : e.Makes r) : Projection (ds ++ [e]) (d.push r) := by
  have hrule := isRule_of_makes makes
  obtain ⟨hinitial, hvolatile⟩ := isInitial_of_isRule hrule
  constructor
  · simp [Definition.push, h.initialSet, hinitial]
  · simpa [hinitial] using h.once
  · exact h.given_snoc hinitial
  · exact fun habsent => h.absent fun x hx => habsent x (List.mem_append_left _ hx)
  · simp [Definition.push, h.volatile, hvolatile]
  · rw [List.filter_append]
    simp only [List.filter_cons, hrule, if_true, List.filter_nil]
    exact List.rel_append h.rules (.cons makes .nil)

theorem Projection.markVolatile {ds : List Directive} {d : Definition} {e : Directive}
    (h : Projection ds d) (name : e.isVolatile = true) :
    Projection (ds ++ [e]) d.markVolatile := by
  obtain ⟨hinitial, hrule⟩ := isInitial_of_isVolatile name
  constructor
  · simp [Definition.markVolatile, h.initialSet, hinitial]
  · simpa [hinitial] using h.once
  · exact h.given_snoc hinitial
  · exact fun habsent => h.absent fun x hx => habsent x (List.mem_append_left _ hx)
  · simp [Definition.markVolatile, name]
  · simpa [Definition.markVolatile, hrule] using h.rules

/-- A directive that is taken was valid, and the definition goes on being the projection. -/
theorem taken_of_applied {ds : List Directive} {d r : Definition} {e : Directive}
    (h : Projection ds d) (applied : Applied e d (.ok r)) :
    Valid (ds.any isInitial) e ∧ Projection (ds ++ [e]) r := by
  cases applied with
  | @initial value p name args first policy =>
    refine ⟨.initial name args (h.initialSet ▸ first) ?_, h.setInitial name args first policy⟩
    cases p with
    | all => exact Or.inl policy
    | none => exact Or.inr policy
  | rule makes =>
    refine ⟨?_, h.push makes⟩
    cases makes with
    | literal name args => exact .literal (isRule_of_action name) args
    | pattern name args flag encodes compiles =>
      exact .pattern (isRule_of_action name) args flag encodes compiles
  | volatile name args => exact ⟨.volatile name args, h.markVolatile name⟩

/-! ## Whole lists -/

/-- How applying a whole list of directives ends. -/
inductive Ending (ds : List Directive) : Except Trouble Definition → Prop
  | accepted {d : Definition} (accepted : Accepted ds) (projection : Projection ds d) :
      Ending ds (.ok d)
  | refused {before after : List Directive} {d : Directive} {f : Failure}
      (split : ds = before ++ d :: after) (accepted : Accepted before)
      (why : Refused none (before.any isInitial) d f) : Ending ds (.error (.failure f))
  | stray {d : Directive} {s : Stray} (mem : d ∈ ds) (why : ¬ d.Orderly) :
      Ending ds (.error (.stray s))

/-- Induction on the directives to come. Those already applied are all valid and the
block is their projection. -/
theorem applyAll_ending (before ds : List Directive) (block : Definition)
    (accepted : Accepted before) (projection : Projection before block) :
    ∃ r, (applyAll ds block).ComesTo r ∧ Ending (before ++ ds) r := by
  induction ds generalizing before block with
  | nil =>
    rw [List.append_nil]
    exact ⟨_, .pure block, .accepted accepted projection⟩
  | cons d ds ih =>
    rw [applyAll]
    obtain ⟨r, hr, applied⟩ := apply_applied d block
    rcases r with t | next
    · refine ⟨_, .stop hr, ?_⟩
      cases applied with
      | refused why =>
        rw [projection.initialSet] at why
        exact .refused rfl accepted why
      | stray why => exact .stray (by simp) why.not_orderly
    · obtain ⟨valid, projection'⟩ := taken_of_applied projection applied
      obtain ⟨r, hrest, ending⟩ := ih (before ++ [d]) next (accepted.snoc valid) projection'
      refine ⟨r, .bind hr hrest, ?_⟩
      simpa using ending

theorem applyAll_empty (ds : List Directive) :
    ∃ r, (applyAll ds {}).ComesTo r ∧ Ending ds r := by
  exact applyAll_ending [] ds {} .nil .empty

/-- A failure is put into the block. -/
theorem compile_of_applyAll {ds : List Directive} {r : Except Trouble Definition}
    (h : (applyAll ds {}).ComesTo r) (block : Text) :
    (compile ds block).ComesTo (r.mapError (Trouble.mapFailure (Failure.inBlock block))) := by
  have hmapped := Attempt.ComesTo.mapFailure (Failure.inBlock block) h
  unfold compile
  cases r with
  | error t => exact .stop hmapped
  | ok d => exact .bind hmapped (.record _ _ _ (.pure d))

/-- How compiling a block ends. -/
theorem compile_ending (ds : List Directive) (block : Text) :
    ∃ r, (compile ds block).ComesTo (r.mapError (Trouble.mapFailure (Failure.inBlock block))) ∧
      Ending ds r := by
  obtain ⟨r, hr, ending⟩ := applyAll_empty ds
  exact ⟨r, compile_of_applyAll hr block, ending⟩

/-- The definition of a block that compiles is the projection of its directives. -/
theorem projection_of_compiles {ds : List Directive} {block : Text} {d : Definition}
    (compiles : (compile ds block).ComesTo (.ok d)) : Projection ds d := by
  obtain ⟨r, hr, ending⟩ := compile_ending ds block
  have he := compiles.unique hr
  cases ending with
  | accepted _ projection =>
    cases he
    exact projection
  | refused | stray => cases he

/-! ## The grammar decides -/

/-- A directive that is refused is not valid. -/
theorem Refused.not_valid {block : Option Text} {again : Bool} {d : Directive} {f : Failure}
    (h : Refused block again d f) : ¬ Valid again d := by
  intro valid
  cases valid with
  | initial name args first policy =>
    obtain ⟨hrule, hvolatile⟩ := isRule_of_isInitial name
    cases h with
    | initialTwice _ _ twice => simp [first] at twice
    | initialValue _ args' _ all none =>
      rw [args] at args'
      cases args'
      exact policy.elim all none
    | _ => simp_all
  | literal name args =>
    obtain ⟨hinitial, hvolatile⟩ := isInitial_of_isRule name
    cases h with
    | _ => simp_all
  | pattern name args flag encodes compiles =>
    obtain ⟨hinitial, hvolatile⟩ := isInitial_of_isRule name
    cases h with
    | pattern _ args' flag' encodes' malformed =>
      rw [args] at args'
      cases args'
      rw [flag] at flag'
      cases flag'
      rw [encodes] at encodes'
      cases encodes'
      rw [compiles] at malformed
      cases malformed
    | _ => simp_all
  | volatile name args =>
    obtain ⟨hinitial, hrule⟩ := isInitial_of_isVolatile name
    cases h with
    | _ => simp_all

/-- Orderly directives that are each valid after those before them compile. -/
theorem compile_of_accepted {ds : List Directive} (block : Text) (orderly : ∀ d ∈ ds, d.Orderly)
    (accepted : Accepted ds) :
    ∃ d, (compile ds block).ComesTo (.ok d) ∧ Projection ds d := by
  obtain ⟨r, hr, ending⟩ := compile_ending ds block
  cases ending with
  | accepted _ projection => exact ⟨_, hr, projection⟩
  | @refused before after d f split _ why =>
    exact absurd (accepted before d after split) why.not_valid
  | stray mem why => exact absurd (orderly _ mem) why

/-! ## The laws -/

/-- A block compiles if and only if each directive is valid after those before it. The
definition is then the projection of the directives, and otherwise the first directive
that is not valid is refused for the first thing that is wrong with it. -/
theorem the_first_invalid_directive_decides (ds : List Directive) (block : Text) (j : Journal)
    (orderly : ∀ d ∈ ds, d.Orderly) :
    ((∃ d, ((compile ds block).run j).1 = .ok d) ↔ Accepted ds) ∧
    (∀ d, ((compile ds block).run j).1 = .ok d → Projection ds d) ∧
    (∀ t, ((compile ds block).run j).1 = .error t →
      ∃ before d after f, ds = before ++ d :: after ∧ Accepted before ∧
        ¬ Valid (before.any isInitial) d ∧
        Refused (some block) (before.any isInitial) d f ∧ t = .failure f) := by
  obtain ⟨r, hr, ending⟩ := compile_ending ds block
  rw [hr j]
  cases ending with
  | accepted accepted projection =>
    refine ⟨⟨fun _ => accepted, fun _ => ⟨_, rfl⟩⟩, ?_, ?_⟩
    · rintro d ⟨⟩
      exact projection
    · rintro t ⟨⟩
  | @refused before after d f split accepted why =>
    refine ⟨⟨?_, ?_⟩, ?_, ?_⟩
    · rintro ⟨d', ⟨⟩⟩
    · exact fun h => absurd (h before d after split) why.not_valid
    · rintro d' ⟨⟩
    · rintro t ⟨⟩
      exact ⟨before, d, after, _, split, accepted, why.not_valid, why.inBlock block, rfl⟩
  | stray mem why => exact absurd (orderly _ mem) why

/-- A block that keeps all but some keys, and one key of those after all. -/
def adsBlock : List Directive :=
  [⟨"initial", [.text "all"]⟩, ⟨"exclude", [.text "~", .text "^ads\\."]⟩,
    ⟨"include", [.text "ads.test"]⟩, ⟨"volatile", []⟩]

theorem adsPattern_compiles :
    ∃ p, Pattern.compile (Bytes.ofString "^ads\\.") false = .ok p := by
  have h : (Pattern.compile (Bytes.ofString "^ads\\.") false).isOk = true := by cbv
  cases hp : Pattern.compile (Bytes.ofString "^ads\\.") false with
  | ok p => exact ⟨p, rfl⟩
  | error c =>
    rw [hp] at h
    cases h

theorem adsBlock_orderly : ∀ d ∈ adsBlock, d.Orderly := by
  have hargs : ∀ d ∈ adsBlock, ∀ a ∈ d.args, a.asBytes.isOk = true := by decide
  obtain ⟨p, hp⟩ := adsPattern_compiles
  intro d hd
  constructor
  · intro a ha
    have h := hargs d hd a ha
    cases hb : a.asBytes with
    | ok octets => exact ⟨octets, rfl⟩
    | error e =>
      rw [hb] at h
      cases h
  · intro operator source ignoreCase octets complaint _ args flag encodes fails
    simp only [adsBlock, List.mem_cons, List.not_mem_nil, or_false] at hd
    rcases hd with rfl | rfl | rfl | rfl
    · cases args
    · cases args
      cases flag
      cases encodes
      have hoctets : Text.utf8 (Text.ofString "^ads\\.") = Bytes.ofString "^ads\\." := by decide
      rw [hoctets, hp] at fails
      cases fails
    · cases args
    · cases args

theorem adsBlock_accepted : Accepted adsBlock := by
  obtain ⟨p, hp⟩ := adsPattern_compiles
  have h1 := Accepted.nil.snoc (d := ⟨"initial", [.text "all"]⟩)
    (.initial (by decide) rfl rfl (Or.inl rfl))
  have h2 := h1.snoc (d := ⟨"exclude", [.text "~", .text "^ads\\."]⟩)
    (.pattern (by decide) rfl rfl rfl hp)
  have h3 := h2.snoc (d := ⟨"include", [.text "ads.test"]⟩) (.literal (by decide) rfl)
  exact h3.snoc (.volatile (by decide) rfl)

theorem adsBlock_compiles_to_its_projection :
    (∀ d ∈ adsBlock, d.Orderly) ∧
    ∃ d, ((compile adsBlock "$filtered_args").run (.empty .debug)).1 = .ok d ∧
      Projection adsBlock d := by
  obtain ⟨compiles, projects, _⟩ := the_first_invalid_directive_decides adsBlock
    "$filtered_args" (.empty .debug) adsBlock_orderly
  obtain ⟨d, hd⟩ := compiles.mpr adsBlock_accepted
  exact ⟨adsBlock_orderly, d, hd, projects d hd⟩

end QuerySieve.Block
