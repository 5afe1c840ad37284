-- The laws of frozen registries. A run enters a definition under a key at most once, so a
-- registry that it freezes is a map: a name finds the definition of the one call that
-- entered its key.
import QuerySieve.Proofs.Runs

namespace QuerySieve

/-! ## The order of texts -/

namespace Text

/-- A text stands before another by their code points. -/
def Before (s t : Text) : Prop := List.Lex (· < ·) s t

theorem le_cons (a b : CodePoint) (s t : Text) :
    le (a :: s) (b :: t) = true ↔ a < b ∨ a = b ∧ le s t = true := by
  rw [le]
  by_cases hab : a = b
  · subst hab
    simp
  · simp [hab]

theorem le_trans {s t u : Text} (hst : le s t = true) (htu : le t u = true) :
    le s u = true := by
  induction s generalizing t u with
  | nil => rfl
  | cons a s ih =>
    cases t with
    | nil => cases hst
    | cons b t =>
      cases u with
      | nil => cases htu
      | cons c u =>
        rw [le_cons] at hst htu ⊢
        rcases hst with hab | ⟨rfl, hst⟩
        · rcases htu with hbc | ⟨rfl, htu⟩
          · exact Or.inl (Fin.lt_trans hab hbc)
          · exact Or.inl hab
        · rcases htu with hbc | ⟨rfl, htu⟩
          · exact Or.inl hbc
          · exact Or.inr ⟨rfl, ih hst htu⟩

theorem le_total (s t : Text) : le s t = true ∨ le t s = true := by
  induction s generalizing t with
  | nil => exact Or.inl rfl
  | cons a s ih =>
    cases t with
    | nil => exact Or.inr rfl
    | cons b t =>
      rw [le_cons, le_cons]
      by_cases hab : a = b
      · subst hab
        exact (ih t).imp (fun h => Or.inr ⟨rfl, h⟩) (fun h => Or.inr ⟨rfl, h⟩)
      · have hlt : a < b ∨ b < a := by
          rw [Fin.ext_iff] at hab
          simp only [Fin.lt_def]
          omega
        exact hlt.imp Or.inl Or.inl

theorem before_of_le {s t : Text} (hle : le s t = true) (hne : s ≠ t) : Before s t := by
  induction s generalizing t with
  | nil =>
    cases t with
    | nil => exact absurd rfl hne
    | cons b t => exact .nil
  | cons a s ih =>
    cases t with
    | nil => cases hle
    | cons b t =>
      rcases (le_cons a b s t).mp hle with hab | ⟨rfl, hrest⟩
      · exact .rel hab
      · exact .cons (ih hrest fun he => hne (he ▸ rfl))

end Text

/-! ## Reading a registry -/

theorem Draft.distinct_extend {d : Draft} {key : Text} (definition : Definition)
    (distinct : Pairs.Distinct d.filters) (free : ¬ d.Holds key) :
    Pairs.Distinct (d.extend key definition).filters := by
  have hput : Pairs.Distinct (Pairs.put key definition d.filters) := Pairs.distinct_put distinct
  rw [Pairs.put_of_notMem free] at hput
  exact hput

namespace Registry

variable {r : Registry}

theorem contains_eq_isSome (r : Registry) (name : Text) :
    r.contains name = (r.lookup? name).isSome := by
  rw [contains, lookup?, Pairs.find?, Option.isSome_map, List.isSome_find?]

theorem mem_names (r : Registry) (key : Text) : key ∈ r.names ↔ key ∈ r.filters.map (·.1) :=
  (List.mergeSort_perm _ _).mem_iff

theorem names_ascending (distinct : Pairs.Distinct r.filters) : r.names.Pairwise Text.Before := by
  have hsorted : r.names.Pairwise fun s t => Text.le s t = true := by
    apply List.pairwise_mergeSort
    · intro s t u hst htu
      exact Text.le_trans hst htu
    · intro s t
      rw [Bool.or_eq_true]
      exact Text.le_total s t
  have hnodup : r.names.Nodup := (List.mergeSort_perm _ _).nodup_iff.mpr distinct
  exact hsorted.imp₂ (fun _ _ => Text.before_of_le) hnodup

theorem mem_items (distinct : Pairs.Distinct r.filters) (key : Text) (d : Definition) :
    (key, d) ∈ r.items ↔ (key, d) ∈ r.filters := by
  have hfind := Pairs.find?_eq_some_iff distinct key d
  unfold items
  rw [List.mem_filterMap]
  constructor
  · rintro ⟨n, _, hn⟩
    obtain ⟨d', hd, he⟩ := Option.map_eq_some_iff.mp hn
    cases he
    exact hfind.mp hd
  · intro h
    refine ⟨key, (r.mem_names key).mpr (List.mem_map_of_mem h), ?_⟩
    rw [hfind.mpr h]
    rfl

/-- Every name has an item, so the items stand in the order of the names. -/
theorem items_names (distinct : Pairs.Distinct r.filters) : r.items.map (·.1) = r.names := by
  have hname : ∀ n ∈ r.names,
      ((Pairs.find? n r.filters).map (n, ·)).map (·.1) = some n := by
    intro n hn
    obtain ⟨⟨key, d⟩, hd, rfl⟩ := List.mem_map.mp ((r.mem_names n).mp hn)
    rw [(Pairs.find?_eq_some_iff distinct key d).mpr hd]
    rfl
  rw [items, List.map_filterMap, List.filterMap_congr hname, List.filterMap_some]

end Registry

namespace Call

/-! ## What a call enters -/

/-- The key and the definition that a call entered, as its reply says. -/
def entered? : Call × Except Trouble Reply → Option (Text × Definition)
  | (declare raw _, .ok (.declared definition)) => some (Name.normalize raw, definition)
  | (register name definition, .ok .registered) => some (Name.normalize name, definition)
  | _ => none

/-- The calls that enter a definition when they do not end in trouble. -/
def enters : Call → Bool
  | freeze => false
  | declare _ _ | register _ _ => true

/-! ## The invariant of a run -/

variable {d d' : Draft} {steps : List (Call × Except Trouble Reply)}

/-- A step puts what it enters at the end of the draft. -/
theorem Performed.filters {c : Call} {r : Except Trouble Reply} (h : Performed d c r d') :
    d'.filters = d.filters ++ (entered? (c, r)).toList := by
  cases h with
  | @failed c => cases c <;> simp [entered?]
  | declared _ parse => simp [entered?, Draft.extend, Name.normalize_of_parse parse]
  | registered => simp [entered?, Draft.extend]
  | frozen => simp [entered?]

theorem Performed.distinct {c : Call} {r : Except Trouble Reply} (h : Performed d c r d')
    (distinct : Pairs.Distinct d.filters) : Pairs.Distinct d'.filters := by
  cases h with
  | failed => exact distinct
  | declared _ _ free => exact Draft.distinct_extend _ distinct free
  | registered _ free => exact Draft.distinct_extend _ distinct free
  | frozen => exact distinct

theorem Performed.of_frozen {c : Call} {r : Except Trouble Reply} (h : Performed d c r d')
    (frozen : d.frozen = true) : d' = d := by
  cases h with
  | failed => rfl
  | declared unfrozen => simp [frozen] at unfrozen
  | registered unfrozen => simp [frozen] at unfrozen
  | frozen => rw [← frozen]

theorem Runs.filters (h : Runs d steps d') :
    d'.filters = d.filters ++ steps.filterMap entered? := by
  induction h with
  | nil => simp
  | @cons d d' d'' c r steps leads performed rest ih =>
    rw [ih, performed.filters, List.append_assoc]
    cases he : entered? (c, r) with
    | none => simp [he]
    | some p => simp [he]

theorem Runs.distinct (h : Runs d steps d') (distinct : Pairs.Distinct d.filters) :
    Pairs.Distinct d'.filters := by
  induction h with
  | nil => exact distinct
  | cons leads performed rest ih => exact ih (performed.distinct distinct)

/-- A frozen draft takes nothing more. -/
theorem Runs.of_frozen (h : Runs d steps d') (frozen : d.frozen = true) : d' = d := by
  induction h with
  | nil => rfl
  | cons leads performed rest ih =>
    have hd := performed.of_frozen frozen
    rw [ih (hd ▸ frozen), hd]

/-! ## The map of a run -/

/-- A registry is the map of what steps entered: no key was entered twice, a name finds what
was entered under its key, and the names stand in ascending order, each with its definition. -/
structure Maps (steps : List (Call × Except Trouble Reply)) (r : Registry) : Prop where
  once : steps.Pairwise fun s t =>
    ∀ p, entered? s = some p → ∀ q, entered? t = some q → p.1 ≠ q.1
  found : ∀ name d, r.lookup? name = some d ↔
    ∃ s ∈ steps, entered? s = some (Name.normalize name, d)
  contains : ∀ name, r.contains name = (r.lookup? name).isSome
  size : r.size = steps.countP fun s => s.1.enters && s.2.isOk
  ascending : r.names.Pairwise Text.Before
  named : ∀ key, key ∈ r.names ↔ ∃ s ∈ steps, ∃ d, entered? s = some (key, d)
  itemNames : r.items.map (·.1) = r.names
  items : ∀ key d, (key, d) ∈ r.items ↔ ∃ s ∈ steps, entered? s = some (key, d)

theorem Performed.entered_isSome {c : Call} {r : Except Trouble Reply} (h : Performed d c r d') :
    (entered? (c, r)).isSome = (c.enters && r.isOk) := by
  cases h with
  | @failed c => cases c <;> rfl
  | declared | registered | frozen => rfl

theorem Runs.length_entered (h : Runs d steps d') :
    (steps.filterMap entered?).length = steps.countP fun s => s.1.enters && s.2.isOk := by
  induction h with
  | nil => rfl
  | @cons d d' d'' c r steps leads performed rest ih =>
    rw [List.countP_cons, ← ih, ← performed.entered_isSome]
    cases he : entered? (c, r) with
    | none => simp [he]
    | some p => simp [he]

theorem Runs.maps (h : Runs {} steps d') : Maps steps ⟨d'.filters⟩ := by
  have hfilters : d'.filters = steps.filterMap entered? := h.filters
  have distinct : Pairs.Distinct d'.filters := h.distinct List.nodup_nil
  have hmem : ∀ key d, (key, d) ∈ d'.filters ↔
      ∃ s ∈ steps, entered? s = some (key, d) := by
    intro key d
    rw [hfilters, List.mem_filterMap]
  constructor
  · rw [hfilters, Pairs.Distinct, List.Nodup, List.pairwise_map, List.pairwise_filterMap] at distinct
    exact distinct
  · intro name d
    rw [← hmem]
    exact Pairs.find?_eq_some_iff distinct _ d
  · exact Registry.contains_eq_isSome _
  · rw [← h.length_entered, ← hfilters]
    rfl
  · exact Registry.names_ascending distinct
  · intro key
    rw [Registry.mem_names]
    constructor
    · intro hkey
      obtain ⟨⟨key, d⟩, hd, rfl⟩ := List.mem_map.mp hkey
      obtain ⟨s, hs, he⟩ := (hmem key d).mp hd
      exact ⟨s, hs, d, he⟩
    · rintro ⟨s, hs, d, he⟩
      exact List.mem_map_of_mem ((hmem key d).mpr ⟨s, hs, he⟩)
  · exact Registry.items_names distinct
  · intro key d
    rw [Registry.mem_items distinct, hmem]

/-! ## Up to a freeze -/

/-- The steps before a freeze make up a run of their own. The registry holds what that run
left, and the draft holds it to the end. -/
theorem freeze_runs (before after : List Call) (j : Journal) :
    ∃ steps d, Runs {} steps d ∧
      steps = before.zip (performAll (before ++ freeze :: after) {} j).1.1 ∧
      (performAll (before ++ freeze :: after) {} j).1.1[before.length]? =
        some (.ok (.frozen ⟨d.filters⟩)) ∧
      (performAll (before ++ freeze :: after) {} j).1.2.filters = d.filters := by
  obtain ⟨steps, d, hbefore, rfl⟩ := exists_runs {} before
  obtain ⟨later, d', hafter, rfl⟩ := exists_runs { d with frozen := true } after
  have hrun := (hbefore.append (.cons (freeze_leads d) .frozen hafter)).gives j
  rw [List.map_append, List.map_cons, List.map_append, List.map_cons] at hrun
  refine ⟨steps, d, hbefore, ?_, ?_, ?_⟩
  · rw [hrun, ← List.append_nil (steps.map (·.1)), List.zip_append (by simp), List.zip_nil_left,
      List.append_nil]
    exact List.zip_of_prod rfl rfl
  · rw [hrun]
    simp
  · rw [hrun, hafter.of_frozen rfl]

/-! ## The laws -/

/-- Every registry that a run freezes is the map of the steps before it, and the draft goes
on agreeing with it. A declaration and a look-up agree on the key of a name in any case of
its letters, with the sigil and without it. -/
theorem a_frozen_registry_is_the_map_of_the_run :
    (∀ (before after : List Call) (j : Journal),
      ∃ r, (performAll (before ++ freeze :: after) {} j).1.1[before.length]? =
          some (.ok (.frozen r)) ∧
        Maps (before.zip (performAll (before ++ freeze :: after) {} j).1.1) r ∧
        ∀ name, (performAll (before ++ freeze :: after) {} j).1.2.contains name =
          r.contains name) ∧
    ∀ name key v : Text, Name.parse (Name.sigil :: name) = .ok key → Name.CaseVariant v name →
      Name.normalize v = key ∧ Name.normalize (Name.sigil :: v) = key := by
  refine ⟨?_, fun _ _ _ => Name.normalize_caseVariant⟩
  intro before after j
  obtain ⟨steps, d, hruns, hsteps, hfrozen, hdraft⟩ := freeze_runs before after j
  refine ⟨_, hfrozen, hsteps ▸ hruns.maps, ?_⟩
  intro name
  rw [Draft.contains, hdraft]
  rfl

end Call

end QuerySieve
