-- The laws of listed names. A key is in lower case, so it is its own key again and is found as it
-- is listed. Only a sigil is dropped once more: a name that was registered with two of them is
-- listed with one, and found with both.
import QuerySieve.Proofs.Lookups

namespace QuerySieve

/-! ## Sigils in lower case -/

namespace Text

/-- Only the sigil itself has a sigil as its form. -/
theorem eq_sigil_of_head?_lower {c : CodePoint} (h : c.lower.head? = some Name.sigil) :
    c = Name.sigil := by
  have hmem : Name.sigil ∈ c.lower := List.mem_of_head? h
  rcases CodePoint.readKelvin_lt_of_mem_lower hmem (by decide) with i | low
  · rw [CodePoint.lower, if_neg (by omega), if_pos i] at h
    exact absurd h (by decide)
  · rw [CodePoint.lower_of_readKelvin_lt low, List.mem_singleton] at hmem
    have hval := c.readKelvin.asciiSmall_val
    rw [← hmem] at hval
    have hread : c.readKelvin = Name.sigil := by
      apply Fin.ext
      change 0x24 = _ at hval
      change _ = 0x24
      simp only [CodePoint.isAsciiUpper, Bool.and_eq_true, decide_eq_true_eq] at hval
      split at hval
      · omega
      · exact hval.symm
    by_cases hk : c = CodePoint.kelvin
    · subst hk
      exact absurd hread (by decide)
    · rwa [CodePoint.readKelvin_of_ne hk] at hread

theorem head?_of_lower {t : Text} (h : t.lower.head? = some Name.sigil) :
    t.head? = some Name.sigil := by
  cases t with
  | nil => cases h
  | cons c t =>
    by_cases hc : c = 0x3A3
    · subst hc
      obtain ⟨l, hl, hform⟩ := lowerAfter_cons_sigma [] t
      rw [lower, hform, List.head?_cons, Option.some.injEq] at h
      rcases hl with rfl | rfl <;> exact absurd h (by decide)
    · rw [lower, lowerAfter_cons_of_ne [] t hc,
        List.head?_append_of_ne_nil _ c.lower_ne_nil] at h
      rw [eq_sigil_of_head?_lower h, List.head?_cons]

end Text

namespace Call

variable {d d' : Draft} {steps : List (Call × Except Trouble Reply)}

/-! ## Listed keys -/

theorem entered?_key {s : Call × Except Trouble Reply} {key : Text} {definition : Definition}
    (h : entered? s = some (key, definition)) : ∃ name, key = Name.normalize name := by
  unfold entered? at h
  split at h
  · cases h
    exact ⟨_, rfl⟩
  · cases h
    exact ⟨_, rfl⟩
  · cases h

/-- A key is in lower case, and so is what stands after a sigil in it. -/
theorem lower_of_entered? {s : Call × Except Trouble Reply} {key : Text} {definition : Definition}
    (h : entered? s = some (key, definition)) :
    key.lower = key ∧ ∀ rest : Text, key = Name.sigil :: rest → rest.lower = rest := by
  obtain ⟨name, rfl⟩ := entered?_key h
  refine ⟨Text.lower_lower _, ?_⟩
  intro rest hrest
  apply Text.lowerAfter_of_isSmall
  intro c hc
  have hmem : c ∈ Text.lowerAfter [] (Name.bare name) := by
    change c ∈ Name.normalize name
    rw [hrest]
    exact List.mem_cons_of_mem _ hc
  exact Text.isSmall_of_mem_lowerAfter hmem

/-- Only a name with two sigils has a key with one. -/
theorem Runs.entered_sigil {s : Call × Except Trouble Reply} {rest : Text}
    {definition : Definition} (h : Runs d steps d') (mem : s ∈ steps)
    (he : entered? s = some (Name.sigil :: rest, definition)) :
    ∃ written : Text, (register (Name.sigil :: Name.sigil :: written) definition,
      .ok .registered) ∈ steps := by
  rcases h.entered mem he with declared | ⟨name, registered, hkey⟩
  · have hsigil := declared.plain.chars _ List.mem_cons_self
    rw [Name.not_isNameChar_sigil] at hsigil
    cases hsigil
  · have hlower : (Name.bare name).lower.head? = some Name.sigil := by
      change (Name.normalize name).head? = _
      rw [← hkey]
      rfl
    have hbare := Text.head?_of_lower hlower
    cases name with
    | nil => cases hbare
    | cons c name =>
      by_cases hc : c = Name.sigil
      · subst hc
        obtain ⟨written, rfl⟩ := List.head?_eq_some_iff.mp hbare
        exact ⟨written, registered⟩
      · rw [Name.bare, if_neg hc, List.head?_cons, Option.some.injEq] at hbare
        exact absurd hbare hc

/-- Every name that a registry lists finds its definition with a sigil before it, and as it
stands unless it starts with a sigil. A name that does was registered with two of them, and
finds what is listed under the rest of it, if anything is. -/
theorem a_listed_name_is_found_under_its_sigil (before after : List Call) (j : Journal) :
    ∃ r, (performAll (before ++ freeze :: after) {} j).1.1[before.length]? =
        some (.ok (.frozen r)) ∧
      r.items.map (·.1) = r.names ∧ (∀ n, r.contains n = (r.lookup? n).isSome) ∧
      ∀ name definition, (name, definition) ∈ r.items →
        r.lookup? (Name.sigil :: name) = some definition ∧
        (name.head? ≠ some Name.sigil → r.lookup? name = some definition) ∧
        ∀ rest, name = Name.sigil :: rest →
          (∃ written : Text,
            (register (Name.sigil :: Name.sigil :: written) definition, .ok .registered) ∈
              before.zip (performAll (before ++ freeze :: after) {} j).1.1) ∧
          ∀ other, r.lookup? name = some other ↔ (rest, other) ∈ r.items := by
  obtain ⟨steps, d, hruns, hsteps, hfrozen, -⟩ := freeze_runs before after j
  have maps := hruns.maps
  refine ⟨_, hfrozen, maps.itemNames, maps.contains, ?_⟩
  intro name definition hitem
  obtain ⟨s, mem, he⟩ := (maps.items name definition).mp hitem
  obtain ⟨hlower, hrest⟩ := lower_of_entered? he
  refine ⟨?_, ?_, ?_⟩
  · rw [maps.found, Name.normalize_sigil, hlower]
    exact ⟨s, mem, he⟩
  · intro hhead
    have hbare : Name.bare name = name := by
      cases name with
      | nil => rfl
      | cons c name => exact if_neg fun hc => hhead (congrArg some hc)
    rw [maps.found, Name.normalize, hbare, hlower]
    exact ⟨s, mem, he⟩
  · rintro rest rfl
    refine ⟨hsteps ▸ hruns.entered_sigil mem he, fun other => ?_⟩
    rw [maps.found, maps.items, Name.normalize_sigil, hrest rest rfl]

/-- A name with two sigils is listed with one, under which nothing is found. -/
theorem twoSigils_are_listed_but_not_found :
    ∃ r, (performAll [register "$$a" {}, freeze] {} (.empty .critical)).1.1[1]? =
        some (.ok (.frozen r)) ∧
      (Text.ofString "$a", ({} : Definition)) ∈ r.items ∧ Text.ofString "$a" ∈ r.names ∧
      r.contains "$a" = false ∧ r.lookup? "$a" = none := by
  have distinct : Pairs.Distinct [(Text.ofString "$a", ({} : Definition))] :=
    List.pairwise_singleton _ _
  refine ⟨⟨[("$a", {})]⟩, rfl, ?_, ?_, by decide, rfl⟩
  · exact (Registry.mem_items distinct _ _).mpr (List.mem_singleton_self _)
  · exact (Registry.mem_names _ _).mpr (List.mem_singleton_self _)

end Call

end QuerySieve
