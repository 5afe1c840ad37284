-- The laws of lower case past ASCII. No form in the table has a smaller form itself, so a text in
-- lower case stays as it is. One code point past ASCII has a letter of ASCII as its form: the
-- Kelvin sign, which reads as a K.
import QuerySieve.Proofs.Names

namespace QuerySieve

/-! ## Runs of the table -/

namespace CaseRun

/-- The code point of a number stands in the run. -/
def Holds (r : CaseRun) (n : Nat) : Prop :=
  r.first ≤ n ∧ n ≤ r.last ∧ (n - r.first) % r.step = 0

theorem lower?_eq_some_iff {r : CaseRun} {c l : CodePoint} :
    r.lower? c = some l ↔
      r.Holds c.val ∧ l = CodePoint.ofNat (r.lower + (c.val - r.first)) := by
  rw [lower?, Option.ite_none_right_eq_some, Option.some.injEq, eq_comm (b := l)]
  simp only [Bool.and_eq_true, decide_eq_true_eq, Holds, and_assoc]

/-- No lower-case form of a run stands in another one: it is below it, above it, or between
the code points that follow one another in it. There are many pairs of runs, so numbers are
compared in the kernel's own way. -/
def misses (r s : CaseRun) : Bool :=
  Nat.blt (r.lower + (r.last - r.first)) s.first || Nat.blt s.last r.lower
    || ((Nat.beq r.step 2 || Nat.beq r.first r.last) && Nat.beq s.step 2
      && Nat.beq ((r.lower + s.first) % 2) 1)

theorem not_holds_of_misses {r s : CaseRun} {n : Nat} (h : r.misses s = true)
    (holds : r.Holds n) : ¬ s.Holds (r.lower + (n - r.first)) := by
  obtain ⟨hfirst, hlast, hstep⟩ := holds
  rintro ⟨sfirst, slast, sstep⟩
  simp only [misses, Bool.or_eq_true, Bool.and_eq_true, Nat.blt_eq, Nat.beq_eq] at h
  rcases h with (h | h) | ⟨⟨hr, hs⟩, hparity⟩
  · omega
  · omega
  · rw [hs] at sstep
    rcases hr with hr | hr
    · rw [hr] at hstep
      omega
    · omega

end CaseRun

theorem caseRuns_misses {r s : CaseRun} (hr : r ∈ caseRuns) (hs : s ∈ caseRuns) :
    r.misses s = true := by
  have hall : (caseRuns.all fun r => caseRuns.all r.misses) = true := by decide +kernel
  exact List.all_eq_true.mp (List.all_eq_true.mp hall r hr) s hs

/-- The dotted capital I is no lower-case form either. -/
theorem caseRuns_misses_dotted {r : CaseRun} (hr : r ∈ caseRuns) :
    r.misses ⟨0x130, 0x130, 1, 0⟩ = true := by
  have hall : (caseRuns.all fun r => r.misses ⟨0x130, 0x130, 1, 0⟩) = true := by decide +kernel
  exact List.all_eq_true.mp hall r hr

/-- The forms of a run are code points. -/
theorem caseRuns_lower_lt {r : CaseRun} (hr : r ∈ caseRuns) :
    r.lower + (r.last - r.first) < 0x110000 := by
  have hall : ∀ r ∈ caseRuns, r.lower + (r.last - r.first) < 0x110000 := by decide +kernel
  exact hall r hr

/-- Only the run of the Kelvin sign has a form in ASCII. -/
theorem caseRuns_lower_ascii {r : CaseRun} (hr : r ∈ caseRuns) :
    0x80 ≤ r.lower ∨ r.first = 0x212A ∧ r.last = 0x212A ∧ r.lower = 0x6B := by
  have hall : ∀ r ∈ caseRuns,
      0x80 ≤ r.lower ∨ r.first = 0x212A ∧ r.last = 0x212A ∧ r.lower = 0x6B := by decide +kernel
  exact hall r hr

/-! ## One code point -/

namespace CodePoint

/-- The lower-case form of a code point, by where it stands. -/
inductive Lowers (c : CodePoint) : Text → Prop
  | ascii (low : c.val < 0x80) : Lowers c [c.asciiSmall]
  | dotted (i : c.val = 0x130) : Lowers c [0x69, 0x307]
  | run {r : CaseRun} {l : CodePoint} (high : 0x80 ≤ c.val) (mem : r ∈ caseRuns)
      (holds : r.Holds c.val) (form : l.val = r.lower + (c.val - r.first)) : Lowers c [l]
  | alone (high : 0x80 ≤ c.val) (undotted : c.val ≠ 0x130)
      (free : ∀ r ∈ caseRuns, ¬ r.Holds c.val) : Lowers c [c]

theorem lowers_lower (c : CodePoint) : Lowers c c.lower := by
  unfold lower
  by_cases low : c.val < 0x80
  · rw [if_pos low]
    exact .ascii low
  by_cases i : c.val = 0x130
  · rw [if_neg low, if_pos i]
    exact .dotted i
  have high : 0x80 ≤ c.val := by omega
  rw [if_neg low, if_neg i]
  cases hfind : caseRuns.findSome? (·.lower? c) with
  | none =>
    rw [List.findSome?_eq_none_iff] at hfind
    refine .alone high i fun r mem holds => ?_
    have hform := CaseRun.lower?_eq_some_iff.mpr ⟨holds, rfl⟩
    rw [hfind r mem] at hform
    cases hform
  | some l =>
    obtain ⟨r, mem, hform⟩ := List.exists_of_findSome?_eq_some hfind
    obtain ⟨holds, rfl⟩ := CaseRun.lower?_eq_some_iff.mp hform
    refine .run high mem holds ?_
    have hlt := caseRuns_lower_lt mem
    have hlast := holds.2.1
    exact Nat.mod_eq_of_lt (by omega)

theorem lower_ne_nil (c : CodePoint) : c.lower ≠ [] := by
  intro h
  have hlower := c.lowers_lower
  rw [h] at hlower
  cases hlower

/-- A code point that is its own lower-case form. The sigma is not: it looks around. -/
def IsSmall (c : CodePoint) : Prop := c.val ≠ 0x3A3 ∧ c.lower = [c]

theorem isSmall_of_lt {c : CodePoint} (low : c.val < 0x80) (small : c.asciiSmall = c) :
    c.IsSmall := by
  constructor
  · omega
  · rw [lower, if_pos low, small]

/-- The run of the sigma starts with it. -/
theorem exists_caseRuns_sigma : ∃ r ∈ caseRuns, r.Holds 0x3A3 := by
  have hall : ∃ r ∈ caseRuns, r.first = 0x3A3 ∧ 0x3A3 ≤ r.last := by decide +kernel
  obtain ⟨r, mem, hfirst, hlast⟩ := hall
  refine ⟨r, mem, Nat.le_of_eq hfirst, hlast, ?_⟩
  rw [hfirst, Nat.sub_self, Nat.zero_mod]

theorem isSmall_of_free {c : CodePoint} (high : 0x80 ≤ c.val) (undotted : c.val ≠ 0x130)
    (free : ∀ r ∈ caseRuns, ¬ r.Holds c.val) : c.IsSmall := by
  constructor
  · intro hsigma
    obtain ⟨r, mem, holds⟩ := exists_caseRuns_sigma
    rw [← hsigma] at holds
    exact free r mem holds
  · have hlower := c.lowers_lower
    generalize c.lower = t at hlower
    cases hlower with
    | ascii low => omega
    | dotted i => exact absurd i undotted
    | run _ mem holds _ => exact absurd holds (free _ mem)
    | alone => rfl

/-- A lower-case form has no other one. -/
theorem isSmall_of_mem_lower {c l : CodePoint} (hl : l ∈ c.lower) : l.IsSmall := by
  have hlower := c.lowers_lower
  generalize c.lower = t at hl hlower
  cases hlower with
  | ascii low =>
    cases List.mem_singleton.mp hl
    apply isSmall_of_lt _ c.asciiSmall_asciiSmall
    rw [asciiSmall_val]
    split
    next hu =>
      simp only [isAsciiUpper, Bool.and_eq_true, decide_eq_true_eq] at hu
      omega
    next => exact low
  | dotted i =>
    simp only [List.mem_cons, List.not_mem_nil, or_false] at hl
    rcases hl with rfl | rfl
    · exact isSmall_of_lt (by decide) (by decide)
    · refine isSmall_of_free (by decide) (by decide) ?_
      have hall : ∀ r ∈ caseRuns, ¬ (r.first ≤ 0x307 ∧ 0x307 ≤ r.last) := by decide +kernel
      exact fun r mem holds => hall r mem ⟨holds.1, holds.2.1⟩
  | @run r l' high mem holds form =>
    cases List.mem_singleton.mp hl
    rcases caseRuns_lower_ascii mem with hr | ⟨hfirst, hlast, hr⟩
    · apply isSmall_of_free
      · omega
      · rintro hdotted
        have hmiss := CaseRun.not_holds_of_misses (caseRuns_misses_dotted mem) holds
        rw [← form, hdotted] at hmiss
        exact hmiss ⟨Nat.le_refl _, Nat.le_refl _, rfl⟩
      · intro s hs
        rw [form]
        exact CaseRun.not_holds_of_misses (caseRuns_misses mem hs) holds
    · have hk : l = 0x6B := by
        obtain ⟨h1, h2, -⟩ := holds
        apply Fin.ext
        rw [form]
        change _ = 0x6B
        omega
      rw [hk]
      exact isSmall_of_lt (by decide) (by decide)
  | alone high undotted free =>
    cases List.mem_singleton.mp hl
    exact isSmall_of_free high undotted free

/-! ### The Kelvin sign -/

/-- The sign for degrees from absolute zero, which is written like the letter K. -/
def kelvin : CodePoint := CodePoint.ofNat 0x212A

/-- The letter that a code point reads as, if it is the Kelvin sign. -/
def readKelvin (c : CodePoint) : CodePoint := if c = kelvin then 'K' else c

theorem readKelvin_of_ne {c : CodePoint} (h : c ≠ kelvin) : c.readKelvin = c := if_neg h

theorem lower_of_readKelvin_lt {c : CodePoint} (low : c.readKelvin.val < 0x80) :
    c.lower = [c.readKelvin.asciiSmall] := by
  by_cases hc : c = kelvin
  · subst hc
    decide +kernel
  · rw [readKelvin_of_ne hc] at low ⊢
    exact if_pos low

/-- Only letters of ASCII, the Kelvin sign and the dotted capital I have a form with letters of
ASCII in it. -/
theorem readKelvin_lt_of_mem_lower {c l : CodePoint} (hl : l ∈ c.lower) (low : l.val < 0x80) :
    c.val = 0x130 ∨ c.readKelvin.val < 0x80 := by
  have hlower := c.lowers_lower
  generalize c.lower = t at hl hlower
  cases hlower with
  | ascii lowc =>
    have hc : c ≠ kelvin := by
      rintro rfl
      exact absurd lowc (by decide)
    right
    rwa [readKelvin_of_ne hc]
  | dotted i => exact Or.inl i
  | run _ mem holds form =>
    cases List.mem_singleton.mp hl
    obtain ⟨hfirst, hlast, -⟩ := holds
    rcases caseRuns_lower_ascii mem with hr | ⟨kfirst, klast, -⟩
    · omega
    · have hc : c = kelvin := by
        apply Fin.ext
        change c.val = 0x212A
        omega
      right
      rw [hc]
      decide
  | alone high =>
    cases List.mem_singleton.mp hl
    omega

end CodePoint

/-! ## Whole texts -/

namespace Text

theorem lowerAfter_cons_of_ne (before t : Text) {c : CodePoint} (hc : c ≠ 0x3A3) :
    lowerAfter before (c :: t) = c.lower ++ lowerAfter (c :: before) t := by
  change (if c = 0x3A3 then _ else c.lower) ++ _ = _
  rw [if_neg hc]

theorem lowerAfter_cons_sigma (before t : Text) :
    ∃ l : CodePoint, (l = 0x3C2 ∨ l = 0x3C3) ∧
      lowerAfter before (0x3A3 :: t) = l :: lowerAfter (0x3A3 :: before) t := by
  refine ⟨if meetsCased before && !meetsCased t then 0x3C2 else 0x3C3, ?_, rfl⟩
  split
  · exact Or.inl rfl
  · exact Or.inr rfl

theorem isSmall_of_mem_lowerAfter {before t : Text} {l : CodePoint}
    (hl : l ∈ lowerAfter before t) : l.IsSmall := by
  induction t generalizing before with
  | nil => cases hl
  | cons c t ih =>
    by_cases hc : c = 0x3A3
    · subst hc
      obtain ⟨s, hs, hsigma⟩ := lowerAfter_cons_sigma before t
      rw [hsigma, List.mem_cons] at hl
      rcases hl with rfl | hl
      · have hall : ∀ r ∈ caseRuns, ¬ (r.first ≤ 0x3C3 ∧ 0x3C2 ≤ r.last) := by decide +kernel
        rcases hs with rfl | rfl
        · exact CodePoint.isSmall_of_free (by decide) (by decide)
            fun r mem holds => hall r mem ⟨Nat.le_succ_of_le holds.1, holds.2.1⟩
        · exact CodePoint.isSmall_of_free (by decide) (by decide)
            fun r mem holds => hall r mem ⟨holds.1, Nat.le_of_succ_le holds.2.1⟩
      · exact ih hl
    · rw [lowerAfter_cons_of_ne before t hc, List.mem_append] at hl
      rcases hl with hl | hl
      · exact CodePoint.isSmall_of_mem_lower hl
      · exact ih hl

theorem lowerAfter_of_isSmall (before : Text) {t : Text} (h : ∀ c ∈ t, c.IsSmall) :
    lowerAfter before t = t := by
  induction t generalizing before with
  | nil => rfl
  | cons c t ih =>
    obtain ⟨hval, hlower⟩ := h c List.mem_cons_self
    have hsigma : c ≠ 0x3A3 := fun hc => hval (congrArg Fin.val hc)
    rw [lowerAfter_cons_of_ne before t hsigma, hlower,
      ih _ fun b hb => h b (List.mem_cons_of_mem _ hb)]
    rfl

/-- A text in lower case stays as it is. -/
theorem lower_lower (t : Text) : t.lower.lower = t.lower :=
  lowerAfter_of_isSmall [] fun _ => isSmall_of_mem_lowerAfter

end Text

end QuerySieve
