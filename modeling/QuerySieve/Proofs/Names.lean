-- The laws of names. A declaration and a look-up work out the key of a name each in
-- its own way; for a name that can be declared both come to the same key, in any case
-- of its letters and with or without the sigil.
import QuerySieve.Name

namespace QuerySieve

/-! ## Lower case of ASCII -/

namespace CodePoint

theorem asciiSmall_val (c : CodePoint) :
    c.asciiSmall.val = if c.isAsciiUpper then c.val + 0x20 else c.val := by
  unfold asciiSmall
  split
  · rename_i h
    simp only [isAsciiUpper, Bool.and_eq_true, decide_eq_true_eq] at h
    simp only [CodePoint.ofNat]
    omega
  · rfl

theorem isAsciiUpper_asciiSmall (c : CodePoint) : c.asciiSmall.isAsciiUpper = false := by
  have hval := c.asciiSmall_val
  simp only [isAsciiUpper, Bool.and_eq_true, decide_eq_true_eq] at hval
  simp only [isAsciiUpper, Bool.and_eq_false_iff, decide_eq_false_iff_not]
  split at hval
  · omega
  · omega

theorem asciiSmall_asciiSmall (c : CodePoint) : c.asciiSmall.asciiSmall = c.asciiSmall := by
  rw [asciiSmall, isAsciiUpper_asciiSmall]
  rfl

end CodePoint

namespace Text

/-- Nothing past ASCII. -/
def IsAscii (t : Text) : Prop := ∀ c ∈ t, c.val < 0x80

/-- A code point of ASCII is no sigma, so what stands around it does not count. -/
theorem lowerAfter_cons_of_lt (before t : Text) {c : CodePoint} (hc : c.val < 0x80) :
    lowerAfter before (c :: t) = c.asciiSmall :: lowerAfter (c :: before) t := by
  have hsigma : c ≠ 0x3A3 := by
    rintro rfl
    exact absurd hc (by decide)
  change (if c = 0x3A3 then _ else c.lower) ++ _ = _
  rw [if_neg hsigma, CodePoint.lower, if_pos hc]
  rfl

theorem lowerAfter_of_isAscii (before t : Text) (h : IsAscii t) :
    lowerAfter before t = t.map CodePoint.asciiSmall := by
  induction t generalizing before with
  | nil => rfl
  | cons c t ih =>
    have hc : c.val < 0x80 := h c List.mem_cons_self
    have ht : IsAscii t := fun b hb => h b (List.mem_cons_of_mem _ hb)
    rw [lowerAfter_cons_of_lt before t hc, ih _ ht, List.map_cons]

theorem lower_of_isAscii {t : Text} (h : IsAscii t) : lower t = t.map CodePoint.asciiSmall :=
  lowerAfter_of_isAscii [] t h

end Text

namespace Name

/-! ## Names that can be declared -/

/-- One or more of the characters of names. -/
structure Plain (name : Text) : Prop where
  nonempty : name ≠ []
  chars : ∀ c ∈ name, isNameChar c = true

/-- What is wrong with a declared name. The sigil comes before the length, and the
length before the characters. -/
inductive FaultOf : Text → Fault → Prop
  | noSigil {raw : Text} (h : raw.head? ≠ some sigil) : FaultOf raw .noSigil
  | empty : FaultOf [sigil] .empty
  | badChars {name : Text} {c : CodePoint} (hc : c ∈ name) (h : isNameChar c = false) :
      FaultOf (sigil :: name) .badChars

/-- A declaration gives a key if it is the sigil before a plain name, and the key is the
name in lower case. -/
theorem parse_of_plain {name : Text} (h : Plain name) :
    parse (sigil :: name) = .ok name.lower := by
  have he : name.isEmpty = false := by
    rw [List.isEmpty_eq_false_iff]
    exact h.nonempty
  have ha : name.all isNameChar = true := List.all_eq_true.mpr h.chars
  simp [parse, he, ha]

theorem parse_of_faultOf {raw : Text} {f : Fault} (h : FaultOf raw f) :
    parse raw = .error f := by
  cases h with
  | noSigil h =>
    cases raw with
    | nil => rfl
    | cons c name =>
      have hc : c ≠ sigil := fun he => h (by rw [he]; rfl)
      simp [parse, hc]
  | empty => rfl
  | @badChars name c hc h =>
    have he : name.isEmpty = false := by
      rw [List.isEmpty_eq_false_iff]
      exact List.ne_nil_of_mem hc
    have ha : name.all isNameChar = false := List.all_eq_false.mpr ⟨c, hc, by simp [h]⟩
    simp [parse, he, ha]

/-- Every text is the sigil before a plain name, or has a fault. -/
theorem plain_or_faultOf (raw : Text) :
    (∃ name : Text, raw = sigil :: name ∧ Plain name) ∨ ∃ f, FaultOf raw f := by
  by_cases hs : raw.head? = some sigil
  · obtain ⟨name, rfl⟩ := List.head?_eq_some_iff.mp hs
    by_cases hn : name = []
    · subst hn
      exact Or.inr ⟨_, .empty⟩
    · by_cases hc : ∀ c ∈ name, isNameChar c = true
      · exact Or.inl ⟨name, rfl, hn, hc⟩
      · simp only [Classical.not_forall, Bool.not_eq_true] at hc
        obtain ⟨c, hc, h⟩ := hc
        exact Or.inr ⟨_, .badChars hc h⟩
  · exact Or.inr ⟨_, .noSigil hs⟩

theorem parse_eq_ok {raw key : Text} (h : parse raw = .ok key) :
    ∃ name : Text, raw = sigil :: name ∧ Plain name ∧ key = name.lower := by
  rcases plain_or_faultOf raw with ⟨name, rfl, hp⟩ | ⟨f, hf⟩
  · rw [parse_of_plain hp] at h
    cases h
    exact ⟨name, rfl, hp, rfl⟩
  · rw [parse_of_faultOf hf] at h
    cases h

/-! ## Case and sigil -/

theorem isNameChar_lt {c : CodePoint} (h : isNameChar c = true) : c.val < 0x80 := by
  have hu : ('_' : CodePoint).val = 0x5F := by decide
  simp only [isNameChar, CodePoint.isAsciiUpper, CodePoint.isAsciiLower, CodePoint.isAsciiDigit,
    Bool.or_eq_true, Bool.and_eq_true, decide_eq_true_eq, Fin.ext_iff, hu] at h
  omega

theorem isNameChar_asciiSmall (c : CodePoint) : isNameChar c.asciiSmall = isNameChar c := by
  have hu : ('_' : CodePoint).val = 0x5F := by decide
  rw [Bool.eq_iff_iff]
  simp only [isNameChar, CodePoint.isAsciiUpper, CodePoint.isAsciiLower, CodePoint.isAsciiDigit,
    Bool.or_eq_true, Bool.and_eq_true, decide_eq_true_eq, Fin.ext_iff, hu,
    CodePoint.asciiSmall_val]
  split
  · omega
  · omega

theorem not_isNameChar_sigil : isNameChar sigil = false := by decide

/-- Two texts are the same but for the case of ASCII letters. -/
def CaseVariant (a b : Text) : Prop := a.map CodePoint.asciiSmall = b.map CodePoint.asciiSmall

theorem Plain.isAscii {name : Text} (h : Plain name) : name.IsAscii :=
  fun c hc => isNameChar_lt (h.chars c hc)

theorem Plain.of_caseVariant {a b : Text} (h : Plain b) (hv : CaseVariant a b) : Plain a := by
  have hchars : ∀ t : Text, (∀ c ∈ t, isNameChar c = true) ↔
      ∀ c ∈ t.map CodePoint.asciiSmall, isNameChar c = true := by
    intro t
    simp [isNameChar_asciiSmall]
  constructor
  · intro ha
    subst ha
    exact h.nonempty (List.map_eq_nil_iff.mp hv.symm)
  · rw [hchars, hv, ← hchars]
    exact h.chars

/-- Names that differ in the case of their letters only have one key. -/
theorem Plain.lower_of_caseVariant {a b : Text} (h : Plain b) (hv : CaseVariant a b) :
    a.lower = b.lower := by
  rw [Text.lower_of_isAscii (h.of_caseVariant hv).isAscii, Text.lower_of_isAscii h.isAscii]
  exact hv

theorem Plain.lower {name : Text} (h : Plain name) : Plain name.lower := by
  apply h.of_caseVariant
  rw [Text.lower_of_isAscii h.isAscii, CaseVariant, List.map_map]
  apply List.map_congr_left
  intro c _
  exact CodePoint.asciiSmall_asciiSmall c

/-- A look-up may leave the sigil out: plain names do not start with one. -/
theorem Plain.normalize {name : Text} (h : Plain name) : normalize name = name.lower := by
  unfold Name.normalize bare
  cases name with
  | nil => rfl
  | cons c name =>
    have hc : c ≠ sigil := by
      rintro rfl
      have := h.chars sigil List.mem_cons_self
      rw [not_isNameChar_sigil] at this
      cases this
    simp only [if_neg hc]

theorem normalize_sigil (name : Text) : normalize (sigil :: name) = name.lower := by
  simp [Name.normalize, bare]

/-- A declaration and a look-up agree on the key of a name. -/
theorem normalize_of_parse {raw key : Text} (h : parse raw = .ok key) : normalize raw = key := by
  obtain ⟨name, rfl, _, rfl⟩ := parse_eq_ok h
  exact normalize_sigil name

/-- A key is its own key. -/
theorem normalize_key {raw key : Text} (h : parse raw = .ok key) : normalize key = key := by
  obtain ⟨name, rfl, hp, rfl⟩ := parse_eq_ok h
  rw [hp.lower.normalize, Text.lower_of_isAscii hp.lower.isAscii,
    Text.lower_of_isAscii hp.isAscii, List.map_map]
  apply List.map_congr_left
  intro c _
  exact CodePoint.asciiSmall_asciiSmall c

/-- The key of a declared name is found under every case of its letters, with the sigil
and without it. -/
theorem normalize_caseVariant {name key v : Text} (h : parse (sigil :: name) = .ok key)
    (hv : CaseVariant v name) : normalize v = key ∧ normalize (sigil :: v) = key := by
  obtain ⟨name', he, hp, rfl⟩ := parse_eq_ok h
  cases he
  have hl := hp.lower_of_caseVariant hv
  exact ⟨by rw [(hp.of_caseVariant hv).normalize, hl], by rw [normalize_sigil, hl]⟩

end Name

end QuerySieve
