-- The laws of splitting a line. A word may be written in any pieces, bare and quoted ones
-- mixed, and blanks outside quotations only set words apart. A line that writes words in
-- such a way has just these words, so it is the same directive as their list.
import QuerySieve.Document

namespace QuerySieve

namespace Words

/-! ## Ways to write a word -/

/-- A run of blanks, which may be empty. -/
def IsGap (b : Text) : Prop := ∀ c ∈ b, isBlank c = true

/-- A way to write a part of a word: a quotation of either kind without its own mark in it,
or bare text without blanks and quotes. -/
inductive Fragment : (written meant : Text) → Prop
  | quotation {mark : CodePoint} {t : Text} (quote : isQuote mark = true) (inside : mark ∉ t) :
      Fragment (mark :: (t ++ [mark])) t
  | bare {t : Text} (nonempty : t ≠ [])
      (ordinary : ∀ c ∈ t, isBlank c = false ∧ isQuote c = false) : Fragment t t

/-- A way to write a word: one or more fragments without anything between them. -/
inductive Spells : (written meant : Text) → Prop
  | one {s w : Text} (fragment : Fragment s w) : Spells s w
  | more {s w s' w' : Text} (fragment : Fragment s w) (rest : Spells s' w') :
      Spells (s ++ s') (w ++ w')

/-- Words in a row, with blanks between each two of them. -/
inductive Row : Text → List Text → Prop
  | last {s w : Text} (spelled : Spells s w) : Row s [w]
  | more {s w b t : Text} {ws : List Text} (spelled : Spells s w) (gap : IsGap b)
      (nonempty : b ≠ []) (rest : Row t ws) : Row (s ++ (b ++ t)) (w :: ws)

/-- A line that writes words: a row of them, with or without blanks at its ends. -/
def Writes (line : Text) (ws : List Text) : Prop :=
  ∃ lead row trail, line = lead ++ (row ++ trail) ∧ IsGap lead ∧ IsGap trail ∧ Row row ws

/-! ## Reading what was written -/

theorem isBlank_of_isQuote {c : CodePoint} (h : isQuote c = true) : isBlank c = false := by
  simp only [isQuote, Bool.or_eq_true, decide_eq_true_eq] at h
  rcases h with rfl | rfl
  · decide
  · decide

theorem isQuote_of_isBlank {c : CodePoint} (h : isBlank c = true) : isQuote c = false := by
  rw [Bool.eq_false_iff]
  intro hquote
  rw [isBlank_of_isQuote hquote] at h
  cases h

theorem splitFrom_gap_append {b : Text} (gap : IsGap b) (t : Text) :
    splitFrom .gap (b ++ t) = splitFrom .gap t := by
  induction b with
  | nil => rfl
  | cons c b ih =>
    have hc : isBlank c = true := gap c List.mem_cons_self
    have hb : IsGap b := fun c' h => gap c' (List.mem_cons_of_mem _ h)
    rw [List.cons_append, splitFrom, if_pos hc, ih hb]

/-- A word starts wherever something stands that is no blank. -/
theorem splitFrom_gap_cons {c : CodePoint} (h : isBlank c = false) (t : Text) :
    splitFrom .gap (c :: t) = splitFrom (.word []) (c :: t) := by
  simp [splitFrom, h]

theorem splitFrom_quotation_append {mark : CodePoint} {t : Text} (inside : mark ∉ t)
    (read rest : Text) : splitFrom (.quotation mark read) (t ++ mark :: rest) =
      splitFrom (.word (t.reverse ++ read)) rest := by
  induction t generalizing read with
  | nil => simp [splitFrom]
  | cons c t ih =>
    simp only [List.mem_cons, not_or] at inside
    obtain ⟨hc, ht⟩ := inside
    rw [List.cons_append, splitFrom, if_neg (Ne.symm hc), ih ht]
    simp

theorem splitFrom_bare_append {t : Text}
    (ordinary : ∀ c ∈ t, isBlank c = false ∧ isQuote c = false) (read rest : Text) :
    splitFrom (.word read) (t ++ rest) = splitFrom (.word (t.reverse ++ read)) rest := by
  induction t generalizing read with
  | nil => rfl
  | cons c t ih =>
    obtain ⟨hblank, hquote⟩ := ordinary c List.mem_cons_self
    have ht := ih (fun c' h => ordinary c' (List.mem_cons_of_mem _ h)) (c :: read)
    simp [splitFrom, hblank, hquote, ht]

/-- A fragment adds what it means to the word, however it is written. -/
theorem Fragment.splitFrom {s w : Text} (h : Fragment s w) (read rest : Text) :
    splitFrom (.word read) (s ++ rest) = splitFrom (.word (w.reverse ++ read)) rest := by
  cases h with
  | @quotation mark t quote inside =>
    rw [List.cons_append, List.append_assoc, List.singleton_append, Words.splitFrom,
      isBlank_of_isQuote quote, if_neg Bool.false_ne_true, if_pos quote]
    exact splitFrom_quotation_append inside read rest
  | bare _ ordinary => exact splitFrom_bare_append ordinary read rest

theorem Spells.splitFrom {s w : Text} (h : Spells s w) (read rest : Text) :
    splitFrom (.word read) (s ++ rest) = splitFrom (.word (w.reverse ++ read)) rest := by
  induction h generalizing read with
  | one fragment => exact fragment.splitFrom read rest
  | more fragment _ ih =>
    rw [List.append_assoc, fragment.splitFrom, ih, List.reverse_append, List.append_assoc]

theorem Fragment.head {s w : Text} (h : Fragment s w) :
    ∃ c t, s = c :: t ∧ isBlank c = false := by
  cases h with
  | quotation quote _ => exact ⟨_, _, rfl, isBlank_of_isQuote quote⟩
  | bare nonempty ordinary =>
    cases s with
    | nil => exact absurd rfl nonempty
    | cons c t => exact ⟨c, t, rfl, (ordinary c List.mem_cons_self).1⟩

theorem Spells.head {s w : Text} (h : Spells s w) : ∃ c t, s = c :: t ∧ isBlank c = false := by
  cases h with
  | one fragment => exact fragment.head
  | @more _ _ s' _ fragment _ =>
    obtain ⟨c, t, rfl, hc⟩ := fragment.head
    exact ⟨c, t ++ s', rfl, hc⟩

theorem Spells.splitFrom_gap {s w : Text} (h : Spells s w) (rest : Text) :
    Words.splitFrom .gap (s ++ rest) = Words.splitFrom (.word w.reverse) rest := by
  obtain ⟨c, t, hs, hc⟩ := h.head
  have hword := h.splitFrom [] rest
  rw [List.append_nil] at hword
  rw [← hword, hs, List.cons_append, splitFrom_gap_cons hc]

/-- Blanks end a word. -/
theorem splitFrom_word_append {b : Text} (gap : IsGap b) (nonempty : b ≠ []) (read t : Text) :
    splitFrom (.word read) (b ++ t) = (splitFrom .gap t).map (read.reverse :: ·) := by
  cases b with
  | nil => exact absurd rfl nonempty
  | cons c b =>
    have hc : isBlank c = true := gap c List.mem_cons_self
    have hb : IsGap b := fun c' h => gap c' (List.mem_cons_of_mem _ h)
    rw [List.cons_append, splitFrom, if_pos hc, splitFrom_gap_append hb]

theorem splitFrom_word_gap {b : Text} (gap : IsGap b) (read : Text) :
    splitFrom (.word read) b = some [read.reverse] := by
  by_cases hb : b = []
  · rw [hb]
    rfl
  · have hgap := splitFrom_gap_append gap []
    rw [List.append_nil] at hgap
    have hword := splitFrom_word_append gap hb read []
    rw [List.append_nil] at hword
    rw [hword]
    rfl

theorem Row.splitFrom {row : Text} {ws : List Text} (h : Row row ws) {trail : Text}
    (gap : IsGap trail) : Words.splitFrom .gap (row ++ trail) = some ws := by
  induction h with
  | last spelled =>
    rw [spelled.splitFrom_gap, splitFrom_word_gap gap, List.reverse_reverse]
  | more spelled between nonempty _ ih =>
    rw [List.append_assoc, List.append_assoc, spelled.splitFrom_gap,
      splitFrom_word_append between nonempty, ih, List.reverse_reverse]
    rfl

/-- A line has the words that it writes. -/
theorem split?_of_writes {line : Text} {ws : List Text} (h : Writes line ws) :
    split? line = some ws := by
  obtain ⟨lead, row, trail, rfl, hlead, htrail, hrow⟩ := h
  rw [split?, splitFrom_gap_append hlead]
  exact hrow.splitFrom htrail

/-! ## Lines without words -/

/-- The mark of the quotation that a line ends in, where it starts in a quotation or
outside. A quotation is closed by its own mark only. -/
def leftOpen : Option CodePoint → Text → Option CodePoint
  | open_, [] => open_
  | none, c :: t => leftOpen (if isQuote c then some c else none) t
  | some mark, c :: t => leftOpen (if c = mark then none else some mark) t

/-- The mark of the quotation that a place is in. -/
def Place.mark? : Place → Option CodePoint
  | .gap | .word _ => none
  | .quotation mark _ => some mark

/-- Where no word can be read to the end of the line, a quotation is left open. -/
theorem splitFrom_eq_none_iff (p : Place) (t : Text) :
    splitFrom p t = none ↔ (leftOpen p.mark? t).isSome = true := by
  induction t generalizing p with
  | nil =>
    cases p with
    | gap | word | quotation => simp [splitFrom, leftOpen, Place.mark?]
  | cons c t ih =>
    cases p with
    | gap | word =>
      by_cases hblank : isBlank c = true
      · simp [splitFrom, leftOpen, Place.mark?, hblank, isQuote_of_isBlank hblank, ih]
      · by_cases hquote : isQuote c = true
        · simp [splitFrom, leftOpen, Place.mark?, hblank, hquote, ih]
        · simp [splitFrom, leftOpen, Place.mark?, hblank, hquote, ih]
    | quotation mark read =>
      by_cases hc : c = mark
      · simp [splitFrom, leftOpen, Place.mark?, hc, ih]
      · simp [splitFrom, leftOpen, Place.mark?, hc, ih]

/-- A place in a word or in a quotation comes to a word. -/
theorem splitFrom_ne_nil {p : Place} (h : p ≠ .gap) (t : Text) : splitFrom p t ≠ some [] := by
  induction t generalizing p with
  | nil =>
    cases p with
    | gap => exact absurd rfl h
    | word | quotation => simp [splitFrom]
  | cons c t ih =>
    cases p with
    | gap => exact absurd rfl h
    | word read =>
      rw [splitFrom]
      split
      · simp
      · split
        · exact ih (by simp)
        · exact ih (by simp)
    | quotation mark read =>
      rw [splitFrom]
      split
      · exact ih (by simp)
      · exact ih (by simp)

theorem split?_eq_none_iff (line : Text) :
    split? line = none ↔ (leftOpen none line).isSome = true := splitFrom_eq_none_iff .gap line

/-- Only blanks make up no word. -/
theorem split?_eq_nil_iff (line : Text) : split? line = some [] ↔ IsGap line := by
  rw [split?]
  constructor
  · intro h
    induction line with
    | nil => exact fun c hc => absurd hc List.not_mem_nil
    | cons c t ih =>
      rw [splitFrom] at h
      by_cases hblank : isBlank c = true
      · rw [if_pos hblank] at h
        exact List.forall_mem_cons.mpr ⟨hblank, ih h⟩
      · rw [if_neg hblank] at h
        split at h
        · exact absurd h (splitFrom_ne_nil (by simp) t)
        · exact absurd h (splitFrom_ne_nil (by simp) t)
  · intro gap
    have h := splitFrom_gap_append gap []
    rw [List.append_nil] at h
    exact h

end Words

end QuerySieve
