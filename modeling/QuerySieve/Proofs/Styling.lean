-- The laws of sequences for terminals. A text loses the sequences that would style it on a terminal
-- and no other character, so it comes out as it is just where no such sequence stands in it.
import QuerySieve.Text.Style

namespace QuerySieve

/-! ## Sequences for terminals -/

namespace Style

def bracket : CodePoint := '['

/-- The text starts with a sequence: an escape, a bracket, parameters and one letter. -/
def Sequence (t : Text) : Prop :=
  ∃ e parameters final after, isEscape e = true ∧ (∀ c ∈ parameters, isParameter c = true) ∧
    isFinal final = true ∧ t = e :: bracket :: (parameters ++ final :: after)

/-- A sequence stands somewhere in the text. -/
def Styled (t : Text) : Prop := ∃ rest, rest <:+ t ∧ Sequence rest

/-- What is held, in reverse, may be the start of a sequence. -/
inductive Held : Text → Prop
  | nothing : Held []
  | escape {e : CodePoint} (escape : isEscape e = true) : Held [e]
  | opened {held : Text} {e : CodePoint} {ps : Text} (escape : isEscape e = true)
      (parameters : ∀ c ∈ ps, isParameter c = true) (start : held.reverse = e :: bracket :: ps) :
      Held held

variable {c e : CodePoint} {t : Text}

theorem isEscape_of_isParameter (h : isParameter c = true) : isEscape c = false := by
  simp only [isParameter, isEscape, CodePoint.isAsciiDigit, Bool.or_eq_true, Bool.and_eq_true,
    decide_eq_true_eq, decide_eq_false_iff_not] at h ⊢
  rcases h with (h | rfl) | rfl
  · omega
  · decide
  · decide

theorem isFinal_of_isParameter (h : isParameter c = true) : isFinal c = false := by
  simp only [isParameter, isFinal, CodePoint.isAsciiDigit, CodePoint.isAsciiUpper,
    CodePoint.isAsciiLower, Bool.or_eq_true, Bool.and_eq_true, decide_eq_true_eq,
    Bool.or_eq_false_iff, Bool.and_eq_false_iff, decide_eq_false_iff_not] at h ⊢
  rcases h with (h | rfl) | rfl
  · omega
  · decide
  · decide

theorem styled_cons_iff : Styled (c :: t) ↔ Sequence (c :: t) ∨ Styled t := by
  constructor
  · rintro ⟨rest, suffix, sequence⟩
    rcases List.suffix_cons_iff.mp suffix with rfl | suffix
    · exact .inl sequence
    · exact .inr ⟨rest, suffix, sequence⟩
  · rintro (sequence | ⟨rest, suffix, sequence⟩)
    · exact ⟨_, List.suffix_refl _, sequence⟩
    · exact ⟨rest, suffix.trans (List.suffix_cons c t), sequence⟩

theorem not_styled_nil : ¬ Styled [] := by
  rintro ⟨rest, suffix, e, ps, f, after, -, -, -, rfl⟩
  cases List.suffix_nil.mp suffix

/-- A sequence starts with an escape. -/
theorem styled_cons_of_not_escape (h : isEscape c = false) : Styled (c :: t) ↔ Styled t := by
  rw [styled_cons_iff, or_iff_right]
  rintro ⟨e, ps, f, after, escape, -, -, same⟩
  cases same
  rw [escape] at h
  cases h

theorem styled_append_of_parameters {ps : Text} (h : ∀ c ∈ ps, isParameter c = true) :
    Styled (ps ++ t) ↔ Styled t := by
  induction ps with
  | nil => rfl
  | cons p ps ih =>
    rw [List.forall_mem_cons] at h
    exact (styled_cons_of_not_escape (isEscape_of_isParameter h.1)).trans (ih h.2)

/-- After an escape a sequence goes on with a bracket. -/
theorem styled_escape_cons (h : c ≠ bracket) : Styled (e :: c :: t) ↔ Styled (c :: t) := by
  rw [styled_cons_iff, or_iff_right]
  rintro ⟨e, ps, f, after, -, -, -, same⟩
  cases same
  exact h rfl

/-- The character after all parameters is the same, however a text is taken apart. -/
theorem head?_of_parameters {ps qs after rest : Text} {f : CodePoint}
    (hps : ∀ c ∈ ps, isParameter c = true) (hqs : ∀ c ∈ qs, isParameter c = true)
    (hf : isParameter f = false) (hrest : ∀ c ∈ rest.head?, isParameter c = false)
    (same : ps ++ f :: after = qs ++ rest) : rest.head? = some f := by
  induction ps generalizing qs with
  | nil =>
    cases qs with
    | nil => rw [← show f :: after = rest from same, List.head?_cons]
    | cons q qs =>
      rw [(List.cons.inj same).1, (List.forall_mem_cons.mp hqs).1] at hf
      cases hf
  | cons p ps ih =>
    cases qs with
    | nil =>
      have hp := hrest p (by rw [← show p :: (ps ++ f :: after) = rest from same]; rfl)
      rw [(List.forall_mem_cons.mp hps).1] at hp
      cases hp
    | cons q qs =>
      rw [List.forall_mem_cons] at hps hqs
      exact ih hps.2 hqs.2 (List.cons.inj same).2

/-- Where parameters end and no letter follows, there was no sequence. -/
theorem styled_of_parameters {ps rest : Text} (h : ∀ c ∈ ps, isParameter c = true)
    (unfinished : ∀ c ∈ rest.head?, isParameter c = false ∧ isFinal c = false) :
    Styled (e :: bracket :: (ps ++ rest)) ↔ Styled rest := by
  have hbracket : isEscape bracket = false := by decide
  rw [styled_cons_iff, styled_cons_of_not_escape hbracket, styled_append_of_parameters h,
    or_iff_right]
  rintro ⟨e', qs, f, after, -, hqs, final, same⟩
  have hf : isParameter f = false := by
    cases hp : isParameter f with
    | false => rfl
    | true =>
      rw [isFinal_of_isParameter hp] at final
      cases final
  have tails := (List.cons.inj (List.cons.inj same).2).2.symm
  have hhead := head?_of_parameters hqs h hf (fun c hc => (unfinished c hc).1) tails
  rw [(unfinished f hhead).2] at final
  cases final

/-! ## Dropping sequences -/

/-- Nothing is put in. -/
theorem dropFrom_sublist (held t : Text) : (dropFrom held t).Sublist (held.reverse ++ t) := by
  fun_induction dropFrom held t with
  | case1 held => exact List.sublist_append_left _ _
  | case2 c t escape ih => exact ih
  | case3 c t other ih => exact ih.cons_cons c
  | case4 e t ih => exact ih
  | case5 e c t other escape ih => exact ih.cons_cons e
  | case6 e c t other plain ih => exact (ih.cons_cons c).cons_cons e
  | case7 held c t _ _ parameter ih =>
    rw [List.reverse_cons, List.append_assoc] at ih
    exact ih
  | case8 held c t _ _ _ final ih =>
    exact (ih.cons c).trans (List.sublist_append_right _ _)
  | case9 held c t _ _ _ _ escape ih => exact (List.Sublist.refl _).append ih
  | case10 held c t _ _ _ _ plain ih => exact (List.Sublist.refl _).append (ih.cons_cons c)

theorem drop_sublist (t : Text) : (drop t).Sublist t := dropFrom_sublist [] t

/-- The start of a sequence is none. -/
theorem Held.not_styled {held : Text} (h : Held held) : ¬ Styled held.reverse := by
  cases h with
  | nothing => exact not_styled_nil
  | @escape e escape =>
    change ¬ Styled [e]
    rw [styled_cons_iff, or_iff_left not_styled_nil]
    rintro ⟨e', ps, f, after, -, -, -, same⟩
    cases same
  | @opened _ e ps escape parameters start =>
    have unfinished : ∀ c ∈ ([] : Text).head?, isParameter c = false ∧ isFinal c = false := by simp
    rw [start, ← List.append_nil ps, styled_of_parameters parameters unfinished]
    exact not_styled_nil

/-- More than an escape is held only after a bracket. -/
theorem Held.exists_parameters {held : Text} (h : Held held) (nonempty : held ≠ [])
    (more : ∀ e, held ≠ [e]) :
    ∃ e ps, isEscape e = true ∧ (∀ c ∈ ps, isParameter c = true) ∧
      held.reverse = e :: bracket :: ps := by
  cases h with
  | nothing => exact absurd rfl nonempty
  | escape => exact absurd rfl (more _)
  | opened escape parameters start => exact ⟨_, _, escape, parameters, start⟩

/-- What is held and what comes after it stay as they are just where no sequence is among them. -/
theorem dropFrom_eq_iff {held t : Text} (h : Held held) :
    dropFrom held t = held.reverse ++ t ↔ ¬ Styled (held.reverse ++ t) := by
  fun_induction dropFrom held t with
  | case1 held =>
    rw [List.append_nil]
    exact iff_of_true rfl h.not_styled
  | case2 c t escape ih => exact ih (.escape escape)
  | case3 c t other ih =>
    have hc : isEscape c = false := by simpa using other
    change c :: dropFrom [] t = c :: t ↔ ¬ Styled (c :: t)
    rw [List.cons_inj_right, styled_cons_of_not_escape hc]
    exact ih .nothing
  | case4 e t ih =>
    cases h with
    | escape escape => exact ih (.opened escape (List.forall_mem_nil _) rfl)
    | opened _ _ start => cases start
  | case5 e c t other escape ih =>
    change e :: dropFrom [c] t = e :: c :: t ↔ ¬ Styled (e :: c :: t)
    rw [List.cons_inj_right, styled_escape_cons other]
    exact ih (.escape escape)
  | case6 e c t other plain ih =>
    have hc : isEscape c = false := by simpa using plain
    change e :: c :: dropFrom [] t = e :: c :: t ↔ ¬ Styled (e :: c :: t)
    rw [List.cons_inj_right, List.cons_inj_right, styled_escape_cons other,
      styled_cons_of_not_escape hc]
    exact ih .nothing
  | case7 held c t nonempty more parameter ih =>
    obtain ⟨e, ps, escape, parameters, start⟩ := h.exists_parameters nonempty more
    have parameters' : ∀ d ∈ ps ++ [c], isParameter d = true := by
      rw [List.forall_mem_append, List.forall_mem_singleton]
      exact ⟨parameters, parameter⟩
    have start' : (c :: held).reverse = e :: bracket :: (ps ++ [c]) := by
      rw [List.reverse_cons, start]
      rfl
    have hnext := ih (.opened escape parameters' start')
    rw [List.reverse_cons, List.append_assoc] at hnext
    exact hnext
  | case8 held c t nonempty more _ final ih =>
    obtain ⟨e, ps, escape, parameters, start⟩ := h.exists_parameters nonempty more
    refine iff_of_false ?_ (not_not_intro ?_)
    · intro same
      have shorter := (dropFrom_sublist [] t).length_le
      rw [same] at shorter
      simp at shorter
      omega
    · refine ⟨_, List.suffix_refl _, e, ps, c, t, escape, parameters, final, ?_⟩
      rw [start]
      rfl
  | case9 held c t nonempty more other open_ escape ih =>
    obtain ⟨e, ps, _, parameters, start⟩ := h.exists_parameters nonempty more
    have unfinished : ∀ d ∈ (c :: t).head?, isParameter d = false ∧ isFinal d = false := by
      simpa using And.intro other open_
    rw [List.append_cancel_left_eq, start, List.cons_append, List.cons_append,
      styled_of_parameters parameters unfinished]
    exact ih (.escape escape)
  | case10 held c t nonempty more other open_ plain ih =>
    obtain ⟨e, ps, _, parameters, start⟩ := h.exists_parameters nonempty more
    have unfinished : ∀ d ∈ (c :: t).head?, isParameter d = false ∧ isFinal d = false := by
      simpa using And.intro other open_
    have hc : isEscape c = false := by simpa using plain
    rw [List.append_cancel_left_eq, List.cons_inj_right, start, List.cons_append,
      List.cons_append, styled_of_parameters parameters unfinished, styled_cons_of_not_escape hc]
    exact ih .nothing

/-- A text comes out as it is just where no sequence stands in it. -/
theorem drop_eq_iff (t : Text) : drop t = t ↔ ¬ Styled t := dropFrom_eq_iff .nothing

def lineFeed : CodePoint := '\n'

/-- What comes after a line is dropped by itself. -/
theorem dropFrom_append_line (held t u : Text) :
    dropFrom held (t ++ lineFeed :: u) = dropFrom held t ++ lineFeed :: dropFrom [] u := by
  have notEscape : isEscape lineFeed = false := by decide
  have notBracket : lineFeed ≠ CodePoint.ofChar '[' := by decide
  have notParameter : isParameter lineFeed = false := by decide
  have notFinal : isFinal lineFeed = false := by decide
  fun_induction dropFrom held t with
  | case1 held =>
    rcases held with _ | ⟨e, _ | ⟨e', held⟩⟩
    · simp [dropFrom, notEscape]
    · simp [dropFrom, notEscape, notBracket]
    · simp [dropFrom, notEscape, notParameter, notFinal]
  | case2 c t escape ih => simp [dropFrom, escape, ih]
  | case3 c t other ih => simp [dropFrom, other, ih]
  | case4 e t ih => simp [dropFrom, ih]
  | case5 e c t other escape ih => simp [dropFrom, other, escape, ih]
  | case6 e c t other plain ih => simp [dropFrom, other, plain, ih]
  | case7 held c t nonempty more parameter ih =>
    rw [List.cons_append, dropFrom, if_pos parameter, ih]
    · exact nonempty
    · exact more
  | case8 held c t nonempty more other final ih =>
    rw [List.cons_append, dropFrom, if_neg other, if_pos final, ih]
    · exact nonempty
    · exact more
  | case9 held c t nonempty more other open_ escape ih =>
    rw [List.cons_append, dropFrom, if_neg other, if_neg open_, if_pos escape, ih,
      List.append_assoc]
    · exact nonempty
    · exact more
  | case10 held c t nonempty more other open_ plain ih =>
    rw [List.cons_append, dropFrom, if_neg other, if_neg open_, if_neg plain, ih,
      List.append_assoc, List.cons_append]
    · exact nonempty
    · exact more

/-- No sequence goes on past the end of a line. -/
theorem drop_line (t : Text) : drop (t ++ "\n") = drop t ++ "\n" := dropFrom_append_line [] t []

/-- Lines are dropped one by one. -/
theorem drop_join (lines : List Text) :
    drop (Text.join "\n" lines) = Text.join "\n" (lines.map drop) := by
  induction lines with
  | nil => rfl
  | cons t ts ih =>
    cases ts with
    | nil => rfl
    | cons t' ts =>
      change drop (t ++ "\n" ++ Text.join "\n" (t' :: ts)) = drop t ++ "\n" ++ _
      rw [← ih, List.append_assoc, List.append_assoc]
      exact dropFrom_append_line [] t _

/-- What stands before the first escape is no part of a sequence. -/
theorem drop_append_of_not_escape {s : Text} (h : ∀ c ∈ s, isEscape c = false) (t : Text) :
    drop (s ++ t) = s ++ drop t := by
  induction s with
  | nil => rfl
  | cons c s ih =>
    obtain ⟨hc, hs⟩ := List.forall_mem_cons.mp h
    change dropFrom [] (c :: (s ++ t)) = c :: (s ++ drop t)
    rw [dropFrom, hc, if_neg Bool.false_ne_true, ← ih hs]
    rfl

theorem not_styled_of_not_escape {t : Text} (h : ∀ c ∈ t, isEscape c = false) : ¬ Styled t := by
  rintro ⟨rest, suffix, e, ps, f, after, escape, -, -, rfl⟩
  rw [h e (suffix.mem List.mem_cons_self)] at escape
  cases escape

end Style

end QuerySieve
