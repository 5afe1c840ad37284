-- The laws of cutting a query and joining it again. The output of a filter is at every
-- turn of its loop the join of what was kept so far. No segment is empty, so an output
-- that is not empty is one that needs a separator. A query is the join of its segments
-- just where no separator stands in it for nothing.
import QuerySieve.Query

namespace QuerySieve

/-! ## Cutting any list -/

/-- What a list is cut at stands in no part, and a part leaves out items of the list. -/
theorem notMem_and_sublist_of_mem_splitOn {α : Type} [DecidableEq α] {a : α} {xs p : List α}
    (h : p ∈ xs.splitOn a) : a ∉ p ∧ p.Sublist xs := by
  induction xs generalizing p with
  | nil =>
    rw [List.splitOn_nil, List.mem_singleton] at h
    simp [h]
  | cons x xs ih =>
    rw [List.splitOn_cons_eq_if_modifyHead] at h
    by_cases hx : x = a
    · rw [if_pos (beq_iff_eq.mpr hx)] at h
      rcases List.mem_cons.mp h with rfl | hp
      · exact ⟨List.not_mem_nil, List.nil_sublist _⟩
      · exact ⟨(ih hp).1, (ih hp).2.cons x⟩
    · rw [if_neg (by simpa using hx)] at h
      obtain ⟨q, qs, hq⟩ := List.exists_cons_of_ne_nil (List.splitOn_ne_nil a xs)
      rw [hq, List.modifyHead_cons] at h
      rw [hq] at ih
      rcases List.mem_cons.mp h with rfl | hp
      · obtain ⟨whole, sub⟩ := ih List.mem_cons_self
        exact ⟨by simp [Ne.symm hx, whole], sub.cons_cons x⟩
      · obtain ⟨whole, sub⟩ := ih (List.mem_cons_of_mem q hp)
        exact ⟨whole, sub.cons x⟩

namespace Query

/-! ## Pieces and joins -/

theorem pieces_eq_splitOn (q : Bytes) : pieces q = q.splitOn separator := by
  induction q with
  | nil => rfl
  | cons b q ih =>
    rw [List.splitOn_cons_eq_if_modifyHead, pieces, ih]
    by_cases hb : b = separator
    · simp [hb]
    · simp only [hb, if_false, beq_iff_eq]
      cases hq : q.splitOn separator with
      | nil => exact absurd hq (List.splitOn_ne_nil separator q)
      | cons p ps => rfl

theorem join_eq_intercalate (ss : List Bytes) : join ss = [separator].intercalate ss := by
  induction ss with
  | nil => rfl
  | cons s ss ih =>
    cases ss with
    | nil => simp [join]
    | cons s' ss =>
      rw [List.intercalate_cons_cons, ← ih]
      simp [join]

/-- Every segment is a piece that is not empty. -/
theorem segments_eq (q : Bytes) :
    segments q = (q.splitOn separator).filter fun s => !s.isEmpty := by
  rw [segments, pieces_eq_splitOn]

theorem ne_nil_of_mem_segments {q s : Bytes} (h : s ∈ segments q) : s ≠ [] := by
  rw [segments, List.mem_filter] at h
  simpa using h.2

theorem separator_notMem_of_mem_segments {q s : Bytes} (h : s ∈ segments q) : separator ∉ s := by
  rw [segments_eq] at h
  exact (notMem_and_sublist_of_mem_splitOn (List.mem_filter.mp h).1).1

/-! ## The output of a filter -/

theorem join_ne_nil {kept : List Bytes} (hne : kept ≠ []) (h : ∀ s ∈ kept, s ≠ []) :
    join kept ≠ [] := by
  cases kept with
  | nil => exact absurd rfl hne
  | cons s ss =>
    have hs : s ≠ [] := h s List.mem_cons_self
    cases ss with
    | nil => exact hs
    | cons s' ss => simp [join]

theorem join_snoc {kept : List Bytes} (hne : kept ≠ []) (s : Bytes) :
    join (kept ++ [s]) = join kept ++ separator :: s := by
  induction kept with
  | nil => exact absurd rfl hne
  | cons k kept ih =>
    cases kept with
    | nil => rfl
    | cons k' kept =>
      have htail := ih (by simp)
      simp only [List.cons_append, join] at htail ⊢
      rw [htail]
      simp

/-- One more segment in the output is one more segment in the join. -/
theorem append_join {kept : List Bytes} (h : ∀ s ∈ kept, s ≠ []) (s : Bytes) :
    append (join kept) s = join (kept ++ [s]) := by
  by_cases hne : kept = []
  · subst hne
    rfl
  · have hj : (join kept).isEmpty = false := by
      rw [List.isEmpty_eq_false_iff]
      exact join_ne_nil hne h
    rw [append, hj, join_snoc hne]
    rfl

/-! ## Cutting an output again -/

section

variable {ss : List Bytes} (whole : ∀ s ∈ ss, separator ∉ s)
include whole

theorem pieces_join (hss : ss ≠ []) : pieces (join ss) = ss := by
  rw [pieces_eq_splitOn, join_eq_intercalate, List.splitOn_intercalate separator whole hss]

theorem segments_join (nonempty : ∀ s ∈ ss, s ≠ []) : segments (join ss) = ss := by
  by_cases hss : ss = []
  · subst hss
    rfl
  · rw [segments, pieces_join whole hss, List.filter_eq_self]
    simpa using nonempty

end

/-- The segments of an output are the segments that were kept. -/
theorem segments_join_filter (q : Bytes) (keeps : Bytes → Bool) :
    segments (join ((segments q).filter keeps)) = (segments q).filter keeps := by
  apply segments_join
  · exact fun s hs => separator_notMem_of_mem_segments (List.mem_filter.mp hs).1
  · exact fun s hs => ne_nil_of_mem_segments (List.mem_filter.mp hs).1

theorem segments_join_segments (q : Bytes) : segments (join (segments q)) = segments q :=
  segments_join (fun _ => separator_notMem_of_mem_segments) fun _ => ne_nil_of_mem_segments

/-! ## Tidy queries -/

/-- No separator stands first or last, and no two stand side by side. -/
def Tidy (q : Bytes) : Prop :=
  q.head? ≠ some separator ∧ q.getLast? ≠ some separator ∧ ¬ [separator, separator] <:+: q

theorem pieces_ne_nil (q : Bytes) : pieces q ≠ [] := by
  rw [pieces_eq_splitOn]
  exact List.splitOn_ne_nil separator q

theorem head?_pieces (q : Bytes) :
    (pieces q).head? = some [] ↔ q = [] ∨ q.head? = some separator := by
  cases q with
  | nil => simp [pieces]
  | cons b q =>
    by_cases hb : b = separator
    · simp [pieces, hb]
    · obtain ⟨p, ps, hq⟩ := List.exists_cons_of_ne_nil (pieces_ne_nil q)
      simp [pieces, hb, hq]

/-- A piece past the first one is empty where the separator before it is the last octet or is
followed by another. -/
theorem nil_mem_tail_pieces (q : Bytes) :
    [] ∈ (pieces q).tail ↔ q.getLast? = some separator ∨ [separator, separator] <:+: q := by
  induction q with
  | nil => simp [pieces]
  | cons b q ih =>
    have hlast : (b :: q).getLast? = some separator ↔
        q = [] ∧ b = separator ∨ q.getLast? = some separator := by
      cases q with
      | nil => simp
      | cons b' q => simp [List.getLast?_cons_cons]
    have hfirst : [separator, separator] <+: b :: q ↔
        b = separator ∧ q.head? = some separator := by
      cases q with
      | nil => simp
      | cons b' q => simp [List.cons_prefix_cons, eq_comm]
    rw [hlast, List.infix_cons_iff, hfirst]
    obtain ⟨p, ps, hq⟩ := List.exists_cons_of_ne_nil (pieces_ne_nil q)
    rw [hq, List.tail_cons] at ih
    by_cases hb : b = separator
    · have hhead := head?_pieces q
      rw [hq, List.head?_cons, Option.some.injEq, eq_comm] at hhead
      rw [pieces, if_pos hb, hq, List.tail_cons, List.mem_cons, hhead, ih]
      simp only [hb, and_true, true_and]
      exact or_or_or_comm
    · rw [pieces, if_neg hb, hq, List.tail_cons, ih]
      simp only [hb, and_false, false_and, false_or]

/-- A query is tidy if it is empty or has no empty piece. -/
theorem tidy_iff (q : Bytes) : Tidy q ↔ q = [] ∨ [] ∉ q.splitOn separator := by
  have hhead := head?_pieces q
  have htail := nil_mem_tail_pieces q
  obtain ⟨p, ps, hq⟩ := List.exists_cons_of_ne_nil (pieces_ne_nil q)
  rw [hq, List.head?_cons, Option.some.injEq, eq_comm] at hhead
  rw [hq, List.tail_cons] at htail
  rw [← pieces_eq_splitOn, hq, List.mem_cons, hhead, htail, Tidy]
  by_cases empty : q = []
  · subst empty
    simp
  · simp only [empty, false_or, not_or, ne_eq]

theorem join_segments_iff (q : Bytes) : join (segments q) = q ↔ Tidy q := by
  rw [tidy_iff, ← pieces_eq_splitOn]
  constructor
  · intro same
    by_cases hs : segments q = []
    · rw [hs] at same
      exact .inl same.symm
    · -- The pieces of the query are those of the join, and these are the segments.
      right
      rw [← same, pieces_join (fun s => separator_notMem_of_mem_segments) hs]
      exact fun hnil => ne_nil_of_mem_segments hnil rfl
  · rintro (rfl | full)
    · rfl
    · have all : segments q = pieces q := by
        rw [segments, List.filter_eq_self]
        intro s hs
        have hne : s ≠ [] := fun hnil => full (hnil ▸ hs)
        simpa using hne
      rw [all, join_eq_intercalate, pieces_eq_splitOn, List.intercalate_splitOn]

theorem tidy_join_segments (q : Bytes) (keeps : Bytes → Bool) :
    Tidy (join ((segments q).filter keeps)) := by
  rw [← join_segments_iff, segments_join_filter]

end Query

end QuerySieve
