-- The laws of filtering a query, for a predicate with any effects. The loop of a filter only
-- threads the effects: it asks about each segment once and in order, and joins the segments
-- for which the answer was yes. A predicate without effects leaves the one tidy query with
-- just the segments that it accepts.
import QuerySieve.Proofs.Gives
import QuerySieve.Proofs.Segments

namespace QuerySieve.Query

/-! ## Answers -/

/-- The segments whose answer is yes, where the answers come in the order of the segments. -/
def chosen (ss : List Bytes) (answers : List Bool) : List Bytes :=
  ((ss.zip answers).filter (·.2)).map (·.1)

@[simp] theorem chosen_nil (answers : List Bool) : chosen [] answers = [] := rfl

@[simp] theorem chosen_cons (s : Bytes) (ss : List Bytes) (answer : Bool) (answers : List Bool) :
    chosen (s :: ss) (answer :: answers) =
      if answer then s :: chosen ss answers else chosen ss answers := by
  cases answer with
  | true => rfl
  | false => rfl

theorem chosen_map (ss : List Bytes) (accepts : Bytes → Bool) :
    chosen ss (ss.map accepts) = ss.filter accepts := by
  induction ss with
  | nil => rfl
  | cons s ss ih => rw [List.map_cons, chosen_cons, List.filter_cons, ih]

/-! ## The loop of a filter -/

section

variable {m : Type → Type} [Monad m] [LawfulMonad m] (keep : Bytes → m Bool)

/-- The loop of a filter, from any output on: the effects are those of asking about each segment
in turn, and what was kept before stays in front. -/
theorem foldlM_eq (ss kept : List Bytes) (hss : ∀ s ∈ ss, s ≠ []) (hkept : ∀ s ∈ kept, s ≠ []) :
    (ss.map fun s => (splitKey s, s)).foldlM
        (fun out (key, segment) => do
          if ← keep key then pure (append out segment) else pure out)
        (join kept) =
      (fun answers => join (kept ++ chosen ss answers)) <$> ss.mapM fun s => keep (splitKey s) := by
  induction ss generalizing kept with
  | nil => simp
  | cons s ss ih =>
    obtain ⟨hs, hrest⟩ := List.forall_mem_cons.mp hss
    have hsnoc : ∀ t ∈ kept ++ [s], t ≠ [] := by
      rw [List.forall_mem_append]
      exact ⟨hkept, by simpa using hs⟩
    rw [List.map_cons, List.foldlM_cons, List.mapM_cons]
    simp only [bind_assoc, map_bind]
    congr 1
    funext answer
    cases answer with
    | true =>
      simp only [if_true, pure_bind, append_join hkept, ih _ hrest hsnoc]
      simp
    | false =>
      simp only [Bool.false_eq_true, if_false, pure_bind, ih _ hrest hkept]
      simp

/-- A filter asks about the key of each segment in turn and then joins the segments for which the
answer was yes. -/
theorem filterM_eq (q : Bytes) :
    filterM keep q = (fun answers => join (chosen (segments q) answers)) <$>
      (segments q).mapM fun s => keep (splitKey s) :=
  foldlM_eq keep (segments q) [] (fun _ => ne_nil_of_mem_segments) (by simp)

end

/-! ## Steps that write to the journal -/

/-- A filter gives the join of the segments whose key is accepted. -/
theorem filterM_gives {keep : Bytes → Journaled Bool} {accepts : Bytes → Bool}
    (hkeep : ∀ k, Gives (keep k) (accepts k)) (q : Bytes) :
    Gives (filterM keep q) (join ((segments q).filter fun s => accepts (splitKey s))) := by
  rw [filterM_eq, ← chosen_map]
  exact Gives.map _ (Gives.mapM (fun s => hkeep (splitKey s)) (segments q))

/-! ## A predicate that keeps a state -/

section

variable {σ : Type} (keep : Bytes → StateM σ Bool)

/-- The predicate is asked about keys in turn, each time in the state that the call before it
left. -/
inductive Asks : σ → List Bytes → List Bool → σ → Prop
  | nil (s : σ) : Asks s [] [] s
  | cons {s t u : σ} {key : Bytes} {keys : List Bytes} {answer : Bool} {answers : List Bool}
      (call : (keep key).run s = (answer, t)) (rest : Asks t keys answers u) :
      Asks s (key :: keys) (answer :: answers) u

/-- The predicate, with a note of each key that it is asked about. -/
def noting (key : Bytes) : StateM (σ × List Bytes) Bool := fun (s, notes) =>
  let (answer, t) := (keep key).run s
  (answer, (t, notes ++ [key]))

theorem exists_asks (s : σ) (keys : List Bytes) :
    ∃ answers t, Asks keep s keys answers t := by
  induction keys generalizing s with
  | nil => exact ⟨[], s, .nil s⟩
  | cons key keys ih =>
    obtain ⟨answers, u, rest⟩ := ih ((keep key).run s).2
    exact ⟨_, u, .cons rfl rest⟩

variable {keep}

theorem Asks.mapM_run {s t : σ} {keys : List Bytes} {answers : List Bool}
    (h : Asks keep s keys answers t) : (keys.mapM keep).run s = (answers, t) := by
  induction h with
  | nil s => rfl
  | @cons s t u key keys answer answers call rest ih =>
    rw [List.mapM_cons, StateT.run_bind, call]
    change ((keys.mapM keep >>= fun answers => pure (answer :: answers)).run t : Id _) = _
    rw [StateT.run_bind, ih]
    rfl

/-- To take notes has no effect on the answers and on the state that is left. -/
theorem Asks.noting {s t : σ} {keys : List Bytes} {answers : List Bool}
    (h : Asks keep s keys answers t) (notes : List Bytes) :
    Asks (noting keep) (s, notes) keys answers (t, notes ++ keys) := by
  induction h generalizing notes with
  | nil s =>
    rw [List.append_nil]
    exact .nil _
  | @cons s t u key keys answer answers call rest ih =>
    have next := ih (notes ++ [key])
    rw [List.append_assoc, List.singleton_append] at next
    refine .cons ?_ next
    change ((keep key).run s |>.1, ((keep key).run s |>.2, notes ++ [key])) = _
    rw [call]

theorem Asks.filterM_run {q : Bytes} {s t : σ} {answers : List Bool}
    (h : Asks keep s ((segments q).map splitKey) answers t) :
    (filterM keep q).run s = (join (chosen (segments q) answers), t) := by
  have hrun := h.mapM_run
  rw [List.mapM_map] at hrun
  rw [filterM_eq, StateT.run_map]
  change (fun p : List Bool × σ => (join (chosen (segments q) p.1), p.2))
    ((List.mapM (keep ∘ splitKey) (segments q)).run s) = _
  rw [hrun]

end

/-- A filter asks a predicate with a state about each piece that is not empty, once and from left
to right, with the octets before the first `=` as the key. Each call finds the state that the one
before it left, and the pieces for which the call answered yes are joined. So a predicate that
takes notes of its calls has noted just these keys. -/
theorem each_segment_is_asked_about_once {σ : Type} (keep : Bytes → StateM σ Bool) (q : Bytes)
    (s : σ) :
    ∃ ss keys answers t, ss = (q.splitOn separator).filter (fun p => !p.isEmpty) ∧
      keys = ss.map (fun p => p.takeWhile (· != assign)) ∧
      Asks keep s keys answers t ∧
      (filterM keep q).run s = ([separator].intercalate (chosen ss answers), t) ∧
      ∀ notes, (filterM (noting keep) q).run (s, notes) =
        ([separator].intercalate (chosen ss answers), t, notes ++ keys) := by
  obtain ⟨answers, t, asks⟩ := exists_asks keep s ((segments q).map splitKey)
  refine ⟨segments q, (segments q).map splitKey, answers, t, segments_eq q, rfl, asks, ?_, ?_⟩
  · rw [← join_eq_intercalate]
    exact asks.filterM_run
  · intro notes
    rw [← join_eq_intercalate]
    exact (asks.noting notes).filterM_run

/-! ## A predicate without effects -/

section

variable (keep : Bytes → Bool) (q : Bytes)

/-- The segments whose key is accepted, each with its key before it. -/
def kept : List (Bytes × Bytes) := (keyedSegments q).filter fun s => keep s.1

theorem kept_eq : kept keep q =
    ((segments q).filter fun s => keep (splitKey s)).map fun s => (splitKey s, s) :=
  List.filter_map

theorem filter_eq : filter keep q = join ((segments q).filter fun s => keep (splitKey s)) := by
  unfold filter
  rw [filterM_eq]
  simp [chosen_map]

theorem keyedSegments_filter : keyedSegments (filter keep q) = kept keep q := by
  rw [filter_eq, kept_eq, keyedSegments, segments_join_filter]

theorem tidy_filter : Tidy (filter keep q) := by
  rw [filter_eq]
  exact tidy_join_segments q _

end

/-! ## Queries by their segments -/

section

variable {q t : Bytes}

theorem segments_of_keyedSegments (h : keyedSegments t = keyedSegments q) :
    segments t = segments q := by
  have hsnd : ∀ q, (keyedSegments q).map (·.2) = segments q := by
    simp [keyedSegments, Function.comp_def]
  rw [← hsnd t, h, hsnd]

/-- A tidy query is told by its segments. -/
theorem eq_of_keyedSegments (ht : Tidy t) (hq : Tidy q) (h : keyedSegments t = keyedSegments q) :
    t = q := by
  rw [← (join_segments_iff t).mpr ht, segments_of_keyedSegments h, (join_segments_iff q).mpr hq]

theorem keyedSegments_eq_nil_iff (hq : Tidy q) : keyedSegments q = [] ↔ q = [] := by
  constructor
  · exact eq_of_keyedSegments hq ((tidy_iff []).mpr (.inl rfl))
  · rintro rfl
    rfl

end

/-- What a filter leaves has just the segments whose key is accepted, in order and as they were.
It is the only query with these segments that has no empty piece, or that is empty where there are
no such segments. -/
theorem a_filter_leaves_the_tidy_query_of_what_it_keeps (keep : Bytes → Bool) (q : Bytes) :
    keyedSegments (filter keep q) = kept keep q ∧
      (∀ t, t = filter keep q ↔ keyedSegments t = kept keep q ∧ Tidy t) ∧
      (∀ t, Tidy t ↔ t = [] ∨ [] ∉ t.splitOn separator) ∧
      (filter keep q = [] ↔ kept keep q = []) := by
  have hkeyed := keyedSegments_filter keep q
  have tidy := tidy_filter keep q
  refine ⟨hkeyed, ?_, tidy_iff, ?_⟩
  · intro t
    constructor
    · rintro rfl
      exact ⟨hkeyed, tidy⟩
    · rintro ⟨same, ht⟩
      exact eq_of_keyedSegments ht tidy (same.trans hkeyed.symm)
  · rw [← hkeyed, keyedSegments_eq_nil_iff tidy]

end QuerySieve.Query
