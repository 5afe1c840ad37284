-- The laws of evaluating variables. A definition leaves of a query the segments it keeps,
-- and the segments of what it leaves are just these. So a second filter decides on them as
-- it would have on the query: a filter is idempotent, and two of them may change places.
-- A definition that is the identity is not run. If it were, it would leave just the tidy
-- queries as they are; and only the identity leaves every query as it is.
import QuerySieve.Evaluation
import QuerySieve.Proofs.Decision
import QuerySieve.Proofs.Filtering

namespace QuerySieve

/-! ## What a definition leaves -/

namespace Definition

/-- What a definition leaves of a query. -/
def filtered (d : Definition) (q : Bytes) : Bytes :=
  if d.isIdentity then q
  else Query.join ((Query.segments q).filter fun s => d.keeps (Query.splitKey s))

theorem filtered_of_isIdentity {d : Definition} (h : d.isIdentity = true) (q : Bytes) :
    d.filtered q = q := by
  rw [filtered, h, if_pos rfl]

theorem filtered_of_not_isIdentity {d : Definition} (h : d.isIdentity = false) (q : Bytes) :
    d.filtered q =
      Query.join ((Query.segments q).filter fun s => d.keeps (Query.splitKey s)) := by
  rw [filtered, h, if_neg Bool.false_ne_true]

/-- One definition after another keeps what both of them keep. -/
theorem filtered_filtered {a b : Definition} (ha : a.isIdentity = false)
    (hb : b.isIdentity = false) (q : Bytes) :
    b.filtered (a.filtered q) = Query.join ((Query.segments q).filter fun s =>
      a.keeps (Query.splitKey s) && b.keeps (Query.splitKey s)) := by
  rw [filtered_of_not_isIdentity ha, filtered_of_not_isIdentity hb, Query.segments_join_filter,
    List.filter_filter]
  simp only [Bool.and_comm]

theorem filtered_idem (d : Definition) (q : Bytes) :
    d.filtered (d.filtered q) = d.filtered q := by
  cases hd : d.isIdentity with
  | true => rw [filtered_of_isIdentity hd, filtered_of_isIdentity hd]
  | false =>
    rw [filtered_filtered hd hd, filtered_of_not_isIdentity hd]
    simp only [Bool.and_self]

/-- The identity keeps the empty pieces of a query and other definitions drop them, but a
query that another definition filtered has none to keep. -/
theorem filtered_comm (a b : Definition) (q : Bytes) :
    a.filtered (b.filtered q) = b.filtered (a.filtered q) := by
  cases ha : a.isIdentity with
  | true => rw [filtered_of_isIdentity ha, filtered_of_isIdentity ha]
  | false =>
    cases hb : b.isIdentity with
    | true => rw [filtered_of_isIdentity hb, filtered_of_isIdentity hb]
    | false =>
      rw [filtered_filtered ha hb, filtered_filtered hb ha]
      simp only [Bool.and_comm]

/-- Whether two definitions both keep a key. -/
def bothKeep (a b : Definition) (key : Bytes) : Journaled Bool := do
  let first ← a.shouldKeep key
  let second ← b.shouldKeep key
  return first && second

theorem bothKeep_gives (a b : Definition) (key : Bytes) :
    Gives (bothKeep a b key) (a.keeps key && b.keeps key) :=
  Gives.bind (a.shouldKeep_gives key) (Gives.bind (b.shouldKeep_gives key) (Gives.pure _))

end Definition

/-! ## Evaluating twice -/

namespace Registry

/-- Evaluating a name gives what its definition leaves of the query. -/
theorem evaluate_filtered {r : Registry} {name : Text} {d : Definition}
    (found : r.lookup? name = some d) (q : Bytes) :
    Gives (r.evaluate name q) (some ⟨d.filtered q, d.volatile⟩) := by
  unfold evaluate
  apply Gives.within
  rw [found]
  apply Gives.bind (Gives.whenEnabled _ (Gives.record _ _ _))
  cases hd : d.isIdentity with
  | true =>
    rw [Definition.filtered_of_isIdentity hd]
    exact Gives.bind (Gives.record _ _ _) (Gives.pure _)
  | false =>
    rw [Definition.filtered_of_not_isIdentity hd]
    apply Gives.bind (Query.filterM_gives d.shouldKeep_gives q)
    exact Gives.bind (Gives.whenEnabled _ (Gives.record _ _ _)) (Gives.pure _)

theorem evaluate_of_unknown {r : Registry} {name : Text} (h : r.lookup? name = none) (q : Bytes) :
    Gives (r.evaluate name q) none := by
  unfold evaluate
  apply Gives.within
  rw [h]
  exact Gives.bind (Gives.record _ _ _) (Gives.pure _)

/-- What a name evaluates to is decided by the definition that it finds. -/
theorem evaluate_gives_lookup (r : Registry) (name : Text) (q : Bytes) :
    Gives (r.evaluate name q) ((r.lookup? name).map fun d => ⟨d.filtered q, d.volatile⟩) := by
  cases hlookup : r.lookup? name with
  | none => exact evaluate_of_unknown hlookup q
  | some d => exact evaluate_filtered hlookup q

/-- Evaluating a name on a query that it was evaluated on changes nothing more, and two
names may be evaluated in either order. Unless one of them leaves every query as it is, that
is one filter for the keys that both keep. -/
theorem evaluations_are_idempotent_and_commute {r : Registry} {a b : Text} {da db : Definition}
    (ha : r.lookup? a = some da) (hb : r.lookup? b = some db) :
    ∃ ea eb : Bytes → Bytes,
      (∀ q j, (r.evaluate a q j).1 = some ⟨ea q, da.volatile⟩) ∧
      (∀ q j, (r.evaluate b q j).1 = some ⟨eb q, db.volatile⟩) ∧
      ∀ q, ea (ea q) = ea q ∧ ea (eb q) = eb (ea q) ∧
        (da.isIdentity = false → db.isIdentity = false →
          ∀ j, (Query.filterM (Definition.bothKeep da db) q j).1 = eb (ea q)) := by
  refine ⟨da.filtered, db.filtered, evaluate_filtered ha, evaluate_filtered hb, ?_⟩
  intro q
  refine ⟨da.filtered_idem q, Definition.filtered_comm da db q, ?_⟩
  intro hda hdb j
  rw [Definition.filtered_filtered hda hdb]
  exact Query.filterM_gives (Definition.bothKeep_gives da db) q j

/-- Keeps all keys but one. -/
def dropX : Definition :=
  { initial := .all, rules := [⟨.drop, .literal (Bytes.ofString "x")⟩] }

/-- Keeps two keys. -/
def keepXY : Definition :=
  { rules := [⟨.keep, .literal (Bytes.ofString "x")⟩, ⟨.keep, .literal (Bytes.ofString "y")⟩] }

def dropAndKeep : Registry := ⟨[("drop", dropX), ("keep", keepXY)]⟩

theorem dropAndKeep_drop : dropAndKeep.lookup? "DROP" = some dropX := by
  have key : Name.normalize "DROP" = Text.ofString "drop" := by decide
  rw [lookup?, key]
  rfl

theorem dropAndKeep_keep : dropAndKeep.lookup? "$keep" = some keepXY := by
  have key : Name.normalize "$keep" = Text.ofString "keep" := by decide
  rw [lookup?, key]
  rfl

theorem dropAndKeep_commute :
    dropAndKeep.lookup? "DROP" = some dropX ∧ dropAndKeep.lookup? "$keep" = some keepXY ∧
      ∃ drop keep : Bytes → Bytes,
        (∀ q j, (dropAndKeep.evaluate "DROP" q j).1 = some ⟨drop q, false⟩) ∧
        (∀ q j, (dropAndKeep.evaluate "$keep" q j).1 = some ⟨keep q, false⟩) ∧
        drop (keep (Bytes.ofString "&x=1&&y=2&z")) = Bytes.ofString "y=2" ∧
        keep (drop (Bytes.ofString "&x=1&&y=2&z")) = Bytes.ofString "y=2" := by
  obtain ⟨drop, keep, hdrop, hkeep, law⟩ :=
    evaluations_are_idempotent_and_commute dropAndKeep_drop dropAndKeep_keep
  obtain ⟨-, comm, both⟩ := law (Bytes.ofString "&x=1&&y=2&z")
  have once : keep (drop (Bytes.ofString "&x=1&&y=2&z")) = Bytes.ofString "y=2" := by
    rw [← both (by decide) (by decide) (.empty .critical),
      Query.filterM_gives (Definition.bothKeep_gives dropX keepXY)]
    decide
  exact ⟨dropAndKeep_drop, dropAndKeep_keep, drop, keep, hdrop, hkeep, comm.trans once, once⟩

end Registry

/-! ## The identity -/

namespace Definition

/-- Any other definition drops the two empty pieces of a lone separator. -/
theorem isIdentity_iff (d : Definition) : d.isIdentity = true ↔ ∀ q, d.filtered q = q := by
  constructor
  · exact filtered_of_isIdentity
  · intro unchanged
    cases hd : d.isIdentity with
    | true => rfl
    | false =>
      have lone := unchanged [Query.separator]
      have dropped : d.filtered [Query.separator] = [] := by
        rw [filtered_of_not_isIdentity hd]
        rfl
      rw [dropped] at lone
      cases lone

theorem keeps_of_isIdentity {d : Definition} (h : d.isIdentity = true) (key : Bytes) :
    d.keeps key = true := by
  rw [isIdentity, Bool.and_eq_true, List.isEmpty_iff] at h
  obtain ⟨all, none⟩ := h
  rw [keeps, none]
  exact all

/-- An identity that is run on a query keeps all of its segments. -/
theorem filterM_of_isIdentity {d : Definition} (h : d.isIdentity = true) (q : Bytes) :
    Gives (Query.filterM d.shouldKeep q) (Query.join (Query.segments q)) := by
  have hrun := Query.filterM_gives d.shouldKeep_gives q
  rwa [List.filter_eq_self.mpr fun _ _ => keeps_of_isIdentity h _] at hrun

end Definition

namespace Registry

/-- A definition is the identity just where evaluating it leaves every query as it is. The filter
that is then not run would keep every segment, and it would leave the query as it is just where no
separator stands in it for nothing. -/
theorem just_the_identity_changes_no_query (d : Definition) :
    (∀ (r : Registry) (name : Text) (j : Journal), r.lookup? name = some d →
      (d.isIdentity = true ↔ ∀ q, (r.evaluate name q j).1.map Evaluated.value = some q)) ∧
    (d.isIdentity = true → ∃ run : Bytes → Bytes,
      (∀ q j, (Query.filterM d.shouldKeep q j).1 = run q) ∧
      ∀ q, Query.keyedSegments (run q) = Query.keyedSegments q ∧
        (run q = q ↔ Query.Tidy q) ∧
        (Query.Tidy q ↔ q = [] ∨ [] ∉ q.splitOn Query.separator)) := by
  constructor
  · intro r name j found
    rw [d.isIdentity_iff]
    apply forall_congr'
    intro q
    rw [evaluate_filtered found q j]
    simp
  · intro hd
    refine ⟨_, Definition.filterM_of_isIdentity hd, ?_⟩
    intro q
    refine ⟨?_, Query.join_segments_iff q, Query.tidy_iff q⟩
    rw [Query.keyedSegments, Query.segments_join_segments, Query.keyedSegments]

/-- Keeps every key, but by a rule. -/
def keepAny : Definition :=
  { initial := .all, rules := [⟨.keep, .literal (Bytes.ofString "x")⟩] }

def wholeAndAny : Registry := ⟨[("whole", { initial := .all }), ("any", keepAny)]⟩

theorem keepAny_keeps (key : Bytes) : keepAny.keeps key = true := by
  change Definition.decision true [_] key = true
  rw [Definition.decision_cons]
  exact ite_self _

/-- Of two definitions that keep every key only one is the identity. A query that is not tidy
tells them apart. -/
theorem wholeAndAny_differ :
    wholeAndAny.lookup? "whole" = some { initial := .all } ∧
    wholeAndAny.lookup? "any" = some keepAny ∧ (∀ key, keepAny.keeps key = true) ∧
    (∀ q j, (wholeAndAny.evaluate "whole" q j).1.map Evaluated.value = some q) ∧
    (∀ j, ∃ q, (wholeAndAny.evaluate "any" q j).1.map Evaluated.value ≠ some q) ∧
    (∀ j, (Query.filterM (Definition.shouldKeep { initial := .all }) (Bytes.ofString "a&b") j).1 =
      Bytes.ofString "a&b") ∧
    ∀ j, (Query.filterM (Definition.shouldKeep { initial := .all }) (Bytes.ofString "a&") j).1 ≠
      Bytes.ofString "a&" := by
  have whole : wholeAndAny.lookup? "whole" = some { initial := .all } := rfl
  have any : wholeAndAny.lookup? "any" = some keepAny := rfl
  obtain ⟨fast, plain⟩ := just_the_identity_changes_no_query { initial := .all }
  obtain ⟨fastAny, -⟩ := just_the_identity_changes_no_query keepAny
  obtain ⟨run, runs, law⟩ := plain rfl
  have tidy : Query.Tidy (Bytes.ofString "a&b") :=
    ((law _).2.2).mpr (.inr (by decide))
  have untidy : ¬ Query.Tidy (Bytes.ofString "a&") := fun h => h.2.1 rfl
  refine ⟨whole, any, keepAny_keeps, ?_, ?_, ?_, ?_⟩
  · exact fun q j => (fast wholeAndAny "whole" j whole).mp rfl q
  · intro j
    have other : ¬ keepAny.isIdentity = true := by decide
    rw [fastAny wholeAndAny "any" j any] at other
    exact Classical.not_forall.mp other
  · intro j
    rw [runs, (law _).2.1]
    exact tidy
  · intro j
    rw [runs, ne_eq, (law _).2.1]
    exact untidy

end Registry

end QuerySieve
