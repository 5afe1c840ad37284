-- The laws of reading a tree with every scalar as its text. Each mapping of the tree remembers all
-- its pairs, in the order they stand, and its table stays in step with them. A tree that cannot be
-- read has a key that is no scalar, or an alias inside the node that it names.
import QuerySieve.Proofs.Readings
import QuerySieve.Proofs.Tables
import QuerySieve.Yaml.Plain

namespace QuerySieve.Yaml.Node

open Reading

/-! ## Parts of a tree -/

/-- The text of a scalar. -/
def text? : Node → Option Text
  | .scalar _ _ text _ => some text
  | _ => none

/-- The pairs of a mapping, in the order they stand. -/
def pairs : Node → List (Node × Node)
  | .map _ pairs _ => pairs
  | _ => []

/-- The values of a key of a mapping. -/
def under (key : Text) (n : Node) : List Node :=
  (n.pairs.filter fun p => p.1.text? = some key).map (·.2)

/-- A node stands in a tree, at its root or deeper. -/
inductive Occurs : Node → Node → Prop
  | here {n : Node} : Occurs n n
  | item {m n : Node} {tag : Option Text} {items : List Node} {start : Mark}
      (mem : n ∈ items) (inside : Occurs m n) : Occurs m (.list tag items start)
  | key {m : Node} {p : Node × Node} {tag : Option Text} {pairs : List (Node × Node)}
      {start : Mark} (mem : p ∈ pairs) (inside : Occurs m p.1) : Occurs m (.map tag pairs start)
  | value {m : Node} {p : Node × Node} {tag : Option Text} {pairs : List (Node × Node)}
      {start : Mark} (mem : p ∈ pairs) (inside : Occurs m p.2) : Occurs m (.map tag pairs start)

/-! ## What is read -/

theorem plainItems_eq_mapM (ns : List Node) : plainItems ns = ns.mapM plain := by
  induction ns with
  | nil => rfl
  | cons n ns ih => rw [plainItems, List.mapM_cons, ih]

/-- The pair that is read from a pair of a mapping that starts at a mark. -/
def plainPair (start : Mark) (p : Node × Node) : Except Fault (Text × Value) := do
  let key ← keyText start p.1.start (← plain p.1)
  let v ← plain p.2
  return (key, v)

/-- One pair is read and added before the others. -/
theorem plainPairs_cons (start : Mark) (l : Ledger Value) (p : Node × Node)
    (ps : List (Node × Node)) :
    plainPairs start l (p :: ps) =
      plainPair start p >>= fun q => plainPairs start (l.add q.1 q.2) ps := by
  simp only [plainPairs, plainPair, bind_assoc, pure_bind]

theorem plain_map (tag : Option Text) (pairs : List (Node × Node)) (start : Mark) :
    plain (.map tag pairs start) = (plainPairs start {} pairs).map fun l =>
      .ledger l.table l.pairs := by
  rw [plain]
  rfl

theorem plain_eq_text {n : Node} {t : Text} : plain n = .ok (.text t) ↔ n.text? = some t := by
  cases n with
  | scalar => simp [plain, text?]
  | list tag items start =>
    simp only [plain, text?, reduceCtorEq, iff_false]
    intro h
    obtain ⟨_, _, ⟨⟩⟩ := map_eq_ok h
  | map tag pairs start =>
    simp only [plain_map, text?, reduceCtorEq, iff_false]
    intro h
    obtain ⟨_, _, ⟨⟩⟩ := map_eq_ok h
  | loop => simp [plain, text?, refuse]

theorem keyText_eq_ok {mapStart keyStart : Mark} {v : Value} {t : Text}
    (h : keyText mapStart keyStart v = .ok t) : v = .text t := by
  cases v with
  | text => cases h; rfl
  | _ => cases h

/-- A pair of a mapping, and the pair that is read from it. -/
structure PairReads (p : Node × Node) (q : Text × Value) : Prop where
  key : p.1.text? = some q.1
  value : plain p.2 = .ok q.2

theorem plainPair_eq_ok {start : Mark} {p : Node × Node} {q : Text × Value}
    (h : plainPair start p = .ok q) : PairReads p q := by
  obtain ⟨w, hw, h⟩ := bind_eq_ok h
  obtain ⟨t, ht, h⟩ := bind_eq_ok h
  obtain ⟨v, hv, ⟨⟩⟩ := bind_eq_ok h
  cases keyText_eq_ok ht
  exact ⟨plain_eq_text.mp hw, hv⟩

/-- Pairs that are read are added one by one, and the two stores stay in step. -/
theorem plainPairs_eq_ok {start : Mark} {l l' : Ledger Value} {ps : List (Node × Node)}
    (h : plainPairs start l ps = .ok l') :
    ∃ qs, List.Forall₂ PairReads ps qs ∧ l'.pairs = l.pairs ++ qs ∧ (l.InStep → l'.InStep) := by
  induction ps generalizing l with
  | nil =>
    rw [plainPairs] at h
    cases h
    exact ⟨[], .nil, (List.append_nil _).symm, id⟩
  | cons p ps ih =>
    rw [plainPairs_cons] at h
    obtain ⟨q, hq, h⟩ := bind_eq_ok h
    obtain ⟨qs, reads, remembers, step⟩ := ih h
    refine ⟨q :: qs, .cons (plainPair_eq_ok hq) reads, ?_, fun hl => step (hl.add q.1 q.2)⟩
    rw [remembers, Ledger.add, List.append_assoc, List.singleton_append]

/-- A mapping is a ledger of its pairs, in the order they stand. -/
theorem plain_map_eq_ok {tag : Option Text} {pairs : List (Node × Node)} {start : Mark}
    {v : Value} (h : plain (.map tag pairs start) = .ok v) :
    ∃ l : Ledger Value, v = .ledger l.table l.pairs ∧ List.Forall₂ PairReads pairs l.pairs ∧
      l.InStep := by
  rw [plain_map] at h
  obtain ⟨l, hl, rfl⟩ := map_eq_ok h
  obtain ⟨qs, reads, remembers, step⟩ := plainPairs_eq_ok hl
  have same : l.pairs = qs := remembers
  exact ⟨l, rfl, same ▸ reads, step Ledger.inStep_empty⟩

theorem plain_list_eq_ok {tag : Option Text} {items : List Node} {start : Mark} {v : Value}
    (h : plain (.list tag items start) = .ok v) :
    ∃ vs, v = .list vs ∧ List.Forall₂ (fun n v => plain n = .ok v) items vs := by
  rw [plain, plainItems_eq_mapM] at h
  obtain ⟨vs, hvs, rfl⟩ := map_eq_ok h
  exact ⟨vs, rfl, forall₂_of_mapM hvs⟩

/-- With a tree, all that stands in it is read. -/
theorem Occurs.plain_eq_ok {m n : Node} {v : Value} (occurs : Occurs m n)
    (h : plain n = .ok v) : ∃ w, plain m = .ok w := by
  induction occurs generalizing v with
  | here => exact ⟨v, h⟩
  | item mem _ ih =>
    obtain ⟨vs, _, hvs⟩ := plain_list_eq_ok h
    obtain ⟨w, _, hw⟩ := exists_of_forall₂ hvs _ mem
    exact ih hw
  | key mem _ ih =>
    obtain ⟨l, _, reads, _⟩ := plain_map_eq_ok h
    obtain ⟨q, _, hq⟩ := exists_of_forall₂ reads _ mem
    exact ih (plain_eq_text.mpr hq.key)
  | value mem _ ih =>
    obtain ⟨l, _, reads, _⟩ := plain_map_eq_ok h
    obtain ⟨q, _, hq⟩ := exists_of_forall₂ reads _ mem
    exact ih hq.value

/-! ## What cannot be read -/

/-- The fault of a key that is no scalar, in a mapping that starts at a mark. -/
def unhashable (mapStart keyStart : Mark) : Fault :=
  .complaint ⟨.values, some (.buildingMapping, some mapStart), .unhashableKey, keyStart⟩

/-- The fault of an alias inside the node that it names, which starts at a mark. -/
def recursive (start : Mark) : Fault := .complaint ⟨.values, none, .recursiveNode, start⟩

/-- What stands in a tree that is refused for a fault. -/
inductive Refused (n : Node) : Fault → Prop
  | key {tag : Option Text} {pairs : List (Node × Node)} {start : Mark} {p : Node × Node}
      (mapping : Occurs (.map tag pairs start) n) (mem : p ∈ pairs) (noText : p.1.text? = none) :
      Refused n (unhashable start p.1.start)
  | loop {start : Mark} (loop : Occurs (.loop start) n) : Refused n (recursive start)

theorem Refused.within {m n : Node} {f : Fault} (h : Refused m f)
    (outer : ∀ k, Occurs k m → Occurs k n) : Refused n f := by
  cases h with
  | key mapping mem noText => exact .key (outer _ mapping) mem noText
  | loop loop => exact .loop (outer _ loop)

theorem keyText_eq_error {mapStart keyStart : Mark} {v : Value} {f : Fault}
    (h : keyText mapStart keyStart v = .error f) :
    (∀ t, v ≠ .text t) ∧ f = unhashable mapStart keyStart := by
  cases v with
  | text => cases h
  | _ => cases h; exact ⟨by simp, rfl⟩

theorem plainPair_eq_error {start : Mark} {p : Node × Node} {f : Fault}
    (h : plainPair start p = .error f) : plain p.1 = .error f ∨ plain p.2 = .error f ∨
      p.1.text? = none ∧ f = unhashable start p.1.start := by
  rcases bind_eq_error h with hk | ⟨w, hw, h⟩
  · exact Or.inl hk
  rcases bind_eq_error h with hkey | ⟨t, _, h⟩
  · obtain ⟨noText, hf⟩ := keyText_eq_error hkey
    refine Or.inr (Or.inr ⟨?_, hf⟩)
    rw [Option.eq_none_iff_forall_ne_some]
    intro t ht
    rw [plain_eq_text.mpr ht] at hw
    cases hw
    exact noText t rfl
  rcases bind_eq_error h with hv | ⟨v, _, ⟨⟩⟩
  exact Or.inr (Or.inl hv)

/-- Where pairs are refused, one of them is. -/
theorem plainPairs_eq_error {start : Mark} {l : Ledger Value} {ps : List (Node × Node)} {f : Fault}
    (h : plainPairs start l ps = .error f) : ∃ p ∈ ps, plainPair start p = .error f := by
  induction ps generalizing l with
  | nil =>
    rw [plainPairs] at h
    cases h
  | cons p ps ih =>
    rw [plainPairs_cons] at h
    rcases bind_eq_error h with hp | ⟨q, _, h⟩
    · exact ⟨p, List.mem_cons_self, hp⟩
    · obtain ⟨p', mem, hp'⟩ := ih h
      exact ⟨p', List.mem_cons_of_mem _ mem, hp'⟩

/-- Only a key that is no scalar and an alias inside its own node are refused. -/
theorem plain_eq_error {n : Node} {f : Fault} (h : plain n = .error f) : Refused n f := by
  cases hn : n with
  | scalar => subst hn; cases h
  | loop start => subst hn; cases h; exact .loop .here
  | list tag items start =>
    rw [hn, plain, plainItems_eq_mapM] at h
    obtain ⟨m, mem, hm⟩ := mem_of_mapM (map_eq_error h)
    exact (plain_eq_error hm).within fun _ => .item mem
  | map tag pairs start =>
    rw [hn, plain_map] at h
    obtain ⟨⟨k, v⟩, mem, hp⟩ := plainPairs_eq_error (map_eq_error h)
    rcases plainPair_eq_error hp with hk | hv | ⟨noText, rfl⟩
    · exact (plain_eq_error hk).within fun _ => .key mem
    · exact (plain_eq_error hv).within fun _ => .value mem
    · exact .key .here mem noText
termination_by sizeOf n
decreasing_by
  all_goals
    have size := List.sizeOf_lt_of_mem mem
    simp only [hn, Node.list.sizeOf_spec, Node.map.sizeOf_spec, Prod.mk.sizeOf_spec] at size ⊢
    omega

/-- A tree is read exactly if all its keys are scalars and none of its aliases is inside the
node that it names. -/
theorem exists_plain_iff (n : Node) : (∃ v, plain n = .ok v) ↔
    (∀ m, Occurs m n → ∀ p ∈ m.pairs, ∃ t, p.1.text? = some t) ∧
      ∀ start, ¬ Occurs (.loop start) n := by
  constructor
  · rintro ⟨v, hv⟩
    constructor
    · intro m occurs p mem
      cases m with
      | map tag pairs start =>
        obtain ⟨w, hw⟩ := occurs.plain_eq_ok hv
        obtain ⟨l, _, reads, _⟩ := plain_map_eq_ok hw
        obtain ⟨q, _, hq⟩ := exists_of_forall₂ reads p mem
        exact ⟨q.1, hq.key⟩
      | _ => cases mem
    · intro start occurs
      obtain ⟨w, hw⟩ := occurs.plain_eq_ok hv
      cases hw
  · rintro ⟨keys, loops⟩
    cases h : plain n with
    | ok v => exact ⟨v, rfl⟩
    | error f =>
      cases plain_eq_error h with
      | key mapping mem noText =>
        obtain ⟨t, ht⟩ := keys _ mapping _ mem
        rw [noText] at ht
        cases ht
      | loop loop => exact absurd loop (loops _)

end QuerySieve.Yaml.Node
