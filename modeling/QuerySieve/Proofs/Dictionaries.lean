-- The laws of documents without repeated keys. A document whose mappings are tables says the
-- same as one that keeps its repeated keys, as long as the names that count are not repeated.
import QuerySieve.Proofs.Shapes
import QuerySieve.Proofs.Tables

namespace QuerySieve

/-! ## Tables of values -/

namespace Pairs

variable {α β : Type}

/-- The pairs with their values changed. -/
def mapValues (f : α → β) (ps : List (Text × α)) : List (Text × β) := ps.map fun p => (p.1, f p.2)

theorem forall₂_mapValues_iff (f : α → β) (ps : List (Text × α)) (qs : List (Text × β)) :
    List.Forall₂ (Alike fun _ a b => b = f a) ps qs ↔ qs = mapValues f ps := by
  constructor
  · intro h
    induction h with
    | nil => rfl
    | @cons p q ps qs hp _ ih =>
      have pair : q = (p.1, f p.2) := Prod.ext hp.key.symm hp.value
      rw [ih, pair]
      rfl
  · rintro rfl
    rw [mapValues, List.forall₂_map_right_iff, List.forall₂_same]
    exact fun _ _ => ⟨rfl, rfl⟩

/-- The table of changed values is the changed table. -/
theorem table_mapValues (f : α → β) (ps : List (Text × α)) :
    table (mapValues f ps) = mapValues f (table ps) := by
  rw [← forall₂_mapValues_iff]
  exact forall₂_table ((forall₂_mapValues_iff f ps _).mpr rfl)

theorem table_table (ps : List (Text × α)) : table (table ps) = table ps :=
  table_of_distinct (distinct_table ps)

end Pairs

namespace Value

mutual

/-- The value with each mapping as its table, which remembers nothing. -/
def dict : Value → Value
  | .list items => .list (dictItems items)
  | .map pairs | .ledger pairs _ => .map (Pairs.table (dictPairs pairs))
  | v => v

def dictItems : List Value → List Value
  | [] => []
  | v :: vs => v.dict :: dictItems vs

def dictPairs : List (Text × Value) → List (Text × Value)
  | [] => []
  | (k, v) :: ps => (k, v.dict) :: dictPairs ps

end

theorem dictItems_eq_map (vs : List Value) : dictItems vs = vs.map dict := by
  induction vs with
  | nil => rfl
  | cons v vs ih => rw [dictItems, ih, List.map_cons]

theorem dictPairs_eq_mapValues (ps : List (Text × Value)) :
    dictPairs ps = Pairs.mapValues dict ps := by
  induction ps with
  | nil => rfl
  | cons p ps ih => rw [dictPairs, ih]; rfl

theorem dict_map (pairs : List (Text × Value)) :
    (map pairs).dict = .map (Pairs.mapValues dict (Pairs.table pairs)) := by
  rw [dict, dictPairs_eq_mapValues, Pairs.table_mapValues]

theorem dict_ledger (table pairs : List (Text × Value)) :
    (ledger table pairs).dict = (map table).dict := by
  rw [dict, dict]

/-- A mapping that remembers nothing lists the table of its pairs. -/
theorem lists_dict {v : Value} {pairs : List (Text × Value)} (h : v.Lists pairs) :
    v.dict.Lists (Pairs.mapValues dict (Pairs.table pairs)) := by
  have tables : ∀ ps, (map ps).dict.Lists (Pairs.mapValues dict (Pairs.table ps)) := by
    intro ps
    have lists := @Lists.map (Pairs.mapValues dict (Pairs.table ps))
    rwa [Pairs.table_mapValues, Pairs.table_table, ← dict_map] at lists
  cases h with
  | @map ps =>
    rw [Pairs.table_table]
    exact tables ps
  | @ledger l step =>
    have lists := tables (Pairs.table l.pairs)
    rw [Pairs.table_table] at lists
    rwa [dict_ledger, step.table_eq]

theorem exists_pairs_dict {v : Value} {pairs : List (Text × Value)} (h : v.pairs? = some pairs) :
    ∃ pairs', v.dict.pairs? = some pairs' := by
  cases v with
  | map pairs => rw [dict_map]; exact ⟨_, rfl⟩
  | ledger table pairs => rw [dict_ledger, dict_map]; exact ⟨_, rfl⟩
  | _ => cases h

theorem dict_list (items : List Value) : (list items).dict = .list (items.map dict) := by
  rw [dict, dictItems_eq_map]

theorem shownPairs_eq_mapValues (ps : List (Text × Value)) :
    shownPairs ps = Pairs.mapValues shown ps := by
  induction ps with
  | nil => rfl
  | cons p ps ih => rw [shownPairs, ih]; rfl

theorem shownItems_eq_map (vs : List Value) : shownItems vs = vs.map shown := by
  induction vs with
  | nil => rfl
  | cons v vs ih => rw [shownItems, ih, List.map_cons]

/-- Messages do not show pairs that are not in the table. -/
theorem shown_dict (v : Value) : v.dict.shown = v.shown := by
  cases hv : v with
  | list items =>
    have hitems : (items.map dict).map shown = items.map shown := by
      rw [List.map_map]
      exact List.map_congr_left fun w mem => shown_dict w
    rw [dict_list, shown, shown, shownItems_eq_map, shownItems_eq_map, hitems]
  | map pairs =>
    have hpairs : Pairs.mapValues shown (Pairs.mapValues dict pairs) =
        Pairs.mapValues shown pairs := by
      simp only [Pairs.mapValues, List.map_map]
      exact List.map_congr_left fun p mem => by simp [shown_dict p.2]
    rw [dict_map, shown, shown, shownPairs_eq_mapValues, shownPairs_eq_mapValues,
      ← Pairs.table_mapValues, ← Pairs.table_mapValues, Pairs.table_table, hpairs]
  | ledger table pairs =>
    rw [dict_ledger, shown_dict (map table), shown, shown]
  | _ => rfl
termination_by sizeOf v
decreasing_by
  · have size := List.sizeOf_lt_of_mem mem
    simp only [list.sizeOf_spec]
    omega
  · have size := List.sizeOf_lt_of_mem mem
    obtain ⟨key, w⟩ := p
    simp only [map.sizeOf_spec, Prod.mk.sizeOf_spec] at size ⊢
    omega
  · have size : 0 < sizeOf pairs := by
      cases pairs <;> simp only [List.nil.sizeOf_spec, List.cons.sizeOf_spec] <;> omega
    simp only [map.sizeOf_spec, ledger.sizeOf_spec]
    omega

end Value

namespace Document

open Reading

/-! ## Documents of tables -/

/-- The value is no mapping, or one that repeats no name. -/
def Unrepeated (root : Value) : Prop :=
  ∀ bs, root.pairs? = some bs → root.Lists bs ∧ Pairs.Distinct bs

/-- The root key stands at most once, and the mapping under it repeats no name. -/
inductive NamesOnce : Value → Prop
  | noMapping {v : Value} (noMap : v.pairs? = none) : NamesOnce v
  | mapping {v : Value} {pairs : List (Text × Value)} (lists : v.Lists pairs)
      (once : (roots pairs).length ≤ 1) (names : ∀ root ∈ roots pairs, Unrepeated root) :
      NamesOnce v

theorem texts?_dict (items : List Value) : texts? (items.map Value.dict) = texts? items := by
  induction items with
  | nil => rfl
  | cons v items ih =>
    rw [List.map_cons]
    cases v with
    | text t => exact congrArg (Option.map (t :: ·)) ih
    | _ => rfl

theorem directive_of_pairs (block : Text) {e : Value} {pairs : List (Text × Value)}
    (h : e.pairs? = some pairs) : directive block e = .error (.notDirective e block) := by
  cases e with
  | map | ledger => rfl
  | _ => cases h

/-- An entry of tables says the same, and is refused with the same message. -/
theorem directive_dict (block : Text) (e : Value) :
    (directive block e.dict).mapError Fault.failure =
      (directive block e).mapError Fault.failure := by
  have shown := Value.shown_dict e
  cases mapping : e.pairs? with
  | some pairs =>
    obtain ⟨pairs', mapping'⟩ := Value.exists_pairs_dict mapping
    rw [directive_of_pairs block mapping, directive_of_pairs block mapping']
    simp [Except.mapError, Fault.failure, Fault.message, Fault.cause, shown]
  | none =>
    cases e with
    | list items =>
      rw [Value.dict_list] at shown ⊢
      simp only [directive, entryWords, texts?_dict]
      cases texts? items with
      | some words => rfl
      | none => simp [Except.mapError, Fault.failure, Fault.message, Fault.cause, shown]
    | map | ledger => cases mapping
    | _ => rfl

theorem block_dict (name : Text) (v : Value) :
    (block name v.dict).mapError Fault.failure = (block name v).mapError Fault.failure := by
  cases v with
  | list items =>
    rw [Value.dict_list, block_list, block_list, mapError_map, mapError_map, List.mapM_map,
      mapError_mapM, mapError_mapM]
    congr 2
    exact funext (directive_dict name)
  | map pairs => rw [Value.dict_map]; rfl
  | ledger table pairs => rw [Value.dict_ledger, Value.dict_map]; rfl
  | _ => rfl

theorem length_roots_of_distinct {ps : List (Text × Value)} (h : Pairs.Distinct ps) :
    (roots ps).length ≤ 1 := by
  have hcount : (ps.map (·.1)).count rootKey = (roots ps).length := by
    rw [length_roots, List.count, List.countP_map]
    exact List.countP_congr fun p _ => by simp
  rw [← hcount]
  exact List.nodup_iff_count.mp h rootKey

theorem find?_rootKey (ps : List (Text × Value)) :
    Pairs.find? rootKey ps = (roots ps).head? := by
  rw [Pairs.find?, roots, List.head?_map, List.head?_filter]

/-- With the root key only once, the table has the same value under it. -/
theorem roots_table {pairs : List (Text × Value)} (once : (roots pairs).length ≤ 1) :
    roots (Pairs.table pairs) = roots pairs := by
  have hvalue : (roots (Pairs.table pairs)).head? = (roots pairs).getLast? := by
    rw [← find?_rootKey, Pairs.find?_table, last?_rootKey]
  have htable := length_roots_of_distinct (Pairs.distinct_table pairs)
  generalize roots (Pairs.table pairs) = found at hvalue htable ⊢
  generalize roots pairs = values at hvalue once ⊢
  rcases found with _ | ⟨root, _ | ⟨root', more⟩⟩
  · simpa [eq_comm] using hvalue
  · rcases values with _ | ⟨value, _ | ⟨value', more⟩⟩
    · simp at hvalue
    · simpa using hvalue
    · simp at once
  · simp at htable

theorem roots_mapValues (f : Value → Value) (pairs : List (Text × Value)) :
    roots (Pairs.mapValues f pairs) = (roots pairs).map f := by
  simp only [roots, Pairs.mapValues, List.filter_map, List.map_map]
  rfl

theorem rootBlocks_dict {root : Value} (names : Unrepeated root) :
    (rootBlocks root.dict).mapError Fault.failure = (rootBlocks root).mapError Fault.failure := by
  cases found : root.pairs? with
  | none =>
    cases root with
    | map | ledger => cases found
    | list items => rw [Value.dict_list]; rfl
    | _ => rfl
  | some bs =>
    obtain ⟨lists, distinct⟩ := names bs found
    rw [rootBlocks_of_pairs (Value.lists_dict lists).pairs?_eq, rootBlocks_of_pairs found,
      Pairs.table_of_distinct distinct, Pairs.mapValues, List.mapM_map, mapError_mapM,
      mapError_mapM]
    congr 1
    exact funext fun p => block_dict p.1 p.2

theorem blocks_dict {v : Value} (h : NamesOnce v) :
    (blocks v.dict).mapError Fault.failure = (blocks v).mapError Fault.failure := by
  cases h with
  | noMapping noMap =>
    cases v with
    | map | ledger => cases noMap
    | list items => rw [Value.dict_list]; rfl
    | _ => rfl
  | @mapping pairs lists once names =>
    rw [blocks_of_lists (Value.lists_dict lists), blocks_of_lists lists, roots_mapValues,
      roots_table once]
    generalize roots pairs = values at once names ⊢
    rcases values with _ | ⟨root, _ | ⟨root', more⟩⟩
    · rfl
    · exact rootBlocks_dict (names root (List.mem_singleton_self root))
    · simp at once

-- The table of a mapping that repeats a name has lost a block.
example :
    let v : Value := .ofPairs true
      [(rootKey, .ofPairs true [("$a", .list []), ("$b", .null), ("$a", .null)])]
    (blocks v).map List.length = .ok 3 ∧ (blocks v.dict).map List.length = .ok 2 :=
  ⟨rfl, rfl⟩

end Document

end QuerySieve
