-- The laws of tables of pairs. A table has each key once. Made of pairs that repeat keys, it
-- has the value of the last pair of each. The table of a ledger stays in step with the pairs that
-- the ledger remembers.
import Mathlib.Data.List.Forall2
import QuerySieve.Value

namespace QuerySieve

namespace Pairs

variable {α : Type}

/-- No key stands in the table twice. -/
def Distinct (ps : List (Text × α)) : Prop := (ps.map (·.1)).Nodup

/-! ## Finding a key -/

theorem find?_cons (key : Text) (p : Text × α) (ps : List (Text × α)) :
    find? key (p :: ps) = if p.1 = key then some p.2 else find? key ps := by
  unfold find?
  by_cases hp : p.1 = key
  · simp [hp]
  · simp [hp]

theorem find?_append (key : Text) (ps qs : List (Text × α)) :
    find? key (ps ++ qs) = (find? key ps).or (find? key qs) := by
  rw [find?, List.find?_append, Option.map_or]
  rfl

theorem find?_eq_some_iff {ps : List (Text × α)} (distinct : Distinct ps) (key : Text)
    (value : α) : find? key ps = some value ↔ (key, value) ∈ ps := by
  induction ps with
  | nil => simp [find?]
  | cons p ps ih =>
    obtain ⟨k, v⟩ := p
    rw [Distinct, List.map_cons, List.nodup_cons] at distinct
    obtain ⟨fresh, distinct⟩ := distinct
    rw [find?_cons, List.mem_cons]
    by_cases hk : k = key
    · subst hk
      have hmem : (k, value) ∉ ps := fun h => fresh (List.mem_map.mpr ⟨_, h, rfl⟩)
      simp [hmem, eq_comm]
    · rw [if_neg hk, ih distinct]
      simp [Ne.symm hk]

theorem mem_of_find? {key : Text} {value : α} {ps : List (Text × α)}
    (h : find? key ps = some value) : (key, value) ∈ ps := by
  obtain ⟨p, hp, rfl⟩ := Option.map_eq_some_iff.mp h
  have hkey := List.find?_some hp
  rw [decide_eq_true_eq] at hkey
  subst hkey
  exact List.mem_of_find?_eq_some hp

theorem find?_eq_none {key : Text} {ps : List (Text × α)} (h : key ∉ ps.map (·.1)) :
    find? key ps = none := by
  cases hfind : find? key ps with
  | none => rfl
  | some value => exact absurd (List.mem_map.mpr ⟨_, mem_of_find? hfind, rfl⟩) h

theorem last?_cons (key : Text) (p : Text × α) (ps : List (Text × α)) :
    last? key (p :: ps) = (last? key ps).or (if p.1 = key then some p.2 else none) := by
  rw [last?, List.reverse_cons, find?_append, find?_cons]
  rfl

theorem last?_concat (key : Text) (ps : List (Text × α)) (p : Text × α) :
    last? key (ps ++ [p]) = if p.1 = key then some p.2 else last? key ps := by
  rw [last?, List.reverse_append, List.reverse_singleton, List.singleton_append, find?_cons]
  rfl

/-! ## Putting in a key -/

variable {key : Text} {value : α} {ps : List (Text × α)}

theorem put_of_notMem (h : key ∉ ps.map (·.1)) : put key value ps = ps ++ [(key, value)] := by
  induction ps with
  | nil => rfl
  | cons p ps ih =>
    simp only [List.map_cons, List.mem_cons, not_or] at h
    obtain ⟨hp, hps⟩ := h
    rw [put, if_neg (Ne.symm hp), ih hps]
    rfl

theorem find?_put (k : Text) :
    find? k (put key value ps) = if key = k then some value else find? k ps := by
  induction ps with
  | nil => exact find?_cons k (key, value) []
  | cons p ps ih =>
    rw [put]
    by_cases hp : p.1 = key
    · rw [if_pos hp, find?_cons, find?_cons, hp]
      by_cases hk : key = k
      · simp [hk]
      · simp [hk]
    · rw [if_neg hp, find?_cons, find?_cons, ih]
      by_cases hk : key = k
      · subst hk
        simp [hp]
      · simp [hk]

theorem keys_put_of_mem (h : key ∈ ps.map (·.1)) :
    (put key value ps).map (·.1) = ps.map (·.1) := by
  induction ps with
  | nil => cases h
  | cons p ps ih =>
    rw [put]
    by_cases hp : p.1 = key
    · simp [hp]
    · have hmem : key ∈ ps.map (·.1) := (List.mem_cons.mp h).resolve_left (Ne.symm hp)
      rw [if_neg hp, List.map_cons, List.map_cons, ih hmem]

theorem distinct_put (h : Distinct ps) : Distinct (put key value ps) := by
  by_cases hmem : key ∈ ps.map (·.1)
  · rw [Distinct, keys_put_of_mem hmem]
    exact h
  · rw [put_of_notMem hmem, Distinct, List.map_append, List.nodup_append]
    refine ⟨h, List.pairwise_singleton _ key, ?_⟩
    intro k hk key' hkey he
    have hsame : k = key := he.trans (List.mem_singleton.mp hkey)
    exact hmem (hsame ▸ hk)

/-! ## The table of a list of pairs -/

theorem find?_foldl_put (key : Text) (ps acc : List (Text × α)) :
    find? key (ps.foldl (fun acc p => put p.1 p.2 acc) acc) =
      (last? key ps).or (find? key acc) := by
  induction ps generalizing acc with
  | nil => rfl
  | cons p ps ih =>
    rw [List.foldl_cons, ih, find?_put, last?_cons, Option.or_assoc]
    by_cases hp : p.1 = key
    · simp [hp]
    · simp [hp]

/-- In a table the last pair of a key wins. -/
theorem find?_table (key : Text) (ps : List (Text × α)) : find? key (table ps) = last? key ps := by
  rw [table, find?_foldl_put]
  exact Option.or_none

theorem distinct_foldl_put (ps : List (Text × α)) {acc : List (Text × α)} (h : Distinct acc) :
    Distinct (ps.foldl (fun acc p => put p.1 p.2 acc) acc) := by
  induction ps generalizing acc with
  | nil => exact h
  | cons p ps ih => exact ih (distinct_put h)

theorem distinct_table (ps : List (Text × α)) : Distinct (table ps) :=
  distinct_foldl_put ps List.nodup_nil

theorem mem_of_mem_table {ps : List (Text × α)} {p : Text × α} (h : p ∈ table ps) : p ∈ ps := by
  have hfind := (find?_eq_some_iff (distinct_table ps) p.1 p.2).mpr h
  rw [find?_table] at hfind
  exact List.mem_reverse.mp (mem_of_find? hfind)

theorem foldl_put_of_distinct {ps acc : List (Text × α)} (h : Distinct (acc ++ ps)) :
    ps.foldl (fun acc p => put p.1 p.2 acc) acc = acc ++ ps := by
  induction ps generalizing acc with
  | nil => exact (List.append_nil acc).symm
  | cons p ps ih =>
    have hfresh : p.1 ∉ acc.map (·.1) := by
      rw [Distinct, List.map_append, List.nodup_append] at h
      exact fun hmem => h.2.2 _ hmem _ List.mem_cons_self rfl
    rw [List.append_cons] at h
    rw [List.foldl_cons, put_of_notMem hfresh, ih h, ← List.append_cons]

/-- Pairs without repeated keys are their own table. -/
theorem table_of_distinct (h : Distinct ps) : table ps = ps := by
  have happend : Distinct ([] ++ ps) := h
  exact foldl_put_of_distinct happend

theorem last?_of_distinct (h : Distinct ps) (key : Text) : last? key ps = find? key ps := by
  rw [← find?_table, table_of_distinct h]

/-- Two pairs of one key, with values in a relation. -/
structure Alike {β : Type} (R : Text → α → β → Prop) (p : Text × α) (q : Text × β) : Prop where
  key : p.1 = q.1
  value : R p.1 p.2 q.2

theorem forall₂_put {β : Type} {R : Text → α → β → Prop} {qs : List (Text × β)}
    (h : List.Forall₂ (Alike R) ps qs) {a : α} {b : β} (hab : R key a b) :
    List.Forall₂ (Alike R) (put key a ps) (put key b qs) := by
  induction h with
  | nil => exact .cons ⟨rfl, hab⟩ .nil
  | @cons p q ps qs hpq more ih =>
    rw [put, put, ← hpq.key]
    by_cases hp : p.1 = key
    · subst hp
      rw [if_pos rfl, if_pos rfl]
      exact .cons ⟨rfl, hab⟩ more
    · rw [if_neg hp, if_neg hp]
      exact .cons ⟨rfl, hpq.value⟩ ih

/-- Pairs that are alike one by one have tables that are. -/
theorem forall₂_table {β : Type} {R : Text → α → β → Prop} {qs : List (Text × β)}
    (h : List.Forall₂ (Alike R) ps qs) : List.Forall₂ (Alike R) (table ps) (table qs) := by
  have hfold : ∀ {acc acc'}, List.Forall₂ (Alike R) acc acc' →
      List.Forall₂ (Alike R) (ps.foldl (fun acc p => put p.1 p.2 acc) acc)
        (qs.foldl (fun acc p => put p.1 p.2 acc) acc') := by
    induction h with
    | nil => exact id
    | cons hpq _ ih =>
      intro acc acc' hacc
      rw [List.foldl_cons, List.foldl_cons, ← hpq.key]
      exact ih (forall₂_put hacc hpq.value)
  exact hfold .nil

/-- Two lists without repeated keys are the same if they have the same keys in the same order, and
the same value for each. -/
theorem eq_of_find? {ps qs : List (Text × α)} (hps : Distinct ps) (hqs : Distinct qs)
    (keys : ps.map (·.1) = qs.map (·.1)) (values : ∀ key, find? key ps = find? key qs) :
    ps = qs := by
  induction ps generalizing qs with
  | nil => exact (List.map_eq_nil_iff.mp keys.symm).symm
  | cons p ps ih =>
    cases qs with
    | nil => cases keys
    | cons q qs =>
      obtain ⟨hkey, hkeys⟩ : p.1 = q.1 ∧ ps.map (·.1) = qs.map (·.1) := List.cons.inj keys
      rw [Distinct, List.map_cons, List.nodup_cons] at hps hqs
      rw [← hkey] at hqs
      have hvalue := values p.1
      rw [find?_cons, find?_cons, if_pos rfl, if_pos hkey.symm] at hvalue
      have hrest : ps = qs := by
        refine ih hps.2 hqs.2 hkeys fun key => ?_
        by_cases hp : p.1 = key
        · subst hp
          rw [find?_eq_none hps.1, find?_eq_none hqs.1]
        · have hsame := values key
          rwa [find?_cons, find?_cons, ← hkey, if_neg hp, if_neg hp] at hsame
      rw [Prod.ext hkey (Option.some.inj hvalue), hrest]

end Pairs

/-! ## Ledgers -/

namespace Ledger

open Pairs

variable {α : Type} {l : Ledger α}

/-- The table says what the pairs say: it has each key once, where the key came first, with the
value that came last. -/
structure InStep (l : Ledger α) : Prop where
  once : Distinct l.table
  last : ∀ key, find? key l.table = last? key l.pairs
  order : l.table.map (·.1) = (l.pairs.map (·.1)).eraseDups

theorem inStep_empty : ({} : Ledger α).InStep := ⟨List.nodup_nil, fun _ => rfl, rfl⟩

theorem eraseDups_concat_of_mem {keys : List Text} {key : Text} (h : key ∈ keys) :
    (keys ++ [key]).eraseDups = keys.eraseDups := by
  rw [List.eraseDups_append]
  simp [List.removeAll, h]

theorem eraseDups_concat_of_notMem {keys : List Text} {key : Text} (h : key ∉ keys) :
    (keys ++ [key]).eraseDups = keys.eraseDups ++ [key] := by
  rw [List.eraseDups_append]
  simp [List.removeAll, h, List.eraseDups_cons]

/-- A pair that is added goes into both stores, so they stay in step. -/
theorem InStep.add (h : l.InStep) (key : Text) (value : α) : (l.add key value).InStep := by
  refine ⟨distinct_put h.once, ?_, ?_⟩
  · intro k
    change find? k (put key value l.table) = last? k (l.pairs ++ [(key, value)])
    rw [find?_put, last?_concat, h.last]
  · change (put key value l.table).map (·.1) = ((l.pairs ++ [(key, value)]).map (·.1)).eraseDups
    rw [List.map_append, List.map_singleton]
    by_cases hkey : key ∈ l.pairs.map (·.1)
    · have old : key ∈ l.table.map (·.1) := by rwa [h.order, List.mem_eraseDups]
      rw [keys_put_of_mem old, eraseDups_concat_of_mem hkey, h.order]
    · have fresh : key ∉ l.table.map (·.1) := by rwa [h.order, List.mem_eraseDups]
      rw [put_of_notMem fresh, eraseDups_concat_of_notMem hkey, List.map_append, h.order]
      rfl

/-- Ledgers in step that remember the same pairs have the same table. -/
theorem InStep.table_unique {l l' : Ledger α} (h : l.InStep) (h' : l'.InStep)
    (same : l.pairs = l'.pairs) : l.table = l'.table := by
  refine eq_of_find? h.once h'.once ?_ fun key => ?_
  · rw [h.order, h'.order, same]
  · rw [h.last, h'.last, same]

/-- The ledger that pairs make up, added one after another. -/
def ofPairs (ps : List (Text × α)) : Ledger α := ps.foldl (fun l p => l.add p.1 p.2) {}

theorem foldl_add (l : Ledger α) (ps : List (Text × α)) :
    ps.foldl (fun l p => l.add p.1 p.2) l =
      ⟨ps.foldl (fun acc p => put p.1 p.2 acc) l.table, l.pairs ++ ps⟩ := by
  induction ps generalizing l with
  | nil => rw [List.append_nil]; rfl
  | cons p ps ih => rw [List.foldl_cons, ih, add, List.append_assoc]; rfl

theorem ofPairs_eq (ps : List (Text × α)) : ofPairs ps = ⟨Pairs.table ps, ps⟩ := foldl_add {} ps

theorem InStep.foldl_add (h : l.InStep) (ps : List (Text × α)) :
    (ps.foldl (fun l p => l.add p.1 p.2) l).InStep := by
  induction ps generalizing l with
  | nil => exact h
  | cons p ps ih => exact ih (h.add p.1 p.2)

theorem inStep_ofPairs (ps : List (Text × α)) : (ofPairs ps).InStep := inStep_empty.foldl_add ps

/-- In step, the table is the table of the pairs. -/
theorem InStep.table_eq (h : l.InStep) : l.table = Pairs.table l.pairs := by
  have same := h.table_unique (inStep_ofPairs l.pairs)
  rw [ofPairs_eq] at same
  exact same rfl

end Ledger

/-! ## Mappings -/

namespace Value

/-- The value is a mapping that lists these pairs: those of its table, or all that it remembers,
with which its table is in step. -/
inductive Lists : Value → List (Text × Value) → Prop
  | map {pairs : List (Text × Value)} : Lists (.map pairs) (Pairs.table pairs)
  | ledger {l : Ledger Value} (step : l.InStep) : Lists (.ledger l.table l.pairs) l.pairs

variable {v : Value} {pairs : List (Text × Value)}

theorem Lists.pairs?_eq (h : v.Lists pairs) : v.pairs? = some pairs := by
  cases h <;> rfl

theorem Lists.get?_eq (h : v.Lists pairs) (key : Text) : v.get? key = Pairs.last? key pairs := by
  cases h with
  | map => rw [Pairs.last?_of_distinct (Pairs.distinct_table _), Pairs.find?_table]; rfl
  | ledger step => exact (Pairs.last?_of_distinct step.once key).trans (step.last key)

/-- The mapping that pairs make up: a ledger, or their table. -/
def ofPairs (remembers : Bool) (pairs : List (Text × Value)) : Value :=
  if remembers then .ledger (Ledger.ofPairs pairs).table (Ledger.ofPairs pairs).pairs
  else .map pairs

theorem lists_ofPairs (remembers : Bool) (pairs : List (Text × Value)) :
    (ofPairs remembers pairs).Lists (if remembers then pairs else Pairs.table pairs) := by
  cases remembers with
  | false => exact .map
  | true =>
    have lists : (ofPairs true pairs).Lists (Ledger.ofPairs pairs).pairs :=
      .ledger (Ledger.inStep_ofPairs pairs)
    rwa [Ledger.ofPairs_eq] at lists

end Value

end QuerySieve
