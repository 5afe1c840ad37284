-- The laws of whole rows of layers. A key has the value of the last layer that has it. If that is
-- a mapping, it is laid over the mappings right before it, down to the last value that is none:
-- such a value hides everything below it.
import Mathlib.Data.List.DropRight
import QuerySieve.Proofs.Layers

namespace QuerySieve.Layers

open Pairs

/-! ## Tables within tables -/

/-- Pairs without repeated keys, in the mappings inside them too. -/
inductive Unrepeated : List (Text × Value) → Prop
  | of {pairs : List (Text × Value)} (distinct : Distinct pairs)
      (inner : ∀ key nested, (key, .map nested) ∈ pairs → Unrepeated nested) : Unrepeated pairs

theorem Unrepeated.distinct {pairs : List (Text × Value)} (h : Unrepeated pairs) :
    Distinct pairs := by
  cases h with
  | of distinct inner => exact distinct

variable {below above : List (Text × Value)}

/-! ## The keys of a layer over another -/

theorem mem_keys_put {key k : Text} {v : Value} :
    k ∈ (put key v below).map (·.1) ↔ k = key ∨ k ∈ below.map (·.1) := by
  by_cases hmem : key ∈ below.map (·.1)
  · rw [keys_put_of_mem hmem]
    constructor
    · exact Or.inr
    · rintro (rfl | hk)
      · exact hmem
      · exact hk
  · rw [put_of_notMem hmem]
    simp [or_comm]

theorem mem_keys_lay {k : Text} :
    k ∈ (lay below above).map (·.1) ↔ k ∈ below.map (·.1) ∨ k ∈ above.map (·.1) := by
  induction above generalizing below with
  | nil => simp [lay]
  | cons p above ih =>
    rw [lay, ih, mem_keys_put, List.map_cons, List.mem_cons]
    tauto

/-- A layer that has no key of its own adds none. -/
theorem keys_lay_of_subset (h : ∀ k ∈ above.map (·.1), k ∈ below.map (·.1)) :
    (lay below above).map (·.1) = below.map (·.1) := by
  induction above generalizing below with
  | nil => rfl
  | cons p above ih =>
    have hkey : p.1 ∈ below.map (·.1) := h _ List.mem_cons_self
    have hkeys : (put p.1 (layValue (find? p.1 below) p.2) below).map (·.1) = below.map (·.1) :=
      keys_put_of_mem hkey
    rw [lay, ih, hkeys]
    intro k hk
    rw [hkeys]
    exact h k (List.mem_cons_of_mem _ hk)

/-! ## Layers that change nothing -/

/-- Laid over layers that have none of its keys, a layer is just put after them. -/
theorem lay_of_distinct (h : Distinct (below ++ above)) : lay below above = below ++ above := by
  induction above generalizing below with
  | nil => exact (List.append_nil below).symm
  | cons p above ih =>
    obtain ⟨k, v⟩ := p
    have hfresh : k ∉ below.map (·.1) := by
      rw [Distinct, List.map_append, List.nodup_append] at h
      exact fun hmem => h.2.2 k hmem k List.mem_cons_self rfl
    rw [List.append_cons] at h
    rw [lay, find?_eq_none hfresh, layValue_none, put_of_notMem hfresh, ih h, ← List.append_cons]

theorem lay_nil (h : Distinct above) : lay [] above = above := by
  have happend : Distinct ([] ++ above) := h
  exact lay_of_distinct happend

/-- Two tables with the same keys in the same places and the same values are one. -/
theorem eq_of_find? {ps qs : List (Text × Value)} (distinct : Distinct ps)
    (keys : qs.map (·.1) = ps.map (·.1)) (values : ∀ key, find? key qs = find? key ps) :
    qs = ps := by
  induction ps generalizing qs with
  | nil => exact List.map_eq_nil_iff.mp keys
  | cons p ps ih =>
    obtain ⟨fresh, distinct⟩ := List.nodup_cons.mp distinct
    cases qs with
    | nil => cases keys
    | cons q qs =>
      rw [List.map_cons, List.map_cons, List.cons.injEq] at keys
      obtain ⟨key, keys⟩ := keys
      have hvalue := values p.1
      rw [find?_cons, find?_cons, if_pos key, if_pos rfl] at hvalue
      have hhead : q = p := Prod.ext key (Option.some.inj hvalue)
      have htail : qs = ps := by
        refine ih distinct keys fun k => ?_
        by_cases hk : p.1 = k
        · subst hk
          rw [find?_eq_none (keys ▸ fresh), find?_eq_none fresh]
        · have hrest := values k
          rwa [find?_cons, find?_cons, key, if_neg hk, if_neg hk] at hrest
      rw [hhead, htail]

/-- A layer laid over itself is that layer. -/
theorem lay_self (h : Unrepeated above) : lay above above = above := by
  induction h with
  | @of pairs distinct inner ih =>
    apply eq_of_find? distinct
    · exact keys_lay_of_subset fun _ hk => hk
    · intro key
      rw [find?_lay distinct]
      cases hfind : find? key pairs with
      | none => rfl
      | some v =>
        change some (layValue (some v) v) = some v
        cases v with
        | map nested => exact congrArg (some ∘ Value.map) (ih key nested (mem_of_find? hfind))
        | _ => rw [layValue_of_not_map (by simp)]

/-! ## Rows of layers -/

theorem merge_append (layers more : List (List (Text × Value))) :
    merge (layers ++ more) = more.foldl lay (merge layers) := List.foldl_append

theorem merge_concat (layers : List (List (Text × Value))) (layer : List (Text × Value)) :
    merge (layers ++ [layer]) = lay (merge layers) layer := merge_append layers [layer]

theorem distinct_merge (layers : List (List (Text × Value))) : Distinct (merge layers) := by
  induction layers using List.reverseRecOn with
  | nil => exact List.nodup_nil
  | append_singleton layers layer ih =>
    rw [merge_concat]
    exact distinct_lay ih

theorem mem_keys_merge (layers : List (List (Text × Value))) (k : Text) :
    k ∈ (merge layers).map (·.1) ↔ ∃ layer ∈ layers, k ∈ layer.map (·.1) := by
  induction layers using List.reverseRecOn with
  | nil => simp [merge]
  | append_singleton layers layer ih =>
    rw [merge_concat, mem_keys_lay, ih]
    simp only [List.mem_append, List.mem_singleton, or_and_right, exists_or, exists_eq_left]

theorem merge_cons (layer : List (Text × Value)) (layers : List (List (Text × Value))) :
    merge (layer :: layers) = layers.foldl lay (lay [] layer) := rfl

/-- Any layers at the bottom may be laid over each other first. -/
theorem merge_merge (layers more : List (List (Text × Value))) :
    merge (merge layers :: more) = merge (layers ++ more) := by
  rw [merge_cons, lay_nil (distinct_merge layers), merge_append]

/-- An empty layer may stand anywhere. -/
theorem merge_empty (layers more : List (List (Text × Value))) :
    merge (layers ++ [] :: more) = merge (layers ++ more) := by
  rw [merge_append, merge_append, List.foldl_cons]
  rfl

/-! ## The values of a key -/

/-- The values that layers have for a key, the lowest first. -/
def valuesOf (key : Text) (layers : List (List (Text × Value))) : List Value :=
  layers.filterMap (find? key)

/-- The pairs of a mapping. -/
def mapping? : Value → Option (List (Text × Value))
  | .map pairs => some pairs
  | _ => none

/-- The mappings that values end with, from the last value on that is no mapping. -/
def trailing (vs : List Value) : List (List (Text × Value)) :=
  (vs.rtakeWhile fun v => (mapping? v).isSome).filterMap mapping?

/-- What the values of a key come to: the last one, and with a mapping all that they end
with. -/
def settled (vs : List Value) : Option Value :=
  vs.getLast?.map fun v =>
    match v with
    | .map _ => .map (merge (trailing vs))
    | v => v

theorem trailing_concat_map (vs : List Value) (pairs : List (Text × Value)) :
    trailing (vs ++ [.map pairs]) = trailing vs ++ [pairs] := by
  rw [trailing, List.rtakeWhile_concat_pos _ _ _ rfl, List.filterMap_append]
  rfl

theorem mapping?_of_not_map {v : Value} (h : ∀ pairs, v ≠ .map pairs) : mapping? v = none := by
  cases v with
  | map pairs => exact absurd rfl (h pairs)
  | _ => rfl

theorem trailing_concat_of_not_map (vs : List Value) {v : Value} (h : ∀ pairs, v ≠ .map pairs) :
    trailing (vs ++ [v]) = [] := by
  rw [trailing, List.rtakeWhile_concat_neg _ _ _ (by simp [mapping?_of_not_map h])]
  rfl

theorem settled_concat_map (vs : List Value) (pairs : List (Text × Value)) :
    settled (vs ++ [.map pairs]) = some (.map (lay (merge (trailing vs)) pairs)) := by
  rw [settled, List.getLast?_concat, trailing_concat_map, merge_concat]
  rfl

theorem settled_concat_of_not_map (vs : List Value) {v : Value} (h : ∀ pairs, v ≠ .map pairs) :
    settled (vs ++ [v]) = some v := by
  rw [settled, List.getLast?_concat]
  cases v with
  | map pairs => exact absurd rfl (h pairs)
  | _ => rfl

/-- One more value is laid over what those before it came to. -/
theorem settled_concat (vs : List Value) {v : Value}
    (distinct : ∀ pairs, v = .map pairs → Distinct pairs) :
    settled (vs ++ [v]) = some (layValue (settled vs) v) := by
  by_cases hmap : ∃ pairs, v = .map pairs
  · obtain ⟨pairs, rfl⟩ := hmap
    have halone : lay (merge []) pairs = pairs := lay_nil (distinct pairs rfl)
    rw [settled_concat_map]
    rcases List.eq_nil_or_concat' vs with rfl | ⟨vs, w, rfl⟩
    · exact congrArg (some ∘ Value.map) halone
    · by_cases hw : ∃ under, w = .map under
      · obtain ⟨under, rfl⟩ := hw
        rw [settled_concat_map, trailing_concat_map, merge_concat]
        rfl
      · simp only [not_exists] at hw
        rw [settled_concat_of_not_map vs hw, trailing_concat_of_not_map vs hw, halone, layValue]
        rintro under ⟨⟩
        exact hw under rfl
  · simp only [not_exists] at hmap
    rw [settled_concat_of_not_map vs hmap, layValue_of_not_map hmap]

/-- In layers laid over each other a key has what its values come to. -/
theorem find?_merge {layers : List (List (Text × Value))} (h : ∀ layer ∈ layers, Unrepeated layer)
    (key : Text) : find? key (merge layers) = settled (valuesOf key layers) := by
  induction layers using List.reverseRecOn with
  | nil => rfl
  | append_singleton layers layer ih =>
    have hlayer : Unrepeated layer := h layer (by simp)
    have hbelow := ih fun l hl => h l (List.mem_append_left _ hl)
    have hvalues : valuesOf key (layers ++ [layer]) =
        valuesOf key layers ++ [layer].filterMap (find? key) := List.filterMap_append
    rw [merge_concat, find?_lay hlayer.distinct, hbelow, hvalues]
    cases hfind : find? key layer with
    | none => rw [List.filterMap_cons_none hfind, List.filterMap_nil, List.append_nil]
    | some v =>
      have hinner : ∀ pairs, v = .map pairs → Distinct pairs := by
        rintro pairs rfl
        cases hlayer with
        | of distinct inner => exact (inner key pairs (mem_of_find? hfind)).distinct
      rw [List.filterMap_cons_some hfind, List.filterMap_nil]
      exact (settled_concat _ hinner).symm

/-! ## The laws -/

/-- Layers without repeated keys, laid over each other, have the keys of them all. The value of a
key is the last one it has in any of them; a mapping is laid over the mappings right before it,
and what is below a value that is none is hidden. Layers at the bottom may be laid over each
other first, an empty layer changes nothing, and neither does a layer over itself. -/
theorem the_mappings_that_a_key_ends_with_are_merged {layers : List (List (Text × Value))}
    (unrepeated : ∀ layer ∈ layers, Unrepeated layer) :
    (∀ key, key ∈ (merge layers).map (·.1) ↔ ∃ layer ∈ layers, key ∈ layer.map (·.1)) ∧
    (∀ key, find? key (merge layers) = settled (valuesOf key layers)) ∧
    (∀ before after, layers = before ++ after →
      merge (merge before :: after) = merge layers ∧
      merge (before ++ [] :: after) = merge layers) ∧
    ∀ layer ∈ layers, merge [[], layer] = layer ∧ merge [layer, []] = layer ∧
      merge [layer, layer] = layer := by
  refine ⟨mem_keys_merge layers, find?_merge unrepeated, ?_, ?_⟩
  · rintro before after rfl
    exact ⟨merge_merge before after, merge_empty before after⟩
  · intro layer hlayer
    have alone : lay [] layer = layer := lay_nil (unrepeated layer hlayer).distinct
    refine ⟨alone, alone, ?_⟩
    rw [merge_cons, alone]
    exact lay_self (unrepeated layer hlayer)

/-- A section in four layers: null hides the first, and the last two are laid over each other. -/
def hidden : List (List (Text × Value)) :=
  [[("log", .map [("dir", .text "a")])], [("log", .null), ("rules", .text "r")],
    [("log", .map [("level", .int 1)])], [("log", .map [("file", .bool true), ("level", .int 2)])]]

theorem hidden_unrepeated : ∀ layer ∈ hidden, Unrepeated layer := by
  have flat : ∀ pairs : List (Text × Value), (pairs.map (·.1)).Nodup →
      (∀ p ∈ pairs, mapping? p.2 = none) → Unrepeated pairs := by
    intro pairs distinct plain
    refine .of distinct fun key nested hmem => ?_
    cases plain _ hmem
  have single : ∀ (key : Text) (nested : List (Text × Value)), Unrepeated nested →
      Unrepeated [(key, .map nested)] := by
    intro key nested inner
    refine .of (List.pairwise_singleton _ _) fun k more hmem => ?_
    cases List.mem_singleton.mp hmem
    exact inner
  intro layer hlayer
  simp only [hidden, List.mem_cons, List.not_mem_nil, or_false] at hlayer
  rcases hlayer with rfl | rfl | rfl | rfl
  · exact single _ _ (flat _ (by decide) (by decide))
  · exact flat _ (by decide) (by decide)
  · exact single _ _ (flat _ (by decide) (by decide))
  · exact single _ _ (flat _ (by decide) (by decide))

theorem hidden_is_merged :
    (∀ layer ∈ hidden, Unrepeated layer) ∧
      find? "log" (merge hidden) =
        some (.map [("level", .int 2), ("file", .bool true)]) :=
  ⟨hidden_unrepeated,
    ((the_mappings_that_a_key_ends_with_are_merged hidden_unrepeated).2.1 "log").trans
      (by decide)⟩

end QuerySieve.Layers
