-- The laws of layers. Laid over each other, tables have for each key what the last of them has for
-- it, and where both have a table, these are laid over each other again. What a document writes is
-- made of tables: no key stands twice in any of them.
import Mathlib.Data.List.Induction
import QuerySieve.Proofs.Readings
import QuerySieve.Proofs.Tables
import QuerySieve.Settings

namespace QuerySieve

/-! ## One layer over another -/

namespace Layers

open Pairs

variable {below above : List (Text × Value)}

theorem distinct_lay (h : Distinct below) : Distinct (lay below above) := by
  induction above generalizing below with
  | nil => exact h
  | cons p above ih =>
    rw [lay]
    exact ih (distinct_put h)

/-- A key that the layer above has is laid over what is below, and any other is as it was. -/
theorem find?_lay (h : Distinct above) (key : Text) :
    find? key (lay below above) =
      match find? key above with
      | none => find? key below
      | some v => some (layValue (find? key below) v) := by
  induction above generalizing below with
  | nil => rfl
  | cons p above ih =>
    obtain ⟨k, v⟩ := p
    obtain ⟨fresh, distinct⟩ := List.nodup_cons.mp h
    rw [lay, ih distinct, find?_put, find?_cons]
    by_cases hk : k = key
    · subst hk
      simp only [find?_eq_none fresh, if_pos]
    · rw [if_neg hk, if_neg hk]

theorem layValue_of_not_map {below : Option Value} {v : Value} (h : ∀ pairs, v ≠ .map pairs) :
    layValue below v = v := by
  rw [layValue]
  exact h

theorem layValue_none (v : Value) : layValue none v = v := by
  cases v with
  | map pairs => rfl
  | _ => exact layValue_of_not_map (by simp)

/-- How a value is met again where it was laid over others: a mapping may have more pairs then. -/
def Survives (v merged : Value) : Prop :=
  merged = v ∨ ∃ pairs more, v = .map pairs ∧ merged = .map more

theorem survives_layValue (below : Option Value) (v : Value) : Survives v (layValue below v) := by
  cases v with
  | map pairs =>
    right
    unfold layValue
    split
    · exact ⟨pairs, _, rfl, rfl⟩
    · exact ⟨pairs, pairs, rfl, rfl⟩
  | _ => exact .inl (layValue_of_not_map (by simp))

end Layers

/-! ## Documents -/

namespace Yaml.Node

open Reading

/-- A scalar is never read as a mapping. -/
theorem scalarValue?_ne_map {n : Node} {s : Sort_} {pairs : List (Text × Value)} :
    scalarValue? n s ≠ some (.ok (.map pairs)) := by
  intro h
  cases s with
  | null =>
    obtain ⟨t, -, h⟩ := bind_eq_ok (Option.some.inj h)
    cases h
  | bool =>
    obtain ⟨t, -, h⟩ := bind_eq_ok (Option.some.inj h)
    unfold truth at h
    split at h <;> cases h
  | int | real =>
    obtain ⟨t, -, h⟩ := bind_eq_ok (Option.some.inj h)
    obtain ⟨i, -, h⟩ := bind_eq_ok h
    cases h
  | timestamp =>
    obtain ⟨t, -, h⟩ := bind_eq_ok (Option.some.inj h)
    unfold timestamp at h
    split at h
    · cases h
    · split at h <;> cases h
  | binary =>
    obtain ⟨t, -, h⟩ := bind_eq_ok (Option.some.inj h)
    unfold binary refuse at h
    split at h <;> cases h
  | text =>
    obtain ⟨t, -, h⟩ := bind_eq_ok (Option.some.inj h)
    cases h
  | _ => cases h

/-- A value that a document writes. -/
def Written (v : Value) : Prop := ∃ fuel tree n, typed fuel tree n = v

/-- A mapping of a document is a table of values that the document writes. -/
theorem typed_map {fuel : Nat} {tree : Option Node} {n : Node} {pairs : List (Text × Value)}
    (h : typed fuel tree n = .map pairs) :
    Pairs.Distinct pairs ∧ ∀ p ∈ pairs, Written p.2 := by
  induction fuel generalizing tree n with
  | zero => cases h
  | succ fuel ih =>
    unfold typed at h
    split at h
    · cases h
    next level start same =>
      cases same
      split at h
      · exact ih h
      · cases h
    next level m same _ =>
      cases same
      split at h
      · cases h
      · split at h
        · cases h
        next pairs' _ =>
          cases h
          refine ⟨Pairs.distinct_table _, ?_⟩
          intro p hp
          obtain ⟨q, -, hq⟩ := List.mem_filterMap.mp (Pairs.mem_of_mem_table hp)
          split at hq
          · cases hq
            exact ⟨_, _, _, rfl⟩
          · cases hq
      · split at h
        next hv =>
          subst h
          exact absurd hv scalarValue?_ne_map
        · cases h
      · cases h

theorem typedDocument_map {f : Feed} {pairs : List (Text × Value)}
    (h : typedDocument f = .ok (.map pairs)) :
    Pairs.Distinct pairs ∧ ∀ p ∈ pairs, Written p.2 := by
  unfold typedDocument at h
  split at h
  · cases h
  · cases h
  · split at h
    · cases h
    · exact typed_map (Except.ok.inj h)

end Yaml.Node

/-! ## Settings in layers -/

namespace Settings

/-- What a source writes. -/
abbrev Layer := List (Text × Value)

/-- One of the settings. -/
inductive Setting
  | logLevel
  | logDir
  | fileLogging
  | configFile
  deriving DecidableEq, Repr

namespace Setting

/-- The key of the section that the setting stands in. -/
def outer : Setting → Text
  | .logLevel | .logDir | .fileLogging => observabilityKey
  | .configFile => filtersKey

def key : Setting → Text
  | .logLevel => logLevelKey
  | .logDir => logDirKey
  | .fileLogging => fileLoggingKey
  | .configFile => configFileKey

end Setting

/-- The value that a layer has for a setting. -/
def valueIn (setting : Setting) (layer : Layer) : Option Value :=
  ((Value.map layer).get? setting.outer).bind (Value.get? setting.key)

/-- The value that a setting gets: that of the last layer that has any. -/
def chosen (layers : List Layer) (setting : Setting) : Option Value :=
  (layers.filterMap (valueIn setting)).getLast?

theorem chosen_snoc (layers : List Layer) (layer : Layer) (setting : Setting) :
    chosen (layers ++ [layer]) setting = (valueIn setting layer).or (chosen layers setting) := by
  unfold chosen
  rw [List.filterMap_append, List.getLast?_append]
  cases h : valueIn setting layer with
  | none => simp [h]
  | some v => simp [h]

/-- A layer without repeated keys, the sections of which are such mappings too. -/
structure Sectioned (layer : Layer) : Prop where
  distinct : Pairs.Distinct layer
  sections : ∀ (setting : Setting) (v : Value), Pairs.find? setting.outer layer = some v →
    ∃ pairs, v = .map pairs ∧ Pairs.Distinct pairs

namespace Sectioned

variable {layer below above : Layer}

theorem valueIn_eq (h : Sectioned layer) (setting : Setting) :
    valueIn setting layer =
      (Pairs.find? setting.outer layer).bind (Value.get? setting.key) := by
  rw [valueIn, Value.get?, Pairs.last?_of_distinct h.distinct]

theorem nil : Sectioned [] := ⟨List.nodup_nil, fun _ _ h => by cases h⟩

theorem lay (hbelow : Sectioned below) (habove : Sectioned above) :
    Sectioned (Layers.lay below above) := by
  refine ⟨Layers.distinct_lay hbelow.distinct, ?_⟩
  intro setting v hv
  rw [Layers.find?_lay habove.distinct] at hv
  cases hup : Pairs.find? setting.outer above with
  | none =>
    rw [hup] at hv
    exact hbelow.sections setting v hv
  | some up =>
    obtain ⟨pairs, rfl, distinct⟩ := habove.sections setting up hup
    rw [hup] at hv
    cases hdown : Pairs.find? setting.outer below with
    | none =>
      rw [hdown] at hv
      cases hv
      exact ⟨pairs, rfl, distinct⟩
    | some down =>
      obtain ⟨under, rfl, hunder⟩ := hbelow.sections setting down hdown
      rw [hdown] at hv
      cases hv
      exact ⟨_, rfl, Layers.distinct_lay hunder⟩

/-- In layers laid over each other a setting has its value of the layer above, laid over the one
below, or the one below. -/
theorem valueIn_lay (hbelow : Sectioned below) (habove : Sectioned above) (setting : Setting) :
    valueIn setting (Layers.lay below above) =
      match valueIn setting above with
      | none => valueIn setting below
      | some v => some (Layers.layValue (valueIn setting below) v) := by
  rw [(hbelow.lay habove).valueIn_eq, habove.valueIn_eq, hbelow.valueIn_eq,
    Layers.find?_lay habove.distinct]
  cases hup : Pairs.find? setting.outer above with
  | none => rfl
  | some up =>
    obtain ⟨pairs, rfl, distinct⟩ := habove.sections setting up hup
    cases hdown : Pairs.find? setting.outer below with
    | none =>
      change Value.get? setting.key (Layers.layValue none (.map pairs)) =
        match Value.get? setting.key (.map pairs) with
        | none => none
        | some v => some (Layers.layValue none v)
      rw [Layers.layValue_none]
      cases Value.get? setting.key (.map pairs) with
      | none => rfl
      | some v => exact congrArg some (Layers.layValue_none v).symm
    | some down =>
      obtain ⟨under, rfl, hunder⟩ := hbelow.sections setting down hdown
      change Pairs.last? setting.key (Layers.lay under pairs) =
        match Pairs.last? setting.key pairs with
        | none => Pairs.last? setting.key under
        | some v => some (Layers.layValue (Pairs.last? setting.key under) v)
      rw [Pairs.last?_of_distinct (Layers.distinct_lay hunder), Pairs.last?_of_distinct distinct,
        Pairs.last?_of_distinct hunder, Layers.find?_lay distinct]

end Sectioned

/-- Layers that are all such tables make up one, where each setting has the value that is chosen
for it. -/
theorem merge_chosen {layers : List Layer} (h : ∀ layer ∈ layers, Sectioned layer) :
    Sectioned (Layers.merge layers) ∧ ∀ setting,
      Option.Rel Layers.Survives (chosen layers setting) (valueIn setting (Layers.merge layers)) := by
  induction layers using List.reverseRecOn with
  | nil => exact ⟨.nil, fun setting => .none⟩
  | append_singleton layers layer ih =>
    have hlayer := h layer (by simp)
    obtain ⟨hmerge, chose⟩ := ih fun l hl => h l (List.mem_append_left _ hl)
    have hfold : Layers.merge (layers ++ [layer]) = Layers.lay (Layers.merge layers) layer := by
      rw [Layers.merge, List.foldl_append]
      rfl
    rw [hfold]
    refine ⟨hmerge.lay hlayer, ?_⟩
    intro setting
    rw [chosen_snoc, hmerge.valueIn_lay hlayer]
    cases valueIn setting layer with
    | none => exact chose setting
    | some v => exact .some (Layers.survives_layValue _ v)

end Settings

end QuerySieve
