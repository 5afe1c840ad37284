-- Layers of settings. A later layer wins over an earlier one, key by key; where both
-- have a mapping for a key, the mappings are laid over each other in the same way.
-- The values that settings are read from hold no ledgers.
import QuerySieve.Value

namespace QuerySieve.Layers

mutual

/-- Lays pairs over the ones below, one after another. -/
def lay (below : List (Text × Value)) : List (Text × Value) → List (Text × Value)
  | [] => below
  | (key, v) :: above => lay (Pairs.put key (layValue (Pairs.find? key below) v) below) above

/-- Lays a value over the one below, if there is one. -/
def layValue (below : Option Value) : Value → Value
  | .map above =>
    match below with
    | some (.map below) => .map (lay below above)
    | _ => .map above
  | v => v

end

/-- All layers laid over each other, the lowest first. -/
def merge (layers : List (List (Text × Value))) : List (Text × Value) := layers.foldl lay []

end QuerySieve.Layers
