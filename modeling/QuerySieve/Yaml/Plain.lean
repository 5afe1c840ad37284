-- Reading a tree with every scalar as the text that was written. Tags do not
-- count. A mapping is a table that remembers all its pairs, and only a scalar can be
-- a key.
import QuerySieve.Yaml.Node.Reader

namespace QuerySieve.Yaml.Node

/-- Complains about a node that cannot be a value. -/
def refuse {α : Type} (problem : Problem) (mark : Mark)
    (during : Option (Activity × Option Mark) := none) : Except Fault α :=
  .error (.complaint { stage := .values, during, problem, mark })

/-- The text of a key. Its node starts at a mark, and so does the mapping it is in. -/
def keyText (mapStart keyStart : Mark) : Value → Except Fault Text
  | .text t => .ok t
  | _ => refuse .unhashableKey keyStart (some (.buildingMapping, some mapStart))

mutual

/-- The value of a node, scalars as they are written. -/
def plain : Node → Except Fault Value
  | .scalar _ _ text _ => .ok (.text text)
  | .list _ items _ => (plainItems items).map .list
  | .map _ pairs start => do
    let l ← plainPairs start {} pairs
    return .ledger l.table l.pairs
  | .loop start => refuse .recursiveNode start

def plainItems : List Node → Except Fault (List Value)
  | [] => .ok []
  | n :: ns => do
    let v ← plain n
    return v :: (← plainItems ns)

/-- Adds the pairs of a mapping that starts at a mark, in the order they stand. -/
def plainPairs (start : Mark) (l : Ledger Value) :
    List (Node × Node) → Except Fault (Ledger Value)
  | [] => .ok l
  | (k, n) :: ps => do
    let key ← keyText start k.start (← plain k)
    let v ← plain n
    plainPairs start (l.add key v) ps

end

/-- The value of a document; an empty stream is null. -/
def plainDocument (f : Feed) : Except Fault Value :=
  match ofFeed f with
  | .error e => .error e
  | .ok none => .ok .null
  | .ok (some n) => plain n

end QuerySieve.Yaml.Node
