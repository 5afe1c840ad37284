-- The tree of a document. A node is a scalar, a list or a mapping of pairs, which
-- may repeat a key. An alias is replaced by the node that it names; one that
-- stands inside that very node closes a loop. A tree may be of any depth here: that
-- the host gives up on calls that nest too deeply is left out.
import QuerySieve.Yaml.Mark

namespace QuerySieve.Yaml

inductive Node
  /-- A scalar with the tag that was written, and whether its form may tell what
  it stands for. -/
  | scalar (tag : Option Text) (byForm : Bool) (text : Text) (start : Mark)
  | list (tag : Option Text) (items : List Node) (start : Mark)
  | map (tag : Option Text) (pairs : List (Node × Node)) (start : Mark)
  /-- An alias of a node around it, which starts at a mark. -/
  | loop (start : Mark)
  deriving Inhabited

namespace Node

def start : Node → Mark
  | .scalar _ _ _ m => m
  | .list _ _ m => m
  | .map _ _ m => m
  | .loop m => m

/-- A scalar that is not written. -/
def empty (m : Mark) : Node := .scalar none true [] m

end Node

end QuerySieve.Yaml
