-- Paths. A path is read part by part: empty parts and single points do not
-- count, two points stay. A path that starts with no root is relative.
import QuerySieve.Text.Basic

namespace QuerySieve

structure Path where
  /-- What stands before the parts: nothing for a relative path, one or two slashes, or the
  name of a place that everything is below. -/
  root : Text
  parts : List Text
  deriving DecidableEq, Repr

namespace Path

def slash : CodePoint := '/'

/-- The parts that count. -/
def partsOf (t : Text) : List Text :=
  (Text.splitAt slash t).filter fun p => !p.isEmpty && p ≠ Text.ofString "."

/-- The root of a written path. Exactly two slashes are a root of their own. -/
def rootOf (t : Text) : Text :=
  match (t.takeWhile (· = slash)).length with
  | 0 => []
  | 2 => [slash, slash]
  | _ => [slash]

def ofText (t : Text) : Path := ⟨rootOf t, partsOf t⟩

/-- A path without parts and without a root is the directory itself. -/
def shown (p : Path) : Text :=
  if p.parts.isEmpty then (if p.root.isEmpty then "." else p.root)
  else
    let lead : Text :=
      if p.root.isEmpty || p.root.getLast? = some slash then p.root else p.root ++ [slash]
    lead ++ Text.join [slash] p.parts

/-- A path taken from another one: an absolute one stands for itself. -/
def join (base p : Path) : Path :=
  if p.root.isEmpty then ⟨base.root, base.parts ++ p.parts⟩ else p

/-- The path without its last part. -/
def parent (p : Path) : Path := ⟨p.root, p.parts.dropLast⟩

end Path

end QuerySieve
