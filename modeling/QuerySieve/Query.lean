-- Query strings as raw bytes. A query is cut at every `&` into pieces, its
-- segments are the pieces that are not empty, and the key of a segment stands
-- before its first `=`. Filtering keeps whole segments, in order and byte for
-- byte.
import QuerySieve.Text.Basic

namespace QuerySieve.Query

/-- Stands between segments. -/
def separator : UInt8 := 0x26

/-- Ends the key of a segment. -/
def assign : UInt8 := 0x3D

/-! ## Segments -/

/-- The bytes before the first `=`, or all of them. -/
def splitKey (segment : Bytes) : Bytes := segment.takeWhile (· != assign)

/-- What stands between the separators, empty pieces included. -/
def pieces : Bytes → List Bytes
  | [] => [[]]
  | b :: q =>
    if b = separator then [] :: pieces q
    else match pieces q with
      | [] => [[b]]
      | p :: ps => (b :: p) :: ps

/-- The pieces that are not empty. -/
def segments (q : Bytes) : List Bytes := (pieces q).filter (!·.isEmpty)

/-- Every segment with its key before it. -/
def keyedSegments (q : Bytes) : List (Bytes × Bytes) := (segments q).map fun s => (splitKey s, s)

/-! ## Filtering -/

/-- The segments with a separator between each two. -/
def join : List Bytes → Bytes
  | [] => []
  | [s] => s
  | s :: ss => s ++ separator :: join ss

/-- Puts a segment at the end of what was kept so far. -/
def append (out segment : Bytes) : Bytes :=
  if out.isEmpty then segment else out ++ separator :: segment

/-- Rebuilds the query from the segments whose key is accepted. The predicate is
asked once for each segment, from left to right, and may have effects. -/
def filterM {m : Type → Type} [Monad m] (keep : Bytes → m Bool) (q : Bytes) : m Bytes :=
  (keyedSegments q).foldlM
    (fun out (key, segment) => do
      if ← keep key then pure (append out segment) else pure out)
    []

/-- Rebuilds the query from the segments whose key is accepted. -/
def filter (keep : Bytes → Bool) (q : Bytes) : Bytes := Id.run (filterM (pure ∘ keep) q)

end QuerySieve.Query
