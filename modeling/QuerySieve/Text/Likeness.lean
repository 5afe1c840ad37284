-- How alike two texts are: the code points that they have in common, counted by taking the
-- longest stretch that is in both, and then again on either side of it.
import QuerySieve.Text.Basic

namespace QuerySieve.Likeness

/-! ## Stretches -/

/-- A stretch that is in two texts: where it starts in each, and how long it is. -/
structure Stretch where
  left : Nat
  right : Nat
  length : Nat
  deriving DecidableEq, Repr

/-- How long two texts agree from their starts. -/
def agreement : Text → Text → Nat
  | a :: s, b :: t => if a = b then agreement s t + 1 else 0
  | _, _ => 0

/-- The better of two stretches: a longer one, or else the first. -/
def better (s t : Stretch) : Stretch := if s.length < t.length then t else s

/-- The longest stretch that is in both texts, the one furthest left if there are several. -/
def longest (s t : Text) : Stretch :=
  (List.range s.length).foldl (fun best i =>
    (List.range t.length).foldl (fun best j =>
      better best ⟨i, j, agreement (s.drop i) (t.drop j)⟩) best) ⟨0, 0, 0⟩

/-- How many code points two texts have in common, looking at most so often for a stretch. -/
def commonWithin : Nat → Text → Text → Nat
  | 0, _, _ => 0
  | fuel + 1, s, t =>
    let m := longest s t
    if m.length = 0 then 0
    else
      commonWithin fuel (s.take m.left) (t.take m.right) + m.length
        + commonWithin fuel (s.drop (m.left + m.length)) (t.drop (m.right + m.length))

/-- How many code points two texts have in common. -/
def common (s t : Text) : Nat := commonWithin s.length s t

/-! ## Alike -/

/-- Two texts are alike if at least three fifths of them are in common. -/
def alike (s t : Text) : Bool := 3 * (s.length + t.length) ≤ 10 * common s t

/-- The candidates that are like a word. -/
def near (word : Text) (candidates : List Text) : List Text :=
  candidates.filter fun c => alike c word

end QuerySieve.Likeness
