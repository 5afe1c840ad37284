-- Values of documents: what a rules file, a settings file or the details of an
-- error can hold. A mapping is read as a table, in which the last pair of a key wins.
-- A ledger is a mapping of a rules file: a table, and beside it all pairs that were put
-- in, in the order they were written, repeated keys included.
import QuerySieve.Text.Quoted

namespace QuerySieve

/-- A value of a document. -/
inductive Value
  | null
  | bool (b : Bool)
  | int (i : Int)
  /-- A number with a fraction or an exponent, kept as the whole number that it
  equals, if it equals one. -/
  | real (whole : Option Int)
  | text (t : Text)
  | bytes (b : Bytes)
  | list (items : List Value)
  | map (pairs : List (Text × Value))
  /-- A mapping that remembers all pairs that were put into its table. -/
  | ledger (table pairs : List (Text × Value))
  /-- A scalar that nothing here reads, such as a date. -/
  | other
  deriving Inhabited

/-! ## Tables of pairs -/

namespace Pairs

variable {α : Type}

/-- Sets the value of a key: in its place if it is there, else at the end. -/
def put (key : Text) (value : α) : List (Text × α) → List (Text × α)
  | [] => [(key, value)]
  | (k, v) :: ps => if k = key then (k, value) :: ps else (k, v) :: put key value ps

/-- The table of a list of pairs: each key once, where it came first, with the
value that came last. -/
def table (ps : List (Text × α)) : List (Text × α) :=
  ps.foldl (fun acc p => put p.1 p.2 acc) []

/-- The value of the first pair with a key. -/
def find? (key : Text) (ps : List (Text × α)) : Option α :=
  (ps.find? fun p => p.1 = key).map (·.2)

/-- The value of the last pair with a key. -/
def last? (key : Text) (ps : List (Text × α)) : Option α := find? key ps.reverse

end Pairs

/-- A table, and every pair that was put into it, in the order they came. -/
structure Ledger (α : Type) where
  table : List (Text × α) := []
  pairs : List (Text × α) := []

/-- Remembers a pair and puts it into the table. -/
def Ledger.add {α : Type} (l : Ledger α) (key : Text) (value : α) : Ledger α where
  table := Pairs.put key value l.table
  pairs := l.pairs ++ [(key, value)]

/-! ## Written values -/

namespace Value

/-- A named member of a mapping. -/
def field (name : String) (v : Value) : Text × Value := (name, v)

/-- A text, or null. -/
def optional : Option Text → Value
  | none => .null
  | some t => .text t

/-- The octets between quotes. -/
def quotedBytes (b : Bytes) : Text :=
  let t : Text := b.map fun o => CodePoint.ofNat o.toNat
  let mark := t.quoteMark
  let body : Text := t.flatMap fun c =>
    if c.val < 0x80 then c.escaped mark else "\\x" ++ hexDigits 2 c.val
  CodePoint.ofChar 'b' :: mark :: body ++ [mark]

mutual

/-- A value as messages show it. -/
def shown : Value → Text
  | .null => "None"
  | .bool true => "True"
  | .bool false => "False"
  | .int i => Text.ofInt i
  | .real (some i) => Text.ofInt i ++ ".0"
  | .real none => "nan"
  | .text t => t.quoted
  | .bytes b => quotedBytes b
  | .list items => "[" ++ Text.join ", " (shownItems items) ++ "]"
  | .map pairs | .ledger pairs _ =>
    "\x7b" ++ Text.join ", " ((Pairs.table (shownPairs pairs)).map fun p =>
      p.1.quoted ++ ": " ++ p.2) ++ "\x7d"
  | .other => "..."

def shownItems : List Value → List Text
  | [] => []
  | v :: vs => v.shown :: shownItems vs

def shownPairs : List (Text × Value) → List (Text × Text)
  | [] => []
  | (k, v) :: ps => (k, v.shown) :: shownPairs ps

end

/-- The value of a key of a mapping. A ledger is asked through its table. -/
def get? (key : Text) : Value → Option Value
  | .map pairs | .ledger pairs _ => Pairs.last? key pairs
  | _ => none

/-- The pairs of a mapping: all that it remembers, or else those of its table. -/
def pairs? : Value → Option (List (Text × Value))
  | .map pairs => some (Pairs.table pairs)
  | .ledger _ pairs => some pairs
  | _ => none

/-! ## Equality -/

mutual

/-- Whether two values are the same, part by part. -/
def same : Value → Value → Bool
  | .null, .null | .other, .other => true
  | .bool a, .bool b => a = b
  | .int a, .int b => a = b
  | .real a, .real b => a = b
  | .text a, .text b => a = b
  | .bytes a, .bytes b => a = b
  | .list as, .list bs => sameItems as bs
  | .map as, .map bs => samePairs as bs
  | .ledger as ps, .ledger bs qs => samePairs as bs && samePairs ps qs
  | _, _ => false

def sameItems : List Value → List Value → Bool
  | [], [] => true
  | a :: as, b :: bs => same a b && sameItems as bs
  | _, _ => false

def samePairs : List (Text × Value) → List (Text × Value) → Bool
  | [], [] => true
  | (k, a) :: as, (l, b) :: bs => k = l && same a b && samePairs as bs
  | _, _ => false

end

mutual

theorem same_iff : (a b : Value) → (same a b = true ↔ a = b)
  | .list as, b => by
    cases b with
    | list bs => rw [same, sameItems_iff as bs, Value.list.injEq]
    | _ => simp [same]
  | .map as, b => by
    cases b with
    | map bs => rw [same, samePairs_iff as bs, Value.map.injEq]
    | _ => simp [same]
  | .ledger as ps, b => by
    cases b with
    | ledger bs qs =>
      rw [same, Bool.and_eq_true, samePairs_iff as bs, samePairs_iff ps qs, Value.ledger.injEq]
    | _ => simp [same]
  | .null, b | .other, b | .bool _, b | .int _, b | .real _, b | .text _, b | .bytes _, b => by
    cases b <;> simp [same]

theorem sameItems_iff : (as bs : List Value) → (sameItems as bs = true ↔ as = bs)
  | [], bs => by cases bs <;> simp [sameItems]
  | a :: as, [] => by simp [sameItems]
  | a :: as, b :: bs => by
    rw [sameItems, Bool.and_eq_true, same_iff a b, sameItems_iff as bs, List.cons.injEq]

theorem samePairs_iff : (as bs : List (Text × Value)) → (samePairs as bs = true ↔ as = bs)
  | [], bs => by cases bs <;> simp [samePairs]
  | (k, a) :: as, [] => by simp [samePairs]
  | (k, a) :: as, (l, b) :: bs => by
    rw [samePairs, Bool.and_eq_true, Bool.and_eq_true, same_iff a b, samePairs_iff as bs,
      decide_eq_true_eq, List.cons.injEq, Prod.mk.injEq]

end

instance : DecidableEq Value := fun a b => decidable_of_iff _ (same_iff a b)

end Value

end QuerySieve
