-- Octets written in base 64. What is no digit does not count; padding ends the
-- octets once enough digits stand before it.
import QuerySieve.Yaml.Complaint

namespace QuerySieve.Yaml.Binary

/-- The value of a digit. -/
def digit? (c : CodePoint) : Option Nat :=
  if c.isAsciiUpper then some (c.val - 0x41)
  else if c.isAsciiLower then some (c.val - 0x47)
  else if c.isAsciiDigit then some (c.val + 4)
  else if c = '+' then some 62
  else if c = '/' then some 63
  else none

/-- The digits that count, and whether padding ended them. There are `count` digits before, and
`pads` signs of padding right before. -/
def digits : (count pads : Nat) → Text → List Nat × Bool
  | _, _, [] => ([], false)
  | count, pads, c :: t =>
    if c = '=' then
      let pads := if 2 ≤ count % 4 then pads + 1 else pads
      if 2 ≤ count % 4 && 4 ≤ count % 4 + pads then ([], true) else digits count pads t
    else match digit? c with
      | none => digits count pads t
      | some v =>
        let (more, ended) := digits (count + 1) 0 t
        (v :: more, ended)

/-- The octets of whole groups of four digits, and of the digits left over. -/
def octets : List Nat → Bytes
  | a :: b :: c :: d :: t =>
    [(a * 4 + b / 16).toUInt8, (b % 16 * 16 + c / 4).toUInt8, (c % 4 * 64 + d).toUInt8] ++ octets t
  | [a, b, c] => [(a * 4 + b / 16).toUInt8, (b % 16 * 16 + c / 4).toUInt8]
  | [a, b] => [(a * 4 + b / 16).toUInt8]
  | _ => []

/-- The first run of code points that are no ASCII. -/
def firstNotAscii? (t : Text) : Option Unencodable :=
  let isAscii : CodePoint → Bool := fun c => c.val < 0x80
  let start := (t.takeWhile isAscii).length
  match t.drop start with
  | [] => none
  | c :: r => some ⟨start, start + ((c :: r).takeWhile fun c => !isAscii c).length, c⟩

/-- The octets that a text writes. -/
def decode (t : Text) : Except Problem Bytes :=
  match firstNotAscii? t with
  | some e => .error (.notAscii e)
  | none =>
    let (ds, ended) := digits 0 0 t
    if ended || ds.length % 4 = 0 then .ok (octets ds)
    else if ds.length % 4 = 1 then .error (.base64Single ds.length)
    else .error .base64Padding

end QuerySieve.Yaml.Binary
