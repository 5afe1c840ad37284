-- Numbers as documents write them. Whole numbers come in bases two, eight, ten and
-- sixteen and in parts of sixty; underscores between the digits do not count. A number
-- with a point is rounded to the nearest double.
import QuerySieve.Yaml.Complaint

namespace QuerySieve.Yaml.Number

/-! ## Text around numbers -/

/-- The text without the underscores. -/
def withoutUnderscores (t : Text) : Text := t.filter fun c => c ≠ CodePoint.ofChar '_'

/-- The sign, and what comes after it. -/
def splitSign : Text → Bool × Text
  | [] => (false, [])
  | c :: t => if c = '-' then (true, t) else if c = '+' then (false, t) else (false, c :: t)

def signed (negative : Bool) (n : Nat) : Int := if negative then - (n : Int) else n

def isBlank (c : CodePoint) : Bool :=
  c = ' ' || (0x09 ≤ c.val && c.val ≤ 0x0D) || (0x1C ≤ c.val && c.val ≤ 0x1F)

/-- The text without blanks at its ends. -/
def trim (t : Text) : Text := ((t.dropWhile isBlank).reverse.dropWhile isBlank).reverse

/-! ## Whole numbers -/

/-- The value of a digit in bases up to sixteen. -/
def digit? (base : Nat) (c : CodePoint) : Option Nat :=
  let v :=
    if c.isAsciiDigit then c.val - 0x30
    else if 0x61 ≤ c.val && c.val ≤ 0x66 then c.val - 0x57
    else if 0x41 ≤ c.val && c.val ≤ 0x46 then c.val - 0x37
    else base
  if v < base then some v else none

/-- The number that digits of a base write. -/
def digits? (base : Nat) (t : Text) : Option Nat :=
  if t.isEmpty then none
  else t.foldl (fun n c => n.bind fun n => (digit? base c).map fun d => n * base + d) (some 0)

/-- The letter that may stand after a zero before the digits of a base. -/
def baseLetter (base : Nat) : Option CodePoint :=
  if base = 2 then some 'b' else if base = 8 then some 'o' else if base = 16 then some 'x' else none

/-- The digits without the zero and the letter of their base. -/
def withoutBase (base : Nat) : Text → Text
  | z :: l :: t =>
    if z = '0' && baseLetter base = some l.asciiSmall then t
    else z :: l :: t
  | t => t

/-- The most digits of a number in base ten. -/
def digitLimit : Nat := 4300

/-- A whole number in a base, with blanks and a sign around it. -/
def wholeIn (base : Nat) (t : Text) : Except ScalarFault Int :=
  let (negative, body) := splitSign (trim t)
  let body := withoutBase base body
  match digits? base body with
  | none => .error (.notWhole base t)
  | some n =>
    if base = 10 && digitLimit < body.length then .error (.tooManyDigits body.length)
    else .ok (signed negative n)

/-- Parts of sixty, the smallest last. -/
def sixties (parts : List Int) : Int := parts.foldl (fun n p => n * 60 + p) 0

/-- A whole number in any of the written forms. -/
def whole (t : Text) : Except ScalarFault Int := do
  let t := withoutUnderscores t
  if t.isEmpty then throw .noDigits
  let (negative, body) := splitSign t
  let sign : Int := if negative then -1 else 1
  match Text.dropLead? "0b" body, Text.dropLead? "0x" body, body with
  | some digits, _, _ => return sign * (← wholeIn 2 digits)
  | none, some digits, _ => return sign * (← wholeIn 16 digits)
  | none, none, [] => throw .noDigits
  | none, none, c :: rest =>
    if c = '0' then
      if rest.isEmpty then return 0 else return sign * (← wholeIn 8 body)
    else if body.contains ':' then
      return sign * sixties (← (Text.splitAt ':' body).mapM (wholeIn 10))
    else return sign * (← wholeIn 10 body)

/-! ## Doubles -/

/-- A quotient rounded to the nearest whole number, a half to the even one. -/
def roundDiv (n d : Nat) : Nat :=
  let q := n / d
  let r := n % d
  if 2 * r < d then q else if d < 2 * r then q + 1 else q + q % 2

/-- The power of two that the first digit of a quotient stands for. -/
def exponentOf (n d : Nat) : Int :=
  let guess : Int := (n.log2 : Int) - d.log2
  if n * Nat.pow 2 (-guess).toNat < d * Nat.pow 2 guess.toNat then guess - 1 else guess

/-- The power of two that a double of this exponent counts in. -/
def unitOf (exponent : Int) : Int := max (exponent - 52) (-1074)

/-- The nearest double of a quotient, as the whole numbers that it is a quotient of. -/
def nearest (n d : Nat) : Nat × Nat :=
  let unit := unitOf (exponentOf n d)
  let m := roundDiv (n * Nat.pow 2 (-unit).toNat) (d * Nat.pow 2 unit.toNat)
  (m * Nat.pow 2 unit.toNat, Nat.pow 2 (-unit).toNat)

/-- The whole number that the nearest double of a quotient equals, if it equals one. -/
def nearestWhole? (n d : Nat) : Option Nat :=
  if n = 0 then some 0
  else if 1024 ≤ exponentOf n d then none
  else
    let (m, parts) := nearest n d
    if m % parts = 0 then some (m / parts) else none

/-- A decimal number: the digits and how many they are, and the power of ten that they count
in. -/
structure Decimal where
  digits : Nat
  size : Nat
  power : Int

/-- From this power of ten on a double is infinite, and up to its inverse zero. -/
def powerLimit : Int := 400

/-- The whole number that the nearest double equals, if it equals one. -/
def Decimal.nearestWhole? (d : Decimal) : Option Nat :=
  if d.digits = 0 || d.power + d.size < -powerLimit then some 0
  else if powerLimit < d.power then none
  else Number.nearestWhole? (d.digits * Nat.pow 10 d.power.toNat) (Nat.pow 10 (-d.power).toNat)

/-- The exponent after its letter, with its sign. -/
def exponent? : Text → Option Int
  | [] => some 0
  | c :: t =>
    if c = 'e' then
      let (negative, digits) := splitSign t
      (digits? 10 digits).map (signed negative)
    else none

/-- A decimal number without a sign: digits, perhaps a point and more digits, perhaps an
exponent. -/
def decimal? (t : Text) : Option Decimal :=
  let front := t.takeWhile CodePoint.isAsciiDigit
  let rest := t.drop front.length
  let (back, rest) := match rest with
    | [] => ([], [])
    | c :: more =>
      if c = '.' then
        let back := more.takeWhile CodePoint.isAsciiDigit
        (back, more.drop back.length)
      else ([], c :: more)
  match digits? 10 (front ++ back), exponent? rest with
  | some digits, some power => some ⟨digits, front.length + back.length, power - back.length⟩
  | _, _ => none

/-- Words for what is no finite number. -/
def notFinite : List Text := ["inf", "infinity", "nan"]

/-- A number with a point, as a double: the whole number that it equals, if it equals
one. The text is in lower case. -/
def realIn (t : Text) : Except ScalarFault (Option Int) :=
  let (negative, body) := splitSign (trim t)
  if notFinite.contains body then .ok none
  else match decimal? body with
    | some d => .ok (d.nearestWhole?.map (signed negative))
    | none => .error (.notReal t)

/-- The letters of ASCII in lower case. -/
def lowerLetters (t : Text) : Text :=
  t.map CodePoint.asciiSmall

/-- A number with a point in any of the written forms: the whole number that its double
equals, if it equals one. -/
def real (t : Text) : Except ScalarFault (Option Int) := do
  let t := lowerLetters (withoutUnderscores t)
  if t.isEmpty then throw .noDigits
  let (negative, body) := splitSign t
  let sign : Int := if negative then -1 else 1
  if body = Text.ofString ".inf" || body = Text.ofString ".nan" then return none
  else if body.contains ':' then
    let parts ← (Text.splitAt ':' body).mapM realIn
    return (parts.foldr (fun p ps => p.bind fun p => ps.map (p :: ·)) (some [])).map
      fun ps => sign * sixties ps
  else return (← realIn body).map (sign * ·)

end QuerySieve.Yaml.Number
