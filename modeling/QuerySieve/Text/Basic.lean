-- Text and bytes. Text is a list of code points, and it may hold lone
-- surrogates, because an escape in a rules file can name one. Bytes are plain
-- octets.

namespace QuerySieve

/-- A code point, surrogates included. -/
abbrev CodePoint := Fin 0x110000

/-- Any sequence of code points. -/
abbrev Text := List CodePoint

/-- A sequence of octets. -/
abbrev Bytes := List UInt8

/-! ## Literals -/

theorem toNat_lt_codePoints (c : Char) : c.toNat < 0x110000 := by
  have h := c.valid
  simp only [UInt32.isValidChar, Nat.isValidChar] at h
  simp only [Char.toNat]
  omega

/-- The code point of a number; past the last one the numbers go round. -/
def CodePoint.ofNat (n : Nat) : CodePoint := ⟨n % 0x110000, Nat.mod_lt n (by decide)⟩

def CodePoint.ofChar (c : Char) : CodePoint := ⟨c.toNat, toNat_lt_codePoints c⟩

def Text.ofString (s : String) : Text := s.toList.map CodePoint.ofChar

instance : Coe Char CodePoint := ⟨CodePoint.ofChar⟩
instance : Coe String Text := ⟨Text.ofString⟩

/-- The decimal digits of a number. -/
def Text.ofNat (n : Nat) : Text := (toString n : String)

/-- A number with its sign, when it is negative. -/
def Text.ofInt (i : Int) : Text := (toString i : String)

/-- The octets of an ASCII literal. -/
def Bytes.ofString (s : String) : Bytes := s.toList.map fun c => c.toNat.toUInt8

/-! ## Code points -/

/-- A half of a surrogate pair: no UTF-8 form. -/
def CodePoint.isSurrogate (c : CodePoint) : Bool := 0xD800 ≤ c.val && c.val < 0xE000

/-- A surrogate that stands for an octet that is no part of UTF-8. -/
def CodePoint.isEscapedOctet (c : CodePoint) : Bool := 0xDC80 ≤ c.val && c.val ≤ 0xDCFF

/-- The mark that stands for bytes that are no UTF-8. -/
def CodePoint.replacement : CodePoint := 0xFFFD

def CodePoint.isAsciiUpper (c : CodePoint) : Bool := 0x41 ≤ c.val && c.val ≤ 0x5A
def CodePoint.isAsciiLower (c : CodePoint) : Bool := 0x61 ≤ c.val && c.val ≤ 0x7A
def CodePoint.isAsciiDigit (c : CodePoint) : Bool := 0x30 ≤ c.val && c.val ≤ 0x39

/-- Small letters of ASCII as capitals; all else as it is. -/
def CodePoint.asciiCapital (c : CodePoint) : CodePoint :=
  if c.isAsciiLower then CodePoint.ofNat (c.val - 0x20) else c

/-- Capitals of ASCII as small letters; all else as it is. -/
def CodePoint.asciiSmall (c : CodePoint) : CodePoint :=
  if c.isAsciiUpper then CodePoint.ofNat (c.val + 0x20) else c

/-! ## Order -/

/-- By code points, a text before its extensions. -/
def Text.le : Text → Text → Bool
  | [], _ => true
  | _ :: _, [] => false
  | a :: s, b :: t => if a = b then Text.le s t else a < b

/-! ## Joining and splitting -/

/-- The parts with a separator between each two. -/
def Text.join (sep : Text) : List Text → Text
  | [] => []
  | [t] => t
  | t :: ts => t ++ sep ++ Text.join sep ts

/-- The pieces between the separators: always one more than there are
separators. -/
def Text.splitAt (sep : CodePoint) : Text → List Text
  | [] => [[]]
  | c :: t =>
    if c = sep then [] :: Text.splitAt sep t
    else match Text.splitAt sep t with
      | [] => [[c]]
      | p :: ps => (c :: p) :: ps

/-- The text without a leading part, if it has that part. -/
def Text.dropLead? : (lead t : Text) → Option Text
  | [], t => some t
  | _ :: _, [] => none
  | a :: l, b :: t => if a = b then Text.dropLead? l t else none

/-! ## Hexadecimal -/

def hexDigit (n : Nat) : Char := if n < 10 then Char.ofNat (0x30 + n) else Char.ofNat (0x57 + n)

/-- The lowest `width` hexadecimal digits of a number, lower case. -/
def hexDigits : (width n : Nat) → Text
  | 0, _ => []
  | w + 1, n => hexDigits w (n / 16) ++ [↑(hexDigit (n % 16))]

end QuerySieve
