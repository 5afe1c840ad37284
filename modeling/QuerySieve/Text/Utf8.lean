-- UTF-8. Encoding fails on the first run of lone surrogates. Decoding either
-- fails on the first malformed bytes or puts one replacement mark for each
-- longest malformed part.
import QuerySieve.Text.Basic

namespace QuerySieve

/-! ## Encoding -/

def CodePoint.utf8 (c : CodePoint) : Bytes :=
  let n := c.val
  if n < 0x80 then [n.toUInt8]
  else if n < 0x800 then [(0xC0 + n / 64).toUInt8, (0x80 + n % 64).toUInt8]
  else if n < 0x10000 then
    [(0xE0 + n / 4096).toUInt8, (0x80 + n / 64 % 64).toUInt8, (0x80 + n % 64).toUInt8]
  else
    [(0xF0 + n / 262144).toUInt8, (0x80 + n / 4096 % 64).toUInt8, (0x80 + n / 64 % 64).toUInt8,
      (0x80 + n % 64).toUInt8]

/-- The first run of lone surrogates in a text. -/
structure Unencodable where
  start : Nat
  /-- The place after the run. -/
  stop : Nat
  /-- The first surrogate of the run. -/
  head : CodePoint
  deriving DecidableEq, Repr

/-- The octets of a text, surrogates taken like other code points. -/
def Text.utf8 (t : Text) : Bytes := t.flatMap CodePoint.utf8

/-- The first code point that does not pass, with all surrogates that follow it. -/
def Text.firstRun? (passes : CodePoint → Bool) (t : Text) : Option Unencodable :=
  let start := (t.takeWhile passes).length
  match t.drop start with
  | [] => none
  | c :: r => some ⟨start, start + ((c :: r).takeWhile CodePoint.isSurrogate).length, c⟩

def Text.firstSurrogates? (t : Text) : Option Unencodable := t.firstRun? fun c => !c.isSurrogate

/-- The first surrogates that do not stand for octets. -/
def Text.firstUnescaped? (t : Text) : Option Unencodable :=
  t.firstRun? fun c => !c.isSurrogate || c.isEscapedOctet

/-- The UTF-8 form, if no lone surrogate stands in the text. -/
def Text.encode (t : Text) : Except Unencodable Bytes :=
  match t.firstSurrogates? with
  | none => .ok t.utf8
  | some e => .error e

/-! ## Decoding -/

/-- Why bytes are no UTF-8. -/
inductive Malformed
  | startByte
  | continuation
  | truncated
  deriving DecidableEq, Repr

def isContinuation (b : UInt8) : Bool := 0x80 ≤ b && b < 0xC0

/-- The second bytes that a lead byte allows: no overlong form, no surrogate and
nothing past the last code point. -/
def isSecond (lead b : UInt8) : Bool :=
  if lead = 0xE0 then 0xA0 ≤ b && b < 0xC0
  else if lead = 0xED then 0x80 ≤ b && b < 0xA0
  else if lead = 0xF0 then 0x90 ≤ b && b < 0xC0
  else if lead = 0xF4 then 0x80 ≤ b && b < 0x90
  else isContinuation b

/-- The low six bits of a continuation byte. -/
def tail6 (b : UInt8) : Nat := b.toNat % 64

/-- Reads one character at a lead byte: how many more bytes belong to it, and
the code point or what is wrong with those bytes. -/
def readUtf8 (lead : UInt8) (rest : Bytes) : Nat × Except Malformed CodePoint :=
  if lead < 0x80 then (0, .ok (CodePoint.ofNat lead.toNat))
  else if lead < 0xC2 then (0, .error .startByte)
  else if lead < 0xE0 then
    match rest with
    | [] => (0, .error .truncated)
    | b :: _ =>
      if isSecond lead b then (1, .ok (CodePoint.ofNat (lead.toNat % 32 * 64 + tail6 b)))
      else (0, .error .continuation)
  else if lead < 0xF0 then
    match rest with
    | [] => (0, .error .truncated)
    | b :: rest =>
      if isSecond lead b then
        match rest with
        | [] => (1, .error .truncated)
        | c :: _ =>
          if isContinuation c then
            (2, .ok (CodePoint.ofNat (lead.toNat % 16 * 4096 + tail6 b * 64 + tail6 c)))
          else (1, .error .continuation)
      else (0, .error .continuation)
  else if lead < 0xF5 then
    match rest with
    | [] => (0, .error .truncated)
    | b :: rest =>
      if isSecond lead b then
        match rest with
        | [] => (1, .error .truncated)
        | c :: rest =>
          if isContinuation c then
            match rest with
            | [] => (2, .error .truncated)
            | d :: _ =>
              if isContinuation d then
                (3, .ok (CodePoint.ofNat
                  (lead.toNat % 8 * 262144 + tail6 b * 4096 + tail6 c * 64 + tail6 d)))
              else (2, .error .continuation)
          else (1, .error .continuation)
      else (0, .error .continuation)
  else (0, .error .startByte)

/-- The first malformed bytes of an input. -/
structure Undecodable where
  start : Nat
  /-- The place after the malformed bytes. -/
  stop : Nat
  /-- The first malformed byte. -/
  head : UInt8
  reason : Malformed
  deriving DecidableEq, Repr

/-- The text whose UTF-8 form the bytes are. -/
def Bytes.decode (b : Bytes) : Except Undecodable Text := go b 0
where
  /-- Reads on at an offset. -/
  go : Bytes → Nat → Except Undecodable Text
    | [], _ => .ok []
    | b :: rest, at_ =>
      match readUtf8 b rest with
      | (n, .ok c) => (go (rest.drop n) (at_ + n + 1)).map (c :: ·)
      | (n, .error why) => .error ⟨at_, at_ + n + 1, b, why⟩
  termination_by b => b.length
  decreasing_by all_goals rw [List.length_drop, List.length_cons]; omega

/-- The text of the bytes, with a replacement mark for each malformed part. -/
def Bytes.decodeReplacing : Bytes → Text
  | [] => []
  | b :: rest =>
    match readUtf8 b rest with
    | (n, .ok c) => c :: Bytes.decodeReplacing (rest.drop n)
    | (n, .error _) => CodePoint.replacement :: Bytes.decodeReplacing (rest.drop n)
termination_by b => b.length
decreasing_by all_goals rw [List.length_drop, List.length_cons]; omega

/-! ## What an error says -/

def Malformed.message : Malformed → Text
  | .startByte => "invalid start byte"
  | .continuation => "invalid continuation byte"
  | .truncated => "unexpected end of data"

def Undecodable.message (e : Undecodable) : Text :=
  if e.stop = e.start + 1 then
    "'utf-8' codec can't decode byte 0x" ++ hexDigits 2 e.head.toNat ++ " in position "
      ++ Text.ofNat e.start ++ ": " ++ e.reason.message
  else
    "'utf-8' codec can't decode bytes in position " ++ Text.ofNat e.start ++ "-"
      ++ Text.ofNat (e.stop - 1) ++ ": " ++ e.reason.message

def Unencodable.message (e : Unencodable) : Text :=
  if e.stop = e.start + 1 then
    "'utf-8' codec can't encode character '\\u" ++ hexDigits 4 e.head.val ++ "' in position "
      ++ Text.ofNat e.start ++ ": surrogates not allowed"
  else
    "'utf-8' codec can't encode characters in position " ++ Text.ofNat e.start ++ "-"
      ++ Text.ofNat (e.stop - 1) ++ ": surrogates not allowed"

end QuerySieve
