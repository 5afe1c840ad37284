-- The laws of UTF-8. A code point that is no surrogate is written in one way, and reading gives
-- it back; so the text of octets that can be decoded has just those octets as its UTF-8 form, and
-- no replacement mark is ever put into it.
import Mathlib.Tactic.SplitIfs
import QuerySieve.Text.Utf8

namespace QuerySieve

/-! ## Octets as numbers -/

theorem toNat_toUInt8 {n : Nat} (h : n < 256) : n.toUInt8.toNat = n := by
  simp [Nat.mod_eq_of_lt h]

theorem toUInt8_eq {n : Nat} {b : UInt8} (h : n = b.toNat) : n.toUInt8 = b := by
  rw [← UInt8.toNat_inj, toNat_toUInt8 (h ▸ b.toNat_lt), h]

theorem tail6_lt (b : UInt8) : tail6 b < 64 := Nat.mod_lt _ (by decide)

/-- Six bits fit into a continuation byte. -/
theorem toNat_continuation (n : Nat) : (0x80 + n % 64).toUInt8.toNat = 0x80 + n % 64 := by
  have := Nat.mod_lt n (by decide : 0 < 64)
  exact toNat_toUInt8 (by omega)

theorem isContinuation_iff (b : UInt8) :
    isContinuation b = true ↔ 0x80 ≤ b.toNat ∧ b.toNat < 0xC0 := by
  simp [isContinuation, UInt8.le_iff_toNat_le, UInt8.lt_iff_toNat_lt]

theorem isSecond_iff (lead b : UInt8) : isSecond lead b = true ↔
    0x80 ≤ b.toNat ∧ b.toNat < 0xC0 ∧ (lead.toNat = 0xE0 → 0xA0 ≤ b.toNat) ∧
      (lead.toNat = 0xED → b.toNat < 0xA0) ∧ (lead.toNat = 0xF0 → 0x90 ≤ b.toNat) ∧
      (lead.toNat = 0xF4 → b.toNat < 0x90) := by
  simp only [isSecond, isContinuation, ← UInt8.toNat_inj, UInt8.le_iff_toNat_le,
    UInt8.lt_iff_toNat_lt, UInt8.reduceToNat]
  split_ifs <;> simp only [Bool.and_eq_true, decide_eq_true_eq] <;> omega

theorem val_ofNat {n : Nat} (h : n < 0x110000) : (CodePoint.ofNat n).val = n := by
  simp only [CodePoint.ofNat]
  omega

theorem ofNat_val {c : CodePoint} {n : Nat} (h : c.val = n) : CodePoint.ofNat n = c := by
  have := c.isLt
  apply Fin.ext
  rw [val_ofNat (by omega), h]

/-! ## One code point -/

/-- The lead byte and the further bytes that a code point is written with. -/
inductive Writes (c : CodePoint) : UInt8 → Bytes → Prop
  | one {a : UInt8} (lead : a.toNat < 0x80) (value : c.val = a.toNat) : Writes c a []
  | two {a b : UInt8} (low : 0xC2 ≤ a.toNat) (high : a.toNat < 0xE0)
      (second : isSecond a b = true) (value : c.val = a.toNat % 32 * 64 + tail6 b) :
      Writes c a [b]
  | three {a b d : UInt8} (low : 0xE0 ≤ a.toNat) (high : a.toNat < 0xF0)
      (second : isSecond a b = true) (third : isContinuation d = true)
      (value : c.val = a.toNat % 16 * 4096 + tail6 b * 64 + tail6 d) : Writes c a [b, d]
  | four {a b d e : UInt8} (low : 0xF0 ≤ a.toNat) (high : a.toNat < 0xF5)
      (second : isSecond a b = true) (third : isContinuation d = true)
      (fourth : isContinuation e = true)
      (value : c.val = a.toNat % 8 * 262144 + tail6 b * 4096 + tail6 d * 64 + tail6 e) :
      Writes c a [b, d, e]

section

variable {c : CodePoint} {a : UInt8} {tail : Bytes}

/-- What was written is read, and what comes after it is left. -/
theorem Writes.readUtf8 (h : Writes c a tail) (rest : Bytes) :
    readUtf8 a (tail ++ rest) = (tail.length, .ok c) := by
  unfold QuerySieve.readUtf8
  simp only [UInt8.lt_iff_toNat_lt, UInt8.reduceToNat]
  cases h with
  | one lead value => simp [lead, ofNat_val value]
  | two low high second value =>
    rw [if_neg (by omega), if_neg (by omega), if_pos high]
    simp [second, ofNat_val value]
  | three low high second third value =>
    rw [if_neg (by omega), if_neg (by omega), if_neg (by omega), if_pos high]
    simp [second, third, ofNat_val value]
  | four low high second third fourth value =>
    rw [if_neg (by omega), if_neg (by omega), if_neg (by omega), if_neg (by omega), if_pos high]
    simp [second, third, fourth, ofNat_val value]

/-- What is read was written. The lead bytes tell the four forms apart. -/
theorem writes_of_readUtf8 {rest : Bytes} {n : Nat} :
    readUtf8 a rest = (n, .ok c) →
    ∃ tail after, rest = tail ++ after ∧ tail.length = n ∧ Writes c a tail := by
  fun_cases readUtf8 a rest
  case case1 lead =>
    rw [UInt8.lt_iff_toNat_lt] at lead
    rintro ⟨⟩
    have := a.toNat_lt
    exact ⟨[], rest, rfl, rfl, .one lead (val_ofNat (by omega))⟩
  case case4 _ low high b after second =>
    rw [UInt8.lt_iff_toNat_lt] at low high
    rintro ⟨⟩
    have := tail6_lt b
    exact ⟨[b], after, rfl, rfl,
      .two (by simpa using low) high second (val_ofNat (by omega))⟩
  case case8 _ _ low high b second d after third =>
    rw [UInt8.lt_iff_toNat_lt] at low high
    rintro ⟨⟩
    have := tail6_lt b
    have := tail6_lt d
    exact ⟨[b, d], after, rfl, rfl,
      .three (by simpa using low) high second third (val_ofNat (by omega))⟩
  case case14 _ _ _ low high b second d third e after fourth =>
    rw [UInt8.lt_iff_toNat_lt] at low high
    simp only [UInt8.reduceToNat] at low high
    rintro ⟨⟩
    -- The largest lead byte allows no second byte that would lead past the last code point.
    have bounds := (isSecond_iff a b).mp second
    have := tail6_lt d
    have := tail6_lt e
    exact ⟨[b, d, e], after, rfl, rfl,
      .four (by omega) high second third fourth (val_ofNat (by rw [tail6]; omega))⟩
  all_goals exact fun h => nomatch h

theorem Writes.utf8_eq (h : Writes c a tail) : c.utf8 = a :: tail := by
  unfold CodePoint.utf8
  simp only
  cases h with
  | one lead value => rw [if_pos (by omega), toUInt8_eq value]
  | @two b low high second value =>
    obtain ⟨hb, hb', -⟩ := (isSecond_iff a b).mp second
    rw [tail6] at value
    rw [if_neg (by omega), if_pos (by omega), toUInt8_eq (b := a) (by omega),
      toUInt8_eq (b := b) (by omega)]
  | @three b d low high second third value =>
    have hb := (isSecond_iff a b).mp second
    have hd := (isContinuation_iff d).mp third
    rw [tail6, tail6] at value
    rw [if_neg (by omega), if_neg (by omega), if_pos (by omega), toUInt8_eq (b := a) (by omega),
      toUInt8_eq (b := b) (by omega), toUInt8_eq (b := d) (by omega)]
  | @four b d e low high second third fourth value =>
    have hb := (isSecond_iff a b).mp second
    have hd := (isContinuation_iff d).mp third
    have he := (isContinuation_iff e).mp fourth
    rw [tail6, tail6, tail6] at value
    rw [if_neg (by omega), if_neg (by omega), if_neg (by omega), toUInt8_eq (b := a) (by omega),
      toUInt8_eq (b := b) (by omega), toUInt8_eq (b := d) (by omega),
      toUInt8_eq (b := e) (by omega)]

theorem Writes.isSurrogate_eq (h : Writes c a tail) : c.isSurrogate = false := by
  simp only [CodePoint.isSurrogate, Bool.and_eq_false_iff, decide_eq_false_iff_not]
  cases h with
  | one lead value => omega
  | @two b low high second value =>
    have := tail6_lt b
    omega
  | @three b d low high second third value =>
    have hb := (isSecond_iff a b).mp second
    have := tail6_lt d
    rw [tail6] at value
    omega
  | @four b d e low high second third fourth value =>
    have hb := (isSecond_iff a b).mp second
    rw [tail6] at value
    omega

/-- Only surrogates cannot be written. -/
theorem exists_writes (h : c.isSurrogate = false) : ∃ a tail, Writes c a tail := by
  have hlt := c.isLt
  have hlast := toNat_continuation c.val
  simp only [CodePoint.isSurrogate, Bool.and_eq_false_iff, decide_eq_false_iff_not] at h
  by_cases one : c.val < 0x80
  · have ha := toNat_toUInt8 (n := c.val) (by omega)
    exact ⟨c.val.toUInt8, [], .one (by omega) (by omega)⟩
  by_cases two : c.val < 0x800
  · have ha := toNat_toUInt8 (n := 0xC0 + c.val / 64) (by omega)
    refine ⟨(0xC0 + c.val / 64).toUInt8, [(0x80 + c.val % 64).toUInt8], ?_⟩
    apply Writes.two
    · omega
    · omega
    · rw [isSecond_iff]; omega
    · rw [tail6]; omega
  have hmiddle := toNat_continuation (c.val / 64)
  by_cases three : c.val < 0x10000
  · have ha := toNat_toUInt8 (n := 0xE0 + c.val / 4096) (by omega)
    refine ⟨(0xE0 + c.val / 4096).toUInt8,
      [(0x80 + c.val / 64 % 64).toUInt8, (0x80 + c.val % 64).toUInt8], ?_⟩
    apply Writes.three
    · omega
    · omega
    · rw [isSecond_iff]; omega
    · rw [isContinuation_iff]; omega
    · rw [tail6, tail6]; omega
  · have ha := toNat_toUInt8 (n := 0xF0 + c.val / 262144) (by omega)
    have hsecond := toNat_continuation (c.val / 4096)
    refine ⟨(0xF0 + c.val / 262144).toUInt8, [(0x80 + c.val / 4096 % 64).toUInt8,
      (0x80 + c.val / 64 % 64).toUInt8, (0x80 + c.val % 64).toUInt8], ?_⟩
    apply Writes.four
    · omega
    · omega
    · rw [isSecond_iff]; omega
    · rw [isContinuation_iff]; omega
    · rw [isContinuation_iff]; omega
    · rw [tail6, tail6, tail6]; omega

end

/-! ## Texts -/

/-- No lone surrogate stands in the text. -/
def Text.Encodable (t : Text) : Prop := ∀ c ∈ t, c.isSurrogate = false

theorem Text.firstSurrogates?_eq_none_iff (t : Text) :
    t.firstSurrogates? = none ↔ t.Encodable := by
  unfold firstSurrogates? firstRun? Encodable
  induction t with
  | nil => simp
  | cons c t ih =>
    cases hc : c.isSurrogate with
    | true => simp [hc]
    | false =>
      simp only [List.mem_cons, forall_eq_or_imp, hc, true_and, ← ih]
      simp only [List.takeWhile_cons, hc, Bool.not_false, if_true, List.length_cons,
        List.drop_succ_cons]
      split <;> simp

theorem Text.encode_eq_ok_iff {t : Text} {b : Bytes} :
    t.encode = .ok b ↔ t.Encodable ∧ t.utf8 = b := by
  rw [← firstSurrogates?_eq_none_iff, encode]
  cases t.firstSurrogates? with
  | none => simp
  | some e => simp

theorem Text.utf8_cons (c : CodePoint) (t : Text) : Text.utf8 (c :: t) = c.utf8 ++ t.utf8 :=
  List.flatMap_cons

namespace Bytes

theorem go_utf8 {t : Text} (h : t.Encodable) (at_ : Nat) : decode.go t.utf8 at_ = .ok t := by
  induction t generalizing at_ with
  | nil => simp [Text.utf8, decode.go]
  | cons c t ih =>
    obtain ⟨hc, ht⟩ := List.forall_mem_cons.mp h
    obtain ⟨a, tail, writes⟩ := exists_writes hc
    rw [Text.utf8_cons, writes.utf8_eq, List.cons_append, decode.go, writes.readUtf8]
    simp only [List.drop_left]
    rw [ih ht]
    rfl

/-- Where decoding never fails, putting in replacement marks puts in none. -/
theorem go_ok {b : Bytes} {at_ : Nat} {t : Text} (h : decode.go b at_ = .ok t) :
    t.Encodable ∧ t.utf8 = b ∧ b.decodeReplacing = t := by
  fun_induction decode.go b at_ generalizing t with
  | case1 at_ =>
    cases h
    refine ⟨?_, rfl, ?_⟩
    · exact fun c hc => nomatch hc
    · rw [decodeReplacing.eq_def]
  | case2 a rest at_ n c read ih =>
    obtain ⟨tail, after, rfl, rfl, writes⟩ := writes_of_readUtf8 read
    rw [List.drop_left] at h ih
    cases hgo : decode.go after (at_ + tail.length + 1) with
    | error e =>
      rw [hgo] at h
      cases h
    | ok t =>
      rw [hgo] at h
      cases h
      obtain ⟨encodable, hutf8, hreplacing⟩ := ih hgo
      refine ⟨?_, ?_, ?_⟩
      · exact List.forall_mem_cons.mpr ⟨writes.isSurrogate_eq, encodable⟩
      · rw [Text.utf8_cons, writes.utf8_eq, hutf8, List.cons_append]
      · rw [decodeReplacing.eq_def]
        simp only [writes.readUtf8, List.drop_left, hreplacing]
  | case3 => cases h

/-- Decoding and encoding undo each other. -/
theorem decode_eq_ok_iff {b : Bytes} {t : Text} : b.decode = .ok t ↔ t.encode = .ok b := by
  rw [Text.encode_eq_ok_iff]
  constructor
  · intro h
    obtain ⟨encodable, hutf8, -⟩ := go_ok h
    exact ⟨encodable, hutf8⟩
  · rintro ⟨encodable, rfl⟩
    exact go_utf8 encodable 0

theorem decodeReplacing_of_decode {b : Bytes} {t : Text} (h : b.decode = .ok t) :
    b.decodeReplacing = t := (go_ok h).2.2

end Bytes

end QuerySieve
