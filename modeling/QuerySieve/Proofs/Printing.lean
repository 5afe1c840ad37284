-- The laws of what can be printed. Listings have a UTF-8 form and so has what is read from octets.
-- JSON is plain ASCII, so nothing in it is ever taken for a sequence for terminals.
import QuerySieve.Json
import QuerySieve.Listing
import QuerySieve.Proofs.Octets
import QuerySieve.Proofs.Styling
import QuerySieve.Proofs.Tables

namespace QuerySieve

/-! ## Texts with a UTF-8 form -/

namespace Text

theorem forall_mem_join {p : CodePoint → Prop} {sep : Text} {ts : List Text}
    (hsep : ∀ c ∈ sep, p c) (h : ∀ t ∈ ts, ∀ c ∈ t, p c) : ∀ c ∈ join sep ts, p c := by
  induction ts with
  | nil => exact fun c hc => nomatch hc
  | cons t ts ih =>
    rw [List.forall_mem_cons] at h
    cases ts with
    | nil => exact h.1
    | cons t' ts =>
      rw [join, List.forall_mem_append, List.forall_mem_append]
      · exact ⟨⟨h.1, hsep⟩, ih h.2⟩
      · simp

theorem Encodable.sublist {s t : Text} (h : t.Encodable) (sub : s.Sublist t) : s.Encodable :=
  fun c hc => h c (sub.mem hc)

@[simp] theorem encodable_append {s t : Text} :
    Encodable (s ++ t) ↔ s.Encodable ∧ t.Encodable := List.forall_mem_append

@[simp] theorem encodable_cons {c : CodePoint} {t : Text} :
    Encodable (c :: t) ↔ c.isSurrogate = false ∧ t.Encodable := List.forall_mem_cons

@[simp] theorem encodable_nil : Encodable [] := fun _ hc => nomatch hc

/-- A character is no surrogate. -/
@[simp] theorem encodable_ofString (s : String) : (ofString s).Encodable := by
  intro c hc
  obtain ⟨a, -, rfl⟩ := List.mem_map.mp hc
  have valid := a.valid
  simp only [UInt32.isValidChar, Nat.isValidChar] at valid
  rw [CodePoint.isSurrogate, Bool.and_eq_false_iff, decide_eq_false_iff_not,
    decide_eq_false_iff_not]
  simp only [CodePoint.ofChar, Char.toNat]
  omega

/-- A number is written in digits. -/
theorem digit_of_mem_ofNat {n : Nat} {c : CodePoint} (h : c ∈ ofNat n) :
    0x30 ≤ c.val ∧ c.val ≤ 0x39 := by
  obtain ⟨a, ha, rfl⟩ := List.mem_map.mp h
  have digit : a.isDigit = true := by
    apply Nat.isDigit_of_mem_toDigits (b := 10) (n := n) (by decide) (by decide)
    simpa using ha
  rw [Char.isDigit_iff_toNat] at digit
  simpa only [Char.reduceToNat, CodePoint.ofChar] using digit

@[simp] theorem encodable_ofNat (n : Nat) : (ofNat n).Encodable := encodable_ofString _

theorem encodable_of_isAscii {t : Text} (h : ∀ c ∈ t, c.val < 0x80) : t.Encodable := by
  intro c hc
  have := h c hc
  simp only [CodePoint.isSurrogate, Bool.and_eq_false_iff, decide_eq_false_iff_not]
  omega

end Text

/-- Octets that are read with replacement marks make up a text that can be written again. -/
theorem Bytes.encodable_decodeReplacing (b : Bytes) : b.decodeReplacing.Encodable := by
  fun_induction Bytes.decodeReplacing b with
  | case1 => exact Text.encodable_nil
  | case2 a rest n c read ih =>
    obtain ⟨tail, after, -, -, writes⟩ := writes_of_readUtf8 read
    exact Text.encodable_cons.mpr ⟨writes.isSurrogate_eq, ih⟩
  | case3 a rest n why read ih => exact Text.encodable_cons.mpr ⟨by decide, ih⟩

/-! ## Listings -/

namespace Registry

theorem encodable_describe (m : Matcher) : m.describe.Encodable := by
  cases m with
  | literal | pattern | faulty => exact Bytes.encodable_decodeReplacing _

theorem encodable_mark (m : Matcher) : m.mark.Encodable := by
  unfold Matcher.mark
  split
  · exact Text.encodable_nil
  · exact Text.encodable_ofString _
  · exact Text.encodable_ofString _

theorem encodable_line (index : Nat) (rule : Rule) : (rule.line index).Encodable := by
  have action : rule.action.name.Encodable := by
    cases rule.action with
    | keep | drop => exact Text.encodable_ofString _
  simp [Rule.line, action, encodable_mark, encodable_describe]

theorem encodable_lines (index : Nat) (rules : List Rule) :
    ∀ t ∈ Rule.lines index rules, t.Encodable := by
  induction rules generalizing index with
  | nil => exact fun t ht => nomatch ht
  | cons rule rules ih => exact List.forall_mem_cons.mpr ⟨encodable_line index rule, ih _⟩

theorem encodable_heading {name : Text} (h : name.Encodable) (d : Definition) :
    (d.heading name).Encodable := by
  have notes : ∀ t ∈ d.notes, t.Encodable := by
    unfold Definition.notes
    rw [List.forall_mem_append]
    constructor <;> split <;> simp
  have policy : d.initial.name.Encodable := by
    cases d.initial with
    | none | all => exact Text.encodable_ofString _
  have joined : (Text.join ", " d.notes).Encodable :=
    Text.forall_mem_join (Text.encodable_ofString _) notes
  have suffix : Text.Encodable (if d.notes.isEmpty then [] else
      Text.ofString " (" ++ Text.join ", " d.notes ++ Text.ofString ")") := by
    split <;> simp [joined]
  have sigil : Name.sigil.isSurrogate = false := by decide
  change Text.Encodable (Name.sigil :: (name ++ _ ++ _ ++ _))
  rw [Text.encodable_cons, Text.encodable_append, Text.encodable_append, Text.encodable_append]
  exact ⟨sigil, ⟨⟨h, Text.encodable_ofString _⟩, policy⟩, suffix⟩

/-- Where all names have a UTF-8 form, so has the listing. -/
theorem encodable_listing {r : Registry} (h : ∀ name ∈ r.names, name.Encodable) :
    ∀ t ∈ r.listing, t.Encodable := by
  unfold listing
  split
  · simp
  · intro t ht
    obtain ⟨⟨name, d⟩, hmem, ht⟩ := List.mem_flatMap.mp ht
    obtain ⟨n, hn, hitem⟩ := List.mem_filterMap.mp hmem
    obtain ⟨d', -, hitem⟩ := Option.map_eq_some_iff.mp hitem
    cases hitem
    rcases List.mem_cons.mp ht with rfl | ht
    · exact encodable_heading (h name hn) d
    · exact encodable_lines 0 d.rules t ht

end Registry

/-! ## JSON -/

namespace Json

/-- A line feed, or a character of ASCII that can be printed. -/
def Plain (c : CodePoint) : Prop := c.val = 0x0A ∨ 0x20 ≤ c.val ∧ c.val < 0x7F

instance (c : CodePoint) : Decidable (Plain c) := inferInstanceAs (Decidable (_ ∨ _))

/-- A text of such characters. -/
def IsPlain (t : Text) : Prop := ∀ c ∈ t, Plain c

instance (t : Text) : Decidable (IsPlain t) := List.decidableBAll Plain t

@[simp] theorem isPlain_append {s t : Text} : IsPlain (s ++ t) ↔ IsPlain s ∧ IsPlain t :=
  List.forall_mem_append

@[simp] theorem isPlain_cons {c : CodePoint} {t : Text} :
    IsPlain (c :: t) ↔ Plain c ∧ IsPlain t := List.forall_mem_cons

@[simp] theorem isPlain_nil : IsPlain [] := fun _ hc => nomatch hc

theorem isPlain_digit (n : Nat) : Plain (CodePoint.ofChar (hexDigit (n % 16))) := by
  have all : ∀ i : Fin 16, Plain (CodePoint.ofChar (hexDigit i)) := by decide
  exact all ⟨n % 16, Nat.mod_lt n (by decide)⟩

theorem isPlain_hexDigits (width n : Nat) : IsPlain (hexDigits width n) := by
  induction width generalizing n with
  | zero => exact isPlain_nil
  | succ width ih =>
    rw [hexDigits, isPlain_append]
    exact ⟨ih _, isPlain_cons.mpr ⟨isPlain_digit n, isPlain_nil⟩⟩

theorem isPlain_unit (n : Nat) : IsPlain (unit n) := by
  have lead : IsPlain "\\u" := by decide
  exact isPlain_append.mpr ⟨lead, isPlain_hexDigits 4 n⟩

theorem isPlain_escape (c : CodePoint) : IsPlain (escape c) := by
  unfold escape
  split
  · decide
  split
  · decide
  split
  · decide
  split
  · decide
  split
  · decide
  split
  · decide
  split
  · decide
  split
  next printable =>
    rw [Bool.and_eq_true, decide_eq_true_eq, decide_eq_true_eq] at printable
    exact isPlain_cons.mpr ⟨.inr printable, isPlain_nil⟩
  split
  · exact isPlain_unit _
  · exact isPlain_append.mpr ⟨isPlain_unit _, isPlain_unit _⟩

theorem isPlain_string (t : Text) : IsPlain (string t) := by
  have quote : IsPlain "\"" := by decide
  unfold string
  rw [isPlain_append, isPlain_append]
  refine ⟨⟨quote, ?_⟩, quote⟩
  intro c hc
  obtain ⟨a, -, ha⟩ := List.mem_flatMap.mp hc
  exact isPlain_escape a c ha

theorem isPlain_ofNat (n : Nat) : IsPlain (Text.ofNat n) := by
  intro c hc
  have digit := Text.digit_of_mem_ofNat hc
  right
  omega

theorem isPlain_ofInt (i : Int) : IsPlain (Text.ofInt i) := by
  unfold Text.ofInt
  rw [Int.toString_eq_repr, Int.repr_eq_if]
  split
  · exact isPlain_ofNat i.toNat
  · have minus : IsPlain "-" := by decide
    change IsPlain (Text.ofString ("-" ++ (-i).toNat.repr))
    rw [Text.ofString, String.toList_append, List.map_append, isPlain_append]
    exact ⟨minus, isPlain_ofNat (-i).toNat⟩

/-! ### Values -/

theorem isPlain_lead (l : Layout) (depth : Nat) : IsPlain (l.lead depth) := by
  unfold Layout.lead
  split
  · exact isPlain_nil
  · have feed : Plain (CodePoint.ofChar '\n') := by decide
    have blank : Plain (CodePoint.ofChar ' ') := by decide
    refine isPlain_cons.mpr ⟨feed, ?_⟩
    intro c hc
    rw [List.eq_of_mem_replicate hc]
    exact blank

theorem isPlain_member (l : Layout) {value : Text} (name : Text) (h : IsPlain value) :
    IsPlain (l.member name value) := by
  unfold Layout.member
  rw [isPlain_append, isPlain_append]
  refine ⟨⟨isPlain_string name, ?_⟩, h⟩
  split
  · decide
  · decide

theorem isPlain_enclose (l : Layout) (depth : Nat) {first last : CodePoint} {members : List Text}
    (hfirst : Plain first) (hlast : Plain last) (h : ∀ t ∈ members, IsPlain t) :
    IsPlain (l.enclose depth first last members) := by
  have comma : IsPlain "," := by decide
  unfold Layout.enclose
  split
  · simp [hfirst, hlast]
  · have led : ∀ t ∈ members.map (l.lead (depth + 1) ++ ·), IsPlain t := by
      intro t ht
      obtain ⟨member, hmember, rfl⟩ := List.mem_map.mp ht
      exact isPlain_append.mpr ⟨isPlain_lead l _, h member hmember⟩
    have joined : IsPlain (Text.join "," (members.map (l.lead (depth + 1) ++ ·))) :=
      Text.forall_mem_join comma led
    simp [hfirst, hlast, joined, isPlain_lead]

mutual

theorem isPlain_write (l : Layout) (depth : Nat) : (v : Value) → IsPlain (write l depth v)
  | .bool true | .bool false | .null | .real _ | .bytes _ | .other => by
    rw [write]
    decide
  | .int i => by
    rw [write]
    exact isPlain_ofInt i
  | .text t => by
    rw [write]
    exact isPlain_string t
  | .list items => by
    rw [write]
    exact isPlain_enclose l depth (by decide) (by decide) (isPlain_writeItems l (depth + 1) items)
  | .map pairs | .ledger pairs _ => by
    rw [write]
    apply isPlain_enclose l depth (by decide) (by decide)
    intro t ht
    obtain ⟨p, hp, rfl⟩ := List.mem_map.mp ht
    exact isPlain_member l p.1 (isPlain_writePairs l (depth + 1) pairs p (Pairs.mem_of_mem_table hp))

theorem isPlain_writeItems (l : Layout) (depth : Nat) :
    (items : List Value) → ∀ t ∈ writeItems l depth items, IsPlain t
  | [] => by simp [writeItems]
  | v :: vs => by
    rw [writeItems, List.forall_mem_cons]
    exact ⟨isPlain_write l depth v, isPlain_writeItems l depth vs⟩

theorem isPlain_writePairs (l : Layout) (depth : Nat) :
    (pairs : List (Text × Value)) → ∀ p ∈ writePairs l depth pairs, IsPlain p.2
  | [] => by simp [writePairs]
  | (k, v) :: ps => by
    rw [writePairs, List.forall_mem_cons]
    exact ⟨isPlain_write l depth v, isPlain_writePairs l depth ps⟩

end

section

variable {t : Text} (h : IsPlain t)
include h

theorem IsPlain.encodable : t.Encodable := by
  apply Text.encodable_of_isAscii
  intro c hc
  rcases h c hc with feed | printable
  · omega
  · omega

/-- An escape is no such character. -/
theorem IsPlain.not_styled : ¬ Style.Styled t := by
  apply Style.not_styled_of_not_escape
  intro c hc
  rw [Style.isEscape, decide_eq_false_iff_not]
  rcases h c hc with feed | printable
  · omega
  · omega

end

end Json

end QuerySieve
