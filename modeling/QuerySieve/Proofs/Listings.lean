-- The laws of the listing of a registry. A line of the listing starts with a blank or with a sigil,
-- so lines can be told apart unless a value has a line feed before one of these; and then two
-- listings are the same just where they tell the same of each definition. What they tell of a rule
-- is its action, its mark and its value without the sequences that would style it.
import QuerySieve.Proofs.Verdicts

namespace QuerySieve

/-! ## Telling lines apart -/

namespace Listing

open Style (lineFeed)

/-- Starts a line: the blank of a rule, or the sigil of a heading. -/
def isLead (c : CodePoint) : Bool := c = ' ' || c = Name.sigil

/-- No line feed in the text is followed by what starts a line. -/
def Whole (t : Text) : Prop :=
  ∀ before c after, t = before ++ lineFeed :: c :: after → isLead c = false

/-- A text that starts like a line and has no other start of a line in it. -/
structure IsLine (t : Text) : Prop where
  lead : ∃ c rest, t = c :: rest ∧ isLead c = true
  whole : Whole t

/-- Nothing, or the end of a line and the start of the next one. -/
def IsRest (t : Text) : Prop := t = [] ∨ ∃ c after, t = lineFeed :: c :: after ∧ isLead c = true

theorem not_isLead_lineFeed : isLead lineFeed = false := by decide

theorem whole_of_notMem {t : Text} (h : lineFeed ∉ t) : Whole t := by
  rintro before c after rfl
  exact absurd (by simp) h

/-- A text without line feeds may stand before a text. -/
theorem whole_append {s t : Text} (h : lineFeed ∉ s) (ht : Whole t) : Whole (s ++ t) := by
  intro before c after same
  rcases List.append_eq_append_iff.mp same with ⟨more, rfl, hmore⟩ | ⟨more, rfl, hmore⟩
  · exact ht more c after hmore
  · cases more with
    | nil => exact ht [] c after hmore.symm
    | cons a more =>
      obtain ⟨rfl, -⟩ := List.cons.inj hmore
      exact absurd (by simp) h

/-- A line does not go on in what comes after another one. -/
theorem eq_nil_of_rest {l m r s more : Text} (whole : Whole l) (hr : IsRest r) (hs : IsRest s)
    (long : l = m ++ more) (same : s = more ++ r) : more = [] := by
  cases more with
  | nil => rfl
  | cons a more =>
    rcases hs with rfl | ⟨c, after, rfl, lead⟩
    · cases same
    · obtain ⟨rfl, tails⟩ := List.cons.inj same
      cases more with
      | nil =>
        rcases hr with rfl | ⟨d, after', rfl, -⟩
        · cases tails
        · obtain ⟨rfl, -⟩ := List.cons.inj tails
          rw [not_isLead_lineFeed] at lead
          cases lead
      | cons b more =>
        obtain ⟨rfl, -⟩ := List.cons.inj tails
        rw [whole m c more long] at lead
        cases lead

theorem append_inj {l m r s : Text} (hl : Whole l) (hm : Whole m) (hr : IsRest r) (hs : IsRest s)
    (same : l ++ r = m ++ s) : l = m ∧ r = s := by
  rcases List.append_eq_append_iff.mp same with ⟨more, long, hmore⟩ | ⟨more, long, hmore⟩
  · obtain rfl := eq_nil_of_rest hm hs hr long hmore
    exact ⟨by simpa using long.symm, by simpa using hmore⟩
  · obtain rfl := eq_nil_of_rest hl hr hs long hmore
    exact ⟨by simpa using long, by simpa using hmore.symm⟩

/-- What comes after the first of some lines. -/
def rest (ls : List Text) : Text := ls.flatMap (lineFeed :: ·)

theorem join_cons (l : Text) (ls : List Text) : Text.join "\n" (l :: ls) = l ++ rest ls := by
  induction ls generalizing l with
  | nil => exact (List.append_nil l).symm
  | cons m ls ih =>
    change l ++ "\n" ++ Text.join "\n" (m :: ls) = l ++ rest (m :: ls)
    rw [ih m, List.append_assoc]
    rfl

theorem isRest_rest {ls : List Text} (h : ∀ l ∈ ls, IsLine l) : IsRest (rest ls) := by
  cases ls with
  | nil => exact .inl rfl
  | cons l ls =>
    obtain ⟨c, t, rfl, lead⟩ := (h l List.mem_cons_self).lead
    exact .inr ⟨c, _, rfl, lead⟩

theorem rest_inj {ls ms : List Text} (hls : ∀ l ∈ ls, IsLine l) (hms : ∀ m ∈ ms, IsLine m)
    (same : rest ls = rest ms) : ls = ms := by
  induction ls generalizing ms with
  | nil =>
    cases ms with
    | nil => rfl
    | cons m ms => cases same
  | cons l ls ih =>
    cases ms with
    | nil => cases same
    | cons m ms =>
      rw [List.forall_mem_cons] at hls hms
      obtain ⟨rfl, rests⟩ := append_inj hls.1.whole hms.1.whole (isRest_rest hls.2)
        (isRest_rest hms.2) (List.cons.inj same).2
      rw [ih hls.2 hms.2 rests]

/-- Lines that are joined can be told apart again. -/
theorem join_inj {ls ms : List Text} (hls : ∀ l ∈ ls, IsLine l) (hms : ∀ m ∈ ms, IsLine m)
    (same : Text.join "\n" ls = Text.join "\n" ms) : ls = ms := by
  cases ls with
  | nil =>
    cases ms with
    | nil => rfl
    | cons m ms =>
      obtain ⟨c, t, rfl, -⟩ := (hms m List.mem_cons_self).lead
      rw [join_cons] at same
      cases same
  | cons l ls =>
    cases ms with
    | nil =>
      obtain ⟨c, t, rfl, -⟩ := (hls l List.mem_cons_self).lead
      rw [join_cons] at same
      cases same
    | cons m ms =>
      apply rest_inj hls hms
      rw [join_cons, join_cons] at same
      exact congrArg (lineFeed :: ·) same

/-! ## Telling parts of a line apart -/

/-- Two lists that are the same end their first parts at the same place, if each part ends where
something else stands for the first time. -/
theorem append_inj_of_first {α : Type} {p : α → Bool} {as bs cs ds : List α}
    (has : ∀ a ∈ as, p a = true) (hbs : ∀ b ∈ bs, p b = true) (hcs : ∀ c ∈ cs.head?, p c = false)
    (hds : ∀ d ∈ ds.head?, p d = false) (same : as ++ cs = bs ++ ds) : as = bs ∧ cs = ds := by
  have ends : ∀ es : List α, (∀ e ∈ es.head?, p e = false) → es.takeWhile p = [] := by
    intro es hes
    cases es with
    | nil => rfl
    | cons e es => rw [List.takeWhile_cons, hes e rfl, if_neg Bool.false_ne_true]
  have parts := congrArg (List.takeWhile p) same
  rw [List.takeWhile_append_of_pos has, List.takeWhile_append_of_pos hbs, ends cs hcs, ends ds hds,
    List.append_nil, List.append_nil] at parts
  subst parts
  exact ⟨rfl, List.append_cancel_left same⟩

/-- Characters of ASCII that can be printed. -/
def Printed (t : Text) : Prop := ∀ c ∈ t, 0x20 ≤ c.val ∧ c.val < 0x7F

instance (t : Text) : Decidable (Printed t) := List.decidableBAll _ t

theorem printed_append {s t : Text} (hs : Printed s) (ht : Printed t) : Printed (s ++ t) :=
  List.forall_mem_append.mpr ⟨hs, ht⟩

theorem printed_ofNat (n : Nat) : Printed (Text.ofNat n) := by
  intro c hc
  have digit := Text.digit_of_mem_ofNat hc
  omega

theorem printed_of_plain {name : Text} (h : Name.Plain name) : Printed name := by
  intro c hc
  have hu : ('_' : CodePoint).val = 0x5F := by decide
  have char := h.chars c hc
  simp only [Name.isNameChar, CodePoint.isAsciiUpper, CodePoint.isAsciiLower,
    CodePoint.isAsciiDigit, Bool.or_eq_true, Bool.and_eq_true, decide_eq_true_eq, Fin.ext_iff,
    hu] at char
  omega

theorem Printed.lineFeed_notMem {t : Text} (h : Printed t) : lineFeed ∉ t := by
  intro feed
  have printed := h lineFeed feed
  have value : lineFeed.val = 0x0A := by decide
  omega

theorem Printed.drop_append {s : Text} (h : Printed s) (t : Text) :
    Style.drop (s ++ t) = s ++ Style.drop t := by
  apply Style.drop_append_of_not_escape
  intro c hc
  rw [Style.isEscape, decide_eq_false_iff_not]
  have printed := h c hc
  omega

end Listing

open Listing (IsLine Printed)

/-! ## Rules -/

namespace Rule

/-- What stands in the line of a rule before its mark. -/
def lead (index : Nat) (action : Action) : Text :=
  "  [" ++ Text.ofNat index ++ "] " ++ (action.name ++ " ")

/-- What comes out of the rest: the mark, and the value without sequences. -/
def told (r : Rule) : Text := r.matcher.mark ++ Style.drop r.matcher.describe

/-- Two rules that are told of alike. -/
structure Alike (r s : Rule) : Prop where
  action : r.action = s.action
  told : r.told = s.told

/-- What is told of the rule goes on to the end of its line. -/
def Legible (r : Rule) : Prop := Listing.Whole r.told

theorem printed_lead (index : Nat) (action : Action) : Printed (lead index action) := by
  have before : Printed "  [" := by decide
  have after : Printed "] " := by decide
  have name : Printed (action.name ++ " ") := by
    cases action with
    | keep => decide
    | drop => decide
  have place := Listing.printed_append before (Listing.printed_ofNat index)
  exact Listing.printed_append (Listing.printed_append place after) name

theorem printed_mark (m : Matcher) : Printed m.mark := by
  unfold Matcher.mark
  split
  · decide
  · decide
  · decide

/-- A line comes out as its start and what is told. -/
theorem drop_line (index : Nat) (r : Rule) :
    Style.drop (r.line index) = lead index r.action ++ r.told := by
  have parts : r.line index = lead index r.action ++ (r.matcher.mark ++ r.matcher.describe) := by
    unfold line lead
    simp only [List.append_assoc]
  rw [parts, (printed_lead index r.action).drop_append, (printed_mark r.matcher).drop_append]
  rfl

theorem isLine_line {r : Rule} (legible : r.Legible) (index : Nat) :
    IsLine (Style.drop (r.line index)) := by
  rw [drop_line]
  refine ⟨⟨' ', _, rfl, by decide⟩, ?_⟩
  exact Listing.whole_append (printed_lead index r.action).lineFeed_notMem legible

theorem alike_of_line {index : Nat} {r s : Rule}
    (same : Style.drop (r.line index) = Style.drop (s.line index)) : r.Alike s := by
  rw [drop_line, drop_line] at same
  unfold lead at same
  rw [List.append_assoc, List.append_assoc _ _ s.told, List.append_cancel_left_eq] at same
  cases hr : r.action <;> cases hs : s.action <;> rw [hr, hs] at same
  · exact ⟨hr.trans hs.symm, List.append_cancel_left same⟩
  · cases same
  · cases same
  · exact ⟨hr.trans hs.symm, List.append_cancel_left same⟩

theorem Alike.line_eq {r s : Rule} (h : r.Alike s) (index : Nat) :
    Style.drop (r.line index) = Style.drop (s.line index) := by
  rw [drop_line, drop_line, h.action, h.told]

/-- Lines are the same just where the rules are alike, one by one. -/
theorem lines_eq_iff (index : Nat) (rules others : List Rule) :
    (lines index rules).map Style.drop = (lines index others).map Style.drop ↔
      List.Forall₂ Alike rules others := by
  induction rules generalizing index others with
  | nil =>
    cases others with
    | nil => simp [lines]
    | cons s others => simp [lines]
  | cons r rules ih =>
    cases others with
    | nil => simp [lines]
    | cons s others =>
      rw [lines, lines, List.map_cons, List.map_cons, List.cons_eq_cons, ih,
        List.forall₂_cons]
      exact and_congr_left' ⟨alike_of_line, fun h => h.line_eq index⟩

end Rule

/-! ## Definitions -/

namespace Definition

/-- Two definitions that are told of alike. -/
structure Alike (d e : Definition) : Prop where
  initial : d.initial = e.initial
  isVolatile : d.volatile = e.volatile
  rules : List.Forall₂ Rule.Alike d.rules e.rules

/-- What stands in a heading after the name. -/
def trail (p : Policy) (isVolatile isIdentity : Bool) : Text :=
  let notes := (if isVolatile then [Text.ofString "volatile"] else [])
    ++ (if isIdentity then [Text.ofString "identity"] else [])
  let shown : Text := if notes.isEmpty then [] else " (" ++ Text.join ", " notes ++ ")"
  ": initial " ++ (p.name ++ shown)

theorem heading_eq (name : Text) (d : Definition) :
    d.heading name = Name.sigil :: (name ++ trail d.initial d.volatile d.isIdentity) := by
  unfold heading trail
  simp only [List.cons_append, List.append_assoc]
  rfl

theorem printed_trail (p : Policy) (isVolatile isIdentity : Bool) :
    Printed (trail p isVolatile isIdentity) := by
  cases p <;> revert isVolatile isIdentity <;> decide

theorem trail_inj {p q : Policy} {isVolatile isIdentity isVolatile' isIdentity' : Bool}
    (same : trail p isVolatile isIdentity = trail q isVolatile' isIdentity') :
    p = q ∧ isVolatile = isVolatile' := by
  revert isVolatile isIdentity isVolatile' isIdentity'
  cases p <;> cases q <;> decide

theorem printed_heading {name : Text} (plain : Name.Plain name) (d : Definition) :
    Printed (d.heading name) := by
  rw [heading_eq]
  have sigil : Printed [Name.sigil] := by decide
  exact Listing.printed_append sigil
    (Listing.printed_append (Listing.printed_of_plain plain) (printed_trail _ _ _))

theorem drop_heading {name : Text} (plain : Name.Plain name) (d : Definition) :
    Style.drop (d.heading name) = d.heading name := by
  have h := (printed_heading plain d).drop_append []
  rwa [List.append_nil, show Style.drop [] = [] from rfl, List.append_nil] at h

theorem isLine_heading {name : Text} (plain : Name.Plain name) (d : Definition) :
    IsLine (d.heading name) := by
  refine ⟨⟨Name.sigil, _, rfl, by decide⟩, ?_⟩
  exact Listing.whole_of_notMem (printed_heading plain d).lineFeed_notMem

theorem heading_inj {name other : Text} {d e : Definition} (plain : Name.Plain name)
    (plain' : Name.Plain other) (same : d.heading name = e.heading other) :
    name = other ∧ d.initial = e.initial ∧ d.volatile = e.volatile := by
  rw [heading_eq, heading_eq] at same
  have colon : ∀ (p : Policy) (isVolatile isIdentity : Bool),
      ∀ c ∈ (trail p isVolatile isIdentity).head?, Name.isNameChar c = false := by
    rintro p isVolatile isIdentity c ⟨⟩
    decide
  obtain ⟨names, trails⟩ := Listing.append_inj_of_first plain.chars plain'.chars (colon _ _ _)
    (colon _ _ _) (List.cons.inj same).2
  exact ⟨names, trail_inj trails⟩

theorem Alike.isIdentity_eq {d e : Definition} (h : d.Alike e) : d.isIdentity = e.isIdentity := by
  unfold isIdentity
  rw [h.initial]
  cases hd : d.rules with
  | nil =>
    have rules := h.rules
    rw [hd, List.forall₂_nil_left_iff] at rules
    rw [rules]
  | cons r rules =>
    have alike := h.rules
    rw [hd] at alike
    obtain ⟨s, others, -, -, he⟩ := List.forall₂_cons_left_iff.mp alike
    rw [he]
    rfl

theorem Alike.heading_eq {d e : Definition} (h : d.Alike e) (name : Text) :
    d.heading name = e.heading name := by
  rw [Definition.heading_eq, Definition.heading_eq, h.initial, h.isVolatile, h.isIdentity_eq]

end Definition

/-! ## Registries -/

namespace Registry

/-- What comes out of the lines of a definition. -/
def printed (f : Text × Definition) : List Text := (f.2.lines f.1).map Style.drop

/-- Two named definitions that are told of alike. -/
structure ItemAlike (f g : Text × Definition) : Prop where
  name : f.1 = g.1
  definition : f.2.Alike g.2

/-- Every rule of the registry has a property. -/
def EachRule (p : Rule → Prop) (r : Registry) : Prop := ∀ f ∈ r.filters, ∀ rule ∈ f.2.rules, p rule

/-- The line is one of a rule. -/
def isRuleLine (l : Text) : Bool := l.head? = some (CodePoint.ofChar ' ')

theorem printed_eq {f : Text × Definition} (plain : Name.Plain f.1) :
    printed f = f.2.heading f.1 :: (Rule.lines 0 f.2.rules).map Style.drop := by
  unfold printed Definition.lines
  rw [List.map_cons, Definition.drop_heading plain]

theorem isRuleLine_lines (index : Nat) (rules : List Rule) :
    ∀ l ∈ (Rule.lines index rules).map Style.drop, isRuleLine l = true := by
  induction rules generalizing index with
  | nil => simp [Rule.lines]
  | cons r rules ih =>
    rw [Rule.lines, List.map_cons, List.forall_mem_cons, Rule.drop_line]
    exact ⟨rfl, ih (index + 1)⟩

theorem not_isRuleLine_head {items : List (Text × Definition)}
    (plain : ∀ f ∈ items, Name.Plain f.1) :
    ∀ l ∈ (items.flatMap printed).head?, isRuleLine l = false := by
  cases items with
  | nil => simp
  | cons f items =>
    rw [List.flatMap_cons, printed_eq (plain f List.mem_cons_self)]
    rintro l ⟨⟩
    rw [Definition.heading_eq]
    exact (by decide : isRuleLine [Name.sigil] = false)

theorem ItemAlike.printed_eq {f g : Text × Definition} (h : ItemAlike f g)
    (plain : Name.Plain f.1) : printed f = printed g := by
  rw [Registry.printed_eq plain, Registry.printed_eq (h.name ▸ plain), h.definition.heading_eq,
    h.name, (Rule.lines_eq_iff 0 f.2.rules g.2.rules).mpr h.definition.rules]

/-- The lines of definitions are the same just where the definitions are alike, one by one. -/
theorem printed_eq_iff {items others : List (Text × Definition)}
    (plain : ∀ f ∈ items, Name.Plain f.1) (plain' : ∀ f ∈ others, Name.Plain f.1) :
    items.flatMap printed = others.flatMap printed ↔ List.Forall₂ ItemAlike items others := by
  induction items generalizing others with
  | nil =>
    cases others with
    | nil => simp
    | cons g others =>
      rw [List.flatMap_cons, printed_eq (plain' g List.mem_cons_self)]
      simp
  | cons f items ih =>
    cases others with
    | nil =>
      rw [List.flatMap_cons, printed_eq (plain f List.mem_cons_self)]
      simp
    | cons g others =>
      rw [List.forall_mem_cons] at plain plain'
      rw [List.flatMap_cons, List.flatMap_cons, List.forall₂_cons, ← ih plain.2 plain'.2]
      constructor
      · intro same
        rw [printed_eq plain.1, printed_eq plain'.1] at same
        obtain ⟨headings, tails⟩ := List.cons.inj same
        obtain ⟨name, initial, isVolatile⟩ :=
          Definition.heading_inj plain.1 plain'.1 headings
        obtain ⟨rules, more⟩ := Listing.append_inj_of_first (isRuleLine_lines 0 f.2.rules)
          (isRuleLine_lines 0 g.2.rules) (not_isRuleLine_head plain.2)
          (not_isRuleLine_head plain'.2) tails
        exact ⟨⟨name, initial, isVolatile, (Rule.lines_eq_iff 0 _ _).mp rules⟩, more⟩
      · rintro ⟨alike, more⟩
        rw [alike.printed_eq plain.1, more]

theorem isLine_printed {f : Text × Definition} (plain : Name.Plain f.1)
    (legible : ∀ rule ∈ f.2.rules, rule.Legible) : ∀ l ∈ printed f, IsLine l := by
  have lines : ∀ (index : Nat) (rules : List Rule), (∀ rule ∈ rules, rule.Legible) →
      ∀ l ∈ (Rule.lines index rules).map Style.drop, IsLine l := by
    intro index rules
    induction rules generalizing index with
    | nil => simp [Rule.lines]
    | cons r rules ih =>
      intro legible
      rw [List.forall_mem_cons] at legible
      rw [Rule.lines, List.map_cons, List.forall_mem_cons]
      exact ⟨Rule.isLine_line legible.1 index, ih (index + 1) legible.2⟩
  rw [printed_eq plain, List.forall_mem_cons]
  exact ⟨Definition.isLine_heading plain f.2, lines 0 f.2.rules legible⟩

end Registry

namespace Command

open Registry (printed ItemAlike)

theorem outputLine_shownIn {r : Registry} (full : r.filters ≠ []) :
    outputLine (shownIn r .text) = Text.join "\n" (r.items.flatMap printed) ++ "\n" := by
  have lines : r.listing = r.items.flatMap fun f => f.2.lines f.1 := by
    unfold Registry.listing
    rw [if_neg (by simpa [Registry.size] using full)]
  rw [outputLine, shownIn, lines, Style.drop_join, List.map_flatMap]
  rfl

/-- The definitions of a registry that was loaded have plain names. -/
theorem plain_items {w : World} {p : Path} {r : Registry}
    (loads : (Registry.ofFile w p).ComesTo (.ok r)) : ∀ f ∈ r.items, Name.Plain f.1 := by
  obtain ⟨distinct, plain⟩ := Registry.named_of_ofFile loads
  intro f hf
  apply plain
  rw [← Registry.items_names distinct]
  exact List.mem_map_of_mem hf

/-- Two listings are the same just where the definitions are alike. -/
theorem outputLine_eq_iff_alike {w w' : World} {p p' : Path} {r r' : Registry}
    (loads : (Registry.ofFile w p).ComesTo (.ok r))
    (loads' : (Registry.ofFile w' p').ComesTo (.ok r')) (full : r.filters ≠ [])
    (full' : r'.filters ≠ []) (legible : r.EachRule Rule.Legible)
    (legible' : r'.EachRule Rule.Legible) :
    outputLine (shownIn r .text) = outputLine (shownIn r' .text) ↔
      List.Forall₂ ItemAlike r.items r'.items := by
  have plain := plain_items loads
  have plain' := plain_items loads'
  have lines : ∀ {r : Registry}, Pairs.Distinct r.filters → (∀ f ∈ r.items, Name.Plain f.1) →
      r.EachRule Rule.Legible → ∀ l ∈ r.items.flatMap printed, IsLine l := by
    intro r distinct plain legible l hl
    obtain ⟨f, hf, hl⟩ := List.mem_flatMap.mp hl
    exact Registry.isLine_printed (plain f hf)
      (legible f ((Registry.mem_items distinct f.1 f.2).mp hf)) l hl
  obtain ⟨distinct, -⟩ := Registry.named_of_ofFile loads
  obtain ⟨distinct', -⟩ := Registry.named_of_ofFile loads'
  rw [outputLine_shownIn full, outputLine_shownIn full', List.append_cancel_right_eq,
    ← Registry.printed_eq_iff plain plain']
  constructor
  · exact Listing.join_inj (lines distinct plain legible) (lines distinct' plain' legible')
  · exact congrArg _

end Command

end QuerySieve
