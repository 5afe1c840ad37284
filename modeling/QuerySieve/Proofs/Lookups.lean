-- The laws of looking names up. A look-up takes any text in lower case, and a declaration only
-- letters of ASCII. So a name that could not be declared finds something just where the Kelvin
-- sign stands in it for a K.
import QuerySieve.Proofs.Evaluations
import QuerySieve.Proofs.Lowercase
import QuerySieve.Proofs.Registries

namespace QuerySieve

/-! ## Names that read as plain ones -/

namespace Text

/-- The text with every Kelvin sign as the letter that it reads as. -/
def readKelvin (t : Text) : Text := t.map CodePoint.readKelvin

theorem readKelvin_of_notMem {t : Text} (h : CodePoint.kelvin ∉ t) : t.readKelvin = t := by
  have hid : t.map CodePoint.readKelvin = t.map id := by
    apply List.map_congr_left
    intro c hc
    exact CodePoint.readKelvin_of_ne fun he => h (he ▸ hc)
  rw [readKelvin, hid, List.map_id]

theorem kelvin_notMem_readKelvin (t : Text) : CodePoint.kelvin ∉ t.readKelvin := by
  intro h
  obtain ⟨c, -, hc⟩ := List.mem_map.mp h
  by_cases hk : c = CodePoint.kelvin
  · subst hk
    exact absurd hc (by decide)
  · rw [CodePoint.readKelvin_of_ne hk] at hc
    exact hk hc

end Text

namespace Name

theorem kelvin_notNameChar : isNameChar CodePoint.kelvin = false := by decide

/-- A code point with a form of name characters is one, or the Kelvin sign. -/
theorem isNameChar_readKelvin {c : CodePoint} (h : ∀ l ∈ c.lower, isNameChar l = true) :
    isNameChar c.readKelvin = true := by
  have hdotted : c.val ≠ 0x130 := by
    intro i
    have hform : c.lower = [0x69, 0x307] := by
      rw [CodePoint.lower, if_neg (by omega), if_pos i]
      rfl
    rw [hform] at h
    exact absurd (h 0x307 (by decide)) (by decide)
  obtain ⟨l, hl⟩ := List.exists_mem_of_ne_nil _ c.lower_ne_nil
  have low :=
    (CodePoint.readKelvin_lt_of_mem_lower hl (isNameChar_lt (h l hl))).resolve_left hdotted
  rw [CodePoint.lower_of_readKelvin_lt low] at h
  rw [← isNameChar_asciiSmall]
  exact h _ List.mem_cons_self

theorem lowerAfter_of_readKelvin (before : Text) {t : Text}
    (h : ∀ c ∈ t, isNameChar c.readKelvin = true) :
    Text.lowerAfter before t = t.readKelvin.map CodePoint.asciiSmall := by
  induction t generalizing before with
  | nil => rfl
  | cons c t ih =>
    have hc := h c List.mem_cons_self
    have hsigma : c ≠ 0x3A3 := by
      rintro rfl
      exact absurd hc (by decide)
    rw [Text.lowerAfter_cons_of_ne before t hsigma,
      CodePoint.lower_of_readKelvin_lt (isNameChar_lt hc),
      ih _ fun b hb => h b (List.mem_cons_of_mem _ hb)]
    rfl

theorem isNameChar_of_lowerAfter {before t : Text}
    (h : ∀ l ∈ Text.lowerAfter before t, isNameChar l = true) :
    ∀ c ∈ t, isNameChar c.readKelvin = true := by
  induction t generalizing before with
  | nil => simp
  | cons c t ih =>
    have hsigma : c ≠ 0x3A3 := by
      rintro rfl
      obtain ⟨l, hl, hform⟩ := Text.lowerAfter_cons_sigma before t
      have hname := h l (by simp [hform])
      rcases hl with rfl | rfl <;> exact absurd hname (by decide)
    rw [Text.lowerAfter_cons_of_ne before t hsigma] at h
    intro b hb
    rcases List.mem_cons.mp hb with rfl | hb
    · exact isNameChar_readKelvin fun l hl => h l (List.mem_append_left _ hl)
    · exact ih (fun l hl => h l (List.mem_append_right _ hl)) b hb

theorem Plain.lower_readKelvin {t : Text} (h : Plain t.readKelvin) :
    t.lower = t.readKelvin.lower := by
  rw [Text.lower_of_isAscii h.isAscii]
  apply lowerAfter_of_readKelvin
  intro c hc
  exact h.chars _ (List.mem_map_of_mem hc)

/-- The texts with a plain lower case are those that read as plain names. -/
theorem plain_lower_iff (t : Text) : Plain t.lower ↔ Plain t.readKelvin := by
  constructor
  · intro h
    constructor
    · intro hnil
      rw [List.map_eq_nil_iff.mp hnil] at h
      exact h.nonempty rfl
    · intro l hl
      obtain ⟨c, hc, rfl⟩ := List.mem_map.mp hl
      exact isNameChar_of_lowerAfter h.chars c hc
  · intro h
    rw [h.lower_readKelvin]
    exact h.lower

theorem parse_of_kelvin {name : Text} (h : CodePoint.kelvin ∈ name) :
    parse (sigil :: name) = .error .badChars :=
  parse_of_faultOf (.badChars h kelvin_notNameChar)

/-- A declaration of what a text reads as gives the key that the text is looked up under, if
that key can be declared at all. -/
theorem parse_readKelvin_iff (t key : Text) :
    parse (sigil :: t.readKelvin) = .ok key ↔ Plain key ∧ key = t.lower := by
  constructor
  · intro h
    obtain ⟨name, he, hp, rfl⟩ := parse_eq_ok h
    cases he
    exact ⟨hp.lower, hp.lower_readKelvin.symm⟩
  · rintro ⟨hp, rfl⟩
    rw [plain_lower_iff] at hp
    rw [parse_of_plain hp, hp.lower_readKelvin]

theorem bare_readKelvin (n : Text) : bare n.readKelvin = (bare n).readKelvin := by
  cases n with
  | nil => rfl
  | cons c n =>
    by_cases hc : c = sigil
    · subst hc
      rfl
    · have hread : c.readKelvin ≠ sigil := by
        by_cases hk : c = CodePoint.kelvin
        · subst hk
          decide
        · rwa [CodePoint.readKelvin_of_ne hk]
      change (if c.readKelvin = sigil then _ else _) = Text.readKelvin (if c = sigil then _ else _)
      rw [if_neg hc, if_neg hread]
      rfl

theorem kelvin_mem_bare (n : Text) : CodePoint.kelvin ∈ bare n ↔ CodePoint.kelvin ∈ n := by
  cases n with
  | nil => rfl
  | cons c n =>
    by_cases hc : c = sigil
    · subst hc
      have hne : CodePoint.kelvin ≠ sigil := by decide
      simp [bare, hne]
    · simp [bare, hc]

end Name

/-! ## Keys of a run -/

namespace Call

variable {d d' : Draft} {steps : List (Call × Except Trouble Reply)}

/-- A block that a run declared, with the key that its name gives. -/
def Declares (steps : List (Call × Except Trouble Reply)) (key : Text) (definition : Definition) :
    Prop :=
  ∃ raw ds, (declare raw ds, .ok (.declared definition)) ∈ steps ∧ Name.parse raw = .ok key

/-- Nothing is registered but what is declared. -/
def OnlyDeclare (cs : List Call) : Prop :=
  ∀ c ∈ cs, ∀ name definition, c ≠ register name definition

theorem Runs.performed {s : Call × Except Trouble Reply} (h : Runs d steps d') (mem : s ∈ steps) :
    ∃ e e', Performed e s.1 s.2 e' := by
  induction h with
  | nil => cases mem
  | cons leads performed rest ih =>
    rcases List.mem_cons.mp mem with rfl | hrest
    · exact ⟨_, _, performed⟩
    · exact ih hrest

/-- What a step entered was declared by it, or registered. -/
theorem Runs.entered {s : Call × Except Trouble Reply} {key : Text} {definition : Definition}
    (h : Runs d steps d') (mem : s ∈ steps) (he : entered? s = some (key, definition)) :
    Declares steps key definition ∨
      ∃ name, (register name definition, .ok .registered) ∈ steps ∧ key = Name.normalize name := by
  obtain ⟨c, r⟩ := s
  obtain ⟨e, e', performed⟩ := h.performed mem
  cases performed with
  | @failed c => cases c <;> cases he
  | declared unfrozen parse free compiles =>
    cases he
    rw [Name.normalize_of_parse parse]
    exact Or.inl ⟨_, _, mem, parse⟩
  | registered =>
    cases he
    exact Or.inr ⟨_, mem, rfl⟩
  | frozen => cases he

theorem Declares.entered {key : Text} {definition : Definition}
    (h : Declares steps key definition) : ∃ s ∈ steps, entered? s = some (key, definition) := by
  obtain ⟨raw, ds, mem, parse⟩ := h
  exact ⟨_, mem, by rw [entered?, Name.normalize_of_parse parse]⟩

theorem Declares.plain {key : Text} {definition : Definition}
    (h : Declares steps key definition) : Name.Plain key := by
  obtain ⟨raw, ds, -, parse⟩ := h
  obtain ⟨name, -, plain, rfl⟩ := Name.parse_eq_ok parse
  exact plain.lower

/-! ## Names that find what was declared -/

/-- Where nothing was registered directly, a name finds what was declared under the name that
it reads as. -/
theorem Runs.lookup_iff (h : Runs {} steps d') (only : OnlyDeclare (steps.map (·.1)))
    (n : Text) (definition : Definition) :
    Registry.lookup? ⟨d'.filters⟩ n = some definition ↔
      ∃ key, Name.parse (Name.sigil :: (Name.bare n).readKelvin) = .ok key ∧
        Declares steps key definition := by
  rw [h.maps.found n definition]
  constructor
  · rintro ⟨s, mem, he⟩
    rcases h.entered mem he with declared | ⟨name, registered, -⟩
    · exact ⟨_, (Name.parse_readKelvin_iff _ _).mpr ⟨declared.plain, rfl⟩, declared⟩
    · exact absurd rfl (only _ (List.mem_map_of_mem registered) name definition)
  · rintro ⟨key, parse, declared⟩
    obtain ⟨-, rfl⟩ := (Name.parse_readKelvin_iff _ _).mp parse
    exact declared.entered

theorem Runs.lookup_readKelvin (h : Runs {} steps d') (only : OnlyDeclare (steps.map (·.1)))
    (n : Text) :
    Registry.lookup? ⟨d'.filters⟩ n.readKelvin = Registry.lookup? ⟨d'.filters⟩ n := by
  have hread : (Name.bare n.readKelvin).readKelvin = (Name.bare n).readKelvin := by
    rw [Name.bare_readKelvin]
    exact Text.readKelvin_of_notMem (Text.kelvin_notMem_readKelvin _)
  apply Option.ext
  intro definition
  rw [h.lookup_iff only, h.lookup_iff only, hread]

/-- In a registry of declared blocks a name without a Kelvin sign finds a definition just where
it could be declared itself, and then the one that was declared under its key. A name with that
sign cannot be declared, and yet finds what it would find with a K in its place. Evaluating a
name goes by what it finds. -/
theorem a_name_finds_what_it_reads_as (before after : List Call) (j : Journal)
    (only : OnlyDeclare before) :
    ∃ r, (performAll (before ++ freeze :: after) {} j).1.1[before.length]? =
        some (.ok (.frozen r)) ∧
      (∀ n, CodePoint.kelvin ∉ n → ∀ definition, r.lookup? n = some definition ↔
        ∃ key, Name.parse (Name.sigil :: Name.bare n) = .ok key ∧
          Declares (before.zip (performAll (before ++ freeze :: after) {} j).1.1) key definition) ∧
      (∀ n, CodePoint.kelvin ∈ n →
        Name.parse (Name.sigil :: Name.bare n) = .error .badChars ∧
          r.lookup? n = r.lookup? n.readKelvin) ∧
      ∀ n q j', (r.evaluate n q j').1 =
        (r.lookup? n).map fun definition => ⟨definition.filtered q, definition.volatile⟩ := by
  obtain ⟨steps, d, hruns, hsteps, hfrozen, -⟩ := freeze_runs before after j
  have honly : OnlyDeclare (steps.map (·.1)) := by
    intro c hc
    obtain ⟨s, hs, rfl⟩ := List.mem_map.mp hc
    rw [hsteps] at hs
    exact only _ (List.of_mem_zip hs).1
  refine ⟨_, hfrozen, ?_, ?_, ?_⟩
  · intro n hn definition
    have hbare := Text.readKelvin_of_notMem fun h => hn ((Name.kelvin_mem_bare n).mp h)
    rw [← hsteps, hruns.lookup_iff honly, hbare]
  · intro n hn
    exact ⟨Name.parse_of_kelvin ((Name.kelvin_mem_bare n).mpr hn),
      (hruns.lookup_readKelvin honly n).symm⟩
  · intro n q j'
    exact Registry.evaluate_gives_lookup _ n q j'

/-- A block whose name is one letter. -/
def letterK : List Call := [declare "$k" []]

theorem letterK_replies : (performAll (letterK ++ [freeze]) {} (.empty .critical)).1.1 =
    [.ok (.declared {}), .ok (.frozen ⟨[("k", {})]⟩)] := rfl

theorem letterK_is_found_by_its_sign :
    OnlyDeclare letterK ∧ CodePoint.kelvin ∉ Text.ofString "K" ∧
      CodePoint.kelvin ∈ [CodePoint.kelvin] ∧
      ∃ r, (performAll (letterK ++ [freeze]) {} (.empty .critical)).1.1[1]? =
          some (.ok (.frozen r)) ∧
        r.lookup? "K" = some ({} : Definition) ∧
        r.lookup? [CodePoint.kelvin] = some ({} : Definition) := by
  have only : OnlyDeclare letterK := by
    intro c hc name definition
    rw [List.mem_singleton.mp hc]
    exact Call.noConfusion
  have absent : CodePoint.kelvin ∉ Text.ofString "K" := by decide
  have present : CodePoint.kelvin ∈ [CodePoint.kelvin] := List.mem_singleton_self _
  obtain ⟨r, frozen, plain, read, -⟩ :=
    a_name_finds_what_it_reads_as letterK [] (.empty .critical) only
  have hletter : r.lookup? "K" = some ({} : Definition) := by
    rw [plain "K" absent, letterK_replies]
    exact ⟨"k", by decide, "$k", [], List.mem_singleton_self _, by decide⟩
  refine ⟨only, absent, present, r, frozen, hletter, ?_⟩
  rw [(read [CodePoint.kelvin] present).2]
  exact hletter

/-- The Kelvin sign finds a block, though no block can be declared under it. -/
theorem kelvin_finds_what_it_cannot_declare :
    ∃ r, (performAll (letterK ++ [freeze]) {} (.empty .critical)).1.1[1]? =
        some (.ok (.frozen r)) ∧
      r.lookup? [CodePoint.kelvin] = some ({} : Definition) ∧
      Name.parse (Name.sigil :: Name.bare [CodePoint.kelvin]) = .error .badChars := by
  have key : Name.normalize [CodePoint.kelvin] = "k" := by decide +kernel
  refine ⟨⟨[("k", {})]⟩, ?_, ?_, by decide⟩
  · rw [letterK_replies]
    rfl
  · rw [Registry.lookup?, key]
    rfl

end Call

end QuerySieve
