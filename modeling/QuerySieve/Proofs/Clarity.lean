-- The law of what a listing tells. Rules that come from a file and are clear, which means that
-- nothing of a value is lost and no literal starts like a marked pattern, are the same if one
-- listing tells of them; so the definitions are, and their answers to all queries.
import QuerySieve.Proofs.Listings
import QuerySieve.Proofs.Rereading

namespace QuerySieve

/-! ## Rules from files -/

/-- A directive makes one rule. -/
theorem Directive.Makes.unique {d : Directive} {r s : Rule} (hr : d.Makes r) (hs : d.Makes s) :
    r = s := by
  have action_inj : ∀ {a b : Action}, a.name = b.name → a = b := by
    intro a b same
    cases a <;> cases b <;> first | rfl | cases same
  cases hr with
  | literal name args encodes =>
    cases hs with
    | literal name' args' encodes' =>
      cases args.symm.trans args'
      cases encodes.symm.trans encodes'
      cases action_inj (name.symm.trans name')
      rfl
    | pattern name' args' => cases args.symm.trans args'
  | pattern name args flag encodes compiles =>
    cases hs with
    | literal name' args' => cases args.symm.trans args'
    | pattern name' args' flag' encodes' compiles' =>
      cases args.symm.trans args'
      cases flag.symm.trans flag'
      cases encodes.symm.trans encodes'
      cases compiles.symm.trans compiles'
      cases action_inj (name.symm.trans name')
      rfl

/-- The arguments in a document are texts. -/
theorem Document.isUtf8_of_reads {v : Value} {found : List (Text × List Directive)}
    (h : Reads v found) : ∀ b ∈ found, ∀ e ∈ b.2, ∀ a ∈ e.args, a.IsUtf8 := by
  have texts : ∀ {v : Value} {e : Directive}, EntryReads v e → ∀ a ∈ e.args, a.IsUtf8 := by
    intro v e reads a ha
    cases reads with
    | line words =>
      obtain ⟨t, -, rfl⟩ := List.mem_map.mp ha
      trivial
    | list =>
      obtain ⟨t, -, rfl⟩ := List.mem_map.mp ha
      trivial
  cases h with
  | null => simp
  | noRoot => simp
  | emptyRoot => simp
  | blocks _ _ _ _ blocks =>
    intro b hb e he
    obtain ⟨_, -, reads⟩ := Reading.exists_of_forall₂ blocks.flip b hb
    cases reads with
    | empty => cases he
    | list entries =>
      obtain ⟨_, -, reads⟩ := Reading.exists_of_forall₂ entries.flip e he
      exact texts reads

/-- A rule from a file is made by the directive that it is written as. -/
theorem Registry.makes_of_ofFile {w : World} {p : Path} {r : Registry}
    (loads : (ofFile w p).ComesTo (.ok r)) :
    r.EachRule fun rule => rule.directive.Makes rule := by
  obtain ⟨r', comes, made⟩ := ofFile_comesTo w p
  obtain ⟨v, hv⟩ := made r (comes.unique loads)
  obtain ⟨found, reads, entered, -⟩ := Document.registry_eq_ok (hv (.empty .debug))
  intro f hf rule hrule
  obtain ⟨b, hb, entered⟩ := Reading.exists_of_forall₂ entered.flip f hf
  have projection := Block.projection_of_compiles entered.compiles
  obtain ⟨e, he, makes⟩ := Reading.exists_of_forall₂ projection.rules.flip rule hrule
  exact Block.directive_makes makes
    (Document.isUtf8_of_reads reads b hb e (List.mem_of_mem_filter he))

namespace Rule

/-- The line of a rule tells all of it: its value comes out as it is, and a literal does not start
like a marked pattern. -/
structure Clear (r : Rule) : Prop where
  legible : r.Legible
  unstyled : ¬ Style.Styled r.matcher.describe
  unmarked : r.matcher.ignoreCase? = none → ∀ rest : Text,
    r.matcher.describe ≠ "~ " ++ rest ∧ r.matcher.describe ≠ "~* " ++ rest

theorem Clear.told_eq {r : Rule} (h : r.Clear) : r.told = r.matcher.mark ++ r.matcher.describe := by
  rw [told, (Style.drop_eq_iff _).mpr h.unstyled]

/-- Clear rules that are told of alike are written as one directive. -/
theorem Alike.directive_eq {r s : Rule} (h : r.Alike s) (clear : r.Clear) (clear' : s.Clear) :
    r.directive = s.directive := by
  have same := h.told
  rw [clear.told_eq, clear'.told_eq] at same
  unfold Matcher.mark at same
  unfold directive
  rw [h.action]
  cases hr : r.matcher.ignoreCase? with
  | none =>
    rw [hr] at same
    cases hs : s.matcher.ignoreCase? with
    | none =>
      rw [hs] at same
      rw [show r.matcher.describe = s.matcher.describe from same]
    | some b =>
      rw [hs] at same
      cases b with
      | true => exact absurd same (clear.unmarked hr _).2
      | false => exact absurd same (clear.unmarked hr _).1
  | some a =>
    rw [hr] at same
    cases hs : s.matcher.ignoreCase? with
    | none =>
      rw [hs] at same
      cases a with
      | true => exact absurd same.symm (clear'.unmarked hs _).2
      | false => exact absurd same.symm (clear'.unmarked hs _).1
    | some b =>
      rw [hs] at same
      cases a <;> cases b
      · rw [List.append_cancel_left same]
      · cases same
      · cases same
      · rw [List.append_cancel_left same]

/-- A clear rule that is made by the directive that it is written as. -/
structure Read (r : Rule) : Prop where
  clear : r.Clear
  makes : r.directive.Makes r

/-- Such rules are the same if they are told of alike. -/
theorem eq_of_alike {rules others : List Rule} (h : List.Forall₂ Alike rules others)
    (read : ∀ r ∈ rules, r.Read) (read' : ∀ s ∈ others, s.Read) : rules = others := by
  induction h with
  | nil => rfl
  | @cons r s rules others alike _ ih =>
    rw [List.forall_mem_cons] at read read'
    have directive := alike.directive_eq read.1.clear read'.1.clear
    rw [read.1.makes.unique (directive ▸ read'.1.makes), ih read.2 read'.2]

end Rule

/-- Two definitions with the same policy, mark and rules. -/
structure Definition.Same (d e : Definition) : Prop where
  initial : d.initial = e.initial
  isVolatile : d.volatile = e.volatile
  rules : d.rules = e.rules

theorem Definition.Same.filtered_eq {d e : Definition} (h : d.Same e) (q : Bytes) :
    d.filtered q = e.filtered q := by
  unfold filtered isIdentity keeps
  rw [h.initial, h.rules]

namespace Command

/-- Text that `show` writes in a session for a registry that is not empty and was loaded from the
rules file. -/
structure Shown (s : Session) (rules : Option Text) (r : Registry) (said : Text) : Prop where
  loads : ∃ p, s.Rules rules p ∧ (Registry.ofFile s.site.world p).ComesTo (.ok r)
  full : r.filters ≠ []
  prints : (showRules rules .text).Prints s (.ok ()) said

theorem Step.Prints.unique {α : Type} {step : Step α} {s : Session} {r r' : Except Ending α}
    {said said' : Text} (h : step.Prints s r said) (h' : step.Prints s r' said') :
    said = said' := by
  obtain ⟨s', ends, output⟩ := h
  obtain ⟨s'', ends', output'⟩ := h'
  cases ends.symm.trans ends'
  exact List.append_cancel_left (output.symm.trans output')

theorem Shown.said_eq {s : Session} {rules : Option Text} {r : Registry} {said : Text}
    (shown : Shown s rules r said) : said = outputLine (shownIn r .text) := by
  obtain ⟨p, named, loads⟩ := shown.loads
  exact shown.prints.unique (showRules_prints named loads .text)

/-- Two named definitions that are the same. -/
def ItemSame (f g : Text × Definition) : Prop := f.1 = g.1 ∧ f.2.Same g.2

/-- Definitions with rules that can be read back are the same if they are told of alike. -/
theorem same_of_alike {items others : List (Text × Definition)}
    (h : List.Forall₂ Registry.ItemAlike items others)
    (read : ∀ f ∈ items, ∀ rule ∈ f.2.rules, rule.Read)
    (read' : ∀ f ∈ others, ∀ rule ∈ f.2.rules, rule.Read) : List.Forall₂ ItemSame items others := by
  induction h with
  | nil => exact .nil
  | cons alike _ ih =>
    rw [List.forall_mem_cons] at read read'
    obtain ⟨name, initial, isVolatile, rules⟩ := alike
    exact .cons ⟨name, initial, isVolatile, Rule.eq_of_alike rules read.1 read'.1⟩
      (ih read.2 read'.2)

theorem names_same {items others : List (Text × Definition)}
    (h : List.Forall₂ ItemSame items others) : items.map (·.1) = others.map (·.1) := by
  induction h with
  | nil => rfl
  | cons same _ ih => rw [List.map_cons, List.map_cons, same.1, ih]

/-- Definitions that are the same one by one are found under the same names. -/
theorem lookup?_same {r r' : Registry} (distinct : Pairs.Distinct r.filters)
    (distinct' : Pairs.Distinct r'.filters) (items : List.Forall₂ ItemSame r.items r'.items)
    (name : Text) :
    Option.Rel Definition.Same (r.lookup? name) (r'.lookup? name) := by
  have finds : ∀ {r : Registry}, Pairs.Distinct r.filters → ∀ d,
      r.lookup? name = some d ↔ (Name.normalize name, d) ∈ r.items := by
    intro r distinct d
    rw [Registry.mem_items distinct]
    exact Pairs.find?_eq_some_iff distinct _ d
  cases hfind : r.lookup? name with
  | some d =>
    obtain ⟨⟨key, e⟩, hmem, rfl, same⟩ :=
      Reading.exists_of_forall₂ items _ ((finds distinct d).mp hfind)
    rw [(finds distinct' e).mpr hmem]
    exact .some same
  | none =>
    cases hfind' : r'.lookup? name with
    | none => exact .none
    | some e =>
      obtain ⟨⟨key, d⟩, hmem, hkey, -⟩ :=
        Reading.exists_of_forall₂ items.flip _ ((finds distinct' e).mp hfind')
      cases hkey
      rw [(finds distinct d).mpr hmem] at hfind
      cases hfind

theorem evaluate_same {r r' : Registry} {name : Text}
    (h : Option.Rel Definition.Same (r.lookup? name) (r'.lookup? name)) (query : Bytes)
    (j j' : Journal) : (r.evaluate name query j).1 = (r'.evaluate name query j').1 := by
  rw [r.evaluate_gives_lookup name query j, r'.evaluate_gives_lookup name query j']
  generalize r.lookup? name = found at h ⊢
  generalize r'.lookup? name = found' at h ⊢
  cases h with
  | none => rfl
  | some same => rw [Option.map_some, Option.map_some, same.filtered_eq, same.isVolatile]

/-! ## The law -/

/-- Two rules files with definitions have one listing just where the definitions are told of alike:
under the same names in the same order, with the same policy and mark, and with rules of the same
actions, of which the same comes out. This holds as long as no value has a line feed before a blank
or a sigil. Where moreover no value is styled and no literal starts like a marked pattern, one
listing means the same definitions under the same names, rule by rule, and so the same answer to
each query. -/
theorem a_clear_listing_tells_what_is_declared {s s' : Session} {rules rules' : Option Text}
    {r r' : Registry} {said said' : Text} (shown : Shown s rules r said)
    (shown' : Shown s' rules' r' said') :
    (r.EachRule Rule.Legible → r'.EachRule Rule.Legible →
      (said = said' ↔ List.Forall₂ Registry.ItemAlike r.items r'.items)) ∧
    (r.EachRule Rule.Clear → r'.EachRule Rule.Clear → said = said' →
      r.names = r'.names ∧
      (∀ name, Option.Rel Definition.Same (r.lookup? name) (r'.lookup? name)) ∧
      ∀ name query j j', (r.evaluate name query j).1 = (r'.evaluate name query j').1) := by
  obtain ⟨p, -, loads⟩ := shown.loads
  obtain ⟨p', -, loads'⟩ := shown'.loads
  rw [shown.said_eq, shown'.said_eq]
  have alike := outputLine_eq_iff_alike loads loads' shown.full shown'.full
  refine ⟨alike, ?_⟩
  intro clear clear' same
  have items := (alike (fun f hf rule h => (clear f hf rule h).legible)
    fun f hf rule h => (clear' f hf rule h).legible).mp same
  obtain ⟨distinct, -⟩ := Registry.named_of_ofFile loads
  obtain ⟨distinct', -⟩ := Registry.named_of_ofFile loads'
  have read : ∀ {r : Registry} {w : World} {p : Path}, (Registry.ofFile w p).ComesTo (.ok r) →
      r.EachRule Rule.Clear → ∀ f ∈ r.items, ∀ rule ∈ f.2.rules, rule.Read := by
    intro r w p loads clear f hf rule hrule
    have hmem := (Registry.mem_items (Registry.named_of_ofFile loads).1 f.1 f.2).mp hf
    exact ⟨clear f hmem rule hrule, Registry.makes_of_ofFile loads f hmem rule hrule⟩
  have sames := same_of_alike items (read loads clear) (read loads' clear')
  have lookups := lookup?_same distinct distinct' sames
  refine ⟨?_, lookups, fun name query j j' => evaluate_same (lookups name) query j j'⟩
  rw [← Registry.items_names distinct, ← Registry.items_names distinct', names_same sames]

/-! ## Three files with one listing -/

/-- A document of one block makes up a registry of the definition that the block makes. -/
theorem registry_of_block {v : Value} {name : Text} {ds : List Directive} {d : Definition}
    (blocks : Document.blocks v = .ok [(Name.sigil :: name, ds)]) (plain : Name.Plain name)
    (all : (Block.applyAll ds {}).ComesTo (.ok d)) :
    (Document.registry v).ComesTo (.ok ⟨[(name.lower, d)]⟩) := by
  have free : ¬ ({} : Draft).Holds name.lower := List.not_mem_nil
  have compiles := Block.compile_of_applyAll all (Name.sigil :: name)
  have declares :=
    Draft.declare_comesTo (Drafting.declare_of_compiles (d := {}) rfl plain free compiles)
  unfold Document.registry
  rw [blocks]
  exact .bind (.bind declares (.pure _)) fun _ => rfl

theorem shown_of_loads {s : Session} {P : Text} {r : Registry}
    (loads : (Registry.ofFile s.site.world (.ofText P)).ComesTo (.ok r)) (full : r.filters ≠ []) :
    Shown s (some P) r (outputLine (shownIn r .text)) :=
  ⟨⟨_, .named P, loads⟩, full, showRules_prints (.named P) loads .text⟩

/-- Keeps the keys with an `a` in them. -/
def patternRules : Bytes := Bytes.ofString "args_filters:\n  $f:\n    - include ~ a\n"

/-- The same with its initial policy written down. -/
def spelledRules : Bytes :=
  Bytes.ofString "args_filters:\n  $f:\n    - initial none\n    - include ~ a\n"

/-- Keeps one key, which starts like a marked pattern. -/
def literalRules : Bytes := Bytes.ofString "args_filters:\n  $f:\n    - [include, \"~ a\"]\n"

def listedWorld : World where
  work := ⟨"/", ["work"]⟩
  home := ⟨"/", ["home"]⟩
  entries := [
    (⟨"/", ["work", "pattern.yaml"]⟩, .file patternRules),
    (⟨"/", ["work", "spelled.yaml"]⟩, .file spelledRules),
    (⟨"/", ["work", "literal.yaml"]⟩, .file literalRules)]

def listedSession : Session where
  site := { world := listedWorld }
  stamp := noStamp

def letterPattern : Pattern where
  source := Bytes.ofString "a"
  ignoreCase := false
  items := [.byte 0x61]
  options := {}

def patternRegistry : Registry where
  filters := [("f", { rules := [⟨.keep, .pattern letterPattern⟩] })]

def spelledRegistry : Registry where
  filters := [("f", { rules := [⟨.keep, .pattern letterPattern⟩], initialSet := true })]

def literalRegistry : Registry where
  filters := [("f", { rules := [⟨.keep, .literal (Bytes.ofString "~ a")⟩] })]

/-- What comes out for each of the files. -/
def oneListing : Text := "$f: initial none\n  [0] include ~ a\n"

theorem plain_f : Name.Plain "f" := ⟨by decide, List.all_eq_true.mp (by cbv)⟩

theorem apply_letter (block : Definition) :
    (Block.apply ⟨"include", [.text "~", .text "a"]⟩ block).ComesTo
      (.ok (block.push ⟨.keep, .pattern letterPattern⟩)) := by
  have compiles : Pattern.compile (Bytes.ofString "a") false = .ok letterPattern := by cbv
  exact Block.apply_of_makes (.pattern rfl rfl rfl rfl compiles) block

theorem patternRules_load :
    (Registry.ofFile listedWorld (.ofText "pattern.yaml")).ComesTo (.ok patternRegistry) := by
  let document : Value := .ofPairs true
    [("args_filters", .ofPairs true [("$f", .list [.text "include ~ a"])])]
  have reads : listedWorld.read (.ofText "pattern.yaml") = .ok patternRules := by decide
  have parses : Yaml.Node.plainDocument (.ofBytes patternRules) = .ok document := by
    decide +kernel
  have blocks : Document.blocks document =
    .ok [("$f", [⟨"include", [.text "~", .text "a"]⟩])] := by rfl
  have comes := registry_of_block blocks plain_f (.bind (apply_letter {}) (.pure _))
  exact Registry.ofFile_of_document (Registry.contentOf_of_read reads) parses comes

theorem spelledRules_load :
    (Registry.ofFile listedWorld (.ofText "spelled.yaml")).ComesTo (.ok spelledRegistry) := by
  let document : Value := .ofPairs true
    [("args_filters", .ofPairs true [("$f", .list [.text "initial none", .text "include ~ a"])])]
  have reads : listedWorld.read (.ofText "spelled.yaml") = .ok spelledRules := by decide
  have parses : Yaml.Node.plainDocument (.ofBytes spelledRules) = .ok document := by
    decide +kernel
  have blocks : Document.blocks document = .ok [("$f",
    [⟨"initial", [.text "none"]⟩, ⟨"include", [.text "~", .text "a"]⟩])] := by rfl
  have initial : (Block.apply ⟨"initial", [.text "none"]⟩ {}).ComesTo
    (.ok { initialSet := true }) := fun _ => rfl
  have comes := registry_of_block blocks plain_f (.bind initial (.bind (apply_letter _) (.pure _)))
  exact Registry.ofFile_of_document (Registry.contentOf_of_read reads) parses comes

theorem literalRules_load :
    (Registry.ofFile listedWorld (.ofText "literal.yaml")).ComesTo (.ok literalRegistry) := by
  let document : Value := .ofPairs true
    [("args_filters", .ofPairs true [("$f", .list [.list [.text "include", .text "~ a"]])])]
  have reads : listedWorld.read (.ofText "literal.yaml") = .ok literalRules := by decide
  have parses : Yaml.Node.plainDocument (.ofBytes literalRules) = .ok document := by
    decide +kernel
  have comes : (Document.registry document).ComesTo (.ok literalRegistry) := fun _ => rfl
  exact Registry.ofFile_of_document (Registry.contentOf_of_read reads) parses comes

theorem letter_clear : Rule.Clear ⟨.keep, .pattern letterPattern⟩ := by
  have told : Rule.told ⟨.keep, .pattern letterPattern⟩ = Text.ofString "~ a" := by cbv
  have describe : (Matcher.pattern letterPattern).describe = Text.ofString "a" := by cbv
  have plain : Json.IsPlain "a" := by decide
  constructor
  · rw [Rule.Legible, told]
    exact Listing.whole_of_notMem (by decide)
  · rw [describe]
    exact plain.not_styled
  · intro literal
    cases literal

/-- The spelled file means what the other one does, as far as queries tell. -/
theorem spelledRules_are_listed_alike :
    Shown listedSession (some "pattern.yaml") patternRegistry oneListing ∧
      Shown listedSession (some "spelled.yaml") spelledRegistry oneListing ∧
      patternRegistry ≠ spelledRegistry ∧
      ∀ name query j j',
        (patternRegistry.evaluate name query j).1 = (spelledRegistry.evaluate name query j').1 := by
  have prints : outputLine (shownIn patternRegistry .text) = oneListing := by cbv
  have prints' : outputLine (shownIn spelledRegistry .text) = oneListing := by cbv
  have shown : Shown listedSession (some "pattern.yaml") patternRegistry _ :=
    shown_of_loads patternRules_load (List.cons_ne_nil _ _)
  have shown' : Shown listedSession (some "spelled.yaml") spelledRegistry _ :=
    shown_of_loads spelledRules_load (List.cons_ne_nil _ _)
  rw [prints] at shown
  rw [prints'] at shown'
  have clear : patternRegistry.EachRule Rule.Clear := by
    simp only [Registry.EachRule, patternRegistry, List.forall_mem_singleton, letter_clear]
  have clear' : spelledRegistry.EachRule Rule.Clear := by
    simp only [Registry.EachRule, spelledRegistry, List.forall_mem_singleton, letter_clear]
  obtain ⟨-, law⟩ := a_clear_listing_tells_what_is_declared shown shown'
  refine ⟨shown, shown', ?_, (law clear clear' rfl).2.2⟩
  intro same
  have marks := congrArg (fun r => r.filters.map fun f => f.2.initialSet) same
  cases marks

/-- A literal and a pattern have one line, though they keep different keys. -/
theorem tilde_is_listed_as_a_pattern :
    Answers listedWorld noStamp ["show", "literal.yaml"] 0 oneListing ∧
      Answers listedWorld noStamp ["show", "pattern.yaml"] 0 oneListing ∧
      (Registry.ofFile listedWorld (.ofText "literal.yaml")).ComesTo (.ok literalRegistry) ∧
      (Registry.ofFile listedWorld (.ofText "pattern.yaml")).ComesTo (.ok patternRegistry) ∧
      Gives (literalRegistry.evaluate "f" (Bytes.ofString "a=1")) (some ⟨[], false⟩) ∧
      Gives (patternRegistry.evaluate "f" (Bytes.ofString "a=1"))
        (some ⟨Bytes.ofString "a=1", false⟩) := by
  have settings : (Settings.load listedWorld none).ComesTo (.ok {}) := fun _ => rfl
  have literal : lookAt listedWorld "literal.yaml" = .ok (.file literalRules) := by decide
  have pattern : lookAt listedWorld "pattern.yaml" = .ok (.file patternRules) := by decide
  have shown : outputLine (Text.join "\n" literalRegistry.listing) = oneListing := by cbv
  have shown' : outputLine (Text.join "\n" patternRegistry.listing) = oneListing := by cbv
  have said : Passes listedWorld noStamp [] "literal.yaml" literalRegistry :=
    passes_of_loads settings literal (by decide) .nil literalRules_load
  have said' : Passes listedWorld noStamp [] "pattern.yaml" patternRegistry :=
    passes_of_loads settings pattern (by decide) .nil patternRules_load
  refine ⟨shown ▸ said.text _ .show_, shown' ▸ said'.text _ .show_, literalRules_load,
    patternRules_load, fun _ => rfl, fun _ => rfl⟩

end Command

end QuerySieve
