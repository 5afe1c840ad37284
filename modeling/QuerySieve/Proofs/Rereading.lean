-- The laws of layouts. The layout of a definition spells directives: the policy, the mark of a
-- volatile value and one directive for each rule. Where the octets that the definition was made
-- from are UTF-8, these directives compile to the same definition again.
import QuerySieve.Proofs.Blocks
import QuerySieve.Proofs.Octets
import QuerySieve.Proofs.Readings

namespace QuerySieve

/-! ## Reading a layout -/

namespace Value

def text? : Value → Option Text
  | .text t => some t
  | _ => none

def bool? : Value → Option Bool
  | .bool b => some b
  | _ => none

def items? : Value → Option (List Value)
  | .list items => some items
  | _ => none

end Value

/-- The word before a pattern. -/
def Directive.operator (ignoreCase : Bool) : Text := if ignoreCase then "~*" else "~"

/-- The directive that the layout of a rule spells: the action with the value alone for a literal,
and with an operator before it for a pattern. -/
def Directive.ofRule? (v : Value) : Option Directive := do
  let action ← (← v.get? "action").text?
  let matcher ← (← v.get? "matcher").text?
  let value ← (← v.get? "value").text?
  if matcher = Text.ofString "literal" then return ⟨action, [.text value]⟩
  else
    let ignoreCase ← (← v.get? "case_insensitive").bool?
    return ⟨action, [.text (Directive.operator ignoreCase), .text value]⟩

/-- The directives that the layout of a definition spells. -/
def Block.ofLayout? (v : Value) : Option (List Directive) := do
  let initial ← (← v.get? "initial").text?
  let isVolatile ← (← v.get? "volatile").bool?
  let rules ← (← (← v.get? "rules").items?).mapM Directive.ofRule?
  let marks : List Directive := if isVolatile then [⟨"volatile", []⟩] else []
  return ⟨"initial", [.text initial]⟩ :: (marks ++ rules)

/-! ## The directives that are spelled -/

/-- The directive that a rule is written as. -/
def Rule.directive (r : Rule) : Directive where
  name := r.action.name
  args :=
    match r.matcher.ignoreCase? with
    | none => [.text r.matcher.describe]
    | some ignoreCase => [.text (Directive.operator ignoreCase), .text r.matcher.describe]

/-- The directives that a definition is written as. -/
def Definition.directives (d : Definition) : List Directive :=
  ⟨"initial", [.text d.initial.name]⟩ ::
    ((if d.volatile then [⟨"volatile", []⟩] else []) ++ d.rules.map Rule.directive)

theorem ofRule?_layout (r : Rule) : Directive.ofRule? r.layout = some r.directive := by
  obtain ⟨action, matcher⟩ := r
  cases matcher with
  | literal key => rfl
  | pattern p => rfl
  | faulty source ignoreCase error => rfl

theorem mapM_ofRule?_layout (rules : List Rule) :
    (rules.map Rule.layout).mapM Directive.ofRule? = some (rules.map Rule.directive) := by
  induction rules with
  | nil => rfl
  | cons r rules ih =>
    rw [List.map_cons, List.mapM_cons, ofRule?_layout, ih]
    rfl

theorem ofLayout?_layout (d : Definition) : Block.ofLayout? d.layout = some d.directives := by
  have hinitial : d.layout.get? "initial" = some (.text d.initial.name) := rfl
  have hvolatile : d.layout.get? "volatile" = some (.bool d.volatile) := rfl
  have hlist : d.layout.get? "rules" = some (.list (d.rules.map Rule.layout)) := rfl
  unfold Block.ofLayout?
  rw [hinitial, hvolatile, hlist]
  simp only [Value.text?, Value.bool?, Value.items?, Option.bind_eq_bind, Option.bind_some,
    mapM_ofRule?_layout]
  rfl

/-! ## Octets that are UTF-8 -/

/-- The argument is text, or octets that are the UTF-8 form of a text. -/
def Arg.IsUtf8 : Arg → Prop
  | .text _ => True
  | .bytes b => ∃ t, b.decode = .ok t

/-- What such an argument shows is a text with the octets of the argument. -/
theorem Arg.encode_shown {a : Arg} {octets : Bytes} (h : a.IsUtf8)
    (encodes : a.asBytes = .ok octets) : Text.encode octets.decodeReplacing = .ok octets := by
  have decodes : ∃ t, octets.decode = .ok t := by
    cases a with
    | text t => exact ⟨t, Bytes.decode_eq_ok_iff.mpr encodes⟩
    | bytes b =>
      cases encodes
      exact h
  obtain ⟨t, decodes⟩ := decodes
  rw [Bytes.decodeReplacing_of_decode decodes]
  exact Bytes.decode_eq_ok_iff.mp decodes

theorem ignoresCase?_operator (ignoreCase : Bool) :
    (Arg.text (Directive.operator ignoreCase)).ignoresCase? = some ignoreCase := by
  cases ignoreCase with
  | false => decide
  | true => decide

theorem Pattern.compile_keeps {octets : Bytes} {ignoreCase : Bool} {p : Pattern}
    (h : Pattern.compile octets ignoreCase = .ok p) :
    p.source = octets ∧ p.ignoreCase = ignoreCase := by
  unfold Pattern.compile at h
  cases hp : parse { ignoreCase } octets with
  | error e =>
    rw [hp] at h
    cases h
  | ok tree =>
    rw [hp] at h
    cases h
    exact ⟨rfl, rfl⟩

namespace Block

open Directive

/-- The directive that a rule is written as makes the rule again. -/
theorem directive_makes {d : Directive} {r : Rule} (h : d.Makes r)
    (utf8 : ∀ a ∈ d.args, a.IsUtf8) : r.directive.Makes r := by
  cases h with
  | @literal action key octets name args encodes =>
    have hkey : key.IsUtf8 := utf8 key (by simp [args])
    exact .literal rfl rfl (Arg.encode_shown hkey encodes)
  | @pattern action operator source ignoreCase octets p name args flag encodes compiles =>
    have hsource : source.IsUtf8 := utf8 source (by simp [args])
    obtain ⟨rfl, rfl⟩ := Pattern.compile_keeps compiles
    exact .pattern rfl rfl (ignoresCase?_operator _) (Arg.encode_shown hsource encodes) compiles

/-! ## Applying them -/

theorem applyAll_rules {rules : List Rule} (h : ∀ r ∈ rules, r.directive.Makes r)
    (block : Definition) : (applyAll (rules.map Rule.directive) block).ComesTo
      (.ok { block with rules := block.rules ++ rules }) := by
  induction rules generalizing block with
  | nil =>
    rw [List.append_nil]
    exact .pure block
  | cons r rules ih =>
    obtain ⟨hr, hrules⟩ := List.forall_mem_cons.mp h
    have hrest := ih hrules (block.push r)
    rw [Definition.push, List.append_assoc, List.singleton_append] at hrest
    exact .bind (apply_of_makes hr block) hrest

theorem apply_initial (p : Policy) :
    (apply ⟨"initial", [.text p.name]⟩ {}).ComesTo (.ok (Definition.setInitial p {})) := by
  cases p with
  | none => exact .pure _
  | all => exact .pure _

theorem apply_volatile (block : Definition) :
    (apply ⟨"volatile", []⟩ block).ComesTo (.ok block.markVolatile) := .pure _

/-- The policy comes first, then the mark, then the rules; the policy counts as given. -/
theorem applyAll_directives {d : Definition} (h : ∀ r ∈ d.rules, r.directive.Makes r) :
    (applyAll d.directives {}).ComesTo (.ok { d with initialSet := true }) := by
  obtain ⟨initial, initialSet, isVolatile, rules⟩ := d
  have hrules := applyAll_rules h
  apply Attempt.ComesTo.bind (apply_initial initial)
  cases isVolatile with
  | false => exact hrules _
  | true => exact .bind (apply_volatile _) (hrules _)

/-! ## The law -/

/-- The layout of a definition that was compiled from text and UTF-8 octets spells directives that
compile, under any name, to a definition with the same policy, mark and rules. So the two decide
alike on every key and have one layout. -/
theorem a_layout_spells_its_definition (ds : List Directive) (block : Text) (j : Journal)
    (d : Definition) (utf8 : ∀ e ∈ ds, ∀ a ∈ e.args, a.IsUtf8)
    (compiles : ((compile ds block).run j).1 = .ok d) :
    ∃ again d', ofLayout? d.layout = some again ∧
      (∀ block' j', ((compile again block').run j').1 = .ok d') ∧
      d'.initial = d.initial ∧ d'.volatile = d.volatile ∧ d'.rules = d.rules ∧
      (∀ key j', d'.shouldKeep key j' = d.shouldKeep key j') ∧ d'.layout = d.layout := by
  have projection : Projection ds d := by
    obtain ⟨r, hr, -⟩ := compile_ending ds block
    rw [hr j] at compiles
    rw [compiles] at hr
    exact projection_of_compiles hr
  have makes : ∀ r ∈ d.rules, r.directive.Makes r := by
    intro r hr
    have flipped : List.Forall₂ (flip Makes) d.rules (ds.filter isRule) :=
      List.Forall₂.flip projection.rules
    obtain ⟨e, he, hmakes⟩ := Reading.exists_of_forall₂ flipped r hr
    exact directive_makes hmakes (utf8 e (List.mem_of_mem_filter he))
  have again := applyAll_directives makes
  refine ⟨d.directives, { d with initialSet := true }, ofLayout?_layout d, ?_, rfl, rfl, rfl, ?_,
    rfl⟩
  · exact fun block' j' => compile_of_applyAll again block' j'
  · exact fun key j' => rfl

/-- Drops the key that looks like an operator, and keeps what a pattern in octets is about. -/
def tildeBlock : List Directive :=
  [⟨"exclude", [.text "~"]⟩, ⟨"include", [.text "~", .bytes (Bytes.ofString "^ads\\.")]⟩]

theorem tildeBlock_compiles : ∃ p d, d.rules = [⟨.drop, .literal (Bytes.ofString "~")⟩,
    ⟨.keep, .pattern p⟩] ∧ (compile tildeBlock "$f").ComesTo (.ok d) := by
  obtain ⟨p, hp⟩ := adsPattern_compiles
  have literal : (⟨"exclude", [.text "~"]⟩ : Directive).Makes
      ⟨.drop, .literal (Bytes.ofString "~")⟩ := .literal rfl rfl (by decide)
  have pattern : (⟨"include", [.text "~", .bytes (Bytes.ofString "^ads\\.")]⟩ : Directive).Makes
      ⟨.keep, .pattern p⟩ := .pattern rfl rfl rfl rfl hp
  have all : (applyAll tildeBlock {}).ComesTo _ :=
    .bind (apply_of_makes literal {}) (.bind (apply_of_makes pattern _) (.pure _))
  exact ⟨p, _, rfl, compile_of_applyAll all "$f"⟩

theorem tildeBlock_utf8 : ∀ e ∈ tildeBlock, ∀ a ∈ e.args, a.IsUtf8 := by
  have hsource : Arg.IsUtf8 (.bytes (Bytes.ofString "^ads\\.")) :=
    ⟨"^ads\\.", Bytes.decode_eq_ok_iff.mpr (by decide)⟩
  intro e he a ha
  simp only [tildeBlock, List.mem_cons, List.not_mem_nil, or_false] at he
  rcases he with rfl | rfl
  · cases List.mem_singleton.mp ha
    trivial
  · simp only [List.mem_cons, List.not_mem_nil, or_false] at ha
    rcases ha with rfl | rfl
    · trivial
    · exact hsource

/-- A key that looks like an operator stays a key. -/
theorem tildeBlock_is_spelled :
    (∀ e ∈ tildeBlock, ∀ a ∈ e.args, a.IsUtf8) ∧
    ∃ d again d', ((compile tildeBlock "$f").run (.empty .debug)).1 = .ok d ∧
      ofLayout? d.layout = some again ∧ ((compile again).run (.empty .debug)).1 = .ok d' ∧
      d'.rules = d.rules ∧ d'.rules[0]? = some ⟨.drop, .literal (Bytes.ofString "~")⟩ := by
  obtain ⟨p, d, rules, compiles⟩ := tildeBlock_compiles
  obtain ⟨again, d', spelled, recompiles, -, -, hrules, -⟩ := a_layout_spells_its_definition
    tildeBlock "$f" (.empty .debug) d tildeBlock_utf8 (compiles _)
  refine ⟨tildeBlock_utf8, d, again, d', compiles _, spelled, recompiles _ _, hrules, ?_⟩
  rw [hrules, rules]
  rfl

end Block

end QuerySieve
