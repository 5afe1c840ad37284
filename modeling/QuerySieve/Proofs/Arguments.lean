-- The laws of arguments in octets. A directive reads an argument as text or as octets, and either
-- way a text gives the same as its UTF-8 octets. So which of the two is given changes neither
-- what a block compiles to nor how it fails.
import Mathlib.Data.List.Forall2
import QuerySieve.Block
import QuerySieve.Proofs.Octets

namespace QuerySieve

/-! ## Arguments that say the same -/

namespace Arg

/-- The second argument is the first one, or the octets of its text. A text without octets has no
other way to be given. -/
inductive Alike : Arg → Arg → Prop
  | same (a : Arg) : Alike a a
  | octets {t : Text} {b : Bytes} (encodes : t.encode = .ok b) : Alike (.text t) (.bytes b)

variable {a a' : Arg}

theorem Alike.asText_eq (h : Alike a a') : a'.asText = a.asText := by
  cases h with
  | same => rfl
  | octets encodes => exact Bytes.decodeReplacing_of_decode (Bytes.decode_eq_ok_iff.mpr encodes)

theorem Alike.asBytes_eq (h : Alike a a') : a'.asBytes = a.asBytes := by
  cases h with
  | same => rfl
  | octets encodes => exact encodes.symm

end Arg

/-- The directives have one name, and argument by argument they say the same. -/
structure Directive.Alike (d d' : Directive) : Prop where
  name : d'.name = d.name
  args : List.Forall₂ Arg.Alike d.args d'.args

theorem Directive.Alike.texts_eq {d d' : Directive} (h : d.Alike d') :
    d'.args.map Arg.asText = d.args.map Arg.asText := by
  obtain ⟨-, said⟩ := h
  generalize d.args = as, d'.args = as' at said ⊢
  induction said with
  | nil => rfl
  | cons first _ ih => rw [List.map_cons, List.map_cons, first.asText_eq, ih]

/-! ## Directives that do the same -/

namespace Block

section

variable {d d' : Directive} (h : d.Alike d')
include h

theorem refuseDirective_alike {α : Type} (fault : Fault) :
    (refuseDirective fault d' : Attempt α) = refuseDirective fault d := by
  unfold refuseDirective
  rw [h.name, h.texts_eq]

theorem compilePattern_alike {a a' : Arg} (same : a.Alike a') (ignoreCase : Bool) :
    compilePattern d' a' ignoreCase = compilePattern d a ignoreCase := by
  unfold compilePattern
  rw [h.name, h.texts_eq, same.asBytes_eq, same.asText_eq]

theorem applyInitial_alike (block : Definition) : applyInitial d' block = applyInitial d block := by
  have said := h.args
  unfold applyInitial
  simp only [refuseDirective_alike h, h.name]
  generalize d.args = as, d'.args = as' at said ⊢
  cases said with
  | nil => rfl
  | cons first rest =>
    cases rest with
    | nil => simp only [first.asText_eq]
    | cons => rfl

theorem applyRule_alike (action : Action) (block : Definition) :
    applyRule action d' block = applyRule action d block := by
  have said := h.args
  unfold applyRule
  simp only [refuseDirective_alike h, h.name]
  generalize d.args = as, d'.args = as' at said ⊢
  cases said with
  | nil => rfl
  | cons first rest =>
    cases rest with
    | nil => simp only [first.asBytes_eq]
    | cons second rest =>
      cases rest with
      | nil => simp only [first.asText_eq, compilePattern_alike h second]
      | cons => rfl

theorem applyVolatile_alike (block : Definition) :
    applyVolatile d' block = applyVolatile d block := by
  have said := h.args
  unfold applyVolatile
  rw [refuseDirective_alike h, h.name]
  generalize d.args = as, d'.args = as' at said ⊢
  cases said with
  | nil | cons => rfl

theorem apply_alike (block : Definition) : apply d' block = apply d block := by
  unfold apply
  rw [h.name, applyInitial_alike h, applyRule_alike h, applyRule_alike h, applyVolatile_alike h,
    refuseDirective_alike h]

end

theorem applyAll_alike {ds ds' : List Directive} (h : List.Forall₂ Directive.Alike ds ds') :
    applyAll ds' = applyAll ds := by
  induction h with
  | nil => rfl
  | cons first _ ih =>
    funext block
    rw [applyAll, applyAll, apply_alike first, ih]

/-! ## The law -/

/-- A text, wherever it stands in a block, may be given in its octets instead. The block then
compiles to the same definition, or ends in the same trouble with all that is said of it, and
the same records are written. -/
theorem a_text_may_be_given_in_octets {ds ds' : List Directive}
    (alike : List.Forall₂ Directive.Alike ds ds') :
    (∀ block j, (compile ds' block).run j = (compile ds block).run j) ∧
    ∀ raw j, (compileNamed raw ds').run j = (compileNamed raw ds).run j := by
  have same : ∀ block, compile ds' block = compile ds block := by
    intro block
    unfold compile
    rw [applyAll_alike alike]
  refine ⟨fun block j => by rw [same], fun raw j => ?_⟩
  unfold compileNamed
  rw [same]

/-- A block whose last directive is refused, with all arguments as text. -/
def moonBlock : List Directive :=
  [⟨"initial", [.text "none"]⟩, ⟨"include", [.text "~*", .text "^☽"]⟩, ⟨"include", [.text "☽"]⟩,
    ⟨"initial", [.text "☽"]⟩]

/-- The same block, some of whose arguments are given in octets. -/
def moonBlockInOctets : List Directive :=
  [⟨"initial", [.bytes (Bytes.ofString "none")]⟩,
    ⟨"include", [.text "~*", .bytes [0x5e, 0xe2, 0x98, 0xbd]]⟩, ⟨"include", [.text "☽"]⟩,
    ⟨"initial", [.bytes [0xe2, 0x98, 0xbd]]⟩]

theorem moonBlock_in_octets :
    List.Forall₂ Directive.Alike moonBlock moonBlockInOctets ∧
    (∀ block j, (compile moonBlockInOctets block).run j = (compile moonBlock block).run j) ∧
    ∀ raw j, (compileNamed raw moonBlockInOctets).run j = (compileNamed raw moonBlock).run j := by
  have alike : List.Forall₂ Directive.Alike moonBlock moonBlockInOctets :=
    .cons ⟨rfl, .cons (.octets rfl) .nil⟩ <|
      .cons ⟨rfl, .cons (.same _) (.cons (.octets rfl) .nil)⟩ <|
        .cons ⟨rfl, .cons (.same _) .nil⟩ <| .cons ⟨rfl, .cons (.octets rfl) .nil⟩ .nil
  exact ⟨alike, a_text_may_be_given_in_octets alike⟩

end Block

end QuerySieve
