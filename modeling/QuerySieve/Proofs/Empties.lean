-- The laws of empty values. No value and an empty text are the same under the root key and as a
-- block. As a whole document they are not: a text without a document makes up a registry without
-- filters, and a text with an empty document is refused.
import QuerySieve.Loading
import QuerySieve.Proofs.Blanks
import QuerySieve.Proofs.Documents

namespace QuerySieve

namespace Document

open Reading

/-! ## Documents that differ in how they are empty -/

/-- The same value, or two empty ones. -/
inductive EmptyAlike : Value → Value → Prop
  | same {v : Value} : EmptyAlike v v
  | empty {v w : Value} (left : isEmpty v = true) (right : isEmpty w = true) : EmptyAlike v w

/-- Two pairs of one name whose values are empty alike. -/
structure BlockAlike (b b' : Text × Value) : Prop where
  name : b.1 = b'.1
  value : EmptyAlike b.2 b'.2

/-- Two values for the root key that differ in how they or their blocks are empty. -/
inductive RootAlike : Value → Value → Prop
  | root {v w : Value} (h : EmptyAlike v w) : RootAlike v w
  | blocks {v w : Value} {bs bs' : List (Text × Value)} (left : v.Lists bs) (right : w.Lists bs')
      (h : List.Forall₂ BlockAlike bs bs') : RootAlike v w

/-- The same pair, or two of the root key. -/
inductive PairAlike : Text × Value → Text × Value → Prop
  | same {p : Text × Value} : PairAlike p p
  | root {v w : Value} (h : RootAlike v w) : PairAlike (rootKey, v) (rootKey, w)

/-- Two documents that differ in how they are empty: as a whole, under the root key, or in
blocks. -/
inductive Refills : Value → Value → Prop
  | whole {v w : Value} (h : EmptyAlike v w) : Refills v w
  | inside {v w : Value} {ps ps' : List (Text × Value)} (left : v.Lists ps) (right : w.Lists ps')
      (h : List.Forall₂ PairAlike ps ps') : Refills v w

theorem EmptyAlike.block_eq {v w : Value} (h : EmptyAlike v w) (name : Text) :
    block name v = block name w := by
  cases h with
  | same => rfl
  | empty left right => rw [block_empty name left, block_empty name right]

theorem RootAlike.rootBlocks_eq {v w : Value} (h : RootAlike v w) :
    rootBlocks v = rootBlocks w := by
  cases h with
  | root h =>
    cases h with
    | same => rfl
    | empty left right => rw [rootBlocks_empty left, rootBlocks_empty right]
  | blocks left right h =>
    exact rootBlocks_congr left right (h.imp fun b _ hb => ⟨hb.name, hb.value.block_eq b.1⟩)

theorem PairAlike.key {p p' : Text × Value} (h : PairAlike p p') : p.1 = p'.1 := by
  cases h <;> rfl

theorem PairAlike.value {p p' : Text × Value} (h : PairAlike p p') : RootAlike p.2 p'.2 := by
  cases h with
  | same => exact .root .same
  | root h => exact h

/-- Inside a document it does not matter how a value is empty. -/
theorem blocks_inside {v w : Value} {ps ps' : List (Text × Value)} (left : v.Lists ps)
    (right : w.Lists ps') (h : List.Forall₂ PairAlike ps ps') : blocks v = blocks w :=
  blocks_congr left right (h.imp fun _ _ hp => ⟨hp.key, fun _ => hp.value.rootBlocks_eq⟩)

theorem ne_null_of_lists {v : Value} {ps : List (Text × Value)} (h : v.Lists ps) : v ≠ .null := by
  cases h <;> simp

theorem eq_null_or_eq_text {v : Value} (h : isEmpty v = true) : v = .null ∨ v = .text [] := by
  cases v with
  | null => exact Or.inl rfl
  | text t => exact Or.inr (congrArg Value.text (List.isEmpty_iff.mp h))
  | _ => cases h

/-- A whole document that is empty has to be so in the same way. -/
theorem Refills.blocks_eq_iff {v w : Value} (h : Refills v w) :
    blocks v = blocks w ↔ (v = .null ↔ w = .null) := by
  cases h with
  | inside left right h =>
    have null := iff_of_false (ne_null_of_lists left) (ne_null_of_lists right)
    exact iff_of_true (blocks_inside left right h) null
  | whole h =>
    cases h with
    | same => simp
    | empty left right =>
      rcases eq_null_or_eq_text left with rfl | rfl <;>
        rcases eq_null_or_eq_text right with rfl | rfl <;> simp [blocks, Value.pairs?]

/-! ## Registries of empty documents -/

theorem registry_null : (registry .null).ComesTo (.ok ⟨[]⟩) := fun _ => rfl

theorem registry_emptyText :
    (registry (.text [])).ComesTo (.error (.failure Fault.notMapping.failure)) := fun _ => rfl

end Document

namespace Registry

open Document
open Yaml (Blank IdleLines)
open Yaml.Node (plainDocument plainDocument_of_blank plainDocument_of_dashes)

theorem ofText_of_plainDocument {t : Text} {v : Value} (h : plainDocument (.ofText t) = .ok v) :
    ofText t = registry v := by
  unfold ofText
  rw [h]

/-- Documents that differ in how they are empty have the same blocks, or are refused alike, unless
one of them is no value as a whole and the other an empty text. So a rules text without a document
makes up a registry without filters. After the mark that starts a document, the same text is an
empty document, and is refused as no mapping. -/
theorem only_whole_documents_differ_in_how_they_are_empty {v w : Value} (refills : Refills v w) :
    (blocks v = blocks w ↔ (v = .null ↔ w = .null)) ∧
    ((v = .null ↔ w = .null) → registry v = registry w) ∧
    (∀ t e, plainDocument (.ofText t) = .ok e → isEmpty e = true →
      (ofText t).ComesTo
        (if e = .null then .ok ⟨[]⟩ else .error (.failure Fault.notMapping.failure))) ∧
    (∀ t, Blank t → (ofText t).ComesTo (.ok ⟨[]⟩)) ∧
    ∀ ls t, IdleLines ls → Blank t → t.head? ≠ some (CodePoint.ofChar '#') →
      (ofText (ls ++ (Yaml.Token.dashes ++ t))).ComesTo
        (.error (.failure Fault.notMapping.failure)) := by
  refine ⟨refills.blocks_eq_iff, ?_, ?_, ?_, ?_⟩
  · intro same
    rw [registry, registry, refills.blocks_eq_iff.mpr same]
  · intro t e hread hempty
    rw [ofText_of_plainDocument hread]
    rcases eq_null_or_eq_text hempty with rfl | rfl
    · exact registry_null
    · exact registry_emptyText
  · intro t h
    have hread := plainDocument_of_blank h
    rw [ofText_of_plainDocument hread]
    exact registry_null
  · intro ls t lines h apart
    have hread := plainDocument_of_dashes lines h apart
    rw [ofText_of_plainDocument hread]
    exact registry_emptyText

/-- A block that is null has no directives, as one that is an empty text: in a table or in a
ledger. -/
theorem nullBlock_is_the_block_of_no_text :
    Refills (.map [(rootKey, .map [("$a", .null)])])
        (.ofPairs true [(rootKey, .ofPairs true [("$a", .text [])])]) ∧
      registry (.map [(rootKey, .map [("$a", .null)])]) =
        registry (.ofPairs true [(rootKey, .ofPairs true [("$a", .text [])])]) := by
  have refills : Refills (.map [(rootKey, .map [("$a", .null)])])
      (.ofPairs true [(rootKey, .ofPairs true [("$a", .text [])])]) :=
    .inside .map (Value.lists_ofPairs true _)
      (.cons (.root (.blocks .map (Value.lists_ofPairs true _)
        (.cons ⟨rfl, .empty rfl rfl⟩ .nil))) .nil)
  exact ⟨refills, (only_whole_documents_differ_in_how_they_are_empty refills).2.1
    (by simp [Value.ofPairs])⟩

/-- The mark of a document with nothing after it is refused, and a text with nothing at all is
not. -/
theorem dashes_are_no_mapping :
    Refills .null (.text []) ∧ blocks .null ≠ blocks (.text []) ∧
      (ofText "").ComesTo (.ok ⟨[]⟩) ∧
      (ofText "---\n").ComesTo (.error (.failure Fault.notMapping.failure)) := by
  have nothing : Yaml.Idle [] := .spaces (by simp)
  have hline : IdleLines [CodePoint.ofChar '\n'] := .cons nothing (by decide) .nil
  have hempty := plainDocument_of_blank (.of .nil nothing)
  have hdashes := plainDocument_of_dashes .nil (.of hline nothing) (by decide)
  refine ⟨.whole (.empty rfl rfl), ?_, ?_, ?_⟩
  · exact fun h => nomatch h
  · exact (ofText_of_plainDocument hempty).symm ▸ registry_null
  · exact (ofText_of_plainDocument hdashes).symm ▸ registry_emptyText

end Registry

end QuerySieve
