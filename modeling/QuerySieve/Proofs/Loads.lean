-- The laws of registries from rules texts. Each pair under the root key of a text is a block of
-- its own: all of them are declared, in the order they stand, or the text is refused.
import QuerySieve.Loading
import QuerySieve.Proofs.Dictionaries
import QuerySieve.Proofs.Documents
import QuerySieve.Proofs.Trees

namespace QuerySieve

open Reading Document

/-! ## What stands under the root key -/

namespace Yaml.Node

/-- A tree that says a mapping says its own pairs. -/
theorem lists_of_plain {n : Node} {v : Value} {qs : List (Text × Value)} (h : plain n = .ok v)
    (mapping : v.pairs? = some qs) : v.Lists qs ∧ List.Forall₂ PairReads n.pairs qs := by
  cases n with
  | map =>
    obtain ⟨l, rfl, reads, step⟩ := plain_map_eq_ok h
    cases mapping
    exact ⟨.ledger step, reads⟩
  | list =>
    obtain ⟨_, rfl, _⟩ := plain_list_eq_ok h
    cases mapping
  | scalar => cases h; cases mapping
  | loop => cases h

theorem pairs_eq_nil_of_plain {n : Node} {v : Value} (h : plain n = .ok v)
    (noMap : v.pairs? = none) : n.pairs = [] := by
  cases n with
  | map =>
    obtain ⟨l, rfl, _⟩ := plain_map_eq_ok h
    cases noMap
  | _ => rfl

theorem under_of_plain {n : Node} {qs : List (Text × Value)}
    (reads : List.Forall₂ PairReads n.pairs qs) :
    List.Forall₂ (fun m v => plain m = .ok v) (n.under rootKey) (roots qs) := by
  have same : ∀ p q, PairReads p q →
      decide (p.1.text? = some rootKey) = decide (q.1 = rootKey) := by
    intro p q hpq
    simp only [hpq.key, Option.some.injEq]
  rw [under, roots, List.forall₂_map_left_iff, List.forall₂_map_right_iff]
  exact (forall₂_filter same reads).imp fun _ _ => PairReads.value

theorem keys_of_reads {ps : List (Node × Node)} {qs : List (Text × Value)}
    (reads : List.Forall₂ PairReads ps qs) :
    ps.map (fun p => p.1.text?) = (qs.map (·.1)).map some := by
  induction reads with
  | nil => rfl
  | cons h _ ih => rw [List.map_cons, List.map_cons, List.map_cons, h.key, ih]

/-- A tree that repeats no name that counts says a document that repeats none. -/
theorem namesOnce_of_plain {n : Node} {v : Value} (h : plain n = .ok v)
    (once : (n.under rootKey).length ≤ 1)
    (names : ∀ m ∈ n.under rootKey, (m.pairs.map fun p => p.1.text?).Nodup) : NamesOnce v := by
  cases mapping : v.pairs? with
  | none => exact .noMapping mapping
  | some qs =>
    obtain ⟨lists, reads⟩ := lists_of_plain h mapping
    have hunder := under_of_plain reads
    rw [hunder.length_eq] at once
    refine .mapping lists once ?_
    intro root mem bs under
    obtain ⟨m, hm, hplain⟩ := exists_of_forall₂ hunder.flip root mem
    obtain ⟨lists, reads⟩ := lists_of_plain hplain under
    have distinct := names m hm
    rw [keys_of_reads reads] at distinct
    exact ⟨lists, distinct.of_map⟩

end Yaml.Node

namespace Registry

open Yaml (Node)
open Yaml.Node (PairReads plain)

/-- The pairs that stand under the root key of a tree; nothing stands in an empty text. -/
def declarations : Option Node → List (Node × Node)
  | none => []
  | some n => (n.under rootKey).flatMap Node.pairs

theorem pairs?_of_isEmpty {v : Value} (h : isEmpty v = true) : v.pairs? = none := by
  cases v with
  | map | ledger => cases h
  | _ => rfl

/-- The blocks that a document says are the pairs under its root key, one by one. -/
theorem declarations_of_plain {n : Node} {v : Value} {found : List (Text × List Directive)}
    (h : plain n = .ok v) (reads : Reads v found) :
    List.Forall₂ (fun p b => ∃ q, PairReads p q ∧ BlockReads q b) (declarations (some n))
      found := by
  cases mapping : v.pairs? with
  | none =>
    rw [reads.eq_nil mapping, declarations, Node.under, Node.pairs_eq_nil_of_plain h mapping]
    exact .nil
  | some qs =>
    obtain ⟨lists, pairs⟩ := Node.lists_of_plain h mapping
    have hunder := Node.under_of_plain pairs
    rcases reads.roots_eq lists with ⟨none, rfl⟩ | ⟨root, once, stands⟩
    · rw [none, List.forall₂_nil_right_iff] at hunder
      rw [declarations, hunder]
      exact .nil
    · rw [once, List.forall₂_cons_right_iff] at hunder
      obtain ⟨m, ms, hm, hms, hunder⟩ := hunder
      cases hms
      rw [declarations, hunder, List.flatMap_singleton]
      rcases stands with ⟨hempty, rfl⟩ | ⟨bs, under, hblocks⟩
      · rw [Node.pairs_eq_nil_of_plain hm (pairs?_of_isEmpty hempty)]
        exact .nil
      · exact forall₂_trans (Node.lists_of_plain hm under).2 hblocks

/-! ## What a text declares -/

/-- A pair under the root key, and the filter that it is declared as: its directives compile
under its name, and the name finds what they compile to. -/
inductive DeclaredAs (r : Registry) : Node × Node → Text × Definition → Prop
  | mk {key n : Node} {name : Text} {v : Value} {ds : List Directive} {definition : Definition}
      (written : key.text? = some (Name.sigil :: name)) (plain : Name.Plain name)
      (value : n.plain = .ok v)
      (reads : BlockReads (Name.sigil :: name, v) (Name.sigil :: name, ds))
      (compiles : (Block.compile ds (Name.sigil :: name)).ComesTo (.ok definition))
      (found : r.lookup? name = some definition) :
      DeclaredAs r (key, n) (name.lower, definition)

/-- All pairs under the root key of a text are declared, in the order they stand. -/
structure Keeps (r : Registry) (pairs : List (Node × Node)) : Prop where
  declared : List.Forall₂ (DeclaredAs r) pairs r.filters
  size : r.size = pairs.length
  distinct : Pairs.Distinct r.filters

theorem keeps_of_entered {r : Registry} {pairs : List (Node × Node)}
    {found : List (Text × List Directive)}
    (reads : List.Forall₂ (fun p b => ∃ q, PairReads p q ∧ BlockReads q b) pairs found)
    (entered : List.Forall₂ Entered found r.filters) (distinct : Pairs.Distinct r.filters) :
    r.Keeps pairs := by
  have hlookup : ∀ f ∈ r.filters, Pairs.find? f.1 r.filters = some f.2 :=
    fun f hf => (Pairs.find?_eq_some_iff distinct f.1 f.2).mpr hf
  have hpairs := forall₂_trans reads (forall₂_and_right entered hlookup)
  refine ⟨hpairs.imp ?_, hpairs.length_eq.symm, distinct⟩
  rintro ⟨key, n⟩ ⟨k, definition⟩ ⟨⟨raw, ds⟩, ⟨⟨raw', v⟩, hread, hblock⟩, hentered, hfound⟩
  obtain ⟨⟨name, hraw, hplain, hk⟩, hcompiles⟩ := hentered
  have hsame : raw' = raw := by cases hblock <;> rfl
  cases hsame
  cases hraw
  cases hk
  refine .mk hread.key hplain hread.value hblock hcompiles ?_
  rw [lookup?, hplain.normalize]
  exact hfound

theorem refuseDocument_ne_ok {failure : Yaml.Complaint → Failure} {f : Yaml.Fault} {j : Journal}
    {r : Registry} : ((refuseDocument failure f : Attempt Registry).run j).1 ≠ .ok r := by
  cases f <;> exact fun h => nomatch h

/-- A registry of a text keeps all pairs under the root key of the text. -/
theorem keeps_of_ofText {t : Text} {j : Journal} {r : Registry}
    (h : ((ofText t).run j).1 = .ok r) :
    ∃ root, Node.ofFeed (.ofText t) = .ok root ∧ r.Keeps (declarations root) := by
  unfold ofText Node.plainDocument at h
  cases hroot : Node.ofFeed (.ofText t) with
  | error f =>
    rw [hroot] at h
    exact absurd h refuseDocument_ne_ok
  | ok root =>
    refine ⟨root, rfl, ?_⟩
    rw [hroot] at h
    cases root with
    | none =>
      obtain ⟨found, hreads, entered, distinct⟩ := registry_eq_ok h
      cases hreads.eq_nil rfl
      exact keeps_of_entered .nil entered distinct
    | some n =>
      cases hv : plain n with
      | error f =>
        simp only [hv] at h
        exact absurd h refuseDocument_ne_ok
      | ok v =>
        simp only [hv] at h
        obtain ⟨found, hreads, entered, distinct⟩ := registry_eq_ok h
        exact keeps_of_entered (declarations_of_plain hv hreads) entered distinct

/-! ## Names that clash -/

/-- Two of the pairs have names that are the same but for the case of ASCII letters. -/
inductive Clash (pairs : List (Node × Node)) : Prop
  | mk {i i' : Nat} {p p' : Node × Node} {raw raw' : Text} (two : i ≠ i')
      (first : pairs[i]? = some p) (second : pairs[i']? = some p')
      (written : p.1.text? = some raw) (written' : p'.1.text? = some raw')
      (variant : Name.CaseVariant raw raw') : Clash pairs

theorem DeclaredAs.key {r : Registry} {p : Node × Node} {f : Text × Definition} {raw : Text}
    (h : DeclaredAs r p f) (written : p.1.text? = some raw) :
    ∃ name : Text, raw = Name.sigil :: name ∧ Name.Plain name ∧ f.1 = name.lower := by
  cases h with
  | mk written' plain =>
    cases written.symm.trans written'
    exact ⟨_, rfl, plain, rfl⟩

/-- Names that clash have the same key, and a registry has each key once. -/
theorem Keeps.not_clash {r : Registry} {pairs : List (Node × Node)} (h : r.Keeps pairs) :
    ¬ Clash pairs := by
  rintro @⟨i, i', _, _, _, _, two, first, second, written, written', variant⟩
  obtain ⟨f, hf, declared⟩ := getElem?_of_forall₂ h.declared first
  obtain ⟨f', hf', declared'⟩ := getElem?_of_forall₂ h.declared second
  obtain ⟨name, rfl, plain, hkey⟩ := declared.key written
  obtain ⟨name', rfl, plain', hkey'⟩ := declared'.key written'
  have hlower := plain'.lower_of_caseVariant (List.cons.inj variant).2
  have hsame : (r.filters.map (·.1))[i]? = (r.filters.map (·.1))[i']? := by
    rw [List.getElem?_map, List.getElem?_map, hf, hf', Option.map_some, Option.map_some, hkey,
      hkey', hlower]
  have hbound : i < (r.filters.map (·.1)).length := by
    rw [List.length_map]
    exact (List.getElem?_eq_some_iff.mp hf).1
  exact two ((List.getElem?_inj hbound h.distinct).mp hsame)

/-! ## A root key that is repeated -/

theorem refuseDocument_of_refused {n : Node} {f : Yaml.Fault} (h : n.Refused f)
    (failure : Yaml.Complaint → Failure) :
    ∃ c, f = .complaint c ∧
      (refuseDocument failure f : Attempt Registry) = Attempt.fail (failure c) := by
  cases h with
  | key => exact ⟨_, rfl, rfl⟩
  | loop => exact ⟨_, rfl, rfl⟩

theorem illShaped_of_rootTwice {n : Node} {v : Value} (h : plain n = .ok v)
    (twice : 1 < (n.under rootKey).length) : IllShaped v := by
  cases mapping : v.pairs? with
  | none =>
    rw [Node.under, Node.pairs_eq_nil_of_plain h mapping] at twice
    cases twice
  | some qs =>
    have hunder := Node.under_of_plain (Node.lists_of_plain h mapping).2
    rw [hunder.length_eq] at twice
    exact .rootTwice mapping ((rootTwice_iff qs).mpr twice)

theorem ofText_of_rootTwice {t : Text} {n : Node} (hroot : Node.ofFeed (.ofText t) = .ok (some n))
    (twice : 1 < (n.under rootKey).length) (j : Journal) :
    ∃ f : Failure, ((ofText t).run j).1 = .error (.failure f) ∧ f.kind = .file none := by
  unfold ofText Node.plainDocument
  rw [hroot]
  cases hv : plain n with
  | error f =>
    obtain ⟨c, _, hrefuse⟩ :=
      refuseDocument_of_refused (Node.plain_eq_error hv) (unreadable [] none ⟨textName, some t⟩)
    simp only [hv, hrefuse]
    exact ⟨_, rfl, rfl⟩
  | ok v =>
    obtain ⟨fault, hrun⟩ := registry_of_illShaped (illShaped_of_rootTwice hv twice)
    simp only [hv, hrun]
    exact ⟨_, rfl, rfl⟩

/-! ## The laws -/

/-- No block of a rules text is lost. A tree can be read unless a key is no scalar or an alias
stands inside the node that it names, and each mapping in it becomes a ledger: it remembers all
its pairs in the order they stand, and its table, which is filled beside them, has for each key the
value of the last pair. So a registry of a text has one filter for each pair under the root key,
in the order they stand. Names that clash and a repeated root key are refused. A tree that repeats
no name that counts says a document that repeats none, and such a document says what it says with
its mappings as tables. -/
theorem no_block_of_a_text_is_lost :
    (∀ n, (∃ v, plain n = .ok v) ↔
      (∀ m, Node.Occurs m n → ∀ p ∈ m.pairs, ∃ key, p.1.text? = some key) ∧
        ∀ start, ¬ Node.Occurs (.loop start) n) ∧
    (∀ n f, plain n = .error f → Node.Refused n f) ∧
    (∀ n v, plain n = .ok v → ∀ tag pairs start, Node.Occurs (.map tag pairs start) n →
      ∃ l : Ledger Value, plain (.map tag pairs start) = .ok (.ledger l.table l.pairs) ∧
        List.Forall₂ PairReads pairs l.pairs ∧ l.InStep) ∧
    (∀ t j r, ((ofText t).run j).1 = .ok r →
      ∃ root, Node.ofFeed (.ofText t) = .ok root ∧ r.Keeps (declarations root)) ∧
    (∀ t n, Node.ofFeed (.ofText t) = .ok (some n) →
      (Clash (declarations (some n)) → ∀ j, ∃ e, ((ofText t).run j).1 = .error e) ∧
      (1 < (n.under rootKey).length → ∀ j, ∃ f : Failure,
        ((ofText t).run j).1 = .error (.failure f) ∧ f.kind = .file none)) ∧
    (∀ n v, plain n = .ok v → (n.under rootKey).length ≤ 1 →
      (∀ m ∈ n.under rootKey, (m.pairs.map fun p => p.1.text?).Nodup) → NamesOnce v) ∧
    ∀ v, NamesOnce v →
      (blocks v.dict).mapError Fault.failure = (blocks v).mapError Fault.failure := by
  refine ⟨Node.exists_plain_iff, fun n f => Node.plain_eq_error, ?_, fun t j r => keeps_of_ofText,
    ?_, fun n v => Node.namesOnce_of_plain, fun v => blocks_dict⟩
  · intro n v hv tag pairs start occurs
    obtain ⟨w, hw⟩ := occurs.plain_eq_ok hv
    obtain ⟨l, rfl, reads, step⟩ := Node.plain_map_eq_ok hw
    exact ⟨l, hw, reads, step⟩
  · intro t n hroot
    refine ⟨?_, ofText_of_rootTwice hroot⟩
    intro clash j
    cases hrun : ((ofText t).run j).1 with
    | error e => exact ⟨e, rfl⟩
    | ok r =>
      obtain ⟨root, hroot', keeps⟩ := keeps_of_ofText hrun
      cases hroot.symm.trans hroot'
      exact absurd clash keeps.not_clash

end Registry

end QuerySieve
