-- The laws of the shape of a document. Each part of a document, an entry, a block or the
-- whole, either says something or is ill-shaped, and only what stands under the root key
-- counts. A directive is the same in both its spellings.
import QuerySieve.Proofs.Readings
import QuerySieve.Proofs.Spellings
import QuerySieve.Proofs.Tables

namespace QuerySieve.Document

open Reading

/-! ## Entries -/

/-- The directive that an entry says: a line says its words, and a list of texts says
itself. The first word is the name. -/
inductive EntryReads : Value → Directive → Prop
  | line {line name : Text} {args : List Text}
      (words : Words.split? line = some (name :: args)) :
      EntryReads (.text line) ⟨name, args.map .text⟩
  | list {name : Text} {args : List Text} :
      EntryReads (.list ((name :: args).map .text)) ⟨name, args.map .text⟩

/-- An entry that says no directive. -/
inductive BadEntry : Value → Prop
  | neither {e : Value} (noText : ∀ t, e ≠ .text t) (noList : ∀ items, e ≠ .list items) :
      BadEntry e
  | notTexts {items : List Value} {v : Value} (mem : v ∈ items) (noText : ∀ t, v ≠ .text t) :
      BadEntry (.list items)
  | unclosed {line : Text} (open_ : (Words.leftOpen none line).isSome = true) :
      BadEntry (.text line)
  | blank {line : Text} (gap : Words.IsGap line) : BadEntry (.text line)
  | empty : BadEntry (.list [])

theorem texts?_map (ts : List Text) : texts? (ts.map .text) = some ts := by
  induction ts with
  | nil => rfl
  | cons t ts ih =>
    rw [List.map_cons, texts?, ih]
    rfl

theorem texts?_of_mem {items : List Value} {v : Value} (mem : v ∈ items)
    (noText : ∀ t, v ≠ .text t) : texts? items = none := by
  induction items with
  | nil => cases mem
  | cons v' items ih =>
    rcases List.mem_cons.mp mem with rfl | hmem
    · cases v with
      | text t => exact absurd rfl (noText t)
      | _ => rfl
    · cases v' with
      | text t =>
        rw [texts?, ih hmem]
        rfl
      | _ => rfl

theorem texts_or_exists (items : List Value) :
    (∃ ts : List Text, items = ts.map .text) ∨ ∃ v ∈ items, ∀ t, v ≠ .text t := by
  induction items with
  | nil => exact Or.inl ⟨[], rfl⟩
  | cons v items ih =>
    by_cases hv : ∃ t, v = .text t
    · obtain ⟨t, rfl⟩ := hv
      rcases ih with ⟨ts, rfl⟩ | ⟨v, hmem, hv⟩
      · exact Or.inl ⟨t :: ts, rfl⟩
      · exact Or.inr ⟨v, List.mem_cons_of_mem _ hmem, hv⟩
    · exact Or.inr ⟨v, List.mem_cons_self, fun t h => hv ⟨t, h⟩⟩

theorem directive_of_entryReads (block : Text) {e : Value} {d : Directive}
    (h : EntryReads e d) : directive block e = .ok d := by
  cases h with
  | line words => simp only [directive, entryWords, words]
  | list => simp only [directive, entryWords, texts?_map]

theorem directive_of_badEntry (block : Text) {e : Value} (h : BadEntry e) :
    ∃ f, directive block e = .error f := by
  cases h with
  | neither noText noList =>
    cases e with
    | text t => exact absurd rfl (noText t)
    | list items => exact absurd rfl (noList items)
    | _ => exact ⟨_, rfl⟩
  | notTexts mem noText =>
    simp only [directive, entryWords, texts?_of_mem mem noText]
    exact ⟨_, rfl⟩
  | unclosed open_ =>
    simp only [directive, entryWords, (Words.split?_eq_none_iff _).mpr open_]
    exact ⟨_, rfl⟩
  | blank gap =>
    simp only [directive, entryWords, (Words.split?_eq_nil_iff _).mpr gap]
    exact ⟨_, rfl⟩
  | empty => exact ⟨_, rfl⟩

theorem entryReads_or_bad (e : Value) : (∃ d, EntryReads e d) ∨ BadEntry e := by
  cases e with
  | text line =>
    cases hwords : Words.split? line with
    | none => exact Or.inr (.unclosed ((Words.split?_eq_none_iff line).mp hwords))
    | some words =>
      cases words with
      | nil => exact Or.inr (.blank ((Words.split?_eq_nil_iff line).mp hwords))
      | cons name args => exact Or.inl ⟨_, .line hwords⟩
  | list items =>
    rcases texts_or_exists items with ⟨ts, rfl⟩ | ⟨v, hmem, hv⟩
    · cases ts with
      | nil => exact Or.inr .empty
      | cons name args => exact Or.inl ⟨_, .list⟩
    · exact Or.inr (.notTexts hmem hv)
  | _ => exact Or.inr (.neither (by simp) (by simp))

/-! ## Blocks -/

/-- The block that a pair says: an empty value is a block without directives. -/
inductive BlockReads : Text × Value → Text × List Directive → Prop
  | empty {name : Text} {v : Value} (h : isEmpty v = true) : BlockReads (name, v) (name, [])
  | list {name : Text} {entries : List Value} {ds : List Directive}
      (h : List.Forall₂ EntryReads entries ds) : BlockReads (name, .list entries) (name, ds)

/-- A value that is no block. -/
inductive BadBlock : Value → Prop
  | notList {v : Value} (full : isEmpty v = false) (noList : ∀ items, v ≠ .list items) :
      BadBlock v
  | entry {entries : List Value} {e : Value} (mem : e ∈ entries) (bad : BadEntry e) :
      BadBlock (.list entries)

theorem block_empty (name : Text) {v : Value} (h : isEmpty v = true) :
    block name v = .ok (name, []) := by
  unfold block entries
  rw [if_pos h]
  rfl

theorem block_list (name : Text) (items : List Value) :
    block name (.list items) = (items.mapM (directive name)).map fun ds => (name, ds) := by
  unfold block entries
  rw [if_neg (by simp [isEmpty])]
  rfl

theorem block_of_blockReads {p : Text × Value} {b : Text × List Directive}
    (h : BlockReads p b) : block p.1 p.2 = .ok b := by
  cases h with
  | empty h => exact block_empty _ h
  | @list name _ ds h =>
    rw [block_list, mapM_of_forall₂ (h.imp fun _ _ => directive_of_entryReads name)]
    rfl

theorem block_of_badBlock (name : Text) {v : Value} (h : BadBlock v) :
    ∃ f, block name v = .error f := by
  cases h with
  | notList full noList =>
    refine ⟨.blockNotList name, ?_⟩
    unfold block entries
    rw [full, if_neg Bool.false_ne_true]
    cases v with
    | list items => exact absurd rfl (noList items)
    | _ => rfl
  | entry mem bad =>
    obtain ⟨f, hf⟩ := directive_of_badEntry name bad
    obtain ⟨f', hf'⟩ := mapM_of_mem mem hf
    exact ⟨f', by rw [block_list, hf']; rfl⟩

theorem blockReads_or_bad (p : Text × Value) : (∃ b, BlockReads p b) ∨ BadBlock p.2 := by
  obtain ⟨name, v⟩ := p
  cases hempty : isEmpty v with
  | true => exact Or.inl ⟨_, .empty hempty⟩
  | false =>
    by_cases hlist : ∃ items, v = .list items
    · obtain ⟨items, rfl⟩ := hlist
      rcases forall₂_or_exists entryReads_or_bad items with ⟨ds, hds⟩ | ⟨e, hmem, hbad⟩
      · exact Or.inl ⟨_, .list hds⟩
      · exact Or.inr (.entry hmem hbad)
    · exact Or.inr (.notList hempty fun items h => hlist ⟨items, h⟩)

/-! ## Whole documents -/

/-- The values that stand under the root key. -/
def roots (pairs : List (Text × Value)) : List Value :=
  (pairs.filter fun p => p.1 = rootKey).map (·.2)

/-- The root key stands more than once. -/
def RootTwice (pairs : List (Text × Value)) : Prop := 1 < pairs.countP fun p => p.1 = rootKey

/-- The blocks that a document says, in the order they stand. Whether the root key is repeated is
told by the pairs of the document; what stands under it is looked up in its table. -/
inductive Reads : Value → List (Text × List Directive) → Prop
  | null : Reads .null []
  | noRoot {v : Value} {pairs : List (Text × Value)} (mapping : v.pairs? = some pairs)
      (once : ¬ RootTwice pairs) (none : v.get? rootKey = none) : Reads v []
  | emptyRoot {v root : Value} {pairs : List (Text × Value)} (mapping : v.pairs? = some pairs)
      (once : ¬ RootTwice pairs) (has : v.get? rootKey = some root) (h : isEmpty root = true) :
      Reads v []
  | blocks {v root : Value} {pairs bs : List (Text × Value)} {found : List (Text × List Directive)}
      (mapping : v.pairs? = some pairs) (once : ¬ RootTwice pairs)
      (has : v.get? rootKey = some root) (under : root.pairs? = some bs)
      (h : List.Forall₂ BlockReads bs found) : Reads v found

/-- A document that has the wrong shape somewhere. The root key may not be repeated, which
only a mapping that remembers its repeated keys can do. -/
inductive IllShaped : Value → Prop
  | notMapping {v : Value} (notNull : v ≠ .null) (noMap : v.pairs? = none) : IllShaped v
  | rootTwice {v : Value} {pairs : List (Text × Value)} (mapping : v.pairs? = some pairs)
      (twice : RootTwice pairs) : IllShaped v
  | rootNotMapping {v root : Value} (has : v.get? rootKey = some root)
      (full : isEmpty root = false) (noMap : root.pairs? = none) : IllShaped v
  | block {v root : Value} {bs : List (Text × Value)} {b : Text × Value}
      (has : v.get? rootKey = some root) (under : root.pairs? = some bs) (mem : b ∈ bs)
      (bad : BadBlock b.2) : IllShaped v

theorem length_roots (pairs : List (Text × Value)) :
    (roots pairs).length = pairs.countP fun p => p.1 = rootKey := by
  rw [roots, List.length_map, List.countP_eq_length_filter]

theorem rootTwice_iff (pairs : List (Text × Value)) :
    RootTwice pairs ↔ 1 < (roots pairs).length := by
  rw [RootTwice, length_roots]

theorem last?_rootKey (pairs : List (Text × Value)) :
    Pairs.last? rootKey pairs = (roots pairs).getLast? := by
  rw [Pairs.last?, Pairs.find?, roots, ← List.head?_filter, List.filter_reverse,
    List.head?_reverse, List.getLast?_map]

theorem forall₂_roots {R : Value → Value → Prop} {ps qs : List (Text × Value)}
    (h : List.Forall₂ (Pairs.Alike fun key v w => key = rootKey → R v w) ps qs) :
    List.Forall₂ R (roots ps) (roots qs) := by
  induction h with
  | nil => exact .nil
  | @cons p q ps qs hpq _ ih =>
    rw [roots, roots, List.filter_cons, List.filter_cons, ← hpq.key]
    by_cases hkey : p.1 = rootKey
    · simp only [hkey, decide_true, if_true, List.map_cons]
      exact .cons (hpq.value hkey) ih
    · simp only [hkey, decide_false, Bool.false_eq_true, if_false]
      exact ih

section

variable {v root : Value} {pairs bs : List (Text × Value)}

theorem exists_pairs_of_get? {key : Text} (has : v.get? key = some root) :
    ∃ pairs, v.pairs? = some pairs := by
  cases v with
  | map | ledger => exact ⟨_, rfl⟩
  | _ => cases has

theorem blocks_of_pairs (mapping : v.pairs? = some pairs) :
    blocks v = if 1 < pairs.countP (fun p => p.1 = rootKey) then .error .rootTwice
      else rootBlocks ((v.get? rootKey).getD .null) := by
  cases v with
  | map pairs => cases mapping; rfl
  | ledger table pairs => cases mapping; rfl
  | _ => cases mapping

theorem blocks_of_once (mapping : v.pairs? = some pairs) (once : ¬ RootTwice pairs) :
    blocks v = rootBlocks ((v.get? rootKey).getD .null) := by
  rw [blocks_of_pairs mapping]
  exact if_neg once

/-- Only the values under the root key count. -/
theorem blocks_of_lists (lists : v.Lists pairs) :
    blocks v = match roots pairs with
      | [] => .ok []
      | [root] => rootBlocks root
      | _ :: _ :: _ => .error .rootTwice := by
  rw [blocks_of_pairs lists.pairs?_eq, lists.get?_eq, ← length_roots, last?_rootKey]
  cases roots pairs with
  | nil => rfl
  | cons root more =>
    cases more with
    | nil => rfl
    | cons root' more => rw [if_pos (by simp)]

theorem rootBlocks_empty (h : isEmpty root = true) : rootBlocks root = .ok [] := if_pos h

theorem rootBlocks_of_pairs (under : root.pairs? = some bs) :
    rootBlocks root = bs.mapM fun p => Document.block p.1 p.2 := by
  cases root with
  | map bs => cases under; rfl
  | ledger table bs => cases under; rfl
  | _ => cases under

theorem rootBlocks_of_full (full : isEmpty root = false) (noMap : root.pairs? = none) :
    rootBlocks root = .error .rootNotMapping := by
  unfold rootBlocks
  rw [full, noMap]
  rfl

theorem rootBlocks_congr {w : Value} {bs' : List (Text × Value)} (left : root.Lists bs)
    (right : w.Lists bs')
    (h : List.Forall₂ (Pairs.Alike fun name v w => block name v = block name w) bs bs') :
    rootBlocks root = rootBlocks w := by
  rw [rootBlocks_of_pairs left.pairs?_eq, rootBlocks_of_pairs right.pairs?_eq]
  refine mapM_congr (h.imp fun b b' hb => ?_)
  rw [hb.value, hb.key]

/-- Documents whose root keys have values that say the same blocks have the same blocks. -/
theorem blocks_congr {w : Value} {pairs' : List (Text × Value)} (left : v.Lists pairs)
    (right : w.Lists pairs')
    (h : List.Forall₂ (Pairs.Alike fun key v w => key = rootKey → rootBlocks v = rootBlocks w)
      pairs pairs') : blocks v = blocks w := by
  have hroots := forall₂_roots h
  -- Only a single root is looked into; without one, or with two, its value does not count.
  rw [blocks_of_lists left, blocks_of_lists right]
  generalize roots pairs = vs at hroots ⊢
  generalize roots pairs' = ws at hroots ⊢
  cases hroots with
  | nil => rfl
  | cons hroot more =>
    cases more with
    | nil => exact hroot
    | cons => rfl

theorem blocks_of_reads {found : List (Text × List Directive)} (h : Reads v found) :
    blocks v = .ok found := by
  cases h with
  | null => rfl
  | noRoot mapping once none =>
    rw [blocks_of_once mapping once, none]
    rfl
  | emptyRoot mapping once has hempty =>
    rw [blocks_of_once mapping once, has]
    exact rootBlocks_empty hempty
  | blocks mapping once has under h =>
    rw [blocks_of_once mapping once, has, Option.getD_some, rootBlocks_of_pairs under]
    exact mapM_of_forall₂ (h.imp fun _ _ => block_of_blockReads)

/-- A value under the root key that is refused is enough for the document to be. -/
theorem blocks_of_root (has : v.get? rootKey = some root) (h : ∃ f, rootBlocks root = .error f) :
    ∃ f, blocks v = .error f := by
  obtain ⟨pairs, mapping⟩ := exists_pairs_of_get? has
  rw [blocks_of_pairs mapping, has]
  split
  case isTrue => exact ⟨_, rfl⟩
  case isFalse => exact h

theorem blocks_of_illShaped (h : IllShaped v) : ∃ f, blocks v = .error f := by
  cases h with
  | notMapping notNull noMap =>
    cases v with
    | null => exact absurd rfl notNull
    | map | ledger => cases noMap
    | _ => exact ⟨_, rfl⟩
  | rootTwice mapping twice =>
    rw [blocks_of_pairs mapping]
    exact ⟨_, if_pos twice⟩
  | rootNotMapping has full noMap => exact blocks_of_root has ⟨_, rootBlocks_of_full full noMap⟩
  | @block _ bs b has under mem bad =>
    obtain ⟨f, hf⟩ := block_of_badBlock b.1 bad
    apply blocks_of_root has
    rw [rootBlocks_of_pairs under]
    exact mapM_of_mem mem hf

end

theorem reads_or_illShaped (v : Value) : (∃ found, Reads v found) ∨ IllShaped v := by
  by_cases hnull : v = .null
  · exact Or.inl ⟨[], hnull ▸ .null⟩
  cases mapping : v.pairs? with
  | none => exact Or.inr (.notMapping hnull mapping)
  | some pairs =>
    by_cases once : RootTwice pairs
    · exact Or.inr (.rootTwice mapping once)
    cases has : v.get? rootKey with
    | none => exact Or.inl ⟨_, .noRoot mapping once has⟩
    | some root =>
      cases hempty : isEmpty root with
      | true => exact Or.inl ⟨_, .emptyRoot mapping once has hempty⟩
      | false =>
        cases under : root.pairs? with
        | none => exact Or.inr (.rootNotMapping has hempty under)
        | some bs =>
          rcases forall₂_or_exists blockReads_or_bad bs with ⟨found, hfound⟩ | ⟨b, mem, bad⟩
          · exact Or.inl ⟨_, .blocks mapping once has under hfound⟩
          · exact Or.inr (.block has under mem bad)

/-- A document says its blocks or is ill-shaped, and never both. -/
theorem not_illShaped_iff (v : Value) : ¬ IllShaped v ↔ ∃ found, Reads v found := by
  constructor
  · exact fun h => (reads_or_illShaped v).resolve_right h
  · rintro ⟨found, hreads⟩ hbad
    obtain ⟨f, hf⟩ := blocks_of_illShaped hbad
    rw [blocks_of_reads hreads] at hf
    cases hf

theorem Reads.eq_nil {v : Value} {found : List (Text × List Directive)} (h : Reads v found)
    (noMap : v.pairs? = none) : found = [] := by
  cases h with
  | null => rfl
  | noRoot has | emptyRoot has | blocks has => cases noMap.symm.trans has

/-- What a document says stands under its root key, which it has once or not at all. -/
theorem Reads.roots_eq {v : Value} {pairs : List (Text × Value)}
    {found : List (Text × List Directive)} (h : Reads v found) (lists : v.Lists pairs) :
    roots pairs = [] ∧ found = [] ∨ ∃ root, roots pairs = [root] ∧
      (isEmpty root = true ∧ found = [] ∨
        ∃ bs, root.pairs? = some bs ∧ List.Forall₂ BlockReads bs found) := by
  have hget := lists.get?_eq rootKey
  rw [last?_rootKey] at hget
  have single : ∀ {root ps}, v.pairs? = some ps → ¬ RootTwice ps → v.get? rootKey = some root →
      roots pairs = [root] := by
    intro root ps mapping once has
    cases lists.pairs?_eq.symm.trans mapping
    rw [rootTwice_iff] at once
    rw [has] at hget
    generalize roots pairs = values at once hget ⊢
    rcases values with _ | ⟨root', _ | ⟨root'', more⟩⟩
    · cases hget
    · cases hget
      rfl
    · simp at once
  cases h with
  | null => cases lists
  | noRoot mapping once none =>
    rw [none, eq_comm, List.getLast?_eq_none_iff] at hget
    exact Or.inl ⟨hget, rfl⟩
  | emptyRoot mapping once has hempty =>
    exact Or.inr ⟨_, single mapping once has, Or.inl ⟨hempty, rfl⟩⟩
  | blocks mapping once has under h =>
    exact Or.inr ⟨_, single mapping once has, Or.inr ⟨_, under, h⟩⟩

/-! ## One entry in a document -/

/-- A place for an entry in a document, with all that stands around it. Its mappings remember their
pairs, as they do in a rules file, or they do not. -/
structure Spot where
  remembers : Bool
  before : List (Text × Value)
  blocksBefore : List (Text × Value)
  name : Text
  entriesBefore : List Value
  entriesAfter : List Value
  blocksAfter : List (Text × Value)
  after : List (Text × Value)

/-- The blocks with an entry in its place. -/
def Spot.root (s : Spot) (entry : Value) : Value :=
  .ofPairs s.remembers (s.blocksBefore
    ++ (s.name, .list (s.entriesBefore ++ entry :: s.entriesAfter)) :: s.blocksAfter)

/-- The document with an entry in its place. -/
def Spot.fill (s : Spot) (entry : Value) : Value :=
  .ofPairs s.remembers (s.before ++ (rootKey, s.root entry) :: s.after)

/-- Pairs that differ in one value are alike if that value is. -/
theorem forall₂_alike {R : Text → Value → Value → Prop} (same : ∀ key v, R key v v)
    (before after : List (Text × Value)) {key : Text} {v w : Value} (h : R key v w) :
    List.Forall₂ (Pairs.Alike R) (before ++ (key, v) :: after) (before ++ (key, w) :: after) := by
  have alike : ∀ ps : List (Text × Value), List.Forall₂ (Pairs.Alike R) ps ps :=
    fun ps => List.forall₂_same.mpr fun p _ => ⟨rfl, same p.1 p.2⟩
  exact List.rel_append (alike before) (.cons ⟨rfl, h⟩ (alike after))

/-- Mappings of pairs that are alike list pairs that are. -/
theorem exists_lists_of_alike {R : Text → Value → Value → Prop} {ps qs : List (Text × Value)}
    (h : List.Forall₂ (Pairs.Alike R) ps qs) (remembers : Bool) :
    ∃ ps' qs', (Value.ofPairs remembers ps).Lists ps' ∧ (Value.ofPairs remembers qs).Lists qs' ∧
      List.Forall₂ (Pairs.Alike R) ps' qs' := by
  refine ⟨_, _, Value.lists_ofPairs _ _, Value.lists_ofPairs _ _, ?_⟩
  cases remembers with
  | true => exact h
  | false => exact Pairs.forall₂_table h

/-- Entries that say the same directive may stand for each other. -/
theorem blocks_fill (s : Spot) {e e' : Value} (h : directive s.name e = directive s.name e') :
    blocks (s.fill e) = blocks (s.fill e') := by
  have hblock : Document.block s.name (.list (s.entriesBefore ++ e :: s.entriesAfter)) =
      Document.block s.name (.list (s.entriesBefore ++ e' :: s.entriesAfter)) := by
    rw [block_list, block_list, List.mapM_append, List.mapM_append, List.mapM_cons,
      List.mapM_cons, h]
  obtain ⟨bs, bs', left, right, alike⟩ := exists_lists_of_alike
    (forall₂_alike (R := fun name v w => Document.block name v = Document.block name w)
      (fun _ _ => rfl) s.blocksBefore s.blocksAfter hblock) s.remembers
  have hroot : rootBlocks (s.root e) = rootBlocks (s.root e') := rootBlocks_congr left right alike
  obtain ⟨ps, ps', left, right, alike⟩ := exists_lists_of_alike
    (forall₂_alike (R := fun key v w => key = rootKey → rootBlocks v = rootBlocks w)
      (fun _ _ _ => rfl) s.before s.after fun _ => hroot) s.remembers
  exact blocks_congr left right alike

/-! ## The laws -/

/-- A line and the list of its words are one directive, in whatever way the words are
written. So a document is compiled to the same registry, or is refused with the same
trouble, with either of them. -/
theorem a_line_and_its_words_are_one_directive {line name : Text} {args : List Text}
    (writes : Words.Writes line (name :: args)) :
    (∀ block, directive block (.text line) = .ok ⟨name, args.map .text⟩ ∧
      directive block (.list ((name :: args).map .text)) = .ok ⟨name, args.map .text⟩) ∧
    ∀ s : Spot, registry (s.fill (.text line)) =
      registry (s.fill (.list ((name :: args).map .text))) := by
  have hline : ∀ block, directive block (.text line) = .ok ⟨name, args.map .text⟩ :=
    fun block => directive_of_entryReads block (.line (Words.split?_of_writes writes))
  have hlist : ∀ block, directive block (.list ((name :: args).map .text)) =
      .ok ⟨name, args.map .text⟩ := fun block => directive_of_entryReads block .list
  refine ⟨fun block => ⟨hline block, hlist block⟩, ?_⟩
  intro s
  have hblocks := blocks_fill s ((hline s.name).trans (hlist s.name).symm)
  rw [registry, registry, hblocks]

/-- A line with its pattern in three fragments. -/
theorem quotedLine_writes : Words.Writes " exclude\t~ \"^a b\"'\\.'# "
    [Text.ofString "exclude", Text.ofString "~", Text.ofString "^a b\\.#"] := by
  have bare : ∀ t : Text, t ≠ [] →
      (t.all fun c => !Words.isBlank c && !Words.isQuote c) = true → Words.Fragment t t := by
    intro t nonempty h
    refine .bare nonempty fun c hc => ?_
    simpa using List.all_eq_true.mp h c hc
  have gap : ∀ t : Text, t.all Words.isBlank = true → Words.IsGap t :=
    fun t h => List.all_eq_true.mp h
  have pattern : Words.Spells "\"^a b\"'\\.'#" "^a b\\.#" :=
    .more (@Words.Fragment.quotation '"' "^a b" (by decide) (by decide))
      (.more (@Words.Fragment.quotation '\'' "\\." (by decide) (by decide))
        (.one (bare "#" (by decide) (by decide))))
  refine ⟨" ", "exclude\t~ \"^a b\"'\\.'#", " ", by decide, gap _ (by decide),
    gap _ (by decide), ?_⟩
  exact .more (.one (bare "exclude" (by decide) (by decide))) (gap "\t" (by decide)) (by decide)
    (.more (.one (bare "~" (by decide) (by decide))) (gap " " (by decide)) (by decide)
      (.last pattern))

theorem quotedLine_is_one_directive :
    Words.Writes " exclude\t~ \"^a b\"'\\.'# "
        [Text.ofString "exclude", Text.ofString "~", Text.ofString "^a b\\.#"] ∧
      directive "$a" (.text " exclude\t~ \"^a b\"'\\.'# ") =
        .ok ⟨"exclude", [.text "~", .text "^a b\\.#"]⟩ :=
  ⟨quotedLine_writes,
    ((a_line_and_its_words_are_one_directive quotedLine_writes).1 "$a").1⟩

end QuerySieve.Document
