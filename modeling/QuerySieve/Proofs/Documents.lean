-- The laws of registries that documents make up. The whole document is looked at before any
-- block is declared, so its shape comes before everything that can be wrong with a block.
-- Then the blocks are declared in order, and the first one that fails ends it.
import QuerySieve.Proofs.Registries
import QuerySieve.Proofs.Shapes

namespace QuerySieve

/-! ## Declaring on a value -/

/-- A declaration has the outcome that its checks say. -/
theorem Drafting.Leads.declared {d d' : Draft} {raw : Text} {ds : List Directive}
    {r : Except Trouble Definition} (h : (Drafting.declare raw ds).Leads d r d') :
    d.Declared raw ds r d' := by
  obtain ⟨r', d'', h', declared⟩ := Drafting.declare_declared d raw ds
  cases Gives.unique h h'
  exact declared

theorem Draft.declare_comesTo {d d' : Draft} {raw : Text} {ds : List Directive}
    {r : Except Trouble Definition} (h : (Drafting.declare raw ds).Leads d r d') :
    (d.declare raw ds).ComesTo (r.map fun definition => (d', definition)) :=
  Gives.bind h (Gives.pure _)

theorem Block.Refused.kind_ne_file {block : Option Text} {again : Bool} {d : Directive}
    {f : Failure} (h : Block.Refused block again d f) (path : Option Text) :
    f.kind ≠ .file path := by
  cases h with
  | pattern => simp [patternRefusal]
  | _ => simp [refusal]

/-- Only a document as a whole is refused as a file. -/
theorem Draft.Declared.kind_ne_file {d d' : Draft} {raw : Text} {ds : List Directive}
    {f : Failure} (h : d.Declared raw ds (.error (.failure f)) d') (path : Option Text) :
    f.kind ≠ .file path := by
  cases h with
  | frozen => simp [Draft.frozenRefusal]
  | name => simp [Draft.nameRefusal]
  | taken => simp [Draft.duplicateRefusal]
  | refused unfrozen sigil plain free compiles =>
    obtain ⟨r, hr, ending⟩ := Block.compile_ending ds raw
    have he := compiles.unique hr
    cases ending with
    | accepted => cases he
    | stray => cases he
    | refused _ _ why =>
      cases he
      exact (why.inBlock raw).kind_ne_file path

namespace Document

/-! ## Declaring blocks in order -/

/-- All blocks are declared, one after another. -/
inductive DeclaresAll : Draft → List (Text × List Directive) → Draft → Prop
  | nil {d : Draft} : DeclaresAll d [] d
  | cons {d d' d'' : Draft} {raw : Text} {ds : List Directive} {definition : Definition}
      {rest : List (Text × List Directive)}
      (leads : (Drafting.declare raw ds).Leads d (.ok definition) d')
      (more : DeclaresAll d' rest d'') : DeclaresAll d ((raw, ds) :: rest) d''

/-- How declaring blocks ends: with a registry of them all, or in the trouble of the first
block that cannot be declared after those before it. -/
inductive Ends (d : Draft) (found : List (Text × List Directive)) :
    Except Trouble Registry → Prop
  | made {d' : Draft} (declares : DeclaresAll d found d') : Ends d found (.ok ⟨d'.filters⟩)
  | stopped {before after : List (Text × List Directive)} {raw : Text} {ds : List Directive}
      {d' : Draft} {t : Trouble} (split : found = before ++ (raw, ds) :: after)
      (declares : DeclaresAll d before d')
      (fails : (Drafting.declare raw ds).Leads d' (.error t) d') : Ends d found (.error t)

/-- A block and the filter that it is declared as. -/
structure Entered (b : Text × List Directive) (f : Text × Definition) : Prop where
  named : ∃ name : Text, b.1 = Name.sigil :: name ∧ Name.Plain name ∧ f.1 = name.lower
  compiles : (Block.compile b.2 b.1).ComesTo (.ok f.2)

/-- Blocks that can all be declared. -/
structure Declarable (found : List (Text × List Directive)) : Prop where
  named : ∀ b ∈ found, ∃ name : Text, b.1 = Name.sigil :: name ∧ Name.Plain name
  distinct : (found.map fun b => Name.normalize b.1).Nodup
  compiles : ∀ b ∈ found, ∃ definition, (Block.compile b.2 b.1).ComesTo (.ok definition)

theorem Ends.cons {d d' : Draft} {raw : Text} {ds : List Directive} {definition : Definition}
    {rest : List (Text × List Directive)} {r : Except Trouble Registry}
    (leads : (Drafting.declare raw ds).Leads d (.ok definition) d') (h : Ends d' rest r) :
    Ends d ((raw, ds) :: rest) r := by
  cases h with
  | made declares => exact .made (.cons leads declares)
  | stopped split declares fails =>
    rw [split]
    exact .stopped (List.cons_append ..).symm (.cons leads declares) fails

/-- Declaring blocks and freezing what they make up. -/
theorem declareAll_ends (d : Draft) (found : List (Text × List Directive)) :
    ∃ r, (do
      let d ← declareAll found d
      let (_, r) ← d.freeze
      return r : Attempt Registry).ComesTo r ∧ Ends d found r := by
  induction found generalizing d with
  | nil => exact ⟨.ok ⟨d.filters⟩, fun _ => rfl, .made .nil⟩
  | cons b rest ih =>
    obtain ⟨raw, ds⟩ := b
    obtain ⟨r, d', leads, declared⟩ := Drafting.declare_declared d raw ds
    have hstep := Draft.declare_comesTo leads
    simp only [declareAll, bind_assoc]
    cases r with
    | error t =>
      have hd : d' = d := by cases declared <;> rfl
      subst hd
      exact ⟨_, .stop hstep, .stopped rfl .nil leads⟩
    | ok definition =>
      obtain ⟨r, hr, ends⟩ := ih d'
      exact ⟨r, .bind hstep hr, ends.cons leads⟩

/-! ## What blocks enter -/

section

variable {d d' : Draft} {found : List (Text × List Directive)}

theorem DeclaresAll.entered (h : DeclaresAll d found d') :
    ∃ entered, List.Forall₂ Entered found entered ∧ d'.filters = d.filters ++ entered := by
  induction h with
  | nil => exact ⟨[], .nil, (List.append_nil _).symm⟩
  | @cons d d' d'' raw ds definition rest leads more ih =>
    obtain ⟨entered, hentered, hfilters⟩ := ih
    cases leads.declared with
    | @declared name _ _ sigil plain _ compiles =>
      refine ⟨(name.lower, definition) :: entered, .cons ?_ hentered, ?_⟩
      · exact ⟨⟨name, sigil, plain, rfl⟩, compiles⟩
      · rw [hfilters, Draft.extend, List.append_assoc]
        rfl

theorem DeclaresAll.distinct (h : DeclaresAll d found d') (distinct : Pairs.Distinct d.filters) :
    Pairs.Distinct d'.filters := by
  induction h with
  | nil => exact distinct
  | cons leads more ih =>
    cases leads.declared with
    | declared _ _ _ free => exact ih (Draft.distinct_extend _ distinct free)

theorem DeclaresAll.frozen (h : DeclaresAll d found d') : d'.frozen = d.frozen := by
  induction h with
  | nil => rfl
  | cons leads more ih =>
    cases leads.declared with
    | declared => exact ih

theorem keys_of_entered {entered : List (Text × Definition)}
    (h : List.Forall₂ Entered found entered) :
    entered.map (·.1) = found.map fun b => Name.normalize b.1 := by
  induction h with
  | nil => rfl
  | @cons b f found entered hb _ ih =>
    obtain ⟨name, hraw, _, hkey⟩ := hb.named
    rw [List.map_cons, List.map_cons, ih, hraw, hkey, Name.normalize_sigil]

theorem DeclaresAll.declarable (h : DeclaresAll {} found d') : Declarable found := by
  obtain ⟨entered, hentered, hfilters⟩ := h.entered
  have distinct : Pairs.Distinct d'.filters := h.distinct List.nodup_nil
  constructor
  · intro b hb
    obtain ⟨f, _, hf⟩ := Reading.exists_of_forall₂ hentered b hb
    obtain ⟨name, hraw, plain, _⟩ := hf.named
    exact ⟨name, hraw, plain⟩
  · rw [← keys_of_entered hentered]
    rw [hfilters] at distinct
    exact distinct
  · intro b hb
    obtain ⟨f, _, hf⟩ := Reading.exists_of_forall₂ hentered b hb
    exact ⟨f.2, hf.compiles⟩

/-- A block that cannot be declared after others has a bad name, the key of one of the
others, or directives that do not compile. -/
theorem Declarable.not_stopped {before after : List (Text × List Directive)} {raw : Text}
    {ds : List Directive} {t : Trouble} (h : Declarable (before ++ (raw, ds) :: after))
    (declares : DeclaresAll {} before d) :
    ¬ (Drafting.declare raw ds).Leads d (.error t) d := by
  intro fails
  have hmem : (raw, ds) ∈ before ++ (raw, ds) :: after := by simp
  cases fails.declared with
  | frozen frozen =>
    rw [declares.frozen] at frozen
    cases frozen
  | name _ why =>
    obtain ⟨name, hraw, plain⟩ := h.named _ hmem
    have hparse := Name.parse_of_plain plain
    rw [← hraw, Name.parse_of_faultOf why] at hparse
    cases hparse
  | @taken name _ sigil plain taken =>
    obtain ⟨entered, hentered, hfilters⟩ := declares.entered
    have hkeys : d.filters.map (·.1) = before.map fun b => Name.normalize b.1 := by
      rw [hfilters]
      exact keys_of_entered hentered
    have hdistinct := h.distinct
    rw [List.map_append, List.map_cons, List.nodup_append] at hdistinct
    rw [Draft.Holds, hkeys] at taken
    have hkey : Name.normalize raw = name.lower := by rw [sigil, Name.normalize_sigil]
    exact hdistinct.2.2 _ taken _ List.mem_cons_self hkey.symm
  | refused _ _ _ _ compiles =>
    obtain ⟨definition, hcompiles⟩ := h.compiles _ hmem
    cases compiles.unique hcompiles

theorem Ends.ok_iff {r : Except Trouble Registry} (h : Ends {} found r) :
    (∃ r', r = .ok r') ↔ Declarable found := by
  cases h with
  | made declares => exact ⟨fun _ => declares.declarable, fun _ => ⟨_, rfl⟩⟩
  | stopped split declares fails =>
    constructor
    · rintro ⟨r', ⟨⟩⟩
    · intro declarable
      rw [split] at declarable
      exact absurd fails (declarable.not_stopped declares)

theorem Ends.entered {r : Registry} (h : Ends {} found (.ok r)) :
    List.Forall₂ Entered found r.filters := by
  cases h with
  | made declares =>
    obtain ⟨entered, hentered, hfilters⟩ := declares.entered
    rw [hfilters]
    exact hentered

theorem Ends.distinct {r : Registry} (h : Ends {} found (.ok r)) : Pairs.Distinct r.filters := by
  cases h with
  | made declares => exact declares.distinct List.nodup_nil

theorem Ends.kind_ne_file {f : Failure} (h : Ends d found (.error (.failure f)))
    (path : Option Text) : f.kind ≠ .file path := by
  cases h with
  | stopped _ _ fails => exact fails.declared.kind_ne_file path

end

/-! ## Whole documents -/

theorem registry_of_reads {v : Value} {found : List (Text × List Directive)}
    (h : Reads v found) : ∃ r, (registry v).ComesTo r ∧ Ends {} found r := by
  unfold registry
  rw [blocks_of_reads h]
  exact declareAll_ends {} found

theorem registry_of_illShaped {v : Value} (h : IllShaped v) :
    ∃ fault : Fault, ∀ j, (registry v).run j = (.error (.failure fault.failure), j) := by
  obtain ⟨fault, hfault⟩ := blocks_of_illShaped h
  refine ⟨fault, fun j => ?_⟩
  unfold registry
  rw [hfault]
  rfl

/-- A registry holds the blocks that its document says, each under a key of its own. -/
theorem registry_eq_ok {v : Value} {j : Journal} {r : Registry}
    (h : ((registry v).run j).1 = .ok r) :
    ∃ found, Reads v found ∧ List.Forall₂ Entered found r.filters ∧ Pairs.Distinct r.filters := by
  rcases reads_or_illShaped v with ⟨found, hreads⟩ | hbad
  · obtain ⟨r', hr, ends⟩ := registry_of_reads hreads
    rw [hr j] at h
    rw [h] at ends
    exact ⟨found, hreads, ends.entered, ends.distinct⟩
  · obtain ⟨fault, hrun⟩ := registry_of_illShaped hbad
    rw [hrun j] at h
    cases h

/-! ## The laws -/

/-- A document of the wrong shape is refused as a file, before anything is declared or even
recorded, and no other document is. Every other document comes to what declaring its blocks
in order comes to: a registry of them all if they can all be declared, and else the trouble
of the first one that cannot. Only what stands under the root key counts. -/
theorem a_document_is_checked_whole_and_then_declared_in_order :
    (∀ v j, (∃ f path, ((registry v).run j).1 = .error (.failure f) ∧ f.kind = .file path) ↔
      IllShaped v) ∧
    (∀ v, IllShaped v →
      ∃ fault : Fault, ∀ j, (registry v).run j = (.error (.failure fault.failure), j)) ∧
    (∀ v, ¬ IllShaped v → ∃ found, Reads v found ∧ ∀ j,
      Ends {} found ((registry v).run j).1 ∧
      ((∃ r, ((registry v).run j).1 = .ok r) ↔ Declarable found) ∧
      ∀ r, ((registry v).run j).1 = .ok r → List.Forall₂ Entered found r.filters) ∧
    ∀ (v v' : Value) pairs pairs', v.Lists pairs → v'.Lists pairs' → roots pairs = roots pairs' →
      registry v = registry v' := by
  refine ⟨?_, fun v => registry_of_illShaped, ?_, ?_⟩
  · intro v j
    constructor
    · rintro ⟨f, path, hrun, hkind⟩
      rcases reads_or_illShaped v with ⟨found, hreads⟩ | hbad
      · obtain ⟨r, hr, ends⟩ := registry_of_reads hreads
        rw [hr j] at hrun
        rw [hrun] at ends
        exact absurd hkind (ends.kind_ne_file path)
      · exact hbad
    · intro hbad
      obtain ⟨fault, hrun⟩ := registry_of_illShaped hbad
      exact ⟨fault.failure, none, by rw [hrun j], rfl⟩
  · intro v hshape
    obtain ⟨found, hreads⟩ := (not_illShaped_iff v).mp hshape
    obtain ⟨r, hr, ends⟩ := registry_of_reads hreads
    refine ⟨found, hreads, fun j => ?_⟩
    rw [hr j]
    refine ⟨ends, ends.ok_iff, ?_⟩
    rintro r' rfl
    exact ends.entered
  · intro v v' pairs pairs' lists lists' hroots
    rw [registry, registry, blocks_of_lists lists, blocks_of_lists lists', hroots]

end Document

end QuerySieve
