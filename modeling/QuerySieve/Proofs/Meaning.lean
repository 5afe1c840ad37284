-- What a block means for a query, read off its directives. The last directive that accepts
-- a key decides on it; the policy decides on the keys that none accepts. A variable that
-- was declared with the block evaluates to that meaning in every registry frozen later.
import QuerySieve.Proofs.Evaluations
import QuerySieve.Proofs.Registries

namespace QuerySieve

/-! ## The meaning of directives -/

/-- The directive gives the policy to keep all. -/
def Directive.isInitialAll (d : Directive) : Bool :=
  d.isInitial && d.args.map Arg.asText = [Text.ofString "all"]

/-- Whether a directive is about a key: a lone argument is the key itself, and after an
operator stands a pattern that is found in the key. -/
def Directive.accepts (d : Directive) (key : Bytes) : Bool :=
  match d.args with
  | [a] => a.asBytes.toOption = some key
  | [operator, source] =>
    match operator.ignoresCase?, source.asBytes.toOption with
    | some ignoreCase, some octets =>
      (Pattern.compile octets ignoreCase).toOption.any fun p => p.isFoundIn key
    | _, _ => false
  | _ => false

namespace Block

/-- Whether directives keep a key. -/
def keeps (ds : List Directive) (key : Bytes) : Bool :=
  match ds.reverse.find? fun d => d.isRule && d.accepts key with
  | some d => d.isInclude
  | none => ds.any Directive.isInitialAll

/-- What directives leave of a query. -/
def meaning (ds : List Directive) (query : Bytes) : Bytes :=
  if ds.any Directive.isInitialAll && !ds.any Directive.isRule then query
  else [Query.separator].intercalate ((query.splitOn Query.separator).filter fun s =>
    !s.isEmpty && keeps ds (Query.splitKey s))

theorem meaning_eq (ds : List Directive) (query : Bytes) :
    meaning ds query = if ds.any Directive.isInitialAll && !ds.any Directive.isRule then query
      else Query.join ((Query.segments query).filter fun s => keeps ds (Query.splitKey s)) := by
  rw [meaning, Query.join_eq_intercalate, Query.segments_eq, List.filter_filter]
  simp only [Bool.and_comm]

/-! ## Directives and rules -/

theorem accepts_of_makes {d : Directive} {r : Rule} (h : d.Makes r) (key : Bytes) :
    d.accepts key = r.matcher.accepts key := by
  unfold Directive.accepts
  cases h with
  | literal _ args encodes => simp [args, encodes, Except.toOption, Matcher.accepts]
  | pattern _ args flag encodes compiles =>
    simp [args, flag, encodes, compiles, Except.toOption, Matcher.accepts]

theorem isInclude_of_makes {d : Directive} {r : Rule} (h : d.Makes r) :
    d.isInclude = decide (r.action = .keep) := by
  have hname : ∀ action : Action, d.name = action.name →
      d.isInclude = decide (action = .keep) := by
    intro action name
    unfold Directive.isInclude
    rw [name]
    cases action with
    | keep => rfl
    | drop => decide
  cases h with
  | literal name => exact hname _ name
  | pattern name => exact hname _ name

/-- The first directive that accepts a key made the first rule that accepts it. -/
theorem find?_accepts {ds : List Directive} {rules : List Rule}
    (h : List.Forall₂ Directive.Makes ds rules) (key : Bytes) :
    (ds.find? fun d => d.accepts key).map Directive.isInclude =
      (rules.find? fun r => r.matcher.accepts key).map fun r => decide (r.action = .keep) := by
  induction h with
  | nil => rfl
  | @cons d r ds rules makes rest ih =>
    have haccepts := accepts_of_makes makes key
    by_cases ha : r.matcher.accepts key = true
    · simp [haccepts, ha, isInclude_of_makes makes]
    · simp [haccepts, ha, ih]

/-! ## The definition of a block -/

section

variable {ds : List Directive} {d : Definition} (h : Projection ds d)
include h

theorem Projection.initial_eq_all : decide (d.initial = .all) = ds.any Directive.isInitialAll := by
  rw [Bool.eq_iff_iff, decide_eq_true_eq, List.any_eq_true]
  constructor
  · intro all
    by_cases hg : ∃ e ∈ ds, e.isInitial = true
    · obtain ⟨e, he, given⟩ := hg
      obtain ⟨value, args, policy⟩ := h.given e he given
      rw [all] at policy
      refine ⟨e, he, ?_⟩
      simp [Directive.isInitialAll, given, args, policy, Policy.name]
    · have hnone := h.absent fun e he => by simpa using fun given => hg ⟨e, he, given⟩
      rw [hnone] at all
      cases all
  · rintro ⟨e, he, all⟩
    simp only [Directive.isInitialAll, Bool.and_eq_true, decide_eq_true_eq] at all
    obtain ⟨given, hargs⟩ := all
    obtain ⟨value, args, policy⟩ := h.given e he given
    rw [args, List.map_singleton, List.singleton_inj, policy] at hargs
    cases hi : d.initial with
    | all => rfl
    | none =>
      rw [hi] at hargs
      exact absurd hargs (by decide)

theorem Projection.rules_isEmpty : d.rules.isEmpty = !ds.any Directive.isRule := by
  have hlength := h.rules.length_eq
  rw [Bool.eq_iff_iff, List.isEmpty_iff_length_eq_zero, ← hlength, List.length_eq_zero_iff,
    List.filter_eq_nil_iff]
  simp

/-- Directives that make no rule are passed over, so the last rule that accepts a key is the
one that the last directive about the key made. -/
theorem Projection.keeps_eq (key : Bytes) : d.keeps key = keeps ds key := by
  have hlast : (ds.reverse.find? fun e => e.isRule && e.accepts key).map Directive.isInclude =
      (Definition.lastRule? d.rules key).map fun r => decide (r.action = .keep) := by
    rw [Definition.lastRule?, ← find?_accepts (List.rel_reverse h.rules) key,
      ← List.filter_reverse, List.find?_filter]
    simp only [Bool.decide_and, Bool.decide_eq_true]
  unfold Definition.keeps Definition.decision keeps
  rw [h.initial_eq_all]
  generalize ds.reverse.find? (fun e => e.isRule && e.accepts key) = last at hlast
  cases last with
  | none =>
    have hnone := Option.map_eq_none_iff.mp hlast.symm
    rw [hnone]
  | some e =>
    obtain ⟨r, hr, he⟩ := Option.map_eq_some_iff.mp hlast.symm
    rw [hr]
    exact he

/-- A definition without rules that keeps all leaves the query as it is, stray separators
included. -/
theorem Projection.isIdentity_eq :
    d.isIdentity = (ds.any Directive.isInitialAll && !ds.any Directive.isRule) := by
  rw [Definition.isIdentity, h.initial_eq_all, h.rules_isEmpty]

/-- A definition leaves of a query what its block means. -/
theorem Projection.filtered_eq (q : Bytes) : d.filtered q = meaning ds q := by
  rw [meaning_eq, ← h.isIdentity_eq, Definition.filtered]
  simp only [h.keeps_eq]

end

end Block

/-- Evaluating a name gives the meaning of the block that its definition was made from. -/
theorem Registry.evaluate_gives {ds : List Directive} {d : Definition} {r : Registry}
    {name : Text} (h : Block.Projection ds d) (found : r.lookup? name = some d) (q : Bytes) :
    Gives (r.evaluate name q) (some ⟨Block.meaning ds q, ds.any Directive.isVolatile⟩) := by
  rw [← h.filtered_eq, ← h.volatile]
  exact evaluate_filtered found q

namespace Call

/-! ## From a declaration to an evaluation -/

theorem Runs.projection {d d' : Draft} {steps : List (Call × Except Trouble Reply)}
    {raw : Text} {ds : List Directive} {definition : Definition} (h : Runs d steps d')
    (mem : (declare raw ds, .ok (.declared definition)) ∈ steps) :
    Block.Projection ds definition := by
  induction h with
  | nil => cases mem
  | cons leads performed rest ih =>
    rcases List.mem_cons.mp mem with he | hrest
    · cases he
      cases performed with
      | declared _ _ _ compiles => exact Block.projection_of_compiles compiles
    · exact ih hrest

/-- A variable whose block was declared evaluates to the meaning of the block in every
registry that is frozen later, under every name with the same key. -/
theorem a_declared_variable_evaluates_to_the_meaning_of_its_block
    (before middle after : List Call) (raw : Text) (ds : List Directive) (j : Journal)
    (definition : Definition)
    (declared : (performAll (before ++ declare raw ds :: (middle ++ freeze :: after)) {}
      j).1.1[before.length]? = some (.ok (.declared definition))) :
    ∃ r, (performAll (before ++ declare raw ds :: (middle ++ freeze :: after)) {}
        j).1.1[before.length + 1 + middle.length]? = some (.ok (.frozen r)) ∧
      ∀ name q j', Name.normalize name = Name.normalize raw →
        (r.evaluate name q j').1 = some ⟨Block.meaning ds q, ds.any Directive.isVolatile⟩ := by
  have hcalls : before ++ declare raw ds :: (middle ++ freeze :: after) =
      (before ++ declare raw ds :: middle) ++ freeze :: after := by simp
  have hlength : (before ++ declare raw ds :: middle).length =
      before.length + 1 + middle.length := by
    simp only [List.length_append, List.length_cons]
    omega
  rw [hcalls] at declared ⊢
  obtain ⟨steps, d, hruns, hsteps, hfrozen, -⟩ :=
    freeze_runs (before ++ declare raw ds :: middle) after j
  have hstep : (declare raw ds, .ok (.declared definition)) ∈ steps := by
    apply List.mem_of_getElem? (i := before.length)
    rw [hsteps, List.getElem?_zip_eq_some]
    exact ⟨by simp, declared⟩
  refine ⟨_, hlength ▸ hfrozen, ?_⟩
  intro name q j' key
  apply Registry.evaluate_gives (hruns.projection hstep)
  rw [hruns.maps.found name definition]
  exact ⟨_, hstep, by rw [entered?, key]⟩

/-- The calls that declare a block and freeze the draft. -/
def adsCalls : List Call :=
  [declare (Name.sigil :: Text.ofString "args") Block.adsBlock, freeze]

theorem adsCalls_declared : ∃ definition,
    (performAll adsCalls {} (.empty .debug)).1.1[0]? = some (.ok (.declared definition)) := by
  obtain ⟨definition, compiles, _⟩ := Block.compile_of_accepted
    (Name.sigil :: Text.ofString "args") Block.adsBlock_orderly Block.adsBlock_accepted
  have plain : Name.Plain "args" := ⟨by decide, List.all_eq_true.mp (by cbv)⟩
  have free : ¬ Draft.Holds {} (Text.ofString "args").lower := List.not_mem_nil
  have hdeclare : (declare (Name.sigil :: Text.ofString "args") Block.adsBlock).perform.Leads {}
      (.ok (.declared definition)) _ :=
    .bind (Drafting.declare_of_compiles rfl plain free compiles) (.pure _)
  have hfreeze : ∀ d, Gives (performAll [freeze] d) _ := fun d =>
    performAll_cons (freeze_leads d) (Gives.pure ([], _))
  have hrun := performAll_cons hdeclare (hfreeze _)
  refine ⟨definition, ?_⟩
  rw [adsCalls, hrun (.empty .debug)]
  rfl

theorem adsBlock_means :
    Block.meaning Block.adsBlock (Bytes.ofString "&a=1&&ads.x=2&ads.test=3") =
      Bytes.ofString "a=1&ads.test=3" := by
  have hrules : (Block.adsBlock.any Directive.isInitialAll &&
      !Block.adsBlock.any Directive.isRule) = false := by decide
  have hkept : ((Query.segments (Bytes.ofString "&a=1&&ads.x=2&ads.test=3")).filter fun s =>
      Block.keeps Block.adsBlock (Query.splitKey s)) =
        [Bytes.ofString "a=1", Bytes.ofString "ads.test=3"] := by cbv
  rw [Block.meaning_eq, hrules, if_neg Bool.false_ne_true, hkept]
  decide

theorem adsBlock_evaluates_to_its_meaning :
    ∃ definition r,
      (performAll adsCalls {} (.empty .debug)).1.1[0]? = some (.ok (.declared definition)) ∧
      (performAll adsCalls {} (.empty .debug)).1.1[1]? = some (.ok (.frozen r)) ∧
      (r.evaluate "ARGS" (Bytes.ofString "&a=1&&ads.x=2&ads.test=3") (.empty .debug)).1 =
        some ⟨Bytes.ofString "a=1&ads.test=3", true⟩ := by
  obtain ⟨definition, declared⟩ := adsCalls_declared
  have law := a_declared_variable_evaluates_to_the_meaning_of_its_block [] [] []
    (Name.sigil :: Text.ofString "args") Block.adsBlock (.empty .debug) definition
  simp only [List.nil_append, List.length_nil, Nat.zero_add, Nat.add_zero] at law
  unfold adsCalls at declared ⊢
  obtain ⟨r, frozen, evaluates⟩ := law declared
  have key : Name.normalize "ARGS" = Name.normalize (Name.sigil :: Text.ofString "args") := by
    decide
  have hvolatile : Block.adsBlock.any Directive.isVolatile = true := by decide
  refine ⟨definition, r, declared, frozen, ?_⟩
  rw [evaluates _ _ _ key, adsBlock_means, hvolatile]

end Call

end QuerySieve
