-- The laws of what a block can end in. Everything that is wrong with the text of a directive
-- is a failure of that directive. Only text without octets and what is said of a pattern
-- without being a complaint about its text get past this, as stray errors; the first directive
-- that is not taken decides.
import QuerySieve.Proofs.Drafts

namespace QuerySieve

/-- The failure is one of a directive, or of a kind that belongs there. -/
def Failure.OfDirective (f : Failure) : Prop :=
  (Failure.Kind.directive {}).name ∈ f.kind.lineage

namespace Block

open Attempt

/-! ## One directive -/

/-- A directive that makes rules is applied as one. -/
theorem apply_of_isRule {d : Directive} (h : d.isRule = true) (block : Definition) :
    ∃ action : Action, apply d block = applyRule action d block := by
  simp only [Directive.isRule, Directive.isInclude, Directive.isExclude, Bool.or_eq_true,
    decide_eq_true_eq] at h
  rcases h with h | h
  · exact ⟨.keep, apply_of_action h block⟩
  · exact ⟨.drop, apply_of_action h block⟩

theorem apply_of_pattern_stops {d : Directive} {operator source : Arg} {ignoreCase : Bool}
    (name : d.isRule = true) (args : d.args = [operator, source])
    (flag : operator.ignoresCase? = some ignoreCase) {t : Trouble}
    (stops : (compilePattern d source ignoreCase).ComesTo (.error t)) (block : Definition) :
    (apply d block).ComesTo (.error t) := by
  obtain ⟨action, happly⟩ := apply_of_isRule name block
  rw [happly, applyRule_of_flag args flag]
  exact .stop stops

theorem apply_of_escapes {d : Directive} {s : Stray} (h : d.Escapes s) (block : Definition) :
    (apply d block).ComesTo (.error (.stray s)) := by
  cases h with
  | key name args encodes =>
    obtain ⟨action, happly⟩ := apply_of_isRule name block
    rw [happly]
    unfold applyRule
    simp only [args, encodes]
    exact .stop (orStray_error _ _)
  | source name args flag encodes =>
    exact apply_of_pattern_stops name args flag (compilePattern_unencodable encodes) block
  | pattern name args flag encodes compiles other =>
    exact apply_of_pattern_stops name args flag (compilePattern_stray encodes compiles other) block

/-! ## The directives before it -/

theorem applyAll_comesTo (ds : List Directive) (block : Definition) :
    ∃ r, (applyAll ds block).ComesTo r := by
  induction ds generalizing block with
  | nil => exact ⟨_, .pure block⟩
  | cons d ds ih =>
    obtain ⟨r, hr, -⟩ := apply_applied d block
    cases r with
    | error t => exact ⟨_, .stop hr⟩
    | ok next =>
      obtain ⟨r, hrest⟩ := ih next
      exact ⟨r, .bind hr hrest⟩

theorem applyAll_cons_ok {d : Directive} {ds : List Directive} {block next : Definition}
    (h : (applyAll (d :: ds) block).ComesTo (.ok next)) :
    ∃ middle, (apply d block).ComesTo (.ok middle) ∧ (applyAll ds middle).ComesTo (.ok next) := by
  obtain ⟨r, hr, -⟩ := apply_applied d block
  cases r with
  | error t => cases (ComesTo.stop hr).unique h
  | ok middle =>
    obtain ⟨r, hrest⟩ := applyAll_comesTo ds middle
    cases (ComesTo.bind hr hrest).unique h
    exact ⟨middle, hr, hrest⟩

/-- Where the directives before are taken, what comes of the others comes of all. -/
theorem applyAll_append {before rest : List Directive} {block next : Definition}
    {r : Except Trouble Definition} (reached : (applyAll before block).ComesTo (.ok next))
    (h : (applyAll rest next).ComesTo r) : (applyAll (before ++ rest) block).ComesTo r := by
  induction before generalizing block with
  | nil =>
    cases (ComesTo.pure block).unique reached
    exact h
  | cons d before ih =>
    obtain ⟨middle, hd, hbefore⟩ := applyAll_cons_ok reached
    exact .bind hd (ih hbefore)

/-- A stray error comes from a directive whose error it is, after directives that are taken. -/
theorem escapes_of_applyAll {ds : List Directive} {block : Definition} {s : Stray}
    (h : (applyAll ds block).ComesTo (.error (.stray s))) :
    ∃ before d after next, ds = before ++ d :: after ∧
      (applyAll before block).ComesTo (.ok next) ∧ d.Escapes s := by
  induction ds generalizing block with
  | nil => cases (ComesTo.pure block).unique h
  | cons d ds ih =>
    obtain ⟨r, hr, applied⟩ := apply_applied d block
    cases r with
    | error t =>
      cases (ComesTo.stop hr).unique h
      cases applied with
      | stray why => exact ⟨[], d, ds, block, rfl, .pure block, why⟩
    | ok middle =>
      obtain ⟨r, hrest⟩ := applyAll_comesTo ds middle
      cases (ComesTo.bind hr hrest).unique h
      obtain ⟨before, e, after, next, rfl, reached, why⟩ := ih hrest
      exact ⟨d :: before, e, after, next, rfl, .bind hr reached, why⟩

/-! ## Whole blocks -/

theorem applyAll_of_compile {ds : List Directive} {block : Text} {r : Except Trouble Definition}
    (h : (compile ds block).ComesTo r) :
    ∃ r', (applyAll ds {}).ComesTo r' ∧
      r = r'.mapError (Trouble.mapFailure (Failure.inBlock block)) := by
  obtain ⟨r', hr'⟩ := applyAll_comesTo ds {}
  exact ⟨r', hr', h.unique (compile_of_applyAll hr' block)⟩

theorem applyAll_of_compile_ok {ds : List Directive} {block : Text} {d : Definition}
    (h : (compile ds block).ComesTo (.ok d)) : (applyAll ds {}).ComesTo (.ok d) := by
  obtain ⟨r, hr, he⟩ := applyAll_of_compile h
  cases r with
  | error t => cases he
  | ok d' =>
    cases he
    exact hr

/-- After directives that compile, the trouble of a directive is that of the block. -/
theorem compile_of_stops {before after : List Directive} {d : Directive} {block : Text}
    {b : Definition} {t : Trouble} (reached : (compile before block).ComesTo (.ok b))
    (stops : (apply d b).ComesTo (.error t)) :
    (compile (before ++ d :: after) block).ComesTo
      (.error (t.mapFailure (Failure.inBlock block))) := by
  have rest : (applyAll (d :: after) b).ComesTo (.error t) := .stop stops
  have all := applyAll_append (applyAll_of_compile_ok reached) rest
  exact compile_of_applyAll all block

/-- A block ends in the stray errors of its directives. -/
theorem compile_stray_iff (ds : List Directive) (block : Text) (s : Stray) :
    (compile ds block).ComesTo (.error (.stray s)) ↔
      ∃ before d after b, ds = before ++ d :: after ∧ (compile before block).ComesTo (.ok b) ∧
        d.Escapes s := by
  constructor
  · intro h
    obtain ⟨r, hr, he⟩ := applyAll_of_compile h
    rcases r with (f | s') | d
    · cases he
    · cases he
      obtain ⟨before, d, after, b, split, reached, why⟩ := escapes_of_applyAll hr
      exact ⟨before, d, after, b, split, compile_of_applyAll reached block, why⟩
    · cases he
  · rintro ⟨before, d, after, b, rfl, reached, why⟩
    exact compile_of_stops reached (apply_of_escapes why b)

theorem Refused.ofDirective {block : Option Text} {again : Bool} {d : Directive} {f : Failure}
    (h : Refused block again d f) : f.OfDirective := by
  cases h with
  | pattern => exact List.mem_cons_of_mem _ List.mem_cons_self
  | _ => simp [Failure.OfDirective, refusal, Failure.Kind.lineage, Failure.Kind.name]

theorem ofDirective_of_compile {ds : List Directive} {block : Text} {f : Failure}
    (h : (compile ds block).ComesTo (.error (.failure f))) : f.OfDirective := by
  obtain ⟨r, hr, ending⟩ := compile_ending ds block
  have he := h.unique hr
  cases ending with
  | accepted | stray => cases he
  | refused _ _ why =>
    cases he
    exact (why.inBlock block).ofDirective

/-! ## Blocks with their names -/

/-- A block with a name that can be declared ends as its directives do; a name that cannot is a
failure of a directive too. -/
theorem compileNamed_cases (raw : Text) (ds : List Directive) :
    (∃ f, (compileNamed raw ds).ComesTo (.error (.failure f)) ∧ f.OfDirective ∧
      ∀ key, Name.parse raw ≠ .ok key) ∨
    ∃ key r, Name.parse raw = .ok key ∧ (compile ds raw).ComesTo r ∧
      (compileNamed raw ds).ComesTo (r.map fun d => (key, d)) := by
  rcases Name.plain_or_faultOf raw with ⟨name, rfl, plain⟩ | ⟨fault, why⟩
  · right
    obtain ⟨r, hr, -⟩ := compile_ending ds (Name.sigil :: name)
    refine ⟨_, _, Name.parse_of_plain plain, hr, ?_⟩
    rcases r with t | d
    · exact Drafting.compileNamed_error ds plain hr
    · exact Drafting.compileNamed_ok ds plain hr
  · left
    refine ⟨_, .within _ (.stop (Drafting.parseName_of_faultOf why)), ?_, ?_⟩
    · simp [Failure.OfDirective, Draft.nameRefusal, Failure.Kind.lineage, Failure.Kind.name]
    · intro key parsed
      rw [Name.parse_of_faultOf why] at parsed
      cases parsed

/-! ## The laws -/

/-- Compiling a block ends in a definition, in a failure of a directive or in a stray error, and
it is a stray error just where the first directive that is not taken has text without octets, or
a pattern of which something else is said than what is wrong with its text. What is wrong with
the text of a pattern is always a failure that repeats what is said. With its name a block ends
likewise, unless the name is such a failure already. -/
theorem a_block_strays_where_a_directive_escapes (ds : List Directive) (raw : Text) :
    (∃ r, (compile ds raw).ComesTo r) ∧
    (∀ f, (compile ds raw).ComesTo (.error (.failure f)) → f.OfDirective) ∧
    (∀ s, (compile ds raw).ComesTo (.error (.stray s)) ↔
      ∃ before d after b, ds = before ++ d :: after ∧ (compile before raw).ComesTo (.ok b) ∧
        d.Escapes s) ∧
    (∀ before d after b operator source ignoreCase octets cause place,
      ds = before ++ d :: after → (compile before raw).ComesTo (.ok b) → d.isRule = true →
      d.args = [operator, source] → operator.ignoresCase? = some ignoreCase →
      source.asBytes = .ok octets →
      Pattern.compile octets ignoreCase = .error (.malformed cause place) →
      (compile ds raw).ComesTo (.error (.failure (patternRefusal (some raw) d source
        ((Pattern.Complaint.malformed cause place).message octets))))) ∧
    ((∃ f, (compileNamed raw ds).ComesTo (.error (.failure f)) ∧ f.OfDirective ∧
        ∀ key, Name.parse raw ≠ .ok key) ∨
      ∃ key r, Name.parse raw = .ok key ∧ (compile ds raw).ComesTo r ∧
        (compileNamed raw ds).ComesTo (r.map fun d => (key, d))) := by
  refine ⟨?_, fun f => ofDirective_of_compile, compile_stray_iff ds raw, ?_,
    compileNamed_cases raw ds⟩
  · obtain ⟨r, hr, -⟩ := compile_ending ds raw
    exact ⟨_, hr⟩
  · rintro before d after b operator source ignoreCase octets cause place rfl reached name args
      flag encodes malformed
    have hstops := compilePattern_malformed (d := d) encodes malformed
    exact compile_of_stops reached (apply_of_pattern_stops name args flag hstops b)

/-- Asks for one letter more often than any count can say. -/
def hugeCount : Directive := ⟨"exclude", [.text "~", .text "a\x7b4294967295\x7d"]⟩

/-- A count that is too large is no complaint about the text of the pattern, so the block ends
in a stray error. -/
theorem hugeCount_escapes :
    (compileNamed (Name.sigil :: Text.ofString "f") [hugeCount]).ComesTo
      (.error (.stray (.pattern .countTooLarge (Bytes.ofString "a\x7b4294967295\x7d")))) := by
  have encodes : Arg.asBytes (.text "a\x7b4294967295\x7d") =
      .ok (Bytes.ofString "a\x7b4294967295\x7d") := by decide
  have compiles : Pattern.compile (Bytes.ofString "a\x7b4294967295\x7d") false =
      .error .countTooLarge := by cbv
  have plain : Name.Plain "f" := ⟨by decide, List.all_eq_true.mp (by cbv)⟩
  have stops : (apply hugeCount {}).ComesTo _ :=
    apply_of_escapes (.pattern (by decide) rfl rfl encodes compiles (by simp)) {}
  have all : (applyAll [hugeCount] {}).ComesTo _ := .stop stops
  exact Drafting.compileNamed_error [hugeCount] plain (compile_of_applyAll all _)

end Block

end QuerySieve
