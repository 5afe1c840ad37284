-- What one directive can come to. A directive is valid or not by its own text and by one
-- fact about those before it: whether one of them gave the policy. A directive that is
-- not valid is refused for the first thing that is wrong with it.
import QuerySieve.Block
import QuerySieve.Proofs.Gives

namespace QuerySieve

/-! ## The grammar of one directive -/

/-- Whether an operator looks over case, if it is one. -/
def Arg.ignoresCase? (a : Arg) : Option Bool :=
  if a.asText = Text.ofString "~" then some false
  else if a.asText = Text.ofString "~*" then some true
  else none

namespace Directive

def isInitial (d : Directive) : Bool := d.name = Text.ofString "initial"

def isInclude (d : Directive) : Bool := d.name = Text.ofString "include"

def isExclude (d : Directive) : Bool := d.name = Text.ofString "exclude"

/-- The directives that make rules. -/
def isRule (d : Directive) : Bool := d.isInclude || d.isExclude

def isVolatile (d : Directive) : Bool := d.name = Text.ofString "volatile"

/-- A directive that may stand in a block. `again` says that the policy was given before
it. -/
inductive Valid (again : Bool) (d : Directive) : Prop
  | initial {value : Arg} (name : d.isInitial = true) (args : d.args = [value])
      (first : again = false)
      (policy : value.asText = Text.ofString "all" ∨ value.asText = Text.ofString "none")
  | literal {key : Arg} (name : d.isRule = true) (args : d.args = [key])
  | pattern {operator source : Arg} {ignoreCase : Bool} {octets : Bytes} {p : Pattern}
      (name : d.isRule = true) (args : d.args = [operator, source])
      (flag : operator.ignoresCase? = some ignoreCase) (encodes : source.asBytes = .ok octets)
      (compiles : Pattern.compile octets ignoreCase = .ok p)
  | volatile (name : d.isVolatile = true) (args : d.args = [])

/-- The rule that a directive makes. -/
inductive Makes (d : Directive) : Rule → Prop
  | literal {action : Action} {key : Arg} {octets : Bytes} (name : d.name = action.name)
      (args : d.args = [key]) (encodes : key.asBytes = .ok octets) :
      Makes d ⟨action, .literal octets⟩
  | pattern {action : Action} {operator source : Arg} {ignoreCase : Bool} {octets : Bytes}
      {p : Pattern} (name : d.name = action.name) (args : d.args = [operator, source])
      (flag : operator.ignoresCase? = some ignoreCase) (encodes : source.asBytes = .ok octets)
      (compiles : Pattern.compile octets ignoreCase = .ok p) :
      Makes d ⟨action, .pattern p⟩

/-- The arguments have octets, and a pattern that does not compile is malformed and
nothing worse. -/
structure Orderly (d : Directive) : Prop where
  encodes : ∀ a ∈ d.args, ∃ octets, a.asBytes = .ok octets
  malformed : ∀ operator source ignoreCase octets complaint, d.isRule = true →
    d.args = [operator, source] → operator.ignoresCase? = some ignoreCase →
    source.asBytes = .ok octets → Pattern.compile octets ignoreCase = .error complaint →
    ∃ cause place, complaint = .malformed cause place

/-- The stray error that a directive ends in: its key or its pattern has no octets, or what is
said of the pattern is no complaint about its text. -/
inductive Escapes (d : Directive) : Stray → Prop
  | key {key : Arg} {e : Unencodable} (name : d.isRule = true) (args : d.args = [key])
      (encodes : key.asBytes = .error e) : Escapes d (.unencodable e)
  | source {operator source : Arg} {ignoreCase : Bool} {e : Unencodable}
      (name : d.isRule = true) (args : d.args = [operator, source])
      (flag : operator.ignoresCase? = some ignoreCase) (encodes : source.asBytes = .error e) :
      Escapes d (.unencodable e)
  | pattern {operator source : Arg} {ignoreCase : Bool} {octets : Bytes}
      {complaint : Pattern.Complaint} (name : d.isRule = true)
      (args : d.args = [operator, source]) (flag : operator.ignoresCase? = some ignoreCase)
      (encodes : source.asBytes = .ok octets)
      (compiles : Pattern.compile octets ignoreCase = .error complaint)
      (other : ∀ cause place, complaint ≠ .malformed cause place) :
      Escapes d (.pattern complaint octets)

/-- Text that cannot be encoded is no orderly argument. -/
theorem not_orderly_of_unencodable {d : Directive} {a : Arg} {e : Unencodable} (mem : a ∈ d.args)
    (encodes : a.asBytes = .error e) : ¬ d.Orderly := by
  intro orderly
  obtain ⟨octets, h⟩ := orderly.encodes a mem
  rw [encodes] at h
  cases h

theorem Escapes.not_orderly {d : Directive} {s : Stray} (h : d.Escapes s) : ¬ d.Orderly := by
  cases h with
  | key _ args encodes => exact not_orderly_of_unencodable (by simp [args]) encodes
  | source _ args _ encodes => exact not_orderly_of_unencodable (by simp [args]) encodes
  | pattern name args flag encodes compiles other =>
    intro orderly
    obtain ⟨cause, place, malformed⟩ :=
      orderly.malformed _ _ _ _ _ name args flag encodes compiles
    exact other cause place malformed

end Directive

namespace Block

/-! ## Refusals -/

/-- The failure of a directive, in a block if one is named. -/
def refusal (block : Option Text) (fault : Fault) (d : Directive) : Failure where
  kind := .directive { directive := some d.name, block, args := d.args.map Arg.asText }
  message := fault.message

/-- The failure of a directive whose pattern does not compile, with what is said about
the pattern. -/
def patternRefusal (block : Option Text) (d : Directive) (source : Arg) (said : Text) :
    Failure where
  kind := .pattern { directive := some d.name, block, args := d.args.map Arg.asText }
    (some source.asText)
  message := "failed to compile regex: " ++ said
  cause := some ⟨"error", said⟩

/-- What a directive is refused for: the number of its arguments, then a policy given
twice, then the policy itself; for a rule the number of arguments, then the operator, then
the pattern. -/
inductive Refused (block : Option Text) (again : Bool) (d : Directive) : Failure → Prop
  | initialArity (name : d.isInitial = true) (arity : d.args.length ≠ 1) :
      Refused block again d (refusal block (.arity d.name) d)
  | initialTwice (name : d.isInitial = true) (arity : d.args.length = 1) (twice : again = true) :
      Refused block again d (refusal block .initialTwice d)
  | initialValue {value : Arg} (name : d.isInitial = true) (args : d.args = [value])
      (first : again = false) (all : value.asText ≠ Text.ofString "all")
      (none : value.asText ≠ Text.ofString "none") :
      Refused block again d (refusal block .initialValue d)
  | ruleArity (name : d.isRule = true) (one : d.args.length ≠ 1) (two : d.args.length ≠ 2) :
      Refused block again d (refusal block (.arity d.name) d)
  | operator {operator source : Arg} (name : d.isRule = true) (args : d.args = [operator, source])
      (flag : operator.ignoresCase? = none) :
      Refused block again d (refusal block (.operator d.name) d)
  | pattern {operator source : Arg} {ignoreCase : Bool} {octets : Bytes} {cause : Pattern.Cause}
      {place : Option Nat} (name : d.isRule = true) (args : d.args = [operator, source])
      (flag : operator.ignoresCase? = some ignoreCase) (encodes : source.asBytes = .ok octets)
      (malformed : Pattern.compile octets ignoreCase = .error (.malformed cause place)) :
      Refused block again d
        (patternRefusal block d source ((Pattern.Complaint.malformed cause place).message octets))
  | volatileArity (name : d.isVolatile = true) (arity : d.args ≠ []) :
      Refused block again d (refusal block (.arity d.name) d)
  | unknown (initial : d.isInitial = false) (rule : d.isRule = false)
      (volatile : d.isVolatile = false) :
      Refused block again d (refusal block .unknownDirective d)

/-- A refusal is put into a block on the way out. -/
theorem Refused.inBlock {again : Bool} {d : Directive} {f : Failure} (block : Text)
    (h : Refused none again d f) : Refused (some block) again d (f.inBlock block) := by
  cases h with
  | initialArity name arity => exact .initialArity name arity
  | initialTwice name arity twice => exact .initialTwice name arity twice
  | initialValue name args first all none => exact .initialValue name args first all none
  | ruleArity name one two => exact .ruleArity name one two
  | operator name args flag => exact .operator name args flag
  | pattern name args flag encodes malformed => exact .pattern name args flag encodes malformed
  | volatileArity name arity => exact .volatileArity name arity
  | unknown initial rule volatile => exact .unknown initial rule volatile

/-! ## Everything a directive can come to -/

/-- What applying a directive to a block comes to. -/
inductive Applied (d : Directive) (block : Definition) : Except Trouble Definition → Prop
  | initial {value : Arg} {p : Policy} (name : d.isInitial = true) (args : d.args = [value])
      (first : block.initialSet = false) (policy : value.asText = p.name) :
      Applied d block (.ok (block.setInitial p))
  | rule {r : Rule} (makes : d.Makes r) : Applied d block (.ok (block.push r))
  | volatile (name : d.isVolatile = true) (args : d.args = []) :
      Applied d block (.ok block.markVolatile)
  | refused {f : Failure} (why : Refused none block.initialSet d f) :
      Applied d block (.error (.failure f))
  | stray {s : Stray} (why : d.Escapes s) : Applied d block (.error (.stray s))

theorem refuseDirective_comesTo {α : Type} (fault : Fault) (d : Directive) :
    (refuseDirective fault d : Attempt α).ComesTo (.error (.failure (refusal none fault d))) := by
  unfold refuseDirective refuse
  exact .record _ _ _ (.fail _)

theorem orStray_ok {α ε : Type} (stray : ε → Stray) (a : α) :
    (orStray stray (.ok a)).ComesTo (.ok a) := .pure a

theorem orStray_error {α ε : Type} (stray : ε → Stray) (e : ε) :
    (orStray stray (.error e) : Attempt α).ComesTo (.error (.stray (stray e))) := .stray _

theorem applyInitial_applied (d : Directive) (block : Definition) (name : d.isInitial = true) :
    ∃ r, (applyInitial d block).ComesTo r ∧ Applied d block r := by
  unfold applyInitial
  rcases hargs : d.args with _ | ⟨value, _ | ⟨value', rest⟩⟩
  · exact ⟨_, refuseDirective_comesTo _ d, .refused (.initialArity name (by simp [hargs]))⟩
  · simp only
    by_cases again : block.initialSet = true
    · rw [if_pos again]
      exact ⟨_, refuseDirective_comesTo _ d,
        .refused (.initialTwice name (by simp [hargs]) again)⟩
    · have first : block.initialSet = false := by simpa using again
      rw [if_neg again]
      by_cases all : value.asText = Text.ofString "all"
      · rw [if_pos all]
        exact ⟨_, .pure _, .initial name hargs first all⟩
      · rw [if_neg all]
        by_cases none : value.asText = Text.ofString "none"
        · rw [if_pos none]
          exact ⟨_, .pure _, .initial name hargs first none⟩
        · rw [if_neg none]
          exact ⟨_, refuseDirective_comesTo _ d,
            .refused (.initialValue name hargs first all none)⟩
  · exact ⟨_, refuseDirective_comesTo _ d, .refused (.initialArity name (by simp [hargs]))⟩

theorem applyVolatile_applied (d : Directive) (block : Definition) (name : d.isVolatile = true) :
    ∃ r, (applyVolatile d block).ComesTo r ∧ Applied d block r := by
  unfold applyVolatile
  by_cases args : d.args = []
  · rw [if_pos (by simp [args])]
    exact ⟨_, .pure _, .volatile name args⟩
  · rw [if_neg (by simp [args])]
    exact ⟨_, refuseDirective_comesTo _ d, .refused (.volatileArity name args)⟩

theorem isRule_of_action {d : Directive} {action : Action} (name : d.name = action.name) :
    d.isRule = true := by
  cases action with
  | keep => simp [Directive.isRule, Directive.isInclude, name, Action.name]
  | drop => simp [Directive.isRule, Directive.isExclude, name, Action.name]

section

variable {d : Directive} {operator source : Arg} {ignoreCase : Bool} {octets : Bytes}

theorem compilePattern_unencodable {e : Unencodable} (encodes : source.asBytes = .error e) :
    (compilePattern d source ignoreCase).ComesTo (.error (.stray (.unencodable e))) := by
  unfold compilePattern
  rw [encodes]
  exact .stop (orStray_error _ e)

theorem compilePattern_ok {p : Pattern} (encodes : source.asBytes = .ok octets)
    (compiles : Pattern.compile octets ignoreCase = .ok p) :
    (compilePattern d source ignoreCase).ComesTo (.ok p) := by
  unfold compilePattern
  rw [encodes]
  apply Attempt.ComesTo.bind (orStray_ok _ octets)
  simp only [compiles]
  exact .pure p

theorem compilePattern_malformed {cause : Pattern.Cause} {place : Option Nat}
    (encodes : source.asBytes = .ok octets)
    (compiles : Pattern.compile octets ignoreCase = .error (.malformed cause place)) :
    (compilePattern d source ignoreCase).ComesTo (.error (.failure (patternRefusal none d source
      ((Pattern.Complaint.malformed cause place).message octets)))) := by
  unfold compilePattern
  rw [encodes]
  apply Attempt.ComesTo.bind (orStray_ok _ octets)
  simp only [compiles]
  exact .record _ _ _ (.fail _)

theorem compilePattern_stray {complaint : Pattern.Complaint}
    (encodes : source.asBytes = .ok octets)
    (compiles : Pattern.compile octets ignoreCase = .error complaint)
    (other : ∀ cause place, complaint ≠ .malformed cause place) :
    (compilePattern d source ignoreCase).ComesTo
      (.error (.stray (.pattern complaint octets))) := by
  unfold compilePattern
  rw [encodes]
  apply Attempt.ComesTo.bind (orStray_ok _ octets)
  simp only [compiles]
  cases complaint with
  | malformed cause place => exact absurd rfl (other cause place)
  | countTooLarge => exact .stray _
  | countTooLong digits => exact .stray _
  | letterKinds => exact .stray _

/-- What comes of a directive with an operator and a pattern. -/
theorem compilePattern_applied (action : Action) (block : Definition)
    (name : d.name = action.name) (args : d.args = [operator, source])
    (flag : operator.ignoresCase? = some ignoreCase) :
    ∃ r, (do
      let p ← compilePattern d source ignoreCase
      return block.push ⟨action, .pattern p⟩ : Attempt Definition).ComesTo r ∧
      Applied d block r := by
  have rule := isRule_of_action name
  cases encodes : source.asBytes with
  | error e =>
    exact ⟨_, .stop (compilePattern_unencodable encodes),
      .stray (.source rule args flag encodes)⟩
  | ok octets =>
    cases compiles : Pattern.compile octets ignoreCase with
    | ok p =>
      exact ⟨_, .bind (compilePattern_ok encodes compiles) (.pure _),
        .rule (.pattern name args flag encodes compiles)⟩
    | error complaint =>
      by_cases malformed : ∃ cause place, complaint = .malformed cause place
      · obtain ⟨cause, place, rfl⟩ := malformed
        exact ⟨_, .stop (compilePattern_malformed encodes compiles),
          .refused (.pattern rule args flag encodes compiles)⟩
      · have other : ∀ cause place, complaint ≠ .malformed cause place :=
          fun cause place h => malformed ⟨cause, place, h⟩
        exact ⟨_, .stop (compilePattern_stray encodes compiles other),
          .stray (.pattern rule args flag encodes compiles other)⟩

end

theorem applyRule_applied (action : Action) (d : Directive) (block : Definition)
    (name : d.name = action.name) :
    ∃ r, (applyRule action d block).ComesTo r ∧ Applied d block r := by
  have rule := isRule_of_action name
  unfold applyRule
  rcases hargs : d.args with _ | ⟨first, _ | ⟨second, _ | ⟨third, rest⟩⟩⟩
  · exact ⟨_, refuseDirective_comesTo _ d,
      .refused (.ruleArity rule (by simp [hargs]) (by simp [hargs]))⟩
  · simp only
    cases encodes : first.asBytes with
    | error e =>
      exact ⟨_, .stop (orStray_error _ e), .stray (.key rule hargs encodes)⟩
    | ok octets =>
      exact ⟨_, .bind (orStray_ok _ octets) (.pure _), .rule (.literal name hargs encodes)⟩
  · simp only
    by_cases plain : first.asText = Text.ofString "~"
    · have flag : first.ignoresCase? = some false := by simp [Arg.ignoresCase?, plain]
      obtain ⟨r, hr, applied⟩ := compilePattern_applied action block name hargs flag
      refine ⟨r, ?_, applied⟩
      rw [if_pos plain]
      exact .bind (.pure false) hr
    · by_cases folded : first.asText = Text.ofString "~*"
      · have flag : first.ignoresCase? = some true := by
          rw [Arg.ignoresCase?, if_neg plain, if_pos folded]
        obtain ⟨r, hr, applied⟩ := compilePattern_applied action block name hargs flag
        refine ⟨r, ?_, applied⟩
        rw [if_neg plain, if_pos folded]
        exact .bind (.pure true) hr
      · have flag : first.ignoresCase? = none := by simp [Arg.ignoresCase?, plain, folded]
        refine ⟨_, ?_, .refused (.operator rule hargs flag)⟩
        rw [if_neg plain, if_neg folded]
        exact .stop (refuseDirective_comesTo _ d)
  · exact ⟨_, refuseDirective_comesTo _ d,
      .refused (.ruleArity rule (by simp [hargs]) (by simp [hargs]))⟩

/-- Applying a directive comes to one of its outcomes, whatever is in the journal. -/
theorem apply_applied (d : Directive) (block : Definition) :
    ∃ r, (apply d block).ComesTo r ∧ Applied d block r := by
  unfold apply
  by_cases initial : d.name = Text.ofString "initial"
  · rw [if_pos initial]
    exact applyInitial_applied d block (by simp [Directive.isInitial, initial])
  rw [if_neg initial]
  by_cases keep : d.name = Action.keep.name
  · rw [if_pos keep]
    exact applyRule_applied .keep d block keep
  rw [if_neg keep]
  by_cases drop : d.name = Action.drop.name
  · rw [if_pos drop]
    exact applyRule_applied .drop d block drop
  rw [if_neg drop]
  by_cases volatile : d.name = Text.ofString "volatile"
  · rw [if_pos volatile]
    exact applyVolatile_applied d block (by simp [Directive.isVolatile, volatile])
  rw [if_neg volatile]
  refine ⟨_, refuseDirective_comesTo _ d, .refused (.unknown ?_ ?_ ?_)⟩
  · simp [Directive.isInitial, initial]
  · simp only [Action.name] at keep drop
    simp [Directive.isRule, Directive.isInclude, Directive.isExclude, keep, drop]
  · simp [Directive.isVolatile, volatile]

/-! ## The rule that is made -/

theorem apply_of_action {d : Directive} {action : Action} (name : d.name = action.name)
    (block : Definition) : apply d block = applyRule action d block := by
  unfold apply
  cases action with
  | keep => rw [if_neg (by rw [name]; decide), if_pos (by rw [name])]
  | drop =>
    rw [if_neg (by rw [name]; decide), if_neg (by rw [name]; decide), if_pos (by rw [name])]

/-- After an operator the pattern is compiled as the operator says. -/
theorem applyRule_of_flag {d : Directive} {operator source : Arg} {ignoreCase : Bool}
    (args : d.args = [operator, source]) (flag : operator.ignoresCase? = some ignoreCase)
    (action : Action) (block : Definition) :
    applyRule action d block = (do
      let p ← compilePattern d source ignoreCase
      return block.push ⟨action, .pattern p⟩) := by
  unfold applyRule
  simp only [args]
  unfold Arg.ignoresCase? at flag
  by_cases plain : operator.asText = Text.ofString "~"
  · rw [if_pos plain] at flag ⊢
    cases flag
    rfl
  · rw [if_neg plain] at flag ⊢
    by_cases folded : operator.asText = Text.ofString "~*"
    · rw [if_pos folded] at flag ⊢
      cases flag
      rfl
    · rw [if_neg folded] at flag
      cases flag

/-- The rule that a directive makes is put after those there are. -/
theorem apply_of_makes {d : Directive} {r : Rule} (h : d.Makes r) (block : Definition) :
    (apply d block).ComesTo (.ok (block.push r)) := by
  cases h with
  | literal name args encodes =>
    rw [apply_of_action name]
    unfold applyRule
    simp only [args, encodes]
    exact .bind (orStray_ok _ _) (.pure _)
  | pattern name args flag encodes compiles =>
    rw [apply_of_action name, applyRule_of_flag args flag]
    exact .bind (compilePattern_ok encodes compiles) (.pure _)

end Block

end QuerySieve
