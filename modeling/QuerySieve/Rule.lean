-- Rules on keys and the definitions they make up. A definition starts from a
-- policy and asks every rule in order; the last rule that matches decides.
import QuerySieve.Attempt
import QuerySieve.Pattern

namespace QuerySieve

/-! ## Rules -/

/-- What becomes of a key that no rule matches. -/
inductive Policy
  | none
  | all
  deriving DecidableEq, Repr

def Policy.name : Policy → Text
  | .none => "none"
  | .all => "all"

/-- What a rule does with a key that it matches. -/
inductive Action
  | keep
  | drop
  deriving DecidableEq, Repr

def Action.name : Action → Text
  | .keep => "include"
  | .drop => "exclude"

/-- The keys that a rule is about. -/
inductive Matcher
  /-- This key and no other. -/
  | literal (key : Bytes)
  /-- The keys in which the pattern is found. -/
  | pattern (p : Pattern)
  /-- A pattern whose every search breaks off with an error. -/
  | faulty (source : Bytes) (ignoreCase : Bool) (error : Text)

namespace Matcher

def kind : Matcher → Text
  | .literal _ => "literal"
  | .pattern _ | .faulty _ _ _ => "regex"

/-- The key or the source of the pattern as text. -/
def describe : Matcher → Text
  | .literal key => key.decodeReplacing
  | .pattern p => p.source.decodeReplacing
  | .faulty source _ _ => source.decodeReplacing

/-- Whether a pattern looks over case; a literal has none. -/
def ignoreCase? : Matcher → Option Bool
  | .literal _ => none
  | .pattern p => some p.ignoreCase
  | .faulty _ ignoreCase _ => some ignoreCase

/-- Whether every search breaks off. -/
def isFaulty : Matcher → Bool
  | .faulty _ _ _ => true
  | _ => false

/-- The part of the program that matching writes records for. -/
def source : Text := "argsfilter.rules"

/-- A search that breaks off counts as no match; it is counted and recorded. -/
def matches_ (m : Matcher) (key : Bytes) : Journaled Bool :=
  match m with
  | .literal k => return k = key
  | .pattern p => return p.isFoundIn key
  | .faulty _ _ error => do
    let faults ← countFault
    record .error source
      ("regex execution failed for pattern '" ++ m.describe ++ "': " ++ error
        ++ " (faults so far: " ++ Text.ofNat faults ++ ")")
    return false

end Matcher

structure Rule where
  action : Action
  matcher : Matcher

namespace Rule

def label (r : Rule) : Text := r.action.name ++ " " ++ r.matcher.kind

/-- A rule laid out as a value. -/
def layout (r : Rule) : Value :=
  .map ([Value.field "action" (.text r.action.name), Value.field "matcher" (.text r.matcher.kind),
      Value.field "value" (.text r.matcher.describe)]
    ++ (match r.matcher.ignoreCase? with
      | .none => []
      | some b => [Value.field "case_insensitive" (.bool b)]))

end Rule

/-! ## Definitions -/

/-- What one variable keeps. -/
structure Definition where
  initial : Policy := .none
  /-- The policy was given and not left out. -/
  initialSet : Bool := false
  /-- What the variable evaluates to must not be cached. -/
  volatile : Bool := false
  rules : List Rule := []

namespace Definition

/-- Gives the policy. -/
def setInitial (p : Policy) (d : Definition) : Definition :=
  { d with initial := p, initialSet := true }

def markVolatile (d : Definition) : Definition := { d with volatile := true }

/-- Puts a rule after those there are. -/
def push (r : Rule) (d : Definition) : Definition := { d with rules := d.rules ++ [r] }

/-- The value never differs from the query. -/
def isIdentity (d : Definition) : Bool := d.initial = .all && d.rules.isEmpty

/-- A definition laid out as a value. -/
def layout (d : Definition) : Value :=
  .map [Value.field "initial" (.text d.initial.name), Value.field "volatile" (.bool d.volatile),
    Value.field "identity" (.bool d.isIdentity),
    Value.field "rules" (.list (d.rules.map Rule.layout))]

/-! ## Deciding on a key -/

/-- A truth value in a record. -/
def truth (b : Bool) : Text := if b then "True" else "False"

/-- Writes one line of the account of a decision, if an account is given. -/
def trace (tracing : Bool) (key : Bytes) (line : Text) : Journaled Unit :=
  if tracing then
    record .debug Matcher.source ("args_filter: key='" ++ key.decodeReplacing ++ "' " ++ line)
  else return ()

/-- Asks one rule, which stands at an index, and gives the decision after it. -/
def ask (tracing : Bool) (key : Bytes) (keep : Bool) (index : Nat) (r : Rule) :
    Journaled Bool := do
  let rule := "rule[" ++ Text.ofNat index ++ "] " ++ r.label
  if ← r.matcher.matches_ key then
    let keep := r.action = .keep
    trace tracing key (rule ++ " matched; keep=" ++ truth keep)
    return keep
  else
    trace tracing key (rule ++ " did not match")
    return keep

/-- Asks rules in order, the first of which stands at an index. -/
def askAll (tracing : Bool) (key : Bytes) :
    (keep : Bool) → (index : Nat) → List Rule → Journaled Bool
  | keep, _, [] => return keep
  | keep, index, r :: rules => do
    let keep ← ask tracing key keep index r
    askAll tracing key keep (index + 1) rules

/-- Whether a key is kept. The last rule that matches decides, and the policy where
none does. The level is looked at once, before any rule is asked. -/
def shouldKeep (d : Definition) (key : Bytes) : Journaled Bool := do
  let keep := d.initial = .all
  let tracing ← isEnabled .debug
  if d.rules.isEmpty then
    trace tracing key ("no rules configured; keep=" ++ truth keep)
    return keep
  else
    trace tracing key
      ("evaluating " ++ Text.ofNat d.rules.length ++ " rules; initial_keep=" ++ truth keep)
    let keep ← askAll tracing key keep 0 d.rules
    trace tracing key ("final keep=" ++ truth keep)
    return keep

end Definition

end QuerySieve
