-- The journal of a run: the records that were written, the context they are
-- tagged with, and the count of matchers that failed. A run threads the journal
-- as a value. Only records at the threshold or above it are kept.
import QuerySieve.Text.Basic

namespace QuerySieve

/-! ## Records -/

/-- How grave a record is, from the least to the most. -/
inductive Level
  | debug
  | info
  | warning
  | error
  | critical
  deriving DecidableEq, Repr

def Level.rank : Level → Nat
  | .debug => 10
  | .info => 20
  | .warning => 30
  | .error => 40
  | .critical => 50

def Level.name : Level → Text
  | .debug => "DEBUG"
  | .info => "INFO"
  | .warning => "WARNING"
  | .error => "ERROR"
  | .critical => "CRITICAL"

/-- Whether a threshold keeps the records of a level. -/
def Level.keeps (threshold level : Level) : Bool := threshold.rank ≤ level.rank

/-- The phase of the work that a record belongs to, and the variable that it
is about. -/
structure Context where
  phase : Text
  subject : Text
  deriving DecidableEq, Repr

/-- Outside any phase. -/
def Context.outside : Context := ⟨"-", "-"⟩

/-- While a block is read. An empty name shows as a dash. -/
def Context.configuring (raw : Text) : Context := ⟨"config", if raw.isEmpty then "-" else raw⟩

/-- While a query is filtered. -/
def Context.serving (name : Text) : Context := ⟨"request", name⟩

structure Record where
  level : Level
  /-- The part of the program that wrote the record. -/
  source : Text
  context : Context
  message : Text
  deriving DecidableEq, Repr

/-! ## The journal -/

structure Journal where
  /-- The least level that is kept. -/
  threshold : Level
  context : Context
  records : Array Record
  /-- Searches that failed for a reason other than no match. -/
  faults : Nat

/-- A journal with nothing in it. -/
def Journal.empty (threshold : Level) : Journal := ⟨threshold, .outside, #[], 0⟩

/-- A step that writes to the journal. -/
abbrev Journaled := StateM Journal

/-- Writes a record under the current context, if its level is kept. -/
def Journal.write (level : Level) (source message : Text) (j : Journal) : Journal :=
  if j.threshold.keeps level then
    { j with records := j.records.push ⟨level, source, j.context, message⟩ }
  else j

/-- Writes a record. -/
def record (level : Level) (source message : Text) : Journaled Unit :=
  modify (Journal.write level source message)

/-- Whether records of a level are kept. A step may ask before it puts a record together. -/
def isEnabled (level : Level) : Journaled Bool := fun j => (j.threshold.keeps level, j)

/-- Runs a step only where records of a level are kept. -/
def whenEnabled (level : Level) (step : Journaled Unit) : Journaled Unit := do
  if ← isEnabled level then step else return ()

/-- Runs a step under a context and goes back to the one before it, however the
step ends. -/
def within {α : Type} (c : Context) (step : Journaled α) : Journaled α := fun j =>
  let (a, j') := step { j with context := c }
  (a, { j' with context := j.context })

/-- Counts one more fault and gives the count. -/
def countFault : Journaled Nat := fun j => (j.faults + 1, { j with faults := j.faults + 1 })

/-- Sets the count of faults back. -/
def resetFaults : Journaled Unit := modify fun j => { j with faults := 0 }

end QuerySieve
