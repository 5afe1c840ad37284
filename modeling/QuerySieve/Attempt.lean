-- Steps that write to the journal and may end in trouble. The journal of a step
-- that failed is kept.
import QuerySieve.Failure
import QuerySieve.Journal

namespace QuerySieve

/-- A step that writes to the journal and may end in trouble. -/
abbrev Attempt := ExceptT Trouble Journaled

namespace Attempt

/-- Ends in a failure. -/
def fail {α : Type} (f : Failure) : Attempt α := throw (.failure f)

/-- Ends in a stray error. -/
def stray {α : Type} (s : Stray) : Attempt α := throw (.stray s)

/-- Runs a step under a context and goes back to the one before it, however the
step ends. -/
def within {α : Type} (c : Context) (step : Attempt α) : Attempt α :=
  ExceptT.mk (QuerySieve.within c step.run)

/-- Changes the failure that a step ends in. -/
def mapFailure {α : Type} (f : Failure → Failure) (step : Attempt α) : Attempt α :=
  tryCatch step fun t =>
    match t with
    | .failure e => throw (.failure (f e))
    | t => throw t

end Attempt

end QuerySieve
