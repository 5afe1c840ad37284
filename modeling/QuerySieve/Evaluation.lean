-- Evaluating a variable: the query filtered by the definition of a name. A
-- definition that keeps everything gives the query itself, stray separators
-- included.
import QuerySieve.Query
import QuerySieve.Registry

namespace QuerySieve

/-- What a variable evaluates to. -/
structure Evaluated where
  value : Bytes
  /-- The value must not be cached. -/
  noCacheable : Bool
  deriving DecidableEq, Repr

namespace Evaluated

/-- The part of the program that evaluating writes records for. -/
def source : Text := "argsfilter.variable"

end Evaluated

/-- Filters a query with the definition of a name, if the name has one. -/
def Registry.evaluate (r : Registry) (name : Text) (query : Bytes) :
    Journaled (Option Evaluated) :=
  within (.serving name) do
    match r.lookup? name with
    | none =>
      record .debug Evaluated.source ("args_filter: variable='" ++ name ++ "' is not registered")
      return none
    | some d =>
      let shownName := "$" ++ Name.normalize name
      whenEnabled .debug <| record .debug Evaluated.source
        ("args_filter: evaluating variable='" ++ shownName ++ "' volatile="
          ++ Definition.truth d.volatile ++ " args='" ++ query.decodeReplacing ++ "'")
      if d.isIdentity then
        record .debug Evaluated.source
          ("args_filter: variable='" ++ shownName
            ++ "' using identity fast-path; output unchanged")
        return some ⟨query, d.volatile⟩
      else
        let filtered ← Query.filterM d.shouldKeep query
        whenEnabled .debug <| record .debug Evaluated.source
          ("args_filter: variable='" ++ shownName ++ "' filtered result='"
            ++ filtered.decodeReplacing ++ "'")
        return some ⟨filtered, d.volatile⟩

end QuerySieve
