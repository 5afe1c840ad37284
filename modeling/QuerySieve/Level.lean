-- Levels by name, in any case.
import QuerySieve.Journal

namespace QuerySieve

/-- A letter as a capital: the ones of ASCII, and the dotless i. -/
def CodePoint.capital (c : CodePoint) : CodePoint :=
  if c.val = 0x131 then 'I' else c.asciiCapital

/-- The level of a name in any case. -/
def Level.ofName? (t : Text) : Option Level :=
  let levels : List Level := [.debug, .info, .warning, .error, .critical]
  levels.find? fun l => l.name = t.map CodePoint.capital

end QuerySieve
