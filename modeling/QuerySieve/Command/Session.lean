-- A session of the program: its world and loggers, the settings it keeps, and what it has
-- written to the output and to the errors. A step of a session may end it.
import QuerySieve.Log
import QuerySieve.Settings
import QuerySieve.Text.Style

namespace QuerySieve.Command

structure Session where
  site : LoggedWorld
  stamp : Stamp
  settings : Settings.Cache := none
  output : Text := []
  errors : Text := []

/-- How a session ends before its last step. -/
inductive Ending
  | code (n : Nat)
  /-- Something went wrong that the program does not answer for. -/
  | broken (t : Trouble)

/-- A step of a session. -/
abbrev Step := ExceptT Ending (StateM Session)

namespace Step

/-- Ends the session with a code. -/
def exit {α : Type} (n : Nat) : Step α := throw (.code n)

/-- Breaks the session off. -/
def break_ {α : Type} (t : Trouble) : Step α := throw (.broken t)

/-! ## Writing -/

/-- Writes to the output, which takes only what has a UTF-8 form. -/
def write (t : Text) : Step Unit :=
  let t := Style.drop t
  match t.encode with
  | .error e => break_ (.stray (.unencodable e))
  | .ok _ => modify fun s => { s with output := s.output ++ t }

/-- A lone surrogate is written as an escape, all else as it is. -/
def escapeSurrogate (c : CodePoint) : Text := if c.isSurrogate then c.numbered else [c]

/-- Writes to the errors as it is. -/
def complain (t : Text) : Session → Session := fun s =>
  { s with errors := s.errors ++ t.flatMap escapeSurrogate }

/-- Writes a line to the output. -/
def say (t : Text) : Step Unit := write (t ++ "\n")

/-- Writes a line to the errors. -/
def warn (t : Text) : Step Unit := modify (complain (Style.drop t ++ "\n"))

/-! ## Records -/

/-- Delivers a record to the loggers. -/
def deliver (s : Session) (r : Record) : Session :=
  let (world, console) := s.site.log.deliver s.stamp s.site.world r
  complain console { s with site := { s.site with world } }

/-- Makes an attempt and delivers its records. -/
def perform {α : Type} (a : Attempt α) : Step (Except Trouble α) := do
  let (result, journal) := a.run (Journal.empty .debug)
  modify fun s => journal.records.foldl deliver s
  return result

/-- Makes an attempt; trouble breaks the session off. -/
def require {α : Type} (a : Attempt α) : Step α := do
  match ← perform a with
  | .error t => break_ t
  | .ok a => return a

/-- Sets loggers up; a path that stops this breaks the session off. -/
def logging (step : Logging Unit) : Step Unit := do
  let s ← get
  let (result, site) := step.run s.site
  set { s with site }
  match result with
  | .error e => break_ (.stray (.path e))
  | .ok () => return

end Step

/-- The settings, which are loaded once. -/
def settings : Step Settings := do
  let s ← get
  let settings ← Step.require (Settings.get s.site.world s.settings)
  modify fun s => { s with settings := some settings }
  return settings

end QuerySieve.Command
