-- Running a command line. The switches of the program come first, then the loggers are
-- set up, and only then is the rest of the line read and its task done.
import QuerySieve.Command.Reading
import QuerySieve.Command.Session
import QuerySieve.Evaluation
import QuerySieve.Json
import QuerySieve.Listing
import QuerySieve.Loading

namespace QuerySieve.Command

/-! ## Refusing -/

/-- Ends with what is wrong with the words of a scope. -/
def refuse {α : Type} (scope : Scope) (f : Fault) : Step α := do
  if f.showsUsage then
    Step.warn (scope.usage ++ "Try '" ++ scope.path ++ " --help' for help.\n")
  Step.warn ("Error: " ++ f.message)
  Step.exit 2

/-- Shows the help page of a scope, and that is all. -/
def showPage {α : Type} (scope : Scope) : Step α := do
  Step.write scope.page
  Step.exit 0

/-! ## Rules -/

/-- The rules file that is named, or else the one of the settings. -/
def rulesPath : Option Text → Step Path
  | some t => return Path.ofText t
  | none => do
    match (← settings).configFile with
    | some p => return p
    | none =>
      Step.warn ("No rules file given and filters.config_file is not set "
        ++ "(use ARGSFILTER_CONFIG or pass a path).")
      Step.warn "Aborted!"
      Step.exit 1

/-- The registry of a rules file. A failure ends the session with its message. -/
def loadRules (p : Path) : Step Registry := do
  match ← Step.perform (Registry.ofFile (← get).site.world p) with
  | .ok r => return r
  | .error (.stray s) => Step.break_ (.stray s)
  | .error (.failure f) =>
    Step.warn ("[-] " ++ f.message)
    Step.warn ("configuration file " ++ p.shown ++ " test failed")
    Step.exit 1

/-! ## Tasks -/

/-- Tells that a rules file is well-formed. -/
def check (rules : Option Text) : Step Unit := do
  let p ← rulesPath rules
  let r ← loadRules p
  Step.say ("[+] " ++ Text.ofNat r.size ++ " args_filter block(s) compiled")
  Step.say ("configuration file " ++ p.shown ++ " test is successful")

/-- The UTF-8 form of a text. -/
def encoded (t : Text) : Step Bytes :=
  match t.encode with
  | .ok b => return b
  | .error e => Step.break_ (.stray (.unencodable e))

/-- Writes what a variable evaluates to. -/
def apply (name query : Text) (rules : Option Text) : Step Unit := do
  let r ← loadRules (← rulesPath rules)
  let query ← encoded query
  match ← Step.require (r.evaluate name query) with
  | some e => Step.say e.value.decodeReplacing
  | none =>
    Step.warn ("[-] args_filter variable " ++ name ++ " is not declared")
    Step.exit 1

/-- Writes all definitions. -/
def showRules (rules : Option Text) (layout : Layout) : Step Unit := do
  let r ← loadRules (← rulesPath rules)
  match layout with
  | .json => Step.say (Json.indented r.layout)
  | .text => Step.say (Text.join "\n" r.listing)

def Task.run : Task → Step Unit
  | .check rules => Command.check rules
  | .apply name query rules => Command.apply name query rules
  | .show_ rules layout => showRules rules layout

/-! ## The program -/

/-- The switches of the program. The first one that asks for a page or for the version is
answered, and that is all. -/
def readProgram (words : List Text) : Step Gathered := do
  match Scope.program.gather words with
  | .error f => refuse .program f
  | .ok g =>
    match g.given.find? fun x => x.1 = .help || x.1 = .version with
    | none => return g
    | some (s, _) =>
      if s = .help then showPage .program
      Step.say "cli, version 1.0.0"
      Step.exit 0

/-- Sets the loggers up from the settings. A level that is given wins. -/
def startLog (level : Text) : Step Unit := do
  let s ← settings
  Step.logging (Log.obtain "argsfilter" (if level.isEmpty then s.logLevel.name else level)
    (if s.fileLogging then s.logDir else none))

/-- Does what a verb and the words after it tell. -/
def runVerb (v : Verb) (words : List Text) : Step Unit := do
  match (Scope.verb v).gather words with
  | .error f => refuse (.verb v) f
  | .ok g =>
    match v.task (← get).site.world g with
    | .ok task => task.run
    | .error .page => showPage (.verb v)
    | .error (.fault f) => refuse (.verb v) f
    | .error (.path e) => Step.break_ (.stray (.path e))

/-- Runs all words of a command line. -/
def program (words : List Text) : Step Unit := do
  if words.isEmpty then
    modify (Step.complain Scope.program.page)
    Step.exit 2
  let g ← readProgram words
  match g.operands with
  | [] => refuse .program .verbMissing
  | name :: rest =>
    match Verb.ofName? name with
    | some v =>
      startLog ((g.value? .logLevel).getD [])
      runVerb v rest
    | none =>
      -- A switch that stands where a verb should stand is still answered.
      if isSwitchWord name then
        let _ ← readProgram (name :: rest)
      refuse .program (.unknownVerb name (Likeness.near name (Verb.all.map Verb.name)))

/-! ## Outcomes -/

structure Outcome where
  code : Nat
  output : Text
  errors : Text
  /-- What broke the session off. -/
  trouble : Option Trouble
  world : World

/-- The outcome of a command line in a world. -/
def run (w : World) (stamp : Stamp) (words : List Text) : Outcome :=
  let (result, s) := (program words).run { site := { world := w }, stamp }
  let outcome (code : Nat) (trouble : Option Trouble) : Outcome :=
    { code, output := s.output, errors := s.errors, trouble, world := s.site.world }
  match result with
  | .ok () => outcome 0 none
  | .error (.code n) => outcome n none
  | .error (.broken t) => outcome 1 (some t)

end QuerySieve.Command
