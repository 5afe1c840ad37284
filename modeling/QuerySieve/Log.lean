-- Loggers: where records go. Loggers form a tree by the dots in their names; a record is
-- handed to the outlets of its logger and of all loggers above it. The console takes
-- records from a level on, a log file takes them all.
import QuerySieve.Journal
import QuerySieve.Level
import QuerySieve.Text.Lowercase
import QuerySieve.World

namespace QuerySieve

/-! ## Lines -/

/-- The clock and the place in the program when a record is written. -/
structure Stamp where
  time : Text
  place : Text

/-- A record as a line on the console. -/
def Record.consoleLine (r : Record) (s : Stamp) : Text :=
  "[" ++ s.time ++ "] [" ++ r.source ++ ":" ++ r.level.name ++ "] [" ++ r.context.phase ++ " "
    ++ r.context.subject ++ "] " ++ r.message ++ "\n"

/-- A record as a line of a log file. -/
def Record.fileLine (r : Record) (s : Stamp) : Text :=
  Text.join " | " [s.time, r.source, r.level.name, r.context.phase, r.context.subject, s.place,
    r.message] ++ "\n"

/-! ## Loggers -/

/-- What a logger hands records to. -/
inductive Outlet
  /-- Takes the records from a level on. -/
  | console (least : Level)
  | file (path : Path) (least : Level)
  deriving DecidableEq, Repr

namespace Outlet

/-- The least level that is taken. -/
def least : Outlet → Level
  | .console l => l
  | .file _ l => l

/-- Sets the least level of a console. A file stays as it is. -/
def setLeast (l : Level) : Outlet → Outlet
  | .console _ => .console l
  | .file path least => .file path least

def takes (o : Outlet) (r : Record) : Bool := o.least.rank ≤ r.level.rank

end Outlet

structure Logger where
  /-- The least level that the logger and those below it let through. -/
  level : Level
  outlets : List Outlet := []
  deriving DecidableEq, Repr

/-- Sets the level of a logger and of its console. -/
def Logger.setLevel (l : Level) (logger : Logger) : Logger :=
  { level := l, outlets := logger.outlets.map (Outlet.setLeast l) }

/-! ## Names -/

namespace LoggerName

def dot : CodePoint := '.'

/-- The root has no name, or is called root. -/
def isRoot (name : Text) : Bool := name.isEmpty || name = Text.ofString "root"

/-- The name of a logger in records. -/
def shown (name : Text) : Text := if isRoot name then "root" else name

/-- What is left of a reversed name when parts are cut off at its dots, the longest first. -/
def cuts : Text → List Text
  | [] => []
  | c :: t => if c = dot && !t.isEmpty then t.reverse :: cuts t else cuts t

/-- A name and those above it, up to the root. -/
def lineage (name : Text) : List Text :=
  if isRoot name then [[]] else name :: cuts name.reverse ++ [[]]

end LoggerName

/-! ## The tree -/

/-- The loggers that were set up, by name. -/
structure Log where
  loggers : List (Text × Logger) := []
  /-- The names that a logger was obtained for and is kept. -/
  kept : List Text := []

/-- How a logger is to be set up. -/
structure LogSetup where
  name : Text := "argsfilter"
  level : Text := "INFO"
  /-- Where log files go. -/
  directory : Option Path := none
  /-- Records are shown on the console. -/
  console : Bool := true
  /-- Records are written to a file, if there is a directory for it. -/
  file : Bool := false

namespace Log

/-- The root lets warnings through. -/
def rootLevel : Level := .warning

/-- The key of a name in the tree. -/
def key (name : Text) : Text := if LoggerName.isRoot name then [] else name

/-- The logger of a name, if it was set up. -/
def find? (log : Log) (name : Text) : Option Logger := Pairs.find? (key name) log.loggers

/-- The level that counts for a name: its own, or that of the nearest logger above it that has
one. -/
def levelOf (log : Log) (name : Text) : Level :=
  ((LoggerName.lineage name).findSome? fun n => (log.find? n).map (·.level)).getD rootLevel

/-- What records of a name are handed to. -/
def outletsOf (log : Log) (name : Text) : List Outlet :=
  (LoggerName.lineage name).flatMap fun n => (log.find? n).elim [] (·.outlets)

def put (log : Log) (name : Text) (logger : Logger) : Log :=
  { log with loggers := Pairs.put (key name) logger log.loggers }

/-- Sets the level of a logger that was set up. -/
def setLevel (log : Log) (name : Text) (l : Level) : Log :=
  match log.find? name with
  | none => log
  | some logger => log.put name (logger.setLevel l)

/-! ## Delivery -/

/-- Hands a record to an outlet. A record that cannot be encoded is left out of the file. -/
def hand (s : Stamp) (r : Record) (sofar : World × Text) (o : Outlet) : World × Text :=
  match o with
  | .console _ => (sofar.1, sofar.2 ++ r.consoleLine s)
  | .file path _ =>
    match Text.encode (r.fileLine s) with
    | .error _ => sofar
    | .ok line =>
      match sofar.1.append path line with
      | .error _ => sofar
      | .ok w => (w, sofar.2)

/-- Delivers a record: the world after it, and what the console shows. Where there is no outlet
at all, the bare message of a warning or worse is shown. -/
def deliver (log : Log) (s : Stamp) (w : World) (r : Record) : World × Text :=
  if r.level.rank < (log.levelOf r.source).rank then (w, [])
  else match log.outletsOf r.source with
    | [] => (w, if Level.warning.rank ≤ r.level.rank then r.message ++ "\n" else [])
    | outlets => (outlets.filter (·.takes r)).foldl (hand s r) (w, [])

end Log

/-! ## Setting up -/

/-- A world and its loggers. -/
structure LoggedWorld where
  world : World
  log : Log := {}

/-- A step on a world and its loggers, which a path may stop. What was done before it was
stopped stays. -/
abbrev Logging := ExceptT PathError (StateM LoggedWorld)

namespace Log

/-- The level of a name; what is no level means information. -/
def parseLevel (t : Text) : Level := (Level.ofName? t).getD .info

/-- Changes the world, unless a path stops it. -/
def onWorld (step : World → Except PathError World) : Logging Unit := do
  match step (← get).world with
  | .error e => throw e
  | .ok world => modify fun s => { s with world }

/-- Opens the log file of a name in a directory, which is made if it is missing. The file takes
every record. -/
def openFile (directory : Path) (name : Text) : Logging Outlet := do
  onWorld (·.makeDirectories directory)
  let path := (← get).world.absolute (directory.join (Path.ofText (name ++ ".log")))
  onWorld (·.append path [])
  return .file path .debug

/-- Sets a logger up anew. -/
def setUp (s : LogSetup) : Logging Unit := do
  let level := parseLevel s.level
  let consoles : List Outlet := if s.console then [.console level] else []
  modify fun site => { site with log := site.log.put s.name ⟨level, consoles⟩ }
  match s.directory with
  | none => return
  | some directory =>
    if s.file then
      let outlet ← openFile directory s.name
      modify fun site => { site with log := site.log.put s.name ⟨level, consoles ++ [outlet]⟩ }

/-- The level that the environment asks for, else information. -/
def defaultLevel (w : World) : Text := (w.valueOf? "ARGSFILTER_LOG_LEVEL").getD "INFO"

/-- Whether the environment lets log files be written. -/
def allowsFiles (w : World) : Bool :=
  match w.valueOf? "ARGSFILTER_NO_FILE_LOGS" with
  | none => true
  | some t => t.lower ≠ Text.ofString "true"

/-- Obtains the logger of a name. It is set up once; later on only a level that is given is
taken over. -/
def obtain (name level : Text) (directory : Option Path) : Logging Unit := do
  let site ← get
  if site.log.kept.contains name then
    unless level.isEmpty do
      set { site with log := site.log.setLevel name (parseLevel level) }
  else
    setUp {
      name, directory
      level := if level.isEmpty then defaultLevel site.world else level
      file := allowsFiles site.world }
    modify fun site => { site with log := { site.log with kept := name :: site.log.kept } }

/-! ## Calls -/

/-- What is asked of the loggers of a world. -/
inductive Call
  /-- The files and the environment are from now on those of another world. -/
  | move (world : World)
  | obtain (name level : Text) (directory : Option Path)
  | setUp (s : LogSetup)
  | setLevel (name level : Text)

def perform : Call → Logging Unit
  | .move world => modify fun site => { site with world }
  | .obtain name level directory => obtain name level directory
  | .setUp s => setUp s
  | .setLevel name level =>
    modify fun site => { site with log := site.log.setLevel name (parseLevel level) }

end Log

end QuerySieve
