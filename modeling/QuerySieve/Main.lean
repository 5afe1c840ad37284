-- The program: takes a picture of the files and the environment that a command line is
-- about, runs the command line on it, and carries out what it wrote.
import QuerySieve.Command.Run
import Std.Time.Format

namespace QuerySieve.Main

/-! ## Taking the picture -/

/-- A text as a string. A lone surrogate has no place in one. -/
def asString (t : Text) : String := String.ofList (t.map fun c => Char.ofNat c.val)

/-- What is behind an open file: a directory opens, but it cannot be read. -/
def entryOf (file : IO.FS.Handle) : IO Entry := do
  try
    return .file (← file.readBinToEnd).toList
  catch _ => return .directory

/-- Puts what is at an absolute path into the world. -/
def lookInto (w : World) (p : Path) : IO World := do
  try
    return w.put p (← entryOf (← IO.FS.Handle.mk (asString p.shown) .read))
  catch _ => return w

/-- A path and those it is in, the outermost first. -/
def wayTo (p : Path) : List Path :=
  (List.range (p.parts.length + 1)).map fun n => ⟨p.root, p.parts.take n⟩

/-- Looks at all that is on the way to a path. -/
def lookAlong (w : World) (p : Path) : IO World :=
  (wayTo (w.absolute p)).foldlM lookInto w

/-- The environment variables that count. -/
def variableNames : List String :=
  ["ARGSFILTER_CONFIG", "ARGSFILTER_FILE_LOGS", "ARGSFILTER_LOG_DIR", "ARGSFILTER_LOG_LEVEL",
    "ARGSFILTER_NO_FILE_LOGS"]

/-- The value of an environment variable; an empty one if it is not set. -/
def valueOf (name : String) : IO Text := do
  return Text.ofString ((← IO.getEnv name).getD "")

/-- The homes of users, as a line of the table of users writes them. -/
def userOf (line : String) : Option (Text × Path) :=
  match Text.splitAt ':' (Text.ofString line) with
  | [name, _, _, _, _, home, _] => some (name, Path.ofText home)
  | _ => none

def users : IO (List (Text × Path)) := do
  try
    let lines := (← IO.FS.readFile "/etc/passwd").splitOn "\n"
    return lines.filterMap userOf
  catch _ => return []

/-- The paths that a word of the command line may name: all of it, and what follows a letter or
an equals sign. -/
def pathsOf (word : Text) : List Path :=
  ((word :: [word.drop 2]) ++ (Command.splitValue word).2.toList).map Path.ofText

/-- The world around the program, as far as the words are about it. -/
def picture (words : List Text) : IO World := do
  let mut environment : List (Text × Text) := []
  for name in variableNames do
    if let some value ← IO.getEnv name then
      environment := environment ++ [(Text.ofString name, Text.ofString value)]
  let mut w : World := {
    work := Path.ofText (← valueOf "PWD")
    home := Path.ofText (← valueOf "HOME")
    users := ← users
    environment }
  for p in Settings.files w ++ words.flatMap pathsOf do
    w ← lookAlong w p
  let (loaded, _) := (Settings.load w none).run (Journal.empty .critical)
  if let .ok settings := loaded then
    for p in settings.configFile.toList ++ settings.logDir.toList do
      w ← lookAlong w p
    if let some directory := settings.logDir then
      w ← lookAlong w (directory.join (Path.ofText "argsfilter.log"))
  return w

/-! ## Carrying out -/

/-- Makes an entry what it is in the world. -/
def carryOut (p : Path) : Entry → IO Unit
  | .directory => IO.FS.createDirAll (asString p.shown)
  | .file content => IO.FS.writeBinFile (asString p.shown) ⟨content.toArray⟩

/-- Carries out what differs between two worlds. -/
def carryOutAll (before after : World) : IO Unit := do
  for (p, e) in after.entries do
    unless before.entries.contains (p, e) do carryOut p e

/-- The time of the clock, for records. -/
def now : IO Text := do
  let time ← Std.Time.PlainDateTime.now
  return Text.ofString (time.format "uuuu-MM-dd HH:mm:ss")

/-- Writes a text to a stream. -/
def put (stream : IO.FS.Stream) (t : Text) : IO Unit := do
  stream.write ⟨t.utf8.toArray⟩
  stream.flush

/-- Runs the words of a command line, and gives the code to end with. -/
def run (args : List String) : IO UInt32 := do
  let words := args.map Text.ofString
  let w ← picture words
  let outcome := Command.run w ⟨← now, "-"⟩ words
  put (← IO.getStdout) outcome.output
  put (← IO.getStderr) outcome.errors
  if let some t := outcome.trouble then
    put (← IO.getStderr) (t.kind ++ ": " ++ t.message ++ "\n")
  carryOutAll w outcome.world
  return UInt32.ofNat outcome.code

end QuerySieve.Main

def main (args : List String) : IO UInt32 := QuerySieve.Main.run args
