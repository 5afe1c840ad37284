-- The command line as it is described to its users: the verbs, the switches and the operands
-- that each of them takes, and the help pages that say so.
import QuerySieve.Text.Basic

namespace QuerySieve.Command

/-! ## Switches -/

structure Switch where
  long : Text
  short : Option CodePoint := none
  /-- How the value that the switch takes is called; none if it takes no value. -/
  value : Option Text := none
  about : Text := []
  deriving DecidableEq, Repr

namespace Switch

def dash : CodePoint := '-'

def longName (s : Switch) : Text := [dash, dash] ++ s.long

/-- The name of a switch by its letter. -/
def letterName (letter : CodePoint) : Text := [dash, letter]

/-- The names of a switch, the long one first. -/
def names (s : Switch) : List Text := s.longName :: (s.short.map letterName).toList

def takesValue (s : Switch) : Bool := s.value.isSome

def help : Switch := { long := "help", about := "Show this message and exit." }

def version : Switch := { long := "version", about := "Show the version and exit." }

def logLevel : Switch :=
  { long := "log-level", short := some 'l', value := some "TEXT",
    about := "DEBUG, INFO, WARNING, ERROR" }

/-- The rules file. -/
def config : Switch :=
  { long := "config", short := some 'c', value := some "FILE", about := "Rules file" }

/-- The layout that definitions are shown in. -/
def output : Switch := { long := "output", short := some 'o', value := some "[text|json]" }

end Switch

/-! ## Verbs -/

/-- What the program can be told to do. -/
inductive Verb
  | apply
  | check
  | show_
  deriving DecidableEq, Repr

namespace Verb

def all : List Verb := [.apply, .check, .show_]

def name : Verb → Text
  | .apply => "apply"
  | .check => "check"
  | .show_ => "show"

def ofName? (t : Text) : Option Verb := all.find? fun v => v.name = t

/-- What the verb does, in a sentence. -/
def about : Verb → Text
  | .apply => "Print QUERY filtered through the variable NAME."
  | .check => "Validate a rules file, like a server's configuration test."
  | .show_ => "List declared variables and their compiled rules."

end Verb

/-! ## Scopes -/

/-- What a part of the command line belongs to. -/
inductive Scope
  | program
  | verb (v : Verb)
  deriving DecidableEq, Repr

namespace Scope

/-- How the scope is reached. -/
def path : Scope → Text
  | .program => "cli"
  | .verb v => "cli " ++ v.name

/-- What may follow. -/
def form : Scope → Text
  | .program => "[OPTIONS] COMMAND [ARGS]..."
  | .verb .apply => "[OPTIONS] NAME QUERY"
  | .verb .check | .verb .show_ => "[OPTIONS] [CONFIG]"

def switches : Scope → List Switch
  | .program => [.version, .logLevel, .help]
  | .verb .apply => [.config, .help]
  | .verb .check => [.help]
  | .verb .show_ => [.output, .help]

/-- Whether switches may stand after operands. -/
def mixes : Scope → Bool
  | .program => false
  | .verb _ => true

/-! ## Help pages -/

/-- The paragraphs of a help page, line by line. -/
def paragraphs : Scope → List (List Text)
  | .program =>
    [["args-filter - keep only the query-string keys you declare."],
      ["Core commands:     argsfilter check   - Validate a rules file     argsfilter",
        "apply   - Filter a query string with a declared variable     argsfilter show",
        "- List declared variables and their rules"]]
  | .verb .apply =>
    [[Verb.apply.about],
      ["Examples:     argsfilter apply -c rules.yaml '$filtered_args'", "'x=1&ads.foo=2&y=4'"]]
  | .verb .check =>
    [[Verb.check.about],
      ["Examples:     argsfilter check rules.yaml     ARGSFILTER_CONFIG=rules.yaml",
        "argsfilter check"]]
  | .verb .show_ => [[Verb.show_.about]]

def usage (s : Scope) : Text := "Usage: " ++ s.path ++ " " ++ s.form ++ "\n"

/-- A line of a page, set in. -/
def inset (t : Text) : Text := "  " ++ t ++ "\n"

/-- A table of two columns, the second of which may be empty. -/
def table (rows : List (Text × Text)) : Text :=
  let width := (rows.map fun r => r.1.length).foldl Nat.max 0
  rows.flatMap fun (first, second) =>
    if second.isEmpty then inset first
    else inset (first ++ List.replicate (width + 2 - first.length) (CodePoint.ofChar ' ') ++ second)

/-- A switch in the first column: its letter, its name, and what it takes. -/
def switchRow (s : Switch) : Text × Text :=
  let names := Text.join ", " s.names.reverse
  (match s.value with
    | none => names
    | some value => names ++ " " ++ value, s.about)

/-- A help page. -/
def page (s : Scope) : Text :=
  let verbs : Text := match s with
    | .program => "\nCommands:\n" ++ table (Verb.all.map fun v => (v.name, v.about))
    | .verb _ => []
  let paragraphs : List Text := s.paragraphs.map fun lines => lines.flatMap inset
  s.usage ++ "\n" ++ Text.join "\n" paragraphs ++ "\nOptions:\n"
    ++ table (s.switches.map switchRow) ++ verbs

end Scope

end QuerySieve.Command
