-- Reading a command line: its words are taken apart into switches and operands, and these make
-- up a task. Whatever is wrong with the words is a fault.
import QuerySieve.Command.Switch
import QuerySieve.Text.Likeness
import QuerySieve.World

namespace QuerySieve.Command

/-! ## Faults -/

/-- What can be wrong with a command line. -/
inductive Fault
  /-- There is no such switch; these are alike. -/
  | unknownSwitch (name : Text) (near : List Text)
  /-- A switch ends the command line that takes a value. -/
  | valueMissing (name : Text)
  | valueUnwanted (name : Text)
  | operandMissing (name : Text)
  /-- A value cannot be used, for a reason. -/
  | unusable (names : List Text) (why : Text)
  /-- Operands that nothing takes. -/
  | extra (operands : List Text)
  | verbMissing
  | unknownVerb (name : Text) (near : List Text)
  deriving DecidableEq, Repr

namespace Fault

/-- A question after a message: was something else meant? -/
def hint : List Text → Text
  | [] => []
  | [t] => " Did you mean " ++ t.quoted ++ "?"
  | ts =>
    let names := (ts.mergeSort Text.le).map Text.quoted
    " (Did you mean one of: " ++ Text.join ", " names ++ "?)"

def message : Fault → Text
  | .unknownSwitch name near => "No such option " ++ name.quoted ++ "." ++ hint near
  | .valueMissing name => "Option " ++ name.quoted ++ " requires an argument."
  | .valueUnwanted name => "Option " ++ name.quoted ++ " does not take a value."
  | .operandMissing name => "Missing argument '" ++ name ++ "'."
  | .unusable names why =>
    "Invalid value for " ++ Text.join " / " (names.map fun n => "'" ++ n ++ "'") ++ ": " ++ why
  | .extra operands =>
    (if operands.length = 1 then ("Got unexpected extra argument (" : Text)
      else "Got unexpected extra arguments (") ++ Text.join " " operands ++ ")"
  | .verbMissing => "Missing command."
  | .unknownVerb name near => "No such command " ++ name.quoted ++ "." ++ hint near

/-- Whether the usage of the scope is shown before the message. -/
def showsUsage : Fault → Bool
  | .valueMissing _ | .valueUnwanted _ => false
  | _ => true

end Fault

/-! ## Switches and operands -/

/-- A switch that was given, with its value. -/
abbrev Given := Switch × Text

/-- The switches and operands of a command line, each in the order they were given. -/
structure Gathered where
  given : List Given := []
  operands : List Text := []

namespace Gathered

def has (g : Gathered) (s : Switch) : Bool := g.given.any fun x => x.1 = s

/-- The value of a switch that was given: the last one. -/
def value? (g : Gathered) (s : Switch) : Option Text :=
  (g.given.reverse.find? fun x => x.1 = s).map (·.2)

def withGiven (given : List Given) (g : Gathered) : Gathered := { g with given := given ++ g.given }

def withOperand (t : Text) (g : Gathered) : Gathered := { g with operands := t :: g.operands }

end Gathered

/-- The switches of one word, and the one whose value is the next word, with the name it was
given by. -/
structure Word where
  given : List Given := []
  open_ : Option (Switch × Text) := none

/-- Reads a word that names one switch, and perhaps its value. -/
def readLong (switches : List Switch) (name : Text) (value : Option Text) : Except Fault Word :=
  match switches.find? fun s => s.longName = name with
  | none => .error (.unknownSwitch name (Likeness.near name (switches.map Switch.longName)))
  | some s =>
    match s.takesValue, value with
    | true, some v => .ok { given := [(s, v)] }
    | true, none => .ok { open_ := some (s, name) }
    | false, some _ => .error (.valueUnwanted name)
    | false, none => .ok { given := [(s, [])] }

/-- Reads switches that are named by their letters. What follows a letter that takes a value is
the value. -/
def readLetters (switches : List Switch) : Text → Except Fault Word
  | [] => .ok {}
  | c :: t =>
    match switches.find? fun s => s.short = some c with
    | none => .error (.unknownSwitch (Switch.letterName c) [])
    | some s =>
      if s.takesValue then
        .ok (if t.isEmpty then { open_ := some (s, Switch.letterName c) }
          else { given := [(s, t)] })
      else (readLetters switches t).map fun w => { w with given := (s, []) :: w.given }

/-- Sets the value of a switch apart from its name. -/
def equals : CodePoint := '='

/-- A name and what stands after an equals sign, if there is one. -/
def splitValue (t : Text) : Text × Option Text :=
  match t.dropWhile (· ≠ equals) with
  | [] => (t, none)
  | _ :: value => (t.takeWhile (· ≠ equals), some value)

/-- More than a dash, and a dash first. -/
def isSwitchWord : Text → Bool
  | c :: _ :: _ => c = Switch.dash
  | _ => false

/-- Two dashes first. -/
def isLongWord (t : Text) : Bool := t.take 2 = [Switch.dash, Switch.dash]

def readWord (switches : List Switch) (t : Text) : Except Fault Word :=
  if isLongWord t then
    let (name, value) := splitValue t
    readLong switches name value
  else readLetters switches t.tail

/-- Takes the words of a command line apart. Two dashes end the switches; where switches may not
stand after operands, so does the first operand. -/
def gather (switches : List Switch) (mixes : Bool) : List Text → Except Fault Gathered
  | [] => .ok {}
  | t :: rest =>
    if t = [Switch.dash, Switch.dash] then .ok { operands := rest }
    else if isSwitchWord t then
      match readWord switches t with
      | .error f => .error f
      | .ok w =>
        match w.open_, rest with
        | none, rest => (gather switches mixes rest).map (Gathered.withGiven w.given)
        | some (s, _), v :: rest =>
          (gather switches mixes rest).map (Gathered.withGiven (w.given ++ [(s, v)]))
        | some (_, name), [] => .error (.valueMissing name)
    else if mixes then (gather switches mixes rest).map (Gathered.withOperand t)
    else .ok { operands := t :: rest }

/-- Takes the words of a scope apart. -/
def Scope.gather (s : Scope) (words : List Text) : Except Fault Gathered :=
  Command.gather s.switches s.mixes words

/-! ## Tasks -/

inductive Layout
  | text
  | json
  deriving DecidableEq, Repr

/-- What the program is told to do. -/
inductive Task
  | check (rules : Option Text)
  | apply (name query : Text) (rules : Option Text)
  | show_ (rules : Option Text) (layout : Layout)
  deriving DecidableEq, Repr

/-- Why a command line makes up no task. -/
inductive Stop
  /-- The help page is wanted. -/
  | page
  | fault (f : Fault)
  /-- The system cannot be asked about a path. -/
  | path (e : PathError)
  deriving DecidableEq, Repr

/-- Whether something stands at a path as it is written, and whether it is a directory. A path
that ends in a slash or in a point leads to a directory. -/
def lookAt (w : World) (t : Text) : Except PathError Entry :=
  if t.isEmpty then .error (.refused .missing t)
  else if World.pathLimit ≤ t.utf8.length then .error (.refused .nameTooLong t)
  else
    match w.look (Path.ofText t) with
    | .ok (.file content) =>
      if (Text.splitAt Path.slash t).getLast?.any (fun p => p.isEmpty || p = Text.ofString ".") then
        .error (.refused .notDirectory t)
      else .ok (.file content)
    | result => result

/-- A named file has to be there, and to be no directory. -/
def ensureFile (w : World) (names : List Text) (t : Text) : Except Stop Unit :=
  match lookAt w t with
  | .ok (.file _) => .ok ()
  | .ok .directory => .error (.fault (.unusable names ("File " ++ t.quoted ++ " is a directory.")))
  | .error (.refused _ _) =>
    .error (.fault (.unusable names ("File " ++ t.quoted ++ " does not exist.")))
  | .error e => .error (.path e)

/-- Does nothing if nothing is named. -/
def ensureFile? (w : World) (names : List Text) : Option Text → Except Stop Unit
  | none => .ok ()
  | some t => ensureFile w names t

/-- No operands may be left. -/
def ensureNone : List Text → Except Stop Unit
  | [] => .ok ()
  | operands => .error (.fault (.extra operands))

/-- The layout of a name. The usual one is text. -/
def readLayout : Option Text → Except Stop Layout
  | none => .ok .text
  | some t =>
    if t = Text.ofString "text" then .ok .text
    else if t = Text.ofString "json" then .ok .json
    else .error (.fault (.unusable Switch.output.names
      (t.quoted ++ " is not one of 'text', 'json'.")))

/-- The names of the operand for a rules file. -/
def configNames : List Text := ["[CONFIG]"]

/-- The task that switches and operands make up. Switches are looked at before operands, and
operands that are left over come last. -/
def Verb.task (w : World) (v : Verb) (g : Gathered) : Except Stop Task := do
  if g.has .help then throw .page
  match v with
  | .check =>
    let rules := g.operands.head?
    ensureFile? w configNames rules
    ensureNone g.operands.tail
    return .check rules
  | .apply =>
    let rules := g.value? .config
    ensureFile? w Switch.config.names rules
    match g.operands with
    | [] => throw (.fault (.operandMissing "NAME"))
    | [_] => throw (.fault (.operandMissing "QUERY"))
    | name :: query :: rest =>
      ensureNone rest
      return .apply name query rules
  | .show_ =>
    let layout ← readLayout (g.value? .output)
    let rules := g.operands.head?
    ensureFile? w configNames rules
    ensureNone g.operands.tail
    return .show_ rules layout

end QuerySieve.Command
