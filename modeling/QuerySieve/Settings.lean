-- The settings of the tool: how it logs, and which rules file it reads by
-- default. They come from two files, perhaps a third, and the environment; the later
-- ones win. Settings that are not valid give way to the defaults as a whole.
import QuerySieve.Attempt
import QuerySieve.Layers
import QuerySieve.Level
import QuerySieve.Yaml.Typed

namespace QuerySieve

/-! ## Settings -/

structure Settings where
  logLevel : Level := .info
  logDir : Option Path := none
  fileLogging : Bool := false
  /-- The rules file that is read if none is named. -/
  configFile : Option Path := none
  deriving DecidableEq, Repr

namespace Settings

/-! ## Checking values -/

/-- Why a value cannot be a setting. -/
inductive Fault
  | notMapping
  | notText
  /-- Bytes that are no UTF-8. -/
  | notUtf8
  | notLevel
  | notPath
  | notTruth
  /-- A text or a number that means neither truth value. -/
  | unclearTruth
  deriving DecidableEq, Repr

def Fault.name : Fault → Text
  | .notMapping => "model_type"
  | .notText => "string_type"
  | .notUtf8 => "string_unicode"
  | .notLevel => "value_error"
  | .notPath => "path_type"
  | .notTruth => "bool_type"
  | .unclearTruth => "bool_parsing"

/-- A fault and the keys that lead to its value. -/
abbrev Located := List Text × Fault

/-- The name of a level. -/
def readLevel : Value → Except Fault Level
  | .text t => (Level.ofName? t).elim (.error .notLevel) .ok
  | .bytes b =>
    match b.decode with
    | .error _ => .error .notUtf8
    | .ok t => (Level.ofName? t).elim (.error .notLevel) .ok
  | _ => .error .notText

/-- The texts that mean a truth value, in lower case. -/
def truths : List (Text × Bool) :=
  [("0", false), ("off", false), ("f", false), ("false", false), ("n", false), ("no", false),
    ("1", true), ("on", true), ("t", true), ("true", true), ("y", true), ("yes", true)]

/-- The truth value that a text means. -/
def truthOfText (t : Text) : Except Fault Bool :=
  (Pairs.find? (Yaml.Number.lowerLetters t) truths).elim (.error .unclearTruth) .ok

/-- The truth value that a number means. What does not fit a machine word is not looked at. -/
def truthOfInt (i : Int) : Except Fault Bool :=
  if i = 0 then .ok false
  else if i = 1 then .ok true
  else if -0x8000000000000000 ≤ i && i < 0x8000000000000000 then .error .unclearTruth
  else .error .notTruth

/-- A truth value, or what means one. -/
def readTruth : Value → Except Fault Bool
  | .bool b => .ok b
  | .text t => truthOfText t
  | .bytes b =>
    match b.decode with
    | .error _ => .error .unclearTruth
    | .ok t => truthOfText t
  | .int i => truthOfInt i
  | .real (some i) => if -0x8000000000000000 < i then truthOfInt i else .error .notTruth
  | _ => .error .notTruth

/-- A path with its home expanded, or none. A home that is not known is no fault of the
settings. -/
def readPath (w : World) : Value → Except PathError (Except Fault (Option Path))
  | .null => .ok (.ok none)
  | .text t => (w.expandHome (.ofText t)).map fun p => .ok (some p)
  | _ => .ok (.error .notPath)

/-! ## Sections -/

/-- A section is a mapping; one that is left out is empty. -/
def sectionPairs (v : Option Value) : Except Fault (List (Text × Value)) :=
  match v with
  | none => .ok []
  | some (.map pairs) | some (.ledger pairs _) => .ok pairs
  | some _ => .error .notMapping

/-- The result for a key that may be left out. -/
def optionally {α : Type} (default_ : α) (read : Value → Except Fault α) (v : Option Value) :
    Except Fault α :=
  match v with
  | none => .ok default_
  | some v => read v

/-- The faults of a result at a place. -/
def faultsAt {α : Type} (place : List Text) : Except Fault α → List Located
  | .ok _ => []
  | .error f => [(place, f)]

/-- What a result gives, or something else for a fault. -/
def orElse {α : Type} (other : α) : Except Fault α → α
  | .ok a => a
  | .error _ => other

def filtersKey : Text := "filters"
def observabilityKey : Text := "observability"
def configFileKey : Text := "config_file"
def fileLoggingKey : Text := "file_logging"
def logDirKey : Text := "log_dir"
def logLevelKey : Text := "log_level"

/-- A path under a key that may be left out. -/
def optionalPath (w : World) (key : Text) (pairs : List (Text × Value)) :
    Except PathError (Except Fault (Option Path)) :=
  match Pairs.last? key pairs with
  | none => .ok (.ok none)
  | some v => readPath w v

/-- The settings that pairs write, or all their faults. -/
def ofPairs (w : World) (pairs : List (Text × Value)) :
    Except PathError (Except (List Located) Settings) := do
  let filters := sectionPairs (Pairs.last? filtersKey pairs)
  let observability := sectionPairs (Pairs.last? observabilityKey pairs)
  let logging := orElse [] observability
  let fileLogging := optionally false readTruth (Pairs.last? fileLoggingKey logging)
  let logLevel := optionally Level.info readLevel (Pairs.last? logLevelKey logging)
  let logDir ← optionalPath w logDirKey logging
  let configFile ← optionalPath w configFileKey (orElse [] filters)
  let faults :=
    faultsAt [filtersKey] filters ++ faultsAt [filtersKey, configFileKey] configFile
      ++ faultsAt [observabilityKey] observability
      ++ faultsAt [observabilityKey, fileLoggingKey] fileLogging
      ++ faultsAt [observabilityKey, logDirKey] logDir
      ++ faultsAt [observabilityKey, logLevelKey] logLevel
  if faults.isEmpty then
    return .ok {
      logLevel := orElse .info logLevel
      logDir := orElse none logDir
      fileLogging := orElse false fileLogging
      configFile := orElse none configFile }
  else return .error faults

/-- The settings that a value writes, or all its faults. -/
def ofValue (w : World) : Value → Except PathError (Except (List Located) Settings)
  | .map pairs | .ledger pairs _ => ofPairs w pairs
  | _ => .ok (.error [([], .notMapping)])

/-! ## Where settings come from -/

/-- The part of the program that settings write records for. -/
def source : Text := "argsfilter.config"

/-- A pair for an environment variable that is set and not empty. -/
def fromVariable (w : World) (variable_ : String) (key : Text) (value : Text → Value) :
    List (Text × Value) :=
  match w.valueOf? variable_ with
  | none => []
  | some t => if t.isEmpty then [] else [(key, value t)]

/-- A section with its pairs; none if it has no pairs. -/
def sectionOf (key : Text) (pairs : List (Text × Value)) : List (Text × Value) :=
  if pairs.isEmpty then [] else [(key, .map pairs)]

/-- The word `true` in any case, and no other. -/
def isTrueWord (t : Text) : Bool := t.lower = Text.ofString "true"

/-- The layer of the environment. -/
def environmentLayer (w : World) : List (Text × Value) :=
  sectionOf observabilityKey
      (fromVariable w "ARGSFILTER_LOG_LEVEL" logLevelKey .text
        ++ fromVariable w "ARGSFILTER_LOG_DIR" logDirKey .text
        ++ fromVariable w "ARGSFILTER_FILE_LOGS" fileLoggingKey fun t => .bool (isTrueWord t))
    ++ sectionOf filtersKey (fromVariable w "ARGSFILTER_CONFIG" configFileKey .text)

/-- The files that are read without being asked for, the lowest first. -/
def files (w : World) : List Path :=
  [w.home.join ⟨[], [".argsfilter", "config.yaml"]⟩, w.work.join ⟨[], [".argsfilter.yaml"]⟩]

/-- Records that a file cannot be loaded; it counts as empty. -/
def skipFile (p : Path) (said : Text) : Attempt (List (Text × Value)) := do
  record .error source ("Failed to load settings file " ++ p.shown ++ ": " ++ said)
  return []

/-- The layer of a document that was read from a file. -/
def layerOf (p : Path) : Value → Attempt (List (Text × Value))
  | .null => return []
  | .map pairs => do
    record .debug source ("Loaded settings from " ++ p.shown)
    return pairs
  | _ => do
    record .error source ("Settings file " ++ p.shown ++ " must contain a mapping, ignoring it")
    return []

/-- The layer of a file; one that is missing is empty. -/
def fileLayer (w : World) (p : Path) : Attempt (List (Text × Value)) := do
  match w.exists? p with
  | .error e => Attempt.stray (.path e)
  | .ok false => return []
  | .ok true =>
    match w.read p with
    | .error e => skipFile p e.message
    | .ok content =>
      match Yaml.Node.typedDocument (.ofBytes content) with
      | .error (.complaint c) => skipFile p (c.message ⟨p.shown, none⟩)
      | .error (.undecodable e) => Attempt.stray (.undecodable e)
      | .error (.scalar f) => Attempt.stray (.scalar f)
      | .ok v => layerOf p v

/-- The layers of files in order. -/
def fileLayers (w : World) : List Path → Attempt (List (List (Text × Value)))
  | [] => return []
  | p :: ps => do
    let layer ← fileLayer w p
    return layer :: (← fileLayers w ps)

/-- Loads the settings from all their sources. The named file comes after the others. What is
recorded of settings that are invalid goes on with a report of their faults, which is left out. -/
def load (w : World) (named : Option Path) : Attempt Settings := do
  let layers ← fileLayers w (files w ++ named.toList)
  match ofPairs w (Layers.merge (layers ++ [environmentLayer w])) with
  | .error e => Attempt.stray (.path e)
  | .ok (.ok s) => return s
  | .ok (.error _) =>
    record .error source "Invalid args_filter settings, using defaults: "
    return {}

/-! ## Keeping settings -/

/-- The settings that were loaded, if any were. -/
abbrev Cache := Option Settings

/-- The settings that are kept, or new ones if none are. -/
def get (w : World) : Cache → Attempt Settings
  | some s => return s
  | none => load w none

/-- New settings in any case. -/
def reload (w : World) : Attempt Settings := do
  let s ← load w none
  record .info source "Configuration reloaded"
  return s

/-- A world and the settings that are kept in it. -/
structure Keeper where
  world : World
  cache : Cache := none

/-- What a keeper is asked. -/
inductive Request
  /-- The files and the environment are from now on those of another world. -/
  | move (world : World)
  | get
  | reload

/-- New settings are kept. Trouble leaves the keeper as it was. -/
def Keeper.settle (k : Keeper) :
    Except Trouble Settings → Except Trouble (Option Settings) × Keeper
  | .error t => (.error t, k)
  | .ok s => (.ok (some s), { k with cache := some s })

/-- The answer to a request, and the keeper after it. -/
def Keeper.answer (k : Keeper) :
    Request → Journaled (Except Trouble (Option Settings) × Keeper)
  | .move world => return (.ok none, { k with world })
  | .get => return k.settle (← (Settings.get k.world k.cache).run)
  | .reload => return k.settle (← (Settings.reload k.world).run)

/-! ## Layout -/

/-- Settings laid out as a value. -/
def layout (s : Settings) : Value :=
  .map [Value.field "log_level" (.text s.logLevel.name),
    Value.field "log_dir" (.optional (s.logDir.map Path.shown)),
    Value.field "file_logging" (.bool s.fileLogging),
    Value.field "config_file" (.optional (s.configFile.map Path.shown))]

end Settings

end QuerySieve
