-- The law of what loggers hand records to. Loggers are obtained, set up and given levels in any
-- order, and setting one up may be stopped halfway by a path. Each logger has at all times at most
-- a console and then a file; the console is at the level that was set last, and the file takes all.
import QuerySieve.Log
import QuerySieve.Proofs.Sessions
import QuerySieve.Proofs.Tables

namespace QuerySieve

/-! ## The outlets of one logger -/

namespace Logger

/-- A logger with a console at its own level and a file that takes every record, or without one of
them. -/
def arranged (level : Level) (console : Bool) (file : Option Path) : Logger where
  level
  outlets := (if console then [.console level] else []) ++ file.toList.map (.file · .debug)

def Arranged (l : Logger) : Prop := ∃ console file, l = arranged l.level console file

theorem arranged_arranged (level : Level) (console : Bool) (file : Option Path) :
    (arranged level console file).Arranged := ⟨console, file, rfl⟩

/-- A new level moves the console along and leaves the file. -/
theorem setLevel_arranged (l level : Level) (console : Bool) (file : Option Path) :
    (arranged level console file).setLevel l = arranged l console file := by
  cases console <;> cases file <;> rfl

end Logger

namespace Log

/-! ## Runs of calls -/

/-- One call of a run, with the world and its loggers before and after it. -/
structure Turn where
  before : LoggedWorld
  call : Call
  result : Except PathError Unit
  after : LoggedWorld

/-- Performs calls one after another. A call that is stopped leaves what it did, and the run goes
on. -/
def performAll (site : LoggedWorld) : List Call → List Turn
  | [] => []
  | c :: cs =>
    let (result, after) := (perform c).run site
    ⟨site, c, result, after⟩ :: performAll after cs

/-- A call obtains the logger of a name, spelled just so. -/
def Call.Obtains (c : Call) (name : Text) : Prop :=
  ∃ level directory, c = .obtain name level directory

/-- A call obtains or sets up the logger that a name stands for. -/
def Call.Touches (c : Call) (name : Text) : Prop :=
  (∃ s, c = .setUp s ∧ key s.name = key name) ∨
    ∃ other, c.Obtains other ∧ key other = key name

/-- The key of the logger that a call gives a level, and the level. To obtain a logger gives it a
level the first time, or where one is named. A logger that is not there is not given one. -/
def Call.sets? (site : LoggedWorld) : Call → Option (Text × Level)
  | .move _ => none
  | .setUp s => some (key s.name, parseLevel s.level)
  | .setLevel name level => (site.log.find? name).map fun _ => (key name, parseLevel level)
  | .obtain name level _ =>
    if !level.isEmpty then some (key name, parseLevel level)
    else if site.log.kept.contains name then none
    else some (key name, parseLevel (defaultLevel site.world))

def Turn.sets? (t : Turn) : Option (Text × Level) := t.call.sets? t.before

/-! ## One call -/

theorem find?_put (log : Log) (name n : Text) (logger : Logger) :
    (log.put name logger).find? n = if key name = key n then some logger else log.find? n :=
  Pairs.find?_put _

theorem run_get (site : LoggedWorld) :
    (get : Logging LoggedWorld).run site = (.ok site, site) := rfl

theorem run_modify (change : LoggedWorld → LoggedWorld) (site : LoggedWorld) :
    (modify change : Logging Unit).run site = (.ok (), change site) := rfl

theorem onWorld_log (change : World → Except PathError World) (site : LoggedWorld) :
    ((onWorld change).run site).2.log = site.log := by
  unfold onWorld
  rw [Command.run_bind, run_get]
  dsimp only
  split
  · rfl
  · rfl

/-- The log file of a name takes every record, and opening it changes no logger. -/
theorem openFile_log (directory : Path) (name : Text) (site : LoggedWorld) :
    ((openFile directory name).run site).2.log = site.log ∧
      ∀ o, ((openFile directory name).run site).1 = .ok o → ∃ path, o = .file path .debug := by
  have made := onWorld_log (·.makeDirectories directory) site
  unfold openFile
  rw [Command.run_bind]
  rcases hmake : (onWorld (·.makeDirectories directory)).run site with ⟨e | _, site'⟩
  · rw [hmake] at made
    exact ⟨made, nofun⟩
  rw [hmake] at made
  dsimp only
  rw [Command.run_bind, run_get]
  dsimp only
  rw [Command.run_bind]
  let path := site'.world.absolute (directory.join (Path.ofText (name ++ ".log")))
  have opened := onWorld_log (·.append path []) site'
  rcases happend : (onWorld (·.append path [])).run site' with ⟨e | _, site''⟩
  · rw [happend] at opened
    exact ⟨opened.trans made, nofun⟩
  · rw [happend] at opened
    refine ⟨opened.trans made, ?_⟩
    rintro o ⟨⟩
    exact ⟨path, rfl⟩

/-- A logger that is set up has its console at once. It has its file as well unless a path stops
the call before. -/
theorem setUp_log (s : LogSetup) (site : LoggedWorld) :
    ∃ result after file, (setUp s).run site = (result, after) ∧ after.log.kept = site.log.kept ∧
      ∀ n, after.log.find? n = if key s.name = key n then
        some (.arranged (parseLevel s.level) s.console file) else site.log.find? n := by
  let consoles : List Outlet := if s.console then [.console (parseLevel s.level)] else []
  let log := site.log.put s.name ⟨parseLevel s.level, consoles⟩
  have bare : ∀ n, log.find? n = if key s.name = key n then
      some (.arranged (parseLevel s.level) s.console none) else site.log.find? n := by
    intro n
    rw [find?_put, Logger.arranged]
    simp [consoles]
  unfold setUp
  rw [Command.run_bind, run_modify]
  dsimp only
  cases s.directory with
  | none => exact ⟨_, _, none, rfl, rfl, bare⟩
  | some directory =>
    by_cases wanted : s.file
    · obtain ⟨same, opened⟩ := openFile_log directory s.name { site with log }
      simp only [wanted, if_true]
      rw [Command.run_bind]
      rcases hopen : (openFile directory s.name).run { site with log } with ⟨e | o, site'⟩
      · rw [hopen] at same
        refine ⟨_, _, none, rfl, (congrArg kept same).trans rfl, ?_⟩
        intro n
        rw [← bare, same]
      · rw [hopen] at same opened
        obtain ⟨path, rfl⟩ := opened o rfl
        refine ⟨_, _, some path, rfl, (congrArg kept same).trans rfl, ?_⟩
        intro n
        change (site'.log.put s.name _).find? n = _
        rw [find?_put, same, bare, Logger.arranged]
        split
        · rfl
        · rfl
    · simp only [wanted]
      exact ⟨_, _, none, rfl, rfl, bare⟩

/-- Loggers before and after a call that may have given one of them a level. -/
inductive Adjusts (log after : Log) : Option (Text × Level) → Prop
  | idle (same : ∀ n, after.find? n = log.find? n) : Adjusts log after none
  | sets {k : Text} {l : Level}
      (set : ∀ n, k = key n → ∃ console file, after.find? n = some (.arranged l console file))
      (same : ∀ n, k ≠ key n → after.find? n = log.find? n) : Adjusts log after (some (k, l))

/-- Which names are kept is no matter of the loggers. -/
theorem Adjusts.keep {log after : Log} {set : Option (Text × Level)} (h : Adjusts log after set)
    (kept : List Text) : Adjusts log { after with kept } set := by
  cases h with
  | idle same => exact .idle same
  | sets set same => exact .sets set same

/-- What is true of the loggers at all times: those that were obtained are there, and all are
arranged. -/
structure Sound (log : Log) : Prop where
  there : ∀ n ∈ log.kept, (log.find? n).isSome
  arranged : ∀ n logger, log.find? n = some logger → logger.Arranged

variable {site : LoggedWorld}

theorem Sound.setLevel (sound : site.log.Sound) (name : Text) (l : Level) :
    Adjusts site.log (site.log.setLevel name l)
      ((site.log.find? name).map fun _ => (key name, l)) := by
  unfold Log.setLevel
  cases hfind : site.log.find? name with
  | none => exact .idle fun _ => rfl
  | some logger =>
    obtain ⟨console, file, arranged⟩ := sound.arranged name logger hfind
    refine .sets ?_ ?_
    · intro n same
      refine ⟨console, file, ?_⟩
      rw [find?_put, if_pos same, arranged, Logger.setLevel_arranged]
    · intro n other
      rw [find?_put, if_neg other]

theorem setLevel_kept (log : Log) (name : Text) (l : Level) :
    (log.setLevel name l).kept = log.kept := by
  unfold setLevel
  split
  · rfl
  · rfl

theorem setUp_adjusts (s : LogSetup) (site : LoggedWorld) :
    ∃ result after, (setUp s).run site = (result, after) ∧ after.log.kept = site.log.kept ∧
      Adjusts site.log after.log (some (key s.name, parseLevel s.level)) := by
  obtain ⟨result, after, file, run, kept, found⟩ := setUp_log s site
  refine ⟨result, after, run, kept, .sets ?_ ?_⟩
  · intro n same
    exact ⟨s.console, file, by rw [found, if_pos same]⟩
  · intro n other
    rw [found, if_neg other]

/-- A call performed on loggers: what it gives a level, and which name it keeps. -/
structure Performed (site : LoggedWorld) (c : Call) (result : Except PathError Unit)
    (after : LoggedWorld) : Prop where
  adjusts : Adjusts site.log after.log (c.sets? site)
  kept : ∀ n, n ∈ after.log.kept ↔ n ∈ site.log.kept ∨ c.Obtains n ∧ result = .ok ()

theorem obtains_iff {name level n : Text} {directory : Option Path} :
    Call.Obtains (.obtain name level directory) n ↔ name = n := by
  constructor
  · rintro ⟨_, _, ⟨⟩⟩
    rfl
  · rintro rfl
    exact ⟨_, _, rfl⟩

theorem Performed.of_same {c : Call} {result : Except PathError Unit} {after : LoggedWorld}
    (adjusts : Adjusts site.log after.log (c.sets? site)) (kept : after.log.kept = site.log.kept)
    (other : ∀ n, ¬ c.Obtains n) : Performed site c result after := by
  refine ⟨adjusts, ?_⟩
  intro n
  simp [kept, other n]

/-- To obtain a logger that is kept gives it a level where one is named. -/
theorem Sound.obtain_kept (sound : site.log.Sound) {name level : Text} {directory : Option Path}
    (kept : name ∈ site.log.kept) :
    ∃ result after, (obtain name level directory).run site = (result, after) ∧
      Performed site (.obtain name level directory) result after := by
  have held := List.contains_iff_mem.mpr kept
  unfold obtain
  rw [Command.run_bind, run_get]
  dsimp only
  rw [if_pos held]
  have keeps : ∀ n, n ∈ site.log.kept ↔
      n ∈ site.log.kept ∨ Call.Obtains (.obtain name level directory) n ∧ True := by
    intro n
    rw [obtains_iff, and_true, or_iff_left_of_imp]
    rintro rfl
    exact kept
  cases hlevel : level.isEmpty with
  | true =>
    refine ⟨_, _, rfl, ?_, by simpa using keeps⟩
    simp only [Call.sets?, hlevel, held]
    exact .idle fun _ => rfl
  | false =>
    refine ⟨_, _, rfl, ?_, ?_⟩
    · obtain ⟨logger, hfind⟩ := Option.isSome_iff_exists.mp (sound.there name kept)
      have sets := sound.setLevel name (parseLevel level)
      rw [hfind] at sets
      simpa [Call.sets?, hlevel] using sets
    · simpa [setLevel_kept] using keeps

/-- To obtain a logger that is not kept sets it up, and keeps it unless a path stops the call. -/
theorem obtain_new {name level : Text} {directory : Option Path} (new : name ∉ site.log.kept) :
    ∃ result after, (obtain name level directory).run site = (result, after) ∧
      Performed site (.obtain name level directory) result after := by
  have unheld : site.log.kept.contains name = false := by simpa using new
  have set : Call.sets? site (.obtain name level directory) = some (key name,
      parseLevel (if level.isEmpty then defaultLevel site.world else level)) := by
    cases hlevel : level.isEmpty with
    | true => simp [Call.sets?, hlevel, new]
    | false => simp [Call.sets?, hlevel]
  obtain ⟨result, after, run, kept, adjusts⟩ := setUp_adjusts {
    name, directory
    level := if level.isEmpty then defaultLevel site.world else level
    file := allowsFiles site.world } site
  unfold obtain
  rw [Command.run_bind, run_get]
  dsimp only
  rw [unheld, if_neg Bool.false_ne_true, Command.run_bind, run]
  cases result with
  | error e =>
    refine ⟨_, _, rfl, ?_, ?_⟩
    · rw [set]
      exact adjusts
    · simp [kept]
  | ok _ =>
    refine ⟨_, _, rfl, ?_, ?_⟩
    · rw [set]
      exact adjusts.keep _
    · intro n
      change n ∈ name :: after.log.kept ↔ _
      rw [List.mem_cons, kept, obtains_iff]
      simp [or_comm, eq_comm]

theorem Sound.perform (sound : site.log.Sound) (c : Call) :
    ∃ result after, (perform c).run site = (result, after) ∧ Performed site c result after := by
  cases c with
  | move world => exact ⟨_, _, rfl, .of_same (.idle fun _ => rfl) rfl nofun⟩
  | setUp s =>
    obtain ⟨result, after, run, kept, adjusts⟩ := setUp_adjusts s site
    exact ⟨result, after, run, .of_same adjusts kept nofun⟩
  | setLevel name level =>
    exact ⟨_, _, rfl, .of_same (sound.setLevel name _) (setLevel_kept _ name _) nofun⟩
  | obtain name level directory =>
    by_cases kept : name ∈ site.log.kept
    · exact sound.obtain_kept kept
    · exact obtain_new kept

/-! ## Whole runs -/

theorem find?_congr (log : Log) {m n : Text} (same : key m = key n) :
    log.find? m = log.find? n := by
  unfold find?
  rw [same]

variable {log after : Log} {set : Option (Text × Level)} {past : List Turn} {c : Call}
  {result : Except PathError Unit}

theorem Adjusts.isSome_iff (h : Adjusts log after set) (n : Text) :
    (after.find? n).isSome ↔ (log.find? n).isSome ∨ ∃ l, set = some (key n, l) := by
  cases h with
  | idle same => simp [same n]
  | @sets k l set same =>
    by_cases here : k = key n
    · obtain ⟨console, file, found⟩ := set n here
      simp [found, here]
    · simp [same n here, here]

/-- The level of a logger is the one that was set last, if the levels set before are known. -/
theorem Adjusts.last (h : Adjusts log after set) {n : Text} {before : List (Text × Level)}
    (level : (log.find? n).map Logger.level = Pairs.last? (key n) before) :
    (after.find? n).map Logger.level = Pairs.last? (key n) (before ++ set.toList) := by
  cases h with
  | idle same => simpa [same n] using level
  | @sets k l set same =>
    rw [Option.toList_some, Pairs.last?_concat]
    by_cases here : k = key n
    · obtain ⟨console, file, found⟩ := set n here
      simp [found, here, Logger.arranged]
    · simp [same n here, here, level]

theorem Adjusts.arranged (h : Adjusts log after set)
    (arranged : ∀ n logger, log.find? n = some logger → logger.Arranged) (n : Text)
    (logger : Logger) (found : after.find? n = some logger) : logger.Arranged := by
  cases h with
  | idle same => exact arranged n logger (same n ▸ found)
  | @sets k l set same =>
    by_cases here : k = key n
    · obtain ⟨console, file, now⟩ := set n here
      cases now.symm.trans found
      exact Logger.arranged_arranged l console file
    · exact arranged n logger (same n here ▸ found)

/-- A call that touches a logger gives it a level, or the logger is there already. -/
theorem Sound.touched (sound : site.log.Sound) {n : Text} (h : c.Touches n) :
    (site.log.find? n).isSome ∨ ∃ l, c.sets? site = some (key n, l) := by
  rcases h with ⟨s, rfl, same⟩ | ⟨name, ⟨level, directory, rfl⟩, same⟩
  · exact .inr ⟨parseLevel s.level, by rw [← same]; rfl⟩
  · rw [← same, ← find?_congr site.log same]
    by_cases kept : name ∈ site.log.kept
    · exact .inl (sound.there name kept)
    · right
      simp only [Call.sets?]
      split
      · exact ⟨_, rfl⟩
      · exact ⟨_, if_neg (by simpa using kept)⟩

/-- A call that gives a logger a level touches it, or the logger is there already. -/
theorem touches_of_sets {n : Text} {l : Level} (h : c.sets? site = some (key n, l)) :
    (site.log.find? n).isSome ∨ c.Touches n := by
  cases c with
  | move world => cases h
  | setUp s => exact .inr (.inl ⟨s, rfl, congrArg Prod.fst (Option.some.inj h)⟩)
  | setLevel name level =>
    obtain ⟨logger, found, same⟩ := Option.map_eq_some_iff.mp h
    left
    rw [← find?_congr site.log (congrArg Prod.fst same), found]
    rfl
  | obtain name level directory =>
    right
    refine .inr ⟨name, ⟨level, directory, rfl⟩, ?_⟩
    simp only [Call.sets?] at h
    split at h
    · exact congrArg Prod.fst (Option.some.inj h)
    · split at h
      · cases h
      · exact congrArg Prod.fst (Option.some.inj h)

/-- What is true of the loggers after some turns of a run that begins without any. -/
structure Held (past : List Turn) (log : Log) : Prop where
  /-- Those names are kept that a logger was obtained for, unless a path stopped the call. -/
  kept : ∀ n, n ∈ log.kept ↔ ∃ t ∈ past, t.call.Obtains n ∧ t.result = .ok ()
  /-- Those loggers are there that were touched, also by a call that was stopped. -/
  found : ∀ n, (log.find? n).isSome ↔ ∃ t ∈ past, t.call.Touches n
  /-- A logger has the level that it was given last. -/
  level : ∀ n, (log.find? n).map Logger.level = Pairs.last? (key n) (past.filterMap Turn.sets?)
  /-- A logger has at most a console, at its own level, and then a file that takes every record. -/
  arranged : ∀ n logger, log.find? n = some logger → logger.Arranged

theorem held_nil : Held [] {} := ⟨by simp, by simp [find?, Pairs.find?], fun _ => rfl, nofun⟩

theorem Held.sound (held : Held past log) : log.Sound := by
  refine ⟨?_, held.arranged⟩
  intro n kept
  obtain ⟨t, ht, obtains, -⟩ := (held.kept n).mp kept
  exact (held.found n).mpr ⟨t, ht, .inr ⟨n, obtains, rfl⟩⟩

/-- Each call keeps what is true of the loggers. -/
theorem Held.performed {after : LoggedWorld} (held : Held past site.log)
    (h : Performed site c result after) :
    Held (past ++ [⟨site, c, result, after⟩]) after.log := by
  refine ⟨?_, ?_, ?_, h.adjusts.arranged held.arranged⟩
  · intro n
    rw [h.kept, held.kept]
    simp [List.mem_append, or_and_right, exists_or]
  · intro n
    have touched : (after.log.find? n).isSome ↔ (site.log.find? n).isSome ∨ c.Touches n := by
      rw [h.adjusts.isSome_iff]
      constructor
      · rintro (there | ⟨l, sets⟩)
        · exact .inl there
        · exact touches_of_sets sets
      · rintro (there | touches)
        · exact .inl there
        · exact held.sound.touched touches
    rw [touched, held.found]
    simp [List.mem_append, or_and_right, exists_or]
  · intro n
    rw [List.filterMap_append]
    have last := h.adjusts.last (held.level n)
    cases hset : c.sets? site with
    | none => simpa [Turn.sets?, hset] using last
    | some p => simpa [Turn.sets?, hset] using last

/-- What is true of one turn, after the turns before it. -/
structure Turn.Accounted (w : World) (past : List Turn) (t : Turn) : Prop where
  /-- It begins where the turn before ended. -/
  left : t.before = past.getLast?.elim { world := w } Turn.after
  before : Held past t.before.log
  after : Held (past ++ [t]) t.after.log

theorem performAll_cons {after : LoggedWorld} (run : (perform c).run site = (result, after))
    (cs : List Call) :
    performAll site (c :: cs) = ⟨site, c, result, after⟩ :: performAll after cs := by
  rw [performAll, run]

theorem Held.performAll {w : World} (held : Held past site.log)
    (left : site = past.getLast?.elim { world := w } Turn.after) (calls : List Call) :
    ∀ before t later, performAll site calls = before ++ t :: later →
      t.Accounted w (past ++ before) := by
  induction calls generalizing past site with
  | nil => simp [Log.performAll]
  | cons c cs ih =>
    obtain ⟨result, after, run, performed⟩ := held.sound.perform c
    have next := held.performed performed
    intro before t later split
    rw [performAll_cons run] at split
    cases before with
    | nil =>
      cases split
      rw [List.append_nil]
      exact ⟨left, held, next⟩
    | cons u before =>
      obtain ⟨rfl, rest⟩ := List.cons.inj split
      have := ih next (by simp) before t later rest
      rwa [List.append_assoc] at this

theorem performAll_calls (site : LoggedWorld) (calls : List Call) :
    (performAll site calls).map Turn.call = calls := by
  induction calls generalizing site with
  | nil => rfl
  | cons c cs ih => exact congrArg (c :: ·) (ih _)

/-! ## The law -/

/-- At each turn of every run of calls, also of those that a path stops halfway, the loggers that
were touched are there. Each has at most one console and then at most one file. Its console is at
its own level, which is the one that it was given last: by being set up or obtained for the first
time, or by a level that is named later on. Its file takes every record. -/
theorem each_logger_keeps_to_the_level_that_was_set_last (w : World) (calls : List Call) :
    (performAll { world := w } calls).map Turn.call = calls ∧
    ∀ past t later, performAll { world := w } calls = past ++ t :: later → t.Accounted w past := by
  have start : Held [] ({ world := w } : LoggedWorld).log := held_nil
  exact ⟨performAll_calls _ calls, start.performAll rfl calls⟩

end Log

end QuerySieve
