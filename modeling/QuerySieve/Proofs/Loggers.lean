-- The laws of what the loggers have no say in. A step ends in the same way and writes the same to the
-- output in all sessions with the same world and the same settings, and at whatever level the loggers
-- are set up, this leaves the same world. So the level that is given never counts for more than records.
import QuerySieve.Proofs.Outputs

namespace QuerySieve.Command

/-! ## Steps that the session has no say in -/

namespace Step

variable {α β : Type}

/-- The step ends in the same way and writes the same, in all sessions of a kind. -/
def Fixed (here : Session → Prop) (step : Step α) : Prop :=
  ∃ r said, ∀ s, here s → step.Prints s r said

/-- Any session. -/
def Anywhere : Session → Prop := fun _ => True

namespace Fixed

variable {here : Session → Prop}

theorem of_prints {step : Step α} {r : Except Ending α} {said : Text}
    (h : ∀ s, step.Prints s r said) : Fixed here step := ⟨r, said, fun s _ => h s⟩

theorem bind {step : Step α} {next : α → Step β} (hs : Fixed here step)
    (hn : ∀ a, Fixed Anywhere (next a)) : Fixed here (step >>= next) := by
  obtain ⟨r, said, prints⟩ := hs
  cases r with
  | error e => exact ⟨.error e, said, fun s hs => .stop (prints s hs)⟩
  | ok a =>
    obtain ⟨r, more, hmore⟩ := hn a
    exact ⟨r, said ++ more, fun s hs => .bind (prints s hs) fun s' => hmore s' trivial⟩

/-- A step that changes nothing goes first. -/
theorem after {step : Step α} {next : α → Step β} {a : α}
    (hs : ∀ s, here s → step.Ends s (.ok a) s) (hn : Fixed here (next a)) :
    Fixed here (step >>= next) := by
  obtain ⟨r, said, prints⟩ := hn
  exact ⟨r, said, fun s h => .after (hs s h) rfl (prints s h)⟩

/-- A step that only looks at the session. -/
theorem look {step : Step α} {next : Session → Step α} (h : Fixed here step)
    (same : ∀ s, here s → next s = step) : Fixed here (get >>= next) := by
  obtain ⟨r, said, prints⟩ := h
  refine ⟨r, said, fun s hs => .after .get rfl ?_⟩
  rw [same s hs]
  exact prints s hs

theorem exit (n : Nat) : Fixed here (exit n : Step α) := .of_prints (.exit n)

theorem break_ (t : Trouble) : Fixed here (break_ t : Step α) := .of_prints (.break_ t)

theorem warn (t : Text) : Fixed here (warn t) := .of_prints fun _ => .of_ends (.warn t) rfl

theorem write (t : Text) : Fixed here (write t) := by
  cases hencode : (Style.drop t).encode with
  | ok b => exact .of_prints (.write (Text.encode_eq_ok_iff.mp hencode).1)
  | error e =>
    refine ⟨.error (.broken (.stray (.unencodable e))), [], fun s _ => ?_⟩
    unfold Step.write
    simp only [hencode]
    exact .break_ _ s

theorem say (t : Text) : Fixed here (say t) := write _

theorem perform (a : Attempt α) : Fixed here (perform a) :=
  ⟨_, [], fun s _ => .of_ends (perform_runs a s) (told_output a s)⟩

theorem require (a : Attempt α) : Fixed here (require a) := by
  apply bind (perform a)
  intro r
  cases r with
  | error t => exact break_ t
  | ok x => exact .of_prints (.pure x)

end Fixed

end Step

/-! ## What the loggers have no say in -/

/-- A session in a world that keeps settings. -/
structure Session.In (w : World) (kept : Settings) (s : Session) : Prop where
  world : s.site.world = w
  settings : s.settings = some kept

section

variable {w : World} {kept : Settings}

open Step (Fixed Anywhere)

theorem loadRules_fixed (p : Path) : Fixed (Session.In w kept) (loadRules p) := by
  obtain ⟨r, comes, -⟩ := Registry.ofFile_comesTo w p
  have loads : ∀ s : Session, s.In w kept → (Registry.ofFile s.site.world p).ComesTo r := by
    intro s here
    rw [here.world]
    exact comes
  rcases r with (f | e) | r
  · refine ⟨.error (.code 1), [], fun s here => ?_⟩
    have output := Step.told_output (Registry.ofFile s.site.world p) s
    exact .of_ends (loadRules_of_failure (loads s here)) ((Session.failed_output _ _ _).trans output)
  · refine ⟨.error (.broken (.stray e)), [], fun s here => ?_⟩
    exact .of_ends (loadRules_of_stray (loads s here)) (Step.told_output (Registry.ofFile _ p) s)
  · exact ⟨.ok r, [], fun s here => loadRules_prints (loads s here)⟩

/-- The rules file comes from the words or from the settings, and then it is loaded. -/
theorem rules_fixed {β : Type} {next : Path → Registry → Step β} (rules : Option Text)
    (h : ∀ p r, Fixed Anywhere (next p r)) :
    Fixed (Session.In w kept) (rulesPath rules >>= fun p => loadRules p >>= next p) := by
  cases rules with
  | some t => exact .after (fun s _ => .pure (Path.ofText t)) (.bind (loadRules_fixed _) (h _))
  | none =>
    have hsettings : ∀ s, s.In w kept → settings.Ends s (.ok kept) s :=
      fun s here => settings_ends here.settings
    cases config : kept.configFile with
    | some p =>
      refine .after (a := p) ?_ (.bind (loadRules_fixed p) (h p))
      exact fun s here => rulesPath_ends (.settings here.settings config)
    | none =>
      refine ⟨.error (.code 1), [], fun s here => .stop ?_⟩
      apply Step.Prints.after (hsettings s here) rfl
      simp only [config]
      exact .after (.warn _) rfl (.after (.warn _) rfl (.exit 1 _))

theorem Task.run_fixed (t : Task) : Fixed (Session.In w kept) t.run := by
  cases t with
  | check rules =>
    apply rules_fixed rules
    exact fun p r => .bind (.say _) fun _ => .say _
  | apply name query rules =>
    apply rules_fixed rules
    intro p r
    have hencoded : Fixed Anywhere (encoded query) := by
      unfold encoded
      split
      · exact .of_prints (.pure _)
      · exact .break_ _
    refine .bind hencoded fun b => .bind (.require _) fun e => ?_
    cases e with
    | some e => exact .say _
    | none => exact .bind (.warn _) fun _ => .exit 1
  | show_ rules layout =>
    apply rules_fixed rules
    intro p r
    cases layout with
    | json => exact .say _
    | text => exact .say _

theorem refuse_fixed {α : Type} {here : Session → Prop} (scope : Scope) (f : Fault) :
    Fixed here (refuse scope f : Step α) := .of_prints (refuse_prints scope f)

theorem showPage_fixed {α : Type} {here : Session → Prop} (scope : Scope) :
    Fixed here (showPage scope : Step α) := .bind (.write _) fun _ => .exit 0

theorem runVerb_fixed (v : Verb) (words : List Text) :
    Fixed (Session.In w kept) (runVerb v words) := by
  unfold runVerb
  cases (Scope.verb v).gather words with
  | error f => exact refuse_fixed _ f
  | ok g =>
    rcases htask : v.task w g with (_ | f | e) | t
    · apply Fixed.look (showPage_fixed (.verb v))
      exact fun s here => by simp only [here.world, htask]
    · apply Fixed.look (refuse_fixed (.verb v) f)
      exact fun s here => by simp only [here.world, htask]
    · apply Fixed.look (.break_ (.stray (.path e)))
      exact fun s here => by simp only [here.world, htask]
    · apply Fixed.look t.run_fixed
      exact fun s here => by simp only [here.world, htask]

end

/-! ## Starting -/

/-- Two steps of logging come to the same and leave the same world, in worlds that are the same. The
loggers may differ. -/
def Alike {α : Type} (step step' : Logging α) : Prop :=
  ∀ site site' : LoggedWorld, site.world = site'.world →
    (step.run site).1 = (step'.run site').1 ∧
      (step.run site).2.world = (step'.run site').2.world

namespace Alike

variable {α β : Type}

theorem pure (a : α) : Alike (pure a) (pure a) := fun _ _ same => ⟨rfl, same⟩

theorem throw (e : PathError) : Alike (throw e : Logging α) (throw e) := fun _ _ same => ⟨rfl, same⟩

theorem bind {step step' : Logging α} {next next' : α → Logging β} (hs : Alike step step')
    (hn : ∀ a, Alike (next a) (next' a)) : Alike (step >>= next) (step' >>= next') := by
  intro site site' same
  obtain ⟨result, after⟩ := hs site site' same
  rw [run_bind, run_bind]
  rcases hrun : step.run site with ⟨e | a, left⟩
  · rcases hrun' : step'.run site' with ⟨e' | a', left'⟩
    · rw [hrun, hrun'] at result after
      cases result
      exact ⟨rfl, after⟩
    · rw [hrun, hrun'] at result
      cases result
  · rcases hrun' : step'.run site' with ⟨e' | a', left'⟩
    · rw [hrun, hrun'] at result
      cases result
    · rw [hrun, hrun'] at result after
      cases result
      exact hn a _ _ after

/-- What goes on from the state may look at the world. -/
theorem get {next next' : LoggedWorld → Logging β}
    (hn : ∀ site site', site.world = site'.world → Alike (next site) (next' site')) :
    Alike (get >>= next) (get >>= next') := by
  intro site site' same
  exact hn site site' same site site' same

/-- Loggers may be changed in different ways. -/
theorem modify {change change' : LoggedWorld → LoggedWorld}
    (keeps : ∀ site, (change site).world = site.world)
    (keeps' : ∀ site, (change' site).world = site.world) :
    Alike (modify change : Logging Unit) (modify change') :=
  fun site site' same => ⟨rfl, (keeps site).trans (same.trans (keeps' site').symm)⟩

theorem onWorld (change : World → Except PathError World) :
    Alike (Log.onWorld change) (Log.onWorld change) := by
  unfold Log.onWorld
  apply get
  intro site site' same
  rw [same]
  cases change site'.world with
  | error e => exact throw e
  | ok world => exact fun _ _ _ => ⟨rfl, rfl⟩

theorem openFile (directory : Path) (name : Text) :
    Alike (Log.openFile directory name) (Log.openFile directory name) := by
  unfold Log.openFile
  refine .bind (.onWorld _) fun _ => ?_
  apply get
  intro site site' same
  rw [same]
  exact .bind (.onWorld _) fun _ => .pure _

/-- The level of a logger has no say in whether it can be set up. -/
theorem setUp (s : LogSetup) (level : Text) : Alike (Log.setUp s) (Log.setUp { s with level }) := by
  unfold Log.setUp
  refine .bind (.modify (fun _ => rfl) fun _ => rfl) fun _ => ?_
  cases s.directory with
  | none => exact .pure ()
  | some directory =>
    by_cases file : s.file = true
    · simp only [file, if_true]
      exact .bind (.openFile _ _) fun _ => .modify (fun _ => rfl) fun _ => rfl
    · simp only [file]
      exact .pure ()

end Alike

/-- At whatever level a logger is obtained, it comes to the same and leaves the same world. -/
theorem obtain_alike (name level level' : Text) (directory : Option Path) (site : LoggedWorld) :
    ((Log.obtain name level directory).run site).1 =
        ((Log.obtain name level' directory).run site).1 ∧
      ((Log.obtain name level directory).run site).2.world =
        ((Log.obtain name level' directory).run site).2.world := by
  unfold Log.obtain
  rw [run_bind, run_bind]
  change ((ite _ _ _ : Logging Unit).run site).1 = ((ite _ _ _ : Logging Unit).run site).1 ∧
    ((ite _ _ _ : Logging Unit).run site).2.world = ((ite _ _ _ : Logging Unit).run site).2.world
  split
  · -- The logger is there, and only its own level changes.
    have adjusts : ∀ (level : Text) (log : Log),
        ((unless level.isEmpty do set { site with log } : Logging Unit).run site).1 = .ok () ∧
          ((unless level.isEmpty do set { site with log } : Logging Unit).run site).2.world =
            site.world := by
      intro level log
      cases level.isEmpty with
      | true => exact ⟨rfl, rfl⟩
      | false => exact ⟨rfl, rfl⟩
    obtain ⟨result, world⟩ := adjusts level (site.log.setLevel name (Log.parseLevel level))
    obtain ⟨result', world'⟩ := adjusts level' (site.log.setLevel name (Log.parseLevel level'))
    exact ⟨result.trans result'.symm, world.trans world'.symm⟩
  · have setUp := Alike.setUp {
      name, directory
      level := if level.isEmpty then Log.defaultLevel site.world else level
      file := Log.allowsFiles site.world }
    refine Alike.bind (setUp _) (fun _ => ?_) site site rfl
    exact .modify (fun _ => rfl) fun _ => rfl

/-- How setting the loggers up ends, and the world and the settings of the session after it, are the
same whatever level is given. -/
theorem startLog_alike (s : Session) :
    ∃ r w kept, ∀ level, ∃ s', (startLog level).Ends s r s' ∧ s'.output = s.output ∧
      (r = .ok () → s'.In w kept) := by
  have performs := Step.perform_runs (Settings.get s.site.world s.settings) s
  have houtput := Step.told_output (Settings.get s.site.world s.settings) s
  rcases hget : ((Settings.get s.site.world s.settings).run (Journal.empty .debug)).1 with t | kept
  · rw [hget] at performs
    have stops : settings.Ends s (.error (.broken t)) (Step.told _ s) :=
      .bind .get (.stop (.bind performs rfl))
    exact ⟨.error (.broken t), s.site.world, {}, fun level => ⟨_, .stop stops, houtput, nofun⟩⟩
  · rw [hget] at performs
    let after : Session :=
      { Step.told (Settings.get s.site.world s.settings) s with settings := some kept }
    have keeps : settings.Ends s (.ok kept) after :=
      .bind .get (.bind (.bind performs (.pure kept)) (.bind (.modify _) (.pure kept)))
    let directory := if kept.fileLogging then kept.logDir else none
    let usual := (Log.obtain "argsfilter" [] directory).run after.site
    refine ⟨usual.1.mapError fun e => .broken (.stray (.path e)), usual.2.world, kept, ?_⟩
    intro level
    let given := if level.isEmpty then kept.logLevel.name else level
    have logs := Step.logging_ends (Log.obtain "argsfilter" given directory) after
    obtain ⟨result, world⟩ := obtain_alike "argsfilter" given [] directory after.site
    rw [result] at logs
    exact ⟨_, .bind keeps logs, houtput, fun _ => ⟨world, rfl⟩⟩

/-! ## Sessions without log files -/

namespace Session

/-- All loggers write to the console. -/
def Quiet (s : Session) : Prop :=
  ∀ logger ∈ s.site.log.loggers, ∀ o ∈ logger.2.outlets, ∃ least, o = .console least

theorem mem_outletsOf {log : Log} {name : Text} {o : Outlet} (h : o ∈ log.outletsOf name) :
    ∃ logger ∈ log.loggers, o ∈ logger.2.outlets := by
  obtain ⟨n, -, ho⟩ := List.mem_flatMap.mp h
  cases hfind : log.find? n with
  | none =>
    rw [hfind] at ho
    cases ho
  | some logger =>
    rw [hfind] at ho
    exact ⟨_, Pairs.mem_of_find? hfind, ho⟩

theorem foldl_hand_world {outlets : List Outlet} (h : ∀ o ∈ outlets, ∃ least, o = .console least)
    (stamp : Stamp) (r : Record) (sofar : World × Text) :
    (outlets.foldl (Log.hand stamp r) sofar).1 = sofar.1 := by
  induction outlets generalizing sofar with
  | nil => rfl
  | cons o outlets ih =>
    obtain ⟨⟨least, rfl⟩, rest⟩ := List.forall_mem_cons.mp h
    exact ih rest _

variable {s : Session}

theorem Quiet.deliver_world (quiet : s.Quiet) (r : Record) :
    (s.site.log.deliver s.stamp s.site.world r).1 = s.site.world := by
  have consoles : ∀ o ∈ s.site.log.outletsOf r.source, ∃ least, o = .console least := by
    intro o ho
    obtain ⟨logger, hlogger, ho⟩ := mem_outletsOf ho
    exact quiet logger hlogger o ho
  unfold Log.deliver
  split
  · rfl
  · split
    · rfl
    · apply foldl_hand_world
      exact fun o ho => consoles o (List.mem_filter.mp ho).1

/-- A record changes neither the world nor the loggers. -/
theorem Quiet.deliver_site (quiet : s.Quiet) (r : Record) : (Step.deliver s r).site = s.site := by
  change { s.site with world := (s.site.log.deliver s.stamp s.site.world r).1 } = s.site
  rw [quiet.deliver_world]

theorem Quiet.told_site {α : Type} (quiet : s.Quiet) (a : Attempt α) :
    (Step.told a s).site = s.site := by
  unfold Step.told
  rw [← Array.foldl_toList]
  generalize (a.run (Journal.empty .debug)).2.records.toList = records
  induction records generalizing s with
  | nil => rfl
  | cons r records ih =>
    have same := quiet.deliver_site r
    have quiet' : (Step.deliver s r).Quiet := by
      unfold Quiet
      rw [same]
      exact quiet
    rw [List.foldl_cons, ih quiet', same]

end Session

theorem obtain_console (name level : Text) (w : World) :
    ∃ least, (Log.obtain name level none).run { world := w } = (.ok (), {
      world := w
      log := { loggers := [(Log.key name, ⟨least, [.console least]⟩)], kept := [name] } }) :=
  ⟨_, rfl⟩

/-- With the default settings a command line starts in the world as it is, without log files. -/
theorem startLog_of_default {w : World} (h : (Settings.load w none).ComesTo (.ok {}))
    (stamp : Stamp) (level : Text) :
    ∃ s, (startLog level).Ends { site := { world := w }, stamp } (.ok ()) s ∧
      s.site.world = w ∧ s.output = [] ∧ s.Quiet := by
  let start : Session := { site := { world := w }, stamp }
  have quiet : start.Quiet := by
    intro logger hlogger
    cases hlogger
  have performs := Step.perform_ends h start
  have hsite := quiet.told_site (Settings.load w none)
  have houtput := Step.told_output (Settings.load w none) start
  let after : Session := { Step.told (Settings.load w none) start with settings := some {} }
  have keeps : settings.Ends start (.ok {}) after :=
    .bind .get (.bind (.bind performs (.pure _)) (.bind (.modify _) (.pure _)))
  have site : after.site = { world := w } := hsite
  let given := if level.isEmpty then Level.info.name else level
  have logs := Step.logging_ends (Log.obtain "argsfilter" given none) after
  obtain ⟨least, runs⟩ := obtain_console "argsfilter" given w
  rw [site, runs] at logs
  refine ⟨_, .bind keeps logs, rfl, houtput, ?_⟩
  intro logger hlogger o ho
  rw [List.mem_singleton.mp hlogger, List.mem_singleton] at ho
  exact ⟨least, ho⟩

end QuerySieve.Command
