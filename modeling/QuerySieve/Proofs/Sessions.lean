-- The laws of sessions. A command line that gets to a verb first sets the loggers up, and the
-- settings are kept from then on; only then are the words after the verb looked at, and the task
-- that they make up is done. Nothing is written to the output before that.
import QuerySieve.Command.Run
import QuerySieve.Proofs.Gives

namespace QuerySieve

/-- The attempt comes to a result and writes no record. -/
def Attempt.Silent {α : Type} (a : Attempt α) (r : Except Trouble α) : Prop :=
  ∀ j, a.run j = (r, j)

theorem Attempt.Silent.comesTo {α : Type} {a : Attempt α} {r : Except Trouble α}
    (h : a.Silent r) : a.ComesTo r := fun j => congrArg Prod.fst (h j)

namespace Command

/-! ## Steps of a session -/

namespace Session

/-- A line as it comes out among the errors. -/
def errorLine (t : Text) : Text := (Style.drop t ++ "\n").flatMap Step.escapeSurrogate

/-- The session after a line was written to the errors. -/
def warned (s : Session) (t : Text) : Session := { s with errors := s.errors ++ errorLine t }

/-- The session after what is wrong with the words of a scope was told. -/
def refused (s : Session) (scope : Scope) (f : Fault) : Session :=
  let told := if f.showsUsage then
    s.warned (scope.usage ++ "Try '" ++ scope.path ++ " --help' for help.\n") else s
  told.warned ("Error: " ++ f.message)

end Session

/-- A step with a state that may end early goes on from the state that it leaves. -/
theorem run_bind {ε σ α β : Type} (step : ExceptT ε (StateM σ) α)
    (next : α → ExceptT ε (StateM σ) β) (s : σ) :
    (step >>= next).run s = match step.run s with
      | (.ok a, s') => (next a).run s'
      | (.error e, s') => (.error e, s') := by
  change ExceptT.bindCont next (step.run s).1 (step.run s).2 = _
  rcases step.run s with ⟨e | a, s'⟩
  · rfl
  · rfl

namespace Step

variable {α β : Type} {s s' s'' : Session}

/-- A step that is taken in one session ends so and leaves the other. -/
def Ends (step : Step α) (s : Session) (r : Except Ending α) (s' : Session) : Prop :=
  step.run s = (r, s')

namespace Ends

theorem pure (a : α) : Ends (pure a) s (.ok a) s := rfl

theorem get : Ends get s (.ok s) s := rfl

theorem modify (change : Session → Session) : Ends (modify change) s (.ok ()) (change s) := rfl

theorem exit (n : Nat) : Ends (exit n : Step α) s (.error (.code n)) s := rfl

theorem warn (t : Text) : Ends (warn t) s (.ok ()) (s.warned t) := rfl

theorem bind {step : Step α} {next : α → Step β} {a : α} {r : Except Ending β}
    (hs : step.Ends s (.ok a) s') (hn : (next a).Ends s' r s'') :
    (step >>= next).Ends s r s'' := by
  rw [Ends, run_bind, hs]
  exact hn

theorem stop {step : Step α} {next : α → Step β} {e : Ending}
    (hs : step.Ends s (.error e) s') : (step >>= next).Ends s (.error e) s' := by
  rw [Ends, run_bind, hs]

/-- Steps that end well one after the other have a session between them. -/
theorem of_bind {step : Step α} {next : α → Step β} {b : β}
    (h : (step >>= next).Ends s (.ok b) s'') :
    ∃ a s', step.Ends s (.ok a) s' ∧ (next a).Ends s' (.ok b) s'' := by
  rw [Ends, run_bind] at h
  rcases hs : step.run s with ⟨e | a, s'⟩
  · rw [hs] at h
    cases h
  · rw [hs] at h
    exact ⟨a, s', hs, h⟩

end Ends

/-- An attempt without records leaves the session as it was. -/
theorem perform_of_silent {a : Attempt α} {r : Except Trouble α} (h : a.Silent r) (s : Session) :
    (perform a).Ends s (.ok r) s := by
  change (Except.ok (a.run (Journal.empty .debug)).1,
    (a.run (Journal.empty .debug)).2.records.foldl deliver s) = _
  rw [h]
  rfl

theorem require_of_silent {a : Attempt α} {x : α} (h : a.Silent (.ok x)) (s : Session) :
    (require a).Ends s (.ok x) s := .bind (perform_of_silent h s) (.pure x)

/-- Records go to log files and to the errors. -/
theorem foldl_deliver_keeps (records : Array Record) (s : Session) :
    (records.foldl deliver s).output = s.output ∧
      (records.foldl deliver s).settings = s.settings := by
  rw [← Array.foldl_toList]
  induction records.toList generalizing s with
  | nil => exact ⟨rfl, rfl⟩
  | cons r rs ih => exact ih (deliver s r)

theorem require_keeps {a : Attempt α} {x : α} (h : (require a).Ends s (.ok x) s') :
    s'.output = s.output ∧ s'.settings = s.settings := by
  obtain ⟨r, middle, hperform, hrest⟩ := Ends.of_bind h
  have hmiddle : middle = (a.run (Journal.empty .debug)).2.records.foldl deliver s :=
    (congrArg Prod.snd hperform).symm
  cases r with
  | error t => cases hrest
  | ok y =>
    cases hrest
    rw [hmiddle]
    exact foldl_deliver_keeps _ s

/-- Loggers are set up as far as their step goes, also where it ends the session. -/
theorem logging_ends (step : Logging Unit) (s : Session) :
    (logging step).Ends s ((step.run s.site).1.mapError fun e => .broken (.stray (.path e)))
      { s with site := (step.run s.site).2 } := by
  apply Ends.bind .get
  rcases hstep : step.run s.site with ⟨result, site⟩
  cases result with
  | error e => rfl
  | ok _ => rfl

theorem logging_keeps {step : Logging Unit} (h : (logging step).Ends s (.ok ()) s') :
    s'.output = s.output ∧ s'.settings = s.settings := by
  have left : s' = _ := (congrArg Prod.snd h).symm.trans (congrArg Prod.snd (logging_ends step s))
  rw [left]
  exact ⟨rfl, rfl⟩

end Step

/-! ## Starting -/

/-- Once the loggers are set up, the settings are kept and nothing was written to the output. -/
theorem startLog_keeps {level : Text} {s s' : Session} (h : (startLog level).Ends s (.ok ()) s') :
    s'.output = s.output ∧ ∃ kept, s'.settings = some kept := by
  obtain ⟨kept, middle, hsettings, hlogging⟩ := Step.Ends.of_bind h
  obtain ⟨s₀, middle₀, hget, hrest⟩ := Step.Ends.of_bind hsettings
  cases hget
  obtain ⟨_, middle₁, hrequire, hrest⟩ := Step.Ends.of_bind hrest
  cases hrest
  obtain ⟨houtput, hkept⟩ := Step.logging_keeps hlogging
  exact ⟨houtput.trans (Step.require_keeps hrequire).1, kept, hkept⟩

/-! ## Outcomes -/

/-- The outcome of a session that ended so. -/
def Session.outcome (s : Session) (r : Except Ending Unit) : Outcome where
  code := match r with
    | .ok () => 0
    | .error (.code n) => n
    | .error (.broken _) => 1
  output := s.output
  errors := s.errors
  trouble := match r with
    | .error (.broken t) => some t
    | _ => none
  world := s.site.world

theorem run_of_ends {w : World} {stamp : Stamp} {words : List Text} {r : Except Ending Unit}
    {s : Session} (h : (program words).Ends { site := { world := w }, stamp } r s) :
    run w stamp words = s.outcome r := by
  unfold run
  rw [h]
  rcases r with (n | t) | _
  · rfl
  · rfl
  · rfl

/-! ## Lines -/

/-- A command line that gets to a verb: the switches of the program before it ask for no page and
not for the version, and the words after it can be taken apart. -/
structure Line where
  words : List Text
  /-- The switches of the program, and then the verb with its words. -/
  outer : Gathered
  verb : Verb
  rest : List Text
  /-- The switches and operands of the verb. -/
  inner : Gathered
  gathers : Scope.program.gather words = .ok outer
  noPage : (outer.given.find? fun x => x.1 = .help || x.1 = .version) = none
  operands : outer.operands = verb.name :: rest
  innerGathers : (Scope.verb verb).gather rest = .ok inner

namespace Line

/-- The level that is given, if one is. -/
def level (l : Line) : Text := (l.outer.value? .logLevel).getD []

/-- The task that the words make up in a world. -/
def task (l : Line) (w : World) : Except Stop Task := l.verb.task w l.inner

/-- The session in which the words after the verb are looked at. -/
def Starts (l : Line) (w : World) (stamp : Stamp) (s : Session) : Prop :=
  (startLog l.level).Ends { site := { world := w }, stamp } (.ok ()) s

variable {l : Line} {w : World} {stamp : Stamp} {s s' : Session}

theorem ofName?_name (v : Verb) : Verb.ofName? v.name = some v := by
  cases v with
  | apply => decide
  | check => decide
  | show_ => decide

theorem words_ne_nil (l : Line) : l.words ≠ [] := by
  intro none
  have gathers := l.gathers
  have operands := l.operands
  rw [none] at gathers
  have outer : l.outer = {} := (Except.ok.inj gathers).symm
  rw [outer] at operands
  cases operands

/-- Neither a page nor the version is asked for, so reading the switches of the program changes
nothing. -/
theorem readProgram_ends (l : Line) (s : Session) :
    (readProgram l.words).Ends s (.ok l.outer) s := by
  unfold readProgram
  rw [l.gathers]
  simp only [l.noPage]
  exact .pure l.outer

theorem program_ends {r : Except Ending Unit} (starts : l.Starts w stamp s)
    (h : (runVerb l.verb l.rest).Ends s r s') :
    (program l.words).Ends { site := { world := w }, stamp } r s' := by
  unfold program
  rw [if_neg (by simpa using l.words_ne_nil)]
  apply Step.Ends.bind (l.readProgram_ends _)
  rw [l.operands]
  simp only [ofName?_name]
  exact .bind starts h

/-- The words after the verb make up a task, which is done. -/
theorem runVerb_of_task {t : Task} {r : Except Ending Unit}
    (makes : l.task s.site.world = .ok t) (h : t.run.Ends s r s') :
    (runVerb l.verb l.rest).Ends s r s' := by
  unfold runVerb
  rw [l.innerGathers]
  unfold task at makes
  apply Step.Ends.bind .get
  simp only [makes]
  exact h

/-- What is wrong with the words is told, and the code is two. -/
theorem refuse_ends {α : Type} (scope : Scope) (f : Fault) (s : Session) :
    (refuse scope f : Step α).Ends s (.error (.code 2)) (s.refused scope f) := by
  unfold refuse Session.refused
  split
  · exact .bind (.warn _) (.bind (.warn _) (.exit 2))
  · exact .bind (.warn _) (.exit 2)

theorem runVerb_of_fault {f : Fault} (faulty : l.task s.site.world = .error (.fault f)) :
    (runVerb l.verb l.rest).Ends s (.error (.code 2)) (s.refused (.verb l.verb) f) := by
  unfold runVerb
  rw [l.innerGathers]
  unfold task at faulty
  apply Step.Ends.bind .get
  simp only [faulty]
  exact refuse_ends _ f s

/-- The outcome of a line that ends with a code. Its output is still empty if nothing was written
after the start. -/
theorem run_of_code {n : Nat} (starts : l.Starts w stamp s)
    (h : (runVerb l.verb l.rest).Ends s (.error (.code n)) s') :
    Command.run w stamp l.words =
      { code := n, output := s'.output, errors := s'.errors, trouble := none,
        world := s'.site.world } := run_of_ends (program_ends starts h)

theorem Starts.output_eq (starts : l.Starts w stamp s) : s.output = [] := (startLog_keeps starts).1

end Line

end Command

end QuerySieve
