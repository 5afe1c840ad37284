-- The laws of rules files that cannot be read. What the system refuses and what the reader of
-- documents complains about are failures of the file, with its path. A command that is given such a
-- file ends the configuration test with this failure, unless the path was named on the command line
-- and nothing that can be read stands there: then the line itself is refused.
import Mathlib
import QuerySieve.Proofs.Sessions

namespace QuerySieve

/-! ## Files without a document -/

/-- The failure for a rules file that gives no document: the system refuses its path, or its
content has a flaw that the reader of documents complains about. -/
inductive Registry.Unread (w : World) (p : Path) : Failure → Prop
  | refused {r : Refusal} {path : Text} (refuses : w.read p = .error (.refused r path)) :
      Unread w p (cannotRead p.shown (.refused r path))
  | complaint {content : Bytes} {c : Yaml.Complaint} (reads : w.read p = .ok content)
      (complains : Yaml.Node.plainDocument (.ofBytes content) = .error (.complaint c)) :
      Unread w p (unreadable (" file " ++ p.shown) (some p.shown) ⟨p.shown, none⟩ c)

namespace Registry

variable {w : World} {p : Path} {f : Failure}

theorem Unread.kind_eq (h : Unread w p f) : f.kind = .file (some p.shown) := by
  cases h with
  | refused => rfl
  | complaint => rfl

/-- Nothing is recorded before the failure. -/
theorem ofFile_of_unread (h : Unread w p f) : (ofFile w p).Silent (.error (.failure f)) := by
  intro j
  unfold ofFile contentOf
  cases h with
  | refused refuses =>
    rw [refuses]
    rfl
  | complaint reads complains =>
    simp only [reads, pure_bind, complains]
    rfl

end Registry

/-! ## Looking and reading -/

namespace World

variable {w : World} {p : Path}

/-- What a path is wanted for has a say only where the system cannot be asked about it, or where
something is to be made. -/
theorem locate_cases (w : World) (p : Path) :
    (∃ q, ∀ use, w.locate use p = .ok (q, w.entry? q)) ∨
    (∃ r, ∀ use, use ≠ .make → w.locate use p = .error (.refused r p.shown)) ∨
    ∀ use, ∃ e, w.locate use p = .error e ∧ ∀ r path, e ≠ .refused r path := by
  unfold locate ensureAskable
  cases p.shown.firstUnescaped? with
  | some e => exact Or.inr (Or.inr fun use => ⟨_, rfl, by simp⟩)
  | none =>
    by_cases zero : p.shown.contains (CodePoint.ofNat 0) = true
    · simp only [if_pos zero]
      exact Or.inr (Or.inr fun use => ⟨_, rfl, by simp⟩)
    simp only [if_neg zero]
    cases p.shown.encode with
    | error e =>
      refine Or.inr (Or.inl ⟨.missing, fun use other => ?_⟩)
      cases use with
      | make => exact absurd rfl other
      | _ => rfl
    | ok octets =>
      cases w.resolve p with
      | error r => exact Or.inr (Or.inl ⟨r, fun _ _ => rfl⟩)
      | ok q => exact Or.inl ⟨q, fun _ => rfl⟩

/-- Where reading is refused, looking is refused too or finds a directory. -/
theorem look_of_read_refused {r : Refusal} {path : Text}
    (h : w.read p = .error (.refused r path)) :
    w.look p = .ok .directory ∨ ∃ r path, w.look p = .error (.refused r path) := by
  unfold read at h
  unfold look
  rcases locate_cases w p with ⟨q, found⟩ | ⟨r', refused⟩ | unaskable
  · rw [found] at h ⊢
    cases hentry : w.entry? q with
    | none => exact Or.inr ⟨.missing, p.shown, rfl⟩
    | some entry =>
      rw [hentry] at h
      cases entry with
      | directory => exact Or.inl rfl
      | file content => cases h
  · rw [refused .look (by simp)]
    exact Or.inr ⟨r', p.shown, rfl⟩
  · obtain ⟨e, he, other⟩ := unaskable .read
    rw [he] at h
    exact absurd (Except.error.inj h) (other r path)

end World

namespace Command

/-! ## Tasks on such files -/

/-- The rules file of a task: the one that is named, or else the one of the settings. -/
inductive Session.Rules (s : Session) : Option Text → Path → Prop
  | named (t : Text) : Rules s (some t) (Path.ofText t)
  | settings {kept : Settings} {p : Path} (keeps : s.settings = some kept)
      (config : kept.configFile = some p) : Rules s none p

/-- The rules file that a task names. -/
def Task.rules : Task → Option Text
  | .check rules => rules
  | .apply _ _ rules => rules
  | .show_ rules _ => rules

/-- The session after a configuration test that a failure ended. -/
def Session.failed (s : Session) (p : Path) (f : Failure) : Session :=
  (s.warned ("[-] " ++ f.message)).warned ("configuration file " ++ p.shown ++ " test failed")

section

variable {s : Session} {p : Path} {f : Failure}

theorem settings_ends {kept : Settings} (keeps : s.settings = some kept) :
    settings.Ends s (.ok kept) s := by
  have silent : (Settings.get s.site.world s.settings).Silent (.ok kept) := by
    rw [keeps]
    exact fun _ => rfl
  have hset : { s with settings := some kept } = s := by rw [← keeps]
  apply Step.Ends.bind .get
  apply Step.Ends.bind (Step.require_of_silent silent s)
  apply Step.Ends.bind (.modify _)
  rw [hset]
  exact .pure kept

theorem rulesPath_ends {named : Option Text} (h : s.Rules named p) :
    (rulesPath named).Ends s (.ok p) s := by
  cases h with
  | named t => exact .pure _
  | settings keeps config =>
    apply Step.Ends.bind (settings_ends keeps)
    simp only [config]
    exact .pure p

theorem loadRules_of_unread (h : Registry.Unread s.site.world p f) :
    (loadRules p).Ends s (.error (.code 1)) (s.failed p f) := by
  apply Step.Ends.bind .get
  apply Step.Ends.bind (Step.perform_of_silent (Registry.ofFile_of_unread h) s)
  exact .bind (.warn _) (.bind (.warn _) (.exit 1))

/-- Every task loads its rules file before anything else. -/
theorem Task.run_of_unread {t : Task} (rules : s.Rules t.rules p)
    (h : Registry.Unread s.site.world p f) :
    t.run.Ends s (.error (.code 1)) (s.failed p f) := by
  have hpath := rulesPath_ends rules
  have hload := loadRules_of_unread h
  cases t with
  | check named => exact .bind hpath (.stop hload)
  | apply name query named => exact .bind hpath (.stop hload)
  | show_ named layout => exact .bind hpath (.stop hload)

end

/-! ## Paths on the command line -/

/-- Nothing that can be read is seen at a path as it is written, for a reason that is told. -/
inductive Unseen (w : World) (t : Text) : Text → Prop
  | missing {r : Refusal} {path : Text} (refuses : lookAt w t = .error (.refused r path)) :
      Unseen w t ("File " ++ t.quoted ++ " does not exist.")
  | directory (finds : lookAt w t = .ok .directory) :
      Unseen w t ("File " ++ t.quoted ++ " is a directory.")

/-- The names that a rules file has in the words of a verb. -/
def Verb.rulesNames : Verb → List Text
  | .apply => Switch.config.names
  | .check | .show_ => configNames

/-- The rules file that the words of a verb name. -/
def Verb.named? (v : Verb) (g : Gathered) : Option Text :=
  match v with
  | .apply => g.value? .config
  | .check | .show_ => g.operands.head?

section

variable {w : World} {t why : Text}

theorem ensureFile_of_unseen (h : Unseen w t why) (names : List Text) :
    ensureFile w names t = .error (.fault (.unusable names why)) := by
  unfold ensureFile
  cases h with
  | missing refuses => simp only [refuses]
  | directory finds => simp only [finds]

/-- Where the system refuses to read, nothing that can be read is seen. -/
theorem exists_unseen_of_refused {r : Refusal} {path : Text}
    (h : w.read (Path.ofText t) = .error (.refused r path)) : ∃ why, Unseen w t why := by
  have hlook : lookAt w t = .ok .directory ∨ ∃ r path, lookAt w t = .error (.refused r path) := by
    unfold lookAt
    split
    · exact Or.inr ⟨_, _, rfl⟩
    · split
      · exact Or.inr ⟨_, _, rfl⟩
      · rcases World.look_of_read_refused h with directory | ⟨r, path, refused⟩
        · rw [directory]
          exact Or.inl rfl
        · rw [refused]
          exact Or.inr ⟨r, path, rfl⟩
  rcases hlook with directory | ⟨r, path, refused⟩
  · exact ⟨_, .directory directory⟩
  · exact ⟨_, .missing refused⟩

/-- The rules file that is named is looked at before it is loaded. -/
theorem task_of_unseen {v : Verb} {g : Gathered} (noHelp : g.has .help = false)
    (layout : v = .show_ → ∃ layout, readLayout (g.value? .output) = .ok layout)
    (named : v.named? g = some t) (h : Unseen w t why) :
    v.task w g = .error (.fault (.unusable v.rulesNames why)) := by
  unfold Verb.task
  rw [noHelp]
  cases v with
  | check =>
    simp only [Verb.named?] at named
    simp only [named, ensureFile?, ensureFile_of_unseen h, Verb.rulesNames]
    rfl
  | apply =>
    simp only [Verb.named?] at named
    simp only [named, ensureFile?, ensureFile_of_unseen h, Verb.rulesNames]
    rfl
  | show_ =>
    obtain ⟨kind, hkind⟩ := layout rfl
    simp only [Verb.named?] at named
    simp only [hkind, named, ensureFile?, ensureFile_of_unseen h, Verb.rulesNames]
    rfl
end

/-! ## The laws -/

/-- What the system refuses to hand out, and what the reader of documents complains about, is a
failure of the file with its path, and nothing is recorded. A command on such a file writes nothing
to the output, tells the failure and that the test of the file failed, and ends with one. A path on
the command line is looked at before: where nothing that can be read is seen, the line comes to no
task that could load the file and is refused, which ends with two, and this is so wherever the
system refuses to read. -/
theorem an_unread_rules_file_fails_the_test :
    (∀ w p f, Registry.Unread w p f →
      (Registry.ofFile w p).Silent (.error (.failure f)) ∧ f.kind = .file (some p.shown)) ∧
    ∀ (l : Line) w stamp s, l.Starts w stamp s →
      (∀ t p f, l.task s.site.world = .ok t → s.Rules t.rules p →
        Registry.Unread s.site.world p f →
        Command.run w stamp l.words = {
          code := 1
          output := []
          errors := s.errors ++ Session.errorLine ("[-] " ++ f.message)
            ++ Session.errorLine ("configuration file " ++ p.shown ++ " test failed")
          trouble := none
          world := s.site.world }) ∧
      (∀ t why, l.verb.named? l.inner = some t → l.inner.has .help = false →
        (l.verb = .show_ → ∃ layout, readLayout (l.inner.value? .output) = .ok layout) →
        Unseen s.site.world t why →
        l.task s.site.world = .error (.fault (.unusable l.verb.rulesNames why)) ∧
        Command.run w stamp l.words = {
          code := 2
          output := []
          errors := (s.refused (.verb l.verb) (.unusable l.verb.rulesNames why)).errors
          trouble := none
          world := s.site.world }) ∧
      ∀ t r path, s.site.world.read (Path.ofText t) = .error (.refused r path) →
        ∃ why, Unseen s.site.world t why := by
  refine ⟨?_, ?_⟩
  · intro w p f unread
    exact ⟨Registry.ofFile_of_unread unread, unread.kind_eq⟩
  intro l w stamp s starts
  refine ⟨?_, ?_, ?_⟩
  · intro t p f makes rules unread
    have hrun := Line.runVerb_of_task makes (Task.run_of_unread rules unread)
    rw [Line.run_of_code starts hrun, ← starts.output_eq]
    rfl
  · intro t why named noHelp layout unseen
    have hfault := task_of_unseen noHelp layout named unseen
    refine ⟨hfault, ?_⟩
    rw [Line.run_of_code starts (Line.runVerb_of_fault hfault), ← starts.output_eq]
    rfl
  · exact fun t r path refuses => exists_unseen_of_refused refuses

/-- A world without files, where the settings name a rules file. -/
def bareWorld : World where
  work := ⟨"/", ["work"]⟩
  home := ⟨"/", ["home"]⟩
  environment := [("ARGSFILTER_CONFIG", "rules.yaml")]

def noStamp : Stamp := ⟨"", ""⟩

/-- The session of `check` in the world without files, once it is started. -/
def checkSession : Session where
  site := {
    world := bareWorld
    log := { loggers := [("argsfilter", ⟨.info, [.console .info]⟩)], kept := ["argsfilter"] } }
  stamp := noStamp
  settings := some { configFile := some ⟨[], ["rules.yaml"]⟩ }

def checkLine : Line where
  words := ["check"]
  outer := { operands := ["check"] }
  verb := .check
  rest := []
  inner := {}
  gathers := rfl
  noPage := rfl
  operands := rfl
  innerGathers := rfl

/-- A line that names a rules file which is not there. -/
def showLine : Line where
  words := ["show", "none.yaml"]
  outer := { operands := ["show", "none.yaml"] }
  verb := .show_
  rest := ["none.yaml"]
  inner := { operands := ["none.yaml"] }
  gathers := by cbv
  noPage := rfl
  operands := rfl
  innerGathers := by cbv

theorem checkSession_starts : checkLine.Starts bareWorld noStamp checkSession := by cbv

/-- The rules file of the settings is missing, so the test fails; one that is named and missing is
no part of a line. -/
theorem bareWorld_fails_the_test :
    checkLine.Starts bareWorld noStamp checkSession ∧
    Command.run bareWorld noStamp checkLine.words = {
      code := 1
      output := []
      errors := Text.ofString "[-] cannot read args_filter rules file rules.yaml: "
        ++ Text.ofString "[Errno 2] No such file or directory: 'rules.yaml'\n"
        ++ Text.ofString "configuration file rules.yaml test failed\n"
      trouble := none
      world := bareWorld } ∧
    Command.run bareWorld noStamp showLine.words = {
      code := 2
      output := []
      errors := Text.ofString "Usage: cli show [OPTIONS] [CONFIG]\n"
        ++ Text.ofString "Try 'cli show --help' for help.\n\n"
        ++ Text.ofString "Error: Invalid value for '[CONFIG]': File 'none.yaml' does not exist.\n"
      trouble := none
      world := bareWorld } := by
  have refuses : bareWorld.read ⟨[], ["rules.yaml"]⟩ =
      .error (.refused .missing "rules.yaml") := by cbv
  have unseen : Unseen bareWorld "none.yaml" _ := .missing (by cbv)
  refine ⟨checkSession_starts, ?_, ?_⟩
  · obtain ⟨-, law⟩ := an_unread_rules_file_fails_the_test
    obtain ⟨fails, -, -⟩ := law checkLine bareWorld noStamp checkSession checkSession_starts
    have outcome := fails (.check none) _ _ rfl (.settings rfl rfl) (.refused refuses)
    rw [outcome, Outcome.mk.injEq]
    exact ⟨rfl, rfl, by cbv, rfl, rfl⟩
  · obtain ⟨-, law⟩ := an_unread_rules_file_fails_the_test
    obtain ⟨-, refused, -⟩ := law showLine bareWorld noStamp checkSession checkSession_starts
    obtain ⟨-, outcome⟩ := refused "none.yaml" _ rfl rfl (fun _ => ⟨.text, rfl⟩) unseen
    rw [outcome, Outcome.mk.injEq]
    exact ⟨rfl, rfl, by cbv, rfl, rfl⟩

/-- The file that is named cannot be read, and reading it is a failure of the file; but the command
ends with two and tells nothing of a test. -/
theorem check_of_a_missing_file_ends_with_two :
    (Registry.ofFile bareWorld ⟨[], ["none.yaml"]⟩).ComesTo (.error (.failure
      (Registry.cannotRead "none.yaml" (.refused .missing "none.yaml")))) ∧
    Command.run bareWorld noStamp ["check", "none.yaml"] = {
      code := 2
      output := []
      errors := Text.ofString "Usage: cli check [OPTIONS] [CONFIG]\n"
        ++ Text.ofString "Try 'cli check --help' for help.\n\n"
        ++ Text.ofString "Error: Invalid value for '[CONFIG]': File 'none.yaml' does not exist.\n"
      trouble := none
      world := bareWorld } := by
  refine ⟨?_, by cbv⟩
  exact (Registry.ofFile_of_unread (.refused (by cbv))).comesTo

end Command

end QuerySieve
