-- The laws of verdicts on rules files. All commands on a rules file come to the same verdict: where the
-- file has a registry they do their work on it, and otherwise they all end with one, tell why and
-- write nothing. The levels that are given before the verb have no say in how a command line ends or
-- in what it writes.
import QuerySieve.Proofs.Characters
import QuerySieve.Proofs.Gathering
import QuerySieve.Proofs.Loggers

namespace QuerySieve.Command

/-! ## Words -/

/-- Words that tell a verb something of a rules file, and the task that they make up. -/
inductive Commands (P : Text) : List Text → Task → Prop
  | check : Commands P ["check", P] (.check (some P))
  | show_ : Commands P ["show", P] (.show_ (some P) .text)
  | showIn {t : Text} {words : List Text} {layout : Layout} (spelled : Spelled .output t words)
      (names : readLayout (some t) = .ok layout) :
      Commands P ("show" :: P :: words) (.show_ (some P) layout)
  | apply {words : List Text} {name query : Text} (spelled : Spelled .config P words)
      (name_ : Operand name) (query_ : Operand query) :
      Commands P ("apply" :: (words ++ [name, query])) (.apply name query (some P))

/-- A verb and words after it that make up a task. -/
def Tells (w : World) (words : List Text) (t : Task) : Prop :=
  ∃ (v : Verb) (rest : List Text) (inner : Gathered), words = v.name :: rest ∧
    (Scope.verb v).gather rest = .ok inner ∧ v.task w inner = .ok t

section

variable {w : World} {P : Text} {content : Bytes}

theorem ensureFile_of_file (file : lookAt w P = .ok (.file content)) (names : List Text) :
    ensureFile? w names (some P) = .ok () := by
  unfold ensureFile? ensureFile
  simp only [file]

/-- A path at which something is seen can be written. -/
theorem encodable_shown (file : lookAt w P = .ok (.file content)) :
    (Path.ofText P).shown.Encodable := by
  cases hencode : Text.encode (Path.ofText P).shown with
  | ok b => exact (Text.encode_eq_ok_iff.mp hencode).1
  | error e =>
    obtain ⟨e', unseen⟩ : ∃ e', w.look (Path.ofText P) = .error e' := by
      unfold World.look World.locate World.ensureAskable
      rw [hencode]
      cases (Path.ofText P).shown.firstUnescaped? with
      | some e => exact ⟨_, rfl⟩
      | none =>
        by_cases zero : (Path.ofText P).shown.contains (CodePoint.ofNat 0) = true
        · exact ⟨_, by simp only [if_pos zero]; rfl⟩
        · exact ⟨_, by simp only [if_neg zero]; rfl⟩
    unfold lookAt at file
    split at file
    · cases file
    · split at file
      · cases file
      · rw [unseen] at file
        cases file

theorem Commands.tells {words : List Text} {t : Task} (h : Commands P words t)
    (operand : Operand P) (file : lookAt w P = .ok (.file content)) : Tells w words t := by
  have there := ensureFile_of_file file
  cases h with
  | check =>
    refine ⟨.check, [P], { operands := [P] }, rfl, gather_operand operand, ?_⟩
    unfold Verb.task
    simp only [List.head?_cons, there]
    rfl
  | show_ =>
    refine ⟨.show_, [P], { operands := [P] }, rfl, gather_operand operand, ?_⟩
    unfold Verb.task
    simp only [List.head?_cons, there]
    rfl
  | @showIn t words layout spelled names =>
    refine ⟨.show_, P :: words, { given := [(.output, t)], operands := [P] }, rfl, ?_, ?_⟩
    · have gathers := gather_spelled output_standsIn spelled true []
      rw [List.append_nil] at gathers
      change gather _ true _ = _
      rw [gather_operand operand, gathers]
      rfl
    · have value : Gathered.value? { given := [(.output, t)], operands := [P] } .output = some t := by
        rfl
      have page : Gathered.has { given := [(.output, t)], operands := [P] } .help = false := by
        rfl
      unfold Verb.task
      simp only [value, page, names, List.head?_cons, there]
      rfl
  | @apply words name query spelled name_ query_ =>
    refine ⟨.apply, words ++ [name, query],
      { given := [(.config, P)], operands := [name, query] }, rfl, ?_, ?_⟩
    · change gather _ true _ = _
      rw [gather_spelled config_standsIn spelled, gather_operand name_, gather_operand query_]
      rfl
    · have value : Gathered.value? { given := [(.config, P)], operands := [name, query] } .config =
          some P := by rfl
      have page : Gathered.has { given := [(.config, P)], operands := [name, query] } .help =
          false := by rfl
      unfold Verb.task
      simp only [value, page, there]
      rfl

end

/-! ## Lines -/

section

variable {w : World} {stamp : Stamp} {levels : List Text}

theorem operand_name (v : Verb) : Operand v.name := by
  cases v with
  | apply | check | show_ => decide

theorem find?_levels {given : List Given} (all : ∀ x ∈ given, x.1 = .logLevel) :
    (given.find? fun x => x.1 = .help || x.1 = .version) = none := by
  rw [List.find?_eq_none]
  intro x hx
  rw [all x hx]
  decide

/-- Words that give levels, with words that tell a verb a task after them, make up a line. The level
that counts is given by the words before the verb. -/
theorem exists_line (repeated : Repeated .logLevel levels) :
    ∃ level, ∀ (words : List Text) (t : Task), Tells w words t →
      ∃ l : Line, l.words = levels ++ words ∧ l.level = level ∧ l.task w = .ok t := by
  obtain ⟨given, all, gathers⟩ := gather_levels repeated
  refine ⟨(Gathered.value? { given } .logLevel).getD [], ?_⟩
  rintro words t ⟨v, rest, inner, rfl, hinner, makes⟩
  have outer := gathers (v.name :: rest)
  rw [Scope.gather, Scope.gather, gather_operand (operand_name v)] at outer
  let line : Line := {
    words := levels ++ v.name :: rest
    outer := { given, operands := v.name :: rest }
    verb := v
    rest
    inner
    gathers := outer.trans (by simp [Scope.mixes, Except.map, Gathered.withGiven])
    noPage := find?_levels all
    operands := rfl
    innerGathers := hinner }
  exact ⟨line, rfl, rfl, makes⟩

/-- All commands on a rules file start from one session. -/
theorem exists_start {P : Text} {content : Bytes} (default_ : (Settings.load w none).ComesTo (.ok {}))
    (file : lookAt w P = .ok (.file content)) (operand : Operand P)
    (repeated : Repeated .logLevel levels) (stamp : Stamp) :
    ∃ s : Session, s.site.world = w ∧ s.output = [] ∧ s.Quiet ∧
      ∀ words t, Commands P words t → ∀ r s', t.run.Ends s r s' →
        run w stamp (levels ++ words) = s'.outcome r := by
  obtain ⟨level, lines⟩ := exists_line (w := w) repeated
  obtain ⟨s, starts, world, output, quiet⟩ := startLog_of_default default_ stamp level
  refine ⟨s, world, output, quiet, ?_⟩
  intro words t commands r s' ends
  obtain ⟨l, hwords, hlevel, makes⟩ := lines words t (commands.tells operand file)
  rw [← hlevel] at starts
  rw [← world] at makes
  rw [← hwords]
  exact run_of_ends (Line.program_ends starts (Line.runVerb_of_task makes ends))

end

/-! ## Levels -/

open Step (Fixed Anywhere)

/-- A step that writes and is the last one. -/
theorem exists_stop {α : Type} {step : Step Unit} (h : Fixed Anywhere step) (n : Nat) :
    ∃ e said, ∀ s, (step >>= fun _ => Step.exit n : Step α).Prints s (.error e) said := by
  obtain ⟨r, said, prints⟩ := h
  cases r with
  | error e => exact ⟨e, said, fun s => .stop (prints s trivial)⟩
  | ok _ =>
    refine ⟨.code n, said, fun s => ?_⟩
    rw [← List.append_nil said]
    exact .bind (prints s trivial) fun s' => .exit n s'

/-- What the program does with what was gathered of its own switches. -/
def answer (r : Except Fault Gathered) : Step Gathered := do
  match r with
  | .error f => refuse .program f
  | .ok g =>
    match g.given.find? fun x => x.1 = .help || x.1 = .version with
    | none => return g
    | some (s, _) =>
      if s = .help then showPage .program
      Step.say "cli, version 1.0.0"
      Step.exit 0

theorem readProgram_eq (words : List Text) :
    readProgram words = answer (Scope.program.gather words) := rfl

theorem find?_withGiven {given : List Given} (all : ∀ x ∈ given, x.1 = .logLevel) (g : Gathered) :
    ((g.withGiven given).given.find? fun x => x.1 = .help || x.1 = .version) =
      g.given.find? fun x => x.1 = .help || x.1 = .version := by
  rw [Gathered.withGiven, List.find?_append, find?_levels all, Option.none_or]

/-- Levels that are given change nothing of whether the program goes on. -/
theorem answer_cases (r : Except Fault Gathered) :
    (∃ g, r = .ok g ∧ ∀ given : List Given, (∀ x ∈ given, x.1 = .logLevel) →
      answer (r.map (Gathered.withGiven given)) = pure (g.withGiven given)) ∨
    ∃ e said, ∀ given : List Given, (∀ x ∈ given, x.1 = .logLevel) →
      ∀ s, (answer (r.map (Gathered.withGiven given))).Prints s (.error e) said := by
  cases r with
  | error f =>
    exact .inr ⟨.code 2, [], fun _ _ s => refuse_prints .program f s⟩
  | ok g =>
    cases hfind : g.given.find? fun x => x.1 = .help || x.1 = .version with
    | none =>
      refine .inl ⟨g, rfl, fun given all => ?_⟩
      change answer (.ok (g.withGiven given)) = _
      unfold answer
      simp only [find?_withGiven all, hfind]
    | some found =>
      obtain ⟨s, value⟩ := found
      right
      have last : ∃ e said, ∀ session, (do
          if s = .help then showPage .program
          Step.say "cli, version 1.0.0"
          Step.exit 0 : Step Gathered).Prints session (.error e) said := by
        split
        · obtain ⟨e, said, prints⟩ := exists_stop (α := Unit) (.write Scope.program.page) 0
          exact ⟨e, said, fun session => .stop (prints session)⟩
        · exact exists_stop (.say _) 0
      obtain ⟨e, said, prints⟩ := last
      refine ⟨e, said, fun given all session => ?_⟩
      change (answer (.ok (g.withGiven given))).Prints _ _ _
      unfold answer
      simp only [find?_withGiven all, hfind]
      exact prints session

theorem readProgram_fixed (words : List Text) : Fixed Anywhere (readProgram words) := by
  rw [readProgram_eq, ← map_withGiven_nil (Scope.program.gather words)]
  rcases answer_cases (Scope.program.gather words) with ⟨g, -, going⟩ | ⟨e, said, prints⟩
  · rw [going [] (by simp)]
    exact .of_prints (.pure _)
  · exact ⟨.error e, said, fun s _ => prints [] (by simp) s⟩

/-- What the program does after its own switches. -/
def dispatch (g : Gathered) : Step Unit := do
  match g.operands with
  | [] => refuse .program .verbMissing
  | name :: rest =>
    match Verb.ofName? name with
    | some v =>
      startLog ((g.value? .logLevel).getD [])
      runVerb v rest
    | none =>
      if isSwitchWord name then
        let _ ← readProgram (name :: rest)
      refuse .program (.unknownVerb name (Likeness.near name (Verb.all.map Verb.name)))

theorem program_eq {words : List Text} (h : words ≠ []) :
    program words = answer (Scope.program.gather words) >>= dispatch := by
  unfold program
  rw [if_neg (by simpa using h)]
  rfl

/-- However the loggers are set up, a verb does the same. -/
theorem dispatch_fixed (s : Session) (g : Gathered) :
    ∃ r said, ∀ given, (dispatch (g.withGiven given)).Prints s r said := by
  have operands : ∀ given, (g.withGiven given).operands = g.operands := fun _ => rfl
  unfold dispatch
  simp only [operands]
  cases g.operands with
  | nil => exact ⟨.error (.code 2), [], fun _ => refuse_prints _ _ s⟩
  | cons name rest =>
    simp only
    cases Verb.ofName? name with
    | some v =>
      simp only
      obtain ⟨r, w, kept, starts⟩ := startLog_alike s
      cases r with
      | error e =>
        refine ⟨.error e, [], fun given => .stop ?_⟩
        obtain ⟨s', ends, output, -⟩ := starts (((g.withGiven given).value? .logLevel).getD [])
        exact .of_ends ends output
      | ok _ =>
        have fixed : Fixed (Session.In w kept) (runVerb v rest) := runVerb_fixed v rest
        obtain ⟨r, said, prints⟩ := fixed
        refine ⟨r, said, fun given => ?_⟩
        obtain ⟨s', ends, output, here⟩ := starts (((g.withGiven given).value? .logLevel).getD [])
        exact .after ends output (prints s' (here rfl))
    | none =>
      have fixed : Fixed Anywhere (do
          if isSwitchWord name then
            let _ ← readProgram (name :: rest)
          refuse .program (.unknownVerb name (Likeness.near name (Verb.all.map Verb.name)))
          : Step Unit) := by
        split
        · exact .bind (readProgram_fixed _) fun _ => refuse_fixed _ _
        · exact refuse_fixed _ _
      obtain ⟨r, said, prints⟩ := fixed
      exact ⟨r, said, fun _ => prints s trivial⟩

/-- The level has no say in how a command line ends and what it writes. -/
theorem program_fixed (s : Session) (rest : List Text) :
    ∃ r said, ∀ levels, Repeated .logLevel levels →
      (program (levels ++ rest)).Prints s r said := by
  have reads : ∀ levels : List Text, levels ++ rest ≠ [] → Repeated .logLevel levels →
      ∃ given : List Given, (∀ x ∈ given, x.1 = .logLevel) ∧ program (levels ++ rest) =
        answer ((Scope.program.gather rest).map (Gathered.withGiven given)) >>= dispatch := by
    intro levels nonempty repeated
    obtain ⟨given, all, gathers⟩ := gather_levels repeated
    exact ⟨given, all, by rw [program_eq nonempty, gathers]⟩
  by_cases bare : rest = []
  · -- Without any word the help page is shown, but with the same code.
    refine ⟨.error (.code 2), [], fun levels repeated => ?_⟩
    by_cases none : levels ++ rest = []
    · rw [none]
      exact .after (.modify _) rfl (.exit 2 _)
    · obtain ⟨given, all, hprogram⟩ := reads levels none repeated
      have missing : (dispatch (Gathered.withGiven given {})).Prints s (.error (.code 2)) [] :=
        refuse_prints .program .verbMissing s
      rw [hprogram, bare]
      change (answer (.ok (Gathered.withGiven given {})) >>= dispatch).Prints _ _ _
      unfold answer
      simp only [find?_withGiven all]
      exact .after (.pure _) rfl missing
  have nonempty : ∀ levels : List Text, levels ++ rest ≠ [] := by simp [bare]
  rcases answer_cases (Scope.program.gather rest) with ⟨g, hg, going⟩ | ⟨e, said, prints⟩
  · obtain ⟨r, said, prints⟩ := dispatch_fixed s g
    refine ⟨r, said, fun levels repeated => ?_⟩
    obtain ⟨given, all, hprogram⟩ := reads levels (nonempty levels) repeated
    rw [hprogram, going given all]
    exact .after (.pure _) rfl (prints given)
  · refine ⟨.error e, said, fun levels repeated => ?_⟩
    obtain ⟨given, all, hprogram⟩ := reads levels (nonempty levels) repeated
    rw [hprogram]
    exact .stop (prints given all s)

/-! ## The law -/

/-- The program ends with this code and writes just this to the output. -/
def Answers (w : World) (stamp : Stamp) (words : List Text) (code : Nat) (said : Text) : Prop :=
  (run w stamp words).code = code ∧ (run w stamp words).output = said

/-- What the commands do on a rules file that has a registry. -/
structure Passes (w : World) (stamp : Stamp) (levels : List Text) (P : Text) (r : Registry) :
    Prop where
  check : ∀ words, Commands P words (.check (some P)) → Answers w stamp (levels ++ words) 0
    (compiledLine r ++ "\n" ++ outputLine (successLine (.ofText P)))
  text : ∀ words, Commands P words (.show_ (some P) .text) →
    Answers w stamp (levels ++ words) 0 (outputLine (Text.join "\n" r.listing))
  json : ∀ words, Commands P words (.show_ (some P) .json) →
    Answers w stamp (levels ++ words) 0 (Json.indented r.layout ++ "\n")
  listed : r.filters ≠ [] →
    r.listing = r.items.flatMap fun (name, d) => d.heading name :: Rule.lines 0 d.rules
  members : r.layout = .map (r.items.map fun (name, d) => (Name.sigil :: name, d.layout))
  ascending : r.names.Pairwise Text.Before
  itemNames : r.items.map (·.1) = r.names
  items : ∀ key d, (key, d) ∈ r.items ↔ (key, d) ∈ r.filters
  known : ∀ words name query b d, Commands P words (.apply name query (some P)) →
    query.encode = .ok b → r.lookup? name = some d → ∃ value u,
      Gives (r.evaluate name b) (some ⟨value, d.volatile⟩) ∧ u.encode = .ok value ∧
        Answers w stamp (levels ++ words) 0 (outputLine u)
  unknown : ∀ words name query b, Commands P words (.apply name query (some P)) →
    query.encode = .ok b → r.lookup? name = none → Answers w stamp (levels ++ words) 1 []
  unencodable : ∀ words name query e, Commands P words (.apply name query (some P)) →
    query.encode = .error e → Answers w stamp (levels ++ words) 1 []

theorem outputLine_eq_iff (t : Text) : outputLine t = t ++ "\n" ↔ ¬ Style.Styled t := by
  rw [outputLine, List.append_cancel_right_eq, Style.drop_eq_iff]

theorem outputLine_of_isPlain {t : Text} (h : Json.IsPlain t) : outputLine t = t ++ "\n" :=
  (outputLine_eq_iff t).mpr h.not_styled

theorem isPlain_compiledLine (r : Registry) : Json.IsPlain (compiledLine r) := by
  have lead : Json.IsPlain "[+] " := by decide
  have trail : Json.IsPlain " args_filter block(s) compiled" := by decide
  unfold compiledLine
  rw [Json.isPlain_append, Json.isPlain_append]
  exact ⟨⟨lead, Json.isPlain_ofNat _⟩, trail⟩

section

variable {w : World} {stamp : Stamp} {P : Text} {content : Bytes} {levels : List Text}
variable (default_ : (Settings.load w none).ComesTo (.ok {}))
variable (file : lookAt w P = .ok (.file content)) (operand : Operand P)
variable (repeated : Repeated .logLevel levels)
include default_ file operand repeated

theorem passes_of_loads {r : Registry} (loads : (Registry.ofFile w (.ofText P)).ComesTo (.ok r)) :
    Passes w stamp levels P r := by
  obtain ⟨s, world, output, quiet, runs⟩ := exists_start default_ file operand repeated stamp
  obtain ⟨distinct, -⟩ := Registry.named_of_ofFile loads
  rw [← world] at loads
  have answers : ∀ words t result said, Commands P words t → t.run.Prints s result said →
      Answers w stamp (levels ++ words) (s.outcome result).code said := by
    intro words t result said commands prints
    obtain ⟨s', ends, hsaid⟩ := prints
    rw [output] at hsaid
    rw [Answers, runs words t commands result s' ends]
    exact ⟨rfl, hsaid⟩
  have named := Session.Rules.named (s := s) P
  constructor
  · intro words commands
    have prints := check_prints named loads (encodable_shown file)
    rw [outputLine_of_isPlain (isPlain_compiledLine r)] at prints
    exact answers _ _ _ _ commands prints
  · intro words commands
    exact answers _ _ _ _ commands (showRules_prints named loads .text)
  · intro words commands
    have prints := showRules_prints named loads .json
    have plain : Json.IsPlain (shownIn r .json) := Json.isPlain_write _ _ _
    rw [outputLine_of_isPlain plain] at prints
    exact answers _ _ _ _ commands prints
  · intro nonempty
    unfold Registry.listing
    rw [if_neg (by simpa [Registry.size] using nonempty)]
    rfl
  · rfl
  · exact Registry.names_ascending distinct
  · exact Registry.items_names distinct
  · exact Registry.mem_items distinct
  · intro words name query b d commands encodes found
    have evaluates := Registry.evaluate_filtered found b
    have prints := apply_prints named loads encodes evaluates
    obtain ⟨encodable, rfl⟩ := Text.encode_eq_ok_iff.mp encodes
    have hu := d.encode_filteredText encodable
    rw [Bytes.decodeReplacing_of_decode (Bytes.decode_eq_ok_iff.mpr hu)] at prints
    exact ⟨_, _, evaluates, hu, answers _ _ _ _ commands prints⟩
  · intro words name query b commands encodes missing
    have evaluates := Registry.evaluate_of_unknown missing b
    exact answers _ _ _ _ commands (apply_of_unknown named loads encodes evaluates)
  · intro words name query e commands fails
    exact answers _ _ _ _ commands (apply_of_unencodable named loads fails)

/-- Where the rules file cannot be loaded, all commands leave one session. -/
theorem exists_stopped {e : Ending} (stamp : Stamp) (change : Session → Session)
    (loads : ∀ s : Session, s.site.world = w → (loadRules (.ofText P)).Ends s (.error e)
      (change (Step.told (Registry.ofFile s.site.world (.ofText P)) s))) :
    ∃ s : Session, s.output = [] ∧ s.site.world = w ∧ ∀ words t, Commands P words t →
      run w stamp (levels ++ words) = (change s).outcome (.error e) := by
  obtain ⟨s, world, output, quiet, runs⟩ := exists_start default_ file operand repeated stamp
  have hsite := quiet.told_site (Registry.ofFile s.site.world (.ofText P))
  refine ⟨Step.told (Registry.ofFile s.site.world (.ofText P)) s, ?_, ?_, ?_⟩
  · exact (Step.told_output _ s).trans output
  · rw [hsite, world]
  · intro words t commands
    have rules : s.Rules t.rules (.ofText P) := by
      cases commands with
      | check | show_ | showIn | apply => exact .named P
    exact runs words t commands _ _ (Task.run_of_stop rules (loads s world))

theorem fails_of_failure {f : Failure}
    (loads : (Registry.ofFile w (.ofText P)).ComesTo (.error (.failure f))) :
    ∃ told, ∀ words t, Commands P words t → run w stamp (levels ++ words) = {
      code := 1
      output := []
      errors := told ++ Session.errorLine ("[-] " ++ f.message)
        ++ Session.errorLine ("configuration file " ++ (Path.ofText P).shown ++ " test failed")
      trouble := none
      world := w } := by
  have stops (s : Session) (world : s.site.world = w) :=
    loadRules_of_failure (world.symm ▸ loads)
  obtain ⟨s, output, world, stopped⟩ :=
    exists_stopped default_ file operand repeated stamp (fun s => s.failed (.ofText P) f) stops
  refine ⟨s.errors, fun words t commands => (stopped words t commands).trans ?_⟩
  rw [← output, ← world]
  rfl

theorem fails_of_stray {e : Stray}
    (loads : (Registry.ofFile w (.ofText P)).ComesTo (.error (.stray e))) :
    ∃ told, ∀ words t, Commands P words t → run w stamp (levels ++ words) = {
      code := 1, output := [], errors := told, trouble := some (.stray e), world := w } := by
  have stops (s : Session) (world : s.site.world = w) :=
    loadRules_of_stray (world.symm ▸ loads)
  obtain ⟨s, output, world, stopped⟩ :=
    exists_stopped default_ file operand repeated stamp id stops
  refine ⟨s.errors, fun words t commands => (stopped words t commands).trans ?_⟩
  rw [← output, ← world]
  rfl

end

/-- All commands on a rules file that is there give one verdict, at the default settings. If the file
has a registry, `check` counts its definitions, `show` writes them by ascending name, and `apply`
writes what the name evaluates to, or ends with one where there is no such name or the query has no
UTF-8 form. If there is none they all end with one, write nothing and tell the same. The levels that
are given never count. A line is written as it is, unless a sequence for terminals stands in it. -/
theorem all_commands_give_one_verdict (w : World) (stamp : Stamp) :
    (∀ P content levels, (Settings.load w none).ComesTo (.ok {}) →
      lookAt w P = .ok (.file content) → Operand P → Repeated .logLevel levels →
      (∃ r, (Registry.ofFile w (.ofText P)).ComesTo r) ∧
      (∀ r, (Registry.ofFile w (.ofText P)).ComesTo (.ok r) → Passes w stamp levels P r) ∧
      (∀ f, (Registry.ofFile w (.ofText P)).ComesTo (.error (.failure f)) →
        ∃ told, ∀ words t, Commands P words t → run w stamp (levels ++ words) = {
          code := 1
          output := []
          errors := told ++ Session.errorLine ("[-] " ++ f.message)
            ++ Session.errorLine ("configuration file " ++ (Path.ofText P).shown ++ " test failed")
          trouble := none
          world := w }) ∧
      ∀ e, (Registry.ofFile w (.ofText P)).ComesTo (.error (.stray e)) →
        ∃ told, ∀ words t, Commands P words t → run w stamp (levels ++ words) = {
          code := 1, output := [], errors := told, trouble := some (.stray e), world := w }) ∧
    (∀ words, ∃ code said, ∀ levels, Repeated .logLevel levels →
      Answers w stamp (levels ++ words) code said) ∧
    ∀ t, outputLine t = t ++ "\n" ↔ ¬ Style.Styled t := by
  refine ⟨?_, ?_, outputLine_eq_iff⟩
  · intro P content levels default_ file operand repeated
    refine ⟨?_, ?_, ?_, ?_⟩
    · obtain ⟨r, comes, -⟩ := Registry.ofFile_comesTo w (.ofText P)
      exact ⟨r, comes⟩
    · exact fun r => passes_of_loads default_ file operand repeated
    · exact fun f => fails_of_failure default_ file operand repeated
    · exact fun e => fails_of_stray default_ file operand repeated
  · intro words
    obtain ⟨r, said, prints⟩ := program_fixed { site := { world := w }, stamp } words
    refine ⟨(Session.outcome { site := { world := w }, stamp } r).code, said, ?_⟩
    intro levels repeated
    obtain ⟨s, ends, hsaid⟩ := prints levels repeated
    rw [Answers, run_of_ends ends]
    exact ⟨rfl, hsaid⟩

/-! ## Three files -/

/-- One block that keeps every segment. -/
def wholeRules : Bytes := Bytes.ofString "args_filters:\n  $f:\n    - initial all\n"

/-- What stands under the root key is no mapping. -/
def wordRules : Bytes := Bytes.ofString "args_filters: none\n"

/-- A world of three rules files, the last of which is no UTF-8. -/
def threeWorld : World where
  work := ⟨"/", ["work"]⟩
  home := ⟨"/", ["home"]⟩
  entries := [
    (⟨"/", ["work", "r.yaml"]⟩, .file wholeRules),
    (⟨"/", ["work", "word.yaml"]⟩, .file wordRules),
    (⟨"/", ["work", "octet.yaml"]⟩, .file [0xff])]

/-- The registry of the one block. -/
def wholeRegistry : Registry where
  filters := [("f", { initial := .all, initialSet := true })]

theorem threeWorld_settings : (Settings.load threeWorld none).ComesTo (.ok {}) := fun _ => rfl

theorem wholeRules_load :
    (Registry.ofFile threeWorld (.ofText "r.yaml")).ComesTo (.ok wholeRegistry) := by
  let document : Value := .ofPairs true
    [("args_filters", .ofPairs true [("$f", .list [.text "initial all"])])]
  have reads : threeWorld.read (.ofText "r.yaml") = .ok wholeRules := by decide
  have parses : Yaml.Node.plainDocument (.ofBytes wholeRules) = .ok document := by decide +kernel
  have comes : (Document.registry document).ComesTo (.ok wholeRegistry) := fun _ => rfl
  exact Registry.ofFile_of_document (Registry.contentOf_of_read reads) parses comes

theorem wordRules_fail : ∃ f,
    (Registry.ofFile threeWorld (.ofText "word.yaml")).ComesTo (.error (.failure f)) := by
  let document : Value := .ofPairs true [("args_filters", .text "none")]
  have reads : threeWorld.read (.ofText "word.yaml") = .ok wordRules := by decide
  have parses : Yaml.Node.plainDocument (.ofBytes wordRules) = .ok document := by decide +kernel
  have fails : ∃ f, (Document.registry document).ComesTo (.error (.failure f)) :=
    ⟨_, fun _ => rfl⟩
  obtain ⟨f, comes⟩ := fails
  exact ⟨f, Registry.ofFile_of_document (Registry.contentOf_of_read reads) parses comes⟩

theorem octet_strays : ∃ e,
    (Registry.ofFile threeWorld (.ofText "octet.yaml")).ComesTo (.error (.stray e)) := by
  have reads : threeWorld.read (.ofText "octet.yaml") = .ok [0xff] := by decide
  have faulty : ∃ e, Yaml.Node.plainDocument (.ofBytes [0xff]) = .error (.undecodable e) :=
    ⟨_, by cbv⟩
  obtain ⟨e, faulty⟩ := faulty
  exact ⟨.undecodable e,
    Registry.ofFile_of_fault (Registry.contentOf_of_read reads) faulty (.stray _)⟩

/-- Of three files one passes, one fails and one strays, at the default settings. -/
theorem threeWorld_verdicts :
    (Settings.load threeWorld none).ComesTo (.ok {}) ∧
    lookAt threeWorld "r.yaml" = .ok (.file wholeRules) ∧
    Repeated .logLevel ["--log-level", "DEBUG"] ∧
    (Registry.ofFile threeWorld (.ofText "r.yaml")).ComesTo (.ok wholeRegistry) ∧
    Passes threeWorld noStamp ["--log-level", "DEBUG"] "r.yaml" wholeRegistry ∧
    Answers threeWorld noStamp ["show", "word.yaml"] 1 [] ∧
    Answers threeWorld noStamp ["check", "octet.yaml"] 1 [] := by
  have level : Repeated .logLevel ["--log-level", "DEBUG"] := .more .named .nil
  have whole : lookAt threeWorld "r.yaml" = .ok (.file wholeRules) := by decide
  have word : lookAt threeWorld "word.yaml" = .ok (.file wordRules) := by decide
  have octet : lookAt threeWorld "octet.yaml" = .ok (.file [0xff]) := by decide
  obtain ⟨law, -, -⟩ := all_commands_give_one_verdict threeWorld noStamp
  refine ⟨threeWorld_settings, whole, level, wholeRules_load, ?_, ?_, ?_⟩
  · obtain ⟨-, passes, -⟩ :=
      law "r.yaml" _ _ threeWorld_settings whole (by decide) level
    exact passes wholeRegistry wholeRules_load
  · obtain ⟨f, fails⟩ := wordRules_fail
    obtain ⟨-, -, failure, -⟩ :=
      law "word.yaml" _ _ threeWorld_settings word (by decide) .nil
    obtain ⟨told, outcome⟩ := failure f fails
    rw [Answers]
    exact ⟨congrArg Outcome.code (outcome _ _ .show_), congrArg Outcome.output (outcome _ _ .show_)⟩
  · obtain ⟨e, strays⟩ := octet_strays
    obtain ⟨-, -, -, stray⟩ :=
      law "octet.yaml" _ _ threeWorld_settings octet (by decide) .nil
    obtain ⟨told, outcome⟩ := stray e strays
    rw [Answers]
    exact ⟨congrArg Outcome.code (outcome _ _ .check), congrArg Outcome.output (outcome _ _ .check)⟩

/-- A query that sets the colour of what comes after it. -/
def redQuery : Text := Text.ofString "a=\x1b[31m1"

/-- The block keeps the whole query, but the sequence in it is not written. -/
theorem redQuery_is_not_written_whole :
    (Settings.load threeWorld none).ComesTo (.ok {}) ∧
    (Registry.ofFile threeWorld (.ofText "r.yaml")).ComesTo (.ok wholeRegistry) ∧
    (∃ b, redQuery.encode = .ok b ∧ Gives (wholeRegistry.evaluate "f" b) (some ⟨b, false⟩)) ∧
    Answers threeWorld noStamp ["apply", "-c", "r.yaml", "f", redQuery] 0 "a=1\n" ∧
    redQuery ++ "\n" ≠ "a=1\n" := by
  have whole : lookAt threeWorld "r.yaml" = .ok (.file wholeRules) := by decide
  have encodes : ∃ b, redQuery.encode = .ok b ∧
    Gives (wholeRegistry.evaluate "f" b) (some ⟨b, false⟩) := ⟨_, rfl, fun _ => rfl⟩
  refine ⟨threeWorld_settings, wholeRules_load, encodes, ?_, by decide⟩
  obtain ⟨b, hb, gives⟩ := encodes
  have passes : Passes threeWorld noStamp [] "r.yaml" wholeRegistry :=
    passes_of_loads threeWorld_settings whole (by decide) .nil wholeRules_load
  have commands : Commands "r.yaml" ["apply", "-c", "r.yaml", "f", redQuery]
      (.apply "f" redQuery (some "r.yaml")) := .apply (.lettered rfl) (by decide) (by decide)
  obtain ⟨value, u, evaluates, hu, answers⟩ := passes.known _ _ _ b _ commands hb rfl
  have hvalue : value = b := by
    cases evaluates.unique gives
    rfl
  have hwhole : u = redQuery := by
    rw [hvalue, ← Bytes.decode_eq_ok_iff] at hu
    rw [← Bytes.decode_eq_ok_iff, hu] at hb
    cases hb
    rfl
  have written : outputLine redQuery = "a=1\n" := by cbv
  rw [hwhole, written] at answers
  exact answers

end QuerySieve.Command
