-- The laws of precedence. Each of the settings comes from the last source that has it: the file in
-- the home, the file in the working directory, the named file and the environment, in this order. If
-- a value that is chosen so is not valid, all settings are the defaults, and no value that was not
-- chosen has a say.
import QuerySieve.Proofs.Sources

namespace QuerySieve.Settings

/-! ## One setting -/

/-- Settings have what a value means, and the default if there is none. -/
def Holds (w : World) (s : Settings) : Setting → Option Value → Prop
  | .logLevel, v => optionally Level.info readLevel v = .ok s.logLevel
  | .logDir, v => pathOf w v = .ok (.ok s.logDir)
  | .fileLogging, v => optionally false readTruth v = .ok s.fileLogging
  | .configFile, v => pathOf w v = .ok (.ok s.configFile)

/-- A value that a setting cannot have. -/
def Invalid (w : World) : Setting → Value → Prop
  | .logLevel, v => ∃ f, readLevel v = .error f
  | .logDir, v | .configFile, v => ∃ f, readPath w v = .ok (.error f)
  | .fileLogging, v => ∃ f, readTruth v = .error f

variable {w : World}

/-- What is decided by values: settings that have them all, or the defaults if one of them is not
valid. -/
def Decided (w : World) (value : Setting → Option Value) (s : Settings) : Prop :=
  (∀ setting, Holds w s setting (value setting)) ∨
  s = {} ∧ ∃ setting v, value setting = some v ∧ Invalid w setting v

/-- A mapping is no setting, however many pairs it has, so it is all the same whether a value was
laid over others. -/
theorem optionally_survives {α : Type} {default_ : α} {read : Value → Except Fault α} {f : Fault}
    (refuses : ∀ pairs, read (.map pairs) = .error f) {v merged : Option Value}
    (h : Option.Rel Layers.Survives v merged) :
    optionally default_ read merged = optionally default_ read v := by
  cases h with
  | none => rfl
  | some survives =>
    rcases survives with rfl | ⟨pairs, more, rfl, rfl⟩
    · rfl
    · exact (refuses more).trans (refuses pairs).symm

theorem pathOf_survives {v merged : Option Value} (h : Option.Rel Layers.Survives v merged) :
    pathOf w merged = pathOf w v := by
  cases h with
  | none => rfl
  | some survives =>
    rcases survives with rfl | ⟨pairs, more, rfl, rfl⟩
    · rfl
    · rfl

theorem eq_text_of_survives {v : Option Value} {t : Text}
    (h : Option.Rel Layers.Survives v (some (.text t))) : v = some (.text t) := by
  cases h with
  | some survives =>
    rcases survives with same | ⟨pairs, more, -, other⟩
    · rw [same]
    · cases other

theorem holds_survives {s : Settings} {setting : Setting} {v merged : Option Value}
    (h : Option.Rel Layers.Survives v merged) :
    Holds w s setting merged ↔ Holds w s setting v := by
  cases setting with
  | logLevel => rw [Holds, Holds, optionally_survives (f := .notText) (fun _ => rfl) h]
  | logDir | configFile => rw [Holds, Holds, pathOf_survives h]
  | fileLogging => rw [Holds, Holds, optionally_survives (f := .notTruth) (fun _ => rfl) h]

theorem optionally_eq_error {α : Type} {default_ : α} {read : Value → Except Fault α} {f : Fault}
    {v : Option Value} (h : optionally default_ read v = .error f) :
    ∃ v', v = some v' ∧ read v' = .error f := by
  cases v with
  | none => cases h
  | some v => exact ⟨v, rfl, h⟩

theorem pathOf_eq_fault {v : Option Value} {f : Fault} (h : pathOf w v = .ok (.error f)) :
    ∃ v', v = some v' ∧ readPath w v' = .ok (.error f) := by
  cases v with
  | none => cases h
  | some v => exact ⟨v, rfl, h⟩

/-! ## All settings -/

/-- The home of each path among values is known. -/
def Homes (w : World) (value : Setting → Option Value) : Prop :=
  ∀ setting v, setting = .logDir ∨ setting = .configFile → value setting = some v → ¬ Homeless w v

/-- Where the homes of paths are known, there are settings that have all the values, or one of the
values is not valid. -/
theorem holds_or_invalid {value : Setting → Option Value} (known : Homes w value) :
    (∃ s, ∀ setting, Holds w s setting (value setting)) ∨
    ∃ setting v, value setting = some v ∧ Invalid w setting v := by
  have path : ∀ setting, setting = .logDir ∨ setting = .configFile →
      ∃ r, pathOf w (value setting) = .ok r := by
    intro setting which
    cases hread : pathOf w (value setting) with
    | ok r => exact ⟨r, rfl⟩
    | error e =>
      obtain ⟨v, hv, hread⟩ := pathOf_eq_error hread
      exact absurd ((readPath_error_iff v e).mp hread).2 (known setting v which hv)
  obtain ⟨dir, hdir⟩ := path .logDir (.inl rfl)
  obtain ⟨file, hfile⟩ := path .configFile (.inr rfl)
  rcases hlevel : optionally Level.info readLevel (value .logLevel) with f | level
  · obtain ⟨v, hv, hread⟩ := optionally_eq_error hlevel
    exact .inr ⟨.logLevel, v, hv, f, hread⟩
  rcases htruth : optionally false readTruth (value .fileLogging) with f | truth
  · obtain ⟨v, hv, hread⟩ := optionally_eq_error htruth
    exact .inr ⟨.fileLogging, v, hv, f, hread⟩
  rcases dir with f | dir
  · obtain ⟨v, hv, hread⟩ := pathOf_eq_fault hdir
    exact .inr ⟨.logDir, v, hv, f, hread⟩
  rcases file with f | file
  · obtain ⟨v, hv, hread⟩ := pathOf_eq_fault hfile
    exact .inr ⟨.configFile, v, hv, f, hread⟩
  refine .inl ⟨⟨level, dir, truth, file⟩, ?_⟩
  intro setting
  cases setting with
  | logLevel => exact hlevel
  | logDir => exact hdir
  | fileLogging => exact htruth
  | configFile => exact hfile

section

variable {pairs : Layer} (sectioned : Sectioned pairs)
include sectioned

theorem sectionPairs_of_sectioned (setting : Setting) :
    ∃ inner, sectionPairs (Pairs.last? setting.outer pairs) = .ok inner := by
  rw [Pairs.last?_of_distinct sectioned.distinct]
  cases hfind : Pairs.find? setting.outer pairs with
  | none => exact ⟨[], rfl⟩
  | some v =>
    obtain ⟨inner, rfl, -⟩ := sectioned.sections setting v hfind
    exact ⟨inner, rfl⟩

theorem ofPairs_of_holds {s : Settings} (h : ∀ setting, Holds w s setting (valueIn setting pairs)) :
    ofPairs w pairs = .ok (.ok s) := by
  have hlevel := h .logLevel
  have hdir := h .logDir
  have htruth := h .fileLogging
  have hfile := h .configFile
  obtain ⟨filters, hfilters⟩ := sectionPairs_of_sectioned sectioned .configFile
  obtain ⟨logging, hlogging⟩ := sectionPairs_of_sectioned sectioned .logLevel
  simp only [Holds] at hlevel hdir htruth hfile
  simp only [Setting.outer] at hfilters hlogging
  rw [ofPairs_eq, hdir, hfile, hlevel, htruth, hfilters, hlogging]
  rfl

end

theorem eq_ok_of_faultsAt {α : Type} (other : α) {place : List Text} {r : Except Fault α}
    (h : faultsAt place r = []) : r = .ok (orElse other r) := by
  cases r with
  | ok a => rfl
  | error f => cases h

theorem holds_of_ofPairs {pairs : Layer} {s : Settings} (h : ofPairs w pairs = .ok (.ok s))
    (setting : Setting) : Holds w s setting (valueIn setting pairs) := by
  rw [ofPairs_eq] at h
  obtain ⟨dir, hdir, h⟩ := Reading.bind_eq_ok h
  obtain ⟨file, hfile, h⟩ := Reading.bind_eq_ok h
  dsimp only at h
  split at h
  next none =>
    simp only [List.isEmpty_iff, List.append_eq_nil_iff] at none
    obtain ⟨⟨⟨⟨⟨-, file_ok⟩, -⟩, truth_ok⟩, dir_ok⟩, level_ok⟩ := none
    cases h
    cases setting with
    | logLevel => exact eq_ok_of_faultsAt _ level_ok
    | logDir => exact hdir.trans (congrArg Except.ok (eq_ok_of_faultsAt _ dir_ok))
    | fileLogging => exact eq_ok_of_faultsAt _ truth_ok
    | configFile => exact hfile.trans (congrArg Except.ok (eq_ok_of_faultsAt _ file_ok))
  · cases h

theorem Holds.not_invalid {s : Settings} {setting : Setting} {v : Value}
    (h : Holds w s setting (some v)) : ¬ Invalid w setting v := by
  intro invalid
  cases setting with
  | logLevel | fileLogging =>
    obtain ⟨f, hf⟩ := invalid
    cases hf.symm.trans h
  | logDir | configFile =>
    obtain ⟨f, hf⟩ := invalid
    cases hf.symm.trans h

theorem Decided.unique {value : Setting → Option Value} {s t : Settings} (hs : Decided w value s)
    (ht : Decided w value t) : s = t := by
  rcases hs with hs | ⟨rfl, setting, v, hv, invalid⟩
  · rcases ht with ht | ⟨-, setting, v, hv, invalid⟩
    · obtain ⟨level, dir, truth, file⟩ := s
      obtain ⟨level', dir', truth', file'⟩ := t
      cases (hs .logLevel).symm.trans (ht .logLevel)
      cases (hs .logDir).symm.trans (ht .logDir)
      cases (hs .fileLogging).symm.trans (ht .fileLogging)
      cases (hs .configFile).symm.trans (ht .configFile)
      rfl
    · have holds := hs setting
      rw [hv] at holds
      exact absurd invalid holds.not_invalid
  · rcases ht with ht | ⟨rfl, -⟩
    · have holds := ht setting
      rw [hv] at holds
      exact absurd invalid holds.not_invalid
    · rfl

/-! ## Sources -/

/-- A source that is missing, or a file with a mapping whose sections are mappings. -/
inductive Mapped (w : World) (p : Path) : Layer → Prop
  | absent (absent : w.exists? p = .ok false) : Mapped w p []
  | mapping {content : Bytes} {pairs : Layer} (there : w.exists? p = .ok true)
      (reads : w.read p = .ok content)
      (writes : Yaml.Node.typedDocument (.ofBytes content) = .ok (.map pairs))
      (sections : ∀ (setting : Setting) (v : Value),
        (Value.map pairs).get? setting.outer = some v → ∃ inner, v = .map inner) :
      Mapped w p pairs

theorem Mapped.taken {p : Path} {layer : Layer} (h : Mapped w p layer) :
    ∃ notes, Taken w p layer notes := by
  cases h with
  | absent absent => exact ⟨_, .absent absent⟩
  | mapping there reads writes sections => exact ⟨_, .mapping there reads writes⟩

theorem Mapped.sectioned {p : Path} {layer : Layer} (h : Mapped w p layer) : Sectioned layer := by
  cases h with
  | absent absent => exact .nil
  | mapping there reads writes sections =>
    obtain ⟨distinct, written⟩ := Yaml.Node.typedDocument_map writes
    refine ⟨distinct, ?_⟩
    intro setting v hv
    rw [← Pairs.last?_of_distinct distinct] at hv
    obtain ⟨inner, rfl⟩ := sections setting v hv
    refine ⟨inner, rfl, ?_⟩
    rw [Pairs.last?_of_distinct distinct] at hv
    obtain ⟨fuel, tree, n, htyped⟩ := written _ (Pairs.mem_of_find? hv)
    exact (Yaml.Node.typed_map htyped).1

theorem exists_taken {ps : List Path} {layers : List Layer}
    (h : List.Forall₂ (Mapped w) ps layers) :
    ∃ ts, AllTaken w ps ts ∧ ts.map Prod.fst = layers := by
  induction h with
  | nil => exact ⟨[], .nil, rfl⟩
  | cons mapped _ ih =>
    obtain ⟨notes, taken⟩ := mapped.taken
    obtain ⟨ts, htaken, rfl⟩ := ih
    exact ⟨(_, notes) :: ts, .cons taken htaken, rfl⟩

theorem sectioned_of_mapped {ps : List Path} {layers : List Layer}
    (h : List.Forall₂ (Mapped w) ps layers) : ∀ layer ∈ layers, Sectioned layer := by
  induction h with
  | nil => simp
  | cons mapped _ ih => exact List.forall_mem_cons.mpr ⟨mapped.sectioned, ih⟩

/-! ## The environment -/

/-- The environment variable for a setting. -/
def Setting.variable_ : Setting → String
  | .logLevel => "ARGSFILTER_LOG_LEVEL"
  | .logDir => "ARGSFILTER_LOG_DIR"
  | .fileLogging => "ARGSFILTER_FILE_LOGS"
  | .configFile => "ARGSFILTER_CONFIG"

/-- The value that a text in the environment stands for. -/
def Setting.ofVariable : Setting → Text → Value
  | .fileLogging, t => .bool (isTrueWord t)
  | _, t => .text t

/-- The text of the variable for a setting, if it is set and not empty. -/
def variableText (w : World) (setting : Setting) : Option Text :=
  (w.valueOf? setting.variable_).filter fun t => !t.isEmpty

theorem fromVariable_eq (setting : Setting) :
    fromVariable w setting.variable_ setting.key setting.ofVariable =
      ((variableText w setting).map fun t => (setting.key, setting.ofVariable t)).toList := by
  unfold fromVariable variableText
  cases w.valueOf? setting.variable_ with
  | none => rfl
  | some t =>
    cases t with
    | nil => rfl
    | cons c t => rfl

/-- The layer that texts for the four settings make up. -/
def textLayer (level dir truth file : Option Text) : Layer :=
  sectionOf observabilityKey
      ((level.map fun t => (logLevelKey, Value.text t)).toList
        ++ (dir.map fun t => (logDirKey, Value.text t)).toList
        ++ (truth.map fun t => (fileLoggingKey, Value.bool (isTrueWord t))).toList)
    ++ sectionOf filtersKey (file.map fun t => (configFileKey, Value.text t)).toList

theorem environmentLayer_eq (w : World) : environmentLayer w =
    textLayer (variableText w .logLevel) (variableText w .logDir) (variableText w .fileLogging)
      (variableText w .configFile) := by
  have hlevel := fromVariable_eq (w := w) .logLevel
  have hdir := fromVariable_eq (w := w) .logDir
  have htruth := fromVariable_eq (w := w) .fileLogging
  have hfile := fromVariable_eq (w := w) .configFile
  unfold environmentLayer
  exact congrArg₂ _ (congrArg _ (congrArg₂ _ (congrArg₂ _ hlevel hdir) htruth)) (congrArg _ hfile)

/-- Any of the texts may be left out, and a section without texts is left out itself. -/
theorem valueIn_textLayer (level dir truth file : Option Text) (setting : Setting) :
    valueIn setting (textLayer level dir truth file) =
      Option.map setting.ofVariable (match setting with
        | .logLevel => level
        | .logDir => dir
        | .fileLogging => truth
        | .configFile => file) := by
  cases level <;> cases dir <;> cases truth <;> cases file <;> cases setting <;> rfl

/-- A setting has the text of its variable, unless this is empty. -/
theorem valueIn_environmentLayer (w : World) (setting : Setting) :
    valueIn setting (environmentLayer w) = (variableText w setting).map setting.ofVariable := by
  rw [environmentLayer_eq, valueIn_textLayer]
  cases setting <;> rfl

theorem keys_sublist (key : Text) (value : Text → Value) (t : Option Text) :
    ((t.map fun t => (key, value t)).toList.map Prod.fst).Sublist [key] := by
  cases t with
  | none => exact List.nil_sublist _
  | some t => exact List.Sublist.refl _

theorem keys_sectionOf_sublist (key : Text) (pairs : Layer) :
    ((sectionOf key pairs).map Prod.fst).Sublist [key] := by
  unfold sectionOf
  split
  · exact List.nil_sublist _
  · exact List.Sublist.refl _

theorem mem_sectionOf {key : Text} {pairs : Layer} {p : Text × Value}
    (h : p ∈ sectionOf key pairs) : p.2 = .map pairs := by
  unfold sectionOf at h
  split at h
  · cases h
  · rw [List.mem_singleton.mp h]

/-- No key stands twice in the environment. -/
theorem sectioned_textLayer (level dir truth file : Option Text) :
    Sectioned (textLayer level dir truth file) := by
  refine ⟨?_, ?_⟩
  · have sections : ([observabilityKey] ++ [filtersKey]).Nodup := by decide
    rw [Pairs.Distinct, textLayer, List.map_append]
    apply List.Nodup.sublist _ sections
    exact (keys_sectionOf_sublist _ _).append (keys_sectionOf_sublist _ _)
  · intro setting v hv
    rcases List.mem_append.mp (Pairs.mem_of_find? hv) with hmem | hmem
    · refine ⟨_, mem_sectionOf hmem, ?_⟩
      have keys : ([logLevelKey] ++ [logDirKey] ++ [fileLoggingKey]).Nodup := by decide
      rw [Pairs.Distinct, List.map_append, List.map_append]
      have texts := (keys_sublist logLevelKey .text level).append (keys_sublist logDirKey .text dir)
      exact List.Nodup.sublist (texts.append (keys_sublist _ _ truth)) keys
    · refine ⟨_, mem_sectionOf hmem, ?_⟩
      have key : [configFileKey].Nodup := by decide
      exact List.Nodup.sublist (keys_sublist _ _ file) key

/-! ## Loading -/

section

variable {named : Option Path} {layers : List Layer}

/-- The values that are chosen from the layers of files and from the environment over them. -/
def values (w : World) (layers : List Layer) : Setting → Option Value :=
  chosen (layers ++ [environmentLayer w])

theorem load_decided (sources : List.Forall₂ (Mapped w) (files w ++ named.toList) layers)
    (known : Homes w (values w layers)) :
    ∃ s, (load w named).ComesTo (.ok s) ∧ Decided w (values w layers) s := by
  obtain ⟨ts, taken, rfl⟩ := exists_taken sources
  have all : ∀ layer ∈ ts.map Prod.fst ++ [environmentLayer w], Sectioned layer := by
    rw [List.forall_mem_append, List.forall_mem_singleton, environmentLayer_eq]
    exact ⟨sectioned_of_mapped sources, sectioned_textLayer _ _ _ _⟩
  obtain ⟨sectioned, survives⟩ := merge_chosen all
  rcases holds_or_invalid known with ⟨s, holds⟩ | ⟨setting, v, hv, invalid⟩
  · have valid : ofPairs w (merged w ts) = .ok (.ok s) :=
      ofPairs_of_holds sectioned fun setting => (holds_survives (survives setting)).mpr (holds setting)
    exact ⟨s, (load_of_loaded (.valid taken valid)).comesTo, .inl holds⟩
  · rcases hpairs : ofPairs w (merged w ts) with e | faults | s
    · obtain ⟨-, setting, v, path, value, t, rfl, unknown⟩ := (ofPairs_error_iff _ _).mp hpairs
      have hchosen := eq_text_of_survives (value ▸ survives setting)
      exact absurd ⟨t, rfl, unknown⟩ (known setting _ path hchosen)
    · have comes := (load_of_loaded (.invalid taken hpairs)).comesTo
      exact ⟨{}, comes, .inr ⟨rfl, setting, v, hv, invalid⟩⟩
    · have holds := (holds_survives (survives setting)).mp (holds_of_ofPairs hpairs setting)
      change Holds w s setting (values w (ts.map Prod.fst) setting) at holds
      rw [hv] at holds
      exact absurd invalid holds.not_invalid

end

/-! ## The law -/

theorem expandHome_congr {w w' : World} (home : w'.home = w.home) (users : w'.users = w.users)
    (p : Path) : w'.expandHome p = w.expandHome p := by
  unfold World.expandHome
  rw [home, users]

theorem readPath_congr {w w' : World} (home : w'.home = w.home) (users : w'.users = w.users)
    (v : Value) : readPath w' v = readPath w v := by
  cases v with
  | text t => rw [readPath, readPath, expandHome_congr home users]
  | _ => rfl

theorem decided_congr {w w' : World} {value : Setting → Option Value} {s : Settings}
    (home : w'.home = w.home) (users : w'.users = w.users) (h : Decided w' value s) :
    Decided w value s := by
  have same : readPath w' = readPath w := funext (readPath_congr home users)
  have holds : ∀ setting v, Holds w' s setting v → Holds w s setting v := by
    intro setting v hv
    cases setting <;> simpa only [Holds, pathOf, same] using hv
  have invalid : ∀ setting v, Invalid w' setting v → Invalid w setting v := by
    intro setting v hv
    cases setting <;> simpa only [Invalid, same] using hv
  rcases h with h | ⟨rfl, setting, v, hv, why⟩
  · exact .inl fun setting => holds setting _ (h setting)
  · exact .inr ⟨rfl, setting, v, hv, invalid setting v why⟩

/-- Each of the settings comes from the last source that has a value for it, a null among them, and
is the default where there is none; but if any of these values is not valid, all are the defaults.
A variable of the environment that is empty has no value. What other values there are has no say:
other sources of which the same values are chosen make the same settings. -/
theorem the_last_source_of_a_setting_decides {w : World} {named : Option Path}
    {layers : List Layer} (sources : List.Forall₂ (Mapped w) (files w ++ named.toList) layers)
    (known : Homes w (values w layers)) :
    ∃ s, (load w named).ComesTo (.ok s) ∧
      ((∀ setting, Holds w s setting (values w layers setting)) ∨
        s = {} ∧ ∃ setting v, values w layers setting = some v ∧ Invalid w setting v) ∧
      (∀ setting, values w layers setting = ((variableText w setting).map setting.ofVariable).or
        (chosen layers setting)) ∧
      ∀ (w' : World) (named' : Option Path) (layers' : List Layer),
        List.Forall₂ (Mapped w') (files w' ++ named'.toList) layers' → w'.home = w.home →
        w'.users = w.users → (∀ setting, values w' layers' setting = values w layers setting) →
        (load w' named').ComesTo (.ok s) := by
  obtain ⟨s, comes, decided⟩ := load_decided sources known
  refine ⟨s, comes, decided, ?_, ?_⟩
  · intro setting
    rw [← valueIn_environmentLayer]
    exact chosen_snoc layers _ setting
  · intro w' named' layers' sources' home users same
    have hvalues : values w' layers' = values w layers := funext same
    have known' : Homes w' (values w' layers') := by
      rw [hvalues]
      rintro setting v path value ⟨t, rfl, unknown⟩
      rw [expandHome_congr home users] at unknown
      exact known setting _ path value ⟨t, rfl, unknown⟩
    obtain ⟨s', comes', decided'⟩ := load_decided sources' known'
    rw [hvalues] at decided'
    rw [decided.unique (decided_congr home users decided')]
    exact comes'

/-- The file in the home asks for a level that there is none of, and for a place for the log and a
rules file, which the file in the work directory and the environment put elsewhere. -/
def layeredWorld : World where
  work := ⟨"/", ["work"]⟩
  home := ⟨"/", ["home"]⟩
  users := [("ann", ⟨"/", ["ann"]⟩)]
  entries := [
    (⟨"/", ["home", ".argsfilter", "config.yaml"]⟩, .file (Bytes.ofString
      "observability: {log_level: loud, log_dir: a, file_logging: on}\nfilters: {config_file: b}")),
    (⟨"/", ["work", ".argsfilter.yaml"]⟩, .file (Bytes.ofString
      "observability: {log_dir: ~/logs}"))]
  environment := [("ARGSFILTER_LOG_LEVEL", "debug"), ("ARGSFILTER_FILE_LOGS", ""),
    ("ARGSFILTER_CONFIG", "~ann/r.yaml")]

/-- The layer of the file in the home. -/
def homeLayer : Layer :=
  [(observabilityKey, .map [(logLevelKey, .text "loud"), (logDirKey, .text "a"),
      (fileLoggingKey, .bool true)]),
    (filtersKey, .map [(configFileKey, .text "b")])]

/-- The layer of the file in the work directory. -/
def workLayer : Layer := [(observabilityKey, .map [(logDirKey, .text "~/logs")])]

def layeredSettings : Settings where
  logLevel := .debug
  logDir := some ⟨"/", ["home", "logs"]⟩
  fileLogging := true
  configFile := some ⟨"/", ["ann", "r.yaml"]⟩

/-- The level that is not valid is not chosen, and the empty variable leaves what the file says. The
paths are those of the last sources, with the homes that they name. -/
theorem layeredWorld_settings :
    List.Forall₂ (Mapped layeredWorld) (files layeredWorld ++ (none : Option Path).toList)
      [homeLayer, workLayer] ∧
    Homes layeredWorld (values layeredWorld [homeLayer, workLayer]) ∧
    (load layeredWorld none).ComesTo (.ok layeredSettings) := by
  have home : Mapped layeredWorld ⟨"/", ["home", ".argsfilter", "config.yaml"]⟩ homeLayer := by
    refine .mapping (by decide) rfl (by decide +kernel) ?_
    intro setting v hv
    cases setting <;> cases hv
    all_goals exact ⟨_, rfl⟩
  have work : Mapped layeredWorld ⟨"/", ["work", ".argsfilter.yaml"]⟩ workLayer := by
    refine .mapping (by decide) rfl (by decide +kernel) ?_
    intro setting v hv
    cases setting <;> cases hv
    all_goals exact ⟨_, rfl⟩
  have sources : List.Forall₂ (Mapped layeredWorld) (files layeredWorld ++ none.toList)
      [homeLayer, workLayer] := .cons home (.cons work .nil)
  have known : Homes layeredWorld (values layeredWorld [homeLayer, workLayer]) := by
    rintro setting v (rfl | rfl) hv
    · have hdir : values layeredWorld [homeLayer, workLayer] .logDir = some (.text "~/logs") := rfl
      cases hdir.symm.trans hv
      rintro ⟨t, ⟨⟩, unknown⟩
      exact absurd unknown (by decide)
    · have hfile : values layeredWorld [homeLayer, workLayer] .configFile =
          some (.text "~ann/r.yaml") := rfl
      cases hfile.symm.trans hv
      rintro ⟨t, ⟨⟩, unknown⟩
      exact absurd unknown (by decide)
  refine ⟨sources, known, ?_⟩
  obtain ⟨s, comes, decided, -⟩ := the_last_source_of_a_setting_decides sources known
  have holds : ∀ setting, Holds layeredWorld layeredSettings setting
      (values layeredWorld [homeLayer, workLayer] setting) := by
    intro setting
    cases setting <;> rfl
  rw [Decided.unique (.inl holds) decided]
  exact comes

end QuerySieve.Settings
