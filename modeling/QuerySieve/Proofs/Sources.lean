-- The laws of where settings come from. Each settings file is taken, with a note of what became of
-- it, or it ends the loading; what a file is taken for is never a failure. The layers of all files
-- and of the environment make up the settings, or the defaults where they are not valid.
import Mathlib
import QuerySieve.Proofs.Gives
import QuerySieve.Proofs.Layers

namespace QuerySieve

/-! ## Notes -/

/-- A record of the part of the program that loads settings. -/
abbrev Settings.Note := Level × Text

/-- Writes notes, one after another. -/
def Journal.note (notes : List Settings.Note) (j : Journal) : Journal :=
  notes.foldl (fun j n => j.write n.1 Settings.source n.2) j

/-- The attempt comes to a result, and notes are all that it leaves in the journal. -/
def Attempt.Notes {α : Type} (step : Attempt α) (r : Except Trouble α)
    (notes : List Settings.Note) : Prop :=
  ∀ j : Journal, step.run j = (r, j.note notes)

namespace Attempt.Notes

variable {α β : Type} {notes more : List Settings.Note}

theorem comesTo {step : Attempt α} {r : Except Trouble α} (h : step.Notes r notes) :
    step.ComesTo r := fun j => congrArg Prod.fst (h j)

theorem pure (a : α) : Notes (pure a) (.ok a) [] := fun _ => rfl

theorem stray (s : Stray) : Notes (stray s : Attempt α) (.error (.stray s)) [] := fun _ => rfl

theorem record (level : Level) (message : Text) :
    Notes (liftM (record level Settings.source message) : Attempt Unit) (.ok ())
      [(level, message)] := fun _ => rfl

theorem bind {step : Attempt α} {next : α → Attempt β} {a : α} {r : Except Trouble β}
    (hs : step.Notes (.ok a) notes) (hn : (next a).Notes r more) :
    Notes (step >>= next) r (notes ++ more) := by
  intro j
  change ExceptT.bindCont next (step.run j).1 (step.run j).2 = _
  rw [hs j]
  change (next a).run (j.note notes) = _
  rw [hn, Journal.note, Journal.note, Journal.note, List.foldl_append]

theorem map {step : Attempt α} {a : α} (f : α → β) (hs : step.Notes (.ok a) notes) :
    Notes (do return f (← step)) (.ok (f a)) notes := by
  intro j
  change ExceptT.bindCont (fun a => (Pure.pure (f a) : Attempt β)) (step.run j).1 (step.run j).2 = _
  rw [hs j]
  rfl

theorem stop {step : Attempt α} {next : α → Attempt β} {t : Trouble}
    (hs : step.Notes (.error t) notes) : Notes (step >>= next) (.error t) notes := by
  intro j
  change ExceptT.bindCont next (step.run j).1 (step.run j).2 = _
  rw [hs j]
  rfl

end Attempt.Notes

namespace Settings

/-! ## One file -/

/-- The note of a file that cannot be loaded. -/
def skipped (p : Path) (said : Text) : Note :=
  (.error, "Failed to load settings file " ++ p.shown ++ ": " ++ said)

/-- What a file is taken for, and what is noted of it. -/
inductive Taken (w : World) (p : Path) : Layer → List Note → Prop
  | absent (absent : w.exists? p = .ok false) : Taken w p [] []
  | unread {e : PathError} (there : w.exists? p = .ok true) (refuses : w.read p = .error e) :
      Taken w p [] [skipped p e.message]
  | malformed {content : Bytes} {c : Yaml.Complaint} (there : w.exists? p = .ok true)
      (reads : w.read p = .ok content)
      (complains : Yaml.Node.typedDocument (.ofBytes content) = .error (.complaint c)) :
      Taken w p [] [skipped p (c.message ⟨p.shown, none⟩)]
  | empty {content : Bytes} (there : w.exists? p = .ok true) (reads : w.read p = .ok content)
      (writes : Yaml.Node.typedDocument (.ofBytes content) = .ok .null) : Taken w p [] []
  | mapping {content : Bytes} {pairs : Layer} (there : w.exists? p = .ok true)
      (reads : w.read p = .ok content)
      (writes : Yaml.Node.typedDocument (.ofBytes content) = .ok (.map pairs)) :
      Taken w p pairs [(.debug, "Loaded settings from " ++ p.shown)]
  | shapeless {content : Bytes} {v : Value} (there : w.exists? p = .ok true)
      (reads : w.read p = .ok content)
      (writes : Yaml.Node.typedDocument (.ofBytes content) = .ok v) (full : v ≠ .null)
      (other : ∀ pairs, v ≠ .map pairs) :
      Taken w p []
        [(.error, "Settings file " ++ p.shown ++ " must contain a mapping, ignoring it")]

/-- The errors that end the loading at a file. -/
inductive Escapes (w : World) (p : Path) : Stray → Prop
  | look {e : PathError} (refuses : w.exists? p = .error e) : Escapes w p (.path e)
  | undecodable {content : Bytes} {e : Undecodable} (there : w.exists? p = .ok true)
      (reads : w.read p = .ok content)
      (breaks : Yaml.Node.typedDocument (.ofBytes content) = .error (.undecodable e)) :
      Escapes w p (.undecodable e)
  | scalar {content : Bytes} {f : Yaml.ScalarFault} (there : w.exists? p = .ok true)
      (reads : w.read p = .ok content)
      (breaks : Yaml.Node.typedDocument (.ofBytes content) = .error (.scalar f)) :
      Escapes w p (.scalar f)

variable {w : World} {p : Path}

/-- Every file is taken for something or ends the loading. -/
theorem taken_or_escapes (w : World) (p : Path) :
    (∃ t : Layer × List Note, Taken w p t.1 t.2) ∨ ∃ s, Escapes w p s := by
  cases there : w.exists? p with
  | error e => exact .inr ⟨_, .look there⟩
  | ok found =>
    cases found with
    | false => exact .inl ⟨([], []), .absent there⟩
    | true =>
      cases reads : w.read p with
      | error e => exact .inl ⟨([], _), .unread there reads⟩
      | ok content =>
        rcases hdoc : Yaml.Node.typedDocument (.ofBytes content) with (c | e | f) | v
        · exact .inl ⟨([], _), .malformed there reads hdoc⟩
        · exact .inr ⟨_, .undecodable there reads hdoc⟩
        · exact .inr ⟨_, .scalar there reads hdoc⟩
        · cases v with
          | null => exact .inl ⟨([], _), .empty there reads hdoc⟩
          | map pairs => exact .inl ⟨(pairs, _), .mapping there reads hdoc⟩
          | _ => exact .inl ⟨([], _), .shapeless there reads hdoc (by simp) (by simp)⟩

theorem fileLayer_of_taken {layer : Layer} {notes : List Note} (h : Taken w p layer notes) :
    (fileLayer w p).Notes (.ok layer) notes := by
  unfold fileLayer
  cases h with
  | absent absent =>
    rw [absent]
    exact .pure _
  | unread there refuses =>
    rw [there, refuses]
    exact .bind (.record _ _) (.pure _)
  | malformed there reads complains =>
    rw [there, reads]
    simp only [complains]
    exact .bind (.record _ _) (.pure _)
  | empty there reads writes =>
    rw [there, reads]
    simp only [writes]
    exact .pure _
  | mapping there reads writes =>
    rw [there, reads]
    simp only [writes]
    exact .bind (.record _ _) (.pure _)
  | shapeless there reads writes full other =>
    rw [there, reads]
    simp only [writes]
    cases ‹Value› with
    | null => exact absurd rfl full
    | map pairs => exact absurd rfl (other pairs)
    | _ => exact .bind (.record _ _) (.pure _)

theorem fileLayer_of_escapes {s : Stray} (h : Escapes w p s) :
    (fileLayer w p).Notes (.error (.stray s)) [] := by
  unfold fileLayer
  cases h with
  | look refuses =>
    rw [refuses]
    exact .stray _
  | undecodable there reads breaks =>
    rw [there, reads]
    simp only [breaks]
    exact .stray _
  | scalar there reads breaks =>
    rw [there, reads]
    simp only [breaks]
    exact .stray _

/-! ## All files -/

/-- Files that are taken, each with its layer and its notes. -/
abbrev AllTaken (w : World) (ps : List Path) (ts : List (Layer × List Note)) : Prop :=
  List.Forall₂ (fun p t => Taken w p t.1 t.2) ps ts

theorem fileLayers_of_taken {ps : List Path} {ts : List (Layer × List Note)}
    (h : AllTaken w ps ts) :
    (fileLayers w ps).Notes (.ok (ts.map Prod.fst)) (ts.flatMap Prod.snd) := by
  induction h with
  | nil => exact .pure _
  | cons taken _ ih => exact .bind (fileLayer_of_taken taken) (ih.map _)

/-- The files after the one where the loading ends are not looked at. -/
theorem fileLayers_of_escapes {before after : List Path} {ts : List (Layer × List Note)} {s : Stray}
    (h : AllTaken w before ts) (escapes : Escapes w p s) :
    (fileLayers w (before ++ p :: after)).Notes (.error (.stray s)) (ts.flatMap Prod.snd) := by
  induction h with
  | nil => exact .stop (fileLayer_of_escapes escapes)
  | cons taken _ ih => exact .bind (fileLayer_of_taken taken) (.stop ih)

/-! ## Homes that are not known -/

/-- A value starts with the home of a user that is not known. -/
def Homeless (w : World) (v : Value) : Prop :=
  ∃ t, v = .text t ∧ w.expandHome (.ofText t) = .error .homeUnknown

theorem expandHome_error {e : PathError} (h : w.expandHome p = .error e) : e = .homeUnknown := by
  unfold World.expandHome at h
  split at h
  · split at h
    · cases h
    · cases h
    · split at h
      · cases h
      · cases h
        rfl
  · cases h

theorem readPath_error_iff (v : Value) (e : PathError) :
    readPath w v = .error e ↔ e = .homeUnknown ∧ Homeless w v := by
  constructor
  · intro h
    cases v with
    | text t =>
      change (w.expandHome (.ofText t)).map _ = _ at h
      cases hexpand : w.expandHome (.ofText t) with
      | error e' =>
        rw [hexpand] at h
        cases h
        have he := expandHome_error hexpand
        exact ⟨he, t, rfl, he ▸ hexpand⟩
      | ok p =>
        rw [hexpand] at h
        cases h
    | _ => cases h
  · rintro ⟨rfl, t, rfl, hexpand⟩
    rw [readPath, hexpand]
    rfl

/-- The value that settings have for one of them is the one under its key in its section. -/
theorem last?_section (setting : Setting) (pairs : Layer) :
    Pairs.last? setting.key (orElse [] (sectionPairs (Pairs.last? setting.outer pairs))) =
      valueIn setting pairs := by
  unfold valueIn
  change _ = (Pairs.last? setting.outer pairs).bind (Value.get? setting.key)
  rcases Pairs.last? setting.outer pairs with _ | v
  · rfl
  · cases v with
    | map inner | ledger inner _ => rfl
    | _ => rfl

/-- A path that may be left out. -/
def pathOf (w : World) (v : Option Value) : Except PathError (Except Fault (Option Path)) :=
  v.elim (.ok (.ok none)) (readPath w)

theorem pathOf_eq_error {v : Option Value} {e : PathError} (h : pathOf w v = .error e) :
    ∃ v', v = some v' ∧ readPath w v' = .error e := by
  cases v with
  | none => cases h
  | some v => exact ⟨v, rfl, h⟩

theorem optionalPath_eq (key : Text) (pairs : Layer) :
    optionalPath w key pairs = pathOf w (Pairs.last? key pairs) := by
  unfold optionalPath pathOf
  cases Pairs.last? key pairs with
  | none => rfl
  | some v => rfl

theorem ofPairs_eq (pairs : Layer) : ofPairs w pairs = (do
    let logDir ← pathOf w (valueIn .logDir pairs)
    let configFile ← pathOf w (valueIn .configFile pairs)
    let filters := sectionPairs (Pairs.last? filtersKey pairs)
    let observability := sectionPairs (Pairs.last? observabilityKey pairs)
    let logLevel := optionally Level.info readLevel (valueIn .logLevel pairs)
    let fileLogging := optionally false readTruth (valueIn .fileLogging pairs)
    let faults :=
      faultsAt [filtersKey] filters ++ faultsAt [filtersKey, configFileKey] configFile
        ++ faultsAt [observabilityKey] observability
        ++ faultsAt [observabilityKey, fileLoggingKey] fileLogging
        ++ faultsAt [observabilityKey, logDirKey] logDir
        ++ faultsAt [observabilityKey, logLevelKey] logLevel
    if faults.isEmpty then
      return .ok {
        logLevel := orElse .info logLevel
        logDir := orElse none logDir
        fileLogging := orElse false fileLogging
        configFile := orElse none configFile }
    else return .error faults) := by
  unfold ofPairs
  simp only [optionalPath_eq, ← last?_section]
  rfl

/-- Only a path ends the reading of settings, and only one with a home that is not known. -/
theorem ofPairs_error_iff (pairs : Layer) (e : PathError) :
    ofPairs w pairs = .error e ↔
      e = .homeUnknown ∧ ∃ setting v, (setting = .logDir ∨ setting = .configFile) ∧
        valueIn setting pairs = some v ∧ Homeless w v := by
  rw [ofPairs_eq]
  constructor
  · intro h
    rcases Reading.bind_eq_error h with hdir | ⟨dir, -, h⟩
    · obtain ⟨v, hv, hread⟩ := pathOf_eq_error hdir
      obtain ⟨he, homeless⟩ := (readPath_error_iff v e).mp hread
      exact ⟨he, .logDir, v, .inl rfl, hv, homeless⟩
    · rcases Reading.bind_eq_error h with hfile | ⟨file, -, h⟩
      · obtain ⟨v, hv, hread⟩ := pathOf_eq_error hfile
        obtain ⟨he, homeless⟩ := (readPath_error_iff v e).mp hread
        exact ⟨he, .configFile, v, .inr rfl, hv, homeless⟩
      · dsimp only at h
        split at h <;> cases h
  · rintro ⟨rfl, setting, v, which, hv, homeless⟩
    have stops : pathOf w (some v) = .error .homeUnknown :=
      (readPath_error_iff v _).mpr ⟨rfl, homeless⟩
    rcases which with rfl | rfl
    · rw [hv, stops]
      rfl
    · rw [hv, stops]
      cases hdir : pathOf w (valueIn .logDir pairs) with
      | ok dir => rfl
      | error e =>
        obtain ⟨v', -, hread⟩ := pathOf_eq_error hdir
        rw [((readPath_error_iff v' e).mp hread).1]
        rfl

/-! ## Loading -/

/-- What is noted of settings that are not valid. -/
def refusal : Note := (.error, "Invalid args_filter settings, using defaults: ")

/-- What files that were taken make up, with the environment over them. -/
def merged (w : World) (ts : List (Layer × List Note)) : Layer :=
  Layers.merge (ts.map Prod.fst ++ [environmentLayer w])

/-- What loading settings comes to, and what is noted on the way. -/
inductive Loaded (w : World) (named : Option Path) : Except Trouble Settings → List Note → Prop
  | valid {ts : List (Layer × List Note)} {s : Settings}
      (taken : AllTaken w (files w ++ named.toList) ts)
      (valid : ofPairs w (merged w ts) = .ok (.ok s)) :
      Loaded w named (.ok s) (ts.flatMap Prod.snd)
  | invalid {ts : List (Layer × List Note)} {faults : List Located}
      (taken : AllTaken w (files w ++ named.toList) ts)
      (invalid : ofPairs w (merged w ts) = .ok (.error faults)) :
      Loaded w named (.ok {}) (ts.flatMap Prod.snd ++ [refusal])
  | homeless {ts : List (Layer × List Note)} {setting : Setting} {v : Value}
      (taken : AllTaken w (files w ++ named.toList) ts)
      (path : setting = .logDir ∨ setting = .configFile)
      (value : valueIn setting (merged w ts) = some v) (homeless : Homeless w v) :
      Loaded w named (.error (.stray (.path .homeUnknown))) (ts.flatMap Prod.snd)
  | escaped {before after : List Path} {p : Path} {ts : List (Layer × List Note)} {s : Stray}
      (split : files w ++ named.toList = before ++ p :: after) (taken : AllTaken w before ts)
      (escapes : Escapes w p s) : Loaded w named (.error (.stray s)) (ts.flatMap Prod.snd)

theorem load_of_taken {named : Option Path} {ts : List (Layer × List Note)}
    {r : Except Trouble Settings} {n : List Note}
    (taken : AllTaken w (files w ++ named.toList) ts)
    (h : (match ofPairs w (merged w ts) with
      | .error e => Attempt.stray (.path e)
      | .ok (.ok s) => return s
      | .ok (.error _) => do
        record .error source "Invalid args_filter settings, using defaults: "
        return {} : Attempt Settings).Notes r n) :
    (load w named).Notes r (ts.flatMap Prod.snd ++ n) :=
  .bind (fileLayers_of_taken taken) h

theorem load_of_loaded {named : Option Path} {r : Except Trouble Settings} {notes : List Note}
    (h : Loaded w named r notes) : (load w named).Notes r notes := by
  cases h with
  | valid taken valid =>
    have h := load_of_taken (n := []) taken (by rw [valid]; exact .pure _)
    rwa [List.append_nil] at h
  | invalid taken invalid =>
    apply load_of_taken taken
    rw [invalid]
    exact .bind (.record _ _) (.pure _)
  | homeless taken path value homeless =>
    have hpairs := (ofPairs_error_iff _ _).mpr ⟨rfl, _, _, path, value, homeless⟩
    have h := load_of_taken (n := []) taken (by rw [hpairs]; exact .stray _)
    rwa [List.append_nil] at h
  | escaped split taken escapes =>
    unfold load
    rw [split]
    exact .stop (fileLayers_of_escapes taken escapes)

theorem exists_loaded (w : World) (named : Option Path) : ∃ r notes, Loaded w named r notes := by
  rcases Reading.forall₂_or_first (taken_or_escapes w) (files w ++ named.toList) with
    ⟨ts, taken⟩ | ⟨before, ts, p, after, split, taken, s, escapes⟩
  · rcases hpairs : ofPairs w (merged w ts) with e | faults | s
    · obtain ⟨-, setting, v, path, value, homeless⟩ := (ofPairs_error_iff _ _).mp hpairs
      exact ⟨_, _, .homeless taken path value homeless⟩
    · exact ⟨_, _, .invalid taken hpairs⟩
    · exact ⟨_, _, .valid taken hpairs⟩
  · exact ⟨_, _, .escaped split taken escapes⟩

/-! ## The law -/

/-- Loading settings comes to settings or to a stray error, never to a failure, and leaves just its
notes. A file that is missing, cannot be read, cannot be parsed or writes no mapping has no say; an
error is noted, unless the file is missing or empty. Settings that are not valid give way to the
defaults. It is a stray error just where a file escapes, because its name is too long to be asked
about, its octets do not decode or one of its scalars is out of range, and where the path that comes
out of all layers starts with the home of a user that is not known. -/
theorem settings_load_unless_a_source_escapes (w : World) (named : Option Path) :
    (∃ r notes, Loaded w named r notes ∧ (load w named).Notes r notes) ∧
    (∀ f, ¬ (load w named).ComesTo (.error (.failure f))) ∧
    ((∃ s, (load w named).ComesTo (.ok s)) ↔
      ∃ ts, AllTaken w (files w ++ named.toList) ts ∧
        ∀ setting v, setting = .logDir ∨ setting = .configFile →
          valueIn setting (merged w ts) = some v → ¬ Homeless w v) := by
  obtain ⟨r, notes, loaded⟩ := exists_loaded w named
  have hload := load_of_loaded loaded
  refine ⟨⟨r, notes, loaded, hload⟩, ?_, ?_, ?_⟩
  · intro f failed
    cases hload.comesTo.unique failed
    cases loaded
  · rintro ⟨s, comes⟩
    cases hload.comesTo.unique comes
    cases loaded with
    | valid taken valid =>
      refine ⟨_, taken, ?_⟩
      intro setting v path value homeless
      rw [(ofPairs_error_iff _ _).mpr ⟨rfl, setting, v, path, value, homeless⟩] at valid
      cases valid
    | invalid taken invalid =>
      refine ⟨_, taken, ?_⟩
      intro setting v path value homeless
      rw [(ofPairs_error_iff _ _).mpr ⟨rfl, setting, v, path, value, homeless⟩] at invalid
      cases invalid
  · rintro ⟨ts, taken, known⟩
    rcases hpairs : ofPairs w (merged w ts) with e | faults | s
    · obtain ⟨-, setting, v, path, value, homeless⟩ := (ofPairs_error_iff _ _).mp hpairs
      exact absurd homeless (known setting v path value)
    · exact ⟨_, (load_of_loaded (.invalid taken hpairs)).comesTo⟩
    · exact ⟨_, (load_of_loaded (.valid taken hpairs)).comesTo⟩

/-- A world where the settings file of the working directory holds one octet that starts no
character. -/
def brokenWorld : World where
  work := ⟨"/", ["work"]⟩
  home := ⟨"/", ["home"]⟩
  entries := [(⟨"/", ["work", ".argsfilter.yaml"]⟩, .file [0xff])]

theorem brokenWorld_has_no_settings :
    (∃ e, (load brokenWorld none).ComesTo (.error (.stray (.undecodable e)))) ∧
    ¬ ∃ s, (load brokenWorld none).ComesTo (.ok s) := by
  have absent : Taken brokenWorld ⟨"/", ["home", ".argsfilter", "config.yaml"]⟩ [] [] :=
    .absent (by decide)
  have taken : AllTaken brokenWorld [_] [([], [])] := .cons absent .nil
  have reads : brokenWorld.read ⟨"/", ["work", ".argsfilter.yaml"]⟩ = .ok [0xff] := by decide
  obtain ⟨e, escapes⟩ : ∃ e, Escapes brokenWorld ⟨"/", ["work", ".argsfilter.yaml"]⟩
      (.undecodable e) := ⟨_, .undecodable (by decide) reads (by cbv)⟩
  have loaded : Loaded brokenWorld none (.error (.stray (.undecodable e))) [] :=
    .escaped rfl taken escapes
  have comes := (load_of_loaded loaded).comesTo
  refine ⟨⟨e, comes⟩, ?_⟩
  rintro ⟨s, other⟩
  cases comes.unique other

end Settings

end QuerySieve
