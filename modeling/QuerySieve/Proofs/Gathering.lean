-- The laws of the words of a command line. A switch and its value may be written in several ways,
-- and words that write them add just this to what is gathered from the words after them. An operand
-- is what starts with no dash.
import QuerySieve.Command.Reading

namespace QuerySieve.Command

/-! ## Ways to write a switch -/

/-- The switch stands among others, takes a value, and its names are its own. -/
structure Switch.StandsIn (s : Switch) (switches : List Switch) : Prop where
  takes : s.takesValue = true
  named : switches.find? (fun x => x.longName = s.longName) = some s
  lettered : ∀ c, s.short = some c →
    c ≠ Switch.dash ∧ switches.find? (fun x => x.short = some c) = some s
  nonempty : s.long ≠ []
  whole : equals ∉ s.long

/-- The words that give a switch its value: by its name or by its letter, in the next word or in the
same one. -/
inductive Spelled (s : Switch) (v : Text) : List Text → Prop
  | named : Spelled s v [s.longName, v]
  | joined : Spelled s v [s.longName ++ equals :: v]
  | lettered {c : CodePoint} (letter : s.short = some c) : Spelled s v [Switch.letterName c, v]
  | attached {c : CodePoint} (letter : s.short = some c) (nonempty : v ≠ []) :
      Spelled s v [Switch.letterName c ++ v]

/-- Words that give a switch values, one after another. -/
inductive Repeated (s : Switch) : List Text → Prop
  | nil : Repeated s []
  | more {v : Text} {words rest : List Text} (spelled : Spelled s v words) (more : Repeated s rest) :
      Repeated s (words ++ rest)

/-- What starts with no dash is no switch. -/
def Operand (t : Text) : Prop := t.head? ≠ some Switch.dash

instance (t : Text) : Decidable (Operand t) := inferInstanceAs (Decidable (_ ≠ _))

/-! ## One word -/

theorem splitValue_of_notMem {t : Text} (h : equals ∉ t) : splitValue t = (t, none) := by
  have hname : ∀ c ∈ t, decide (c ≠ equals) = true := by
    intro c hc
    rw [decide_eq_true_eq]
    rintro rfl
    exact h hc
  unfold splitValue
  rw [← List.append_nil t, List.dropWhile_append_of_pos hname]
  rfl

theorem splitValue_append {name : Text} (h : equals ∉ name) (v : Text) :
    splitValue (name ++ equals :: v) = (name, some v) := by
  have hname : ∀ c ∈ name, decide (c ≠ equals) = true := by
    intro c hc
    rw [decide_eq_true_eq]
    rintro rfl
    exact h hc
  unfold splitValue
  rw [List.dropWhile_append_of_pos hname, List.takeWhile_append_of_pos hname]
  simp

theorem not_isSwitchWord {t : Text} (h : Operand t) : isSwitchWord t = false := by
  unfold isSwitchWord
  split
  next c _ _ =>
    rw [decide_eq_false_iff_not]
    rintro rfl
    exact h rfl
  · rfl

section

variable {s : Switch} {switches : List Switch} {c : CodePoint}

namespace Switch.StandsIn

theorem readLong (h : s.StandsIn switches) (value : Option Text) :
    Command.readLong switches s.longName value = .ok (match value with
      | some v => { given := [(s, v)] }
      | none => { open_ := some (s, s.longName) }) := by
  unfold Command.readLong
  rw [h.named]
  simp only [h.takes]
  cases value with
  | none => rfl
  | some v => rfl

theorem equals_notMem (h : s.StandsIn switches) : equals ∉ s.longName := by
  have hdash : equals ≠ Switch.dash := by decide
  simpa [longName, hdash] using h.whole

theorem readWord_longName (h : s.StandsIn switches) :
    readWord switches s.longName = .ok { open_ := some (s, s.longName) } := by
  unfold readWord
  rw [if_pos (by rfl), splitValue_of_notMem h.equals_notMem]
  exact h.readLong none

theorem readWord_joined (h : s.StandsIn switches) (v : Text) :
    readWord switches (s.longName ++ equals :: v) = .ok { given := [(s, v)] } := by
  unfold readWord
  rw [if_pos (by rfl), splitValue_append h.equals_notMem]
  exact h.readLong (some v)

/-- A letter is no dash, so its word is not taken for a long one. -/
theorem readWord_letterName (h : s.StandsIn switches) (letter : s.short = some c) (v : Text) :
    readWord switches (letterName c ++ v) = .ok (if v.isEmpty
      then { open_ := some (s, letterName c) } else { given := [(s, v)] }) := by
  obtain ⟨other, found⟩ := h.lettered c letter
  have short : isLongWord (letterName c ++ v) = false := by
    simpa [isLongWord, letterName] using other
  unfold readWord
  rw [short, if_neg Bool.false_ne_true]
  change readLetters switches (c :: v) = _
  rw [readLetters, found]
  simp only [h.takes, if_true]

end Switch.StandsIn

/-! ## Words in a row -/

section

variable {mixes : Bool} {t v : Text} {rest : List Text}

theorem gather_of_given {given : List Given} (switch : isSwitchWord t = true)
    (going : t ≠ [Switch.dash, Switch.dash]) (reads : readWord switches t = .ok { given }) :
    gather switches mixes (t :: rest) =
      (gather switches mixes rest).map (Gathered.withGiven given) := by
  rw [gather, if_neg going, if_pos switch, reads]

theorem gather_of_open {name : Text} (switch : isSwitchWord t = true)
    (going : t ≠ [Switch.dash, Switch.dash])
    (reads : readWord switches t = .ok { open_ := some (s, name) }) :
    gather switches mixes (t :: v :: rest) =
      (gather switches mixes rest).map (Gathered.withGiven [(s, v)]) := by
  rw [gather, if_neg going, if_pos switch, reads]
  rfl

theorem gather_operand (h : Operand t) :
    gather switches mixes (t :: rest) = if mixes
      then (gather switches mixes rest).map (Gathered.withOperand t)
      else .ok { operands := t :: rest } := by
  have going : t ≠ [Switch.dash, Switch.dash] := by
    rintro rfl
    exact h rfl
  rw [gather, if_neg going, not_isSwitchWord h, if_neg Bool.false_ne_true]

end

/-- However a switch and its value are written, they are gathered, and so are the words after
them. -/
theorem gather_spelled {v : Text} {words : List Text} (h : s.StandsIn switches)
    (spelled : Spelled s v words) (mixes : Bool) (rest : List Text) :
    gather switches mixes (words ++ rest) =
      (gather switches mixes rest).map (Gathered.withGiven [(s, v)]) := by
  have long : ∀ t, s.longName ++ t ≠ [Switch.dash, Switch.dash] := by
    intro t same
    simp [Switch.longName, h.nonempty] at same
  have short : ∀ c, s.short = some c → ∀ t,
      Switch.letterName c ++ t ≠ [Switch.dash, Switch.dash] := by
    intro c letter t same
    simp [Switch.letterName, (h.lettered c letter).1] at same
  cases spelled with
  | named =>
    have going := long []
    rw [List.append_nil] at going
    exact gather_of_open (by rfl) going h.readWord_longName
  | joined => exact gather_of_given (by rfl) (long _) (h.readWord_joined v)
  | lettered letter =>
    have reads := h.readWord_letterName letter []
    exact gather_of_open (by rfl) (short _ letter []) reads
  | attached letter nonempty =>
    have reads := h.readWord_letterName letter v
    rw [if_neg (by simpa using nonempty)] at reads
    exact gather_of_given (by rfl) (short _ letter v) reads

theorem map_withGiven_nil (r : Except Fault Gathered) : r.map (Gathered.withGiven []) = r := by
  cases r with
  | error f => rfl
  | ok g => rfl

/-- Values that a switch is given again and again. -/
theorem gather_repeated {words : List Text} (h : s.StandsIn switches) (repeated : Repeated s words)
    (mixes : Bool) : ∃ given : List Given, (∀ x ∈ given, x.1 = s) ∧ ∀ rest,
      gather switches mixes (words ++ rest) =
        (gather switches mixes rest).map (Gathered.withGiven given) := by
  induction repeated with
  | nil =>
    refine ⟨[], by simp, ?_⟩
    intro rest
    rw [List.nil_append, map_withGiven_nil]
  | @more v words more spelled _ ih =>
    obtain ⟨given, all, hmore⟩ := ih
    refine ⟨(s, v) :: given, List.forall_mem_cons.mpr ⟨rfl, all⟩, ?_⟩
    intro rest
    rw [List.append_assoc, gather_spelled h spelled, hmore]
    cases gather switches mixes rest with
    | error f => rfl
    | ok g => rfl

end

/-! ## The switches of the program -/

theorem logLevel_standsIn : Switch.logLevel.StandsIn Scope.program.switches where
  takes := rfl
  named := by decide
  lettered := by rintro c ⟨⟩; decide
  nonempty := by decide
  whole := by decide

theorem config_standsIn : Switch.config.StandsIn (Scope.verb .apply).switches where
  takes := rfl
  named := by decide
  lettered := by rintro c ⟨⟩; decide
  nonempty := by decide
  whole := by decide

theorem output_standsIn : Switch.output.StandsIn (Scope.verb .show_).switches where
  takes := rfl
  named := by decide
  lettered := by rintro c ⟨⟩; decide
  nonempty := by decide
  whole := by decide

/-- Levels before any words of the program add just themselves. -/
theorem gather_levels {levels : List Text} (repeated : Repeated .logLevel levels) :
    ∃ given : List Given, (∀ x ∈ given, x.1 = .logLevel) ∧ ∀ rest,
      Scope.program.gather (levels ++ rest) =
        (Scope.program.gather rest).map (Gathered.withGiven given) :=
  gather_repeated logLevel_standsIn repeated false

end QuerySieve.Command
