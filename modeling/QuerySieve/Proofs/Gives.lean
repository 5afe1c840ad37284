-- What steps give. The journal that a step writes to has no say in what the step
-- gives, so each operation has one lemma that names its result for every journal.
-- A step on a draft also has one draft that it leaves.
import QuerySieve.Registry

namespace QuerySieve

/-! ## Steps that write to the journal -/

/-- The step gives a value, whatever is in the journal. -/
def Gives {α : Type} (step : Journaled α) (a : α) : Prop := ∀ j, (step j).1 = a

namespace Gives

variable {α β : Type}

/-- A step gives one value. -/
theorem unique {step : Journaled α} {a b : α} (ha : Gives step a) (hb : Gives step b) :
    a = b := by
  rw [← ha (.empty .critical), hb (.empty .critical)]

theorem pure (a : α) : Gives (pure a) a := fun _ => rfl

theorem bind {step : Journaled α} {next : α → Journaled β} {a : α} {b : β}
    (hs : Gives step a) (hn : Gives (next a) b) : Gives (step >>= next) b := by
  intro j
  change (next (step j).1 (step j).2).1 = b
  rw [hs j]
  exact hn _

theorem map (f : α → β) {step : Journaled α} {a : α} (h : Gives step a) :
    Gives (f <$> step) (f a) := fun j => congrArg f (h j)

theorem mapM {step : α → Journaled β} {result : α → β} (h : ∀ a, Gives (step a) (result a))
    (xs : List α) : Gives (xs.mapM step) (xs.map result) := by
  induction xs with
  | nil => exact pure []
  | cons x xs ih =>
    rw [List.mapM_cons]
    exact bind (h x) (bind ih (pure _))

theorem record (level : Level) (source message : Text) :
    Gives (record level source message) () := fun _ => rfl

/-- A step that asks for the level first gives the same in either case. -/
theorem isEnabled {next : Bool → Journaled α} {a : α} (level : Level)
    (h : ∀ enabled, Gives (next enabled) a) : Gives (isEnabled level >>= next) a :=
  fun j => h (j.threshold.keeps level) j

theorem whenEnabled {step : Journaled Unit} (level : Level) (h : Gives step ()) :
    Gives (whenEnabled level step) () := by
  apply isEnabled
  intro enabled
  cases enabled with
  | true => exact h
  | false => exact pure ()

theorem within {step : Journaled α} {a : α} (c : Context) (h : Gives step a) :
    Gives (within c step) a := fun _ => h _

end Gives

/-! ## Steps that may end in trouble -/

/-- Changes a failure and leaves a stray error. -/
def Trouble.mapFailure (change : Failure → Failure) : Trouble → Trouble
  | .failure f => .failure (change f)
  | .stray s => .stray s

namespace Attempt

variable {α β : Type}

/-- The attempt comes to a result, whatever is in the journal. -/
def ComesTo (step : Attempt α) (r : Except Trouble α) : Prop := Gives step.run r

namespace ComesTo

theorem unique {step : Attempt α} {r s : Except Trouble α} (hr : step.ComesTo r)
    (hs : step.ComesTo s) : r = s := Gives.unique hr hs

theorem pure (a : α) : ComesTo (pure a : Attempt α) (.ok a) := fun _ => rfl

theorem fail (f : Failure) : ComesTo (fail f : Attempt α) (.error (.failure f)) := fun _ => rfl

theorem stray (s : Stray) : ComesTo (stray s : Attempt α) (.error (.stray s)) := fun _ => rfl

theorem bind {step : Attempt α} {next : α → Attempt β} {a : α} {r : Except Trouble β}
    (hs : step.ComesTo (.ok a)) (hn : (next a).ComesTo r) : ComesTo (step >>= next) r := by
  change Gives (step.run >>= ExceptT.bindCont next) r
  exact Gives.bind hs hn

/-- Trouble ends the attempt. -/
theorem stop {step : Attempt α} {next : α → Attempt β} {t : Trouble}
    (hs : step.ComesTo (.error t)) : ComesTo (step >>= next) (.error t) := by
  change Gives (step.run >>= ExceptT.bindCont next) (.error t)
  exact Gives.bind hs (Gives.pure _)

/-- A record changes nothing of what comes after it. -/
theorem record {next : Unit → Attempt β} {r : Except Trouble β} (level : Level)
    (source message : Text) (hn : (next ()).ComesTo r) :
    ComesTo ((liftM (record level source message) : Attempt Unit) >>= next) r := by
  apply bind _ hn
  exact fun _ => rfl

theorem within {step : Attempt α} {r : Except Trouble α} (c : Context) (h : step.ComesTo r) :
    ComesTo (within c step) r := Gives.within c h

theorem mapFailure {step : Attempt α} {r : Except Trouble α} (change : Failure → Failure)
    (h : step.ComesTo r) :
    ComesTo (mapFailure change step) (r.mapError (Trouble.mapFailure change)) := by
  unfold ComesTo Attempt.mapFailure
  change Gives (ExceptT.tryCatch step _) _
  unfold ExceptT.tryCatch
  apply Gives.bind h
  rcases r with (f | s) | a
  · exact Gives.pure _
  · exact Gives.pure _
  · exact Gives.pure _

end ComesTo

end Attempt

/-! ## Steps on a draft -/

namespace Drafting

variable {α β : Type}

/-- The step comes to a result on a draft and leaves another draft, whatever is in the
journal. -/
def Leads (step : Drafting α) (d : Draft) (r : Except Trouble α) (d' : Draft) : Prop :=
  Gives (step.run d) (r, d')

namespace Leads

variable {d d' d'' : Draft}

theorem pure (a : α) : Leads (pure a) d (.ok a) d := fun _ => rfl

theorem bind {step : Drafting α} {next : α → Drafting β} {a : α} {r : Except Trouble β}
    (hs : step.Leads d (.ok a) d') (hn : (next a).Leads d' r d'') :
    Leads (step >>= next) d r d'' := by
  change Gives (step.run d >>= fun p => ExceptT.bindCont next p.1 p.2) (r, d'')
  exact Gives.bind hs hn

/-- Trouble ends the step, and the draft stays as it then was. -/
theorem stop {step : Drafting α} {next : α → Drafting β} {t : Trouble}
    (hs : step.Leads d (.error t) d') : Leads (step >>= next) d (.error t) d' := by
  change Gives (step.run d >>= fun p => ExceptT.bindCont next p.1 p.2) (.error t, d')
  exact Gives.bind hs (Gives.pure _)

/-- An attempt has no draft at hand, so it leaves the draft as it was. -/
theorem attempt {step : Attempt α} {r : Except Trouble α} (h : step.ComesTo r) :
    Leads (ofAttempt step) d r d := by
  change Gives (step.run >>= fun r => Pure.pure (r, d)) (r, d)
  exact Gives.bind h (Gives.pure _)

theorem within {step : Drafting α} {r : Except Trouble α} (c : Context)
    (h : step.Leads d r d') : Leads (within c step) d r d' := Gives.within c h

end Leads

end Drafting

end QuerySieve
