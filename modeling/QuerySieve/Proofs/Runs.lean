-- The laws of calls on one draft. A run keeps the replies of all its calls, also of those
-- that end in trouble. Such a call leaves the draft as it was, so a run without it has the
-- same replies otherwise.
import QuerySieve.Proofs.Drafts

namespace QuerySieve

/-! ## Calls and runs -/

/-- A call on a draft. -/
inductive Call
  | declare (raw : Text) (directives : List Directive)
  | register (name : Text) (definition : Definition)
  | freeze

/-- What a call gives when it does not end in trouble. -/
inductive Reply
  | declared (definition : Definition)
  | registered
  | frozen (r : Registry)

namespace Call

def perform : Call → Drafting Reply
  | declare raw directives => do return .declared (← Drafting.declare raw directives)
  | register name definition => do
    Drafting.register name definition
    return .registered
  | freeze => do return .frozen (← Drafting.freeze)

/-- Performs calls one after another. Trouble in one does not end the run. -/
def performAll : List Call → StateT Draft Journaled (List (Except Trouble Reply))
  | [] => return []
  | c :: cs => do
    let reply ← c.perform.run
    return reply :: (← performAll cs)

/-! ## One call -/

/-- What a call comes to, and the draft that it leaves. -/
inductive Performed (d : Draft) : Call → Except Trouble Reply → Draft → Prop
  | failed {c : Call} {t : Trouble} (open_ : c ≠ freeze) : Performed d c (.error t) d
  | declared {raw key : Text} {directives : List Directive} {definition : Definition}
      (unfrozen : d.frozen = false) (parse : Name.parse raw = .ok key) (free : ¬ d.Holds key)
      (compiles : (Block.compile directives raw).ComesTo (.ok definition)) :
      Performed d (declare raw directives) (.ok (.declared definition)) (d.extend key definition)
  | registered {name : Text} {definition : Definition} (unfrozen : d.frozen = false)
      (free : ¬ d.Holds (Name.normalize name)) :
      Performed d (register name definition) (.ok .registered)
        (d.extend (Name.normalize name) definition)
  | frozen : Performed d freeze (.ok (.frozen ⟨d.filters⟩)) { d with frozen := true }

/-- Freezing never fails. The registry holds what the draft holds. -/
theorem freeze_leads (d : Draft) :
    freeze.perform.Leads d (.ok (.frozen ⟨d.filters⟩)) { d with frozen := true } := fun _ => rfl

theorem perform_performed (d : Draft) (c : Call) :
    ∃ r d', c.perform.Leads d r d' ∧ Performed d c r d' := by
  cases c with
  | declare raw directives =>
    obtain ⟨r, d', hr, declared⟩ := Drafting.declare_declared d raw directives
    cases declared with
    | frozen | name | taken | refused => exact ⟨_, _, .stop hr, .failed (by simp)⟩
    | declared unfrozen sigil plain free compiles =>
      refine ⟨_, _, .bind hr (.pure _), .declared unfrozen ?_ free compiles⟩
      rw [sigil]
      exact Name.parse_of_plain plain
  | register name definition =>
    obtain ⟨r, d', hr, registered⟩ := Drafting.register_registered d name definition
    cases registered with
    | frozen | taken => exact ⟨_, _, .stop hr, .failed (by simp)⟩
    | registered unfrozen free =>
      exact ⟨_, _, .bind hr (.pure _), .registered unfrozen free⟩
  | freeze => exact ⟨_, _, freeze_leads d, .frozen⟩

/-! ## Whole runs -/

/-- A run from one draft to another, with its calls and their replies. -/
inductive Runs : Draft → List (Call × Except Trouble Reply) → Draft → Prop
  | nil {d : Draft} : Runs d [] d
  | cons {d d' d'' : Draft} {c : Call} {r : Except Trouble Reply}
      {steps : List (Call × Except Trouble Reply)} (leads : c.perform.Leads d r d')
      (performed : Performed d c r d') (rest : Runs d' steps d'') :
      Runs d ((c, r) :: steps) d''

theorem Runs.append {d d' d'' : Draft} {steps later : List (Call × Except Trouble Reply)}
    (h : Runs d steps d') (hlater : Runs d' later d'') : Runs d (steps ++ later) d'' := by
  induction h with
  | nil => exact hlater
  | cons leads performed rest ih => exact .cons leads performed (ih hlater)

theorem performAll_cons {d d' d'' : Draft} {c : Call} {cs : List Call} {r : Except Trouble Reply}
    {rs : List (Except Trouble Reply)} (hc : c.perform.Leads d r d')
    (hcs : Gives (performAll cs d') (rs, d'')) :
    Gives (performAll (c :: cs) d) (r :: rs, d'') := by
  change Gives (c.perform.run d >>= fun p => performAll cs p.2 >>= fun p' =>
    pure (p.1 :: p'.1, p'.2)) (r :: rs, d'')
  apply Gives.bind hc
  exact Gives.bind hcs (Gives.pure _)

theorem Runs.gives {d d' : Draft} {steps : List (Call × Except Trouble Reply)}
    (h : Runs d steps d') : Gives (performAll (steps.map (·.1)) d) (steps.map (·.2), d') := by
  induction h with
  | nil => exact Gives.pure _
  | cons leads performed rest ih => exact performAll_cons leads ih

/-- Calls make up one run, whatever is in the journal. -/
theorem exists_runs (d : Draft) (cs : List Call) :
    ∃ steps d', Runs d steps d' ∧ steps.map (·.1) = cs := by
  induction cs generalizing d with
  | nil => exact ⟨[], d, .nil, rfl⟩
  | cons c cs ih =>
    obtain ⟨r, d', leads, performed⟩ := perform_performed d c
    obtain ⟨steps, d'', rest, rfl⟩ := ih d'
    exact ⟨(c, r) :: steps, d'', .cons leads performed rest, rfl⟩

theorem performAll_runs (d : Draft) (cs : List Call) (j : Journal) :
    ∃ steps d', Runs d steps d' ∧ steps.map (·.1) = cs ∧
      (performAll cs d j).1 = (steps.map (·.2), d') ∧
      steps = cs.zip (performAll cs d j).1.1 := by
  obtain ⟨steps, d', runs, rfl⟩ := exists_runs d cs
  have hrun := runs.gives j
  refine ⟨steps, d', runs, rfl, hrun, ?_⟩
  rw [hrun]
  exact List.zip_of_prod rfl rfl

/-! ## Failed calls -/

/-- A call that ends in trouble leaves the draft as it was. -/
theorem Performed.unchanged {d d' : Draft} {c : Call} {t : Trouble}
    (h : Performed d c (.error t) d') : d' = d := by
  cases h
  rfl

/-- Without the calls that end in trouble a run is a run between the same drafts. -/
theorem Runs.erase {d d' : Draft} {steps : List (Call × Except Trouble Reply)}
    (h : Runs d steps d') : Runs d (steps.filter fun s => s.2.isOk) d' := by
  induction h with
  | nil => exact .nil
  | @cons d d' d'' c r steps leads performed rest ih =>
    cases r with
    | error t =>
      rw [List.filter_cons_of_neg (by simp [Except.isOk, Except.toBool]), ← performed.unchanged]
      exact ih
    | ok reply =>
      rw [List.filter_cons_of_pos (by simp [Except.isOk, Except.toBool])]
      exact .cons leads performed ih

/-- The calls of a run that did not end in trouble. -/
def survivors (cs : List Call) (replies : List (Except Trouble Reply)) : List Call :=
  ((cs.zip replies).filter fun s => s.2.isOk).map (·.1)

/-! ## The laws -/

/-- The checks of a call stand in a fixed order, and a call that ends in trouble leaves the
draft as it was. A run without such calls has the same replies otherwise, frozen
registries among them, and leaves the same draft. -/
theorem a_failed_call_leaves_no_trace :
    (∀ (d : Draft) (raw : Text) (ds : List Directive) (j : Journal),
      d.Declared raw ds ((Drafting.declare raw ds).run d j).1.1
        ((Drafting.declare raw ds).run d j).1.2) ∧
    (∀ (d : Draft) (name : Text) (definition : Definition) (j : Journal),
      d.Registered name definition ((Drafting.register name definition).run d j).1.1
        ((Drafting.register name definition).run d j).1.2) ∧
    (∀ (d : Draft) (c : Call) (j : Journal) (t : Trouble),
      (c.perform.run d j).1.1 = .error t → (c.perform.run d j).1.2 = d) ∧
    ∀ (d : Draft) (cs : List Call) (j j' : Journal),
      (performAll (survivors cs (performAll cs d j).1.1) d j').1 =
        ((performAll cs d j).1.1.filter Except.isOk, (performAll cs d j).1.2) := by
  refine ⟨?_, ?_, ?_, ?_⟩
  · intro d raw ds j
    obtain ⟨r, d', hr, declared⟩ := Drafting.declare_declared d raw ds
    rw [hr j]
    exact declared
  · intro d name definition j
    obtain ⟨r, d', hr, registered⟩ := Drafting.register_registered d name definition
    rw [hr j]
    exact registered
  · intro d c j t failed
    obtain ⟨r, d', hr, performed⟩ := perform_performed d c
    rw [hr j] at failed ⊢
    cases failed
    exact performed.unchanged
  · intro d cs j j'
    obtain ⟨steps, d', runs, _, hrun, hzip⟩ := performAll_runs d cs j
    rw [survivors, ← hzip, hrun, runs.erase.gives j', List.filter_map]
    rfl

end Call

end QuerySieve
