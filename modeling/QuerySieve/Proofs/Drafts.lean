-- What one call on a draft can come to. A declaration passes its checks in a fixed order:
-- the draft, the name, the key and then the directives. Only a call that passes all of
-- them changes the draft.
import QuerySieve.Proofs.Blocks
import QuerySieve.Proofs.Names
import QuerySieve.Proofs.Tables

namespace QuerySieve

/-! ## Refusals -/

namespace Draft

/-- The failure of every call on a frozen draft. -/
def frozenRefusal : Failure where
  kind := .frozen
  message := "args_filter registry is frozen"

/-- The failure of a declaration under a name that cannot be declared. -/
def nameRefusal (raw : Text) (fault : Name.Fault) : Failure where
  kind := .directive { block := some raw }
  message := fault.message

/-- The failure of a call whose key is taken. -/
def duplicateRefusal (key : Text) : Failure where
  kind := .duplicate (some key)
  message := "duplicate args_filter declaration for $" ++ key

/-- A key is taken. -/
def Holds (d : Draft) (key : Text) : Prop := key ∈ d.filters.map (·.1)

/-- The draft with one more filter. -/
def extend (d : Draft) (key : Text) (definition : Definition) : Draft :=
  { d with filters := d.filters ++ [(key, definition)] }

/-- What a declaration comes to, and the draft that it leaves. The checks stand in their
order. -/
inductive Declared (d : Draft) (raw : Text) (ds : List Directive) :
    Except Trouble Definition → Draft → Prop
  | frozen (frozen : d.frozen = true) : Declared d raw ds (.error (.failure frozenRefusal)) d
  | name {fault : Name.Fault} (unfrozen : d.frozen = false) (why : Name.FaultOf raw fault) :
      Declared d raw ds (.error (.failure (nameRefusal raw fault))) d
  | taken {name : Text} (unfrozen : d.frozen = false) (sigil : raw = Name.sigil :: name)
      (plain : Name.Plain name) (taken : d.Holds name.lower) :
      Declared d raw ds (.error (.failure (duplicateRefusal name.lower))) d
  | refused {name : Text} {t : Trouble} (unfrozen : d.frozen = false)
      (sigil : raw = Name.sigil :: name) (plain : Name.Plain name) (free : ¬ d.Holds name.lower)
      (compiles : (Block.compile ds raw).ComesTo (.error t)) : Declared d raw ds (.error t) d
  | declared {name : Text} {definition : Definition} (unfrozen : d.frozen = false)
      (sigil : raw = Name.sigil :: name) (plain : Name.Plain name) (free : ¬ d.Holds name.lower)
      (compiles : (Block.compile ds raw).ComesTo (.ok definition)) :
      Declared d raw ds (.ok definition) (d.extend name.lower definition)

/-- What registering comes to, and the draft that it leaves. -/
inductive Registered (d : Draft) (name : Text) (definition : Definition) :
    Except Trouble Unit → Draft → Prop
  | frozen (frozen : d.frozen = true) :
      Registered d name definition (.error (.failure frozenRefusal)) d
  | taken (unfrozen : d.frozen = false) (taken : d.Holds (Name.normalize name)) :
      Registered d name definition
        (.error (.failure (duplicateRefusal (Name.normalize name)))) d
  | registered (unfrozen : d.frozen = false) (free : ¬ d.Holds (Name.normalize name)) :
      Registered d name definition (.ok ()) (d.extend (Name.normalize name) definition)

end Draft

/-! ## The checks -/

namespace Drafting

variable {d : Draft} {key : Text}

theorem Leads.get : Leads (getThe Draft) d (.ok d) d := fun _ => rfl

theorem Leads.modify (change : Draft → Draft) :
    Leads (modifyThe Draft change) d (.ok ()) (change d) := fun _ => rfl

theorem Leads.record (level : Level) (source message : Text) :
    Leads (liftM (QuerySieve.record level source message)) d (.ok ()) d := fun _ => rfl

theorem ensureOpen_of_frozen (frozen : d.frozen = true) :
    ensureOpen.Leads d (.error (.failure Draft.frozenRefusal)) d := by
  apply Leads.bind Leads.get
  rw [if_pos frozen]
  exact Leads.attempt (.fail _)

theorem ensureOpen_of_unfrozen (unfrozen : d.frozen = false) : ensureOpen.Leads d (.ok ()) d := by
  apply Leads.bind Leads.get
  rw [if_neg (by simp [unfrozen])]
  exact Leads.pure ()

theorem any_iff_holds (d : Draft) (key : Text) :
    (d.filters.any fun f => f.1 = key) = true ↔ d.Holds key := by
  simp [Draft.Holds]

theorem ensureFree_of_taken (taken : d.Holds key) :
    (ensureFree key).Leads d (.error (.failure (Draft.duplicateRefusal key))) d := by
  apply Leads.bind Leads.get
  rw [if_pos ((any_iff_holds d key).mpr taken)]
  apply Leads.bind (Leads.record _ _ _)
  exact Leads.attempt (.fail _)

theorem ensureFree_of_free (free : ¬ d.Holds key) : (ensureFree key).Leads d (.ok ()) d := by
  apply Leads.bind Leads.get
  rw [if_neg (fun h => free ((any_iff_holds d key).mp h))]
  exact Leads.pure ()

/-! ## Registering -/

theorem register_of_free {name : Text} (definition : Definition) (unfrozen : d.frozen = false)
    (free : ¬ d.Holds (Name.normalize name)) :
    (register name definition).Leads d (.ok ()) (d.extend (Name.normalize name) definition) := by
  apply Leads.bind (ensureOpen_of_unfrozen unfrozen)
  apply Leads.bind (ensureFree_of_free free)
  have hput : ({ d with filters := Pairs.put (Name.normalize name) definition d.filters } : Draft) =
      d.extend (Name.normalize name) definition := by
    rw [Pairs.put_of_notMem free]
    rfl
  rw [← hput]
  exact Leads.bind (Leads.modify _) (Leads.record _ _ _)

theorem register_registered (d : Draft) (name : Text) (definition : Definition) :
    ∃ r d', (register name definition).Leads d r d' ∧ d.Registered name definition r d' := by
  cases hf : d.frozen with
  | true => exact ⟨_, d, .stop (ensureOpen_of_frozen hf), .frozen hf⟩
  | false =>
    by_cases taken : d.Holds (Name.normalize name)
    · refine ⟨_, d, .bind (ensureOpen_of_unfrozen hf) ?_, .taken hf taken⟩
      exact .stop (ensureFree_of_taken taken)
    · exact ⟨_, _, register_of_free definition hf taken, .registered hf taken⟩

/-! ## Declaring -/

theorem parseName_of_plain {name : Text} (plain : Name.Plain name) :
    (Block.parseName (Name.sigil :: name)).ComesTo (.ok name.lower) := by
  unfold Block.parseName
  rw [Name.parse_of_plain plain]
  exact .pure _

theorem parseName_of_faultOf {raw : Text} {fault : Name.Fault} (why : Name.FaultOf raw fault) :
    (Block.parseName raw).ComesTo (.error (.failure (Draft.nameRefusal raw fault))) := by
  unfold Block.parseName
  rw [Name.parse_of_faultOf why]
  exact .record _ _ _ (.fail _)

section

variable {name : Text} (ds : List Directive) (plain : Name.Plain name)
include plain

theorem compileNamed_ok {definition : Definition}
    (compiles : (Block.compile ds (Name.sigil :: name)).ComesTo (.ok definition)) :
    (Block.compileNamed (Name.sigil :: name) ds).ComesTo (.ok (name.lower, definition)) := by
  apply Attempt.ComesTo.within
  apply Attempt.ComesTo.bind (parseName_of_plain plain)
  exact .bind compiles (.pure _)

theorem compileNamed_error {t : Trouble}
    (compiles : (Block.compile ds (Name.sigil :: name)).ComesTo (.error t)) :
    (Block.compileNamed (Name.sigil :: name) ds).ComesTo (.error t) := by
  apply Attempt.ComesTo.within
  apply Attempt.ComesTo.bind (parseName_of_plain plain)
  exact .stop compiles

end

/-- The name and the key are looked at before the directives are. -/
theorem checkName_of_free {name : Text} (plain : Name.Plain name) (free : ¬ d.Holds name.lower) :
    (do
      let name ← (Block.parseName (Name.sigil :: name) : Attempt Text)
      ensureFree name
      return name : Drafting Text).Leads d (.ok name.lower) d := by
  apply Leads.bind (Leads.attempt (parseName_of_plain plain))
  exact Leads.bind (ensureFree_of_free free) (Leads.pure _)

/-- The part of a declaration that stands under the context of its block. -/
def checked (raw : Text) (directives : List Directive) : Drafting (Text × Definition) := do
  ensureOpen
  let name ← within (.configuring raw) do
    let name ← Block.parseName raw
    ensureFree name
    return name
  let (_, definition) ← Block.compileNamed raw directives
  return (name, definition)

theorem declare_eq (raw : Text) (ds : List Directive) : declare raw ds = (do
    let p ← checked raw ds
    register p.1 p.2
    return p.2) := by
  unfold declare checked
  simp only [bind_assoc, pure_bind]

theorem checked_of_compiles {name : Text} {ds : List Directive} {definition : Definition}
    (unfrozen : d.frozen = false) (plain : Name.Plain name) (free : ¬ d.Holds name.lower)
    (compiles : (Block.compile ds (Name.sigil :: name)).ComesTo (.ok definition)) :
    (checked (Name.sigil :: name) ds).Leads d (.ok (name.lower, definition)) d := by
  apply Leads.bind (ensureOpen_of_unfrozen unfrozen)
  apply Leads.bind (Leads.within _ (checkName_of_free plain free))
  exact Leads.bind (Leads.attempt (compileNamed_ok ds plain compiles)) (.pure _)

/-- What was checked can be registered at once. -/
theorem declare_of_compiles {name : Text} {ds : List Directive} {definition : Definition}
    (unfrozen : d.frozen = false) (plain : Name.Plain name) (free : ¬ d.Holds name.lower)
    (compiles : (Block.compile ds (Name.sigil :: name)).ComesTo (.ok definition)) :
    (declare (Name.sigil :: name) ds).Leads d (.ok definition)
      (d.extend name.lower definition) := by
  have hkey : Name.normalize name.lower = name.lower :=
    Name.normalize_key (Name.parse_of_plain plain)
  have hregister := register_of_free definition unfrozen (hkey.symm ▸ free)
  rw [hkey] at hregister
  rw [declare_eq]
  apply Leads.bind (checked_of_compiles unfrozen plain free compiles)
  exact .bind hregister (.pure _)

/-- A declaration ends where it is checked, or it is checked and then declares. -/
theorem checked_cases (d : Draft) (raw : Text) (ds : List Directive) :
    (∃ t, (checked raw ds).Leads d (.error t) d ∧ d.Declared raw ds (.error t) d) ∨
    ∃ (name : Text) (definition : Definition),
      (checked raw ds).Leads d (.ok (name.lower, definition)) d ∧ d.frozen = false ∧
      raw = Name.sigil :: name ∧ Name.Plain name ∧ ¬ d.Holds name.lower ∧
      (Block.compile ds raw).ComesTo (.ok definition) := by
  cases hf : d.frozen with
  | true => exact .inl ⟨_, .stop (ensureOpen_of_frozen hf), .frozen hf⟩
  | false =>
    have hopen := ensureOpen_of_unfrozen hf
    rcases Name.plain_or_faultOf raw with ⟨name, rfl, plain⟩ | ⟨fault, why⟩
    · by_cases taken : d.Holds name.lower
      · refine .inl ⟨_, .bind hopen (.stop (.within _ ?_)), .taken hf rfl plain taken⟩
        apply Leads.bind (Leads.attempt (parseName_of_plain plain))
        exact .stop (ensureFree_of_taken taken)
      · have hname := Leads.within (.configuring (Name.sigil :: name))
          (checkName_of_free plain taken)
        obtain ⟨r, hr, _⟩ := Block.compile_ending ds (Name.sigil :: name)
        cases r with
        | error t =>
          refine .inl ⟨_, .bind hopen (.bind hname ?_), .refused hf rfl plain taken hr⟩
          exact .stop (.attempt (compileNamed_error ds plain hr))
        | ok definition =>
          have hchecked := checked_of_compiles hf plain taken hr
          exact .inr ⟨name, definition, hchecked, rfl, rfl, plain, taken, hr⟩
    · refine .inl ⟨_, .bind hopen (.stop (.within _ ?_)), .name hf why⟩
      exact .stop (.attempt (parseName_of_faultOf why))

theorem declare_declared (d : Draft) (raw : Text) (ds : List Directive) :
    ∃ r d', (declare raw ds).Leads d r d' ∧ d.Declared raw ds r d' := by
  rcases checked_cases d raw ds with ⟨t, hchecked, declared⟩ | ⟨name, definition, -, hf, rfl,
    plain, free, compiles⟩
  · refine ⟨_, d, ?_, declared⟩
    rw [declare_eq]
    exact .stop hchecked
  · exact ⟨_, _, declare_of_compiles hf plain free compiles, .declared hf rfl plain free compiles⟩

end Drafting

end QuerySieve
