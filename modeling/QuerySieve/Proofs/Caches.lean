-- The law of the settings that are kept. A keeper is asked one thing after another, and at each
-- turn its cache is what the latest loading that succeeded came to, in the world as it was at that
-- turn. A loading that ends in trouble leaves the keeper as it was.
import QuerySieve.Proofs.Sources

namespace QuerySieve.Settings

/-! ## Runs of requests -/

/-- One request of a run, with the keeper before and after it. -/
structure Turn where
  before : Keeper
  request : Request
  result : Except Trouble (Option Settings)
  after : Keeper

/-- Answers requests one after another. Trouble is an answer too, and the run goes on. -/
def Keeper.answerAll (k : Keeper) : List Request → Journaled (List Turn)
  | [] => return []
  | r :: rs => do
    let (result, after) ← k.answer r
    return ⟨k, r, result, after⟩ :: (← after.answerAll rs)

/-- The world after a request. -/
def Request.worldAfter : World → Request → World
  | _, .move world => world
  | w, _ => w

namespace Turn

/-- A turn loads settings where they are asked for anew, or where none are kept. -/
def loads (t : Turn) : Bool :=
  match t.request with
  | .move _ => false
  | .get => t.before.cache.isNone
  | .reload => true

/-- The settings that a turn loaded, with the world that it loaded them from. -/
def loaded? (t : Turn) : Option (World × Settings) :=
  match t.loads, t.result with
  | true, .ok (some s) => some (t.before.world, s)
  | _, _ => none

/-- The latest settings that were loaded at some turns. -/
def latest? (turns : List Turn) : Option (World × Settings) := (turns.filterMap loaded?).getLast?

theorem latest?_of_loaded {t : Turn} {found : World × Settings} (past : List Turn)
    (h : t.loaded? = some found) : latest? (past ++ [t]) = some found := by
  simp [latest?, h]

theorem latest?_of_not_loaded {t : Turn} (past : List Turn) (h : t.loaded? = none) :
    latest? (past ++ [t]) = latest? past := by
  simp [latest?, h]

end Turn

/-! ## One request -/

variable {k : Keeper}

/-- A request makes the keeper load. -/
def Keeper.Lacks (k : Keeper) (r : Request) : Prop := r = .reload ∨ r = .get ∧ k.cache = none

/-- What a keeper answers, and the keeper after it. -/
inductive Answered (k : Keeper) : Request → Except Trouble (Option Settings) → Keeper → Prop
  | moved {world : World} : Answered k (.move world) (.ok none) { k with world }
  | served {s : Settings} (kept : k.cache = some s) : Answered k .get (.ok (some s)) k
  | loaded {r : Request} {s : Settings} (lacks : k.Lacks r)
      (comes : (load k.world none).ComesTo (.ok s)) :
      Answered k r (.ok (some s)) { k with cache := some s }
  | failed {r : Request} {e : Trouble} (lacks : k.Lacks r)
      (comes : (load k.world none).ComesTo (.error e)) : Answered k r (.error e) k

theorem exists_comesTo (w : World) : ∃ r, (load w none).ComesTo r := by
  obtain ⟨r, notes, loaded⟩ := exists_loaded w none
  exact ⟨r, (load_of_loaded loaded).comesTo⟩

/-- A reload comes to what loading comes to. -/
theorem reload_comesTo {w : World} {r : Except Trouble Settings} (h : (load w none).ComesTo r) :
    (reload w).ComesTo r := by
  cases r with
  | error e => exact .stop h
  | ok s => exact .bind h (.record _ _ _ (.pure _))

/-- The keeper settles on what loading comes to. -/
theorem Answered.of_comesTo {r : Request} {result : Except Trouble Settings} (lacks : k.Lacks r)
    (comes : (load k.world none).ComesTo result) :
    Answered k r (k.settle result).1 (k.settle result).2 := by
  cases result with
  | error e => exact .failed lacks comes
  | ok s => exact .loaded lacks comes

theorem answer_answered (k : Keeper) (r : Request) :
    ∃ result after, Gives (k.answer r) (result, after) ∧ Answered k r result after := by
  obtain ⟨result, comes⟩ := exists_comesTo k.world
  cases r with
  | move world => exact ⟨_, _, .pure _, .moved⟩
  | reload =>
    exact ⟨_, _, .bind (reload_comesTo comes) (.pure _), .of_comesTo (.inl rfl) comes⟩
  | get =>
    obtain ⟨world, cache⟩ := k
    cases cache with
    | some s => exact ⟨_, _, .pure _, .served rfl⟩
    | none =>
      exact ⟨_, _, .bind comes (.pure _), .of_comesTo (.inr ⟨rfl, rfl⟩) comes⟩

/-! ## Whole runs -/

/-- Turns that follow one another from a keeper. -/
inductive Follow : Keeper → List Turn → Prop
  | nil {k : Keeper} : Follow k []
  | cons {k after : Keeper} {r : Request} {result : Except Trouble (Option Settings)}
      {turns : List Turn} (answered : Answered k r result after) (rest : Follow after turns) :
      Follow k (⟨k, r, result, after⟩ :: turns)

/-- Requests make up one run, whatever is in the journal. -/
theorem exists_follow (k : Keeper) (rs : List Request) :
    ∃ turns, Gives (k.answerAll rs) turns ∧ Follow k turns ∧ turns.map Turn.request = rs := by
  induction rs generalizing k with
  | nil => exact ⟨[], .pure _, .nil, rfl⟩
  | cons r rs ih =>
    obtain ⟨result, after, gives, answered⟩ := answer_answered k r
    obtain ⟨turns, all, follow, rfl⟩ := ih after
    exact ⟨⟨k, r, result, after⟩ :: turns, .bind gives (.bind all (.pure _)),
      .cons answered follow, rfl⟩

/-- What is true of a keeper after some turns of a run that begins in a world. -/
structure Held (w : World) (past : List Turn) (k : Keeper) : Prop where
  left : k = (past.getLast?.elim ⟨w, none⟩ Turn.after)
  world : k.world = (past.map Turn.request).foldl Request.worldAfter w
  cache : k.cache = (Turn.latest? past).map Prod.snd
  sound : ∀ found, Turn.latest? past = some found → (load found.1 none).ComesTo (.ok found.2)

theorem held_nil (w : World) : Held w [] ⟨w, none⟩ := by
  refine ⟨rfl, rfl, rfl, ?_⟩
  intro found h
  cases h

/-- What is true of one turn, after the turns before it. -/
structure Turn.Accounted (w : World) (past : List Turn) (t : Turn) : Prop where
  /-- The keeper is the one that the turn before left. -/
  left : t.before = (past.getLast?.elim ⟨w, none⟩ Turn.after)
  /-- Its world is the latest one. -/
  world : t.before.world = (past.map Turn.request).foldl Request.worldAfter w
  /-- Its cache is what was loaded latest. -/
  cache : t.before.cache = (Turn.latest? past).map Prod.snd
  /-- A loading comes to what the settings of this world come to. -/
  loading : t.loads → ∃ r : Except Trouble Settings,
    (load t.before.world none).ComesTo r ∧ t.result = r.map some
  /-- Settings that are kept are served again, and the keeper stays as it was. -/
  served : ∀ s, t.request = .get → t.before.cache = some s →
    t.result = .ok (some s) ∧ t.after = t.before
  /-- A move has nothing to answer. -/
  moved : ∀ next, t.request = .move next → t.result = .ok none
  /-- The keeper goes on with the latest world and what was loaded latest, this turn taken with the
  others. -/
  after : t.after = {
    world := t.request.worldAfter t.before.world
    cache := (Turn.latest? (past ++ [t])).map Prod.snd }
  /-- Only a loading ends in trouble, and it leaves the keeper as it was. -/
  trouble : ∀ e, t.result = .error e → t.loads ∧ t.after = t.before
  /-- A get that answers gives what the latest loading came to, this turn taken with the others. -/
  answer : ∀ s, t.request = .get → t.result = .ok (some s) →
    ∃ world, Turn.latest? (past ++ [t]) = some (world, s) ∧ (load world none).ComesTo (.ok s)

variable {w : World} {past : List Turn} {r : Request} {result : Except Trouble (Option Settings)}
  {after : Keeper}

theorem Keeper.Lacks.loads (lacks : k.Lacks r) : Turn.loads ⟨k, r, result, after⟩ := by
  rcases lacks with rfl | ⟨rfl, empty⟩
  · rfl
  · exact Option.isNone_iff_eq_none.mpr empty

theorem Keeper.Lacks.worldAfter (lacks : k.Lacks r) : r.worldAfter w = w := by
  rcases lacks with rfl | ⟨rfl, -⟩
  · rfl
  · rfl

theorem loaded?_of_lacks {s : Settings} (lacks : k.Lacks r) :
    Turn.loaded? ⟨k, r, .ok (some s), after⟩ = some (k.world, s) := by
  rw [Turn.loaded?, lacks.loads]

theorem loaded?_of_kept {s : Settings} (kept : k.cache = some s) :
    Turn.loaded? ⟨k, .get, result, after⟩ = none := by
  simp [Turn.loaded?, Turn.loads, kept]

theorem loaded?_of_error {e : Trouble} : Turn.loaded? ⟨k, r, .error e, after⟩ = none := by
  unfold Turn.loaded?
  split
  · contradiction
  · rfl

/-- A turn that loaded nothing and keeps the cache holds on to what was loaded before. -/
theorem Held.idle (held : Held w past k) (world : after.world = r.worldAfter k.world)
    (cache : after.cache = k.cache) (idle : Turn.loaded? ⟨k, r, result, after⟩ = none) :
    Held w (past ++ [⟨k, r, result, after⟩]) after := by
  have same := Turn.latest?_of_not_loaded past idle
  refine ⟨by simp, ?_, ?_, ?_⟩
  · simp [world, held.world]
  · rw [same, cache, held.cache]
  · rw [same]
    exact held.sound

/-- Each answer keeps what is true of the keeper. -/
theorem Held.answered (held : Held w past k) (h : Answered k r result after) :
    Held w (past ++ [⟨k, r, result, after⟩]) after := by
  cases h with
  | moved => exact held.idle rfl rfl rfl
  | served kept => exact held.idle rfl rfl (loaded?_of_kept kept)
  | failed lacks comes => exact held.idle lacks.worldAfter.symm rfl loaded?_of_error
  | @loaded _ s lacks comes =>
    have now : Turn.latest? (past ++ [⟨k, r, .ok (some s), { k with cache := some s }⟩]) =
        some (k.world, s) := Turn.latest?_of_loaded past (loaded?_of_lacks lacks)
    refine ⟨by simp, ?_, ?_, ?_⟩
    · simp [lacks.worldAfter, held.world]
    · rw [now]
      rfl
    · rw [now]
      rintro _ ⟨⟩
      exact comes

theorem Answered.loading (h : Answered k r result after)
    (loads : Turn.loads ⟨k, r, result, after⟩) :
    ∃ found : Except Trouble Settings, (load k.world none).ComesTo found ∧
      result = found.map some := by
  cases h with
  | moved => cases loads
  | served kept => simp [Turn.loads, kept] at loads
  | failed lacks comes => exact ⟨_, comes, rfl⟩
  | loaded lacks comes => exact ⟨_, comes, rfl⟩

/-- With settings that are kept, nothing is loaded for a get. -/
theorem Answered.served_of_kept {s : Settings} (h : Answered k .get result after)
    (kept : k.cache = some s) : result = .ok (some s) ∧ after = k := by
  have full : ¬ k.Lacks .get := by simp [Keeper.Lacks, kept]
  cases h with
  | served kept' =>
    cases kept.symm.trans kept'
    exact ⟨rfl, rfl⟩
  | loaded lacks => exact absurd lacks full
  | failed lacks => exact absurd lacks full

theorem Answered.result_of_move {next : World} (h : Answered k (.move next) result after) :
    result = .ok none := by
  have idle : ¬ k.Lacks (.move next) := by simp [Keeper.Lacks]
  cases h with
  | moved => rfl
  | loaded lacks => exact absurd lacks idle
  | failed lacks => exact absurd lacks idle

theorem Answered.world (h : Answered k r result after) :
    after.world = r.worldAfter k.world := by
  cases h with
  | moved => rfl
  | served => rfl
  | loaded lacks => exact lacks.worldAfter.symm
  | failed lacks => exact lacks.worldAfter.symm

/-- What is true of the keeper makes the turn accounted for. -/
theorem Held.accounted (held : Held w past k) (h : Answered k r result after) :
    Turn.Accounted w past ⟨k, r, result, after⟩ := by
  have next := held.answered h
  refine ⟨held.left, held.world, held.cache, h.loading, ?_, ?_, ?_, ?_, ?_⟩
  · rintro s ⟨⟩ kept
    exact h.served_of_kept kept
  · rintro world ⟨⟩
    exact h.result_of_move
  · exact (Keeper.mk.injEq _ _ _ _).mpr ⟨h.world, next.cache⟩
  · rintro e ⟨⟩
    cases h with
    | failed lacks comes => exact ⟨lacks.loads, rfl⟩
  · rintro s ⟨⟩ ⟨⟩
    have kept : after.cache = some s := by
      cases h with
      | served kept => exact kept
      | loaded => rfl
    obtain ⟨⟨world, t⟩, latest, rfl⟩ := Option.map_eq_some_iff.mp (next.cache.symm.trans kept)
    exact ⟨world, latest, next.sound (world, t) latest⟩

theorem Held.follow {turns : List Turn} (held : Held w past k) (follow : Follow k turns) :
    ∀ before t later, turns = before ++ t :: later → t.Accounted w (past ++ before) := by
  induction follow generalizing past with
  | nil => simp
  | cons answered rest ih =>
    intro before t later split
    cases before with
    | nil =>
      cases split
      rw [List.append_nil]
      exact held.accounted answered
    | cons u before =>
      cases split
      have := ih (held.answered answered) before t later rfl
      rwa [List.append_assoc] at this

/-! ## The law -/

/-- Requests are all answered, whatever is in the journal. At each turn the cache is what the latest
loading that succeeded came to, in the world as it was then. A get is answered with just these
settings, which stay kept; it loads only where nothing was loaded before, and a reload loads in any
case. A loading that ends in trouble leaves the keeper as it was, so what was kept is still
served. -/
theorem kept_settings_are_those_of_the_latest_load (w : World) (requests : List Request) :
    ∃ turns : List Turn, Gives (Keeper.answerAll ⟨w, none⟩ requests) turns ∧
      turns.map Turn.request = requests ∧
      ∀ past t later, turns = past ++ t :: later → t.Accounted w past := by
  obtain ⟨turns, gives, follow, rfl⟩ := exists_follow ⟨w, none⟩ requests
  exact ⟨turns, gives, rfl, (held_nil w).follow follow⟩

end QuerySieve.Settings
