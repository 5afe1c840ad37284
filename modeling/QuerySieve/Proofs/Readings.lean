-- What it takes to read a list one element at a time, where an element may be refused: all of
-- them are read, or one of them is refused.
import Mathlib.Data.List.Forall2

namespace QuerySieve.Reading

/-! ## One step after another -/

section

variable {α β ε : Type} {x : Except ε α} {next : α → Except ε β}

theorem bind_eq_ok {b : β} (h : x >>= next = .ok b) : ∃ a, x = .ok a ∧ next a = .ok b := by
  cases x with
  | error => cases h
  | ok a => exact ⟨a, rfl, h⟩

theorem bind_eq_error {e : ε} (h : x >>= next = .error e) :
    x = .error e ∨ ∃ a, x = .ok a ∧ next a = .error e := by
  cases x with
  | error => cases h; exact Or.inl rfl
  | ok a => exact Or.inr ⟨a, rfl, h⟩

theorem map_eq_ok {f : α → β} {b : β} (h : x.map f = .ok b) : ∃ a, x = .ok a ∧ f a = b := by
  cases x with
  | error => cases h
  | ok a => cases h; exact ⟨a, rfl, rfl⟩

theorem map_eq_error {f : α → β} {e : ε} (h : x.map f = .error e) : x = .error e := by
  cases x with
  | error => cases h; rfl
  | ok => cases h

theorem mapError_map {ε' : Type} (change : ε → ε') (f : α → β) :
    (x.map f).mapError change = (x.mapError change).map f := by
  cases x <;> rfl

end

/-! ## One element after another -/

section

variable {α β ε : Type} {f : α → Except ε β}

theorem mapM_of_forall₂ {xs : List α} {ys : List β}
    (h : List.Forall₂ (fun x y => f x = .ok y) xs ys) : xs.mapM f = .ok ys := by
  induction h with
  | nil => rfl
  | cons hx _ ih =>
    rw [List.mapM_cons, hx, ih]
    rfl

theorem mapM_congr {γ : Type} {g : γ → Except ε β} {xs : List α} {ys : List γ}
    (h : List.Forall₂ (fun x y => f x = g y) xs ys) : xs.mapM f = ys.mapM g := by
  induction h with
  | nil => rfl
  | cons hx _ ih => rw [List.mapM_cons, List.mapM_cons, hx, ih]

theorem forall₂_of_mapM {xs : List α} {ys : List β} (h : xs.mapM f = .ok ys) :
    List.Forall₂ (fun x y => f x = .ok y) xs ys := by
  induction xs generalizing ys with
  | nil => cases h; exact .nil
  | cons x xs ih =>
    rw [List.mapM_cons] at h
    obtain ⟨y, hy, h⟩ := bind_eq_ok h
    obtain ⟨ys', hys, ⟨⟩⟩ := bind_eq_ok h
    exact .cons hy (ih hys)

/-- One element that is refused is enough for the list to be. -/
theorem mapM_of_mem {xs : List α} {x : α} {e : ε} (mem : x ∈ xs) (h : f x = .error e) :
    ∃ e', xs.mapM f = .error e' := by
  induction xs with
  | nil => cases mem
  | cons x' xs ih =>
    rw [List.mapM_cons]
    cases hx : f x' with
    | error e' => exact ⟨e', rfl⟩
    | ok y =>
      have hmem : x ∈ xs := by
        rcases List.mem_cons.mp mem with rfl | hmem
        · rw [hx] at h
          cases h
        · exact hmem
      obtain ⟨e', he⟩ := ih hmem
      exact ⟨e', by rw [he]; rfl⟩

theorem mapError_mapM {ε' : Type} (change : ε → ε') (xs : List α) :
    (xs.mapM f).mapError change = xs.mapM fun x => (f x).mapError change := by
  induction xs with
  | nil => rfl
  | cons x xs ih =>
    rw [List.mapM_cons, List.mapM_cons, ← ih]
    cases f x with
    | error => rfl
    | ok y => cases xs.mapM f <;> rfl

/-- A list is refused as one of its elements is. -/
theorem mem_of_mapM {xs : List α} {e : ε} (h : xs.mapM f = .error e) :
    ∃ x ∈ xs, f x = .error e := by
  induction xs with
  | nil => cases h
  | cons x xs ih =>
    rw [List.mapM_cons] at h
    rcases bind_eq_error h with hx | ⟨y, _, h⟩
    · exact ⟨x, List.mem_cons_self, hx⟩
    · rcases bind_eq_error h with hxs | ⟨ys, _, ⟨⟩⟩
      obtain ⟨x', hmem, hx'⟩ := ih hxs
      exact ⟨x', List.mem_cons_of_mem _ hmem, hx'⟩

end

/-! ## Two lists in step -/

section

variable {α β : Type} {R : α → β → Prop}

/-- All are read, or the first that is not comes after others that are. -/
theorem forall₂_or_first {Bad : α → Prop} (h : ∀ x, (∃ y, R x y) ∨ Bad x) (xs : List α) :
    (∃ ys, List.Forall₂ R xs ys) ∨
    ∃ before ys x after, xs = before ++ x :: after ∧ List.Forall₂ R before ys ∧ Bad x := by
  induction xs with
  | nil => exact Or.inl ⟨[], .nil⟩
  | cons x xs ih =>
    rcases h x with ⟨y, hy⟩ | hbad
    · rcases ih with ⟨ys, hys⟩ | ⟨before, ys, x', after, rfl, hys, hbad⟩
      · exact Or.inl ⟨y :: ys, .cons hy hys⟩
      · exact Or.inr ⟨x :: before, y :: ys, x', after, rfl, .cons hy hys, hbad⟩
    · exact Or.inr ⟨[], [], x, xs, rfl, .nil, hbad⟩

theorem forall₂_or_exists {Bad : α → Prop} (h : ∀ x, (∃ y, R x y) ∨ Bad x) (xs : List α) :
    (∃ ys, List.Forall₂ R xs ys) ∨ ∃ x ∈ xs, Bad x := by
  rcases forall₂_or_first h xs with all | ⟨before, ys, x, after, rfl, -, bad⟩
  · exact Or.inl all
  · exact Or.inr ⟨x, List.mem_append_right _ List.mem_cons_self, bad⟩

theorem exists_of_forall₂ {xs : List α} {ys : List β} (h : List.Forall₂ R xs ys) :
    ∀ x ∈ xs, ∃ y ∈ ys, R x y := by
  induction h with
  | nil => exact fun x hx => absurd hx List.not_mem_nil
  | cons hxy _ ih =>
    intro x hx
    rcases List.mem_cons.mp hx with rfl | hx
    · exact ⟨_, List.mem_cons_self, hxy⟩
    · obtain ⟨y, hy, hr⟩ := ih x hx
      exact ⟨y, List.mem_cons_of_mem _ hy, hr⟩

theorem getElem?_of_forall₂ {xs : List α} {ys : List β} (h : List.Forall₂ R xs ys) {i : Nat} {x : α}
    (hx : xs[i]? = some x) : ∃ y, ys[i]? = some y ∧ R x y := by
  induction h generalizing i with
  | nil => cases hx
  | cons hxy _ ih =>
    cases i with
    | zero => cases hx; exact ⟨_, rfl, hxy⟩
    | succ i => exact ih hx

theorem forall₂_trans {γ : Type} {S : β → γ → Prop} {xs : List α} {ys : List β} {zs : List γ}
    (h : List.Forall₂ R xs ys) (h' : List.Forall₂ S ys zs) :
    List.Forall₂ (fun x z => ∃ y, R x y ∧ S y z) xs zs := by
  induction h generalizing zs with
  | nil => cases h'; exact .nil
  | cons hxy _ ih =>
    cases h' with
    | cons hyz more => exact .cons ⟨_, hxy, hyz⟩ (ih more)

theorem forall₂_filter {keep : α → Bool} {keep' : β → Bool}
    (same : ∀ x y, R x y → keep x = keep' y) {xs : List α} {ys : List β}
    (h : List.Forall₂ R xs ys) : List.Forall₂ R (xs.filter keep) (ys.filter keep') := by
  induction h with
  | nil => exact .nil
  | @cons x y xs ys hxy _ ih =>
    rw [List.filter_cons, List.filter_cons, same x y hxy]
    cases keep' y with
    | true => exact .cons hxy ih
    | false => exact ih

theorem forall₂_and_right {P : β → Prop} {xs : List α} {ys : List β} (h : List.Forall₂ R xs ys)
    (all : ∀ y ∈ ys, P y) : List.Forall₂ (fun x y => R x y ∧ P y) xs ys := by
  induction h with
  | nil => exact .nil
  | cons hxy _ ih =>
    rw [List.forall_mem_cons] at all
    exact .cons ⟨hxy, all.1⟩ (ih all.2)

end

end QuerySieve.Reading
