import Mathlib.Data.List.Basic
import Mathlib.Data.List.Forall2

/-!
# Computations that may fail

Decoding and compiling are sequences of steps, each of which may stop the whole. The lemmas of this
module take such a sequence apart: when it succeeds every step of it has succeeded, and when it
fails some step of it has failed. Two sequences of the same steps are compared step by step
(`Alike.bind`).
-/

namespace ParamBinding

universe u v

variable {ε : Type u} {α β : Type v}

/-- A sequence of two steps succeeds when both of them do. -/
@[simp] theorem bind_eq_ok {x : Except ε α} {f : α → Except ε β} {b : β} :
    (x >>= f) = .ok b ↔ ∃ a, x = .ok a ∧ f a = .ok b := by
  cases x with
  | error e => simp [bind, Except.bind]
  | ok a => simp [bind, Except.bind]

/-- A sequence of two steps fails when one of them does, the first before the second. -/
theorem bind_eq_error {x : Except ε α} {f : α → Except ε β} {e : ε} :
    (x >>= f) = .error e ↔ x = .error e ∨ ∃ a, x = .ok a ∧ f a = .error e := by
  cases x with
  | error e' => simp [bind, Except.bind]
  | ok a => simp [bind, Except.bind]

@[simp] theorem map_eq_ok {x : Except ε α} {f : α → β} {b : β} :
    x.map f = .ok b ↔ ∃ a, x = .ok a ∧ f a = b := by
  cases x <;> simp [Except.map]

@[simp] theorem map_eq_error {x : Except ε α} {f : α → β} {e : ε} :
    x.map f = .error e ↔ x = .error e := by
  cases x <;> simp [Except.map]

@[simp] theorem toOption_eq_some {x : Except ε α} {a : α} :
    x.toOption = some a ↔ x = .ok a := by
  cases x <;> simp [Except.toOption]

/-- A step for every element of a list succeeds when each of them does. -/
theorem mapM_eq_ok {f : α → Except ε β} {xs : List α} {ys : List β} :
    xs.mapM f = .ok ys ↔ List.Forall₂ (fun x y => f x = .ok y) xs ys := by
  induction xs generalizing ys with
  | nil => simp [pure, Except.pure, eq_comm]
  | cons x xs ih =>
    simp only [List.mapM_cons, bind_eq_ok, ih, List.forall₂_cons_left_iff, pure, Except.pure,
      Except.ok.injEq]
    constructor
    · rintro ⟨y, hy, ys', hys, rfl⟩
      exact ⟨y, ys', hy, hys, rfl⟩
    · rintro ⟨y, ys', hy, hys, rfl⟩
      exact ⟨y, hy, ys', hys, rfl⟩

/-- Steps that all succeed give the list of what they give. -/
theorem mapM_eq_ok_map {f : α → Except ε β} {g : α → β} {xs : List α}
    (h : ∀ x ∈ xs, f x = .ok (g x)) : xs.mapM f = .ok (xs.map g) := by
  rw [mapM_eq_ok, List.forall₂_map_right_iff, List.forall₂_same]
  exact h

/-- A step for every element of a list fails when one of them does. -/
theorem mapM_eq_error {f : α → Except ε β} {xs : List α} {e : ε} (h : xs.mapM f = .error e) :
    ∃ x ∈ xs, f x = .error e := by
  induction xs with
  | nil => cases h
  | cons x xs ih =>
    rw [List.mapM_cons, bind_eq_error] at h
    rcases h with hx | ⟨y, -, h⟩
    · exact ⟨x, List.mem_cons_self, hx⟩
    · rcases bind_eq_error.mp h with hxs | ⟨ys, -, h⟩
      · obtain ⟨z, hz, he⟩ := ih hxs
        exact ⟨z, List.mem_cons_of_mem x hz, he⟩
      · cases h

/-- A step for every element of a list fails with the first of them that does. -/
theorem mapM_eq_error_iff {f : α → Except ε β} {xs : List α} {e : ε} :
    xs.mapM f = .error e ↔ ∃ before x after, xs = before ++ x :: after ∧
      (∀ y ∈ before, ∃ b, f y = .ok b) ∧ f x = .error e := by
  induction xs with
  | nil => simp [pure, Except.pure]
  | cons x xs ih =>
    rw [List.mapM_cons, bind_eq_error]
    constructor
    · rintro (hx | ⟨b, hb, h⟩)
      · exact ⟨[], x, xs, rfl, by simp, hx⟩
      obtain h | ⟨bs, -, h⟩ := bind_eq_error.mp h
      · obtain ⟨before, y, after, rfl, hbefore, hy⟩ := ih.mp h
        exact ⟨x :: before, y, after, rfl, List.forall_mem_cons.mpr ⟨⟨b, hb⟩, hbefore⟩, hy⟩
      · cases h
    · rintro ⟨before, y, after, hxs, hbefore, hy⟩
      cases before with
      | nil =>
        cases hxs
        exact .inl hy
      | cons x' before =>
        cases hxs
        obtain ⟨⟨b, hb⟩, hbefore⟩ := List.forall_mem_cons.mp hbefore
        exact .inr ⟨b, hb, bind_eq_error.mpr (.inl (ih.mpr ⟨before, y, after, rfl, hbefore, hy⟩))⟩

/-- A run over a list fails when one of its steps does, after steps that succeed. -/
theorem foldlM_eq_error_iff {f : β → α → Except ε β} {xs : List α} {b : β} {e : ε} :
    xs.foldlM f b = .error e ↔
      ∃ before x after b', xs = before ++ x :: after ∧ before.foldlM f b = .ok b' ∧
        f b' x = .error e := by
  induction xs generalizing b with
  | nil => simp [pure, Except.pure]
  | cons x xs ih =>
    rw [List.foldlM_cons, bind_eq_error]
    constructor
    · rintro (h | ⟨b', hb', h⟩)
      · exact ⟨[], x, xs, b, rfl, rfl, h⟩
      · obtain ⟨before, y, after, b'', rfl, hbefore, hy⟩ := ih.mp h
        refine ⟨x :: before, y, after, b'', rfl, ?_, hy⟩
        rw [List.foldlM_cons]
        exact bind_eq_ok.mpr ⟨b', hb', hbefore⟩
    · rintro ⟨before, y, after, b', hxs, hbefore, hy⟩
      cases before with
      | nil =>
        cases hxs
        cases hbefore
        exact .inl hy
      | cons x' before =>
        cases hxs
        rw [List.foldlM_cons] at hbefore
        obtain ⟨b'', hb'', hbefore⟩ := bind_eq_ok.mp hbefore
        exact .inr ⟨b'', hb'', ih.mpr ⟨before, y, after, b', rfl, hbefore, hy⟩⟩

/-- A run over a list fails when one of its steps does. -/
theorem foldlM_eq_error {f : β → α → Except ε β} {xs : List α} {b : β} {e : ε}
    (h : xs.foldlM f b = .error e) : ∃ x ∈ xs, ∃ b', f b' x = .error e := by
  obtain ⟨before, x, after, b', rfl, -, hx⟩ := foldlM_eq_error_iff.mp h
  exact ⟨x, List.mem_append_right _ List.mem_cons_self, b', hx⟩

/-- The step for every element of the list gives an element of the result. -/
theorem exists_mem_of_mapM {f : α → Except ε β} {xs : List α} {ys : List β}
    (h : xs.mapM f = .ok ys) {x : α} (hx : x ∈ xs) : ∃ y ∈ ys, f x = .ok y := by
  rw [mapM_eq_ok] at h
  induction h with
  | nil => cases hx
  | cons hxy _ ih =>
    rcases List.mem_cons.mp hx with rfl | hx
    · exact ⟨_, List.mem_cons_self, hxy⟩
    · obtain ⟨y, hy, hf⟩ := ih hx
      exact ⟨y, List.mem_cons_of_mem _ hy, hf⟩

/-- A step for every element of a list succeeds when each of them does, whatever they give. -/
theorem exists_mapM_eq_ok {f : α → Except ε β} {xs : List α} :
    (∃ ys, xs.mapM f = .ok ys) ↔ ∀ x ∈ xs, ∃ y, f x = .ok y := by
  constructor
  · rintro ⟨ys, hys⟩ x hx
    obtain ⟨y, -, hy⟩ := exists_mem_of_mapM hys hx
    exact ⟨y, hy⟩
  · intro h
    cases hys : xs.mapM f with
    | ok ys => exact ⟨ys, rfl⟩
    | error e =>
      obtain ⟨x, hx, he⟩ := mapM_eq_error hys
      obtain ⟨y, hy⟩ := h x hx
      rw [hy] at he
      cases he

/-- The elements of the result come from steps for elements of the list. -/
theorem exists_of_mem_mapM {f : α → Except ε β} {xs : List α} {ys : List β}
    (h : xs.mapM f = .ok ys) {y : β} (hy : y ∈ ys) : ∃ x ∈ xs, f x = .ok y := by
  rw [mapM_eq_ok] at h
  induction h with
  | nil => cases hy
  | cons hxy _ ih =>
    rcases List.mem_cons.mp hy with rfl | hy
    · exact ⟨_, List.mem_cons_self, hxy⟩
    · obtain ⟨x, hx, hf⟩ := ih hy
      exact ⟨x, List.mem_cons_of_mem _ hx, hf⟩

/-! ### Two computations side by side -/

section Alike

variable {γ δ : Type v} {E : ε → ε → Prop} {R : α → β → Prop} {S : γ → δ → Prop}

/-- Two computations both succeed, with results in one relation, or both fail, with faults in
another one. -/
inductive Alike (E : ε → ε → Prop) (R : α → β → Prop) : Except ε α → Except ε β → Prop where
  | ok {a : α} {b : β} (h : R a b) : Alike E R (.ok a) (.ok b)
  | error {e f : ε} (h : E e f) : Alike E R (.error e) (.error f)

theorem Alike.refl {R : α → α → Prop} (hE : ∀ e, E e e) (hR : ∀ a, R a a) (x : Except ε α) :
    Alike E R x x := by
  cases x with
  | error e => exact .error (hE e)
  | ok a => exact .ok (hR a)

/-- Sequences are alike when their first steps are and what follows these is. -/
theorem Alike.bind {x : Except ε α} {y : Except ε β} {f : α → Except ε γ} {g : β → Except ε δ}
    (h : Alike E R x y) (hfg : ∀ a b, R a b → Alike E S (f a) (g b)) :
    Alike E S (x >>= f) (y >>= g) := by
  cases h with
  | ok h => exact hfg _ _ h
  | error h => exact .error h

/-- A first step that both share need not be looked at. -/
theorem Alike.bind_same (x : Except ε α) {f : α → Except ε γ} {g : α → Except ε δ}
    (hE : ∀ e, E e e) (hfg : ∀ a, Alike E S (f a) (g a)) : Alike E S (x >>= f) (x >>= g) := by
  cases x with
  | error e => exact .error (hE e)
  | ok a => exact hfg a

theorem Alike.map {x : Except ε α} {y : Except ε β} {f : α → γ} {g : β → δ}
    (h : Alike E R x y) (hfg : ∀ a b, R a b → S (f a) (g b)) :
    Alike E S (x.map f) (y.map g) := by
  cases h with
  | ok h => exact .ok (hfg _ _ h)
  | error h => exact .error h

theorem Alike.map_same (x : Except ε α) {f : α → γ} {g : α → δ} (hE : ∀ e, E e e)
    (hfg : ∀ a, S (f a) (g a)) : Alike E S (x.map f) (x.map g) := by
  cases x with
  | error e => exact .error (hE e)
  | ok a => exact .ok (hfg a)

/-- Steps for the elements of two lists are alike when they are for each pair of elements. -/
theorem Alike.mapM {T : γ → δ → Prop} {xs : List γ} {ys : List δ} {f : γ → Except ε α}
    {g : δ → Except ε β} (hfg : ∀ x y, T x y → Alike E R (f x) (g y))
    (h : List.Forall₂ T xs ys) : Alike E (List.Forall₂ R) (xs.mapM f) (ys.mapM g) := by
  induction h with
  | nil => exact .ok .nil
  | @cons x y xs ys hxy _ ih =>
    rw [List.mapM_cons, List.mapM_cons]
    refine (hfg x y hxy).bind fun a b hab => ?_
    refine ih.bind fun as bs habs => ?_
    exact .ok (.cons hab habs)

/-- A run over one list from two states keeps them in a relation that every step keeps. -/
theorem Alike.foldlM {f : α → γ → Except ε α} {g : β → γ → Except ε β}
    (hstep : ∀ a b x, R a b → Alike E R (f a x) (g b x)) (xs : List γ) {a : α} {b : β}
    (h : R a b) : Alike E R (xs.foldlM f a) (xs.foldlM g b) := by
  induction xs generalizing a b with
  | nil => exact .ok h
  | cons x xs ih =>
    rw [List.foldlM_cons, List.foldlM_cons]
    exact (hstep a b x h).bind fun a' b' h' => ih h'

end Alike

/-! ### Two lists side by side -/

section Lists

variable {γ : Type v} {R : α → β → Prop} {xs : List α} {ys : List β}

theorem map_eq_map_of_forall₂ {f : α → γ} {g : β → γ} (h : List.Forall₂ R xs ys)
    (hfg : ∀ x y, R x y → f x = g y) : xs.map f = ys.map g := by
  induction h with
  | nil => rfl
  | cons hxy _ ih => rw [List.map_cons, List.map_cons, hfg _ _ hxy, ih]

theorem rel_find?_of_forall₂ {p : α → Bool} {q : β → Bool} (h : List.Forall₂ R xs ys)
    (hpq : ∀ x y, R x y → p x = q y) : Option.Rel R (xs.find? p) (ys.find? q) := by
  induction h with
  | nil => exact .none
  | @cons x y xs ys hxy _ ih =>
    rw [List.find?_cons, List.find?_cons, hpq x y hxy]
    cases q y with
    | true => exact .some hxy
    | false => exact ih

end Lists

end ParamBinding
