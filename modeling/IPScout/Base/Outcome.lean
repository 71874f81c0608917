import Mathlib.Data.List.Forall2

/-!
# Computations that may fail

`Except ε α` is the outcome of a computation that returns or raises.  This file has
the rules for taking one apart: a sequence that returns has steps that return
(`bind_eq_ok`), a sequence ends in one of two ways if its steps do (`bind_cases`),
and a computation repeated over a list returns when each of its turns does.

`Refines f R x y` says that `x` ends as `y` does: it raises `f e` when `y` raises
`e`, and its result is related by `R` to the one of `y`.  A sequence refines a
sequence step by step (`Refines.bind`).
-/

namespace IPScout.Base

variable {ε α β : Type}

/-- **A sequence returns what its second step returns on what the first one does.** -/
theorem bind_eq_ok {x : Except ε α} {f : α → Except ε β} {b : β} :
    x >>= f = .ok b ↔ ∃ a, x = .ok a ∧ f a = .ok b := by
  cases x with
  | error e =>
    constructor
    · intro h
      exact absurd h (by simp [bind, Except.bind])
    · rintro ⟨a, ha, _⟩
      simp at ha
  | ok a =>
    constructor
    · intro h
      exact ⟨a, rfl, h⟩
    · rintro ⟨c, hc, hb⟩
      rw [← Except.ok.inj hc] at hb
      exact hb

/-- **A sequence raises what its first step raises, or its second on what the first one
returns.** -/
theorem bind_eq_error {x : Except ε α} {f : α → Except ε β} {e : ε} :
    x >>= f = .error e ↔ x = .error e ∨ ∃ a, x = .ok a ∧ f a = .error e := by
  cases x with
  | error e' =>
    constructor
    · intro h
      rw [← Except.error.inj h]
      exact Or.inl rfl
    · rintro (h | ⟨a, ha, _⟩)
      · rw [← Except.error.inj h]
        rfl
      · simp at ha
  | ok a =>
    constructor
    · intro h
      exact Or.inr ⟨a, rfl, h⟩
    · rintro (h | ⟨c, hc, he⟩)
      · simp at h
      · rw [← Except.ok.inj hc] at he
        exact he

theorem bind_cases {x : Except ε α} {f : α → Except ε β} {P : β → Prop} {Q : ε → Prop}
    (herror : ∀ e, x = .error e → Q e)
    (hok : ∀ a, x = .ok a → (∃ b, f a = .ok b ∧ P b) ∨ ∃ e, f a = .error e ∧ Q e) :
    (∃ b, x >>= f = .ok b ∧ P b) ∨ ∃ e, x >>= f = .error e ∧ Q e := by
  cases x with
  | error e => exact Or.inr ⟨e, rfl, herror e rfl⟩
  | ok a => exact hok a rfl

theorem mapM_nil_eq_ok {f : α → Except ε β} {ys : List β} :
    List.mapM f [] = .ok ys ↔ ys = [] := by
  constructor
  · intro h
    exact (Except.ok.inj h).symm
  · rintro rfl
    rfl

theorem mapM_cons_eq_ok {f : α → Except ε β} {x : α} {xs : List α} {zs : List β} :
    (x :: xs).mapM f = .ok zs ↔
      ∃ y ys, f x = .ok y ∧ xs.mapM f = .ok ys ∧ zs = y :: ys := by
  rw [List.mapM_cons, bind_eq_ok]
  constructor
  · rintro ⟨y, hy, hrest⟩
    obtain ⟨ys, hys, hzs⟩ := bind_eq_ok.mp hrest
    exact ⟨y, ys, hy, hys, (Except.ok.inj hzs).symm⟩
  · rintro ⟨y, ys, hy, hys, rfl⟩
    exact ⟨y, hy, bind_eq_ok.mpr ⟨ys, hys, rfl⟩⟩

/-- **A repeated computation returns when each of its turns does.** -/
theorem mapM_ok {f : α → Except ε β} {l : List α} (h : ∀ x ∈ l, ∃ y, f x = .ok y) :
    ∃ ys, l.mapM f = .ok ys := by
  induction l with
  | nil => exact ⟨[], rfl⟩
  | cons x l ih =>
    obtain ⟨y, hy⟩ := h x List.mem_cons_self
    obtain ⟨ys, hys⟩ := ih fun z hz => h z (List.mem_cons_of_mem _ hz)
    exact ⟨y :: ys, mapM_cons_eq_ok.mpr ⟨y, ys, hy, hys, rfl⟩⟩

theorem exists_mapM_eq_error {f : α → Except ε β} {l : List α} {x : α} {e : ε} (hx : x ∈ l)
    (he : f x = .error e) : ∃ y ∈ l, ∃ e', f y = .error e' ∧ l.mapM f = .error e' := by
  induction l with
  | nil => simp at hx
  | cons z l ih =>
    rw [List.mapM_cons]
    cases hz : f z with
    | error e' => exact ⟨z, List.mem_cons_self, e', hz, rfl⟩
    | ok w =>
      rcases List.mem_cons.mp hx with rfl | hx
      · rw [he] at hz
        simp at hz
      · obtain ⟨y, hy, e', hye, hrest⟩ := ih hx
        rw [hrest]
        exact ⟨y, List.mem_cons_of_mem _ hy, e', hye, rfl⟩

/-- **The turns of a repeated computation, each with its result.** -/
theorem exists_mapM_forall₂ {f : α → Except ε β} {R : α → β → Prop} {l : List α}
    (h : ∀ x ∈ l, ∃ y, f x = .ok y ∧ R x y) : ∃ ys, l.mapM f = .ok ys ∧ List.Forall₂ R l ys := by
  induction l with
  | nil => exact ⟨[], rfl, .nil⟩
  | cons x l ih =>
    obtain ⟨y, hy, hR⟩ := h x List.mem_cons_self
    obtain ⟨ys, hys, hrest⟩ := ih fun z hz => h z (List.mem_cons_of_mem _ hz)
    exact ⟨y :: ys, mapM_cons_eq_ok.mpr ⟨y, ys, hy, hys, rfl⟩, .cons hR hrest⟩

/-- **The results of a repeated computation** are those of its turns. -/
theorem mem_mapM_iff {f : α → Except ε β} {l : List α} {ys : List β} (h : l.mapM f = .ok ys)
    {y : β} : y ∈ ys ↔ ∃ x ∈ l, f x = .ok y := by
  induction l generalizing ys with
  | nil => simp [mapM_nil_eq_ok.mp h]
  | cons z l ih =>
    obtain ⟨w, ws, hw, hws, rfl⟩ := mapM_cons_eq_ok.mp h
    rw [List.mem_cons, ih hws]
    constructor
    · rintro (rfl | ⟨x, hx, hy⟩)
      · exact ⟨z, List.mem_cons_self, hw⟩
      · exact ⟨x, List.mem_cons_of_mem _ hx, hy⟩
    · rintro ⟨x, hx, hy⟩
      rcases List.mem_cons.mp hx with rfl | hx
      · rw [hw, Except.ok.injEq] at hy
        exact Or.inl hy.symm
      · exact Or.inr ⟨x, hx, hy⟩

/-! ### Refinement -/

variable {ε' γ δ : Type}

/-- The first computation ends as the second one does. -/
inductive Refines (f : ε' → ε) (R : α → β → Prop) : Except ε α → Except ε' β → Prop
  | error (e : ε') : Refines f R (.error (f e)) (.error e)
  | ok {a : α} {b : β} (h : R a b) : Refines f R (.ok a) (.ok b)

/-- **A sequence refines a sequence**, if its steps refine the other's steps. -/
theorem Refines.bind {f : ε' → ε} {R : α → β → Prop} {S : γ → δ → Prop} {x : Except ε α}
    {y : Except ε' β} {g : α → Except ε γ} {h : β → Except ε' δ} (hxy : Refines f R x y)
    (hsteps : ∀ a b, x = .ok a → y = .ok b → R a b → Refines f S (g a) (h b)) :
    Refines f S (x >>= g) (y >>= h) := by
  cases hxy with
  | error e => exact .error e
  | ok hr => exact hsteps _ _ rfl rfl hr

/-- What refines with equal results ends the same way. -/
theorem Refines.eq_mapError {f : ε' → ε} {x : Except ε α} {y : Except ε' α}
    (h : Refines f Eq x y) : x = y.mapError f := by
  cases h with
  | error e => rfl
  | ok hr => rw [hr]; rfl

end IPScout.Base
