import Mathlib.Data.List.Induction

/-!
# Runs of a transition system

`Steps step s as t` says that the actions `as`, taken in order, lead from `s`
to `t`.  A system is its step relation; a claim about every run is a claim about
every `Steps`, and it is proved from one step: `Steps.invariant` for what every
step preserves, and `Steps.trace` for what it preserves of the actions so far and
the state they lead to.

A run all of whose steps meet a condition is a run of `guarded cond step`.
-/

namespace IPScout.Base

variable {σ α : Type*}

/-- The actions `as`, in order, lead from the first state to the last. -/
inductive Steps (step : σ → α → σ → Prop) : σ → List α → σ → Prop
  | nil (s : σ) : Steps step s [] s
  | snoc {s t u : σ} {as : List α} {a : α} :
      Steps step s as t → step t a u → Steps step s (as ++ [a]) u

/-- The steps whose action meets a condition in the state it is taken in. -/
def guarded (cond : σ → α → Prop) (step : σ → α → σ → Prop) (s : σ) (a : α) (t : σ) : Prop :=
  cond s a ∧ step s a t

namespace Steps

variable {step : σ → α → σ → Prop}

theorem single {s t : σ} {a : α} (h : step s a t) : Steps step s [a] t := .snoc (.nil s) h

theorem append {s t u : σ} {as bs : List α} (h : Steps step s as t) (g : Steps step t bs u) :
    Steps step s (as ++ bs) u := by
  induction g with
  | nil => rwa [List.append_nil]
  | snoc _ hstep ih => rw [← List.append_assoc]; exact .snoc ih hstep

theorem cons {s t u : σ} {a : α} {as : List α} (h : step s a t) (g : Steps step t as u) :
    Steps step s (a :: as) u := (single h).append g

theorem eq_of_nil {s t : σ} (h : Steps step s [] t) : s = t := by
  generalize hbs : ([] : List α) = bs at h
  cases h with
  | nil => rfl
  | snoc => simp at hbs

theorem exists_of_snoc {s u : σ} {as : List α} {a : α} (h : Steps step s (as ++ [a]) u) :
    ∃ t, Steps step s as t ∧ step t a u := by
  generalize hbs : as ++ [a] = bs at h
  cases h with
  | nil => simp at hbs
  | @snoc t _ cs c hrun hlast =>
    obtain ⟨rfl, hac⟩ := List.append_inj' hbs rfl
    rw [List.singleton_inj] at hac
    subst hac
    exact ⟨t, hrun, hlast⟩

theorem exists_of_append {s u : σ} {as bs : List α} (h : Steps step s (as ++ bs) u) :
    ∃ t, Steps step s as t ∧ Steps step t bs u := by
  induction bs using List.reverseRecOn generalizing u with
  | nil =>
    rw [List.append_nil] at h
    exact ⟨u, h, .nil u⟩
  | append_singleton bs b ih =>
    rw [← List.append_assoc] at h
    obtain ⟨v, hrun, hlast⟩ := exists_of_snoc h
    obtain ⟨t, hleft, hright⟩ := ih hrun
    exact ⟨t, hleft, .snoc hright hlast⟩

theorem exists_of_cons {s u : σ} {a : α} {as : List α} (h : Steps step s (a :: as) u) :
    ∃ t, step s a t ∧ Steps step t as u := by
  obtain ⟨t, hfirst, hrest⟩ := exists_of_append (show Steps step s ([a] ++ as) u from h)
  obtain ⟨v, hnil, hstep⟩ := exists_of_snoc (show Steps step s ([] ++ [a]) t from hfirst)
  rw [eq_of_nil hnil]
  exact ⟨t, hstep, hrest⟩

/-- **What holds at the start and is preserved by every step holds at the end.** -/
theorem invariant {I : σ → Prop} {s t : σ} {as : List α} (h : Steps step s as t) (hs : I s)
    (hstep : ∀ {s a t}, I s → step s a t → I t) : I t := by
  induction h with
  | nil => exact hs
  | snoc _ hlast ih => exact hstep ih hlast

/-- **What holds of no actions at the start, and is preserved as a run grows, holds
of the actions and the end of every run.** -/
theorem trace {I : List α → σ → Prop} {s t : σ} {as : List α} (h : Steps step s as t)
    (hs : I [] s) (hstep : ∀ {as t a u}, I as t → step t a u → I (as ++ [a]) u) : I as t := by
  induction h with
  | nil => exact hs
  | snoc _ hlast ih => exact hstep ih hlast

/-- A run of the guarded system is a run of the system. -/
theorem of_guarded {cond : σ → α → Prop} {s t : σ} {as : List α}
    (h : Steps (guarded cond step) s as t) : Steps step s as t := by
  induction h with
  | nil => exact .nil _
  | snoc _ hlast ih => exact .snoc ih hlast.2

end Steps

end IPScout.Base
