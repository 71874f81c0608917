import Mathlib.Tactic.TypeStar

/-!
# Exchanges with a server

An `Exchange` asks a server one request after another, each of them chosen by the answers
to those before it, and ends with an outcome.  The type of an answer depends on its
request.  What the server may answer, and what that does to its state, is a relation, so
`Runs` is every way an exchange can go.

An exchange of two parts runs as the parts run one after the other (`runs_bind`).
-/

namespace IPScout.Base

/-- An exchange with a server of the requests `Q`. -/
inductive Exchange (Q : Type*) (A : Q → Type*) (α : Type*)
  | done (outcome : α)
  | ask (request : Q) (next : A request → Exchange Q A α)

namespace Exchange

variable {Q σ α β : Type*} {A : Q → Type*}

def bind (m : Exchange Q A α) (f : α → Exchange Q A β) : Exchange Q A β :=
  match m with
  | done a => f a
  | ask q next => ask q fun r => (next r).bind f

/-- A run of an exchange: the requests with their answers, its outcome, and the states of the
server before and after. -/
inductive Runs (serves : σ → (q : Q) → A q → σ → Prop) :
    σ → Exchange Q A α → List (Sigma A) → α → σ → Prop
  | done {s : σ} {a : α} : Runs serves s (done a) [] a s
  | ask {s t u : σ} {q : Q} {next : A q → Exchange Q A α} {r : A q} {trace : List (Sigma A)}
      {a : α} : serves s q r t → Runs serves t (next r) trace a u →
      Runs serves s (ask q next) (⟨q, r⟩ :: trace) a u

variable {serves : σ → (q : Q) → A q → σ → Prop} {s u : σ} {trace : List (Sigma A)}

theorem runs_done {a b : α} :
    Runs serves s (done a : Exchange Q A α) trace b u ↔ trace = [] ∧ b = a ∧ u = s := by
  constructor
  · intro h
    cases h
    exact ⟨rfl, rfl, rfl⟩
  · rintro ⟨rfl, rfl, rfl⟩
    exact .done

theorem runs_ask {q : Q} {next : A q → Exchange Q A α} {a : α} :
    Runs serves s (ask q next) trace a u ↔ ∃ r t rest, trace = ⟨q, r⟩ :: rest ∧
      serves s q r t ∧ Runs serves t (next r) rest a u := by
  constructor
  · intro h
    cases h with
    | ask hserve hrest => exact ⟨_, _, _, rfl, hserve, hrest⟩
  · rintro ⟨r, t, rest, rfl, hserve, hrest⟩
    exact .ask hserve hrest

/-- **An exchange of two parts runs as one part after the other.** -/
theorem runs_bind {m : Exchange Q A α} {f : α → Exchange Q A β} {b : β} :
    Runs serves s (m.bind f) trace b u ↔ ∃ first second a t, trace = first ++ second ∧
      Runs serves s m first a t ∧ Runs serves t (f a) second b u := by
  induction m generalizing s trace with
  | done a =>
    rw [bind]
    constructor
    · intro h
      exact ⟨[], trace, a, s, rfl, .done, h⟩
    · rintro ⟨first, second, a', t, rfl, hfirst, hsecond⟩
      obtain ⟨rfl, rfl, rfl⟩ := runs_done.mp hfirst
      exact hsecond
  | ask q next ih =>
    rw [bind, runs_ask]
    constructor
    · rintro ⟨r, t, rest, rfl, hserve, hrest⟩
      obtain ⟨first, second, a, v, rfl, hfirst, hsecond⟩ := (ih r).mp hrest
      exact ⟨_, second, a, v, rfl, .ask hserve hfirst, hsecond⟩
    · rintro ⟨first, second, a, v, rfl, hfirst, hsecond⟩
      obtain ⟨r, t, rest, rfl, hserve, hrest⟩ := runs_ask.mp hfirst
      exact ⟨r, t, rest ++ second, rfl, hserve, (ih r).mpr ⟨_, _, _, _, rfl, hrest, hsecond⟩⟩

end Exchange

end IPScout.Base
