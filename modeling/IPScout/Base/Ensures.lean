import IPScout.Base.Exchange

/-!
# What every run of an exchange ensures

`Ensures serves s m post` says that every run of the exchange `m` from the state `s` ends in
an outcome and a state that meet `post`.  There is one rule for each way an exchange is
built: `done` ends where it starts, `ask` has to cope with every answer the server may give,
and of two parts the second starts where the first one ends.

`andThen` is `bind` for functions that raise: the second part is asked only if the first one
returns.
-/

namespace IPScout.Base.Exchange

variable {Q σ α β : Type*} {A : Q → Type*}

/-- Every run of the exchange from `s` ends in an outcome and a state that meet `post`. -/
def Ensures (serves : σ → (q : Q) → A q → σ → Prop) (s : σ) (m : Exchange Q A α)
    (post : α → σ → Prop) : Prop :=
  ∀ trace a u, Runs serves s m trace a u → post a u

variable {serves : σ → (q : Q) → A q → σ → Prop} {s : σ} {post : α → σ → Prop}

theorem ensures_done {a : α} :
    Ensures serves s (done a : Exchange Q A α) post ↔ post a s := by
  constructor
  · intro h
    exact h [] a s .done
  · intro h trace b u hrun
    obtain ⟨_, rfl, rfl⟩ := runs_done.mp hrun
    exact h

theorem ensures_ask {q : Q} {next : A q → Exchange Q A α} :
    Ensures serves s (ask q next) post ↔
      ∀ r t, serves s q r t → Ensures serves t (next r) post := by
  constructor
  · intro h r t hserve trace a u hrun
    exact h _ a u (.ask hserve hrun)
  · intro h trace a u hrun
    obtain ⟨r, t, rest, _, hserve, hrest⟩ := runs_ask.mp hrun
    exact h r t hserve rest a u hrest

/-- **The second part starts where the first one ends.** -/
theorem ensures_bind {m : Exchange Q A α} {f : α → Exchange Q A β} {post : β → σ → Prop} :
    Ensures serves s (m.bind f) post ↔
      Ensures serves s m fun a t => Ensures serves t (f a) post := by
  constructor
  · intro h first a t hfirst second b u hsecond
    exact h _ b u (runs_bind.mpr ⟨first, second, a, t, rfl, hfirst, hsecond⟩)
  · intro h trace b u hrun
    obtain ⟨first, second, a, t, _, hfirst, hsecond⟩ := runs_bind.mp hrun
    exact h first a t hfirst second b u hsecond

theorem Ensures.mono {m : Exchange Q A α} {post' : α → σ → Prop}
    (h : Ensures serves s m post) (hpost : ∀ a u, post a u → post' a u) :
    Ensures serves s m post' := by
  intro trace a u hrun
  exact hpost a u (h trace a u hrun)

theorem Runs.of_le {serves' : σ → (q : Q) → A q → σ → Prop} {m : Exchange Q A α} {u : σ}
    {trace : List (Sigma A)} {a : α} (h : Runs serves s m trace a u)
    (hle : ∀ {s q r t}, serves s q r t → serves' s q r t) : Runs serves' s m trace a u := by
  induction h with
  | done => exact .done
  | ask hserve _ ih => exact .ask (hle hserve) ih

/-! ### Functions that raise -/

/-- One call after another, the second only if the first one returns. -/
def andThen {ε : Type*} (m : Exchange Q A (Except ε α)) (f : α → Exchange Q A (Except ε β)) :
    Exchange Q A (Except ε β) :=
  m.bind fun
    | .error e => .done (.error e)
    | .ok a => f a

theorem ensures_andThen {ε : Type*} {m : Exchange Q A (Except ε α)}
    {f : α → Exchange Q A (Except ε β)} {post : Except ε β → σ → Prop}
    (h : Ensures serves s m fun a t =>
      (∀ e, a = .error e → post (.error e) t) ∧ ∀ b, a = .ok b → Ensures serves t (f b) post) :
    Ensures serves s (m.andThen f) post := by
  rw [andThen, ensures_bind]
  refine h.mono ?_
  rintro (e | b) t ⟨herror, hok⟩
  · rw [ensures_done]
    exact herror e rfl
  · exact hok b rfl

end IPScout.Base.Exchange
