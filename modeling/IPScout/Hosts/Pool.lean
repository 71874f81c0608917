import IPScout.Base.Steps
import Mathlib.Algebra.Ring.Nat
import Mathlib.Data.List.Perm.Basic

/-!
# The bounded pool

`gather_bounded` of `pool.py`: a fixed number of workers pull items from one
iterator, and `asyncio.gather` waits for them.  A step is one worker running to
its next await, or the gather ending.  A worker that raises stops, and the first
exception is what the gather raises, while the other workers go on.

Every item is returned, held by a worker or still pending (`Pool.Inv.accounts`),
whatever the order in which the works end.  So a pool that returns has returned
every item's own result once (`returned_all`), a pool that raises raises what one
of its works raised (`raised_one`), and each step spends one unit of a budget that
the start fixes (`budget_of_run`).
-/

namespace IPScout

open Base

variable {ι ρ ε : Type}

/-! ### States and steps -/

/-- A task of the pool. -/
inductive Worker (ι : Type)
  | created
  | working (item : ι)
  | raised (item : ι)
  | returned

/-- The item a worker has taken and not returned the result of. -/
def Worker.item? : Worker ι → Option ι
  | .working item => some item
  | .raised item => some item
  | _ => none

/-- What a worker still costs. -/
def Worker.budget : Worker ι → ℕ
  | .created => 1
  | .working _ => 1
  | _ => 0

/-- A call of `gather_bounded`: `firstRaised` is the exception of the gather, and
`outcome` how the call ended. -/
structure Pool (ι ρ ε : Type) where
  pending : List ι
  workers : List (Worker ι)
  results : List ρ
  firstRaised : Option ε
  outcome : Option (Except ε (List ρ))

namespace Pool

def initial (items : List ι) (concurrency : ℕ) : Pool ι ρ ε :=
  ⟨items, List.replicate concurrency .created, [], none, none⟩

/-- `item = next(pending)`, and the start of its work; or the end of the worker. -/
def pull (s : Pool ι ρ ε) (before after : List (Worker ι)) : Pool ι ρ ε :=
  match s.pending with
  | [] => { s with workers := before ++ .returned :: after }
  | item :: rest => { s with pending := rest, workers := before ++ .working item :: after }

/-- `results.append(...)`. -/
def append (s : Pool ι ρ ε) (result : ρ) : Pool ι ρ ε := { s with results := s.results ++ [result] }

/-- A worker ends with an exception; the gather keeps the first. -/
def fail (s : Pool ι ρ ε) (before after : List (Worker ι)) (item : ι) (e : ε) : Pool ι ρ ε :=
  { s with workers := before ++ .raised item :: after, firstRaised := s.firstRaised <|> some e }

/-- The items taken and not returned. -/
def held (s : Pool ι ρ ε) : List ι := s.workers.filterMap Worker.item?

/-- What the run still costs. -/
def budget (s : Pool ι ρ ε) : ℕ :=
  s.pending.length + (s.workers.map Worker.budget).sum + if s.outcome.isNone then 1 else 0

end Pool

inductive PoolAction (ι : Type)
  | start
  | finish (item : ι)
  | fail (item : ι)
  | raise
  | gather

/-- One step of the pool. -/
inductive PoolStep (work : ι → Except ε ρ) : Pool ι ρ ε → PoolAction ι → Pool ι ρ ε → Prop
  | start {s : Pool ι ρ ε} {before after : List (Worker ι)} :
      s.workers = before ++ .created :: after → PoolStep work s .start (s.pull before after)
  | finish {s : Pool ι ρ ε} {before after : List (Worker ι)} {item : ι} {result : ρ} :
      s.workers = before ++ .working item :: after → work item = .ok result →
      PoolStep work s (.finish item) ((s.append result).pull before after)
  | fail {s : Pool ι ρ ε} {before after : List (Worker ι)} {item : ι} {e : ε} :
      s.workers = before ++ .working item :: after → work item = .error e →
      PoolStep work s (.fail item) (s.fail before after item e)
  | raise {s : Pool ι ρ ε} {e : ε} : s.outcome = none → s.firstRaised = some e →
      PoolStep work s .raise { s with outcome := some (.error e) }
  | gather {s : Pool ι ρ ε} : s.outcome = none → (∀ w ∈ s.workers, w = .returned) →
      PoolStep work s .gather { s with outcome := some (.ok s.results) }

/-! ### What a worker's step does -/

theorem mem_replaced {before after : List (Worker ι)} {w old new : Worker ι}
    (h : w ∈ before ++ new :: after) : w = new ∨ w ∈ before ++ old :: after := by
  rw [List.mem_append, List.mem_cons] at h
  rw [List.mem_append, List.mem_cons]
  rcases h with h | h | h
  · exact Or.inr (Or.inl h)
  · exact Or.inl h
  · exact Or.inr (Or.inr (Or.inr h))

theorem mem_replace {before after : List (Worker ι)} {w old : Worker ι} (new : Worker ι)
    (h : w ∈ before ++ old :: after) (hne : w ≠ old) : w ∈ before ++ new :: after :=
  (mem_replaced h).resolve_left hne

namespace Pool

theorem pull_results (s : Pool ι ρ ε) (before after : List (Worker ι)) :
    (s.pull before after).results = s.results := by
  rw [pull]
  split <;> rfl

theorem pull_firstRaised (s : Pool ι ρ ε) (before after : List (Worker ι)) :
    (s.pull before after).firstRaised = s.firstRaised := by
  rw [pull]
  split <;> rfl

theorem pull_outcome (s : Pool ι ρ ε) (before after : List (Worker ι)) :
    (s.pull before after).outcome = s.outcome := by
  rw [pull]
  split <;> rfl

/-- A worker that pulls is a worker that has stopped, with nothing pending, or that
works on the first of what was pending. -/
theorem pull_cases (s : Pool ι ρ ε) (before after : List (Worker ι)) :
    (s.pending = [] ∧ (s.pull before after).pending = [] ∧
      (s.pull before after).workers = before ++ .returned :: after) ∨
    ∃ item rest, s.pending = item :: rest ∧ (s.pull before after).pending = rest ∧
      (s.pull before after).workers = before ++ .working item :: after := by
  rw [pull]
  cases hpending : s.pending with
  | nil => exact Or.inl ⟨rfl, rfl, rfl⟩
  | cons item rest => exact Or.inr ⟨item, rest, rfl, rfl, rfl⟩

theorem mem_of_mem_pull {s : Pool ι ρ ε} {before after : List (Worker ι)} {w old : Worker ι}
    (hworkers : s.workers = before ++ old :: after) (hw : w ∈ (s.pull before after).workers) :
    w ∈ s.workers ∨ (w = .returned ∧ s.pending = []) ∨ ∃ item, w = .working item := by
  rw [hworkers]
  rcases s.pull_cases before after with ⟨hpending, _, hnew⟩ | ⟨item, rest, _, _, hnew⟩
  · rw [hnew] at hw
    rcases mem_replaced hw with hw | hw
    · exact Or.inr (Or.inl ⟨hw, hpending⟩)
    · exact Or.inl hw
  · rw [hnew] at hw
    rcases mem_replaced hw with hw | hw
    · exact Or.inr (Or.inr ⟨item, hw⟩)
    · exact Or.inl hw

theorem mem_pull {s : Pool ι ρ ε} {before after : List (Worker ι)} {w old : Worker ι}
    (hworkers : s.workers = before ++ old :: after) (hw : w ∈ s.workers) (hne : w ≠ old) :
    w ∈ (s.pull before after).workers := by
  rw [hworkers] at hw
  rcases s.pull_cases before after with ⟨_, _, hnew⟩ | ⟨item, rest, _, _, hnew⟩
  · rw [hnew]
    exact mem_replace _ hw hne
  · rw [hnew]
    exact mem_replace _ hw hne

theorem length_pull (s : Pool ι ρ ε) (before after : List (Worker ι)) :
    (s.pull before after).workers.length = before.length + (after.length + 1) := by
  rcases s.pull_cases before after with ⟨_, _, hnew⟩ | ⟨item, rest, _, _, hnew⟩
  · rw [hnew, List.length_append, List.length_cons]
  · rw [hnew, List.length_append, List.length_cons]

theorem held_pull (s : Pool ι ρ ε) (before after : List (Worker ι)) :
    ((s.pull before after).held ++ (s.pull before after).pending).Perm
      (before.filterMap Worker.item? ++ after.filterMap Worker.item? ++ s.pending) := by
  rcases s.pull_cases before after with
    ⟨hold, hpending, hworkers⟩ | ⟨item, rest, hold, hpending, hworkers⟩
  · rw [held, hworkers, hpending, hold, List.filterMap_append, List.filterMap_cons_none rfl]
  · rw [held, hworkers, hpending, hold, List.filterMap_append,
      List.filterMap_cons_some (show Worker.item? (.working item) = some item from rfl)]
    rw [List.append_assoc, List.append_assoc, List.cons_append]
    exact List.Perm.append_left _ List.perm_middle.symm

theorem budget_pull (s : Pool ι ρ ε) (before after : List (Worker ι)) :
    (s.pull before after).budget + 1 = s.pending.length +
      ((before.map Worker.budget).sum + (1 + (after.map Worker.budget).sum)) +
      if s.outcome.isNone then 1 else 0 := by
  rcases s.pull_cases before after with ⟨hold, hpending, hnew⟩ | ⟨item, rest, hold, hpending, hnew⟩
  · rw [budget, hnew, hpending, hold, pull_outcome, List.map_append, List.sum_append, List.map_cons,
      List.sum_cons]
    show _ + (_ + (0 + _)) + _ + 1 = _
    omega
  · rw [budget, hnew, hpending, hold, pull_outcome, List.map_append, List.sum_append, List.map_cons,
      List.sum_cons, List.length_cons]
    show _ + (_ + (1 + _)) + _ + 1 = _
    omega

/-! ### The invariant -/

/-- What every run of the pool keeps. -/
structure Inv (work : ι → Except ε ρ) (items : List ι) (concurrency : ℕ) (s : Pool ι ρ ε) :
    Prop where
  size : s.workers.length = concurrency
  /-- Every item is returned, held or pending. -/
  accounts : ∃ finished : List ι, finished.map work = s.results.map Except.ok ∧
    (finished ++ (s.held ++ s.pending)).Perm items
  exhausted : .returned ∈ s.workers → s.pending = []
  raised : ∀ item, .raised item ∈ s.workers → s.firstRaised ≠ none
  first : ∀ e, s.firstRaised = some e → ∃ item, .raised item ∈ s.workers ∧ work item = .error e
  ok : ∀ rs, s.outcome = some (.ok rs) → rs = s.results ∧ ∀ w ∈ s.workers, w = .returned
  error : ∀ e, s.outcome = some (.error e) → s.firstRaised = some e

section

variable {work : ι → Except ε ρ} {items : List ι} {concurrency : ℕ} {s t : Pool ι ρ ε}

theorem inv_initial : Inv work items concurrency (initial items concurrency) where
  size := List.length_replicate
  accounts := by
    refine ⟨[], rfl, ?_⟩
    have hheld : (initial items concurrency : Pool ι ρ ε).held = [] := by
      rw [held, List.filterMap_eq_nil_iff]
      intro w hw
      rw [List.eq_of_mem_replicate hw]
      rfl
    rw [hheld]
    exact List.Perm.refl _
  exhausted h := by simp [initial, List.mem_replicate] at h
  raised item h := by simp [initial, List.mem_replicate] at h
  first e h := by simp [initial] at h
  ok rs h := by simp [initial] at h
  error e h := by simp [initial] at h

theorem Inv.pull (h : Inv work items concurrency s) (results : List ρ)
    {before after : List (Worker ι)} {old : Worker ι}
    (hworkers : s.workers = before ++ old :: after) (hreturned : old ≠ .returned)
    (hraised : ∀ item, old ≠ .raised item)
    (haccounts : ∃ finished : List ι, finished.map work = results.map Except.ok ∧
      (finished ++ (before.filterMap Worker.item? ++ after.filterMap Worker.item? ++
        s.pending)).Perm items) :
    Inv work items concurrency (Pool.pull { s with results := results } before after) where
  size := by
    rw [length_pull, ← h.size, hworkers, List.length_append, List.length_cons]
  accounts := by
    obtain ⟨finished, hmap, hperm⟩ := haccounts
    refine ⟨finished, by rwa [pull_results], ?_⟩
    exact (List.Perm.append_left _ (held_pull _ _ _)).trans hperm
  exhausted hmem := by
    have hnil : s.pending = [] := by
      rcases mem_of_mem_pull (s := { s with results := results }) hworkers hmem with
        hmem | ⟨_, hnil⟩ | ⟨item, hitem⟩
      · exact h.exhausted hmem
      · exact hnil
      · simp at hitem
    rcases Pool.pull_cases { s with results := results } before after with
      ⟨_, hpending, _⟩ | ⟨item, rest, hold, _, _⟩
    · exact hpending
    · rw [show s.pending = _ from hold] at hnil
      simp at hnil
  raised item hmem := by
    rw [pull_firstRaised]
    rcases mem_of_mem_pull (s := { s with results := results }) hworkers hmem with
      hmem | ⟨hw, _⟩ | ⟨other, hother⟩
    · exact h.raised item hmem
    · simp at hw
    · simp at hother
  first e he := by
    rw [pull_firstRaised] at he
    obtain ⟨item, hmem, hitem⟩ := h.first e he
    have hkeep := mem_pull (s := { s with results := results }) hworkers hmem (hraised item).symm
    exact ⟨item, hkeep, hitem⟩
  ok rs hrs := by
    rw [pull_outcome] at hrs
    have hall := (h.ok rs hrs).2 old (by simp [hworkers])
    exact absurd hall hreturned
  error e he := by
    rw [pull_outcome] at he
    rw [pull_firstRaised]
    exact h.error e he

theorem Inv.fail (h : Inv work items concurrency s) {before after : List (Worker ι)} {item : ι}
    {e : ε} (hworkers : s.workers = before ++ .working item :: after) (he : work item = .error e) :
    Inv work items concurrency (s.fail before after item e) where
  size := by
    rw [← h.size, hworkers]
    show (before ++ .raised item :: after).length = _
    rw [List.length_append, List.length_append, List.length_cons, List.length_cons]
  accounts := by
    obtain ⟨finished, hmap, hperm⟩ := h.accounts
    refine ⟨finished, hmap, ?_⟩
    have hheld : (s.fail before after item e).held = s.held := by
      rw [held, held, hworkers]
      show (before ++ .raised item :: after).filterMap Worker.item? = _
      rw [List.filterMap_append, List.filterMap_append]
      rfl
    rw [hheld]
    exact hperm
  exhausted hmem := by
    apply h.exhausted
    rw [hworkers]
    exact (mem_replaced hmem).resolve_left (by simp)
  raised other _ := by
    show (s.firstRaised <|> some e) ≠ none
    cases s.firstRaised <;> simp
  first f hf := by
    have hf : (s.firstRaised <|> some e) = some f := hf
    cases hfirst : s.firstRaised with
    | none =>
      rw [hfirst] at hf
      obtain rfl : e = f := Option.some.inj hf
      exact ⟨item, List.mem_append_right _ List.mem_cons_self, he⟩
    | some g =>
      rw [hfirst] at hf
      obtain rfl : g = f := Option.some.inj hf
      obtain ⟨other, hmem, hother⟩ := h.first g hfirst
      rw [hworkers] at hmem
      exact ⟨other, mem_replace _ hmem (by simp), hother⟩
  ok rs hrs := by
    have hall := (h.ok rs hrs).2 (.working item) (by simp [hworkers])
    simp at hall
  error f hf := by
    show (s.firstRaised <|> some e) = some f
    rw [h.error f hf]
    rfl

/-- **Every step keeps the invariant.** -/
theorem Inv.step {a : PoolAction ι} (h : Inv work items concurrency s)
    (hstep : PoolStep work s a t) :
    Inv work items concurrency t := by
  cases hstep with
  | @start before after hworkers =>
    apply h.pull s.results hworkers (by simp) (by simp)
    obtain ⟨finished, hmap, hperm⟩ := h.accounts
    refine ⟨finished, hmap, ?_⟩
    rwa [held, hworkers, List.filterMap_append, List.filterMap_cons_none rfl] at hperm
  | @finish before after item result hworkers hwork =>
    apply h.pull (s.results ++ [result]) hworkers (by simp) (by simp)
    obtain ⟨finished, hmap, hperm⟩ := h.accounts
    refine ⟨finished ++ [item], by rw [List.map_append, List.map_append, hmap]; simp [hwork], ?_⟩
    rw [held, hworkers, List.filterMap_append,
      List.filterMap_cons_some (show Worker.item? (.working item) = some item from rfl)] at hperm
    refine List.Perm.trans ?_ hperm
    rw [List.append_assoc, List.append_assoc, List.append_assoc, List.singleton_append,
      List.cons_append]
    exact List.Perm.append_left _ List.perm_middle.symm
  | @fail before after item e hworkers hwork => exact h.fail hworkers hwork
  | raise hnone hfirst =>
    refine { h with ok := ?_, error := ?_ }
    · intro rs hrs
      simp at hrs
    · intro e he
      obtain rfl := Except.error.inj (Option.some.inj he)
      exact hfirst
  | gather hnone hall =>
    refine { h with ok := ?_, error := ?_ }
    · intro rs hrs
      exact ⟨(Except.ok.inj (Option.some.inj hrs)).symm, hall⟩
    · intro e he
      simp at he

theorem Inv.run {as : List (PoolAction ι)}
    (h : Steps (PoolStep work) (initial items concurrency) as s) : Inv work items concurrency s :=
  h.invariant inv_initial fun h hstep => h.step hstep

/-! ### What a call ends with -/

theorem Inv.pending_eq_nil (h : Inv work items concurrency s) (hconcurrency : 1 ≤ concurrency)
    (hall : ∀ w ∈ s.workers, w = .returned) : s.pending = [] := by
  have hsome : 0 < s.workers.length := by rw [h.size]; omega
  obtain ⟨w, hw⟩ := List.exists_mem_of_length_pos hsome
  rw [hall w hw] at hw
  exact h.exhausted hw

/-- **A pool that returns has returned the result of every item once.** -/
theorem returned_all {as : List (PoolAction ι)} {rs : List ρ} (hconcurrency : 1 ≤ concurrency)
    (h : Steps (PoolStep work) (initial items concurrency) as s) (hs : s.outcome = some (.ok rs)) :
    ∃ finished : List ι, finished.map work = rs.map Except.ok ∧ finished.Perm items := by
  have hinv := Inv.run h
  obtain ⟨rfl, hall⟩ := hinv.ok rs hs
  obtain ⟨finished, hmap, hperm⟩ := hinv.accounts
  have hheld : s.held = [] := by
    rw [held, List.filterMap_eq_nil_iff]
    intro w hw
    rw [hall w hw]
    rfl
  rw [hheld, hinv.pending_eq_nil hconcurrency hall, List.append_nil, List.append_nil] at hperm
  exact ⟨finished, hmap, hperm⟩

/-- **A pool that raises raises what the work of one of its items raised.** -/
theorem raised_one {as : List (PoolAction ι)} {e : ε}
    (h : Steps (PoolStep work) (initial items concurrency) as s)
    (hs : s.outcome = some (.error e)) : ∃ item ∈ items, work item = .error e := by
  have hinv := Inv.run h
  obtain ⟨item, hmem, hitem⟩ := hinv.first e (hinv.error e hs)
  obtain ⟨finished, _, hperm⟩ := hinv.accounts
  refine ⟨item, hperm.mem_iff.mp ?_, hitem⟩
  have hheld : item ∈ s.held := List.mem_filterMap.mpr ⟨.raised item, hmem, rfl⟩
  simp [hheld]

/-! ### Progress -/

theorem budget_step {a : PoolAction ι} (hstep : PoolStep work s a t) :
    t.budget + 1 = s.budget := by
  cases hstep with
  | @start before after hworkers =>
    rw [budget_pull, budget, hworkers, List.map_append, List.sum_append, List.map_cons,
      List.sum_cons]
    rfl
  | @finish before after item result hworkers hwork =>
    rw [budget_pull, budget, hworkers, List.map_append, List.sum_append, List.map_cons,
      List.sum_cons]
    rfl
  | @fail before after item e hworkers hwork =>
    rw [budget, budget, hworkers]
    show s.pending.length + ((before ++ .raised item :: after).map Worker.budget).sum + _ + 1 = _
    rw [List.map_append, List.sum_append, List.map_cons, List.sum_cons, List.map_append,
      List.sum_append, List.map_cons, List.sum_cons]
    show _ + (_ + (0 + _)) + (if s.outcome.isNone then 1 else 0) + 1 = _ + (_ + (1 + _)) + _
    omega
  | raise hnone hfirst =>
    rw [budget, budget, hnone]
    rfl
  | gather hnone hall =>
    rw [budget, budget, hnone]
    rfl

/-- **A run spends its budget one step at a time.** -/
theorem budget_of_run {as : List (PoolAction ι)}
    (h : Steps (PoolStep work) (initial items concurrency) as s) :
    as.length + s.budget = items.length + concurrency + 1 := by
  refine h.trace (I := fun as s => as.length + s.budget = items.length + concurrency + 1) ?_ ?_
  · simp [budget, initial, Worker.budget]
  · intro as t a u hrun hstep
    rw [List.length_append, List.length_singleton]
    have := budget_step hstep
    omega

/-- **A pool that has not ended can take a step.** -/
theorem progress {as : List (PoolAction ι)}
    (h : Steps (PoolStep work) (initial items concurrency) as s) (hs : s.outcome = none) :
    ∃ a t, PoolStep work s a t := by
  by_cases hall : ∀ w ∈ s.workers, w = .returned
  · exact ⟨_, _, .gather hs hall⟩
  · simp only [not_forall] at hall
    obtain ⟨w, hw, hne⟩ := hall
    obtain ⟨before, after, hworkers⟩ := List.append_of_mem hw
    cases w with
    | created => exact ⟨_, _, .start hworkers⟩
    | working item =>
      cases hwork : work item with
      | ok result => exact ⟨_, _, .finish hworkers hwork⟩
      | error e => exact ⟨_, _, .fail hworkers hwork⟩
    | raised item =>
      obtain ⟨e, he⟩ := Option.ne_none_iff_exists'.mp ((Inv.run h).raised item hw)
      exact ⟨_, _, .raise hs he⟩
    | returned => exact absurd rfl hne

/-- **Every run leads to the end of the call.** -/
theorem reaches_end {as : List (PoolAction ι)}
    (h : Steps (PoolStep work) (initial items concurrency) as s) :
    ∃ bs t, Steps (PoolStep work) (initial items concurrency) (as ++ bs) t ∧ t.outcome ≠ none := by
  induction hn : s.budget using Nat.strongRecOn generalizing as s with
  | ind n ih =>
    by_cases hs : s.outcome = none
    · obtain ⟨a, t, hstep⟩ := progress h hs
      have hspent := budget_step hstep
      obtain ⟨bs, u, hrun, hu⟩ := ih t.budget (by omega) (h.snoc hstep) rfl
      rw [List.append_assoc] at hrun
      exact ⟨a :: bs, u, hrun, hu⟩
    · exact ⟨[], s, by rwa [List.append_nil], hs⟩

end

end Pool

end IPScout
