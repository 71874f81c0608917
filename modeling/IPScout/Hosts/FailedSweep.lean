import IPScout.Hosts.Gather

/-!
# A sweep that failed

`gather_bounded` when a work raises.  The first exception goes out of the gather to
the caller, and the gather cancels nothing: the workers that are left go on, each
with its work and then with the next items, while the caller has gone on to something
else.

Whether the sweep stops is decided at the moment the exception goes out.  It stops
exactly when no work is in flight then and no worker that has not begun could still
take an item (`Pool.Settled`, `stopped_iff`).
-/

namespace IPScout

open Base

variable {ι ρ ε : Type}

namespace Pool

/-- No work is in flight, and no worker that has not begun will find an item. -/
def Settled (s : Pool ι ρ ε) : Prop :=
  s.inFlight = [] ∧ (.created ∈ s.workers → s.pending = [])

/-- From here on no item is taken from the iterator and no work is in flight, however the
run goes on. -/
def Stopped (work : ι → Except ε ρ) (s : Pool ι ρ ε) : Prop :=
  ∀ as t, Steps (PoolStep work) s as t → t.pending = s.pending ∧ t.inFlight = []

/-- The exception goes out only of a settled pool. -/
def RaisesSettled (s : Pool ι ρ ε) : PoolAction ι → Prop
  | .raise => s.Settled
  | _ => True

section

variable {work : ι → Except ε ρ} {items : List ι} {concurrency : ℕ} {s t : Pool ι ρ ε}

theorem notMem_of_inFlight_eq_nil (h : s.inFlight = []) (item : ι) :
    .working item ∉ s.workers := by
  intro hmem
  have : item ∈ s.inFlight := List.mem_filterMap.mpr ⟨_, hmem, rfl⟩
  rw [h] at this
  simp at this

/-- **A step of a settled pool takes nothing and leaves it settled.** -/
theorem Settled.step {a : PoolAction ι} (h : s.Settled) (hstep : PoolStep work s a t) :
    t.Settled ∧ t.pending = s.pending := by
  obtain ⟨hflight, hcreated⟩ := h
  cases hstep with
  | @start before after hworkers =>
    -- the worker that begins finds the iterator at its end
    have hnil : s.pending = [] := hcreated (by rw [hworkers]; simp)
    rcases s.inFlight_pull before after with ⟨_, hpending, hnew⟩ | ⟨item, hold, _⟩
    · refine ⟨⟨?_, fun _ => hpending⟩, by rw [hpending, hnil]⟩
      rw [inFlight, hworkers, List.filterMap_append, List.filterMap_cons_none rfl] at hflight
      rw [hnew, hflight]
    · rw [hnil] at hold
      simp at hold
  | @finish before after item result hworkers _ =>
    exact absurd (by rw [hworkers]; simp) (notMem_of_inFlight_eq_nil hflight item)
  | @fail before after item e hworkers _ =>
    exact absurd (by rw [hworkers]; simp) (notMem_of_inFlight_eq_nil hflight item)
  | raise => exact ⟨⟨hflight, hcreated⟩, rfl⟩
  | gather => exact ⟨⟨hflight, hcreated⟩, rfl⟩

theorem Settled.stopped (h : s.Settled) : Stopped work s := by
  intro as t hrun
  have hall := hrun.invariant (I := fun t => t.Settled ∧ t.pending = s.pending) ⟨h, rfl⟩ ?_
  · exact ⟨hall.2, hall.1.1⟩
  · intro u a v hu hstep
    obtain ⟨hsettled, hpending⟩ := hu.1.step hstep
    exact ⟨hsettled, hpending.trans hu.2⟩

/-- **A sweep stops exactly when it is settled.** -/
theorem stopped_iff : Stopped work s ↔ s.Settled := by
  constructor
  · intro h
    refine ⟨(h [] s (.nil s)).2, ?_⟩
    intro hcreated
    obtain ⟨before, after, hworkers⟩ := List.append_of_mem hcreated
    have hpending := (h _ _ (.single (.start hworkers))).1
    rcases s.pull_cases before after with ⟨hnil, _, _⟩ | ⟨item, rest, hold, hnew, _⟩
    · exact hnil
    · rw [hnew, hold] at hpending
      simp at hpending
  · exact Settled.stopped

theorem settled_of_guarded {as : List (PoolAction ι)}
    (h : Steps (guarded RaisesSettled (PoolStep work)) (initial items concurrency) as s) {e : ε}
    (he : s.outcome = some (.error e)) : s.Settled := by
  have hall := h.invariant (I := fun s => ∀ e, s.outcome = some (.error e) → s.Settled) ?_ ?_
  · exact hall e he
  · intro e he
    simp [initial] at he
  · intro s a t hs hstep e he
    obtain ⟨hguard, hstep⟩ := hstep
    have hkept : s.outcome = some (.error e) → t.Settled := fun hout => ((hs e hout).step hstep).1
    cases hstep with
    | start => exact hkept (by rwa [pull_outcome] at he)
    | finish => exact hkept (by rwa [pull_outcome] at he)
    | fail => exact hkept he
    | raise => exact hguard
    | gather => simp at he

theorem settled_of_one_worker {as : List (PoolAction ι)}
    (h : Steps (PoolStep work) (initial items 1) as s) (hfirst : s.firstRaised ≠ none) :
    s.Settled := by
  have hinv := Inv.run h
  obtain ⟨e, he⟩ := Option.ne_none_iff_exists'.mp hfirst
  obtain ⟨item, hmem, _⟩ := hinv.first e he
  obtain ⟨w, hw⟩ := List.length_eq_one_iff.mp hinv.size
  rw [hw, List.mem_singleton] at hmem
  subst hmem
  refine ⟨by rw [inFlight, hw]; rfl, ?_⟩
  intro hcreated
  rw [hw] at hcreated
  simp at hcreated

end

end Pool

/-! ### After the exception -/

/-- **A failed sweep stops exactly when it is settled as its exception goes out**; then a
sweep that follows has its concurrency to itself. -/
theorem failed_sweep_stops_iff (work : ι → Except ε ρ) (items : List ι) (concurrency : ℕ)
    (settings : SweepSettings) (aping : Bool → Text → Except PyError ResponseObject)
    (targets : List Text) :
    (∀ as s t, Steps (PoolStep work) (.initial items concurrency) as s → PoolStep work s .raise t →
      (Pool.Stopped work t ↔ s.Settled)) ∧
    (∀ as s e, Steps (guarded Pool.RaisesSettled (PoolStep work)) (.initial items concurrency) as s →
      s.outcome = some (.error e) → Pool.Stopped work s) ∧
    ∀ as s e, settings.raiseOnError = true →
      Steps (guarded Pool.RaisesSettled (PoolStep (paired (aping settings.raiseOnError))))
        (.initial (requireHostNames targets) settings.concurrency) as s →
      pingEnd targets s = some (.error e) →
      ∀ bs t, Steps (PoolStep (paired (aping settings.raiseOnError))) s bs t →
        t.pending = s.pending ∧
        ∀ following aping' targets' cs u, PingRun following aping' targets' cs u →
          t.inFlight.length + u.inFlight.length ≤ following.concurrency := by
  refine ⟨?_, ?_, ?_⟩
  · intro as s t _ hstep
    rw [Pool.stopped_iff]
    cases hstep with
    | raise => exact Iff.rfl
  · intro as s e h he
    exact (Pool.settled_of_guarded h he).stopped
  · intro as s e _ h he bs t hbs
    have hout : s.outcome = some (.error e) := by
      rw [pingEnd] at he
      obtain ⟨outcome, houtcome, hmap⟩ := Option.map_eq_some_iff.mp he
      cases outcome with
      | error f => rw [houtcome, Except.error.inj hmap]
      | ok rs => simp [Except.map] at hmap
    obtain ⟨hpending, hflight⟩ := (Pool.settled_of_guarded h hout).stopped bs t hbs
    refine ⟨hpending, ?_⟩
    intro following aping' targets' cs u hfollowing
    rw [hflight, ← (Pool.Inv.run hfollowing).size]
    exact (Nat.zero_add _).trans_le u.length_inFlight_le

/-- A sweep of one worker stops at the first name that does not resolve, with a target left. -/
theorem failed_sweep_stops_iff_of_one_worker :
    let refused : PyError := .scout .IPScoutResolutionError [say "cannot resolve"]
    let work : Text → Except PyError Unit := fun target =>
      if target = "nothing.invalid".toList then .error refused else .ok ()
    let targets : List Text := ["nothing.invalid".toList, "192.0.2.1".toList]
    let raised : Pool Text Unit PyError :=
      ⟨["192.0.2.1".toList], [.raised "nothing.invalid".toList], [], some refused, none⟩
    Steps (PoolStep work) (.initial targets 1) [.start, .fail "nothing.invalid".toList] raised ∧
      PoolStep work raised .raise { raised with outcome := some (.error refused) } ∧
      Pool.Stopped work { raised with outcome := some (.error refused) } := by
  intro refused work targets raised
  have hrun : Steps (PoolStep work) (.initial targets 1)
      [.start, .fail "nothing.invalid".toList] raised :=
    .cons (@PoolStep.start _ _ _ work _ [] [] rfl) (.single (@PoolStep.fail _ _ _ work
      ⟨["192.0.2.1".toList], [.working "nothing.invalid".toList], [], none, none⟩ [] [] _ refused
      rfl rfl))
  have hraise : PoolStep work raised .raise { raised with outcome := some (.error refused) } :=
    .raise rfl rfl
  have hsettled : raised.Settled := Pool.settled_of_one_worker hrun (Option.some_ne_none refused)
  exact ⟨hrun, hraise, ((failed_sweep_stops_iff work targets 1 ⟨1, true, le_rfl⟩
    (fun _ _ => .error refused) []).1 _ _ _ hrun hraise).mpr hsettled⟩

/-- The name that does not resolve ends the sweep, and the worker that is at work then
goes on to the third target. -/
theorem sweep_goes_on_after_its_exception :
    let work : Text → Except PyError Unit := fun target =>
      if target = "nothing.invalid".toList then
        .error (.scout .IPScoutResolutionError [say "cannot resolve ", .quoted target])
      else .ok ()
    let targets : List Text := ["nothing.invalid".toList, "192.0.2.1".toList, "192.0.2.2".toList]
    ¬ ∀ as s e, Steps (PoolStep work) (.initial targets 2) as s → s.outcome = some (.error e) →
      Pool.Stopped work s := by
  intro work targets hall
  let refused : PyError := .scout .IPScoutResolutionError
    [say "cannot resolve ", .quoted "nothing.invalid".toList]
  let bad : Worker Text := .working "nothing.invalid".toList
  let good : Worker Text := .working "192.0.2.1".toList
  have hfirst : PoolStep work (.initial targets 2) .start
      (.pull (.initial targets 2) [] [.created]) := .start rfl
  have hsecond : PoolStep work (.pull (.initial targets 2) [] [.created]) .start
      ⟨["192.0.2.2".toList], [bad, good], [], none, none⟩ :=
    @PoolStep.start _ _ _ work _ [bad] [] rfl
  have hfail : PoolStep work ⟨["192.0.2.2".toList], [bad, good], [], none, none⟩
      (.fail "nothing.invalid".toList) ⟨["192.0.2.2".toList],
        [.raised "nothing.invalid".toList, good], [], some refused, none⟩ :=
    @PoolStep.fail _ _ _ work _ [] _ _ _ rfl rfl
  have hraise := Steps.snoc (.snoc (.cons hfirst (.single hsecond)) hfail) (.raise rfl rfl)
  have hnext := @PoolStep.finish _ _ _ work ⟨["192.0.2.2".toList],
    [.raised "nothing.invalid".toList, good], [], some refused, some (.error refused)⟩
    [.raised "nothing.invalid".toList] [] _ () rfl rfl
  have hpending := (hall _ _ _ hraise rfl _ _ (.single hnext)).1
  exact absurd hpending (by decide)

end IPScout
