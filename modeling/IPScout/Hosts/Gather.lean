import IPScout.Hosts.Sweep

/-!
# Every item once

`gather_bounded` when no work raises, under every order in which the works end.
What the workers have taken is a beginning of what the iterator gives, and each of
these items is either in flight or finished, once (`Accounted`).  So no more works
are in flight than there are workers, a call always goes on to its end, and it
returns the results of all items in the order in which their works ended
(`gathered`).

`aping_many`, `agrab_banners` and `aread_snmp_system` put these results back in the
order the hosts were given, each paired with its host (`every_item_once`).
-/

namespace IPScout

open Base

variable {ι ρ ε : Type}

/-! ### What is in flight and what has finished -/

/-- The item a worker is at work on. -/
def Worker.inFlight? : Worker ι → Option ι
  | .working item => some item
  | _ => none

def Pool.inFlight (s : Pool ι ρ ε) : List ι := s.workers.filterMap Worker.inFlight?

/-- The items whose works have ended with a result, in that order. -/
def finishedItems (as : List (PoolAction ι)) : List ι :=
  as.filterMap fun
    | .finish item => some item
    | _ => none

theorem finishedItems_append (as bs : List (PoolAction ι)) :
    finishedItems (as ++ bs) = finishedItems as ++ finishedItems bs := List.filterMap_append

namespace Pool

theorem inFlight_initial (items : List ι) (concurrency : ℕ) :
    (initial items concurrency : Pool ι ρ ε).inFlight = [] := by
  rw [inFlight, List.filterMap_eq_nil_iff]
  intro w hw
  rw [List.eq_of_mem_replicate hw]
  rfl

theorem inFlight_pull (s : Pool ι ρ ε) (before after : List (Worker ι)) :
    (s.pending = [] ∧ (s.pull before after).pending = [] ∧ (s.pull before after).inFlight =
      before.filterMap Worker.inFlight? ++ after.filterMap Worker.inFlight?) ∨
    ∃ item, s.pending = item :: (s.pull before after).pending ∧ (s.pull before after).inFlight =
      before.filterMap Worker.inFlight? ++ item :: after.filterMap Worker.inFlight? := by
  rcases s.pull_cases before after with ⟨hold, hpending, hnew⟩ | ⟨item, rest, hold, hpending, hnew⟩
  · refine Or.inl ⟨hold, hpending, ?_⟩
    rw [inFlight, hnew, List.filterMap_append, List.filterMap_cons_none rfl]
  · refine Or.inr ⟨item, by rw [hold, hpending], ?_⟩
    rw [inFlight, hnew, List.filterMap_append,
      List.filterMap_cons_some (show Worker.inFlight? (.working item) = some item from rfl)]

theorem length_inFlight_le (s : Pool ι ρ ε) : s.inFlight.length ≤ s.workers.length :=
  List.length_filterMap_le _ _

/-! ### Accounts -/

/-- What the workers have taken, in the order the iterator gives it, is finished or in
flight, and the results are those of the finished items, in order. -/
structure Accounted (work : ι → Except ε ρ) (items : List ι) (as : List (PoolAction ι))
    (s : Pool ι ρ ε) : Prop where
  taken : ∃ taken, items = taken ++ s.pending ∧ (finishedItems as ++ s.inFlight).Perm taken
  results : s.results.map Except.ok = (finishedItems as).map work

section

variable {work : ι → Except ε ρ} {items : List ι} {concurrency : ℕ} {as : List (PoolAction ι)}
  {s t : Pool ι ρ ε}

theorem accounted_initial : Accounted work items [] (initial items concurrency) where
  taken := ⟨[], rfl, by rw [inFlight_initial]; exact List.Perm.refl _⟩
  results := rfl

/-- A worker that goes for its next item leaves the accounts in order, if they are
without what it was at work on. -/
theorem Accounted.pull {before after : List (Worker ι)}
    (htaken : ∃ taken, items = taken ++ s.pending ∧ (finishedItems as ++
      (before.filterMap Worker.inFlight? ++ after.filterMap Worker.inFlight?)).Perm taken)
    (hresults : s.results.map Except.ok = (finishedItems as).map work) :
    Accounted work items as (s.pull before after) where
  taken := by
    obtain ⟨taken, hitems, hperm⟩ := htaken
    rcases s.inFlight_pull before after with ⟨hold, hpending, hnew⟩ | ⟨item, hold, hnew⟩
    · rw [hnew, hpending]
      exact ⟨taken, by rw [hitems, hold], hperm⟩
    · rw [hnew]
      refine ⟨taken ++ [item], by rw [hitems, hold, List.append_assoc]; rfl, ?_⟩
      have hmoved : (finishedItems as ++ (before.filterMap Worker.inFlight? ++
          item :: after.filterMap Worker.inFlight?)).Perm (item :: (finishedItems as ++
          (before.filterMap Worker.inFlight? ++ after.filterMap Worker.inFlight?))) :=
        (List.Perm.append_left _ List.perm_middle).trans List.perm_middle
      exact hmoved.trans ((hperm.cons item).trans (List.perm_append_singleton item taken).symm)
  results := by rw [pull_results, hresults]

/-- **Every step keeps the accounts**, when no work raises. -/
theorem Accounted.step {a : PoolAction ι} (hnone : ∀ item ∈ items, ∃ r, work item = .ok r)
    (h : Accounted work items as s) (hstep : PoolStep work s a t) :
    Accounted work items (as ++ [a]) t := by
  obtain ⟨⟨taken, hitems, hperm⟩, hresults⟩ := h
  cases hstep with
  | @start before after hworkers =>
    have hfinished : finishedItems (as ++ [.start]) = finishedItems as := by
      rw [finishedItems_append]
      exact List.append_nil _
    apply Accounted.pull
    · rw [inFlight, hworkers, List.filterMap_append, List.filterMap_cons_none rfl] at hperm
      exact ⟨taken, hitems, by rwa [hfinished]⟩
    · rw [hfinished, hresults]
  | @finish before after item result hworkers hwork =>
    have hfinished : finishedItems (as ++ [.finish item]) = finishedItems as ++ [item] :=
      finishedItems_append as [.finish item]
    apply Accounted.pull
    · refine ⟨taken, hitems, ?_⟩
      rw [inFlight, hworkers, List.filterMap_append, List.filterMap_cons_some
        (show Worker.inFlight? (.working item) = some item from rfl)] at hperm
      refine List.Perm.trans ?_ hperm
      rw [hfinished, List.append_assoc, List.singleton_append]
      exact List.Perm.append_left _ List.perm_middle.symm
    · rw [hfinished]
      show (s.results ++ [result]).map Except.ok = _
      rw [List.map_append, List.map_append, hresults, List.map_singleton, List.map_singleton, hwork]
  | @fail before after item e hworkers hwork =>
    -- what is in flight was given by the iterator, and no such work raises
    have hflight : item ∈ s.inFlight := by
      rw [inFlight, hworkers]
      exact List.mem_filterMap.mpr ⟨.working item, by simp, rfl⟩
    have hmem : item ∈ items := by
      rw [hitems]
      exact List.mem_append_left _ (hperm.mem_iff.mp (List.mem_append_right _ hflight))
    obtain ⟨r, hr⟩ := hnone item hmem
    rw [hr] at hwork
    simp at hwork
  | raise | gather =>
    have hfinished : ∀ a : PoolAction ι, finishedItems [a] = [] →
        finishedItems (as ++ [a]) = finishedItems as := by
      intro a ha
      rw [finishedItems_append, ha, List.append_nil]
    exact ⟨⟨taken, hitems, by rwa [hfinished _ rfl]⟩, by rwa [hfinished _ rfl]⟩

theorem Accounted.run (hnone : ∀ item ∈ items, ∃ r, work item = .ok r)
    (h : Steps (PoolStep work) (initial items concurrency) as s) : Accounted work items as s :=
  h.trace accounted_initial fun h hstep => h.step hnone hstep

/-- What `gather_bounded` promises of a run that has come to a state. -/
structure GathersEachOnce (work : ι → Except ε ρ) (items : List ι) (concurrency : ℕ)
    (as : List (PoolAction ι)) (s : Pool ι ρ ε) : Prop extends Accounted work items as s where
  bounded : s.inFlight.length ≤ concurrency
  /-- A call takes boundedly many steps, and until it has ended it can take another. -/
  ends : as.length ≤ items.length + concurrency + 1 ∧
    (s.outcome = none → ∃ a t, PoolStep work s a t)
  /-- How it has ended: with every item's result, in the order the works ended. -/
  returned : ∀ outcome, s.outcome = some outcome →
    outcome = .ok s.results ∧ (finishedItems as).Perm items

/-- **`gather_bounded` works every item exactly once**, whatever the order in which
the works end. -/
theorem gathered (hconcurrency : 1 ≤ concurrency) (hnone : ∀ item ∈ items, ∃ r, work item = .ok r)
    (h : Steps (PoolStep work) (initial items concurrency) as s) :
    GathersEachOnce work items concurrency as s := by
  have hinv := Inv.run h
  have haccounts := Accounted.run hnone h
  refine ⟨haccounts, ?_, ⟨?_, progress h⟩, ?_⟩
  · rw [← hinv.size]
    exact s.length_inFlight_le
  · have := budget_of_run h
    omega
  · intro outcome houtcome
    cases outcome with
    | error e =>
      obtain ⟨item, hmem, hitem⟩ := raised_one h houtcome
      obtain ⟨r, hr⟩ := hnone item hmem
      rw [hr] at hitem
      simp at hitem
    | ok rs =>
      obtain ⟨rfl, hall⟩ := hinv.ok rs houtcome
      refine ⟨rfl, ?_⟩
      obtain ⟨taken, hitems, hperm⟩ := haccounts.taken
      have hflight : s.inFlight = [] := by
        rw [inFlight, List.filterMap_eq_nil_iff]
        intro w hw
        rw [hall w hw]
        rfl
      rw [hflight, List.append_nil] at hperm
      rwa [hitems, hinv.pending_eq_nil hconcurrency hall, List.append_nil]

end

end Pool

/-! ### Sweeps of pings -/

/-- The arguments of a ping sweep that belong to the sweep as a whole. -/
structure SweepSettings where
  concurrency : ℕ
  raiseOnError : Bool
  concurrency_bound : 1 ≤ concurrency

/-- A run of `aping_many`; `aping` is what a target's ping comes to, told whether it is
to raise. -/
def PingRun (settings : SweepSettings) (aping : Bool → Text → Except PyError ResponseObject)
    (targets : List Text) : List (PoolAction Text) → SweepPool ResponseObject → Prop :=
  SweepRun (aping settings.raiseOnError) targets settings.concurrency

/-- The end of `aping_many`; `none` is the `RuntimeError` of a sweep that returned another
number of results than it has targets, or a `KeyError`. -/
def collectCounted (unique : List Text) (results : List (Text × ResponseObject)) :
    Option (Dict Text ResponseObject) :=
  if (Dict.ofPairs results).keys.length ≠ unique.length then none else collect unique results

/-- What `aping_many` has returned or raised, once its pool has ended. -/
def pingEnd (targets : List Text) (s : SweepPool ResponseObject) :
    Option (Except PyError (Option (Dict Text ResponseObject))) :=
  s.outcome.map (Except.map (collectCounted (requireHostNames targets)))

/-! ### Every host its own result -/

variable {work : Text → Except PyError ρ} {hosts : List Text} {concurrency : ℕ}
  {as : List (PoolAction Text)} {s : SweepPool ρ}

/-- A mapping whose keys are the distinct hosts, as they are first given, each with the
result of its own work. -/
def PairsEachHost (work : Text → Except PyError ρ) (hosts : List Text)
    (result : Except PyError (Option (Dict Text ρ))) : Prop :=
  ∃ d, result = .ok (some d) ∧ FirstSeen hosts d.keys ∧
    ∀ host ∈ hosts, ∃ v, d.get? host = some v ∧ work host = .ok v

/-- A sweep works every distinct host once and returns each with its own result. -/
def SweepsEachOnce (work : Text → Except PyError ρ) (hosts : List Text) (concurrency : ℕ)
    (run : List (PoolAction Text) → SweepPool ρ → Prop)
    (ended : SweepPool ρ → Option (Except PyError (Option (Dict Text ρ)))) : Prop :=
  ∀ as s, run as s →
    Pool.GathersEachOnce (paired work) (requireHostNames hosts) concurrency as s ∧
    (ended s = none ↔ s.outcome = none) ∧
    ∀ result, ended s = some result → PairsEachHost work hosts result

theorem paired_of_none_raises (hnone : ∀ host ∈ hosts, ∃ r, work host = .ok r) :
    ∀ host ∈ requireHostNames hosts, ∃ r, paired work host = .ok r := by
  intro host hhost
  obtain ⟨r, hr⟩ := hnone host (mem_requireHostNames.mp hhost)
  exact ⟨(host, r), by rw [paired, hr]; rfl⟩

theorem length_keys_ofPairs {rs : List (Text × ρ)} (hconcurrency : 1 ≤ concurrency)
    (h : SweepRun work hosts concurrency as s) (hs : s.outcome = some (.ok rs)) :
    (Dict.ofPairs rs).keys.length = (requireHostNames hosts).length := by
  obtain ⟨finished, hmap, hperm⟩ := Pool.returned_all hconcurrency h hs
  obtain ⟨rfl, _⟩ := of_map_paired hmap
  have hnodup : (rs.map Prod.fst).Nodup := hperm.nodup_iff.mpr (nodup_requireHostNames hosts)
  rw [Dict.keys, Dict.entries_ofPairs hnodup]
  exact hperm.length_eq

/-- **A sweep that puts the results of its pool in the order of its hosts gives each
host its own.** -/
theorem sweepsEachOnce (hconcurrency : 1 ≤ concurrency)
    (hnone : ∀ host ∈ hosts, ∃ r, work host = .ok r)
    {put : List (Text × ρ) → Option (Dict Text ρ)}
    (hput : ∀ as s rs, SweepRun work hosts concurrency as s → s.outcome = some (.ok rs) →
      put rs = collect (requireHostNames hosts) rs) :
    SweepsEachOnce work hosts concurrency (SweepRun work hosts concurrency)
      fun s => s.outcome.map (Except.map put) := by
  intro as s h
  have hgathered := Pool.gathered hconcurrency (paired_of_none_raises hnone) h
  refine ⟨hgathered, Option.map_eq_none_iff, ?_⟩
  intro result hresult
  obtain ⟨outcome, houtcome, rfl⟩ := Option.map_eq_some_iff.mp hresult
  obtain ⟨rfl, _⟩ := hgathered.returned outcome houtcome
  obtain ⟨d, hd, hkeys, hown⟩ := sweep_returned hconcurrency h houtcome
  refine ⟨d, ?_, ?_, hown⟩
  · show Except.ok (put s.results) = _
    rw [hput as s _ h houtcome, hd]
  · rw [hkeys]
    exact firstSeen_eraseDups hosts

/-- **Every item is worked exactly once under every schedule**, and the sweeps pair each
host with its own result. -/
theorem every_item_once :
    (∀ (ι ρ ε : Type) (work : ι → Except ε ρ) (items : List ι) (concurrency : ℕ),
      1 ≤ concurrency → (∀ item ∈ items, ∃ r, work item = .ok r) →
      ∀ as s, Steps (PoolStep work) (.initial items concurrency) as s →
        Pool.GathersEachOnce work items concurrency as s) ∧
    (∀ settings aping targets,
      (∀ target ∈ targets, ∃ r, aping settings.raiseOnError target = .ok r) →
      SweepsEachOnce (aping settings.raiseOnError) targets settings.concurrency
        (PingRun settings aping targets) (pingEnd targets)) ∧
    (∀ env settings world hosts,
      (∀ host ∈ hosts, ∃ b, grabOne env settings host (world host) = .ok b) →
      SweepsEachOnce (fun host => grabOne env settings host (world host)) hosts
        settings.concurrency (GrabRun env settings world hosts) (sweepEnd hosts)) ∧
    ∀ env settings world hosts,
      (∀ host ∈ hosts, ∃ r, readOne env settings host (world host) = .ok r) →
      SweepsEachOnce (fun host => readOne env settings host (world host)) hosts
        settings.concurrency (ReadRun env settings world hosts) (sweepEnd hosts) := by
  refine ⟨?_, ?_, ?_, ?_⟩
  · intro ι ρ ε work items concurrency hconcurrency hnone as s h
    exact Pool.gathered hconcurrency hnone h
  · intro settings aping targets hnone
    apply sweepsEachOnce settings.concurrency_bound hnone
    intro as s rs h hs
    rw [collectCounted, if_neg]
    rw [not_not]
    exact length_keys_ofPairs settings.concurrency_bound h hs
  · intro env settings world hosts hnone
    exact sweepsEachOnce settings.concurrency_bound hnone fun _ _ _ _ _ => rfl
  · intro env settings world hosts hnone
    exact sweepsEachOnce settings.concurrency_bound hnone fun _ _ _ _ _ => rfl

end IPScout
