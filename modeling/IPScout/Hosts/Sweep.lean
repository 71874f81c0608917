import IPScout.Hosts.Banner
import IPScout.Hosts.Pool
import IPScout.Snmp.System

/-!
# Many hosts at once

`agrab_banners` and `aread_snmp_system`: the distinct hosts go through the bounded
pool, each work paired with its host, and the results are put back in the order
the hosts were given.  A run of a sweep is a run of its pool.

What the pool returns is every host's own result, so a sweep fails only when the
work of one of its hosts raises (`sweep_returns_iff`), and of the errors of a
lookup that is what neither `_resolve` nor a worker catches
(`oneBadHost_iff`).
-/

namespace IPScout

open Base

variable {ρ : Type}

/-! ### Sweeps -/

/-- `require_host_names`: the distinct names, in the order first given. -/
def requireHostNames (hosts : List Text) : List Text := (Dict.ofPairs (hosts.map (·, ()))).keys

/-- `one` of a sweep: a host's work, paired with its host. -/
def paired (work : Text → Except PyError ρ) (host : Text) : Except PyError (Text × ρ) :=
  (work host).map (host, ·)

/-- `{host: completed[host] for host in unique}`; `none` is its `KeyError`. -/
def collect (unique : List Text) (results : List (Text × ρ)) : Option (Dict Text ρ) :=
  (unique.mapM fun host => ((Dict.ofPairs results).get? host).map (host, ·)).map Dict.ofPairs

abbrev SweepPool (ρ : Type) := Pool Text (Text × ρ) PyError

def SweepRun (work : Text → Except PyError ρ) (hosts : List Text) (concurrency : ℕ) :
    List (PoolAction Text) → SweepPool ρ → Prop :=
  Steps (PoolStep (paired work)) (Pool.initial (requireHostNames hosts) concurrency)

/-- What the sweep has returned or raised, once its pool has ended. -/
def sweepEnd (hosts : List Text) (s : SweepPool ρ) :
    Option (Except PyError (Option (Dict Text ρ))) :=
  s.outcome.map (Except.map (collect (requireHostNames hosts)))

/-- A run of `agrab_banners`. -/
def GrabRun (env : Interfaces) (settings : BannerSettings) (world : Text → HostWorld Connection)
    (hosts : List Text) : List (PoolAction Text) → SweepPool Banner → Prop :=
  SweepRun (fun host => grabOne env settings host (world host)) hosts settings.concurrency

/-- A run of `aread_snmp_system`. -/
def ReadRun (env : Interfaces) (settings : SnmpSettings) (world : Text → HostWorld Endpoint)
    (hosts : List Text) : List (PoolAction Text) → SweepPool SnmpSystem → Prop :=
  SweepRun (fun host => readOne env settings host (world host)) hosts settings.concurrency

/-! ### What a sweep returns -/

/-- **The names are those given, each once, where it first occurs.** -/
theorem requireHostNames_eq (hosts : List Text) : requireHostNames hosts = hosts.eraseDups := by
  rw [requireHostNames, Dict.keys_ofPairs, List.map_map]
  exact congrArg List.eraseDups (List.map_id hosts)

theorem nodup_requireHostNames (hosts : List Text) : (requireHostNames hosts).Nodup :=
  Dict.nodup_keys _

theorem mem_requireHostNames {hosts : List Text} {host : Text} :
    host ∈ requireHostNames hosts ↔ host ∈ hosts := by
  rw [requireHostNames_eq, List.mem_eraseDups]

theorem paired_ok {work : Text → Except PyError ρ} {host : Text} {r : Text × ρ}
    (h : paired work host = .ok r) : r.1 = host ∧ work host = .ok r.2 := by
  rw [paired] at h
  cases hwork : work host with
  | error e =>
    rw [hwork] at h
    simp [Except.map] at h
  | ok v =>
    rw [hwork] at h
    obtain rfl := Except.ok.inj h
    exact ⟨rfl, rfl⟩

theorem paired_error {work : Text → Except PyError ρ} {host : Text} {e : PyError} :
    paired work host = .error e ↔ work host = .error e := by
  rw [paired]
  cases work host with
  | error f => simp [Except.map]
  | ok v => simp [Except.map]

theorem of_map_paired {work : Text → Except PyError ρ} {hosts : List Text} {rs : List (Text × ρ)}
    (h : hosts.map (paired work) = rs.map Except.ok) :
    rs.map Prod.fst = hosts ∧ ∀ r ∈ rs, work r.1 = .ok r.2 := by
  induction hosts generalizing rs with
  | nil =>
    obtain rfl := List.map_eq_nil_iff.mp h.symm
    exact ⟨rfl, by simp⟩
  | cons host hosts ih =>
    cases rs with
    | nil => simp at h
    | cons r rs =>
      rw [List.map_cons, List.map_cons, List.cons.injEq] at h
      obtain ⟨rfl, hwork⟩ := paired_ok h.1
      obtain ⟨hfst, hown⟩ := ih h.2
      exact ⟨by rw [List.map_cons, hfst], List.forall_mem_cons.mpr ⟨hwork, hown⟩⟩

theorem collect_ok {unique : List Text} {results : List (Text × ρ)} (hunique : unique.Nodup)
    (hnodup : (results.map Prod.fst).Nodup) (hall : ∀ host ∈ unique, ∃ v, (host, v) ∈ results) :
    ∃ d, collect unique results = some d ∧ d.keys = unique ∧
      ∀ e ∈ d.entries, e ∈ results := by
  have hget : ∀ host v, (Dict.ofPairs results).get? host = some v ↔ (host, v) ∈ results := by
    intro host v
    rw [Dict.get?_eq_some_iff, Dict.entries_ofPairs hnodup]
  have hentries : ∃ entries, (unique.mapM fun host =>
      ((Dict.ofPairs results).get? host).map (host, ·)) = some entries ∧
      entries.map Prod.fst = unique ∧ ∀ e ∈ entries, e ∈ results := by
    clear hunique
    induction unique with
    | nil => exact ⟨[], rfl, rfl, by simp⟩
    | cons host unique ih =>
      obtain ⟨v, hv⟩ := hall host List.mem_cons_self
      obtain ⟨entries, hmap, hkeys, hmem⟩ := ih fun other h => hall other (List.mem_cons_of_mem _ h)
      refine ⟨(host, v) :: entries, ?_, by rw [List.map_cons, hkeys], ?_⟩
      · rw [List.mapM_cons, (hget host v).mpr hv, hmap]
        rfl
      · intro e he
        rcases List.mem_cons.mp he with rfl | he
        · exact hv
        · exact hmem e he
  obtain ⟨entries, hmap, hkeys, hmem⟩ := hentries
  have hof : (Dict.ofPairs entries).entries = entries := Dict.entries_ofPairs (by rwa [hkeys])
  refine ⟨Dict.ofPairs entries, by rw [collect, hmap]; rfl, ?_, ?_⟩
  · rw [Dict.keys, hof, hkeys]
  · rwa [hof]

/-- A mapping with exactly one entry for every distinct host, in the order given. -/
def EveryHostHasAnEntry (hosts : List Text) (result : Except PyError (Option (Dict Text ρ))) :
    Prop := ∃ d, result = .ok (some d) ∧ d.keys = hosts.eraseDups

section

variable {work : Text → Except PyError ρ} {hosts : List Text} {concurrency : ℕ}
  {as : List (PoolAction Text)} {s : SweepPool ρ}

/-- **What a sweep returns has an entry for every host, its own result.** -/
theorem sweep_returned {rs : List (Text × ρ)} (hconcurrency : 1 ≤ concurrency)
    (h : SweepRun work hosts concurrency as s) (hs : s.outcome = some (.ok rs)) :
    ∃ d, collect (requireHostNames hosts) rs = some d ∧ d.keys = hosts.eraseDups ∧
      ∀ host ∈ hosts, ∃ v, d.get? host = some v ∧ work host = .ok v := by
  obtain ⟨finished, hmap, hperm⟩ := Pool.returned_all hconcurrency h hs
  obtain ⟨hfst, hown⟩ := of_map_paired hmap
  have hall : ∀ host ∈ requireHostNames hosts, ∃ v, (host, v) ∈ rs := by
    intro host hhost
    have hmem : host ∈ rs.map Prod.fst := by rwa [hfst, hperm.mem_iff]
    obtain ⟨⟨_, v⟩, hv, rfl⟩ := List.mem_map.mp hmem
    exact ⟨v, hv⟩
  have hnodup : (rs.map Prod.fst).Nodup := by
    rw [hfst]
    exact hperm.nodup_iff.mpr (nodup_requireHostNames hosts)
  obtain ⟨d, hd, hkeys, hentries⟩ := collect_ok (nodup_requireHostNames hosts) hnodup hall
  refine ⟨d, hd, by rw [hkeys, requireHostNames_eq], ?_⟩
  intro host hhost
  have hkey : host ∈ d.keys := by rwa [hkeys, mem_requireHostNames]
  obtain ⟨v, hv⟩ := Dict.mem_keys_iff.mp hkey
  exact ⟨v, hv, hown _ (hentries _ (Dict.get?_eq_some_iff.mp hv))⟩

/-- **A sweep returns every host's entry exactly when no host's work raises.** -/
theorem sweep_returns_iff {result : Except PyError (Option (Dict Text ρ))}
    (hconcurrency : 1 ≤ concurrency) (h : SweepRun work hosts concurrency as s)
    (hs : sweepEnd hosts s = some result) :
    EveryHostHasAnEntry hosts result ↔ ∀ host ∈ hosts, ∀ e, work host ≠ .error e := by
  obtain ⟨outcome, houtcome, rfl⟩ := Option.map_eq_some_iff.mp hs
  cases outcome with
  | ok rs =>
    obtain ⟨d, hd, hkeys, hall⟩ := sweep_returned hconcurrency h houtcome
    constructor
    · intro _ host hhost e he
      obtain ⟨v, _, hv⟩ := hall host hhost
      rw [hv] at he
      simp at he
    · intro _
      exact ⟨d, congrArg Except.ok hd, hkeys⟩
  | error e =>
    constructor
    · rintro ⟨d, hd, _⟩
      simp [Except.map] at hd
    · intro hnone
      obtain ⟨host, hmem, hhost⟩ := Pool.raised_one h houtcome
      exact absurd (paired_error.mp hhost) (hnone host (mem_requireHostNames.mp hmem) e)

/-- Every run of a sweep is bounded and goes on until the sweep has ended, and then
every host has its entry exactly when `cond` holds. -/
def ReturnsExactlyWhen (run : List (PoolAction Text) → SweepPool ρ → Prop) (hosts : List Text)
    (concurrency : ℕ) (cond : Prop) : Prop :=
  ∀ as s, run as s →
    as.length ≤ hosts.eraseDups.length + concurrency + 1 ∧
    (sweepEnd hosts s = none → ∃ a t, run (as ++ [a]) t) ∧
    ∀ result, sweepEnd hosts s = some result → (EveryHostHasAnEntry hosts result ↔ cond)

/-- **A sweep whose hosts raise nothing but the `UnicodeError` of a lookup returns
exactly when none of them does.** -/
theorem returnsExactlyWhen (hconcurrency : 1 ≤ concurrency) {raisesUnicode : Text → Message → Prop}
    (hraises : ∀ host e, work host = .error e ↔ ∃ msg, e = .unicode msg ∧ raisesUnicode host msg) :
    ReturnsExactlyWhen (SweepRun work hosts concurrency) hosts concurrency
      (∀ host ∈ hosts, ∀ msg, ¬ raisesUnicode host msg) := by
  intro as s h
  refine ⟨?_, ?_, ?_⟩
  · have := Pool.budget_of_run h
    rw [requireHostNames_eq] at this
    omega
  · intro hs
    obtain ⟨a, t, hstep⟩ := Pool.progress h (Option.map_eq_none_iff.mp hs)
    exact ⟨a, t, .snoc h hstep⟩
  · intro result hresult
    rw [sweep_returns_iff hconcurrency h hresult]
    constructor
    · intro hnone host hhost msg hmsg
      exact hnone host hhost _ ((hraises host _).mpr ⟨msg, rfl, hmsg⟩)
    · intro hnone host hhost e he
      obtain ⟨msg, _, hmsg⟩ := (hraises host e).mp he
      exact hnone host hhost msg hmsg

/-- One host whose work raises costs every sweep of it its results. -/
theorem not_every_entry (hconcurrency : 1 ≤ concurrency) {host : Text} (hhost : host ∈ hosts)
    {e : PyError} (he : work host = .error e) :
    ¬ ∀ as s result, SweepRun work hosts concurrency as s → sweepEnd hosts s = some result →
      EveryHostHasAnEntry hosts result := by
  intro hall
  have hstart : SweepRun work hosts concurrency [] (Pool.initial _ _) := .nil _
  obtain ⟨as, s, hrun, hended⟩ := Pool.reaches_end hstart
  obtain ⟨outcome, houtcome⟩ := Option.ne_none_iff_exists'.mp hended
  have hresult : sweepEnd hosts s = some (outcome.map (collect (requireHostNames hosts))) := by
    rw [sweepEnd, houtcome]
    rfl
  exact (sweep_returns_iff hconcurrency hrun hresult).mp (hall _ s _ hrun hresult) host hhost e he

end

/-! ### One bad host -/

/-- **No host costs the others their results exactly when no lookup raises a
`UnicodeError`, and `resolve` raises nothing of another class exactly when its
lookup raises nothing but `gaierror`.** -/
theorem oneBadHost_iff (env : Interfaces) :
    (∀ settings hosts world, ReturnsExactlyWhen (GrabRun env settings world hosts) hosts
      settings.concurrency (∀ host ∈ hosts, ∀ msg,
        ¬ (world host).RaisesUnicode env host settings.port settings.family msg)) ∧
    (∀ settings hosts world, ReturnsExactlyWhen (ReadRun env settings world hosts) hosts
      settings.concurrency (∀ host ∈ hosts, ∀ msg,
        ¬ (world host).RaisesUnicode env host settings.port settings.family msg)) ∧
    ∀ getaddrinfo target family,
      ((∀ e, resolve env getaddrinfo target family = .error e → e.isResolutionError = true) ↔
        ¬ ∃ e, Untranslated getaddrinfo target family e) ∧
      ((∀ e, resolveOne env getaddrinfo target family = .error e → e.isResolutionError = true) ↔
        ¬ ∃ e, Untranslated getaddrinfo target family e) := by
  refine ⟨?_, ?_, ?_⟩
  · intro settings hosts world
    exact returnsExactlyWhen settings.concurrency_bound
      fun host e => grabOne_error_iff env settings host (world host) e
  · intro settings hosts world
    exact returnsExactlyWhen settings.concurrency_bound
      fun host e => readOne_error_iff env settings host (world host) e
  · intro getaddrinfo target family
    exact ⟨resolve_raises_iff env getaddrinfo target family,
      resolveOne_raises_iff env getaddrinfo target family⟩

/-- `printer` does not resolve, which is a result; the empty label of `a..b` costs it. -/
theorem bad_host_costs_the_others :
    let env : Interfaces := noInterfaces
    let getaddrinfo : Getaddrinfo := fun target _ =>
      if target = "a..b".toList then .error (.unicode [say "label empty or too long"])
      else .error (.os ⟨.gaierror, some (-2), none, some "Name or service not known".toList,
        "[Errno -2] Name or service not known".toList⟩)
    let hosts : List Text := ["printer".toList, "a..b".toList]
    let banners : BannerSettings :=
      ⟨⟨21, by decide⟩, 2, 512, none, 64, none, by decide +kernel, by decide, by simp,
        by decide⟩
    let system : SnmpSettings :=
      ⟨.V1, "public".toList, ⟨161, by decide⟩, 2, 64, none, by decide, by decide +kernel,
        by decide⟩
    (¬ ∀ as s result, GrabRun env banners (fun _ => ⟨getaddrinfo, true, fun _ _ => none⟩) hosts
        as s → sweepEnd hosts s = some result → EveryHostHasAnEntry hosts result) ∧
    (¬ ∀ as s result, ReadRun env system (fun _ => ⟨getaddrinfo, true, fun _ _ => none⟩) hosts
        as s → sweepEnd hosts s = some result → EveryHostHasAnEntry hosts result) ∧
    (¬ ∀ e, resolve env getaddrinfo "a..b".toList none = .error e → e.isResolutionError = true) ∧
    ¬ ∀ e, resolveOne env getaddrinfo "a..b".toList none = .error e →
        e.isResolutionError = true := by
  intro env getaddrinfo hosts banners system
  have hraised : Untranslated getaddrinfo "a..b".toList none
      (.unicode [say "label empty or too long"]) := ⟨by decide +kernel, rfl, rfl⟩
  have hhost : "a..b".toList ∈ hosts := by simp [hosts]
  refine ⟨?_, ?_, ?_, ?_⟩
  · exact not_every_entry banners.concurrency_bound hhost
      ((grabOne_error_iff env banners _ _ _).mpr ⟨_, rfl, rfl, Or.inl hraised⟩)
  · exact not_every_entry system.concurrency_bound hhost
      ((readOne_error_iff env system _ _ _).mpr ⟨_, rfl, rfl, Or.inl hraised⟩)
  · intro h
    exact absurd ⟨_, hraised⟩ ((resolve_raises_iff env getaddrinfo _ none).mp h)
  · intro h
    exact absurd ⟨_, hraised⟩ ((resolveOne_raises_iff env getaddrinfo _ none).mp h)

end IPScout
