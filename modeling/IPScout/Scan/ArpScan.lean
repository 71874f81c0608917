import IPScout.Scan.Hosts

/-!
# Scanning a network

`arp_scan` of `scan.py`: plan the ground, probe its hosts, and return the entries of the
neighbour cache that lie on it.  `find_ip_by_mac` with a sweep goes over the same ground, so
the two are answers to one question: `arpScan_agrees` says what a scan returns, that it fails
as the search fails, and that the search is the scan narrowed to one hardware address, except
that it does not call part of the ground nothing.
-/

namespace IPScout

open Base Base.Octets Base.Text

/-- `arp_scan`; the timeout is the default one. -/
def arpScan (host : ScanHost) (network : Option Text) (scope : Option SweepScope)
    (concurrency : ℤ) (family : Option AddressFamily) : Except PyError (List Neighbour) := do
  let concurrency ← sweepConcurrency concurrency
  let covered ← plan host.toSweepHost network scope
  refuseAnEmptyScope covered
  let entries ← sweep host covered concurrency
  .ok (ofFamily entries family)

/-! ### What a scan is for -/

/-- The ground was probed, and the cache read after that. -/
structure Swept (host : ScanHost) (concurrency : ℤ) (covered : SweepScope)
    (cache : List Neighbour) : Prop where
  concurrency_pos : 1 ≤ concurrency
  nonempty : covered.networks ≠ [] ∨ covered.skipped = []
  probed : host.probe (hostsOf covered) concurrency = .ok ()
  read : host.neighbours (hostsOf covered) = .ok cache

open Classical in
/-- The entries on the covered ground and in the family, in the order of the cache. -/
noncomputable def entriesOn (cache : List Neighbour) (covered : SweepScope)
    (family : Option AddressFamily) : List Neighbour :=
  cache.filter fun e => e.LiesIn (some covered) ∧ ∀ f ∈ family, e.address.family = f

open Classical in
variable {python : PythonVersion}

variable (python) in
/-- The scoped texts of the entries that carry a hardware address. -/
noncomputable def textsHolding (entries : List Neighbour) (raw : Octets) : List Text :=
  (entries.filter fun e : Neighbour => ∃ mac ∈ e.mac, WritesMac mac raw).map
    (Neighbour.scoped python)

/-! ### How many hosts are probed -/

theorem length_span (family : AddressFamily) (first stop : ℕ) :
    (IPNetwork.span family first stop).length = stop - first := by
  rw [IPNetwork.span, List.length_map, List.length_range']

theorem IPNetwork.length_hosts_le (n : IPNetwork) : n.hosts.length ≤ n.numAddresses := by
  have hpos := n.numAddresses_pos
  unfold hosts
  dsimp only
  split
  · rw [length_span]
    omega
  · split
    · exact hpos
    · cases n with
      | v4 n =>
        dsimp only
        rw [length_span]
        omega
      | v6 n =>
        dsimp only
        rw [length_span]
        omega

/-- **No sweep probes more hosts than its scope allows.** -/
theorem length_hostsOf_le (scope : SweepScope) : (hostsOf scope).length ≤ scope.limit := by
  have hsum : (hostsOf scope).length ≤ (scope.networks.map IPNetwork.numAddresses).sum := by
    rw [hostsOf]
    induction scope.networks with
    | nil => simp
    | cons n rest ih =>
      rw [List.flatMap_cons, List.length_append, List.length_map, List.map_cons, List.sum_cons]
      exact Nat.add_le_add n.length_hosts_le ih
  exact hsum.trans scope.fits

/-! ### What a scan returns -/

theorem refuseAnEmptyScope_eq_ok {scope : SweepScope} :
    refuseAnEmptyScope scope = .ok () ↔ scope.networks ≠ [] ∨ scope.skipped = [] := by
  rw [refuseAnEmptyScope]
  split
  · next h => simp [h]
  · next h => simp [h]

theorem ofFamily_entriesInScope (cache : List Neighbour) (covered : SweepScope)
    (family : Option AddressFamily) :
    ofFamily (entriesInScope cache covered) family = entriesOn cache covered family := by
  classical
  obtain ⟨p, hp, hfilter⟩ := exists_filter_ofFamily family
  rw [hfilter, entriesInScope, List.filter_filter, entriesOn]
  apply List.filter_congr
  intro e _
  rw [Bool.eq_iff_iff, Bool.and_eq_true, hp, any_contains_iff, decide_eq_true_iff]
  exact And.comm

theorem textsHolding_entriesOn (cache : List Neighbour) (covered : SweepScope)
    (family : Option AddressFamily) (raw : Octets) :
    textsHolding python (entriesOn cache covered family) raw =
      heldTexts python cache raw family (some covered) := by
  classical
  rw [textsHolding, entriesOn, List.filter_filter, heldTexts]
  congr 1
  apply List.filter_congr
  intro e _
  rw [Bool.eq_iff_iff, Bool.and_eq_true, decide_eq_true_iff, decide_eq_true_iff,
    decide_eq_true_iff]
  constructor
  · rintro ⟨hmac, hlies, hfamily⟩
    exact ⟨⟨hmac, hfamily⟩, hlies⟩
  · rintro ⟨⟨hmac, hfamily⟩, hlies⟩
    exact ⟨hmac, hlies, hfamily⟩

/-- **A scan returns what the cache holds on the ground it swept.** -/
theorem arpScan_eq_ok {host : ScanHost} {network : Option Text} {scope : Option SweepScope}
    {concurrency : ℤ} {family : Option AddressFamily} {entries : List Neighbour} :
    arpScan host network scope concurrency family = .ok entries ↔
      ∃ covered cache, plan host.toSweepHost network scope = .ok covered ∧
        Swept host concurrency covered cache ∧ entries = entriesOn cache covered family := by
  unfold arpScan
  constructor
  · intro h
    obtain ⟨c, hc, h⟩ := bind_eq_ok.mp h
    obtain ⟨covered, hplan, h⟩ := bind_eq_ok.mp h
    obtain ⟨⟨⟩, hempty, h⟩ := bind_eq_ok.mp h
    obtain ⟨swept, hsweep, h⟩ := bind_eq_ok.mp h
    obtain ⟨hpos, rfl⟩ := sweepConcurrency_eq_ok.mp hc
    obtain ⟨hprobe, cache, hcache, rfl⟩ := sweep_eq_ok.mp hsweep
    refine ⟨covered, cache, hplan, ⟨hpos, ?_, hprobe, hcache⟩, ?_⟩
    · exact refuseAnEmptyScope_eq_ok.mp hempty
    · rw [← ofFamily_entriesInScope]
      exact (Except.ok.inj h).symm
  · rintro ⟨covered, cache, hplan, hswept, rfl⟩
    have hconcurrency := sweepConcurrency_eq_ok.mpr ⟨hswept.concurrency_pos, rfl⟩
    refine bind_eq_ok.mpr ⟨concurrency, hconcurrency, ?_⟩
    refine bind_eq_ok.mpr ⟨covered, hplan, ?_⟩
    refine bind_eq_ok.mpr ⟨(), refuseAnEmptyScope_eq_ok.mpr hswept.nonempty, ?_⟩
    refine bind_eq_ok.mpr ⟨_, sweep_eq_ok.mpr ⟨hswept.probed, cache, hswept.read, rfl⟩, ?_⟩
    rw [ofFamily_entriesInScope]

/-! ### The scan and the search -/

/-- **A scan that fails, fails as the search does.** -/
theorem findIpByMac_of_arpScan_error {host : ScanHost} {mac : Text} {raw : Octets}
    {network : Option Text} {scope : Option SweepScope} {concurrency : ℤ}
    {family : Option AddressFamily} {e : PyError} (hmac : WritesMac mac raw)
    (h : arpScan host network scope concurrency family = .error e) :
    findIpByMac python host mac true network scope concurrency family = .error e := by
  obtain ⟨wanted, hwanted⟩ := hmac.requireMac
  unfold arpScan at h
  rw [findIpByMac, hwanted]
  show sweepConcurrency concurrency >>= _ = _
  rcases bind_eq_error.mp h with hc | ⟨c, hc, h⟩
  · rw [hc]
    rfl
  · rw [hc]
    show plan host.toSweepHost network scope >>= _ = _
    rcases bind_eq_error.mp h with hplan | ⟨covered, hplan, h⟩
    · rw [hplan]
      rfl
    · rw [hplan]
      show searchScope python host mac wanted covered c family = _
      rw [searchScope]
      rcases bind_eq_error.mp h with hempty | ⟨⟨⟩, hempty, h⟩
      · rw [hempty]
        rfl
      · rw [hempty]
        show sweep host covered c >>= _ = _
        rcases bind_eq_error.mp h with hsweep | ⟨entries, _, h⟩
        · rw [hsweep]
          rfl
        · exact absurd h (by rintro ⟨⟩)

variable (python) in
/-- How a search answers a scan: by the texts that hold the address, each once, unless there
are none and part of the ground was left out. -/
def AnswersScan (entries : List Neighbour) (raw : Octets) (covered : SweepScope)
    (search : Except PyError (List Text)) : Prop :=
  (∃ found, search = .ok found ∧ FirstSeen (textsHolding python entries raw) found ∧
    (found = [] → covered.skipped = [])) ∨
  (textsHolding python entries raw = [] ∧ covered.skipped ≠ [] ∧
    ∃ e, search = .error e ∧ e.isSweepError = true)

theorem Swept.answers {host : ScanHost} {mac : Text} {raw : Octets} {network : Option Text}
    {scope : Option SweepScope} {concurrency : ℤ} {covered : SweepScope}
    {cache : List Neighbour} (h : Swept host concurrency covered cache)
    (hplan : plan host.toSweepHost network scope = .ok covered) (hmac : WritesMac mac raw)
    (family : Option AddressFamily) :
    AnswersScan python (entriesOn cache covered family) raw covered
      (findIpByMac python host mac true network scope concurrency family) := by
  obtain ⟨wanted, hwanted⟩ := hmac.requireMac
  rw [findIpByMac_scan hwanted h.concurrency_pos hplan, AnswersScan, textsHolding_entriesOn]
  rcases searchScope_cases hmac hwanted h.probed h.read family with
    ⟨found, hfound, hestablished⟩ | hmissed
  · exact Or.inl ⟨found, hfound, hestablished.firstSeen, hestablished.complete⟩
  · exact Or.inr hmissed

/-- **A scan and a search agree.**  A scan returns exactly the entries the cache holds, after
the probes, on the ground it planned; it probed no more hosts than the plan allows; for every
hardware address the search over the same ground returns the texts of those of the scan's
entries that carry it, or refuses where there are none and ground was left out; and where the
scan fails the search fails with the same error. -/
theorem arpScan_agrees (python : PythonVersion) (host : ScanHost) (network : Option Text)
    (scope : Option SweepScope) (concurrency : ℤ) (family : Option AddressFamily) :
    (∀ entries, arpScan host network scope concurrency family = .ok entries ↔
      ∃ covered cache, plan host.toSweepHost network scope = .ok covered ∧
        Swept host concurrency covered cache ∧ entries = entriesOn cache covered family) ∧
    (∀ entries, arpScan host network scope concurrency family = .ok entries →
      ∃ covered, plan host.toSweepHost network scope = .ok covered ∧
        (hostsOf covered).length ≤ covered.limit ∧
        ∀ mac raw, WritesMac mac raw → AnswersScan python entries raw covered
          (findIpByMac python host mac true network scope concurrency family)) ∧
    (∀ e, arpScan host network scope concurrency family = .error e →
      ∀ mac raw, WritesMac mac raw →
        findIpByMac python host mac true network scope concurrency family = .error e) := by
  refine ⟨fun _ => arpScan_eq_ok, ?_, ?_⟩
  · intro entries h
    obtain ⟨covered, cache, hplan, hswept, rfl⟩ := arpScan_eq_ok.mp h
    refine ⟨covered, hplan, length_hostsOf_le covered, ?_⟩
    intro mac raw hmac
    exact hswept.answers hplan hmac family
  · intro e h mac raw hmac
    exact findIpByMac_of_arpScan_error hmac h

end IPScout
