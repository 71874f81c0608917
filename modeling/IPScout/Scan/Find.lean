import IPScout.Neighbours.Lookup
import IPScout.Scan.Scope

/-!
# Searching by hardware address

`find_ip_by_mac` of `scan.py`: sweep what is covered, read the neighbour cache, and keep
the entries that lie in the scope and the family and carry the hardware address.  A
sweep that left a network out and matched nothing has not shown that the address is
nowhere, and raises instead of returning the empty list.

`findIpByMac_established` says what a returned list is and when there is none; the
address is given there by its octets, however it was written.
-/

namespace IPScout

open Base Base.Octets Base.Text

/-! ### Entries -/

theorem Neighbour.exists_ipAddress (e : Neighbour) :
    ∃ a, ipAddress e.ip = some a ∧ a.family = e.family := by
  obtain ⟨a, ha⟩ := e.literal
  obtain ⟨b, hparsed, hfamily⟩ := bind_eq_ok.mp ha
  rw [parseAddress] at hparsed
  split at hparsed
  · next c hread =>
    refine ⟨c, hread, ?_⟩
    rw [← Except.ok.inj hparsed] at hfamily
    split at hfamily
    · simp at hfamily
    · next hversion =>
      rw [not_not, IPAddress.version] at hversion
      revert hversion
      cases c.family <;> cases e.family <;> decide
  · simp at hparsed

def Neighbour.address (e : Neighbour) : IPAddress :=
  (ipAddress e.ip).get (by
    obtain ⟨a, ha, _⟩ := e.exists_ipAddress
    rw [ha]
    rfl)

theorem Neighbour.ipAddress_ip (e : Neighbour) : ipAddress e.ip = some e.address :=
  (Option.some_get _).symm

variable (python : PythonVersion)

def Neighbour.scoped (e : Neighbour) : Text :=
  match e.interface with
  | none => e.ip
  | some interface => if needsZone python e.address then e.ip ++ '%' :: interface else e.ip

def ofFamily (entries : List Neighbour) : Option AddressFamily → List Neighbour
  | none => entries
  | some family => entries.filter fun entry => entry.address.version == family.ipVersion

def matching (entries : List Neighbour) (wanted : Text) : List Text :=
  let found := (entries.filter fun entry =>
    entry.mac.any fun mac => normaliseMac mac == some wanted).map (Neighbour.scoped python)
  (Dict.fromKeys found).keys

def addressesHeldBy (entries : List Neighbour) (wanted : Text) (family : Option AddressFamily) :
    List Text :=
  matching python (ofFamily entries family) wanted

def entriesInScope (entries : List Neighbour) (scope : SweepScope) : List Neighbour :=
  entries.filter fun entry => scope.networks.any fun item => item.contains entry.address

/-! ### The search -/

/-- What a search asks of its host. -/
structure ScanHost extends SweepHost where
  /-- What `neighbours()` returns once the hosts have been probed. -/
  neighbours : List Text → Except PyError (List Neighbour)

/-- The concurrency `_settings` lets through; the timeout is the default one. -/
def sweepConcurrency (concurrency : ℤ) : Except PyError ℤ :=
  if concurrency < 1 then
    .error (.value [say "sweep refused its arguments: ",
      say "concurrency: concurrency must be at least 1, got ", .text (decimalInt concurrency)])
  else .ok concurrency

def namedGround (network : Option Text) (scope : Option SweepScope) : Option Text :=
  if network.isNone ∧ scope.isNone then none
  else if scope.isNone then some "network".toList
  else some "scope".toList

def sweepArgumentRefusal (scan : Bool) (named : Option Text) : Option Message :=
  if scan then none
  else named.map fun name => [.text name, say (" applies only with scan=True; " ++
    "without it only the existing neighbour cache is searched")]

def tooWide (candidates : List IPNetwork) (limit : ℕ) : PyError :=
  let sizes := ", ".toList.intercalate (candidates.map fun item =>
    item.text ++ " holds ".toList ++ decimal item.numAddresses ++ " addresses".toList)
  .scout .IPScoutSweepTooWideError [.text sizes, say ", more than the ", .text (decimal limit),
    say " this will sweep; pass a narrower network"]

def refuseAnEmptyScope (scope : SweepScope) : Except PyError Unit :=
  if scope.networks ≠ [] ∨ scope.skipped = [] then .ok ()
  else .error (tooWide scope.skipped scope.limit)

def refuseAPartialMiss (mac : Text) (scope : SweepScope) : Except PyError Unit :=
  if scope.skipped = [] then .ok ()
  else
    let swept := ", ".toList.intercalate (scope.networks.map IPNetwork.text)
    let leftOut := ", ".toList.intercalate (scope.skipped.map IPNetwork.text)
    .error (.scout .IPScoutSweepIncompleteError [.text mac, say " holds no address in ",
      .text swept, say ", and ", .text leftOut, say (" fell outside what one sweep covers, " ++
      "so it cannot be reported as not found; name it to sweep it")])

def hostsOf (scope : SweepScope) : List Text :=
  scope.networks.flatMap fun item => item.hosts.map IPAddress.text

/-- The probes of `_sweep`; there may be nothing to probe. -/
def SweepHost.probe (host : SweepHost) (hosts : List Text) (concurrency : ℤ) :
    Except PyError Unit :=
  if hosts = [] then .ok () else host.pingMany hosts concurrency

def sweep (host : ScanHost) (scope : SweepScope) (concurrency : ℤ) :
    Except PyError (List Neighbour) := do
  let hosts := hostsOf scope
  host.probe hosts concurrency
  let entries ← host.neighbours hosts
  .ok (entriesInScope entries scope)

/-- The end of a search: what was found, unless that is nothing on part of the ground. -/
def concludeSearch (mac : Text) (scope : SweepScope) (found : List Text) :
    Except PyError (List Text) := do
  if found = [] then refuseAPartialMiss mac scope
  .ok found

def searchScope (host : ScanHost) (mac wanted : Text) (scope : SweepScope) (concurrency : ℤ)
    (family : Option AddressFamily) : Except PyError (List Text) := do
  refuseAnEmptyScope scope
  let entries ← sweep host scope concurrency
  concludeSearch mac scope (addressesHeldBy python entries wanted family)

def findIpByMac (host : ScanHost) (mac : Text) (scan : Bool) (network : Option Text)
    (scope : Option SweepScope) (concurrency : ℤ) (family : Option AddressFamily) :
    Except PyError (List Text) := do
  let wanted ← requireMac mac
  let concurrency ← sweepConcurrency concurrency
  match sweepArgumentRefusal scan (namedGround network scope) with
  | some refusal => .error (.value refusal)
  | none =>
    if scan then do
      let covered ← plan host.toSweepHost network scope
      searchScope python host mac wanted covered concurrency family
    else do
      let entries ← host.neighbours []
      .ok (addressesHeldBy python entries wanted family)

variable {python}

/-! ### What a search is for -/

/-- An address is one of the numbers of a network. -/
structure IPNetwork.Holds (n : IPNetwork) (a : IPAddress) : Prop where
  family_eq : n.family = a.family
  le_toNat : n.address.toNat ≤ a.toNat
  toNat_lt : a.toNat < n.address.toNat + n.numAddresses

theorem IPNetwork.dvd_address (n : IPNetwork) :
    2 ^ (n.maxPrefixlen - n.prefixlen) ∣ n.address.toNat := by
  cases n with
  | v4 n => exact n.masked
  | v6 n => exact n.masked

/-- **Clearing the host bits finds the network an address is on.** -/
theorem IPNetwork.contains_iff (n : IPNetwork) (a : IPAddress) :
    n.contains a = true ↔ n.Holds a := by
  obtain ⟨k, hk⟩ := n.dvd_address
  have hsize : 0 < 2 ^ (n.maxPrefixlen - n.prefixlen) := Nat.pow_pos (by decide)
  rw [contains, Bool.and_eq_true, beq_iff_eq, beq_iff_eq, clearHostBits, hk, Nat.mul_comm _ k,
    Nat.mul_left_inj hsize.ne', Nat.div_eq_iff hsize]
  have hnumber : n.address.toNat = k * 2 ^ (n.maxPrefixlen - n.prefixlen) := by
    rw [hk, Nat.mul_comm]
  have hcount : n.numAddresses = 2 ^ (n.maxPrefixlen - n.prefixlen) := rfl
  constructor
  · rintro ⟨hfamily, hle, hlt⟩
    exact ⟨hfamily, by omega, by omega⟩
  · rintro ⟨hfamily, hle, hlt⟩
    exact ⟨hfamily, by omega, by omega⟩

/-- An entry in the family that carries the hardware address. -/
structure Neighbour.Carries (raw : Octets) (family : Option AddressFamily) (e : Neighbour) :
    Prop where
  mac : ∃ mac ∈ e.mac, WritesMac mac raw
  inFamily : ∀ f ∈ family, e.address.family = f

/-- The ground of a search: a scope, or everything. -/
def Neighbour.LiesIn (scope : Option SweepScope) (e : Neighbour) : Prop :=
  ∀ s ∈ scope, ∃ n ∈ s.networks, n.Holds e.address

open Classical in
variable (python) in
/-- The scoped texts of the entries a search is for, in the order of the cache. -/
noncomputable def heldTexts (cache : List Neighbour) (raw : Octets)
    (family : Option AddressFamily) (scope : Option SweepScope) : List Text :=
  (cache.filter fun e => e.Carries raw family ∧ e.LiesIn scope).map (Neighbour.scoped python)

/-! ### What is held -/

theorem ipVersion_eq_iff (f g : AddressFamily) : f.ipVersion = g.ipVersion ↔ f = g := by
  cases f <;> cases g <;> decide

theorem exists_filter_ofFamily (family : Option AddressFamily) :
    ∃ p : Neighbour → Bool, (∀ e, p e = true ↔ ∀ f ∈ family, e.address.family = f) ∧
      ∀ entries, ofFamily entries family = entries.filter p := by
  cases family with
  | none => exact ⟨fun _ => true, by simp, fun entries => (List.filter_true entries).symm⟩
  | some f =>
    refine ⟨fun e => e.address.version == f.ipVersion, ?_, fun _ => rfl⟩
    intro e
    simp [IPAddress.version, ipVersion_eq_iff]

theorem any_normaliseMac_iff {mac wanted : Text} {raw : Octets} (hmac : WritesMac mac raw)
    (hwanted : normaliseMac mac = some wanted) (e : Neighbour) :
    (e.mac.any fun mac => normaliseMac mac == some wanted) = true ↔
      ∃ mac ∈ e.mac, WritesMac mac raw := by
  cases e.mac with
  | none => simp
  | some held => simp [normaliseMac_eq_iff hmac hwanted]

/-- **What is held are the texts of the entries a search is for, as they are first seen.** -/
theorem firstSeen_addressesHeldBy {mac wanted : Text} {raw : Octets} (hmac : WritesMac mac raw)
    (hwanted : normaliseMac mac = some wanted) (cache : List Neighbour)
    (family : Option AddressFamily) (scope : Option SweepScope) (lies : Neighbour → Bool)
    (hlies : ∀ e, lies e = true ↔ e.LiesIn scope) :
    FirstSeen (heldTexts python cache raw family scope)
      (addressesHeldBy python (cache.filter lies) wanted family) := by
  classical
  obtain ⟨p, hp, hfilter⟩ := exists_filter_ofFamily family
  have hsame : addressesHeldBy python (cache.filter lies) wanted family =
      (heldTexts python cache raw family scope).eraseDups := by
    rw [addressesHeldBy, matching, Dict.keys_fromKeys, hfilter, List.filter_filter,
      List.filter_filter, heldTexts]
    congr 2
    apply List.filter_congr
    intro e _
    rw [Bool.eq_iff_iff, Bool.and_eq_true, Bool.and_eq_true, any_normaliseMac_iff hmac hwanted, hp,
      hlies, decide_eq_true_iff]
    constructor
    · rintro ⟨⟨hcarries, hfamily⟩, hin⟩
      exact ⟨⟨hcarries, hfamily⟩, hin⟩
    · rintro ⟨⟨hcarries, hfamily⟩, hin⟩
      exact ⟨⟨hcarries, hfamily⟩, hin⟩
  rw [hsame]
  exact firstSeen_eraseDups _

theorem any_contains_iff (scope : SweepScope) (e : Neighbour) :
    (scope.networks.any fun item => item.contains e.address) = true ↔ e.LiesIn (some scope) := by
  simp only [List.any_eq_true, IPNetwork.contains_iff, Neighbour.LiesIn, Option.mem_def,
    Option.some_inj, forall_eq']

theorem firstSeen_entriesInScope {mac wanted : Text} {raw : Octets} (hmac : WritesMac mac raw)
    (hwanted : normaliseMac mac = some wanted) (cache : List Neighbour)
    (family : Option AddressFamily) (scope : SweepScope) :
    FirstSeen (heldTexts python cache raw family (some scope))
      (addressesHeldBy python (entriesInScope cache scope) wanted family) :=
  firstSeen_addressesHeldBy hmac hwanted cache family (some scope) _ (any_contains_iff scope)

theorem firstSeen_cache {mac wanted : Text} {raw : Octets} (hmac : WritesMac mac raw)
    (hwanted : normaliseMac mac = some wanted) (cache : List Neighbour)
    (family : Option AddressFamily) :
    FirstSeen (heldTexts python cache raw family none)
      (addressesHeldBy python cache wanted family) := by
  have hseen : FirstSeen (heldTexts python cache raw family none)
      (addressesHeldBy python (cache.filter fun _ => true) wanted family) :=
    firstSeen_addressesHeldBy hmac hwanted cache family none (fun _ => true)
      (fun e => ⟨fun _ s hs => by simp at hs, fun _ => rfl⟩)
  rwa [List.filter_true] at hseen

/-! ### The search is established -/

/-- An `IPScoutSweepTooWideError` or an `IPScoutSweepIncompleteError`. -/
def PyError.isSweepError : PyError → Bool
  | scout cls _ => cls == .IPScoutSweepTooWideError || cls == .IPScoutSweepIncompleteError
  | _ => false

variable (python) in
/-- A list that a search of a scope may return: what the cache holds there, and empty only
when the scope left nothing out. -/
structure Established (cache : List Neighbour) (raw : Octets) (family : Option AddressFamily)
    (scope : SweepScope) (found : List Text) : Prop where
  firstSeen : FirstSeen (heldTexts python cache raw family (some scope)) found
  complete : found = [] → scope.skipped = []

theorem requireMac_eq_ok {mac wanted : Text} :
    requireMac mac = .ok wanted ↔ normaliseMac mac = some wanted := by
  rw [requireMac]
  cases normaliseMac mac with
  | none => simp
  | some canonical => simp

theorem WritesMac.requireMac {mac : Text} {raw : Octets} (h : WritesMac mac raw) :
    ∃ wanted, requireMac mac = .ok wanted :=
  ⟨_, requireMac_eq_ok.mpr (normaliseMac_eq_some_iff.mpr ⟨raw, h, rfl⟩)⟩

theorem exists_writesMac {mac wanted : Text} (h : requireMac mac = .ok wanted) :
    ∃ raw, WritesMac mac raw := by
  obtain ⟨raw, hraw, _⟩ := normaliseMac_eq_some_iff.mp (requireMac_eq_ok.mp h)
  exact ⟨raw, hraw⟩

theorem sweep_eq_ok {host : ScanHost} {scope : SweepScope} {concurrency : ℤ}
    {entries : List Neighbour} :
    sweep host scope concurrency = .ok entries ↔
      host.probe (hostsOf scope) concurrency = .ok () ∧
        ∃ cache, host.neighbours (hostsOf scope) = .ok cache ∧
          entries = entriesInScope cache scope := by
  unfold sweep
  rw [bind_eq_ok]
  constructor
  · rintro ⟨⟨⟩, hprobe, hrest⟩
    obtain ⟨cache, hcache, hentries⟩ := bind_eq_ok.mp hrest
    exact ⟨hprobe, cache, hcache, (Except.ok.inj hentries).symm⟩
  · rintro ⟨hprobe, cache, hcache, rfl⟩
    exact ⟨(), hprobe, bind_eq_ok.mpr ⟨cache, hcache, rfl⟩⟩

theorem concludeSearch_cases (mac : Text) (scope : SweepScope) (found : List Text) :
    (concludeSearch mac scope found = .ok found ∧ (found = [] → scope.skipped = [])) ∨
      (found = [] ∧ scope.skipped ≠ [] ∧
        ∃ e, concludeSearch mac scope found = .error e ∧ e.isSweepError = true) := by
  unfold concludeSearch
  by_cases hfound : found = []
  · dsimp only
    rw [if_pos hfound, refuseAPartialMiss]
    by_cases hskipped : scope.skipped = []
    · left
      rw [if_pos hskipped]
      exact ⟨rfl, fun _ => hskipped⟩
    · right
      rw [if_neg hskipped]
      exact ⟨hfound, hskipped, _, rfl, rfl⟩
  · left
    dsimp only
    rw [if_neg hfound]
    exact ⟨rfl, fun h => absurd h hfound⟩

theorem heldTexts_of_networks_eq_nil {scope : SweepScope} (h : scope.networks = [])
    (cache : List Neighbour) (raw : Octets) (family : Option AddressFamily) :
    heldTexts python cache raw family (some scope) = [] := by
  classical
  rw [heldTexts, List.map_eq_nil_iff, List.filter_eq_nil_iff]
  intro e _ hdecide
  obtain ⟨n, hn, _⟩ := (of_decide_eq_true hdecide).2 scope rfl
  rw [h] at hn
  exact absurd hn List.not_mem_nil

/-- **A search that gets to the end** either establishes what it returns or raises a sweep
error over ground that was left out. -/
theorem searchScope_cases {host : ScanHost} {mac wanted : Text} {scope : SweepScope}
    {concurrency : ℤ} {raw : Octets} {cache : List Neighbour} (hmac : WritesMac mac raw)
    (hwanted : requireMac mac = .ok wanted)
    (hprobe : host.probe (hostsOf scope) concurrency = .ok ())
    (hcache : host.neighbours (hostsOf scope) = .ok cache) (family : Option AddressFamily) :
    (∃ found, searchScope python host mac wanted scope concurrency family = .ok found ∧
        Established python cache raw family scope found) ∨
      (heldTexts python cache raw family (some scope) = [] ∧ scope.skipped ≠ [] ∧
        ∃ e, searchScope python host mac wanted scope concurrency family = .error e ∧
          e.isSweepError = true) := by
  have hseen : FirstSeen (heldTexts python cache raw family (some scope))
      (addressesHeldBy python (entriesInScope cache scope) wanted family) :=
    firstSeen_entriesInScope hmac (requireMac_eq_ok.mp hwanted) cache family scope
  have hsweep : sweep host scope concurrency = .ok (entriesInScope cache scope) :=
    sweep_eq_ok.mpr ⟨hprobe, cache, hcache, rfl⟩
  by_cases hempty : scope.networks ≠ [] ∨ scope.skipped = []
  · have hsearch : searchScope python host mac wanted scope concurrency family =
        concludeSearch mac scope
          (addressesHeldBy python (entriesInScope cache scope) wanted family) := by
      rw [searchScope, refuseAnEmptyScope, if_pos hempty, hsweep]
      rfl
    rw [hsearch]
    rcases concludeSearch_cases mac scope
      (addressesHeldBy python (entriesInScope cache scope) wanted family) with h | h
    · exact Or.inl ⟨_, h.1, hseen, h.2⟩
    · exact Or.inr ⟨hseen.eq_nil_iff.mp h.1, h.2⟩
  · right
    rw [not_or, not_not] at hempty
    refine ⟨heldTexts_of_networks_eq_nil hempty.1 cache raw family, hempty.2, ?_⟩
    rw [searchScope, refuseAnEmptyScope, if_neg (not_or.mpr ⟨not_not.mpr hempty.1, hempty.2⟩)]
    exact ⟨_, rfl, rfl⟩

theorem searchScope_eq_ok {host : ScanHost} {mac wanted : Text} {scope : SweepScope}
    {concurrency : ℤ} {family : Option AddressFamily} {found : List Text}
    (h : searchScope python host mac wanted scope concurrency family = .ok found) :
    host.probe (hostsOf scope) concurrency = .ok () ∧
      ∃ cache, host.neighbours (hostsOf scope) = .ok cache ∧
        found = addressesHeldBy python (entriesInScope cache scope) wanted family := by
  unfold searchScope at h
  obtain ⟨_, _, h⟩ := bind_eq_ok.mp h
  obtain ⟨entries, hsweep, h⟩ := bind_eq_ok.mp h
  obtain ⟨hprobe, cache, hcache, rfl⟩ := sweep_eq_ok.mp hsweep
  refine ⟨hprobe, cache, hcache, ?_⟩
  rcases concludeSearch_cases mac scope
    (addressesHeldBy python (entriesInScope cache scope) wanted family) with
    ⟨hfound, _⟩ | ⟨_, _, e, he, _⟩
  · rw [h] at hfound
    exact Except.ok.inj hfound
  · rw [h] at he
    simp at he

/-! ### What a search returns -/

theorem sweepConcurrency_eq_ok {concurrency c : ℤ} :
    sweepConcurrency concurrency = .ok c ↔ 1 ≤ concurrency ∧ c = concurrency := by
  rw [sweepConcurrency]
  split
  · constructor
    · intro h
      simp at h
    · rintro ⟨hone, _⟩
      omega
  · constructor
    · intro h
      exact ⟨by omega, (Except.ok.inj h).symm⟩
    · rintro ⟨_, rfl⟩
      rfl

theorem findIpByMac_scan {host : ScanHost} {mac wanted : Text} {network : Option Text}
    {scope : Option SweepScope} {covered : SweepScope} {concurrency : ℤ}
    (hwanted : requireMac mac = .ok wanted) (hconcurrency : 1 ≤ concurrency)
    (hplan : plan host.toSweepHost network scope = .ok covered) (family : Option AddressFamily) :
    findIpByMac python host mac true network scope concurrency family =
      searchScope python host mac wanted covered concurrency family := by
  rw [findIpByMac, hwanted, sweepConcurrency_eq_ok.mpr ⟨hconcurrency, rfl⟩]
  show plan host.toSweepHost network scope >>= _ = _
  rw [hplan]
  rfl

theorem findIpByMac_scan_eq_ok {host : ScanHost} {mac : Text} {network : Option Text}
    {scope : Option SweepScope} {concurrency : ℤ} {family : Option AddressFamily}
    {found : List Text}
    (h : findIpByMac python host mac true network scope concurrency family = .ok found) :
    ∃ wanted covered, requireMac mac = .ok wanted ∧ 1 ≤ concurrency ∧
      plan host.toSweepHost network scope = .ok covered := by
  unfold findIpByMac at h
  obtain ⟨wanted, hwanted, h⟩ := bind_eq_ok.mp h
  obtain ⟨c, hc, h⟩ := bind_eq_ok.mp h
  obtain ⟨covered, hplan, _⟩ := bind_eq_ok.mp h
  exact ⟨wanted, covered, hwanted, (sweepConcurrency_eq_ok.mp hc).1, hplan⟩

theorem findIpByMac_cache_eq_ok {host : ScanHost} {mac : Text} {network : Option Text}
    {scope : Option SweepScope} {concurrency : ℤ} {family : Option AddressFamily}
    {found : List Text}
    (h : findIpByMac python host mac false network scope concurrency family = .ok found) :
    network = none ∧ scope = none ∧ ∃ wanted cache, requireMac mac = .ok wanted ∧
      host.neighbours [] = .ok cache ∧ found = addressesHeldBy python cache wanted family := by
  unfold findIpByMac at h
  obtain ⟨wanted, hwanted, h⟩ := bind_eq_ok.mp h
  obtain ⟨c, _, h⟩ := bind_eq_ok.mp h
  cases hnamed : namedGround network scope with
  | some name =>
    rw [hnamed] at h
    exact absurd h (by simp [sweepArgumentRefusal])
  | none =>
    rw [hnamed] at h
    obtain ⟨cache, hcache, h⟩ := bind_eq_ok.mp h
    rw [namedGround] at hnamed
    split at hnamed
    · next hnone =>
      refine ⟨Option.isNone_iff_eq_none.mp hnone.1, Option.isNone_iff_eq_none.mp hnone.2, ?_⟩
      exact ⟨wanted, cache, hwanted, hcache, (Except.ok.inj h).symm⟩
    · split at hnamed
      · simp at hnamed
      · simp at hnamed

/-- **No absence is reported that was not established, and no match is lost or repeated.**
With a sweep, a search that returns has read the cache after probing what it covered, and
its list is established; one whose probes and cache return either returns such a list or
raises a sweep error, and that only where nothing was held and ground was left out.
Without a sweep a search returns what the cache holds anywhere. -/
theorem findIpByMac_established (python : PythonVersion) (host : ScanHost) (mac : Text)
    (network : Option Text) (scope : Option SweepScope) (concurrency : ℤ)
    (family : Option AddressFamily) :
    (∀ found, findIpByMac python host mac true network scope concurrency family = .ok found →
      ∃ raw covered cache, WritesMac mac raw ∧ plan host.toSweepHost network scope = .ok covered ∧
        host.probe (hostsOf covered) concurrency = .ok () ∧
        host.neighbours (hostsOf covered) = .ok cache ∧
        Established python cache raw family covered found) ∧
    (∀ raw covered cache, WritesMac mac raw → 1 ≤ concurrency →
      plan host.toSweepHost network scope = .ok covered →
      host.probe (hostsOf covered) concurrency = .ok () →
      host.neighbours (hostsOf covered) = .ok cache →
      (∃ found, findIpByMac python host mac true network scope concurrency family = .ok found ∧
        Established python cache raw family covered found) ∨
      (heldTexts python cache raw family (some covered) = [] ∧ covered.skipped ≠ [] ∧
        ∃ e, findIpByMac python host mac true network scope concurrency family = .error e ∧
          e.isSweepError = true)) ∧
    (∀ found, findIpByMac python host mac false network scope concurrency family = .ok found →
      network = none ∧ scope = none ∧ ∃ raw cache, WritesMac mac raw ∧
        host.neighbours [] = .ok cache ∧
        FirstSeen (heldTexts python cache raw family none) found) := by
  refine ⟨?_, ?_, ?_⟩
  · intro found h
    obtain ⟨wanted, covered, hwanted, hconcurrency, hplan⟩ := findIpByMac_scan_eq_ok h
    obtain ⟨raw, hmac⟩ := exists_writesMac hwanted
    rw [findIpByMac_scan hwanted hconcurrency hplan] at h
    obtain ⟨hprobe, cache, hcache, _⟩ := searchScope_eq_ok h
    refine ⟨raw, covered, cache, hmac, hplan, hprobe, hcache, ?_⟩
    rcases searchScope_cases hmac hwanted hprobe hcache family with
      ⟨found', hfound', hestablished⟩ | ⟨_, _, e, he, _⟩
    · rw [h, Except.ok.injEq] at hfound'
      rw [hfound']
      exact hestablished
    · rw [h] at he
      simp at he
  · intro raw covered cache hmac hconcurrency hplan hprobe hcache
    obtain ⟨wanted, hwanted⟩ := hmac.requireMac
    rw [findIpByMac_scan hwanted hconcurrency hplan]
    exact searchScope_cases hmac hwanted hprobe hcache family
  · intro found h
    obtain ⟨hnetwork, hscope, wanted, cache, hwanted, hcache, rfl⟩ := findIpByMac_cache_eq_ok h
    obtain ⟨raw, hmac⟩ := exists_writesMac hwanted
    refine ⟨hnetwork, hscope, raw, cache, hmac, hcache, ?_⟩
    exact firstSeen_cache hmac (requireMac_eq_ok.mp hwanted) cache family

end IPScout
