import IPScout.Net.Literals
import IPScout.Scan.Find

/-!
# The targets of a sweep

A sweep probes the hosts of the networks it covers, one text each.  All of them are named
(`exists_target_of_isHost`), but `hosts` goes by numbers, so the zone a network was written
with is lost on the way unless the network is one address: its hosts come out bare, and if
they are link-local `resolve_one` refuses each of them.  `asksItsGround_iff` says which
candidates a sweep really asks.
-/

namespace IPScout

open Base Base.Text

/-! ### Numbers of hosts -/

theorem IPAddress.zone_ofNat (family : AddressFamily) (k : ℕ) : (ofNat family k).zone = none := by
  cases family <;> rfl

theorem IPAddress.family_ofNat (f : AddressFamily) (k : ℕ) : (ofNat f k).family = f := by
  cases f <;> rfl

theorem IPNetwork.address_add_numAddresses_le (n : IPNetwork) :
    n.address.toNat + n.numAddresses ≤ 2 ^ n.maxPrefixlen := by
  obtain ⟨m, hm⟩ := n.dvd_address
  have hlt : n.address.toNat < 2 ^ n.maxPrefixlen := by
    cases n with
    | v4 n => exact n.networkAddress.isLt
    | v6 n => exact n.networkAddress.ip.isLt
  have hsplit : 2 ^ n.maxPrefixlen = 2 ^ (n.maxPrefixlen - n.prefixlen) * 2 ^ n.prefixlen := by
    rw [← Nat.pow_add, Nat.sub_add_cancel n.prefixlen_le]
  rw [hm, hsplit] at hlt
  have hlast : m + 1 ≤ 2 ^ n.prefixlen := Nat.lt_of_mul_lt_mul_left hlt
  calc n.address.toNat + n.numAddresses
      = 2 ^ (n.maxPrefixlen - n.prefixlen) * (m + 1) := by rw [hm, Nat.mul_succ]; rfl
    _ ≤ 2 ^ (n.maxPrefixlen - n.prefixlen) * 2 ^ n.prefixlen := Nat.mul_le_mul_left _ hlast
    _ = 2 ^ n.maxPrefixlen := hsplit.symm

theorem IPNetwork.toNat_ofNat_of_isHost {n : IPNetwork} {k : ℕ} (h : n.IsHost k) :
    (IPAddress.ofNat n.family k).toNat = k := by
  have hle := n.address_add_numAddresses_le
  have hlt := h.lt
  cases n with
  | v4 n => exact Nat.mod_eq_of_lt (show k < 2 ^ 32 by exact hlt.trans_le hle)
  | v6 n => exact Nat.mod_eq_of_lt (show k < 2 ^ 128 by exact hlt.trans_le hle)

theorem IPNetwork.family_address (n : IPNetwork) : n.address.family = n.family := by
  cases n <;> rfl

theorem IPNetwork.needsZone_address (python : PythonVersion) (n : IPNetwork) :
    needsZone python (.ofNat n.family n.address.toNat) = needsZone python n.address := by
  cases n with
  | v4 n => rfl
  | v6 n =>
    obtain ⟨⟨ip, scope⟩, prefixlen, hle, hmasked, hzoned⟩ := n
    show needsZone python (.v6 ⟨BitVec.ofNat 128 ip.toNat, none⟩) =
      needsZone python (.v6 ⟨ip, scope⟩)
    rw [BitVec.ofNat_toNat, BitVec.setWidth_eq]
    rfl

/-! ### Hosts as texts -/

theorem IPNetwork.mem_hosts_cases {n : IPNetwork} {a : IPAddress} (h : a ∈ n.hosts) :
    (n.prefixlen = n.maxPrefixlen ∧ a = n.address) ∨
      (n.prefixlen ≠ n.maxPrefixlen ∧ ∃ k, n.IsHost k ∧ a = .ofNat n.family k) := by
  by_cases hfull : n.prefixlen = n.maxPrefixlen
  · rw [hosts_of_prefixlen_eq hfull, List.mem_singleton] at h
    exact Or.inl ⟨hfull, h⟩
  · exact Or.inr ⟨hfull, (mem_hosts_iff hfull a).mp h⟩

theorem IPNetwork.isZone_zone (n : IPNetwork) :
    ∀ zone, n.address.zone = some zone → IsZone zone := by
  cases n with
  | v4 n =>
    intro zone h
    simp [address, IPAddress.zone] at h
  | v6 n => exact n.zoned

/-- **The text of a host reads back.** -/
theorem IPNetwork.ipAddress_text_of_mem_hosts {n : IPNetwork} {a : IPAddress} (h : a ∈ n.hosts) :
    ipAddress a.text = some a := by
  apply ipAddress_text
  rcases mem_hosts_cases h with ⟨_, rfl⟩ | ⟨_, k, _, rfl⟩
  · exact n.isZone_zone
  · intro zone hzone
    rw [IPAddress.zone_ofNat] at hzone
    simp at hzone

theorem mem_hostsOf {scope : SweepScope} {t : Text} :
    t ∈ hostsOf scope ↔ ∃ n ∈ scope.networks, ∃ a ∈ n.hosts, t = a.text := by
  rw [hostsOf, List.mem_flatMap]
  constructor
  · rintro ⟨n, hn, ht⟩
    obtain ⟨a, ha, rfl⟩ := List.mem_map.mp ht
    exact ⟨n, hn, a, ha, rfl⟩
  · rintro ⟨n, hn, a, ha, rfl⟩
    exact ⟨n, hn, List.mem_map_of_mem ha⟩

/-- The address of a host of a network, as `hosts` lists it. -/
theorem IPNetwork.exists_mem_hosts {n : IPNetwork} {k : ℕ} (h : n.IsHost k) :
    ∃ a ∈ n.hosts, a.family = n.family ∧ a.toNat = k := by
  by_cases hfull : n.prefixlen = n.maxPrefixlen
  · refine ⟨n.address, ?_, n.family_address, ((isHost_of_prefixlen_eq hfull k).mp h).symm⟩
    rw [hosts_of_prefixlen_eq hfull]
    exact List.mem_cons_self
  · exact ⟨_, (mem_hosts_iff hfull _).mpr ⟨k, h, rfl⟩, IPAddress.family_ofNat _ _,
      toNat_ofNat_of_isHost h⟩

/-- **Every host of a covered network is among the targets.** -/
theorem exists_target_of_isHost {scope : SweepScope} {n : IPNetwork} {k : ℕ}
    (hn : n ∈ scope.networks) (h : n.IsHost k) :
    ∃ t ∈ hostsOf scope, ∃ a, ipAddress t = some a ∧ a.family = n.family ∧ a.toNat = k := by
  obtain ⟨a, ha, hfamily, hnumber⟩ := IPNetwork.exists_mem_hosts h
  exact ⟨a.text, mem_hostsOf.mpr ⟨n, hn, a, ha, rfl⟩, a,
    IPNetwork.ipAddress_text_of_mem_hosts ha, hfamily, hnumber⟩

/-! ### Candidates -/

def Candidate.zone : Candidate → Option Text
  | network n => n.zone
  | text t => ((t.splitOn '/').head?.bind ipAddress).bind IPAddress.zone

/-- The size of a candidate that can be read. -/
def Candidate.size (c : Candidate) : ℕ :=
  match c.read with
  | .ok n => n.numAddresses
  | .error _ => 0

def coveredCandidates (candidates : List Candidate) (limit : ℤ) : List Candidate :=
  (divide Candidate.size limit candidates).1

theorem mapM_divide {candidates : List Candidate} {networks : List IPNetwork} {room : ℤ}
    (h : candidates.mapM Candidate.read = .ok networks) :
    (divide Candidate.size room candidates).1.mapM Candidate.read =
      .ok (divide IPNetwork.numAddresses room networks).1 := by
  induction candidates generalizing networks room with
  | nil =>
    rw [mapM_nil_eq_ok.mp h]
    rfl
  | cons c rest ih =>
    obtain ⟨n, ns, hn, hns, rfl⟩ := mapM_cons_eq_ok.mp h
    have hsize : c.size = n.numAddresses := by rw [Candidate.size, hn]
    rw [divide, divide, hsize]
    split
    · exact mapM_cons_eq_ok.mpr ⟨n, _, hn, ih hns, rfl⟩
    · exact ih hns

theorem mapM_coveredCandidates {candidates : List Candidate} {limit : ℤ} {scope : SweepScope}
    (h : SweepScope.fromNetworks candidates limit = .ok scope) :
    (coveredCandidates candidates limit).mapM Candidate.read = .ok scope.networks := by
  unfold SweepScope.fromNetworks at h
  obtain ⟨networks, hnetworks, h⟩ := bind_eq_ok.mp h
  split at h
  · rw [← Except.ok.inj h]
    exact mapM_divide hnetworks
  · simp at h

theorem ipv6Address_of_zone {t zone : Text} (h : (ipAddress t).bind IPAddress.zone = some zone) :
    ipv4Address t = none ∧ ∃ a, ipv6Address t = some a ∧ a.scopeId = some zone := by
  obtain ⟨a, ha, hzone⟩ := Option.bind_eq_some_iff.mp h
  cases a with
  | v4 ip => simp [IPAddress.zone] at hzone
  | v6 a =>
    obtain ⟨h4, h6⟩ := ipv6Address_of_ipAddress ha
    exact ⟨h4, a, h6, hzone⟩

theorem IPv6Network.make_of_prefixlen_eq (a : IPv6Address) {prefixlen : ℕ} (h : prefixlen ≤ 128)
    (hzone : ∀ zone, a.scopeId = some zone → IsZone zone) (hfull : prefixlen = 128) :
    (IPv6Network.make a prefixlen h hzone).networkAddress = a := by
  have hmasked : 2 ^ (128 - prefixlen) ∣ a.ip.toNat := by
    rw [hfull]
    exact Nat.one_dvd _
  rw [make, dif_pos hmasked]

theorem IPv6Network.prefixlen_make (a : IPv6Address) {prefixlen : ℕ} (h : prefixlen ≤ 128)
    (hzone : ∀ zone, a.scopeId = some zone → IsZone zone) :
    (IPv6Network.make a prefixlen h hzone).prefixlen = prefixlen := by
  rw [make]
  split
  · rfl
  · rfl

theorem networkAddress_of_ipv6Network {address : Text} {mask : Option Text} {a : IPv6Address}
    {n : IPv6Network} (h : ipv6Network address mask = some n) (ha : ipv6Address address = some a)
    (hfull : n.prefixlen = 128) : n.networkAddress = a := by
  rw [ipv6Network] at h
  split at h
  · simp at h
  · next a' ha' =>
    cases Option.some.inj (ha.symm.trans ha')
    obtain ⟨prefixlen, _, h⟩ := Option.bind_eq_some_iff.mp h
    split at h
    · next hle =>
      have hsame := Option.some.inj h
      have hprefixlen := IPv6Network.prefixlen_make a hle (isZone_of_ipv6Address ha')
      rw [hsame, hfull] at hprefixlen
      rw [← hsame, IPv6Network.make_of_prefixlen_eq a hle _ hprefixlen.symm]
    · simp at h

theorem Candidate.exists_networkOf {t : Text} {n : IPNetwork} (h : (text t).read = .ok n) :
    ∃ address mask, (t.splitOn '/').head? = some address ∧ networkOf address mask = some n := by
  rw [read] at h
  split at h
  · next m hm =>
    cases Except.ok.inj h
    rw [ipNetwork] at hm
    split at hm
    · next address hsplit =>
      rw [hsplit]
      exact ⟨address, none, rfl, hm⟩
    · next address mask hsplit =>
      rw [hsplit]
      exact ⟨address, some mask, rfl, hm⟩
    · simp at hm
  · simp at h

/-- **A candidate with a zone is an IPv6 network**, and keeps the zone if that is one address. -/
theorem Candidate.zone_read {c : Candidate} {n : IPNetwork} {zone : Text} (h : c.read = .ok n)
    (hzone : c.zone = some zone) :
    n.family = .IPV6 ∧ (n.prefixlen = 128 → n.zone = some zone) := by
  cases c with
  | network m =>
    have hsame : m = n := Except.ok.inj h
    subst hsame
    refine ⟨?_, fun _ => hzone⟩
    cases m with
    | v4 m => simp [Candidate.zone, IPNetwork.zone, IPNetwork.address, IPAddress.zone] at hzone
    | v6 m => rfl
  | text t =>
    obtain ⟨address, mask, haddress, hnetwork⟩ := exists_networkOf h
    rw [Candidate.zone, haddress] at hzone
    obtain ⟨h4, a, ha, hscope⟩ := ipv6Address_of_zone hzone
    rw [networkOf, ipv4Network, h4] at hnetwork
    obtain ⟨m, hm, rfl⟩ := Option.map_eq_some_iff.mp hnetwork
    refine ⟨rfl, ?_⟩
    intro hfull
    show m.networkAddress.scopeId = some zone
    rw [networkAddress_of_ipv6Network hm ha hfull]
    exact hscope

/-! ### The ground that is asked -/

/-- What a sweep of a scope has to ask to answer for its ground. -/
structure AsksItsGround (env : Interfaces) (candidates : List Candidate) (limit : ℤ)
    (scope : SweepScope) : Prop where
  accepted : ∀ t ∈ hostsOf scope, ZoneChecksAccept env t
  complete : ∀ n ∈ scope.networks, ∀ k, n.IsHost k →
    ∃ t ∈ hostsOf scope, ∃ a, ipAddress t = some a ∧ a.family = n.family ∧ a.toNat = k
  zoned : ∀ c ∈ coveredCandidates candidates limit, ∀ n zone, c.read = .ok n →
    c.zone = some zone → ∀ a ∈ n.hosts, (splitZone a.text).zone = some zone

/-- The targets of a network are accepted where no host of it lacks a zone it needs. -/
theorem IPNetwork.hosts_accepted_iff (env : Interfaces) (n : IPNetwork) :
    (∀ a ∈ n.hosts, ZoneChecksAccept env a.text) ↔
      ∀ k, n.IsHost k → needsZone env.python (.ofNat n.family k) = true →
        n.prefixlen = n.maxPrefixlen ∧ n.zone.isSome = true := by
  constructor
  · intro haccepted k hk hneeds
    by_cases hfull : n.prefixlen = n.maxPrefixlen
    · refine ⟨hfull, ?_⟩
      rw [(isHost_of_prefixlen_eq hfull k).mp hk, needsZone_address] at hneeds
      have hmem : n.address ∈ n.hosts := by
        rw [hosts_of_prefixlen_eq hfull]
        exact List.mem_cons_self
      exact (zoneChecksAccept_iff (ipAddress_text_of_mem_hosts hmem)).mp (haccepted _ hmem) hneeds
    · have hmem := (mem_hosts_iff hfull _).mpr ⟨k, hk, rfl⟩
      have hzone := (zoneChecksAccept_iff (ipAddress_text_of_mem_hosts hmem)).mp
        (haccepted _ hmem) hneeds
      rw [IPAddress.zone_ofNat] at hzone
      simp at hzone
  · intro hkeeps a ha
    rw [zoneChecksAccept_iff (ipAddress_text_of_mem_hosts ha)]
    intro hneeds
    rcases mem_hosts_cases ha with ⟨hfull, rfl⟩ | ⟨hfull, k, hk, rfl⟩
    · have hk := (isHost_of_prefixlen_eq hfull n.address.toNat).mpr rfl
      exact (hkeeps _ hk ((n.needsZone_address env.python).trans hneeds)).2
    · exact absurd (hkeeps k hk hneeds).1 hfull

theorem IPNetwork.exists_bare_host {n : IPNetwork} (h : n.prefixlen ≠ n.maxPrefixlen) :
    ∃ a ∈ n.hosts, (splitZone a.text).zone = none := by
  obtain ⟨k, hk⟩ := n.exists_isHost
  have hmem := (mem_hosts_iff h _).mpr ⟨k, hk, rfl⟩
  refine ⟨_, hmem, ?_⟩
  rw [(splitZone_of_ipAddress (ipAddress_text_of_mem_hosts hmem)).2, IPAddress.zone_ofNat]

/-- **The zone a candidate was written with is carried** where its network is one address. -/
theorem Candidate.hosts_zoned_iff {c : Candidate} {n : IPNetwork} {zone : Text}
    (h : c.read = .ok n) (hzone : c.zone = some zone) :
    (∀ a ∈ n.hosts, (splitZone a.text).zone = some zone) ↔ n.prefixlen = 128 := by
  obtain ⟨hfamily, hkept⟩ := zone_read h hzone
  have hmax : n.maxPrefixlen = 128 := by
    cases n with
    | v4 n => simp [IPNetwork.family] at hfamily
    | v6 n => rfl
  constructor
  · intro hcarried
    by_contra hlen
    obtain ⟨a, ha, hbare⟩ := IPNetwork.exists_bare_host fun hfull =>
      hlen (hfull.trans hmax)
    rw [hcarried a ha] at hbare
    simp at hbare
  · intro hlen a ha
    rw [(splitZone_of_ipAddress (IPNetwork.ipAddress_text_of_mem_hosts ha)).2]
    rw [IPNetwork.hosts_of_prefixlen_eq (hlen.trans hmax.symm), List.mem_singleton] at ha
    rw [ha]
    exact hkept hlen

/-- No zone gets lost between a candidate and its hosts: it is one address if it was written
with a zone, and if a host of it is link-local then it was. -/
structure Candidate.KeepsZones (python : PythonVersion) (c : Candidate) (n : IPNetwork) :
    Prop where
  zone : ∀ zone, c.zone = some zone → n.prefixlen = 128
  linkLocal : ∀ k, n.IsHost k → needsZone python (.ofNat n.family k) = true →
    n.prefixlen = n.maxPrefixlen ∧ n.zone.isSome = true

/-- **A sweep asks the ground it covers exactly when no zone gets lost.** -/
theorem asksItsGround_iff (env : Interfaces) {candidates : List Candidate} {limit : ℤ}
    {scope : SweepScope} (h : SweepScope.fromNetworks candidates limit = .ok scope) :
    AsksItsGround env candidates limit scope ↔
      ∀ c ∈ coveredCandidates candidates limit, ∀ n, c.read = .ok n →
        c.KeepsZones env.python n := by
  have hnetworks : ∀ n, n ∈ scope.networks ↔
      ∃ c ∈ coveredCandidates candidates limit, c.read = .ok n :=
    fun n => mem_mapM_iff (mapM_coveredCandidates h)
  constructor
  · intro hasks c hc n hread
    refine ⟨?_, ?_⟩
    · intro zone hzone
      exact (Candidate.hosts_zoned_iff hread hzone).mp (hasks.zoned c hc n zone hread hzone)
    · rw [← IPNetwork.hosts_accepted_iff env n]
      intro a ha
      have hn := (hnetworks n).mpr ⟨c, hc, hread⟩
      exact hasks.accepted _ (mem_hostsOf.mpr ⟨n, hn, a, ha, rfl⟩)
  · intro hkeeps
    refine ⟨?_, ?_, ?_⟩
    · intro t ht
      obtain ⟨n, hn, a, ha, rfl⟩ := mem_hostsOf.mp ht
      obtain ⟨c, hc, hread⟩ := (hnetworks n).mp hn
      exact (IPNetwork.hosts_accepted_iff env n).mpr (hkeeps c hc n hread).linkLocal a ha
    · intro n hn k hk
      exact exists_target_of_isHost hn hk
    · intro c hc n zone hread hzone
      exact (Candidate.hosts_zoned_iff hread hzone).mpr ((hkeeps c hc n hread).zone zone hzone)

/-- A subnet, and one link-local address with its zone. -/
def zonedCandidates : List Candidate :=
  [.text "192.0.2.0/30".toList, .text "fe80::1%eth0/128".toList]

theorem asksItsGround_of_a_subnet :
    ∃ scope, SweepScope.fromNetworks zonedCandidates 4096 = .ok scope ∧
      ∀ env, AsksItsGround env zonedCandidates 4096 scope := by
  have hsubnet : Candidate.read (.text "192.0.2.0/30".toList) =
      .ok (.v4 (.make (BitVec.ofNat 32 0xc0000200) 30 (by decide))) := by
    decide +kernel
  have hhost : Candidate.read (.text "fe80::1%eth0/128".toList) =
      .ok (.v6 (.make ⟨BitVec.ofNat 128 (0xfe80 * 2 ^ 112 + 1), some "eth0".toList⟩ 128 (by decide)
        (by rintro _ ⟨⟩; decide))) := by
    decide +kernel
  have hreads : ∃ found, zonedCandidates.mapM Candidate.read = .ok found :=
    ⟨_, mapM_cons_eq_ok.mpr ⟨_, _, hsubnet,
      mapM_cons_eq_ok.mpr ⟨_, [], hhost, mapM_nil_eq_ok.mpr rfl, rfl⟩, rfl⟩⟩
  obtain ⟨found, hfound⟩ := hreads
  obtain ⟨scope, hscope, _⟩ :=
    SweepScope.exists_fromNetworks hfound (show (1 : ℤ) ≤ 4096 by decide)
  refine ⟨scope, hscope, ?_⟩
  intro env
  rw [asksItsGround_iff env hscope]
  intro c hc n hn
  have hcovered : coveredCandidates zonedCandidates 4096 = zonedCandidates := by
    rw [zonedCandidates, coveredCandidates, divide, if_pos (by decide +kernel), divide,
      if_pos (by decide +kernel)]
    rfl
  rw [hcovered, zonedCandidates, List.mem_cons, List.mem_singleton] at hc
  rcases hc with rfl | rfl
  · rw [hsubnet, Except.ok.injEq] at hn
    rw [← hn]
    refine ⟨?_, ?_⟩
    · intro zone hzone
      exact absurd hzone (by rw [show Candidate.zone _ = none by decide +kernel]; simp)
    · intro k _ hneeds
      exact absurd hneeds (by simp [IPNetwork.family, IPAddress.ofNat, needsZone,
        IPAddress.version, IPAddress.family, AddressFamily.ipVersion])
  · rw [hhost, Except.ok.injEq] at hn
    rw [← hn]
    exact ⟨fun _ _ => rfl, fun _ _ _ => ⟨rfl, rfl⟩⟩

/-- A link-local network written with a zone is swept by bare addresses, each of which is
refused before anything is sent. -/
theorem zone_of_a_network_is_lost :
    ∃ scope, SweepScope.fromNetworks [.text "fe80::%eth0/126".toList] 4096 = .ok scope ∧
      hostsOf scope = ["fe80::1".toList, "fe80::2".toList, "fe80::3".toList] ∧
      ∀ env, (∀ t ∈ hostsOf scope, ¬ ZoneChecksAccept env t) ∧
        ¬ AsksItsGround env [.text "fe80::%eth0/126".toList] 4096 scope := by
  have hread : Candidate.read (.text "fe80::%eth0/126".toList) =
      .ok (.v6 (.make ⟨BitVec.ofNat 128 (0xfe80 * 2 ^ 112), some "eth0".toList⟩ 126 (by decide)
        (by rintro _ ⟨⟩; decide))) := by
    decide +kernel
  obtain ⟨scope, hscope, hnetworks, _⟩ := SweepScope.exists_fromNetworks
    (mapM_cons_eq_ok.mpr ⟨_, [], hread, mapM_nil_eq_ok.mpr rfl, rfl⟩)
    (show (1 : ℤ) ≤ 4096 by decide)
  have hhosts : hostsOf scope = ["fe80::1".toList, "fe80::2".toList, "fe80::3".toList] := by
    rw [hostsOf, hnetworks]
    decide +kernel
  have hrefused : ∀ env, ∀ t ∈ hostsOf scope, ¬ ZoneChecksAccept env t := by
    intro env t ht
    have hhost : ∃ k ∈ [1, 2, 3], ipAddress t =
        some (.v6 ⟨BitVec.ofNat 128 (0xfe80 * 2 ^ 112 + k), none⟩) := by
      rw [hhosts] at ht
      revert t
      decide +kernel
    obtain ⟨k, hk, hread⟩ := hhost
    have hneeds : ∀ python : PythonVersion, ∀ k ∈ [1, 2, 3],
        needsZone python (.v6 ⟨BitVec.ofNat 128 (0xfe80 * 2 ^ 112 + k), none⟩) = true := by
      intro python
      cases python <;> decide +kernel
    exact not_zoneChecksAccept hread (hneeds env.python k hk) rfl
  refine ⟨scope, hscope, hhosts, ?_⟩
  intro env
  refine ⟨hrefused env, ?_⟩
  intro hasks
  have hmem : "fe80::1".toList ∈ hostsOf scope := by
    rw [hhosts]
    exact List.mem_cons_self
  exact hrefused env _ hmem (hasks.accepted _ hmem)

end IPScout
