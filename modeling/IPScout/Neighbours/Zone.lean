import IPScout.Neighbours.Lookup

/-!
# A zone and the link it names

A link-local address names a different machine on each link, so an answer about
`fe80::1%eth0` may only come from a cache entry learned on `eth0` (`PinsLink`).
`_entry_for` looks for such an entry first and otherwise takes the first entry
for the address on any link.

So the lookup keeps to the zone's link exactly when the cache has no entry
written as the bare address, or the zone names an interface that has one
(`LinkKnown`, `zone_pins_the_link_iff`).  Entries are compared with the address
as text, as the code compares them.
-/

namespace IPScout

open Base

/-! ### Entries on a link -/

/-- An entry for the address, learned on the interface. -/
def EntryOn (cache : NeighbourCache) (bare name : Text) (e : Neighbour) : Prop :=
  e ∈ cache.entries ∧ e.ip = bare ∧ e.interface = some name

/-- A zone's interface, where it names one, has an entry for the address. -/
def LinkHasEntry (host : Host) (zone bare : Text) : Prop :=
  ∃ found e, zoneInterface host.interfaces zone = .ok found ∧ EntryOn host.cache bare found.name e

/-- The answer is `DIRECT` only with the hardware address of an entry learned on the
interface the zone names, and without such an entry it is `UNKNOWN`. -/
def PinsLink (host : Host) (zone bare : Text) (r : MacLookup) : Prop :=
  (r.scope = .DIRECT → ∃ found e, zoneInterface host.interfaces zone = .ok found ∧
    EntryOn host.cache bare found.name e ∧ r.mac = e.mac) ∧
  (¬ LinkHasEntry host zone bare → r.scope = .UNKNOWN ∧ r.mac = none)

/-- The cache has no entry written as the address, or the zone's interface has one. -/
def LinkKnown (host : Host) (zone bare : Text) : Prop :=
  (∀ e ∈ host.cache.entries, e.ip ≠ bare) ∨ LinkHasEntry host zone bare

theorem entryFor_eq_none_iff {ip : Text} {entries : List Neighbour} {interface : Option Text} :
    entryFor ip entries interface = none ↔ ∀ e ∈ entries, e.ip ≠ ip := by
  have hnone : (entries.filter fun entry => entry.ip = ip).head? = none ↔
      ∀ e ∈ entries, e.ip ≠ ip := by
    rw [List.head?_eq_none_iff, List.filter_eq_nil_iff]
    simp
  cases interface with
  | none => exact hnone
  | some link =>
    rw [entryFor, Option.or_eq_none_iff, hnone]
    apply and_iff_right_of_imp
    intro h
    rw [List.find?_eq_none]
    intro e he
    exact absurd (by simpa using (List.mem_filter.mp he).2) (h e (List.mem_filter.mp he).1)

theorem entryFor_of_entryOn {cache : NeighbourCache} {bare name : Text} {e : Neighbour}
    (h : EntryOn cache bare name e) :
    ∃ e', entryFor bare cache.entries (some name) = some e' ∧ EntryOn cache bare name e' := by
  obtain ⟨hmem, hip, hlink⟩ := h
  have hnamed : e ∈ cache.entries.filter fun entry => entry.ip = bare :=
    List.mem_filter.mpr ⟨hmem, by simpa using hip⟩
  cases hfind : (cache.entries.filter fun entry => entry.ip = bare).find?
      (fun entry => entry.interface = some name) with
  | none => exact absurd hlink (by simpa using List.find?_eq_none.mp hfind e hnamed)
  | some e' =>
    obtain ⟨hmem', hip'⟩ := List.mem_filter.mp (List.mem_of_find?_eq_some hfind)
    refine ⟨e', ?_, hmem', by simpa using hip', by simpa using List.find?_some hfind⟩
    rw [entryFor, hfind]
    rfl

/-! ### An answer of the cache -/

/-- **An on-link answer keeps to the zone's link exactly when the link is known.**
`link` is the interface preferred, which is the zone's where the zone names one. -/
theorem pinsLink_iff {host : Host} {ip bare zone link : Text} {route : Option RouteInfo}
    {r : MacLookup} (hroute : routedVia route = none)
    (hlink : ∀ found, zoneInterface host.interfaces zone = .ok found → link = found.name)
    (hr : r.toMacAnswer = cachedAnswer host.cache.entries ip bare route (some link)) :
    PinsLink host zone bare r ↔ LinkKnown host zone bare := by
  rw [PinsLink, hr, cachedAnswer, hroute]
  cases hentry : entryFor bare host.cache.entries (some link) with
  | none =>
    have hnone := entryFor_eq_none_iff.mp hentry
    refine iff_of_true ⟨?_, fun _ => ⟨rfl, rfl⟩⟩ (Or.inl hnone)
    intro h
    exact MacScope.noConfusion h
  | some e =>
    obtain ⟨hmem, hip⟩ := mem_of_entryFor hentry
    constructor
    · rintro ⟨_, hunknown⟩
      by_contra hknown
      have := (hunknown fun hhas => hknown (Or.inr hhas)).1
      exact MacScope.noConfusion this
    · rintro (hnone | ⟨found, e', hfound, hon⟩)
      · exact absurd hip (hnone e hmem)
      · have hname := hlink found hfound
        subst hname
        obtain ⟨e'', hentry', hon'⟩ := entryFor_of_entryOn hon
        rw [hentry, Option.some.injEq] at hentry'
        subst hentry'
        exact ⟨fun _ => ⟨found, e, hfound, hon', rfl⟩,
          fun hno => absurd ⟨found, e', hfound, hon⟩ hno⟩

/-- **A zone pins the link exactly where the link is known.**  Without a gateway in
the route, a passive lookup of a zoned literal keeps to the zone's link if and only
if the cache has no entry for the address or the zone's interface has one.  So does
a fallback to the cache, which a zone that names no interface never reaches. -/
theorem zone_pins_the_link_iff (host : Host) {ip zone : Text} {a : IPAddress}
    (h : ipAddress ip = some a) (hzone : a.zone = some zone)
    (hroute : routedVia (host.routes a.bare) = none) :
    (∃ r, (lookupMac host ip false false).outcome = .ok r ∧
      (PinsLink host zone (splitZone ip).address r ↔
        LinkKnown host zone (splitZone ip).address)) ∧
    (∀ e, host.resolveActive ip = .error e → cannotAskActively e = true →
      (∀ f, zoneInterface host.interfaces zone = .error f →
        (lookupMac host ip true true).outcome = .error f ∧
          (lookupMac host ip true true).effects = []) ∧
      (∀ found, zoneInterface host.interfaces zone = .ok found →
        ∃ r, (lookupMac host ip true true).outcome = .ok r ∧
          (PinsLink host zone (splitZone ip).address r ↔
            LinkKnown host zone (splitZone ip).address))) := by
  have hgateway : GatewayLiteral (host.routes a.bare) := by
    intro r gateway hvia
    rw [hroute] at hvia
    simp at hvia
  constructor
  · have hlink : passiveInterface host a = some (linkOf host.interfaces zone) := by
      rw [passiveInterface, hzone]
    obtain ⟨r, hr, hans⟩ := cachedLookup_outcome host (splitZone ip).address
      (some (linkOf host.interfaces zone)) h hgateway
    refine ⟨r, by rw [lookupMac_passive h, hlink, hr], pinsLink_iff hroute ?_ hans⟩
    intro found hfound
    rw [linkOf, hfound]
  · intro e hask hcannot
    rw [lookupMac_active h, hzone]
    constructor
    · intro f hf
      rw [Option.map_some, hf]
      exact ⟨rfl, rfl⟩
    · intro found hfound
      obtain ⟨r, hr, hans⟩ := cachedLookup_outcome host (splitZone ip).address (some found.name) h
        hgateway
      refine ⟨r, ?_, pinsLink_iff hroute ?_ hans⟩
      · have hactive : (activeLookup host ip (host.routes a.bare) (some found.name)).outcome
            = .error e := by
          rw [activeLookup, hroute]
          simp only [hask]
        rw [Option.map_some, hfound]
        simp only [askOrReadCache, hactive, hcannot, if_true, reduceCtorEq, if_false, hr]
      · intro other hother
        rw [hfound, Except.ok.injEq] at hother
        rw [hother]

/-! ### Two links -/

/-- A host with two links and one neighbour, `fe80::1` on the second. -/
def twoLinks : Host where
  interfaces :=
    { ifNametoindex := fun name =>
        if name = "eth0".toList then some 2 else if name = "eth1".toList then some 3 else none
      ifIndextoname := fun index =>
        if index = 2 then some "eth0".toList else if index = 3 then some "eth1".toList else none
      ifNameindex := [(2, "eth0".toList), (3, "eth1".toList)]
      localInterfaces := [⟨"eth0".toList, some 2⟩, ⟨"eth1".toList, some 3⟩]
      python := .since313 }
  routes _ := none
  cache :=
    { entries := [{
        ip := "fe80::1".toList
        mac := some ⟨"02:00:5e:10:00:01".toList, by decide +kernel⟩
        interface := some "eth1".toList
        family := .IPV6
        bare := by decide
        literal := ⟨.v6 ⟨BitVec.ofNat 128 0xfe800000000000000000000000000001, none⟩,
          by decide +kernel⟩ }]
      learned := by simp }
  resolveActive _ := .error (.scout .IPScoutPermissionError [])

/-- The zone of the link that has the neighbour. -/
theorem zone_pins_the_link_of_eth1 :
    ∃ r, (lookupMac twoLinks "fe80::1%eth1".toList false false).outcome = .ok r ∧
      PinsLink twoLinks "eth1".toList "fe80::1".toList r := by
  have hip : ipAddress "fe80::1%eth1".toList
      = some (.v6 ⟨BitVec.ofNat 128 0xfe800000000000000000000000000001, some "eth1".toList⟩) := by
    decide +kernel
  have hbare : (splitZone "fe80::1%eth1".toList).address = "fe80::1".toList := by decide +kernel
  obtain ⟨r, hr, hiff⟩ := (zone_pins_the_link_iff twoLinks hip rfl rfl).1
  rw [hbare] at hiff
  exact ⟨r, hr, hiff.mpr (Or.inr ⟨⟨3, "eth1".toList⟩, _, by rfl, List.mem_singleton_self _, rfl,
    rfl⟩)⟩

/-- The zone of the other link gets the neighbour's hardware address too. -/
theorem zone_of_the_wrong_link :
    ∃ r, (lookupMac twoLinks "fe80::1%eth0".toList false false).outcome = .ok r ∧
      r.scope = .DIRECT ∧ r.interface = some "eth1".toList ∧
      r.mac.map Subtype.val = some "02:00:5e:10:00:01".toList ∧
      ¬ PinsLink twoLinks "eth0".toList "fe80::1".toList r := by
  have hip : ipAddress "fe80::1%eth0".toList
      = some (.v6 ⟨BitVec.ofNat 128 0xfe800000000000000000000000000001, some "eth0".toList⟩) := by
    decide +kernel
  have hbare : (splitZone "fe80::1%eth0".toList).address = "fe80::1".toList := by decide +kernel
  have hlink : passiveInterface twoLinks
      (.v6 ⟨BitVec.ofNat 128 0xfe800000000000000000000000000001, some "eth0".toList⟩)
      = some "eth0".toList := rfl
  have hgateway : GatewayLiteral none := by
    intro _ _ h
    simp [routedVia] at h
  obtain ⟨r, hr, hans⟩ := cachedLookup_outcome twoLinks "fe80::1".toList (some "eth0".toList) hip
    hgateway
  refine ⟨r, ?_, by rw [hans]; rfl, by rw [hans]; rfl, by rw [hans]; rfl, ?_⟩
  · rw [lookupMac_passive hip, hbare, hlink]
    exact hr
  · rintro ⟨hdirect, _⟩
    obtain ⟨found, e, hfound, ⟨hmem, _, hon⟩, _⟩ := hdirect (by rw [hans]; rfl)
    have hname : found = ⟨2, "eth0".toList⟩ := (Except.ok.inj hfound).symm
    have he := List.mem_singleton.mp hmem
    rw [he, hname] at hon
    exact absurd hon (by decide)

end IPScout
