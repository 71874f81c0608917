import IPScout.Neighbours.Zone

/-!
# The spelling of an address

One IPv6 address has many spellings.  A passive lookup reads the address to find
its route, and then compares its text with the text of the cache's entries, so
two spellings of one address may get two answers.

`spelling_matters_iff` says when they do not: the route names a gateway, or the
entries the cache prefers for the two texts (`preferred`) say the same.  In a
cache that writes each address one way, that is when the two texts are one text,
or neither is written in the cache.
-/

namespace IPScout

open Base

/-- What a caller reads from a record, the address it asked about apart. -/
def MacAnswer.answer (m : MacAnswer) : Option Mac × MacScope × Option Text × Option Text :=
  (m.mac, m.scope, m.viaIp, m.interface)

/-- What a call gives its caller, its refusal included. -/
def answerOf (outcome : Except PyError MacLookup) :
    Except PyError (Option Mac × MacScope × Option Text × Option Text) :=
  outcome.map fun r => r.toMacAnswer.answer

/-! ### The entry a cache prefers -/

/-- The first entry written as the text on the link, else the first written so. -/
def preferred (entries : List Neighbour) (link : Option Text) (bare : Text) : Option Neighbour :=
  (entries.find? fun e => e.ip = bare ∧ link.isSome ∧ e.interface = link).or
    (entries.find? fun e => e.ip = bare)

theorem entryFor_eq_preferred (bare : Text) (entries : List Neighbour) (link : Option Text) :
    entryFor bare entries link = preferred entries link bare := by
  have hfirst : (entries.filter fun entry => entry.ip = bare).head?
      = entries.find? fun e => e.ip = bare := List.head?_filter
  cases link with
  | none =>
    have hnever : (entries.find? fun e => e.ip = bare ∧ (none : Option Text).isSome ∧
        e.interface = none) = none := by
      rw [List.find?_eq_none]
      simp
    rw [preferred, hnever, Option.none_or, ← hfirst]
    rfl
  | some name =>
    rw [preferred, ← hfirst]
    show Option.or _ _ = _
    rw [List.find?_filter]
    simp

/-- What the cache says about a text: the hardware address and the interface of the
entry it prefers. -/
def cacheSays (cache : NeighbourCache) (link : Option Text) (bare : Text) :
    Option (Option Mac × Option Text) :=
  (preferred cache.entries link bare).map fun e => (e.mac, e.interface)

/-- The cache writes each address one way. -/
def OneSpelling (cache : NeighbourCache) : Prop :=
  ∀ e ∈ cache.entries, ∀ f ∈ cache.entries, ipAddress e.ip = ipAddress f.ip → e.ip = f.ip

/-- Neither text is written in the cache. -/
def NeitherWritten (cache : NeighbourCache) (s t : Text) : Prop :=
  ∀ e ∈ cache.entries, e.ip ≠ s ∧ e.ip ≠ t

theorem cacheSays_eq_none_iff {cache : NeighbourCache} {link : Option Text} {bare : Text} :
    cacheSays cache link bare = none ↔ ∀ e ∈ cache.entries, e.ip ≠ bare := by
  rw [cacheSays, Option.map_eq_none_iff, ← entryFor_eq_preferred, entryFor_eq_none_iff]

/-- In a cache with one spelling an address, two spellings of it are told apart
unless they are one, or neither is written. -/
theorem cacheSays_eq_iff {cache : NeighbourCache} {link : Option Text} {s t : Text}
    (hone : OneSpelling cache) (hst : ipAddress s = ipAddress t) :
    cacheSays cache link s = cacheSays cache link t ↔ s = t ∨ NeitherWritten cache s t := by
  constructor
  · intro h
    by_cases hs : ∀ e ∈ cache.entries, e.ip ≠ s
    · have ht := cacheSays_eq_none_iff.mp (h.symm.trans (cacheSays_eq_none_iff.mpr hs))
      exact Or.inr fun e he => ⟨hs e he, ht e he⟩
    · by_cases ht : ∀ e ∈ cache.entries, e.ip ≠ t
      · exact absurd (cacheSays_eq_none_iff.mp (h.trans (cacheSays_eq_none_iff.mpr ht))) hs
      · left
        push Not at hs ht
        obtain ⟨e, he, rfl⟩ := hs
        obtain ⟨f, hf, rfl⟩ := ht
        exact hone e he f hf hst
  · rintro (rfl | h)
    · rfl
    · rw [cacheSays_eq_none_iff.mpr fun e he => (h e he).1,
        cacheSays_eq_none_iff.mpr fun e he => (h e he).2]

/-! ### Two spellings -/

/-- Records refused alike, or accepted with one answer, give one answer. -/
theorem answerOf_make {m n : MacAnswer} (hcheck : m.check = n.check)
    (hanswer : m.answer = n.answer) :
    answerOf (MacLookup.make m) = answerOf (MacLookup.make n) := by
  cases h : n.check with
  | ok u =>
    rw [MacLookup.make_ok (hcheck.trans h), MacLookup.make_ok h]
    exact congrArg Except.ok hanswer
  | error e =>
    have herror : ∀ {k : MacAnswer}, k.check = .error e → MacLookup.make k = .error e := by
      intro k hk
      unfold MacLookup.make
      split
      · next hok =>
        rw [hk] at hok
        simp at hok
      · next f hf =>
        rw [hk] at hf
        rw [Except.error.inj hf]
    rw [herror (hcheck.trans h), herror h]

theorem MacAnswer.check_congr {m n : MacAnswer} {a b : IPAddress} (hm : ipAddress m.ip = some a)
    (hn : ipAddress n.ip = some b) (hanswer : m.answer = n.answer) : m.check = n.check := by
  obtain ⟨ip, mac, scope, via, interface, method⟩ := m
  obtain ⟨ip', mac', scope', via', interface', method'⟩ := n
  simp only [MacAnswer.answer, Prod.mk.injEq] at hanswer
  obtain ⟨rfl, rfl, rfl, rfl⟩ := hanswer
  rw [MacAnswer.check, MacAnswer.check, parseAddress_eq_ok.mpr hm, parseAddress_eq_ok.mpr hn]
  rfl

theorem answer_cachedAnswer {cache : NeighbourCache} {ip bare : Text} {route : Option RouteInfo}
    {link : Option Text} (hroute : routedVia route = none) :
    (cachedAnswer cache.entries ip bare route link).answer
      = match cacheSays cache link bare with
        | some (mac, interface) => (mac, .DIRECT, none, interface)
        | none => (none, .UNKNOWN, none, link) := by
  rw [cachedAnswer, hroute, cacheSays, ← entryFor_eq_preferred]
  cases entryFor bare cache.entries link <;> rfl

theorem answerOf_routed (host : Host) {s t : Text} {a : IPAddress} (hs : ipAddress s = some a)
    (ht : ipAddress t = some a) (hroute : (routedVia (host.routes a.bare)).isSome = true) :
    answerOf (lookupMac host s false false).outcome
      = answerOf (lookupMac host t false false).outcome := by
  obtain ⟨⟨r, gateway⟩, hroute⟩ := Option.isSome_iff_exists.mp hroute
  rw [lookupMac_passive hs, lookupMac_passive ht]
  have hanswer : (cachedAnswer host.cache.entries s (splitZone s).address
        (host.routes a.bare) (passiveInterface host a)).answer
      = (cachedAnswer host.cache.entries t (splitZone t).address
        (host.routes a.bare) (passiveInterface host a)).answer := by
    rw [cachedAnswer, cachedAnswer, hroute]
    rfl
  have hip : ∀ {ip} bare, ipAddress ip = some a → ipAddress (cachedAnswer host.cache.entries ip
      bare (host.routes a.bare) (passiveInterface host a)).ip = some a := by
    intro ip bare h
    rw [cachedAnswer, hroute]
    exact h
  exact answerOf_make (MacAnswer.check_congr (hip _ hs) (hip _ ht) hanswer) hanswer

theorem answerOf_onLink_iff (host : Host) {s t : Text} {a : IPAddress} (hs : ipAddress s = some a)
    (ht : ipAddress t = some a) (hroute : routedVia (host.routes a.bare) = none) :
    answerOf (lookupMac host s false false).outcome
        = answerOf (lookupMac host t false false).outcome ↔
      cacheSays host.cache (passiveInterface host a) (splitZone s).address
        = cacheSays host.cache (passiveInterface host a) (splitZone t).address := by
  rw [lookupMac_passive hs, lookupMac_passive ht]
  have hgateway : GatewayLiteral (host.routes a.bare) := by
    intro r gateway hvia
    rw [hroute] at hvia
    simp at hvia
  obtain ⟨x, hx, hxa⟩ := cachedLookup_outcome host (splitZone s).address
    (passiveInterface host a) hs hgateway
  obtain ⟨y, hy, hya⟩ := cachedLookup_outcome host (splitZone t).address
    (passiveInterface host a) ht hgateway
  rw [hx, hy]
  simp only [answerOf, Except.map, Except.ok.injEq, hxa, hya, answer_cachedAnswer hroute]
  cases cacheSays host.cache (passiveInterface host a) (splitZone s).address with
  | none => cases cacheSays host.cache (passiveInterface host a) (splitZone t).address <;> simp
  | some e =>
    cases cacheSays host.cache (passiveInterface host a) (splitZone t).address with
    | none => simp
    | some f =>
      obtain ⟨m, i⟩ := e
      obtain ⟨n, j⟩ := f
      simp

/-- **Two spellings of an address get one answer exactly when the route names a
gateway or the cache says the same of both.** -/
theorem spelling_matters_iff (host : Host) {s t : Text} {a : IPAddress}
    (hs : ipAddress s = some a) (ht : ipAddress t = some a) :
    (answerOf (lookupMac host s false false).outcome =
        answerOf (lookupMac host t false false).outcome ↔
      (routedVia (host.routes a.bare)).isSome = true ∨
        cacheSays host.cache (passiveInterface host a) (splitZone s).address
          = cacheSays host.cache (passiveInterface host a) (splitZone t).address) ∧
    (OneSpelling host.cache →
      (answerOf (lookupMac host s false false).outcome
          = answerOf (lookupMac host t false false).outcome ↔
        (routedVia (host.routes a.bare)).isSome = true ∨
          (splitZone s).address = (splitZone t).address ∨
          NeitherWritten host.cache (splitZone s).address (splitZone t).address)) := by
  have hbare : ipAddress (splitZone s).address = ipAddress (splitZone t).address := by
    rw [(splitZone_of_ipAddress hs).1, (splitZone_of_ipAddress ht).1]
  have hmain : answerOf (lookupMac host s false false).outcome
        = answerOf (lookupMac host t false false).outcome ↔
      (routedVia (host.routes a.bare)).isSome = true ∨
        cacheSays host.cache (passiveInterface host a) (splitZone s).address
          = cacheSays host.cache (passiveInterface host a) (splitZone t).address := by
    by_cases hroute : (routedVia (host.routes a.bare)).isSome = true
    · exact iff_of_true (answerOf_routed host hs ht hroute) (Or.inl hroute)
    · rw [answerOf_onLink_iff host hs ht (Option.not_isSome_iff_eq_none.mp hroute)]
      exact (or_iff_right hroute).symm
  refine ⟨hmain, fun hone => ?_⟩
  rw [hmain, cacheSays_eq_iff hone hbare]

/-- Two spellings of an address the cache does not have. -/
theorem spelling_of_an_unknown_address :
    answerOf (lookupMac twoLinks "fe80::2%eth0".toList false false).outcome
      = answerOf (lookupMac twoLinks "FE80:0::2%eth0".toList false false).outcome := by
  have hs : ipAddress "fe80::2%eth0".toList
      = some (.v6 ⟨BitVec.ofNat 128 0xfe800000000000000000000000000002, some "eth0".toList⟩) := by
    decide +kernel
  have ht : ipAddress "FE80:0::2%eth0".toList
      = some (.v6 ⟨BitVec.ofNat 128 0xfe800000000000000000000000000002, some "eth0".toList⟩) := by
    decide +kernel
  refine (spelling_matters_iff twoLinks hs ht).1.mpr (Or.inr ?_)
  have hnone : ∀ bare : Text, bare ≠ "fe80::1".toList →
      cacheSays twoLinks.cache (some "eth0".toList) bare = none := by
    intro bare hbare
    rw [cacheSays_eq_none_iff]
    intro e he
    rw [List.mem_singleton.mp he]
    exact hbare.symm
  show cacheSays twoLinks.cache (some "eth0".toList) _
    = cacheSays twoLinks.cache (some "eth0".toList) _
  rw [hnone _ (by decide +kernel), hnone _ (by decide +kernel)]

/-- The neighbour of `twoLinks` is unknown under its name in capitals. -/
theorem spelling_hides_a_neighbour :
    ipAddress "fe80::1%eth1".toList = ipAddress "FE80::1%eth1".toList ∧
      ∃ r u, (lookupMac twoLinks "fe80::1%eth1".toList false false).outcome = .ok r ∧
        (lookupMac twoLinks "FE80::1%eth1".toList false false).outcome = .ok u ∧
        r.scope = .DIRECT ∧ r.mac.isSome = true ∧ u.scope = .UNKNOWN ∧ u.mac = none := by
  have hs : ipAddress "fe80::1%eth1".toList
      = some (.v6 ⟨BitVec.ofNat 128 0xfe800000000000000000000000000001, some "eth1".toList⟩) := by
    decide +kernel
  have ht : ipAddress "FE80::1%eth1".toList
      = some (.v6 ⟨BitVec.ofNat 128 0xfe800000000000000000000000000001, some "eth1".toList⟩) := by
    decide +kernel
  have hsb : (splitZone "fe80::1%eth1".toList).address = "fe80::1".toList := by decide +kernel
  have htb : (splitZone "FE80::1%eth1".toList).address = "FE80::1".toList := by decide +kernel
  have hgateway : GatewayLiteral none := by
    intro _ _ h
    simp [routedVia] at h
  obtain ⟨r, hr, hra⟩ := cachedLookup_outcome twoLinks "fe80::1".toList (some "eth1".toList) hs
    hgateway
  obtain ⟨u, hu, hua⟩ := cachedLookup_outcome twoLinks "FE80::1".toList (some "eth1".toList) ht
    hgateway
  refine ⟨hs.trans ht.symm, r, u, ?_, ?_, by rw [hra]; rfl, by rw [hra]; rfl, by rw [hua]; rfl,
    by rw [hua]; rfl⟩
  · rw [lookupMac_passive hs, hsb]
    exact hr
  · rw [lookupMac_passive ht, htb]
    exact hu

end IPScout
