import IPScout.Neighbours.Zone

/-!
# What a lookup answers, and from where

A lookup of a literal ends in one of five ways (`LookupCase`, `lookupMac_cases`):
answered from the cache, stopped by a zone that names no interface, answered by
the request, answered from the cache because the request could not be made, or
ended by the request's own error.  The record it builds is always valid, so no
other error is raised.

What the API promises is read from these cases (`lookup_is_truthful`): whose
hardware address is reported, which source answered, and when the cache is read.
-/

namespace IPScout

open Base

/-! ### The five ways a lookup ends -/

/-- The address a request for a frame's hardware address goes to. -/
def askedAddress (ip : Text) (route : Option RouteInfo) : Text :=
  match routedVia route with
  | some (_, gateway) => gateway
  | none => ip

/-- What `_active_lookup` answers with the address found. -/
def activeAnswer (ip : Text) (route : Option RouteInfo) (link : Option Text) (found : Option Mac) :
    MacAnswer :=
  match routedVia route with
  | some (r, gateway) => ⟨ip, found, .NEXT_HOP, some gateway, r.interface, .ACTIVE⟩
  | none => ⟨ip, found, if found.isSome then .DIRECT else .UNKNOWN, none, link, .ACTIVE⟩

theorem activeLookup_eq (host : Host) (ip : Text) (route : Option RouteInfo) (link : Option Text) :
    activeLookup host ip route link =
      { effects := [.asked (askedAddress ip route)]
        outcome :=
          match host.resolveActive (askedAddress ip route) with
          | .error e => .error e
          | .ok found => MacLookup.make (activeAnswer ip route link found) } := by
  rw [activeLookup, askedAddress]
  unfold activeAnswer
  cases routedVia route <;> rfl

/-- **What an active request answers is always a valid record.** -/
theorem activeAnswer_check {ip : Text} {route : Option RouteInfo} {link : Option Text}
    {found : Option Mac} {a : IPAddress} (hip : ipAddress ip = some a)
    (hgateway : GatewayLiteral route) : (activeAnswer ip route link found).check = .ok () := by
  rw [activeAnswer]
  cases hroute : routedVia route with
  | some via =>
    obtain ⟨r, gateway⟩ := via
    refine MacAnswer.check_ok hip ?_ rfl
    intro via hvia
    rw [← Option.some.inj hvia]
    exact hgateway r gateway hroute
  | none =>
    apply MacAnswer.check_ok hip (by simp)
    cases found <;> rfl

/-- How a lookup of a literal ends. -/
inductive LookupCase (host : Host) (ip : Text) (a : IPAddress) (active fallbackToCache : Bool) :
    Traced MacLookup → Prop
  | cached {r : MacLookup} {link : Option Text} : active = false →
      r.toMacAnswer = cachedAnswer host.cache.entries ip (splitZone ip).address
        (host.routes a.bare) link →
      LookupCase host ip a active fallbackToCache ⟨[.readCache], .ok r⟩
  | noZone {zone : Text} {e : PyError} : active = true → a.zone = some zone →
      zoneInterface host.interfaces zone = .error e →
      LookupCase host ip a active fallbackToCache ⟨[], .error e⟩
  | answered {r : MacLookup} {link : Option Text} {found : Option Mac} : active = true →
      host.resolveActive (askedAddress ip (host.routes a.bare)) = .ok found →
      r.toMacAnswer = activeAnswer ip (host.routes a.bare) link found →
      LookupCase host ip a active fallbackToCache
        ⟨[.asked (askedAddress ip (host.routes a.bare))], .ok r⟩
  | fellBack {r : MacLookup} {link : Option Text} {e : PyError} : active = true →
      fallbackToCache = true →
      host.resolveActive (askedAddress ip (host.routes a.bare)) = .error e →
      cannotAskActively e = true →
      r.toMacAnswer = cachedAnswer host.cache.entries ip (splitZone ip).address
        (host.routes a.bare) link →
      LookupCase host ip a active fallbackToCache
        ⟨[.asked (askedAddress ip (host.routes a.bare)), .readCache], .ok r⟩
  | failed {e : PyError} : active = true →
      host.resolveActive (askedAddress ip (host.routes a.bare)) = .error e →
      (fallbackToCache && cannotAskActively e) = false →
      LookupCase host ip a active fallbackToCache
        ⟨[.asked (askedAddress ip (host.routes a.bare))], .error e⟩

theorem askOrReadCache_cases {host : Host} {ip : Text} {a : IPAddress} {fallbackToCache : Bool}
    {link : Option Text} (h : ipAddress ip = some a)
    (hgateway : GatewayLiteral (host.routes a.bare)) :
    LookupCase host ip a true fallbackToCache
      (askOrReadCache (activeLookup host ip (host.routes a.bare) link)
        (cachedLookup host ip (splitZone ip).address (host.routes a.bare) link)
        fallbackToCache) := by
  rw [activeLookup_eq]
  cases hask : host.resolveActive (askedAddress ip (host.routes a.bare)) with
  | ok found =>
    rw [askOrReadCache]
    dsimp only
    rw [MacLookup.make_ok (activeAnswer_check h hgateway), ite_self]
    exact .answered rfl hask rfl
  | error e =>
    cases fallbackToCache with
    | false => exact .failed rfl hask (Bool.false_and _)
    | true =>
      cases hcannot : cannotAskActively e with
      | false =>
        rw [askOrReadCache, if_neg (by decide)]
        dsimp only
        rw [if_neg (by rw [hcannot]; decide)]
        exact .failed rfl hask hcannot
      | true =>
        obtain ⟨r, hr, hans⟩ := cachedLookup_outcome host (splitZone ip).address link h hgateway
        rw [askOrReadCache, if_neg (by decide)]
        dsimp only
        rw [if_pos hcannot, hr]
        exact .fellBack rfl rfl hask hcannot hans

/-- **Every accepted lookup of a literal ends in one of the five ways.** -/
theorem lookupMac_cases {host : Host} {ip : Text} {a : IPAddress} {active fallbackToCache : Bool}
    (h : ipAddress ip = some a) (hgateway : GatewayLiteral (host.routes a.bare))
    (haccepted : fallbackToCache = true → active = true) :
    LookupCase host ip a active fallbackToCache (lookupMac host ip active fallbackToCache) := by
  cases active with
  | false =>
    cases fallbackToCache with
    | true => exact absurd (haccepted rfl) (by decide)
    | false =>
      rw [lookupMac_passive h]
      obtain ⟨r, hr, hans⟩ := cachedLookup_outcome host (splitZone ip).address
        (passiveInterface host a) h hgateway
      have hcached : cachedLookup host ip (splitZone ip).address (host.routes a.bare)
          (passiveInterface host a) = ⟨[.readCache], .ok r⟩ := by
        rw [← hr]
        rfl
      rw [hcached]
      exact .cached rfl hans
  | true =>
    rw [lookupMac_active h]
    cases hzone : a.zone with
    | none => exact askOrReadCache_cases h hgateway
    | some zone =>
      rw [Option.map_some]
      cases hfound : zoneInterface host.interfaces zone with
      | error e => exact .noZone rfl hzone hfound
      | ok found => exact askOrReadCache_cases h hgateway

/-! ### What each source answers -/

theorem cachedAnswer_scope {cache : NeighbourCache} {ip bare : Text} {route : Option RouteInfo}
    {link : Option Text} :
    ((cachedAnswer cache.entries ip bare route link).scope = .NEXT_HOP ↔
      (routedVia route).isSome = true) ∧
    (cachedAnswer cache.entries ip bare route link).viaIp = (routedVia route).map Prod.snd ∧
    (cachedAnswer cache.entries ip bare route link).method = .CACHE := by
  rw [cachedAnswer]
  cases routedVia route with
  | some found => exact ⟨iff_of_true rfl rfl, rfl, rfl⟩
  | none =>
    cases entryFor bare cache.entries link with
    | none => exact ⟨by simp, rfl, rfl⟩
    | some e => exact ⟨by simp, rfl, rfl⟩

theorem mem_of_cachedAnswer {cache : NeighbourCache} {ip bare : Text} {route : Option RouteInfo}
    {link : Option Text} {mac : Mac}
    (h : (cachedAnswer cache.entries ip bare route link).mac = some mac) :
    ∃ e ∈ cache.entries, e.mac = some mac := by
  rw [cachedAnswer] at h
  cases hroute : routedVia route with
  | some found =>
    rw [hroute] at h
    obtain ⟨e, he, hmac⟩ := Option.bind_eq_some_iff.mp h
    exact ⟨e, (mem_of_entryFor he).1, hmac⟩
  | none =>
    rw [hroute] at h
    cases hentry : entryFor bare cache.entries link with
    | none =>
      simp only [hentry] at h
      simp at h
    | some e =>
      simp only [hentry] at h
      exact ⟨e, (mem_of_entryFor hentry).1, h⟩

theorem activeAnswer_scope {ip : Text} {route : Option RouteInfo} {link : Option Text}
    {found : Option Mac} :
    ((activeAnswer ip route link found).scope = .NEXT_HOP ↔ (routedVia route).isSome = true) ∧
    (activeAnswer ip route link found).viaIp = (routedVia route).map Prod.snd ∧
    (activeAnswer ip route link found).method = .ACTIVE ∧
    (activeAnswer ip route link found).mac = found := by
  rw [activeAnswer]
  cases routedVia route with
  | some via => exact ⟨iff_of_true rfl rfl, rfl, rfl, rfl⟩
  | none => cases found <;> exact ⟨by simp, rfl, rfl, rfl⟩

/-! ### The promises -/

/-- The answer is the router's exactly when the route names one, and names it. -/
def NamesTheRouter (route : Option RouteInfo) (r : MacLookup) : Prop :=
  (r.scope = .NEXT_HOP ↔ (routedVia route).isSome = true) ∧ r.viaIp = (routedVia route).map Prod.snd

/-- `method` says which source answered, and the hardware address is that source's. -/
def SaysTheSource (host : Host) (asked : Text) (effects : List Effect) (r : MacLookup) : Prop :=
  (r.method = .CACHE ↔ .readCache ∈ effects) ∧
  (r.method = .ACTIVE → host.resolveActive asked = .ok r.mac) ∧
  (r.method = .CACHE → ∀ mac, r.mac = some mac → ∃ e ∈ host.cache.entries, e.mac = some mac)

theorem namesTheRouter_of_outcome {host : Host} {ip : Text} {a : IPAddress}
    {active fallbackToCache : Bool} {t : Traced MacLookup} {r : MacLookup}
    (h : LookupCase host ip a active fallbackToCache t) (hr : t.outcome = .ok r) :
    NamesTheRouter (host.routes a.bare) r := by
  cases h with
  | cached _ hans =>
    rw [← Except.ok.inj hr, NamesTheRouter, hans]
    exact ⟨cachedAnswer_scope.1, cachedAnswer_scope.2.1⟩
  | noZone _ _ _ => simp at hr
  | answered _ _ hans =>
    rw [← Except.ok.inj hr, NamesTheRouter, hans]
    exact ⟨activeAnswer_scope.1, activeAnswer_scope.2.1⟩
  | fellBack _ _ _ _ hans =>
    rw [← Except.ok.inj hr, NamesTheRouter, hans]
    exact ⟨cachedAnswer_scope.1, cachedAnswer_scope.2.1⟩
  | failed _ _ _ => simp at hr

theorem saysTheSource_of_outcome {host : Host} {ip : Text} {a : IPAddress}
    {active fallbackToCache : Bool} {t : Traced MacLookup} {r : MacLookup}
    (h : LookupCase host ip a active fallbackToCache t) (hr : t.outcome = .ok r) :
    SaysTheSource host (askedAddress ip (host.routes a.bare)) t.effects r := by
  cases h with
  | cached _ hans =>
    rw [← Except.ok.inj hr, SaysTheSource, hans, cachedAnswer_scope.2.2]
    exact ⟨by simp, by simp, fun _ _ hmac => mem_of_cachedAnswer hmac⟩
  | noZone _ _ _ => simp at hr
  | answered _ hask hans =>
    rw [← Except.ok.inj hr, SaysTheSource, hans, activeAnswer_scope.2.2.1, activeAnswer_scope.2.2.2]
    exact ⟨by simp, fun _ => hask, by simp⟩
  | fellBack _ _ _ _ hans =>
    rw [← Except.ok.inj hr, SaysTheSource, hans, cachedAnswer_scope.2.2]
    exact ⟨by simp, by simp, fun _ _ hmac => mem_of_cachedAnswer hmac⟩
  | failed _ _ _ => simp at hr

/-- **An address handed out by `get_mac_address` is never the router's.** -/
theorem routedVia_of_getMacAddress {host : Host} {ip : Text} {a : IPAddress}
    {active fallbackToCache : Bool} {mac : Mac}
    (h : LookupCase host ip a active fallbackToCache (lookupMac host ip active fallbackToCache))
    (hget : getMacAddress host ip active fallbackToCache = .ok (some mac)) :
    routedVia (host.routes a.bare) = none := by
  rw [getMacAddress] at hget
  cases hout : (lookupMac host ip active fallbackToCache).outcome with
  | error e =>
    rw [hout] at hget
    simp at hget
  | ok r =>
    rw [hout] at hget
    have hscope := (namesTheRouter_of_outcome h hout).1
    by_cases hdirect : r.scope = .DIRECT
    · rw [hdirect] at hscope
      cases hroute : routedVia (host.routes a.bare) with
      | none => rfl
      | some via =>
        rw [hroute] at hscope
        exact MacScope.noConfusion (hscope.mpr rfl)
    · simp [hdirect] at hget

section Cases

variable {host : Host} {ip : Text} {a : IPAddress} {active fallbackToCache : Bool}
  {t : Traced MacLookup}

/-- An active lookup reads the cache only after a request that could not be made. -/
theorem LookupCase.of_readCache (h : LookupCase host ip a active fallbackToCache t)
    (hactive : active = true) (hread : .readCache ∈ t.effects) : fallbackToCache = true ∧
      ∃ e, host.resolveActive (askedAddress ip (host.routes a.bare)) = .error e ∧
        cannotAskActively e = true := by
  cases h with
  | cached hpassive _ =>
    rw [hactive] at hpassive
    simp at hpassive
  | noZone _ _ _ => simp at hread
  | answered _ _ _ => simp at hread
  | fellBack _ hfall hask hcannot _ => exact ⟨hfall, _, hask, hcannot⟩
  | failed _ _ _ => simp at hread

/-- A request nobody answered is the lookup's answer. -/
theorem LookupCase.of_miss (h : LookupCase host ip a active fallbackToCache t)
    (hasked : .asked (askedAddress ip (host.routes a.bare)) ∈ t.effects)
    (hmiss : host.resolveActive (askedAddress ip (host.routes a.bare)) = .ok none) :
    ∃ r, t.outcome = .ok r ∧ r.mac = none ∧ r.method = .ACTIVE := by
  cases h with
  | cached _ _ => simp at hasked
  | noZone _ _ _ => simp at hasked
  | answered _ hask hans =>
    rw [hmiss, Except.ok.injEq] at hask
    refine ⟨_, rfl, ?_, ?_⟩
    · rw [hans, activeAnswer_scope.2.2.2, hask]
    · rw [hans, activeAnswer_scope.2.2.1]
  | fellBack _ _ hask _ _ =>
    rw [hmiss] at hask
    simp at hask
  | failed _ hask _ =>
    rw [hmiss] at hask
    simp at hask

/-- An error of the request that no fallback covers is the lookup's error. -/
theorem LookupCase.of_error (h : LookupCase host ip a active fallbackToCache t) {e : PyError}
    (hasked : .asked (askedAddress ip (host.routes a.bare)) ∈ t.effects)
    (herror : host.resolveActive (askedAddress ip (host.routes a.bare)) = .error e)
    (hpropagates : (fallbackToCache && cannotAskActively e) = false) : t.outcome = .error e := by
  cases h with
  | cached _ _ => simp at hasked
  | noZone _ _ _ => simp at hasked
  | answered _ hask _ =>
    rw [herror] at hask
    simp at hask
  | fellBack _ hfall hask hcannot _ =>
    rw [herror, Except.error.injEq] at hask
    subst hask
    rw [hfall, hcannot] at hpropagates
    simp at hpropagates
  | failed _ hask _ =>
    rw [herror, Except.error.injEq] at hask
    rw [hask]

/-- **No lookup's record is refused**: its errors are the zone's and the request's. -/
theorem LookupCase.outcome_error (h : LookupCase host ip a active fallbackToCache t) {e : PyError}
    (herror : t.outcome = .error e) : active = true ∧
      ((∃ zone, a.zone = some zone ∧ zoneInterface host.interfaces zone = .error e) ∨
        host.resolveActive (askedAddress ip (host.routes a.bare)) = .error e) := by
  cases h with
  | cached _ _ => simp at herror
  | noZone hactive hzone hfound =>
    rw [← Except.error.inj herror]
    exact ⟨hactive, Or.inl ⟨_, hzone, hfound⟩⟩
  | answered _ _ _ => simp at herror
  | fellBack _ _ _ _ _ => simp at herror
  | failed hactive hask _ =>
    rw [← Except.error.inj herror]
    exact ⟨hactive, Or.inr hask⟩

end Cases

/-- **A lookup answers truthfully.**  For every route, cache, outcome of the request
and accepted choice of the two flags: `get_mac_address` gives an address only
without a gateway; the answer is the router's exactly when the route names one; the
cache is read by an active lookup only when the request could not be made and the
caller allowed it, a miss stays a miss, and every other error is the lookup's;
`method` says which source answered; and the record is never refused. -/
theorem lookup_is_truthful (host : Host) {ip : Text} {a : IPAddress}
    (active fallbackToCache : Bool) (h : ipAddress ip = some a)
    (hgateway : GatewayLiteral (host.routes a.bare))
    (haccepted : fallbackToCache = true → active = true) :
    let lookup := lookupMac host ip active fallbackToCache
    let asked := askedAddress ip (host.routes a.bare)
    (∀ mac, getMacAddress host ip active fallbackToCache = .ok (some mac) →
      routedVia (host.routes a.bare) = none) ∧
    (∀ r, lookup.outcome = .ok r →
      NamesTheRouter (host.routes a.bare) r ∧ SaysTheSource host asked lookup.effects r) ∧
    (active = true → .readCache ∈ lookup.effects → fallbackToCache = true ∧
      ∃ e, host.resolveActive asked = .error e ∧ cannotAskActively e = true) ∧
    (.asked asked ∈ lookup.effects → host.resolveActive asked = .ok none →
      ∃ r, lookup.outcome = .ok r ∧ r.mac = none ∧ r.method = .ACTIVE) ∧
    (∀ e, .asked asked ∈ lookup.effects → host.resolveActive asked = .error e →
      (fallbackToCache && cannotAskActively e) = false → lookup.outcome = .error e) ∧
    (∀ e, lookup.outcome = .error e → active = true ∧
      ((∃ zone, a.zone = some zone ∧ zoneInterface host.interfaces zone = .error e) ∨
        host.resolveActive asked = .error e)) := by
  intro lookup asked
  have hcase := lookupMac_cases h hgateway haccepted
  exact ⟨fun mac hget => routedVia_of_getMacAddress hcase hget,
    fun r hr => ⟨namesTheRouter_of_outcome hcase hr, saysTheSource_of_outcome hcase hr⟩,
    hcase.of_readCache, hcase.of_miss, fun _ => hcase.of_error, fun _ => hcase.outcome_error⟩

/-- On a host that may not send requests, an active lookup with the fallback reads
the cache and says so. -/
theorem lookup_falls_back_on_two_links :
    ∃ r, (lookupMac twoLinks "fe80::1%eth1".toList true true).outcome = .ok r ∧
      r.method = .CACHE ∧ NamesTheRouter none r := by
  have hip : ipAddress "fe80::1%eth1".toList
      = some (.v6 ⟨BitVec.ofNat 128 0xfe800000000000000000000000000001, some "eth1".toList⟩) := by
    decide +kernel
  have hgateway : GatewayLiteral none := by
    intro _ _ h
    simp [routedVia] at h
  obtain ⟨_, hanswers, _⟩ := lookup_is_truthful twoLinks true true hip hgateway (fun _ => rfl)
  have heffects : (lookupMac twoLinks "fe80::1%eth1".toList true true).effects
      = [.asked "fe80::1%eth1".toList, .readCache] := by decide +kernel
  cases hout : (lookupMac twoLinks "fe80::1%eth1".toList true true).outcome with
  | ok r =>
    obtain ⟨hrouter, hsource⟩ := hanswers r hout
    exact ⟨r, rfl, hsource.1.mpr (by rw [heffects]; simp), hrouter⟩
  | error e =>
    have hok : (lookupMac twoLinks "fe80::1%eth1".toList true true).outcome.isOk = true := by
      decide +kernel
    rw [hout] at hok
    simp [Except.isOk, Except.toBool] at hok

end IPScout
