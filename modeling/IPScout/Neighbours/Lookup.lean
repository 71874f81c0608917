import IPScout.Net.Interfaces
import IPScout.Net.Mac
import IPScout.Routes.Message

/-!
# Looking a hardware address up

`lookup_mac` and `get_mac_address` of `neighbours.py`.  A lookup asks the routing
table whether the address is on-link or behind a router, and then answers from
the neighbour cache, or actively, or actively with the cache to fall back on.

The host is a parameter: its interface tables, its routes, its cache, and what an
active request for an address comes to.  The route backends pack the address
they are asked about, so a route is a function of the address.  The cache is what
`neighbours()` returns, whose entries all carry a hardware address.

A lookup is its outcome together with its effects in order, a request for an
address or a read of the cache, so that it can be said which source answered.
-/

namespace IPScout

open Base

/-! ### Records -/

/-- One entry of the neighbour cache. -/
structure Neighbour where
  ip : Text
  mac : Option Mac
  interface : Option Text
  family : AddressFamily
  bare : '%' ∉ ip
  literal : ∃ a, requireAddress ip family = .ok a

/-- What `neighbours()` returns: every entry has a learned hardware address. -/
structure NeighbourCache where
  entries : List Neighbour
  learned : ∀ e ∈ entries, e.mac.isSome = true

inductive MacScope
  | DIRECT
  | NEXT_HOP
  | UNKNOWN
  deriving DecidableEq

inductive MacMethod
  | CACHE
  | ACTIVE
  deriving DecidableEq

/-- What a `MacLookup` is built from. -/
structure MacAnswer where
  ip : Text
  mac : Option Mac
  scope : MacScope
  viaIp : Option Text
  interface : Option Text
  method : MacMethod
  deriving DecidableEq

namespace MacAnswer

/-- What `_fields_agree_with_scope` finds broken, and what it says about it. -/
def problems (m : MacAnswer) : List (Bool × Message) :=
  [(m.viaIp.isSome != (m.scope == .NEXT_HOP), [say "via_ip is set exactly when scope is NEXT_HOP"]),
    (m.scope == .DIRECT && m.mac.isNone,
      [say "a DIRECT answer carries the hardware address it found"]),
    (m.scope == .UNKNOWN && m.mac.isSome, [say "an UNKNOWN answer carries no hardware address"])]

/-- The literals of `ip` and `via_ip`, and `_fields_agree_with_scope`. -/
def check (m : MacAnswer) : Except PyError Unit := do
  let _ ← parseAddress m.ip
  match m.viaIp with
  | some via => let _ ← parseAddress via
  | none => pure ()
  match m.problems.find? (·.1) with
  | some (_, msg) => .error (.value msg)
  | none => .ok ()

end MacAnswer

/-- A hardware-address answer that states what it is an answer about. -/
structure MacLookup extends MacAnswer where
  fields_agree : toMacAnswer.check = .ok ()

/-- `MacLookup(...)`. -/
def MacLookup.make (m : MacAnswer) : Except PyError MacLookup :=
  match h : m.check with
  | .ok () => .ok ⟨m, h⟩
  | .error e => .error e

/-! ### The host -/

/-- What a lookup asks of its host. -/
structure Host where
  interfaces : Interfaces
  routes : IPAddress → Option RouteInfo
  cache : NeighbourCache
  resolveActive : Text → Except PyError (Option Mac)

/-- What a lookup does to the world outside it. -/
inductive Effect
  | asked (ip : Text)
  | readCache
  deriving DecidableEq

/-- The outcome of a call and its effects, in order. -/
structure Traced (α : Type) where
  effects : List Effect
  outcome : Except PyError α

/-- A call that ends before it does anything. -/
def Traced.refused {α : Type} (e : PyError) : Traced α := ⟨[], .error e⟩

/-! ### The lookups -/

/-- `_entry_for`: the entry for an address, the one learned on the interface first. -/
def entryFor (ip : Text) (entries : List Neighbour) (interface : Option Text) :
    Option Neighbour :=
  let named := entries.filter fun entry => entry.ip = ip
  match interface with
  | none => named.head?
  | some link => (named.find? fun entry => entry.interface = some link).or named.head?

/-- The router a route names; an empty gateway names none. -/
def RouteInfo.hop (route : RouteInfo) : Option Text := route.gateway.filter (· ≠ [])

/-- `route is not None and route.gateway`, with the route. -/
def routedVia (route : Option RouteInfo) : Option (RouteInfo × Text) :=
  route.bind fun r => r.hop.map fun gateway => (r, gateway)

/-- `_active_lookup`: ask whichever address actually carries the frame. -/
def activeLookup (host : Host) (ip : Text) (route : Option RouteInfo)
    (onInterface : Option Text) : Traced MacLookup :=
  match routedVia route with
  | some (r, gateway) =>
    { effects := [.asked gateway]
      outcome :=
        match host.resolveActive gateway with
        | .error e => .error e
        | .ok found => MacLookup.make ⟨ip, found, .NEXT_HOP, some gateway, r.interface, .ACTIVE⟩ }
  | none =>
    { effects := [.asked ip]
      outcome :=
        match host.resolveActive ip with
        | .error e => .error e
        | .ok found =>
          MacLookup.make
            ⟨ip, found, if found.isSome then .DIRECT else .UNKNOWN, none, onInterface, .ACTIVE⟩ }

/-- What `_cached_lookup` answers with the entries it read. -/
def cachedAnswer (entries : List Neighbour) (ip bare : Text) (route : Option RouteInfo)
    (onInterface : Option Text) : MacAnswer :=
  match routedVia route with
  | some (r, gateway) =>
    let hop := entryFor gateway entries r.interface
    { ip := ip
      mac := hop.bind Neighbour.mac
      scope := .NEXT_HOP
      viaIp := some gateway
      interface := hop.elim r.interface Neighbour.interface
      method := .CACHE }
  | none =>
    match entryFor bare entries onInterface with
    | some entry => ⟨ip, entry.mac, .DIRECT, none, entry.interface, .CACHE⟩
    | none => ⟨ip, none, .UNKNOWN, none, onInterface, .CACHE⟩

/-- `_cached_lookup`: answer from the neighbour cache. -/
def cachedLookup (host : Host) (ip bare : Text) (route : Option RouteInfo)
    (onInterface : Option Text) : Traced MacLookup where
  effects := [.readCache]
  outcome := MacLookup.make (cachedAnswer host.cache.entries ip bare route onInterface)

def cannotAskActively : PyError → Bool
  | .scout .IPScoutPermissionError _ => true
  | .scout .IPScoutUnsupportedError _ => true
  | _ => false

def askOrReadCache (ask readCache : Traced MacLookup) (fallBack : Bool) : Traced MacLookup :=
  if fallBack = false then ask
  else
    match ask.outcome with
    | .ok _ => ask
    | .error e =>
      if cannotAskActively e then ⟨ask.effects ++ readCache.effects, readCache.outcome⟩ else ask

/-- `_link_of`: the interface a zone names for a passive read, or the zone's text
when it names none. -/
def linkOf (env : Interfaces) (zone : Text) : Text :=
  match zoneInterface env zone with
  | .ok found => found.name
  | .error _ => zone

/-- `query_route`: the address is checked whole and looked up without its zone; a
backend has no route to a text it cannot pack. -/
def queryRoute (host : Host) (destination : Text) (family : AddressFamily) :
    Except PyError (Option RouteInfo) :=
  match requireAddress destination family with
  | .error e => .error e
  | .ok _ =>
    match requireAddress (splitZone destination).address family with
    | .error _ => .ok none
    | .ok packed => .ok (host.routes packed)

def lookupMac (host : Host) (ip : Text) (active fallbackToCache : Bool) : Traced MacLookup :=
  if fallbackToCache && !active then
    .refused (.value [say ("fallback_to_cache=True needs active=True: " ++
      "without an active ask there is nothing to fall back from")])
  else
    match parseAddress ip with
    | .error e => .refused e
    | .ok parsed =>
      let bare := (splitZone ip).address
      match queryRoute host bare parsed.family with
      | .error e => .refused e
      | .ok route =>
        if active = false then
          let onInterface :=
            match (splitZone ip).zone with
            | some zone => some (linkOf host.interfaces zone)
            | none => route.bind RouteInfo.interface
          cachedLookup host ip bare route onInterface
        else
          -- the zone is resolved before anything is sent
          match (splitZone ip).zone with
          | some zone =>
            match zoneInterface host.interfaces zone with
            | .error e => .refused e
            | .ok found =>
              askOrReadCache (activeLookup host ip route (some found.name))
                (cachedLookup host ip bare route (some found.name)) fallbackToCache
          | none =>
            askOrReadCache (activeLookup host ip route (route.bind RouteInfo.interface))
              (cachedLookup host ip bare route (route.bind RouteInfo.interface)) fallbackToCache

def getMacAddress (host : Host) (ip : Text) (active fallbackToCache : Bool) :
    Except PyError (Option Mac) :=
  match (lookupMac host ip active fallbackToCache).outcome with
  | .error e => .error e
  | .ok answer => .ok (if answer.scope = .DIRECT then answer.mac else none)

/-! ### What a record is built from is valid -/

theorem MacLookup.make_ok {m : MacAnswer} (h : m.check = .ok ()) :
    MacLookup.make m = .ok ⟨m, h⟩ := by
  unfold MacLookup.make
  split
  · rfl
  · next e he =>
    rw [h] at he
    simp at he

theorem MacAnswer.check_ok {m : MacAnswer} {a : IPAddress} (hip : ipAddress m.ip = some a)
    (hvia : ∀ via, m.viaIp = some via → ∃ b, ipAddress via = some b)
    (hproblems : m.problems.find? (·.1) = none) : m.check = .ok () := by
  rw [MacAnswer.check, parseAddress_eq_ok.mpr hip]
  cases hv : m.viaIp with
  | none => simp [hproblems, bind, Except.bind]
  | some via =>
    obtain ⟨b, hb⟩ := hvia via hv
    simp [parseAddress_eq_ok.mpr hb, hproblems, bind, Except.bind]

/-- A route's gateway, where it names one, is an address literal. -/
def GatewayLiteral (route : Option RouteInfo) : Prop :=
  ∀ r gateway, routedVia route = some (r, gateway) → ∃ b, ipAddress gateway = some b

theorem mem_of_entryFor {ip : Text} {entries : List Neighbour} {interface : Option Text}
    {e : Neighbour} (h : entryFor ip entries interface = some e) : e ∈ entries ∧ e.ip = ip := by
  have hnamed : e ∈ entries.filter fun entry => entry.ip = ip := by
    unfold entryFor at h
    cases interface with
    | none => exact List.mem_of_mem_head? h
    | some link =>
      dsimp only at h
      rcases Option.or_eq_some_iff.mp h with h | ⟨_, h⟩
      · exact List.mem_of_find?_eq_some h
      · exact List.mem_of_mem_head? h
  obtain ⟨hmem, hip⟩ := List.mem_filter.mp hnamed
  exact ⟨hmem, by simpa using hip⟩

/-- **What the cache answers is always a valid record.** -/
theorem cachedAnswer_check {cache : NeighbourCache} {ip bare : Text} {route : Option RouteInfo}
    {onInterface : Option Text} {a : IPAddress} (hip : ipAddress ip = some a)
    (hgateway : GatewayLiteral route) :
    (cachedAnswer cache.entries ip bare route onInterface).check = .ok () := by
  cases hroute : routedVia route with
  | some found =>
    obtain ⟨r, gateway⟩ := found
    rw [cachedAnswer, hroute]
    refine MacAnswer.check_ok hip ?_ ?_
    · rintro via hvia
      rw [← Option.some.inj hvia]
      exact hgateway r gateway hroute
    · rfl
  | none =>
    cases hentry : entryFor bare cache.entries onInterface with
    | none =>
      rw [cachedAnswer, hroute]
      simp only [hentry]
      exact MacAnswer.check_ok hip (by simp) rfl
    | some e =>
      have hmac := cache.learned e (mem_of_entryFor hentry).1
      rw [cachedAnswer, hroute]
      simp only [hentry]
      apply MacAnswer.check_ok hip (by simp)
      cases hm : e.mac with
      | none =>
        rw [hm] at hmac
        simp at hmac
      | some mac => rfl

theorem cachedLookup_outcome (host : Host) {ip : Text} (bare : Text) {route : Option RouteInfo}
    (onInterface : Option Text) {a : IPAddress} (hip : ipAddress ip = some a)
    (hgateway : GatewayLiteral route) :
    ∃ r, (cachedLookup host ip bare route onInterface).outcome = .ok r ∧
      r.toMacAnswer = cachedAnswer host.cache.entries ip bare route onInterface :=
  ⟨_, MacLookup.make_ok (cachedAnswer_check hip hgateway), rfl⟩

/-! ### Which route a lookup takes -/

theorem IPAddress.family_bare (a : IPAddress) : a.bare.family = a.family := by
  cases a <;> rfl

theorem IPAddress.bare_bare (a : IPAddress) : a.bare.bare = a.bare := by
  cases a <;> rfl

/-- **A literal is looked up under its own address**, whatever its zone. -/
theorem queryRoute_eq {host : Host} {ip : Text} {a : IPAddress} (h : ipAddress ip = some a) :
    queryRoute host (splitZone ip).address a.family = .ok (host.routes a.bare) := by
  have hbare := (splitZone_of_ipAddress h).1
  have hagain := (splitZone_of_ipAddress hbare).1
  rw [IPAddress.bare_bare] at hagain
  have hone := requireAddress_eq_ok hbare
  have htwo := requireAddress_eq_ok hagain
  rw [IPAddress.family_bare] at hone htwo
  rw [queryRoute, hone, htwo]

def passiveInterface (host : Host) (a : IPAddress) : Option Text :=
  match a.zone with
  | some zone => some (linkOf host.interfaces zone)
  | none => (host.routes a.bare).bind RouteInfo.interface

theorem lookupMac_passive {host : Host} {ip : Text} {a : IPAddress} (h : ipAddress ip = some a) :
    lookupMac host ip false false
      = cachedLookup host ip (splitZone ip).address (host.routes a.bare)
          (passiveInterface host a) := by
  rw [lookupMac, if_neg (by decide), parseAddress_eq_ok.mpr h]
  simp only [queryRoute_eq h, (splitZone_of_ipAddress h).2, passiveInterface, if_true]

theorem lookupMac_active {host : Host} {ip : Text} {a : IPAddress} {fallbackToCache : Bool}
    (h : ipAddress ip = some a) : lookupMac host ip true fallbackToCache
      = match a.zone.map (zoneInterface host.interfaces) with
        | some (.error e) => .refused e
        | some (.ok found) =>
          askOrReadCache (activeLookup host ip (host.routes a.bare) (some found.name))
            (cachedLookup host ip (splitZone ip).address (host.routes a.bare) (some found.name))
            fallbackToCache
        | none =>
          let link := (host.routes a.bare).bind RouteInfo.interface
          askOrReadCache (activeLookup host ip (host.routes a.bare) link)
            (cachedLookup host ip (splitZone ip).address (host.routes a.bare) link)
            fallbackToCache := by
  rw [lookupMac, parseAddress_eq_ok.mpr h]
  simp only [Bool.not_true, Bool.and_false, Bool.false_eq_true, if_false, queryRoute_eq h,
    (splitZone_of_ipAddress h).2, reduceCtorEq]
  cases a.zone with
  | none => rfl
  | some zone =>
    simp only [Option.map_some]
    cases zoneInterface host.interfaces zone <;> rfl

end IPScout
