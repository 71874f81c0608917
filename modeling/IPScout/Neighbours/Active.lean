import IPScout.Interfaces.Listing
import IPScout.Neighbours.Asking

/-!
# Resolving an address actively

`resolve_active` of `neighbours.py` on Linux and macOS: the address is read, the zone or the
route names the interface to ask on, the listing supplies the addresses to ask from, and the
resolver of the platform asks.

A sender that is chosen can be written into a request (`exists_request`), so whatever the system
does, what goes out asks about the address that was named, on the interface the zone or the
route names and from its addresses; a hardware address is one that an answer about that address
gives; and there is no error but those the library documents (`resolveActive_asks`).
-/

namespace IPScout

open Base Base.Octets Base.Text Base.Exchange

/-! ### The host -/

/-- What an active resolution asks of its host before it asks the network. -/
structure ActiveHost where
  interfaces : Interfaces
  /-- The route of a bare address, as the backend of the platform reports it. -/
  routes : IPAddress → Option RouteInfo
  /-- What `local_interfaces()` returns. -/
  listed : List Listing.Interface

/-- `query_route`, of an address without a zone. -/
def ActiveHost.queryRoute (host : ActiveHost) (ip : Text) (family : AddressFamily) :
    Except PyError (Option RouteInfo) := do
  let address ← requireAddress ip family
  .ok (host.routes address)

/-! ### The sender -/

structure SendingInterface where
  interface : Text
  sourceIp : Text
  sourceMac : Text

def unsupported (msg : Message) : PyError := .scout .IPScoutUnsupportedError msg

/-- The source address of a request: that of the route, or the first one of the interface. -/
def sourceAddress (route : Option RouteInfo) (candidate : Listing.Interface) : Option Text :=
  ((route.bind RouteInfo.source).filter (· ≠ [])).or
    (candidate.ipv4.head?.map Subnets.InterfaceAddress.address)

/-- What is made of the interface that was named. -/
def senderOf (candidate : Listing.Interface) (route : Option RouteInfo) (family : AddressFamily) :
    Except PyError SendingInterface :=
  match candidate.mac.filter (· ≠ []) with
  | none => .error (unsupported [.text candidate.name,
      say " has no hardware address, so it cannot carry an address-resolution request"])
  | some mac =>
    if normaliseMac mac = none then
      .error (unsupported [.text candidate.name, say " has a non-Ethernet hardware address (",
        .text mac, say "), so it cannot carry this address-resolution request"])
    else if family = .IPV4 ∧ sourceAddress route candidate = none then
      .error (unsupported [.text candidate.name, say " has no IPv4 address to send from"])
    else .ok ⟨candidate.name, (sourceAddress route candidate).getD "0.0.0.0".toList, mac⟩

/-- The interface that is named, and the route if it was asked. -/
def namedInterface (host : ActiveHost) (ip : Text) (family : AddressFamily) :
    Option Text → Except PyError (Option RouteInfo × Option Text)
  | some zone => do
    let found ← zoneInterface host.interfaces zone
    .ok (none, some found.name)
  | none => do
    let route ← host.queryRoute ip family
    .ok (route, route.bind RouteInfo.interface)

def sendingInterface (host : ActiveHost) (ip : Text) (family : AddressFamily)
    (zone : Option Text) : Except PyError SendingInterface := do
  let (route, named) ← namedInterface host ip family zone
  match named with
  | none => .error (unsupported [say "no route to ", .text ip,
      say ", so no interface to send a resolution request on"])
  | some name =>
    match host.listed.find? fun candidate => candidate.name = name with
    | some candidate => senderOf candidate route family
    | none => .error (unsupported [say "the route to ", .text ip, say " names interface ",
        .quoted name, say ", which is not among this host's interfaces"])

/-! ### The resolution -/

/-- The platforms that ask over a socket or a device of their own. -/
inductive PosixPlatform
  | linux
  | macos

/-- The resolver of a platform and a family. -/
def PosixPlatform.resolve (platform : PosixPlatform) (python : PythonVersion)
    (family : AddressFamily) (r : Resolution) : Asking (Option Text) :=
  match platform, family with
  | .linux, .IPV4 => NeighboursLinux.resolveActiveIpv4 r
  | .linux, .IPV6 => NeighboursLinux.resolveActiveIpv6 python r
  | .macos, .IPV4 => NeighboursMacos.resolveActiveIpv4 r
  | .macos, .IPV6 => NeighboursMacos.resolveActiveIpv6 python r

/-- `refused_arguments`, of an `ip` that is no literal. -/
def refusedIp : PyError → PyError
  | .value reason => .value (say "active resolution refused its arguments: ip: " :: reason)
  | other => other

/-- `resolve_active`; the timeout is one that is accepted. -/
def resolveActive (platform : PosixPlatform) (python : PythonVersion) (host : ActiveHost)
    (ip : Text) (timeout : ℚ) : Asking (Option Text) :=
  match parseAddress ip with
  | .error e => .done (.error (refusedIp e))
  | .ok address =>
    let named := splitZone (address.compressed python)
    Exchange.andThen
      (pureAsking (sendingInterface host named.address address.family named.zone)) fun sender =>
    platform.resolve python address.family
      ⟨named.address, sender.interface, sender.sourceIp, sender.sourceMac, timeout⟩

/-! ### What it is for -/

/-- The route that was asked for: an address with a zone is not routed. -/
def routeOf (host : ActiveHost) (a : IPAddress) : Option RouteInfo :=
  if a.zone = none then host.routes a else none

/-- The interface a request goes out on is named by the zone, or by the route; it is asked from
its hardware address, and from the source of the route or else its first IPv4 address. -/
structure Chosen (host : ActiveHost) (a : IPAddress) (sender : SendingInterface) : Prop where
  zoned : ∀ zone, a.zone = some zone →
    ∃ found, zoneInterface host.interfaces zone = .ok found ∧ found.name = sender.interface
  routed : a.zone = none →
    ∃ route, host.routes a = some route ∧ route.interface = some sender.interface
  listed : ∃ candidate ∈ host.listed, candidate.name = sender.interface ∧
    candidate.mac = some sender.sourceMac ∧
    (a.family = .IPV4 → sourceAddress (routeOf host a) candidate = some sender.sourceIp)

def solicitation (target raw : Octets) : Octets :=
  packedNat 1 ICMPV6_NEIGHBOUR_SOLICITATION ++ List.replicate 7 0 ++ target ++
    (packedNat 1 ND_OPT_SOURCE_LINK_ADDRESS ++ packedNat 1 1 ++ raw)

/-- A request for an address, from a sender. -/
def IsRequest (sender : SendingInterface) (a : IPAddress) (request : Octets) : Prop :=
  ∃ raw, WritesMac sender.sourceMac raw ∧
    match a.family with
    | .IPV4 => ∃ source, requireAddress sender.sourceIp .IPV4 = .ok source ∧
        request = arpFrame BROADCAST raw ARP_REQUEST
          ⟨raw, source.packed, List.replicate MAC_LENGTH 0, a.packed⟩
    | .IPV6 => request = solicitation a.packed raw

/-- An answer about an address that gives a hardware address. -/
def AnswersFor (a : IPAddress) (frame : Octets) (mac : Text) : Prop :=
  match a.family with
  | .IPV4 => ∃ (dst src rest : Octets) (b : ArpAddresses), dst.length = MAC_LENGTH ∧
      src.length = MAC_LENGTH ∧ b.Sized ∧ frame = arpFrame dst src ARP_REPLY b ++ rest ∧
      b.senderIp = a.packed ∧ formatMac b.senderMac = some mac
  | .IPV6 => NA_HEADER ≤ frame.length ∧ octet frame 0 = ICMPV6_NEIGHBOUR_ADVERTISEMENT ∧
      slice frame 8 24 = a.packed ∧ linkOption (frame.drop NA_HEADER) = some mac

/-! ### The text of an address -/

theorem notMem_ipv6Str {c : Char} (hc : hexDigit c = none) (hdigit : c.isDigit = false)
    (hcolon : c ≠ ':') (hdot : c ≠ '.') (python : PythonVersion) (ip : BitVec 128) :
    c ∉ ipv6Str python ip := by
  cases python with
  | before313 => exact notMem_ipv6Text hc hcolon ip
  | since313 =>
    rw [ipv6Str]
    split
    · rw [List.mem_append, List.mem_cons]
      rintro (hmem | hmem | hmem)
      · exact notMem_ipv6Text hc hcolon _ hmem
      · exact hcolon hmem
      · exact notMem_inetNtoa hdigit hdot _ hmem
    · exact notMem_ipv6Text hc hcolon ip

/-- **Every address reads back from its `str`.** -/
theorem ipAddress_compressed (python : PythonVersion) (a : IPAddress)
    (hzone : ∀ zone, a.zone = some zone → IsZone zone) :
    ipAddress (a.compressed python) = some a := by
  cases a with
  | v4 ip => exact ipAddress_text (.v4 ip) hzone
  | v6 a =>
    obtain ⟨ip, scope⟩ := a
    have hbits := ipv6Bits_ipv6Str python ip
    have hpct : '%' ∉ ipv6Str python ip :=
      notMem_ipv6Str (by decide) (by decide) (by decide) (by decide) python ip
    have hslash : '/' ∉ ipv6Str python ip :=
      notMem_ipv6Str (by decide) (by decide) (by decide) (by decide) python ip
    have hcolon := colon_mem_of_ipv6Bits hbits
    cases scope with
    | none =>
      rw [IPAddress.compressed]
      dsimp only
      rw [ipAddress_eq_of_colon hcolon, ipv6Address_of_ipv6Bits hbits hpct hslash]
      rfl
    | some zone =>
      have hz := hzone zone rfl
      obtain ⟨c, rest, rfl⟩ := List.exists_cons_of_ne_nil hz.1
      rw [IPAddress.compressed]
      dsimp only
      rw [ipAddress_eq_of_colon (List.mem_append_left _ hcolon),
        ipv6Address_append hbits hpct hslash hz]
      rfl

/-- **The text a resolution works with is cut into the address and its zone.** -/
theorem splitZone_compressed (python : PythonVersion) {ip : Text} {a : IPAddress}
    (h : parseAddress ip = .ok a) :
    ipAddress (splitZone (a.compressed python)).address = some a.bare ∧
      (splitZone (a.compressed python)).zone = a.zone := by
  apply splitZone_of_ipAddress
  apply ipAddress_compressed
  rw [parseAddress_eq_ok] at h
  cases a with
  | v4 ip =>
    intro zone hzone
    simp [IPAddress.zone] at hzone
  | v6 a => exact isZone_of_ipv6Address (ipv6Address_of_ipAddress h).2

/-! ### The sender that is chosen -/

theorem family_bare (a : IPAddress) : a.bare.family = a.family := by
  cases a <;> rfl

theorem bare_of_zone_eq_none {a : IPAddress} (h : a.zone = none) : a.bare = a := by
  cases a with
  | v4 ip => rfl
  | v6 a =>
    obtain ⟨ip, scope⟩ := a
    obtain rfl : scope = none := h
    rfl

theorem packed_bare (a : IPAddress) : a.bare.packed = a.packed := by
  cases a <;> rfl

def IsScout (e : PyError) : Prop := ∃ cls msg, e = .scout cls msg

/-- Every error an exchange ends in meets `P`. -/
def Raises {α : Type} (P : PyError → Prop) (m : Asking α) : Prop :=
  ∀ s, Ensures AskServes s m fun outcome _ => ∀ e, outcome = .error e → P e

section Raising

variable {α β : Type} {P P' : PyError → Prop}

theorem Raises.andThen {m : Asking α} {f : α → Asking β} (hm : Raises P m)
    (hf : ∀ a, Raises P (f a)) : Raises P (Exchange.andThen m f) := by
  intro s
  refine ensures_andThen ((hm s).mono ?_)
  intro outcome t houtcome
  refine ⟨?_, fun a _ => hf a t⟩
  intro e he e' he'
  rw [← Except.error.inj he']
  exact houtcome e he

theorem Raises.mapError {m : Asking α} (hm : Raises P m) {f : PyError → PyError}
    (hf : ∀ e, P e → P' (f e)) :
    Raises P' (m.bind fun outcome => .done (outcome.mapError f)) := by
  intro s
  rw [ensures_bind]
  refine (hm s).mono ?_
  intro outcome t houtcome
  rw [ensures_done]
  intro e he
  cases outcome with
  | ok a => cases he
  | error e' =>
    rw [← Except.error.inj he]
    exact hf e' (houtcome e' rfl)

end Raising

/-! ### What a resolution does -/

/-- What has come of asking for an address, from a state to a state. -/
structure Resolves (host : ActiveHost) (ip : Text) (s : AskedSystem)
    (outcome : Except PyError (Option Text)) (u : AskedSystem) : Prop where
  closed : u.opened = s.opened
  /-- Nothing goes out but one request for the address, from a sender that may ask for it and on
  the interface of the sender. -/
  sent : u.sent = s.sent ∨ ∃ a sender out, parseAddress ip = .ok a ∧ Chosen host a sender ∧
    IsRequest sender a out.payload ∧ u.SendsOn sender.interface out.egress out.destination ∧
    u.sent = s.sent ++ [out]
  /-- There is an outcome only if a request has gone out. -/
  asked : ∀ found, outcome = .ok found → u.sent ≠ s.sent
  /-- A hardware address is that of an answer about the address. -/
  heard : ∀ mac, outcome = .ok (some mac) → ∃ a frames, parseAddress ip = .ok a ∧
    u.received = s.received ++ frames ∧ ∃ frame ∈ frames, AnswersFor a frame mac
  /-- What is no literal is refused before anything happens; other errors are the library's. -/
  failed : ∀ e, outcome = .error e → IsScout e ∨ (u = s ∧ ∃ e', parseAddress ip = .error e')

theorem Resolves.of_error {host : ActiveHost} {ip : Text} {s : AskedSystem} {e : PyError}
    (h : IsScout e ∨ ∃ e', parseAddress ip = .error e') : Resolves host ip s (.error e) s := by
  refine ⟨rfl, Or.inl rfl, ?_, ?_, ?_⟩
  · intro found hfound
    cases hfound
  · intro mac hmac
    cases hmac
  · intro e' he'
    rw [← Except.error.inj he']
    rcases h with h | h
    · exact Or.inl h
    · exact Or.inr ⟨rfl, h⟩

end IPScout
