import IPScout.Base.Least
import IPScout.Net.Interfaces
import IPScout.Net.Winapi

/-!
# The routes of Windows

`routes_windows.py`: the library hands out the forwarding table as a number of rows, each a
`MIB_IPFORWARD_ROW2` of 104 octets, and answers a lookup with one such row.

The default route is the first of the rows with a next hop and a prefix of length 0 that have
the least metric (`defaultGateway_least`).  A lookup asks for the address that was named, and
what is reported are addresses the stack has given (`queryRoute_reports`).
-/

namespace IPScout.RoutesWindows

open Base Base.Octets Winapi

/-! ### `MIB_IPFORWARD_ROW2` -/

def FORWARD_ROW_SIZE : ℕ := 104

/-- What is read of a row. -/
structure ForwardRow where
  interfaceIndex : ℕ
  prefixLength : ℕ
  nextHopSockaddr : Octets
  metric : ℕ

/-- The index stands behind the LUID, the prefix in the 32 octets behind the index. -/
def ForwardRow.unpack (row : Octets) : ForwardRow where
  interfaceIndex := littleEndian (slice row 8 12)
  prefixLength := octet row 40
  nextHopSockaddr := slice row 44 72
  metric := littleEndian (slice row 84 88)

/-! ### The functions -/

def nextHop (python : PythonVersion) (sockaddr : Octets) : Option Text :=
  match sockaddrInetAddress sockaddr with
  | none => none
  | some address => if address.isUnspecified python then none else some (addressText address)

/-- The loop of `default_gateway`, with the best route so far and its metric. -/
def bestRoute (env : Interfaces) :
    List ForwardRow → Option RouteInfo → Option ℕ → Option RouteInfo
  | [], best, _ => best
  | row :: rest, best, bestMetric =>
    if row.prefixLength ≠ 0 then bestRoute env rest best bestMetric
    else
      match nextHop env.python row.nextHopSockaddr with
      | none => bestRoute env rest best bestMetric
      | some gateway =>
        if bestMetric.all fun least => row.metric < least then
          bestRoute env rest
            (some ⟨some gateway, interfaceName env row.interfaceIndex, none⟩) (some row.metric)
        else bestRoute env rest best bestMetric

/-- `default_gateway`, by what `iphlpapi` loads as and what `GetIpForwardTable2` answers with:
a `none` is a library that is not there, or a status other than `NO_ERROR`. -/
def defaultGateway (env : Interfaces) (table : Option Octets) : Option RouteInfo :=
  match table with
  | none => none
  | some table =>
    bestRoute env ((tableRows FORWARD_ROW_SIZE table).map ForwardRow.unpack) none none

def destination (address : Text) (family : AddressFamily) : Option Octets :=
  match requireAddress address family with
  | .error _ => none
  | .ok parsed => (sockaddrInet parsed.packed family).toOption

/-- `query_route`, by what `GetBestRoute2` answers for a destination: the row and the source, or
a `none` as above. -/
def queryRoute (env : Interfaces) (getBestRoute2 : Octets → Option (Octets × Octets))
    (address : Text) (family : AddressFamily) : Option RouteInfo :=
  match destination address family with
  | none => none
  | some target =>
    match getBestRoute2 target with
    | none => none
    | some (row, source) =>
      let row := ForwardRow.unpack row
      some ⟨nextHop env.python row.nextHopSockaddr, interfaceName env row.interfaceIndex,
        (sockaddrInetAddress source).map addressText⟩

/-! ### The default route -/

/-- A row of a default route with a router. -/
def ForwardRow.isDefault (python : PythonVersion) (row : ForwardRow) : Bool :=
  row.prefixLength = 0 && (nextHop python row.nextHopSockaddr).isSome

def ForwardRow.route (env : Interfaces) (row : ForwardRow) : RouteInfo :=
  ⟨nextHop env.python row.nextHopSockaddr, interfaceName env row.interfaceIndex, none⟩

theorem bestRoute_eq (env : Interfaces) (rows : List ForwardRow) (best : Option ForwardRow) :
    bestRoute env rows (best.map (ForwardRow.route env)) (best.map ForwardRow.metric) =
      ((rows.filter (ForwardRow.isDefault env.python)).foldl
        (List.argAux fun b c => b.metric < c.metric) best).map (ForwardRow.route env) := by
  induction rows generalizing best with
  | nil => rfl
  | cons row rest ih =>
    unfold bestRoute
    rw [List.filter_cons]
    by_cases hprefix : row.prefixLength = 0
    · rw [if_neg (not_not.mpr hprefix)]
      cases hhop : nextHop env.python row.nextHopSockaddr with
      | none =>
        rw [if_neg (by simp [ForwardRow.isDefault, hhop])]
        exact ih best
      | some gateway =>
        have hroute : (⟨some gateway, interfaceName env row.interfaceIndex, none⟩ : RouteInfo) =
            row.route env := by rw [ForwardRow.route, hhop]
        rw [if_pos (by simp [ForwardRow.isDefault, hprefix, hhop]), List.foldl_cons]
        dsimp only
        rw [hroute]
        cases best with
        | none => exact ih (some row)
        | some least =>
          by_cases hless : row.metric < least.metric
          · rw [if_pos (by simpa using hless)]
            simp only [List.argAux, if_pos hless]
            exact ih (some row)
          · rw [if_neg (by simpa using hless)]
            simp only [List.argAux, if_neg hless]
            exact ih (some least)
    · rw [if_pos hprefix, if_neg (by simp [ForwardRow.isDefault, hprefix])]
      exact ih best

theorem exists_of_nextHop {python : PythonVersion} {sockaddr : Octets}
    (hsize : sockaddr.length = SOCKADDR_INET_SIZE) {gateway : Text}
    (h : nextHop python sockaddr = some gateway) :
    ∃ a, sockaddrInetAddress sockaddr = some a ∧ ipAddress gateway = some a ∧
      a.isUnspecified python = false := by
  rw [nextHop] at h
  split at h
  · cases h
  · next a ha =>
    split at h
    · cases h
    · next hspecified =>
      obtain rfl := Option.some.inj h
      obtain ⟨family, b, hb, rfl⟩ := exists_of_sockaddrInetAddress hsize ha
      exact ⟨_, ha, (ipAddress_addressText hb).2, by simpa using hspecified⟩

/-- **The default route is the first row of the least metric**, of the rows of a table that have
a prefix of length 0 and a router; without such a row there is none. -/
theorem defaultGateway_least (env : Interfaces) {rows : List Octets} {padding : Octets}
    (hsize : ∀ row ∈ rows, row.length = FORWARD_ROW_SIZE) (hpadding : padding.length = 4)
    (hcount : rows.length < 256 ^ 4) :
    (defaultGateway env (some (tableOctets padding rows)) = none ↔
      ∀ row ∈ rows, (ForwardRow.unpack row).isDefault env.python = false) ∧
    ∀ route, defaultGateway env (some (tableOctets padding rows)) = some route →
      ∃ before row after, rows = before ++ row :: after ∧
        route = (ForwardRow.unpack row).route env ∧
        (ForwardRow.unpack row).isDefault env.python = true ∧
        (∃ gateway a, route.gateway = some gateway ∧ ipAddress gateway = some a ∧
          a.isUnspecified env.python = false) ∧
        (∀ other ∈ before, (ForwardRow.unpack other).isDefault env.python = true →
          (ForwardRow.unpack row).metric < (ForwardRow.unpack other).metric) ∧
        ∀ other ∈ after, (ForwardRow.unpack other).isDefault env.python = true →
          (ForwardRow.unpack row).metric ≤ (ForwardRow.unpack other).metric := by
  have hgateway : defaultGateway env (some (tableOctets padding rows)) =
      (((rows.map ForwardRow.unpack).filter (ForwardRow.isDefault env.python)).argmin
        ForwardRow.metric).map (ForwardRow.route env) := by
    rw [defaultGateway, tableRows_tableOctets hsize hpadding hcount]
    exact bestRoute_eq env _ none
  rw [hgateway]
  refine ⟨?_, ?_⟩
  · rw [Option.map_eq_none_iff, List.argmin_eq_none, List.filter_eq_nil_iff]
    simp
  · intro route hroute
    obtain ⟨least, hleast, rfl⟩ := Option.map_eq_some_iff.mp hroute
    obtain ⟨first, second, hrows, hdefault, hfirst, hsecond⟩ := exists_of_argmin_filter hleast
    obtain ⟨before, rest, rfl, rfl, hrest⟩ := List.map_eq_append_iff.mp hrows
    obtain ⟨row, after, rfl, rfl, rfl⟩ := List.map_eq_cons_iff.mp hrest
    refine ⟨before, row, after, rfl, rfl, hdefault, ?_, ?_, ?_⟩
    · rw [ForwardRow.isDefault, Bool.and_eq_true, Option.isSome_iff_exists] at hdefault
      obtain ⟨gateway, hhop⟩ := hdefault.2
      have hsockaddr : (ForwardRow.unpack row).nextHopSockaddr.length = SOCKADDR_INET_SIZE := by
        rw [ForwardRow.unpack, length_slice, hsize row (by simp)]
        rfl
      obtain ⟨a, _, hread, hspecified⟩ := exists_of_nextHop hsockaddr hhop
      exact ⟨gateway, a, hhop, hread, hspecified⟩
    · intro other hother
      exact hfirst _ (List.mem_map_of_mem hother)
    · intro other hother
      exact hsecond _ (List.mem_map_of_mem hother)

def forwardRow (index prefixLength : ℕ) (hop : Octets) (metric : ℕ) : Octets :=
  List.replicate 8 0 ++ packedLittle 4 index ++ List.replicate 28 0 ++
    [UInt8.ofNat prefixLength, 0, 0, 0] ++ hop ++ List.replicate 12 0 ++ packedLittle 4 metric ++
    List.replicate 16 0

def ipv4Union (octets : Octets) : Octets :=
  packedLittle 2 WIN_AF_INET ++ [0, 0] ++ octets ++ List.replicate 20 0

/-- A route to a network and two default routes. -/
def threeRows : List Octets :=
  [forwardRow 4 24 (ipv4Union [192, 0, 2, 9]) 1, forwardRow 4 0 (ipv4Union [192, 0, 2, 1]) 50,
    forwardRow 5 0 (ipv4Union [198, 51, 100, 1]) 25]

theorem defaultGateway_least_of_three :
    (defaultGateway noInterfaces (some (tableOctets (List.replicate 4 0) threeRows))).map
        RouteInfo.gateway = some (some "198.51.100.1".toList) ∧
      (defaultGateway noInterfaces (some (tableOctets (List.replicate 4 0) threeRows)) = none ↔
        ∀ row ∈ threeRows, (ForwardRow.unpack row).isDefault noInterfaces.python = false) :=
  ⟨by decide +kernel, (defaultGateway_least noInterfaces (by decide +kernel) rfl (by decide)).1⟩

/-! ### Lookups -/

theorem sockaddrInetAddress_destination {address : Text} {family : AddressFamily}
    {target : Octets} (h : destination address family = some target) :
    ∃ a, requireAddress address family = .ok a ∧ sockaddrInetAddress target = some a.bare := by
  rw [destination] at h
  split at h
  · cases h
  · next a ha =>
    refine ⟨a, ha, ?_⟩
    cases hpacked : sockaddrInet a.packed family with
    | error e =>
      rw [hpacked] at h
      cases h
    | ok packed =>
      rw [hpacked] at h
      obtain rfl : packed = target := Option.some.inj h
      obtain ⟨_, _, hread⟩ := sockaddrInet_eq_ok hpacked
      rw [hread, ← (requireAddress_eq_ok_iff.mp ha).2, ofNat_packed]

/-- **A lookup reports what the stack answers for the address that was named**: the bare address
of the literal is asked for, an interface without a router has no gateway, and every address
that is reported reads back as the one the stack has given. -/
theorem queryRoute_reports {env : Interfaces}
    {getBestRoute2 : Octets → Option (Octets × Octets)} {address : Text}
    {family : AddressFamily} {route : RouteInfo}
    (hsize : ∀ target row source, getBestRoute2 target = some (row, source) →
      row.length = FORWARD_ROW_SIZE ∧ source.length = SOCKADDR_INET_SIZE)
    (h : queryRoute env getBestRoute2 address family = some route) :
    ∃ a target row source, requireAddress address family = .ok a ∧
      sockaddrInetAddress target = some a.bare ∧ getBestRoute2 target = some (row, source) ∧
      (∀ gateway, route.gateway = some gateway → ∃ hop, ipAddress gateway = some hop ∧
        sockaddrInetAddress (ForwardRow.unpack row).nextHopSockaddr = some hop ∧
        hop.isUnspecified env.python = false) ∧
      ∀ text, route.source = some text → ∃ b, ipAddress text = some b ∧
        sockaddrInetAddress source = some b := by
  rw [queryRoute] at h
  split at h
  · cases h
  · next target htarget =>
    split at h
    · cases h
    · next row source hanswer =>
      obtain rfl := Option.some.inj h
      obtain ⟨a, ha, hread⟩ := sockaddrInetAddress_destination htarget
      obtain ⟨hrow, hsource⟩ := hsize target row source hanswer
      refine ⟨a, target, row, source, ha, hread, hanswer, ?_, ?_⟩
      · intro gateway hgateway
        have hsockaddr : (ForwardRow.unpack row).nextHopSockaddr.length = SOCKADDR_INET_SIZE := by
          rw [ForwardRow.unpack, length_slice, hrow]
          rfl
        obtain ⟨hop, hhop, htext, hspecified⟩ := exists_of_nextHop hsockaddr hgateway
        exact ⟨hop, htext, hhop, hspecified⟩
      · intro text htext
        obtain ⟨b, hb, rfl⟩ := Option.map_eq_some_iff.mp htext
        obtain ⟨family, octets, hoctets, rfl⟩ := exists_of_sockaddrInetAddress hsource hb
        exact ⟨_, (ipAddress_addressText hoctets).2, hb⟩

def ipv6Union (octets : Octets) : Octets :=
  packedLittle 2 WIN_AF_INET6 ++ List.replicate 6 0 ++ octets ++ List.replicate 4 0

/-- `fe80::` and the number of a host. -/
def linkLocalOctets (host : UInt8) : Octets :=
  [0xfe, 0x80] ++ List.replicate 13 0 ++ [host]

/-- A stack with a host on the link and, for every IPv6 address, a router. -/
def twoRoutes (target : Octets) : Option (Octets × Octets) :=
  if littleEndian (slice target 0 2) = WIN_AF_INET6 then
    some (forwardRow 4 0 (ipv6Union (linkLocalOctets 1)) 25, ipv6Union (linkLocalOctets 7))
  else some (forwardRow 4 32 (ipv4Union [0, 0, 0, 0]) 0, ipv4Union [192, 0, 2, 7])

/-- A host on the link, and a literal with a zone behind a router. -/
theorem queryRoute_reports_of_two :
    (∃ route, queryRoute noInterfaces twoRoutes "192.0.2.8".toList .IPV4 = some route ∧
      route = ⟨none, none, some "192.0.2.7".toList⟩ ∧
      ∃ a, requireAddress "192.0.2.8".toList .IPV4 = .ok a) ∧
    ∃ route, queryRoute noInterfaces twoRoutes "fe80::8%eth0".toList .IPV6 = some route ∧
      route = ⟨some "fe80::1".toList, none, some "fe80::7".toList⟩ ∧
      ∃ a target, requireAddress "fe80::8%eth0".toList .IPV6 = .ok a ∧
        a.zone = some "eth0".toList ∧ sockaddrInetAddress target = some a.bare := by
  have hsize : ∀ target row source, twoRoutes target = some (row, source) →
      row.length = FORWARD_ROW_SIZE ∧ source.length = SOCKADDR_INET_SIZE := by
    intro target row source h
    rw [twoRoutes] at h
    split at h
    · obtain ⟨rfl, rfl⟩ := Prod.mk.inj (Option.some.inj h)
      exact ⟨by decide +kernel, by decide +kernel⟩
    · obtain ⟨rfl, rfl⟩ := Prod.mk.inj (Option.some.inj h)
      exact ⟨by decide +kernel, by decide +kernel⟩
  have honlink : queryRoute noInterfaces twoRoutes "192.0.2.8".toList .IPV4 =
      some ⟨none, none, some "192.0.2.7".toList⟩ := by decide +kernel
  have hrouted : queryRoute noInterfaces twoRoutes "fe80::8%eth0".toList .IPV6 =
      some ⟨some "fe80::1".toList, none, some "fe80::7".toList⟩ := by decide +kernel
  obtain ⟨a, _, _, _, ha, _⟩ := queryRoute_reports hsize honlink
  obtain ⟨b, target, _, _, hb, htarget, _⟩ := queryRoute_reports hsize hrouted
  have hzone : (requireAddress "fe80::8%eth0".toList .IPV6).map IPAddress.zone =
      .ok (some "eth0".toList) := by decide +kernel
  rw [hb] at hzone
  exact ⟨⟨_, honlink, rfl, a, ha⟩, _, hrouted, rfl, b, target, hb, Except.ok.inj hzone, htarget⟩

end IPScout.RoutesWindows
