import IPScout.Neighbours.Active
import IPScout.Neighbours.WindowsRows

/-!
# Resolving an address actively on Windows

The Windows branch of `resolve_active`: `SendARP` asks for an IPv4 address and
`ResolveIpNetEntry2` for an IPv6 one, on the interface a zone names.  Either answers with a
status, and only one of them says that nobody answered.

An address is refused unasked for four reasons and no other (`Refused`).  Whatever the library
answers, what is asked for is the address that was named, on the interface the zone names, and
the status of the answer decides what comes of it (`Says`, `resolveActive_asks_windows`).
-/

namespace IPScout.NeighboursWindows

open Base Base.Octets Base.Text Base.Exchange Winapi

/-! ### The calls -/

/-- A call of the library that asks for an address. -/
inductive AskCall
  /-- `SendARP`, of an `IPAddr`. -/
  | sendArp (destination : ℕ)
  /-- `ResolveIpNetEntry2`, of a row. -/
  | resolveIpNetEntry2 (row : Octets)

/-- What a call leaves: its status, and the buffer with its length or the row. -/
abbrev AskCall.Answer : AskCall → Type
  | sendArp _ => ℕ × Octets × ℕ
  | resolveIpNetEntry2 _ => ℕ × Octets

abbrev AskingWindows (α : Type) := Exchange AskCall AskCall.Answer (Except PyError α)

def NO_ERROR : ℕ := 0
def ERROR_ACCESS_DENIED : ℕ := 5
def ERROR_BAD_NET_NAME : ℕ := 67

def refuseUnlessUnanswered (status : ℕ) (call : String) (ip : Text) : Except PyError Unit :=
  if status ≠ ERROR_BAD_NET_NAME then
    .error (unsupported [say "could not ask for ", .text ip, say (": " ++ call ++
      " failed with Windows error "), .text (decimal status)])
  else .ok ()

def requestAddress (ip : Text) (family : AddressFamily) : Except PyError Octets :=
  if (splitZone ip).zone.isSome then
    .error (.value [.quoted ip, say (" carries a zone: pass the bare address, " ++
      "and the zone's interface as interface_index")])
  else (requireAddress ip family).map IPAddress.packed

def packedToIpv4 (packed : Octets) : ℕ := littleEndian packed

def resolutionRow (packed : Octets) (interfaceIndex : Option ℕ) : Except PyError Octets := do
  let sockaddr ← sockaddrInet packed .IPV6
  .ok (IpnetRow.octets {
    address := sockaddr
    interfaceIndex := interfaceIndex.getD 0
    physicalAddress := List.replicate PHYSICAL_ADDRESS_SIZE 0
    physicalAddressLength := 0
    state := 0 })

def resolveIpv6 (packed : Octets) (ip : Text) (interfaceIndex : Option ℕ) :
    AskingWindows (Option Text) :=
  match resolutionRow packed interfaceIndex with
  | .error e => .done (.error e)
  | .ok row =>
    .ask (.resolveIpNetEntry2 row) fun (status, after) =>
      .done (
        if status = ERROR_ACCESS_DENIED then
          .error (.scout .IPScoutPermissionError [say ("active IPv6 resolution uses " ++
            "ResolveIpNetEntry2, which needs Administrator on Windows (SendARP, used for IPv4, " ++
            "does not). Run elevated, or " ++ ARP_SCAN_ALTERNATIVE)])
        else if status ≠ NO_ERROR then
          (refuseUnlessUnanswered status "ResolveIpNetEntry2" ip).map fun _ => none
        else
          .ok (declaredMac (IpnetRow.unpack after).physicalAddress
            (IpnetRow.unpack after).physicalAddressLength))

/-- `resolve_active` of `neighbours_windows.py`; a library that is not there says why. -/
def resolveActive (iphlpapi : Except Message Unit) (ip : Text) (family : AddressFamily)
    (interfaceIndex : Option ℕ) : AskingWindows (Option Text) :=
  match requestAddress ip family with
  | .error e => .done (.error e)
  | .ok packed =>
    if interfaceIndex.isSome ∧ family = .IPV4 then
      .done (.error (.value [.quoted ip, say (" is IPv4, which SendARP resolves without an " ++
        "interface: pass no interface_index")]))
    else
      match iphlpapi with
      | .error msg => .done (.error (unsupported msg))
      | .ok () =>
        match family with
        | .IPV6 => resolveIpv6 packed ip interfaceIndex
        | .IPV4 =>
          .ask (.sendArp (packedToIpv4 packed)) fun (status, buffer, length) =>
            .done (
              if status ≠ NO_ERROR then
                (refuseUnlessUnanswered status "SendARP" ip).map fun _ => none
              else .ok (declaredMac buffer length))

/-- `resolve_active` of `neighbours.py` on Windows; the timeout is not used. -/
def resolveNamed (iphlpapi : Except Message Unit) (python : PythonVersion) (host : ActiveHost)
    (ip : Text) : AskingWindows (Option Text) :=
  match parseAddress ip with
  | .error e => .done (.error (refusedIp e))
  | .ok address =>
    let named := splitZone (address.compressed python)
    match named.zone with
    | some zone =>
      match zoneInterface host.interfaces zone with
      | .error e => .done (.error e)
      | .ok found =>
        resolveActive iphlpapi named.address address.family (some found.interfaceIndex)
    | none =>
      match host.queryRoute named.address address.family with
      | .error e => .done (.error e)
      | .ok none => .done (.error (unsupported [say "no route to ", .text named.address,
          say ", so no interface to send a resolution request on"]))
      | .ok (some _) => resolveActive iphlpapi named.address address.family none

/-! ### What it is for -/

/-- The calls that have been made, with their answers: any answer may be given. -/
def Records (s : List (Sigma AskCall.Answer)) (q : AskCall) (r : q.Answer)
    (t : List (Sigma AskCall.Answer)) : Prop := t = s ++ [⟨q, r⟩]

/-- A call asks for an address, on an interface if one is named. -/
def AskCall.AsksFor (a : IPAddress) (index : Option ℕ) : AskCall → Prop
  | sendArp destination => a.family = .IPV4 ∧ index = none ∧ packedLittle 4 destination = a.packed
  | resolveIpNetEntry2 row => a.family = .IPV6 ∧
      sockaddrInetAddress (IpnetRow.unpack row).address = some a.bare ∧
      (IpnetRow.unpack row).interfaceIndex = index.getD 0

def statusOf : Sigma AskCall.Answer → ℕ
  | ⟨.sendArp _, r⟩ => r.1
  | ⟨.resolveIpNetEntry2 _, r⟩ => r.1

/-- The octets of a hardware address that an answer declares. -/
def declaredBy : Sigma AskCall.Answer → Octets
  | ⟨.sendArp _, r⟩ => r.2.1.take r.2.2
  | ⟨.resolveIpNetEntry2 _, r⟩ =>
    (IpnetRow.unpack r.2).physicalAddress.take (IpnetRow.unpack r.2).physicalAddressLength

/-- The call that an unelevated process may not make. -/
def AskCall.needsElevation : AskCall → Bool
  | sendArp _ => false
  | resolveIpNetEntry2 _ => true

/-- What an answer to a call says, by its status. -/
inductive Says (call : Sigma AskCall.Answer) : Except PyError (Option Text) → Prop
  | answered : statusOf call = NO_ERROR → Says call (.ok (formatMac (declaredBy call)))
  | unanswered : statusOf call = ERROR_BAD_NET_NAME → Says call (.ok none)
  | denied (msg : Message) : statusOf call = ERROR_ACCESS_DENIED →
      call.1.needsElevation = true → Says call (.error (.scout .IPScoutPermissionError msg))
  | failed (msg : Message) : statusOf call ≠ NO_ERROR → statusOf call ≠ ERROR_BAD_NET_NAME →
      ¬ (statusOf call = ERROR_ACCESS_DENIED ∧ call.1.needsElevation = true) →
      Says call (.error (unsupported msg))

/-- The interface the zone of an address names. -/
def IndexNamed (host : ActiveHost) (a : IPAddress) (index : Option ℕ) : Prop :=
  match a.zone with
  | none => index = none
  | some zone => ∃ found, zoneInterface host.interfaces zone = .ok found ∧
      index = some found.interfaceIndex

/-- Why an address is refused before anything is asked, and with which error. -/
inductive Refused (iphlpapi : Except Message Unit) (host : ActiveHost) (ip : Text) :
    PyError → Prop
  | noLiteral {e : PyError} : parseAddress ip = .error e → Refused iphlpapi host ip (refusedIp e)
  | noInterface {a : IPAddress} {zone : Text} {e : PyError} : parseAddress ip = .ok a →
      a.zone = some zone → zoneInterface host.interfaces zone = .error e →
      Refused iphlpapi host ip e
  | noRoute {a : IPAddress} {text : Text} : parseAddress ip = .ok a → a.zone = none →
      host.routes a = none → ipAddress text = some a →
      Refused iphlpapi host ip (unsupported [say "no route to ", .text text,
        say ", so no interface to send a resolution request on"])
  | noLibrary {a : IPAddress} {index : Option ℕ} {msg : Message} : parseAddress ip = .ok a →
      IndexNamed host a index → (a.zone = none → ∃ route, host.routes a = some route) →
      iphlpapi = .error msg → Refused iphlpapi host ip (unsupported msg)

/-- What has come of asking for an address: it was refused for a reason and nothing was asked, or
there was none and one call asked for it, whose answer is what the outcome says. -/
def ResolvesWindows (iphlpapi : Except Message Unit) (host : ActiveHost) (ip : Text)
    (outcome : Except PyError (Option Text)) (calls : List (Sigma AskCall.Answer)) : Prop :=
  (calls = [] ∧ ∃ e, outcome = .error e ∧ Refused iphlpapi host ip e) ∨
  ∃ a index call, calls = [call] ∧ parseAddress ip = .ok a ∧ IndexNamed host a index ∧
    (a.zone = none → ∃ route, host.routes a = some route) ∧ iphlpapi = .ok () ∧
    call.1.AsksFor a index ∧ Says call outcome

/-! ### One call -/

theorem says_of_failed (call : Sigma AskCall.Answer) (hstatus : statusOf call ≠ NO_ERROR)
    (hdenied : ¬ (statusOf call = ERROR_ACCESS_DENIED ∧ call.1.needsElevation = true))
    (name : String) (ip : Text) :
    Says call ((refuseUnlessUnanswered (statusOf call) name ip).map fun _ => none) := by
  rw [refuseUnlessUnanswered]
  split
  · next hfailed => exact .failed _ hstatus hfailed hdenied
  · next hunanswered => exact .unanswered (not_not.mp hunanswered)

theorem requestAddress_of_ipAddress {a : IPAddress} {text : Text}
    (h : ipAddress text = some a.bare) : requestAddress text a.family = .ok a.packed := by
  obtain ⟨-, hzone⟩ := splitZone_of_ipAddress h
  have hnone : (splitZone text).zone = none := by
    rw [hzone]
    cases a <;> rfl
  have hrequire : requireAddress text a.family = .ok a.bare :=
    requireAddress_eq_ok_iff.mpr ⟨h, family_bare a⟩
  rw [requestAddress, hnone, if_neg (by simp), hrequire]
  exact congrArg Except.ok (packed_bare a)

/-- **The row that is built asks for the address**, on the interface that is named. -/
theorem exists_resolutionRow {a : IPAddress} (hfamily : a.family = .IPV6) {index : Option ℕ}
    (hindex : index.getD 0 < 256 ^ 4) :
    ∃ row, resolutionRow a.packed index = .ok row ∧
      (AskCall.resolveIpNetEntry2 row).AsksFor a index := by
  have hlength : a.packed.length = AddressFamily.packedSize .IPV6 := by
    rw [length_packed, hfamily]
  obtain ⟨sockaddr, hsockaddr⟩ := exists_sockaddrInet hlength
  obtain ⟨-, hsize, hholds⟩ := sockaddrInet_eq_ok hsockaddr
  have hzero : (0 : ℕ) < 256 ^ 4 := by decide
  refine ⟨_, bind_eq_ok.mpr ⟨sockaddr, hsockaddr, rfl⟩, hfamily, ?_, ?_⟩
  · rw [IpnetRow.unpack_octets ⟨hsize, hindex, List.length_replicate, hzero, hzero⟩, hholds,
      ← ofNat_packed, hfamily]
  · rw [IpnetRow.unpack_octets ⟨hsize, hindex, List.length_replicate, hzero, hzero⟩]

theorem ensures_resolveActive (iphlpapi : Except Message Unit) {a : IPAddress} {text : Text}
    (htext : ipAddress text = some a.bare) (index : Option ℕ)
    (hzoned : index.isSome = true → a.family = .IPV6) (hindex : index.getD 0 < 256 ^ 4) :
    Ensures Records [] (resolveActive iphlpapi text a.family index) fun outcome calls =>
      (calls = [] ∧ ∃ msg, outcome = .error (unsupported msg) ∧ iphlpapi = .error msg) ∨
        ∃ call, calls = [call] ∧ iphlpapi = .ok () ∧ call.1.AsksFor a index ∧
          Says call outcome := by
  have hchecked : ¬ (index.isSome = true ∧ a.family = .IPV4) := by
    rintro ⟨hsome, hfour⟩
    rw [hzoned hsome] at hfour
    cases hfour
  rw [resolveActive, requestAddress_of_ipAddress htext]
  dsimp only
  rw [if_neg hchecked]
  cases iphlpapi with
  | error msg =>
    dsimp only
    rw [ensures_done]
    exact Or.inl ⟨rfl, msg, rfl, rfl⟩
  | ok u =>
    dsimp only
    cases hfamily : a.family with
    | IPV6 =>
      obtain ⟨row, hrow, hasks⟩ := exists_resolutionRow hfamily hindex
      dsimp only
      rw [resolveIpv6, hrow]
      dsimp only
      rw [ensures_ask]
      rintro ⟨status, after⟩ calls rfl
      rw [ensures_done]
      refine Or.inr ⟨_, rfl, rfl, hasks, ?_⟩
      split
      · next hdenied => exact .denied _ hdenied rfl
      · next hdenied =>
        split
        · next hstatus =>
          exact says_of_failed ⟨.resolveIpNetEntry2 row, (status, after)⟩ hstatus
            (fun hboth => hdenied hboth.1) _ _
        · next hstatus =>
          exact .answered (not_not.mp hstatus)
    | IPV4 =>
      dsimp only
      rw [ensures_ask]
      rintro ⟨status, buffer, length⟩ calls rfl
      rw [ensures_done]
      have hnone : index = none := by
        cases index with
        | none => rfl
        | some index => exact absurd ⟨rfl, hfamily⟩ hchecked
      have hlength : a.packed.length = 4 := by
        rw [length_packed, hfamily]
        rfl
      refine Or.inr ⟨_, rfl, rfl, ⟨hfamily, hnone, packedLittle_littleEndian hlength⟩, ?_⟩
      split
      · next hstatus =>
        exact says_of_failed ⟨.sendArp (packedToIpv4 a.packed), (status, buffer, length)⟩ hstatus
          (fun hboth => Bool.false_ne_true hboth.2) _ _
      · next hstatus =>
        exact .answered (not_not.mp hstatus)

/-! ### The resolution -/

theorem index_lt_of_interfaceName {env : Interfaces} {index : ℕ} {name : Text}
    (h : interfaceName env index = some name) : index < 256 ^ 4 := by
  rw [interfaceName] at h
  split at h
  · simp at h
  · next hbounds =>
    rw [not_not] at hbounds
    have hmax : MAX_INTERFACE_INDEX < 256 ^ 4 := by decide
    exact lt_of_le_of_lt hbounds.2 hmax

theorem interfaceIndex_lt {env : Interfaces} {zone : Text} {found : ZoneInterface}
    (h : zoneInterface env zone = .ok found) : found.interfaceIndex < 256 ^ 4 := by
  have hlt : ∀ {index}, (match interfaceName env index with
      | some name => .ok ⟨index, name⟩
      | none => .error (.scout .IPScoutResolutionError [say "no interface with index ",
          .text (decimal index), say " to send on: name one this host has, or use its index"]) :
        Except PyError ZoneInterface) = .ok found → found.interfaceIndex < 256 ^ 4 := by
    intro index hi
    split at hi
    · next name hname =>
      rw [← Except.ok.inj hi]
      exact index_lt_of_interfaceName hname
    · simp at hi
  rw [zoneInterface] at h
  cases hz : zoneIndex env zone with
  | ok index =>
    rw [hz] at h
    exact hlt h
  | error e =>
    rw [hz] at h
    cases hr : reportedIndex env zone with
    | some index =>
      rw [hr] at h
      exact hlt h
    | none =>
      rw [hr] at h
      cases h

theorem family_of_zone {a : IPAddress} {zone : Text} (h : a.zone = some zone) :
    a.family = .IPV6 := by
  cases a with
  | v4 ip => simp [IPAddress.zone] at h
  | v6 a => rfl

/-- **What an active resolution does on Windows**, whatever the library answers: what is no
literal, a zone without an interface, an address without a route and a host without the library
are refused before anything is asked, and nothing else is; otherwise one call asks for the address
that was named, on the interface its zone names; and the status it answers with decides the
outcome: a hardware address, nobody, or an error of the library. -/
theorem resolveActive_asks_windows (iphlpapi : Except Message Unit) (python : PythonVersion)
    (host : ActiveHost) (ip : Text) :
    Ensures Records [] (resolveNamed iphlpapi python host ip)
      (ResolvesWindows iphlpapi host ip) := by
  rw [resolveNamed]
  cases hparse : parseAddress ip with
  | error e =>
    dsimp only
    rw [ensures_done]
    exact Or.inl ⟨rfl, _, rfl, .noLiteral hparse⟩
  | ok a =>
    dsimp only
    obtain ⟨htext, hzone⟩ := splitZone_compressed python hparse
    rw [hzone]
    cases hazone : a.zone with
    | some zone =>
      dsimp only
      cases hfound : zoneInterface host.interfaces zone with
      | error e =>
        dsimp only
        rw [ensures_done]
        exact Or.inl ⟨rfl, e, rfl, .noInterface hparse hazone hfound⟩
      | ok found =>
        have hnamed : IndexNamed host a (some found.interfaceIndex) := by
          rw [IndexNamed, hazone]
          exact ⟨found, hfound, rfl⟩
        refine (ensures_resolveActive iphlpapi htext (some found.interfaceIndex)
          (fun _ => family_of_zone hazone) (interfaceIndex_lt hfound)).mono ?_
        have hrouted : a.zone = none → ∃ route, host.routes a = some route := by
          intro hnone
          rw [hazone] at hnone
          cases hnone
        rintro outcome calls (⟨rfl, msg, rfl, hmsg⟩ | ⟨call, rfl, hlibrary, hasks, hsays⟩)
        · exact Or.inl ⟨rfl, _, rfl, .noLibrary hparse hnamed hrouted hmsg⟩
        · exact Or.inr ⟨a, _, call, rfl, hparse, hnamed, hrouted, hlibrary, hasks, hsays⟩
    | none =>
      have hrequire : requireAddress (splitZone (a.compressed python)).address a.family =
          .ok a := by
        rw [bare_of_zone_eq_none hazone] at htext
        exact requireAddress_eq_ok_iff.mpr ⟨htext, rfl⟩
      have hquery : host.queryRoute (splitZone (a.compressed python)).address a.family =
          .ok (host.routes a) := by
        rw [ActiveHost.queryRoute, hrequire]
        rfl
      dsimp only
      rw [hquery]
      cases hroute : host.routes a with
      | none =>
        dsimp only
        rw [ensures_done]
        exact Or.inl ⟨rfl, _, rfl,
          .noRoute hparse hazone hroute (requireAddress_eq_ok_iff.mp hrequire).1⟩
      | some route =>
        have hnamed : IndexNamed host a none := by
          rw [IndexNamed, hazone]
        refine (ensures_resolveActive iphlpapi htext none (fun hsome => absurd hsome (by simp))
          (by decide)).mono ?_
        rintro outcome calls (⟨rfl, msg, rfl, hmsg⟩ | ⟨call, rfl, hlibrary, hasks, hsays⟩)
        · exact Or.inl ⟨rfl, _, rfl, .noLibrary hparse hnamed (fun _ => ⟨route, hroute⟩) hmsg⟩
        · exact Or.inr ⟨a, none, call, rfl, hparse, hnamed, fun _ => ⟨route, hroute⟩, hlibrary,
            hasks, hsays⟩

end IPScout.NeighboursWindows
