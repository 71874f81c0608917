import IPScout.Base.Outcome
import IPScout.Leases.Stores
import IPScout.Net.Network

/-!
# The subnets of an interface

`_subnets_of` of `subnet.py` makes one record for each address of an interface, with the network
the address sits on, what the DHCP client stored and the router of the default route.  The record
checks all of it against a network of its own (`_addressing_agrees`), and a record that is
refused would take the others with it.

None is refused: the network comes from the derivation the record checks against, so it has no
zone and contains its address, the broadcast address is that of the same network, and the router
goes to IPv4 records alone (`subnetsOf_spec`).
-/

namespace IPScout.Subnets

open Base Base.Text

/-! ### Checks -/

def requirePrefixLen (prefixLen : ℤ) (address : IPAddress) : Except PyError Unit :=
  if 0 ≤ prefixLen ∧ prefixLen ≤ address.maxPrefixlen then .ok ()
  else .error (.value [say "prefix_len must be 0-", .text (decimal address.maxPrefixlen),
    say " for ", .text address.text, say ", got ", .text (decimalInt prefixLen)])

def requireLiteral (text : Text) : Except PyError Unit :=
  match parseAddress text with
  | .ok _ => .ok ()
  | .error e => .error e

/-- A check of a field that may be absent. -/
def whenSet {α : Type} (check : α → Except PyError Unit) : Option α → Except PyError Unit
  | none => .ok ()
  | some x => check x

def MAX_MTU : ℤ := 0xFFFFFFFF

/-- The bounds of `_Mtu`. -/
def checkMtu (mtu : ℤ) : Except PyError Unit :=
  if mtu ≤ 0 then .error (.value [say "Input should be greater than 0"])
  else if MAX_MTU < mtu then
    .error (.value [say "Input should be less than or equal to 4294967295"])
  else .ok ()

/-! ### Interfaces -/

def interfaceCidr (address : Text) (prefixLen : ℤ) : Text :=
  address ++ '/' :: decimalInt prefixLen

/-- The class of an address, as `repr` names it. -/
def addressClass : IPAddress → Text
  | .v4 _ => "IPv4Address".toList
  | .v6 _ => "IPv6Address".toList

/-- `interface_network` of a text. -/
def networkOfInterface (address : Text) (prefixLen : ℤ) : Except PyError IPNetwork := do
  let parsed ← parseAddress address
  if h : 0 ≤ prefixLen ∧ prefixLen ≤ parsed.maxPrefixlen then
    .ok (interfaceNetwork parsed prefixLen.toNat (by omega))
  else
    .error (.value [say "(", .text (addressClass parsed), say "(", .quoted parsed.bare.text,
      say "), ", .text (decimalInt prefixLen),
      say ") does not appear to be an IPv4 or IPv6 network"])

/-- `InterfaceAddress`: a literal, and a prefix length that fits it. -/
structure InterfaceAddress where
  address : Text
  prefixLen : ℤ
  /-- `_prefix_fits_the_address`. -/
  fits : ∃ a, parseAddress address = .ok a ∧ requirePrefixLen prefixLen a = .ok ()

def InterfaceAddress.network (entry : InterfaceAddress) : Except PyError IPNetwork :=
  networkOfInterface entry.address entry.prefixLen

/-- What a subnet record needs of an `Interface`. -/
structure Interface where
  name : Text
  ipv4 : List InterfaceAddress
  ipv6 : List InterfaceAddress
  mtu : Option ℤ
  named : name ≠ []
  /-- `_addresses_sit_in_their_family`. -/
  sitInTheirFamily : ∀ pair ∈ [(AddressFamily.IPV4, ipv4), (.IPV6, ipv6)], ∀ entry ∈ pair.2,
    ∃ a, requireAddress entry.address pair.1 = .ok a
  bounded : whenSet checkMtu mtu = .ok ()

/-! ### Records -/

/-- `broadcast_address`: the network with every host bit set. -/
def broadcastAddress (n : IPv4Network) : IPAddress :=
  .v4 (n.networkAddress ||| BitVec.ofNat 32 (2 ^ (32 - n.prefixlen) - 1))

/-- What a `SubnetInfo` is built from. -/
structure SubnetData where
  interface : Text
  address : Text
  prefixLen : ℤ
  network : IPNetwork
  family : AddressFamily
  broadcast : Option Text
  gateway : Option Text
  dnsServers : List Text
  domain : Option Text
  dhcpServer : Option Text
  leaseObtained : Option Text
  leaseExpires : Option Text
  mtu : Option ℤ

namespace SubnetData

def cidr (d : SubnetData) : Text := interfaceCidr d.address d.prefixLen

def checkFields (d : SubnetData) : Except PyError Unit := do
  whenSet requireLiteral d.broadcast
  whenSet requireLiteral d.gateway
  d.dnsServers.forM requireLiteral
  whenSet requireLiteral d.dhcpServer
  whenSet checkMtu d.mtu

/-- The network is the one expected; packed, an address has no zone, so a zone it was written with
is looked at apart. -/
def checkNetwork (d : SubnetData) (expected : IPNetwork) (own : IPAddress) :
    Except PyError Unit :=
  if (d.network.address.bare, d.network.prefixlen) ≠ (expected.address.bare, expected.prefixlen) ∨
      ¬ (d.network.zone = none ∨ d.network.zone = own.zone) then
    .error (.value [say "network must be ", .text expected.text, say " for ", .text d.cidr,
      say ", got ", .text d.network.text])
  else .ok ()

/-- Whether a text is the broadcast address of the network. -/
def isBroadcast (expected : IPNetwork) (text : Text) : Bool :=
  match expected with
  | .v4 n => ipAddress text = some (broadcastAddress n)
  | .v6 _ => false

def checkBroadcast (expected : IPNetwork) (text : Text) : Except PyError Unit :=
  if isBroadcast expected text then .ok ()
  else .error (.value [say "broadcast must be the broadcast address of ", .text expected.text,
    say ", got ", .quoted text])

/-- `_addressing_agrees`. -/
def checkAddressing (d : SubnetData) : Except PyError Unit := do
  let own ← requireAddress d.address d.family
  requirePrefixLen d.prefixLen own
  let expected ← networkOfInterface d.address d.prefixLen
  d.checkNetwork expected own
  whenSet (checkBroadcast expected) d.broadcast
  whenSet (fun text => (requireAddress text d.family).map fun _ => ()) d.gateway

def check (d : SubnetData) : Except PyError Unit := do
  d.checkFields
  d.checkAddressing

end SubnetData

/-- Addressing for one interface, and whatever DHCP data the system stored. -/
structure SubnetInfo extends SubnetData where
  valid : toSubnetData.check = .ok ()

/-- `SubnetInfo(...)`. -/
def SubnetInfo.make (d : SubnetData) : Except PyError SubnetInfo :=
  match h : d.check with
  | .ok () => .ok ⟨d, h⟩
  | .error e => .error e

/-! ### The records of an interface -/

/-- The broadcast address, of an IPv4 network with room for one. -/
def broadcastOf (network : IPNetwork) : Option Text :=
  match network with
  | .v4 n => if network.numAddresses > 1 then some (broadcastAddress n).text else none
  | .v6 _ => none

/-- What a record is built from, on its network. -/
def recordData (item : Interface) (lease : LeaseInfo) (gateway : Option Text)
    (family : AddressFamily) (entry : InterfaceAddress) (network : IPNetwork) : SubnetData where
  interface := item.name
  address := entry.address
  prefixLen := entry.prefixLen
  network := network
  family := family
  broadcast := broadcastOf network
  gateway := if family = .IPV4 then gateway else none
  dnsServers := lease.dnsServers.map Literal.text
  domain := lease.domain
  dhcpServer := lease.dhcpServer.map Literal.text
  leaseObtained := lease.obtained
  leaseExpires := lease.expires
  mtu := item.mtu

/-- One turn of the loops of `_subnets_of`. -/
def subnetOf (item : Interface) (lease : LeaseInfo) (gateway : Option Text)
    (family : AddressFamily) (entry : InterfaceAddress) : Except PyError SubnetInfo := do
  let network ← entry.network
  SubnetInfo.make (recordData item lease gateway family entry network)

/-- The addresses of an interface with their families, in the order of the loops. -/
def Interface.entries (item : Interface) : List (AddressFamily × InterfaceAddress) :=
  [(AddressFamily.IPV4, item.ipv4), (.IPV6, item.ipv6)].flatMap fun pair =>
    pair.2.map fun entry => (pair.1, entry)

def subnetsOf (item : Interface) (lease : LeaseInfo) (gateway : Option Text) :
    Except PyError (List SubnetInfo) :=
  item.entries.mapM fun e => subnetOf item lease gateway e.1 e.2

/-! ### What the checks accept -/

theorem requirePrefixLen_eq_ok {prefixLen : ℤ} {a : IPAddress} :
    requirePrefixLen prefixLen a = .ok () ↔ 0 ≤ prefixLen ∧ prefixLen ≤ a.maxPrefixlen := by
  rw [requirePrefixLen]
  split
  · next h => exact iff_of_true rfl h
  · next h => exact iff_of_false (by simp) h

theorem requireLiteral_of_ipAddress {text : Text} {a : IPAddress} (h : ipAddress text = some a) :
    requireLiteral text = .ok () := by
  rw [requireLiteral, parseAddress_eq_ok.mpr h]

theorem requireLiteral_text (l : Literal) : requireLiteral l.text = .ok () := by
  obtain ⟨a, ha⟩ := l.literal
  exact requireLiteral_of_ipAddress (parseAddress_eq_ok.mp ha)

theorem whenSet_eq_ok {α : Type} {check : α → Except PyError Unit} {field : Option α}
    (h : ∀ x, field = some x → check x = .ok ()) : whenSet check field = .ok () := by
  cases field with
  | none => rfl
  | some x => exact h x rfl

theorem forM_requireLiteral (servers : List Literal) :
    (servers.map Literal.text).forM requireLiteral = .ok () := by
  induction servers with
  | nil => rfl
  | cons l servers ih =>
    show (do requireLiteral l.text; (servers.map Literal.text).forM requireLiteral) = _
    rw [requireLiteral_text]
    exact ih

theorem SubnetInfo.make_eq {d : SubnetData} (h : d.check = .ok ()) :
    SubnetInfo.make d = .ok ⟨d, h⟩ := by
  unfold SubnetInfo.make
  split
  · rfl
  · next e he =>
    rw [h] at he
    simp at he

theorem InterfaceAddress.network_eq {entry : InterfaceAddress} {a : IPAddress}
    (ha : ipAddress entry.address = some a) :
    ∃ h : entry.prefixLen.toNat ≤ a.maxPrefixlen,
      entry.network = .ok (interfaceNetwork a entry.prefixLen.toNat h) ∧
        requirePrefixLen entry.prefixLen a = .ok () := by
  obtain ⟨b, hb, hfits⟩ := entry.fits
  rw [parseAddress_eq_ok, ha, Option.some.injEq] at hb
  subst hb
  have hbounds := requirePrefixLen_eq_ok.mp hfits
  refine ⟨by omega, ?_, hfits⟩
  rw [network, networkOfInterface, parseAddress_eq_ok.mpr ha]
  show (if h : _ then _ else _) = _
  rw [dif_pos hbounds]

/-- **The broadcast address of a network is read back**, where it has one. -/
theorem ipAddress_broadcastOf {network : IPNetwork} {text : Text}
    (h : broadcastOf network = some text) :
    (∃ a, ipAddress text = some a) ∧ SubnetData.isBroadcast network text = true := by
  cases network with
  | v4 n =>
    rw [broadcastOf] at h
    split at h
    · have hread : ipAddress text = some (broadcastAddress n) := by
        rw [← Option.some.inj h]
        exact ipAddress_text _ (by simp [broadcastAddress, IPAddress.zone])
      exact ⟨⟨_, hread⟩, decide_eq_true hread⟩
    · simp at h
  | v6 n => simp [broadcastOf] at h

theorem isSome_broadcastOf (network : IPNetwork) :
    (broadcastOf network).isSome = true ↔ network.family = .IPV4 ∧ 1 < network.numAddresses := by
  cases network with
  | v4 n =>
    rw [broadcastOf]
    by_cases hmany : (IPNetwork.v4 n).numAddresses > 1
    · rw [if_pos hmany]
      exact iff_of_true rfl ⟨rfl, hmany⟩
    · rw [if_neg hmany]
      exact iff_of_false Bool.false_ne_true fun h => hmany h.2
  | v6 n => simp [broadcastOf, IPNetwork.family]

theorem checkNetwork_eq_ok {d : SubnetData} (own : IPAddress) (h : d.network.zone = none) :
    d.checkNetwork d.network own = .ok () := by
  rw [SubnetData.checkNetwork, if_neg]
  rintro (hne | hzone)
  · exact hne rfl
  · exact hzone (Or.inl h)

/-! ### What is returned -/

/-- The router of the default route is an address of IPv4. -/
def IsIPv4Literal (gateway : Option Text) : Prop :=
  ∀ text, gateway = some text → ∃ a, requireAddress text .IPV4 = .ok a

section Records

variable {item : Interface} {lease : LeaseInfo} {gateway : Option Text} {family : AddressFamily}
  {entry : InterfaceAddress}

theorem requireAddress_gateway (hgateway : IsIPv4Literal gateway) {text : Text}
    (h : (if family = .IPV4 then gateway else none) = some text) :
    ∃ a, requireAddress text family = .ok a := by
  by_cases hfour : family = .IPV4
  · rw [if_pos hfour] at h
    rw [hfour]
    exact hgateway text h
  · rw [if_neg hfour] at h
    simp at h

theorem checkFields_recordData (hgateway : IsIPv4Literal gateway) (network : IPNetwork) :
    (recordData item lease gateway family entry network).checkFields = .ok () := by
  have hbroadcast : whenSet requireLiteral (broadcastOf network) = .ok () := by
    apply whenSet_eq_ok
    intro text htext
    obtain ⟨⟨a, ha⟩, -⟩ := ipAddress_broadcastOf htext
    exact requireLiteral_of_ipAddress ha
  have hrouter : whenSet requireLiteral (if family = .IPV4 then gateway else none) = .ok () := by
    apply whenSet_eq_ok
    intro text htext
    obtain ⟨a, ha⟩ := requireAddress_gateway hgateway htext
    exact requireLiteral_of_ipAddress (requireAddress_eq_ok_iff.mp ha).1
  have hserver : whenSet requireLiteral (lease.dhcpServer.map Literal.text) = .ok () := by
    apply whenSet_eq_ok
    intro text htext
    obtain ⟨l, -, rfl⟩ := Option.map_eq_some_iff.mp htext
    exact requireLiteral_text l
  rw [SubnetData.checkFields]
  refine bind_eq_ok.mpr ⟨(), hbroadcast, bind_eq_ok.mpr ⟨(), hrouter, ?_⟩⟩
  refine bind_eq_ok.mpr ⟨(), forM_requireLiteral lease.dnsServers, ?_⟩
  exact bind_eq_ok.mpr ⟨(), hserver, item.bounded⟩

/-- **The record agrees with the network it was derived from.** -/
theorem checkAddressing_recordData (hgateway : IsIPv4Literal gateway) {a : IPAddress}
    (ha : requireAddress entry.address family = .ok a) {network : IPNetwork}
    (hnetwork : entry.network = .ok network) (hzone : network.zone = none)
    (hfits : requirePrefixLen entry.prefixLen a = .ok ()) :
    (recordData item lease gateway family entry network).checkAddressing = .ok () := by
  have hexpected : networkOfInterface entry.address entry.prefixLen = .ok network := hnetwork
  have hbroadcast : whenSet (SubnetData.checkBroadcast network) (broadcastOf network) =
      .ok () := by
    apply whenSet_eq_ok
    intro text htext
    rw [SubnetData.checkBroadcast, if_pos (ipAddress_broadcastOf htext).2]
  have hrouter : whenSet (fun text => (requireAddress text family).map fun _ => ())
      (if family = .IPV4 then gateway else none) = .ok () := by
    apply whenSet_eq_ok
    intro text htext
    obtain ⟨b, hb⟩ := requireAddress_gateway hgateway htext
    rw [hb]
    rfl
  have hagrees : (recordData item lease gateway family entry network).checkNetwork network a =
      .ok () := checkNetwork_eq_ok (d := recordData item lease gateway family entry network) a hzone
  rw [SubnetData.checkAddressing]
  refine bind_eq_ok.mpr ⟨a, ha, bind_eq_ok.mpr ⟨(), hfits, ?_⟩⟩
  refine bind_eq_ok.mpr ⟨network, hexpected, bind_eq_ok.mpr ⟨(), hagrees, ?_⟩⟩
  exact bind_eq_ok.mpr ⟨(), hbroadcast, hrouter⟩

end Records

/-- The record of an address: it passes the checks of `SubnetInfo`, its network is on no link and
has the address in it, its broadcast address is set where an IPv4 network has room for one, and the
router is on IPv4 alone. -/
structure RecordOf (item : Interface) (lease : LeaseInfo) (gateway : Option Text)
    (e : AddressFamily × InterfaceAddress) (r : SubnetInfo) : Prop where
  valid : r.check = .ok ()
  interface : r.interface = item.name
  address : r.address = e.2.address
  prefixLen : r.prefixLen = e.2.prefixLen
  family : r.family = e.1
  zoneFree : r.network.zone = none
  inNetwork : ∃ a, ipAddress e.2.address = some a ∧ r.network.contains a = true
  broadcast : r.broadcast.isSome = true ↔ e.1 = .IPV4 ∧ 1 < r.network.numAddresses
  gateway : r.gateway = if e.1 = .IPV4 then gateway else none
  lease : r.dnsServers = lease.dnsServers.map Literal.text ∧ r.domain = lease.domain ∧
    r.dhcpServer = lease.dhcpServer.map Literal.text ∧ r.leaseObtained = lease.obtained ∧
    r.leaseExpires = lease.expires
  mtu : r.mtu = item.mtu

/-- **An address of its family gets its record.** -/
theorem exists_subnetOf {item : Interface} (lease : LeaseInfo) {gateway : Option Text}
    (hgateway : IsIPv4Literal gateway) {e : AddressFamily × InterfaceAddress}
    (he : ∃ a, requireAddress e.2.address e.1 = .ok a) :
    ∃ r, subnetOf item lease gateway e.1 e.2 = .ok r ∧ RecordOf item lease gateway e r := by
  obtain ⟨a, ha⟩ := he
  obtain ⟨hread, hfamily⟩ := requireAddress_eq_ok_iff.mp ha
  obtain ⟨hle, hnetwork, hfits⟩ := InterfaceAddress.network_eq hread
  have hzone := zone_interfaceNetwork a hle
  have hcontains := contains_interfaceNetwork a hle
  have hcheck : (recordData item lease gateway e.1 e.2
      (interfaceNetwork a e.2.prefixLen.toNat hle)).check = .ok () :=
    bind_eq_ok.mpr ⟨(), checkFields_recordData hgateway _,
      checkAddressing_recordData hgateway ha hnetwork hzone hfits⟩
  refine ⟨⟨_, hcheck⟩, bind_eq_ok.mpr ⟨_, hnetwork, SubnetInfo.make_eq hcheck⟩, hcheck, rfl, rfl,
    rfl, rfl, hzone, ⟨a, hread, hcontains⟩, ?_, rfl, ⟨rfl, rfl, rfl, rfl, rfl⟩, rfl⟩
  show (broadcastOf (interfaceNetwork a e.2.prefixLen.toNat hle)).isSome = true ↔ _
  rw [isSome_broadcastOf, IPNetwork.family_of_contains hcontains, hfamily]
  exact Iff.rfl

theorem Interface.entries_eq (item : Interface) :
    item.entries = item.ipv4.map (fun entry => (AddressFamily.IPV4, entry)) ++
      item.ipv6.map fun entry => (AddressFamily.IPV6, entry) := by
  rw [entries, List.flatMap_cons, List.flatMap_singleton]

theorem Interface.exists_of_mem_entries {item : Interface} {e : AddressFamily × InterfaceAddress}
    (h : e ∈ item.entries) : ∃ a, requireAddress e.2.address e.1 = .ok a := by
  obtain ⟨pair, hpair, he⟩ := List.mem_flatMap.mp h
  obtain ⟨entry, hentry, rfl⟩ := List.mem_map.mp he
  exact item.sitInTheirFamily pair hpair entry hentry

/-- **No address of an interface is lost**: whatever its addresses, the lease and the router of
IPv4 are, every address gets one record, the IPv4 addresses first and each family in its order, and
none of the records is refused. -/
theorem subnetsOf_spec (item : Interface) (lease : LeaseInfo) (gateway : Option Text)
    (hgateway : IsIPv4Literal gateway) :
    ∃ found, subnetsOf item lease gateway = .ok found ∧
      List.Forall₂ (RecordOf item lease gateway)
        (item.ipv4.map (fun entry => (AddressFamily.IPV4, entry)) ++
          item.ipv6.map fun entry => (AddressFamily.IPV6, entry)) found := by
  rw [← item.entries_eq]
  exact exists_mapM_forall₂ fun e he =>
    exists_subnetOf lease hgateway (Interface.exists_of_mem_entries he)

theorem ipAddress_subnet : ipAddress "192.0.2.77".toList = some (.v4 0xc000024d) := by
  decide +kernel

theorem ipAddress_alone : ipAddress "203.0.113.5".toList = some (.v4 0xcb007105) := by
  decide +kernel

theorem ipAddress_zoned : ipAddress "fe80::1%eth0".toList =
    some (.v6 ⟨0xfe800000000000000000000000000001, some "eth0".toList⟩) := by
  decide +kernel

/-- A subnet, an address alone in its network and a link-local address with its zone. -/
def eth0 : Interface where
  name := "eth0".toList
  ipv4 := [⟨"192.0.2.77".toList, 24, _, parseAddress_eq_ok.mpr ipAddress_subnet, rfl⟩,
    ⟨"203.0.113.5".toList, 32, _, parseAddress_eq_ok.mpr ipAddress_alone, rfl⟩]
  ipv6 := [⟨"fe80::1%eth0".toList, 128, _, parseAddress_eq_ok.mpr ipAddress_zoned, rfl⟩]
  mtu := some 1500
  named := List.cons_ne_nil _ _
  sitInTheirFamily := by
    intro pair hpair entry hentry
    simp only [List.mem_cons, List.not_mem_nil, or_false] at hpair
    rcases hpair with rfl | rfl
    · simp only [List.mem_cons, List.not_mem_nil, or_false] at hentry
      rcases hentry with rfl | rfl
      · exact ⟨_, requireAddress_eq_ok ipAddress_subnet⟩
      · exact ⟨_, requireAddress_eq_ok ipAddress_alone⟩
    · rw [List.mem_singleton] at hentry
      rw [hentry]
      exact ⟨_, requireAddress_eq_ok ipAddress_zoned⟩
  bounded := rfl

/-- The router is outside both networks of IPv4. -/
theorem subnetsOf_spec_of_eth0 :
    ∃ found, subnetsOf eth0 .unset (some "198.51.100.1".toList) = .ok found ∧
      found.length = 3 := by
  have hgateway : IsIPv4Literal (some "198.51.100.1".toList) := by
    rintro text ⟨⟩
    have hrouter : ipAddress "198.51.100.1".toList = some (.v4 0xc6336401) := by decide +kernel
    exact ⟨_, requireAddress_eq_ok hrouter⟩
  obtain ⟨found, hfound, hrecords⟩ := subnetsOf_spec eth0 .unset _ hgateway
  exact ⟨found, hfound, hrecords.length_eq.symm⟩

end IPScout.Subnets
