import IPScout.Net.Hextets

/-!
# Networks

`IPv4Network` and `IPv6Network`: a network is its first address and a prefix length,
and the address has no bit set past the prefix.  A text is read without being strict
about that: the bits past the prefix are cleared, and a zone goes with them.

`hosts` lists what a sweep probes.  It goes by the numbers of the addresses, so only the
one host of a network of full length keeps a zone.
-/

namespace IPScout

open Base Base.Octets Base.Text

/-! ### Networks -/

structure IPv4Network where
  networkAddress : BitVec 32
  prefixlen : ℕ
  prefixlen_le : prefixlen ≤ 32
  masked : 2 ^ (32 - prefixlen) ∣ networkAddress.toNat
  deriving DecidableEq

structure IPv6Network where
  networkAddress : IPv6Address
  prefixlen : ℕ
  prefixlen_le : prefixlen ≤ 128
  masked : 2 ^ (128 - prefixlen) ∣ networkAddress.ip.toNat
  /-- The zone of a parsed address is one. -/
  zoned : ∀ zone, networkAddress.scopeId = some zone → IsZone zone
  deriving DecidableEq

inductive IPNetwork
  | v4 (n : IPv4Network)
  | v6 (n : IPv6Network)
  deriving DecidableEq

namespace IPNetwork

def family : IPNetwork → AddressFamily
  | v4 _ => .IPV4
  | v6 _ => .IPV6

def maxPrefixlen : IPNetwork → ℕ
  | v4 _ => 32
  | v6 _ => 128

def prefixlen : IPNetwork → ℕ
  | v4 n => n.prefixlen
  | v6 n => n.prefixlen

/-- `network_address`. -/
def address : IPNetwork → IPAddress
  | v4 n => .v4 n.networkAddress
  | v6 n => .v6 n.networkAddress

def numAddresses (n : IPNetwork) : ℕ := 2 ^ (n.maxPrefixlen - n.prefixlen)

theorem numAddresses_pos (n : IPNetwork) : 0 < n.numAddresses := Nat.pow_pos (by decide)

def zone (n : IPNetwork) : Option Text := n.address.zone

/-- `str` of a network. -/
def text (n : IPNetwork) : Text := n.address.text ++ '/' :: decimal n.prefixlen

end IPNetwork

def IPAddress.toNat : IPAddress → ℕ
  | v4 ip => ip.toNat
  | v6 a => a.ip.toNat

/-- `_address_class` of a number: no zone comes with it. -/
def IPAddress.ofNat (family : AddressFamily) (n : ℕ) : IPAddress :=
  match family with
  | .IPV4 => .v4 (BitVec.ofNat 32 n)
  | .IPV6 => .v6 ⟨BitVec.ofNat 128 n, none⟩

/-- The number with the bits past a prefix cleared. -/
def clearHostBits (hostBits n : ℕ) : ℕ := n / 2 ^ hostBits * 2 ^ hostBits

namespace IPNetwork

/-- `address in network`. -/
def contains (n : IPNetwork) (a : IPAddress) : Bool :=
  n.family == a.family &&
    clearHostBits (n.maxPrefixlen - n.prefixlen) a.toNat == n.address.toNat

/-- The addresses of the numbers from one up to and without another. -/
def span (family : AddressFamily) (first stop : ℕ) : List IPAddress :=
  (List.range' first (stop - first)).map (IPAddress.ofNat family)

/-- `hosts`: without the first address, and on IPv4 without the last, unless the network
is too small for that. -/
def hosts (n : IPNetwork) : List IPAddress :=
  let network := n.address.toNat
  let broadcast := network + n.numAddresses - 1
  if n.prefixlen = n.maxPrefixlen - 1 then span n.family network (broadcast + 1)
  else if n.prefixlen = n.maxPrefixlen then [n.address]
  else
    match n with
    | v4 _ => span .IPV4 (network + 1) broadcast
    | v6 _ => span .IPV6 (network + 1) (broadcast + 1)

end IPNetwork

/-! ### Reading -/

theorem clearHostBits_le (hostBits n : ℕ) : clearHostBits hostBits n ≤ n :=
  Nat.div_mul_le_self n (2 ^ hostBits)

theorem dvd_clearHostBits (hostBits n : ℕ) : 2 ^ hostBits ∣ clearHostBits hostBits n :=
  Nat.dvd_mul_left _ _

/-- The IPv4 network of an address, host bits cleared. -/
def IPv4Network.make (ip : BitVec 32) (prefixlen : ℕ) (h : prefixlen ≤ 32) : IPv4Network where
  networkAddress := BitVec.ofNat 32 (clearHostBits (32 - prefixlen) ip.toNat)
  prefixlen := prefixlen
  prefixlen_le := h
  masked := by
    rw [BitVec.toNat_ofNat, Nat.mod_eq_of_lt ((clearHostBits_le _ _).trans_lt ip.isLt)]
    exact dvd_clearHostBits _ _

/-- The IPv6 network of an address; with the host bits goes the zone. -/
def IPv6Network.make (a : IPv6Address) (prefixlen : ℕ) (h : prefixlen ≤ 128)
    (hzone : ∀ zone, a.scopeId = some zone → IsZone zone) : IPv6Network :=
  if hmasked : 2 ^ (128 - prefixlen) ∣ a.ip.toNat then
    { networkAddress := a
      prefixlen := prefixlen
      prefixlen_le := h
      masked := hmasked
      zoned := hzone }
  else
    { networkAddress := ⟨BitVec.ofNat 128 (clearHostBits (128 - prefixlen) a.ip.toNat), none⟩
      prefixlen := prefixlen
      prefixlen_le := h
      masked := by
        rw [BitVec.toNat_ofNat, Nat.mod_eq_of_lt ((clearHostBits_le _ _).trans_lt a.ip.isLt)]
        exact dvd_clearHostBits _ _
      zoned := by simp }

def prefixFromPrefixString (max : ℕ) (t : Text) : Option ℕ :=
  if t = [] ∨ t.all Char.isDigit = false then none
  else if decimalValue t ≤ max then some (decimalValue t)
  else none

/-- `_prefix_from_ip_int` of IPv4: the prefix whose mask a number is. -/
def prefixFromIpInt (n : ℕ) : Option ℕ :=
  (List.range 33).find? fun p => n = 2 ^ 32 - 2 ^ (32 - p)

/-- `_prefix_from_ip_string`: a netmask, or else a hostmask. -/
def prefixFromIpString (t : Text) : Option ℕ :=
  match ipv4Address t with
  | none => none
  | some ip => (prefixFromIpInt ip.toNat).or (prefixFromIpInt (2 ^ 32 - 1 - ip.toNat))

/-- `_make_netmask` of IPv4, as a prefix length; no mask is a full one. -/
def ipv4Prefix : Option Text → Option ℕ
  | none => some 32
  | some mask => (prefixFromPrefixString 32 mask).or (prefixFromIpString mask)

/-- `_make_netmask` of IPv6. -/
def ipv6Prefix : Option Text → Option ℕ
  | none => some 128
  | some mask => prefixFromPrefixString 128 mask

/-- `IPv4Network` of a text and its mask. -/
def ipv4Network (address : Text) (mask : Option Text) : Option IPv4Network := do
  let ip ← ipv4Address address
  let prefixlen ← ipv4Prefix mask
  if h : prefixlen ≤ 32 then some (.make ip prefixlen h) else none

/-- `IPv6Network` of a text and its mask. -/
def ipv6Network (address : Text) (mask : Option Text) : Option IPv6Network :=
  match ha : ipv6Address address with
  | none => none
  | some a => do
    let prefixlen ← ipv6Prefix mask
    if h : prefixlen ≤ 128 then some (.make a prefixlen h (isZone_of_ipv6Address ha)) else none

/-- A network of either family; `none` is the `ValueError`. -/
def networkOf (address : Text) (mask : Option Text) : Option IPNetwork :=
  ((ipv4Network address mask).map .v4).or ((ipv6Network address mask).map .v6)

/-- `ip_network(text, strict=False)`. -/
def ipNetwork (t : Text) : Option IPNetwork :=
  match t.splitOn '/' with
  | [address] => networkOf address none
  | [address, mask] => networkOf address (some mask)
  | _ => none

def IPAddress.maxPrefixlen : IPAddress → ℕ
  | v4 _ => 32
  | v6 _ => 128

/-- `interface_network`: the zone is dropped first. -/
def interfaceNetwork (a : IPAddress) (prefixlen : ℕ) (h : prefixlen ≤ a.maxPrefixlen) : IPNetwork :=
  match a, h with
  | .v4 ip, h => .v4 (.make ip prefixlen h)
  | .v6 a, h => .v6 (.make ⟨a.ip, none⟩ prefixlen h (by simp))

example : (ipNetwork "192.168.1.77/255.255.255.0".toList).map IPNetwork.text =
    some "192.168.1.0/24".toList := by decide +kernel

/-! ### Hosts -/

/-- The number of a host: of a network of more than two addresses the first is no host, and
on IPv4 the last is none either. -/
structure IPNetwork.IsHost (n : IPNetwork) (k : ℕ) : Prop where
  le : n.address.toNat ≤ k
  lt : k < n.address.toNat + n.numAddresses
  first : n.prefixlen + 1 < n.maxPrefixlen → k ≠ n.address.toNat
  last : n.prefixlen + 1 < n.maxPrefixlen → n.family = .IPV4 →
    k + 1 ≠ n.address.toNat + n.numAddresses

theorem IPNetwork.prefixlen_le (n : IPNetwork) : n.prefixlen ≤ n.maxPrefixlen := by
  cases n with
  | v4 n => exact n.prefixlen_le
  | v6 n => exact n.prefixlen_le

theorem IPNetwork.numAddresses_of_prefixlen_eq {n : IPNetwork} (h : n.prefixlen = n.maxPrefixlen) :
    n.numAddresses = 1 := by
  rw [numAddresses, h, Nat.sub_self, Nat.pow_zero]

theorem IPNetwork.mem_span {family : AddressFamily} {first stop : ℕ} {a : IPAddress} :
    a ∈ span family first stop ↔ ∃ k, first ≤ k ∧ k < stop ∧ a = .ofNat family k := by
  rw [span, List.mem_map]
  constructor
  · rintro ⟨k, hk, rfl⟩
    rw [List.mem_range'_1] at hk
    exact ⟨k, hk.1, by omega, rfl⟩
  · rintro ⟨k, hle, hlt, rfl⟩
    refine ⟨k, ?_, rfl⟩
    rw [List.mem_range'_1]
    omega

theorem IPNetwork.isHost_of_prefixlen_eq {n : IPNetwork} (h : n.prefixlen = n.maxPrefixlen)
    (k : ℕ) : n.IsHost k ↔ k = n.address.toNat := by
  have hcount := numAddresses_of_prefixlen_eq h
  constructor
  · rintro ⟨hle, hlt, _, _⟩
    omega
  · rintro rfl
    exact ⟨le_refl _, by omega, by omega, by omega⟩

/-- **The one host of a network of full length** is its address, as it was written. -/
theorem IPNetwork.hosts_of_prefixlen_eq {n : IPNetwork} (h : n.prefixlen = n.maxPrefixlen) :
    n.hosts = [n.address] := by
  have hmax : 0 < n.maxPrefixlen := by
    cases n with
    | v4 n => exact Nat.succ_pos _
    | v6 n => exact Nat.succ_pos _
  unfold hosts
  dsimp only
  rw [if_neg (by omega), if_pos h]

/-- **The hosts of any other network** are the numbers of its hosts. -/
theorem IPNetwork.mem_hosts_iff {n : IPNetwork} (h : n.prefixlen ≠ n.maxPrefixlen) (a : IPAddress) :
    a ∈ n.hosts ↔ ∃ k, n.IsHost k ∧ a = .ofNat n.family k := by
  have hle := n.prefixlen_le
  have hpos := n.numAddresses_pos
  unfold hosts
  dsimp only
  by_cases hpair : n.prefixlen = n.maxPrefixlen - 1
  · rw [if_pos hpair, mem_span]
    constructor
    · rintro ⟨k, hk, hk', rfl⟩
      exact ⟨k, ⟨hk, by omega, by omega, by omega⟩, rfl⟩
    · rintro ⟨k, hk, rfl⟩
      have := hk.lt
      exact ⟨k, hk.le, by omega, rfl⟩
  · rw [if_neg hpair, if_neg h]
    have hmany : n.prefixlen + 1 < n.maxPrefixlen := by omega
    cases n with
    | v4 n =>
      dsimp only
      rw [mem_span]
      constructor
      · rintro ⟨k, hk, hk', rfl⟩
        exact ⟨k, ⟨by omega, by omega, fun _ => by omega, fun _ _ => by omega⟩, rfl⟩
      · rintro ⟨k, hk, rfl⟩
        have hfirst := hk.first hmany
        have hlast := hk.last hmany rfl
        have hlow := hk.le
        have hhigh := hk.lt
        exact ⟨k, by omega, by omega, rfl⟩
    | v6 n =>
      dsimp only
      rw [mem_span]
      constructor
      · rintro ⟨k, hk, hk', rfl⟩
        exact ⟨k, ⟨by omega, by omega, fun _ => by omega, fun _ hfour => by simp [family] at hfour⟩,
          rfl⟩
      · rintro ⟨k, hk, rfl⟩
        have hfirst := hk.first hmany
        have hlow := hk.le
        have hhigh := hk.lt
        exact ⟨k, by omega, by omega, rfl⟩

theorem IPNetwork.exists_isHost (n : IPNetwork) : ∃ k, n.IsHost k := by
  have hpos := n.numAddresses_pos
  by_cases hmany : n.prefixlen + 1 < n.maxPrefixlen
  · have hfour : 2 ^ 2 ≤ n.numAddresses := Nat.pow_le_pow_right (by decide) (by omega)
    exact ⟨n.address.toNat + 1, by omega, by omega, fun _ => by omega, fun _ _ => by omega⟩
  · exact ⟨n.address.toNat, le_refl _, by omega, fun h => absurd h hmany, fun h => absurd h hmany⟩

/-! ### The network of an address -/

theorem clearHostBits_of_dvd {hostBits n : ℕ} (h : 2 ^ hostBits ∣ n) :
    clearHostBits hostBits n = n := Nat.div_mul_cancel h

theorem IPv4Network.toNat_make (ip : BitVec 32) {prefixlen : ℕ} (h : prefixlen ≤ 32) :
    (make ip prefixlen h).networkAddress.toNat = clearHostBits (32 - prefixlen) ip.toNat := by
  show (BitVec.ofNat 32 _).toNat = _
  rw [BitVec.toNat_ofNat, Nat.mod_eq_of_lt ((clearHostBits_le _ _).trans_lt ip.isLt)]

theorem IPv6Network.make_of_bare (ip : BitVec 128) {prefixlen : ℕ} (h : prefixlen ≤ 128)
    (hzone : ∀ zone, (⟨ip, none⟩ : IPv6Address).scopeId = some zone → IsZone zone) :
    (make ⟨ip, none⟩ prefixlen h hzone).networkAddress.scopeId = none ∧
      (make ⟨ip, none⟩ prefixlen h hzone).prefixlen = prefixlen ∧
      (make ⟨ip, none⟩ prefixlen h hzone).networkAddress.ip.toNat =
        clearHostBits (128 - prefixlen) ip.toNat := by
  rw [make]
  split
  · next hmasked => exact ⟨rfl, rfl, (clearHostBits_of_dvd hmasked).symm⟩
  · refine ⟨rfl, rfl, ?_⟩
    show (BitVec.ofNat 128 _).toNat = _
    rw [BitVec.toNat_ofNat, Nat.mod_eq_of_lt ((clearHostBits_le _ _).trans_lt ip.isLt)]

theorem zone_interfaceNetwork (a : IPAddress) {prefixlen : ℕ} (h : prefixlen ≤ a.maxPrefixlen) :
    (interfaceNetwork a prefixlen h).zone = none := by
  cases a with
  | v4 ip => rfl
  | v6 a => exact (IPv6Network.make_of_bare a.ip h (by simp)).1

/-- **The network of an address has the address in it.** -/
theorem contains_interfaceNetwork (a : IPAddress) {prefixlen : ℕ}
    (h : prefixlen ≤ a.maxPrefixlen) : (interfaceNetwork a prefixlen h).contains a = true := by
  cases a with
  | v4 ip =>
    rw [IPNetwork.contains, Bool.and_eq_true, beq_iff_eq, beq_iff_eq]
    exact ⟨rfl, (IPv4Network.toNat_make ip h).symm⟩
  | v6 a =>
    obtain ⟨_, hlength, hnumber⟩ := IPv6Network.make_of_bare a.ip h (by simp)
    rw [IPNetwork.contains, Bool.and_eq_true, beq_iff_eq, beq_iff_eq]
    refine ⟨rfl, ?_⟩
    show clearHostBits (128 - (IPv6Network.make ⟨a.ip, none⟩ prefixlen h _).prefixlen) a.ip.toNat =
      (IPv6Network.make ⟨a.ip, none⟩ prefixlen h _).networkAddress.ip.toNat
    rw [hlength, hnumber]

theorem IPNetwork.family_of_contains {n : IPNetwork} {a : IPAddress} (h : n.contains a = true) :
    n.family = a.family := by
  rw [contains, Bool.and_eq_true, beq_iff_eq] at h
  exact h.1

end IPScout
