import IPScout.Base.Utf8
import IPScout.Interfaces.Announced

/-!
# Interfaces on Windows

`interfaces_windows.py` asks `GetAdaptersAddresses` for the adapters, once more where the buffer
was too small, and builds a record of each: one refused address and the whole listing is lost.

The octets of a sockaddr are read as the address they hold (`sockaddrText_eq_some`), an adapter
has a record exactly when its prefix lengths fit (`toInterface_of_fits`), and a listing reports
every adapter in order, under names that tell those without one apart
(`listInterfaces_reports_adapters`).
-/

namespace IPScout.InterfacesWindows

open Base Base.Octets Base.Text Listing Winapi
open InterfacesPosix (orNone held betweenSize announcedAddress exists_announcedAddress)

/-! ### Sockaddrs -/

/-- `SOCKET_ADDRESS`; the pointer is the memory it points to. -/
structure SocketAddress where
  lpSockaddr : Option Octets
  iSockaddrLength : ℤ

def FAMILY_END : ℕ := 2

/-- `_sockaddr_text`, of the octets there are. -/
def rawText (raw : Octets) : Option (AddressFamily × Text) :=
  if raw.length < FAMILY_END then none
  else
    match familyFromWin (littleEndian (raw.take FAMILY_END)) with
    | some .IPV4 =>
      if 8 ≤ raw.length then some (.IPV4, inetNtop .IPV4 (slice raw 4 8)) else none
    | some .IPV6 =>
      if 24 ≤ raw.length then some (.IPV6, inetNtop .IPV6 (slice raw 8 24)) else none
    | none => none

def sockaddrText (address : SocketAddress) : Option (AddressFamily × Text) :=
  match address.lpSockaddr with
  | none => none
  | some memory =>
    if address.iSockaddrLength ≤ 0 then none
    else rawText (memory.take address.iSockaddrLength.toNat)

/-! ### Adapters -/

/-- `IP_ADAPTER_UNICAST_ADDRESS`. -/
structure UnicastAddress where
  address : SocketAddress
  onLinkPrefixLength : UInt8

def MAX_ADAPTER_ADDRESS_LENGTH : ℕ := 8

/-- `IP_ADAPTER_ADDRESSES`; the unicast addresses are those its pointers lead to. -/
structure Adapter where
  ifIndex : UInt32
  adapterName : Option Octets
  unicast : List UnicastAddress
  friendlyName : Option Text
  physicalAddress : Vector UInt8 MAX_ADAPTER_ADDRESS_LENGTH
  physicalAddressLength : UInt32
  mtu : UInt32
  ifType : UInt32
  operStatus : UInt32

/-- `decode("ascii", errors="replace")`. -/
def decodeAscii (raw : Octets) : Text :=
  raw.map fun octet =>
    if octet.toNat < 128 then Char.ofNat octet.toNat else replacementCharacter

/-- The name an adapter gets by its index, or by its position. -/
def numberedName (adapter : Adapter) (position : ℕ) : Text :=
  if adapter.ifIndex ≠ 0 then "ifindex-".toList ++ decimal adapter.ifIndex.toNat
  else "adapter-".toList ++ decimal position

def adapterName (adapter : Adapter) (position : ℕ) : Text :=
  match adapter.friendlyName.filter (· ≠ []) with
  | some name => name
  | none =>
    match adapter.adapterName.filter (· ≠ []) with
    | some raw => decodeAscii raw
    | none => numberedName adapter position

def macText (adapter : Adapter) : Option Text :=
  if adapter.physicalAddressLength.toNat > MAX_ADAPTER_ADDRESS_LENGTH then none
  else formatHardwareAddress
    (adapter.physicalAddress.toList.take adapter.physicalAddressLength.toNat)

/-! ### Records -/

/-- The addresses of a record, by their family. -/
structure Addresses where
  ipv4 : List Subnets.InterfaceAddress
  ipv6 : List Subnets.InterfaceAddress

def Addresses.append (found : Addresses) (record : Subnets.InterfaceAddress) :
    AddressFamily → Addresses
  | .IPV6 => { found with ipv6 := found.ipv6 ++ [record] }
  | .IPV4 => { found with ipv4 := found.ipv4 ++ [record] }

/-- One turn of the loop of `_to_interface`; `none` is a refused address. -/
def absorbUnicast (found : Addresses) (entry : UnicastAddress) : Option Addresses :=
  match sockaddrText entry.address with
  | none => some found
  | some (family, address) =>
    (makeAddress address entry.onLinkPrefixLength.toNat).map fun record =>
      found.append record family

def IF_TYPE_LOOPBACK : UInt32 := 24
def OPER_STATUS_UP : UInt32 := 1

def toInterface (adapter : Adapter) (position : ℕ) : Option Interface := do
  let found ← adapter.unicast.foldlM absorbUnicast ⟨[], []⟩
  InterfaceFields.make
    { name := adapterName adapter position
      index := orNone adapter.ifIndex.toNat
      ipv4 := found.ipv4
      ipv6 := found.ipv6
      mac := macText adapter
      isUp := adapter.operStatus == OPER_STATUS_UP
      isLoopback := adapter.ifType == IF_TYPE_LOOPBACK
      mtu := orNone (adapter.mtu.toNat : ℤ) }

/-- The loop of `list_interfaces`. -/
def walk (interfaces : List Interface) : List Adapter → Option (List Interface)
  | [] => some interfaces
  | adapter :: rest => do
    let record ← toInterface adapter interfaces.length
    walk (interfaces ++ [record]) rest

/-! ### The listing -/

def NO_ERROR : ℕ := 0
def ERROR_BUFFER_OVERFLOW : ℕ := 111
def INITIAL_BUFFER : ℕ := 15 * 1024

/-- What a call of `GetAdaptersAddresses` leaves: its result, the size it writes, and the adapter
at the front of the buffer with those that follow it. -/
structure AdaptersReply where
  result : ℕ
  size : ℕ
  adapter : Adapter
  next : List Adapter

/-- `list_interfaces`, by what each call answers to a buffer of a size. -/
def listInterfaces (getAdaptersAddresses : ℕ → ℕ → AdaptersReply) : Option (List Interface) :=
  let first := getAdaptersAddresses 0 INITIAL_BUFFER
  let reply :=
    if first.result = ERROR_BUFFER_OVERFLOW then getAdaptersAddresses 1 first.size else first
  if reply.result ≠ NO_ERROR then some [] else walk [] (reply.adapter :: reply.next)

/-! ### What a sockaddr holds -/

/-- The octets of a sockaddr are those of an address. -/
def SocketAddress.Holds (s : SocketAddress) (a : IPAddress) : Prop :=
  a.bare = a ∧ ∃ memory between rest, s.lpSockaddr = some memory ∧
    between.length = betweenSize a.family ∧
    memory.take s.iSockaddrLength.toNat =
      packedLittle 2 (winFamily a.family) ++ between ++ a.packed ++ rest

/-! ### What is read of a sockaddr -/

theorem bare_ofNat (family : AddressFamily) (n : ℕ) :
    (IPAddress.ofNat family n).bare = .ofNat family n := by
  cases family <;> rfl

theorem take_append_field (raw : Octets) {lo hi : ℕ} (h : lo ≤ hi) :
    raw.take lo ++ slice raw lo hi = raw.take hi := by
  have hfront : raw.take lo = (raw.take hi).take lo := by
    rw [List.take_take, Nat.min_eq_left h]
  rw [hfront, slice, List.take_append_drop]

def addressEnd (family : AddressFamily) : ℕ := 2 + betweenSize family + family.packedSize

theorem rawText_of_family {raw : Octets} {family : AddressFamily} (hlength : 2 ≤ raw.length)
    (hfamily : littleEndian (raw.take 2) = winFamily family) :
    rawText raw =
      if addressEnd family ≤ raw.length then
        some (family, inetNtop family (slice raw (2 + betweenSize family) (addressEnd family)))
      else none := by
  rw [rawText, if_neg (show ¬ raw.length < FAMILY_END by rw [FAMILY_END]; omega)]
  rw [show littleEndian (raw.take FAMILY_END) = winFamily family from hfamily,
    familyFromWin_winFamily]
  cases family <;> rfl

/-- **Octets read as the address they begin with**, if they are long enough to hold it. -/
theorem rawText_eq_some {raw : Octets} {family : AddressFamily} {text : Text} :
    rawText raw = some (family, text) ↔ ∃ packed between rest,
      packed.length = family.packedSize ∧ between.length = betweenSize family ∧
      raw = packedLittle 2 (winFamily family) ++ between ++ packed ++ rest ∧
      text = inetNtop family packed := by
  constructor
  · intro h
    have hlength : 2 ≤ raw.length := by
      by_contra hshort
      rw [rawText, if_pos (show raw.length < FAMILY_END by rw [FAMILY_END]; omega)] at h
      simp at h
    have hfamily : littleEndian (raw.take 2) = winFamily family := by
      rw [← familyFromWin_eq_some]
      rw [rawText, if_neg (show ¬ raw.length < FAMILY_END by rw [FAMILY_END]; omega)] at h
      change (match familyFromWin (littleEndian (raw.take 2)) with
        | some .IPV4 => _ | some .IPV6 => _ | none => _) = _ at h
      cases hread : familyFromWin (littleEndian (raw.take 2)) with
      | none =>
        rw [hread] at h
        simp at h
      | some read =>
        rw [hread] at h
        cases read with
        | IPV4 =>
          dsimp only at h
          split at h
          · obtain ⟨rfl, -⟩ := Prod.mk.inj (Option.some.inj h)
            rfl
          · simp at h
        | IPV6 =>
          dsimp only at h
          split at h
          · obtain ⟨rfl, -⟩ := Prod.mk.inj (Option.some.inj h)
            rfl
          · simp at h
    rw [rawText_of_family hlength hfamily] at h
    split at h
    · next hlong =>
      refine ⟨slice raw (2 + betweenSize family) (addressEnd family),
        slice raw 2 (2 + betweenSize family), raw.drop (addressEnd family), ?_, ?_, ?_, ?_⟩
      · rw [length_slice, Nat.min_eq_left hlong, addressEnd]
        omega
      · rw [addressEnd] at hlong
        rw [length_slice, Nat.min_eq_left (by omega)]
        omega
      · have hfront : packedLittle 2 (winFamily family) = raw.take 2 := by
          rw [← hfamily]
          exact packedLittle_littleEndian (List.length_take_of_le hlength)
        rw [hfront, take_append_field raw (by omega), take_append_field raw (by
          rw [addressEnd]
          omega), List.take_append_drop]
      · exact (Prod.mk.inj (Option.some.inj h)).2.symm
    · simp at h
  · rintro ⟨packed, between, rest, hpacked, hbetween, rfl, rfl⟩
    have hheader : (packedLittle 2 (winFamily family) ++ between).length =
        2 + betweenSize family := by
      rw [List.length_append, length_packedLittle, hbetween]
    have hlength : (packedLittle 2 (winFamily family) ++ between ++ packed ++ rest).length =
        addressEnd family + rest.length := by
      rw [List.length_append, List.length_append, hheader, hpacked, addressEnd]
    have hfamily : littleEndian ((packedLittle 2 (winFamily family) ++ between ++ packed ++
        rest).take 2) = winFamily family := by
      have htake : (packedLittle 2 (winFamily family) ++ between ++ packed ++ rest).take 2 =
          packedLittle 2 (winFamily family) := by
        rw [List.append_assoc, List.append_assoc]
        exact List.take_left' (length_packedLittle 2 _)
      rw [htake, littleEndian_packedLittle]
      cases family <;> rfl
    have hend : 2 ≤ addressEnd family := by
      rw [addressEnd]
      omega
    have hfield : slice (packedLittle 2 (winFamily family) ++ between ++ packed ++ rest)
        (2 + betweenSize family) (addressEnd family) = packed := by
      rw [List.append_assoc]
      exact slice_append_append hheader (by rw [hpacked, addressEnd])
    rw [rawText_of_family (by omega) hfamily, if_pos (by omega), hfield]

theorem sockaddrText_eq (s : SocketAddress) :
    sockaddrText s = s.lpSockaddr.bind fun memory =>
      rawText (memory.take s.iSockaddrLength.toNat) := by
  rw [sockaddrText]
  cases s.lpSockaddr with
  | none => rfl
  | some memory =>
    dsimp only [Option.bind_some]
    split
    · next hlength =>
      rw [Int.toNat_eq_zero.mpr hlength, List.take_zero]
      rfl
    · rfl

/-- **A sockaddr is read as the address it holds.** -/
theorem sockaddrText_eq_some {s : SocketAddress} {family : AddressFamily} {text : Text} :
    sockaddrText s = some (family, text) ↔
      ∃ a, s.Holds a ∧ a.family = family ∧ text = inetNtop family a.packed := by
  rw [sockaddrText_eq, Option.bind_eq_some_iff]
  constructor
  · rintro ⟨memory, hmemory, hread⟩
    obtain ⟨packed, between, rest, hpacked, hbetween, hraw, rfl⟩ := rawText_eq_some.mp hread
    have hfamily := family_ofNat family (bigEndian packed)
    have hsame := packed_ofNat hpacked
    refine ⟨.ofNat family (bigEndian packed), ⟨bare_ofNat family _, memory, between, rest, hmemory,
      ?_, ?_⟩, hfamily, ?_⟩
    · rw [hfamily]
      exact hbetween
    · rw [hfamily, hsame]
      exact hraw
    · rw [hsame]
  · rintro ⟨a, ⟨-, memory, between, rest, hmemory, hbetween, hraw⟩, rfl, rfl⟩
    exact ⟨memory, hmemory, rawText_eq_some.mpr ⟨a.packed, between, rest, length_packed a,
      hbetween, hraw, rfl⟩⟩

/-- **A sockaddr holds one address.** -/
theorem SocketAddress.Holds.unique {s : SocketAddress} {a b : IPAddress} (ha : s.Holds a)
    (hb : s.Holds b) : a = b := by
  have hread := sockaddrText_eq_some.mpr ⟨a, ha, rfl, rfl⟩
  rw [sockaddrText_eq_some.mpr ⟨b, hb, rfl, rfl⟩, Option.some.injEq, Prod.mk.injEq] at hread
  have hleft := (ipAddress_inetNtop (length_packed a)).1
  have hright := (ipAddress_inetNtop (length_packed b)).1
  rw [ofNat_packed, ha.1] at hleft
  rw [ofNat_packed, hb.1, hread.2, hleft] at hright
  exact Option.some.inj hright

open Classical in
/-- The address a sockaddr holds, if it holds one. -/
noncomputable def SocketAddress.held (s : SocketAddress) : Option IPAddress :=
  if h : ∃ a, s.Holds a then some h.choose else none

theorem SocketAddress.held_eq_some {s : SocketAddress} {a : IPAddress} :
    s.held = some a ↔ s.Holds a := by
  rw [held]
  split
  · next h =>
    constructor
    · intro hsome
      rw [← Option.some.inj hsome]
      exact h.choose_spec
    · intro ha
      rw [h.choose_spec.unique ha]
  · next h =>
    constructor
    · intro hnone
      simp at hnone
    · intro ha
      exact absurd ⟨a, ha⟩ h

theorem sockaddrText_of_held (s : SocketAddress) :
    sockaddrText s = s.held.map fun a => (a.family, inetNtop a.family a.packed) := by
  cases hheld : s.held with
  | some a => exact sockaddrText_eq_some.mpr ⟨a, SocketAddress.held_eq_some.mp hheld, rfl, rfl⟩
  | none =>
    rw [Option.map_none, Option.eq_none_iff_forall_not_mem]
    rintro ⟨family, text⟩ hmem
    obtain ⟨a, ha, -, -⟩ := sockaddrText_eq_some.mp hmem
    rw [← SocketAddress.held_eq_some, hheld] at ha
    simp at ha

/-! ### What an adapter says -/

/-- The address of an entry, with its prefix length. -/
noncomputable def UnicastAddress.content (entry : UnicastAddress) : Option (IPAddress × ℕ) :=
  entry.address.held.map fun a => (a, entry.onLinkPrefixLength.toNat)

/-- The addresses of a family an adapter has, with their prefix lengths. -/
noncomputable def addressesOf (family : AddressFamily) (unicast : List UnicastAddress) :
    List (Option IPAddress × ℤ) :=
  (unicast.filterMap UnicastAddress.content).filterMap fun (a, prefixLen) =>
    if a.family = family then some (some a, (prefixLen : ℤ)) else none

/-- No prefix length is longer than the address it is of. -/
def Fits (unicast : List UnicastAddress) : Prop :=
  ∀ entry ∈ unicast, ∀ a, entry.address.Holds a →
    entry.onLinkPrefixLength.toNat ≤ a.family.packedSize * 8

/-- A record says what its adapter does. -/
structure Reports (adapter : Adapter) (r : Interface) : Prop where
  name_ne : r.name ≠ []
  friendly : ∀ name, adapter.friendlyName = some name → name ≠ [] → r.name = name
  permanent : (∀ name ∈ adapter.friendlyName, name = []) →
    ∀ raw, adapter.adapterName = some raw → raw ≠ [] → r.name = decodeAscii raw
  indexed : (∀ name ∈ adapter.friendlyName, name = []) → (∀ raw ∈ adapter.adapterName, raw = []) →
    adapter.ifIndex ≠ 0 → r.name = "ifindex-".toList ++ decimal adapter.ifIndex.toNat
  index : r.index = orNone adapter.ifIndex.toNat
  ipv4 : r.ipv4.map held = addressesOf .IPV4 adapter.unicast
  ipv6 : r.ipv6.map held = addressesOf .IPV6 adapter.unicast
  mac : r.mac = macText adapter
  isUp : r.isUp = true ↔ adapter.operStatus = OPER_STATUS_UP
  isLoopback : r.isLoopback = true ↔ adapter.ifType = IF_TYPE_LOOPBACK
  mtu : r.mtu = orNone (adapter.mtu.toNat : ℤ)

/-! ### Addresses -/

/-- What the loop of `_to_interface` has collected of the addresses of an adapter. -/
structure Collected (done : List UnicastAddress) (found : Addresses) : Prop where
  ipv4 : found.ipv4.map held = addressesOf .IPV4 done
  ipv6 : found.ipv6.map held = addressesOf .IPV6 done
  ipv4_sits : found.ipv4.all (sitsIn .IPV4) = true
  ipv6_sits : found.ipv6.all (sitsIn .IPV6) = true

theorem addressesOf_concat (family : AddressFamily) (done : List UnicastAddress)
    (entry : UnicastAddress) : addressesOf family (done ++ [entry]) =
      addressesOf family done ++ addressesOf family [entry] := by
  rw [addressesOf, List.filterMap_append, List.filterMap_append]
  rfl

theorem makeAddress_eq_none {a : IPAddress} {n : ℕ} (h : a.family.packedSize * 8 < n) :
    makeAddress (inetNtop a.family a.packed) n = none := by
  have hread := (ipAddress_inetNtop (length_packed a)).1
  rw [makeAddress]
  split
  · rfl
  · next b hparse =>
    obtain rfl := Option.some.inj (hread.symm.trans (parseAddress_eq_ok.mp hparse))
    split
    · rfl
    · next hfits =>
      rw [Subnets.requirePrefixLen_eq_ok, maxPrefixlen_ofNat] at hfits
      omega

theorem Collected.absorb {done : List UnicastAddress} {found : Addresses}
    (h : Collected done found) {entry : UnicastAddress} (hfits : Fits [entry]) :
    ∃ found', absorbUnicast found entry = some found' ∧ Collected (done ++ [entry]) found' := by
  rw [absorbUnicast, sockaddrText_of_held]
  cases hheld : entry.address.held with
  | none =>
    have hnothing : ∀ family, addressesOf family (done ++ [entry]) = addressesOf family done := by
      intro family
      rw [addressesOf_concat, addressesOf, addressesOf, List.filterMap_cons_none (by
        rw [UnicastAddress.content, hheld]
        rfl)]
      exact List.append_nil _
    refine ⟨found, rfl, ?_, ?_, h.ipv4_sits, h.ipv6_sits⟩
    · rw [hnothing]
      exact h.ipv4
    · rw [hnothing]
      exact h.ipv6
  | some a =>
    have hholds := SocketAddress.held_eq_some.mp hheld
    obtain ⟨record, hmake, haddress, hprefix, hsits⟩ :=
      exists_announcedAddress (hfits entry List.mem_cons_self a hholds)
    have hsaid : held record = (some a, (entry.onLinkPrefixLength.toNat : ℤ)) := by
      rw [held, haddress, hprefix, hholds.1]
    have hadded : ∀ family, addressesOf family (done ++ [entry]) =
        addressesOf family done ++ if a.family = family then [held record] else [] := by
      intro family
      rw [addressesOf_concat, hsaid]
      congr 1
      rw [addressesOf, List.filterMap_cons_some (by rw [UnicastAddress.content, hheld]; rfl),
        List.filterMap_nil, List.filterMap_cons]
      dsimp only
      by_cases hfamily : a.family = family
      · rw [if_pos hfamily, if_pos hfamily]
        rfl
      · rw [if_neg hfamily, if_neg hfamily]
        rfl
    have hmade : makeAddress (inetNtop a.family a.packed) entry.onLinkPrefixLength.toNat =
        some record := hmake
    refine ⟨found.append record a.family, ?_, ?_⟩
    · dsimp only [Option.map_some]
      rw [hmade]
      rfl
    · cases hfamily : a.family with
      | IPV4 =>
        rw [hfamily] at hsits
        refine ⟨?_, ?_, ?_, h.ipv6_sits⟩
        · rw [hadded, if_pos hfamily, ← h.ipv4]
          exact List.map_append
        · rw [hadded, if_neg (by rw [hfamily]; decide), List.append_nil]
          exact h.ipv6
        · rw [Addresses.append, List.all_append, h.ipv4_sits, List.all_cons, hsits]
          rfl
      | IPV6 =>
        rw [hfamily] at hsits
        refine ⟨?_, ?_, h.ipv4_sits, ?_⟩
        · rw [hadded, if_neg (by rw [hfamily]; decide), List.append_nil]
          exact h.ipv4
        · rw [hadded, if_pos hfamily, ← h.ipv6]
          exact List.map_append
        · rw [Addresses.append, List.all_append, h.ipv6_sits, List.all_cons, hsits]
          rfl

theorem absorbUnicast_eq_none {entry : UnicastAddress} (h : ¬ Fits [entry]) (found : Addresses) :
    absorbUnicast found entry = none := by
  simp only [Fits, not_forall, exists_prop, not_le] at h
  obtain ⟨_, hmem, a, hholds, hlong⟩ := h
  obtain rfl := List.mem_singleton.mp hmem
  rw [absorbUnicast, sockaddrText_of_held, SocketAddress.held_eq_some.mpr hholds]
  dsimp only [Option.map_some]
  rw [makeAddress_eq_none hlong]
  rfl

theorem fits_cons {entry : UnicastAddress} {rest : List UnicastAddress} :
    Fits (entry :: rest) ↔ Fits [entry] ∧ Fits rest := by
  simp only [Fits, List.forall_mem_cons, List.not_mem_nil, false_implies, implies_true, and_true]

/-- **The addresses of an adapter are collected exactly when their prefix lengths fit.** -/
theorem foldlM_absorbUnicast (unicast : List UnicastAddress) {done : List UnicastAddress}
    {found : Addresses} (h : Collected done found) :
    (Fits unicast → ∃ all, unicast.foldlM absorbUnicast found = some all ∧
      Collected (done ++ unicast) all) ∧
    (¬ Fits unicast → unicast.foldlM absorbUnicast found = none) := by
  induction unicast generalizing done found with
  | nil =>
    refine ⟨fun _ => ⟨found, rfl, by rwa [List.append_nil]⟩, ?_⟩
    intro hfits
    exact absurd (by intro entry hmem; simp at hmem) hfits
  | cons entry rest ih =>
    rw [fits_cons, List.foldlM_cons]
    by_cases hentry : Fits [entry]
    · obtain ⟨next, hnext, hcollected⟩ := h.absorb hentry
      rw [hnext, List.append_cons]
      refine ⟨?_, ?_⟩
      · intro hfits
        exact (ih hcollected).1 hfits.2
      · intro hfits
        exact (ih hcollected).2 fun hrest => hfits ⟨hentry, hrest⟩
    · rw [absorbUnicast_eq_none hentry]
      exact ⟨fun hfits => absurd hfits.1 hentry, fun _ => rfl⟩

/-! ### Names -/

/-- An adapter without a name of its own. -/
def Nameless (adapter : Adapter) : Prop :=
  (∀ name ∈ adapter.friendlyName, name = []) ∧ ∀ raw ∈ adapter.adapterName, raw = []

theorem numberedName_ne_nil (adapter : Adapter) (position : ℕ) :
    numberedName adapter position ≠ [] := by
  rw [numberedName]
  split
  · exact List.append_ne_nil_of_left_ne_nil (by decide) _
  · exact List.append_ne_nil_of_left_ne_nil (by decide) _

/-- **No adapter is reported under an empty name.** -/
theorem adapterName_ne_nil (adapter : Adapter) (position : ℕ) :
    adapterName adapter position ≠ [] := by
  rw [adapterName]
  split
  · next name hname => exact of_decide_eq_true (Option.filter_eq_some_iff.mp hname).2
  · split
    · next raw hraw =>
      rw [decodeAscii, ne_eq, List.map_eq_nil_iff]
      exact of_decide_eq_true (Option.filter_eq_some_iff.mp hraw).2
    · exact numberedName_ne_nil adapter position

theorem adapterName_of_friendly {adapter : Adapter} {name : Text}
    (h : adapter.friendlyName = some name) (hne : name ≠ []) (position : ℕ) :
    adapterName adapter position = name := by
  have hkept : (some name).filter (· ≠ []) = some name :=
    Option.filter_some_pos (decide_eq_true hne)
  rw [adapterName, h, hkept]

theorem filter_ne_nil {α : Type} [DecidableEq α] {o : Option (List α)} (h : ∀ x ∈ o, x = []) :
    o.filter (· ≠ []) = none := by
  rw [Option.filter_eq_none_iff]
  intro x hx
  simp [h x hx]

theorem adapterName_of_permanent {adapter : Adapter}
    (h : ∀ name ∈ adapter.friendlyName, name = []) {raw : Octets}
    (hraw : adapter.adapterName = some raw) (hne : raw ≠ []) (position : ℕ) :
    adapterName adapter position = decodeAscii raw := by
  have hkept : (some raw).filter (· ≠ []) = some raw :=
    Option.filter_some_pos (decide_eq_true hne)
  rw [adapterName, filter_ne_nil h, hraw, hkept]

theorem adapterName_of_nameless {adapter : Adapter} (h : Nameless adapter) (position : ℕ) :
    adapterName adapter position = numberedName adapter position := by
  rw [adapterName, filter_ne_nil h.1, filter_ne_nil h.2]

theorem decimal_injective {m n : ℕ} (h : decimal m = decimal n) : m = n := by
  rw [← decimalValue_decimal m, h, decimalValue_decimal]

theorem indexed_ne_positioned (s t : Text) : "ifindex-".toList ++ s ≠ "adapter-".toList ++ t := by
  intro hsame
  have hhead : some 'i' = some 'a' := congrArg List.head? hsame
  exact absurd hhead (by decide)

/-- **The names given by index and by position never collide**, neither with each other nor among
adapters whose indices differ. -/
theorem numberedName_ne {a b : Adapter} {i j : ℕ} (hposition : i ≠ j)
    (hindex : a.ifIndex = b.ifIndex → a.ifIndex = 0) : numberedName a i ≠ numberedName b j := by
  intro hsame
  rw [numberedName, numberedName] at hsame
  split at hsame
  · next ha =>
    split at hsame
    · have hnumber := decimal_injective (List.append_cancel_left hsame)
      exact ha (hindex (UInt32.toNat_inj.mp hnumber))
    · exact indexed_ne_positioned _ _ hsame
  · split at hsame
    · exact indexed_ne_positioned _ _ hsame.symm
    · exact hposition (decimal_injective (List.append_cancel_left hsame))

/-! ### One adapter -/

theorem collected_nil : Collected [] ⟨[], []⟩ := ⟨rfl, rfl, rfl, rfl⟩

theorem isHardwareAddress_macText (adapter : Adapter) :
    (macText adapter).all isHardwareAddress = true := by
  rw [macText]
  split
  · rfl
  · next hlength =>
    cases hmac : formatHardwareAddress
        (adapter.physicalAddress.toList.take adapter.physicalAddressLength.toNat) with
    | none => rfl
    | some mac =>
      refine isHardwareAddress_format hmac (le_trans (List.length_take_le _ _) ?_)
      exact le_trans (not_lt.mp hlength) (by decide)

theorem orNone_index (n : ℕ) : (orNone n).all (1 ≤ ·) = true := by
  rw [orNone]
  by_cases hzero : n = 0
  · rw [if_pos hzero]
    rfl
  · rw [if_neg hzero]
    exact decide_eq_true (Nat.one_le_iff_ne_zero.mpr hzero)

theorem orNone_mtu (n : UInt32) :
    (orNone (n.toNat : ℤ)).all (fun mtu => decide (0 < mtu ∧ mtu ≤ Subnets.MAX_MTU)) = true := by
  have hlt := n.toNat_lt
  rw [orNone]
  by_cases hzero : (n.toNat : ℤ) = 0
  · rw [if_pos hzero]
    rfl
  · rw [if_neg hzero]
    exact decide_eq_true ⟨by omega, show (n.toNat : ℤ) ≤ 4294967295 by omega⟩

/-- **An adapter has a record exactly when its prefix lengths fit.** -/
theorem toInterface_of_fits (adapter : Adapter) (position : ℕ) :
    (Fits adapter.unicast → ∃ r, toInterface adapter position = some r ∧
      r.name = adapterName adapter position ∧ Reports adapter r) ∧
    (¬ Fits adapter.unicast → toInterface adapter position = none) := by
  have hcollect := foldlM_absorbUnicast adapter.unicast collected_nil
  refine ⟨?_, ?_⟩
  · intro hfits
    obtain ⟨found, hfound, hcollected⟩ := hcollect.1 hfits
    rw [List.nil_append] at hcollected
    have hname := adapterName_ne_nil adapter position
    have haccepted : InterfaceFields.accepted
        { name := adapterName adapter position
          index := orNone adapter.ifIndex.toNat
          ipv4 := found.ipv4
          ipv6 := found.ipv6
          mac := macText adapter
          isUp := adapter.operStatus == OPER_STATUS_UP
          isLoopback := adapter.ifType == IF_TYPE_LOOPBACK
          mtu := orNone (adapter.mtu.toNat : ℤ) } = true := by
      rw [InterfaceFields.accepted, List.isEmpty_eq_false_iff.mpr hname, orNone_index,
        isHardwareAddress_macText, orNone_mtu, hcollected.ipv4_sits, hcollected.ipv6_sits]
      rfl
    refine ⟨⟨_, haccepted⟩, ?_, rfl, ⟨hname, ?_, ?_, ?_, rfl, hcollected.ipv4, hcollected.ipv6,
      rfl, beq_iff_eq, beq_iff_eq, rfl⟩⟩
    · rw [toInterface, hfound]
      exact InterfaceFields.make_of_accepted haccepted
    · intro name hfriendly hne
      exact adapterName_of_friendly hfriendly hne position
    · intro hunfriendly raw hraw hne
      exact adapterName_of_permanent hunfriendly hraw hne position
    · intro hunfriendly hunnamed hindex
      exact (adapterName_of_nameless ⟨hunfriendly, hunnamed⟩ position).trans (if_pos hindex)
  · intro hfits
    rw [toInterface, hcollect.2 hfits]
    rfl

/-! ### All adapters -/

theorem walk_eq_some {done : List Interface} {adapters : List Adapter}
    {records : List Interface} :
    walk done adapters = some records ↔ ∃ built, records = done ++ built ∧
      List.Forall₂ (fun x r => toInterface x.1 x.2 = some r) (adapters.zipIdx done.length)
        built := by
  induction adapters generalizing done with
  | nil =>
    rw [walk, List.zipIdx_nil]
    constructor
    · intro h
      exact ⟨[], (Option.some.inj h).symm.trans (List.append_nil _).symm, .nil⟩
    · rintro ⟨built, rfl, hnil⟩
      rw [List.forall₂_nil_left_iff.mp hnil, List.append_nil]
  | cons adapter rest ih =>
    rw [walk, List.zipIdx_cons]
    cases hrecord : toInterface adapter done.length with
    | none =>
      constructor
      · intro h
        simp at h
      · rintro ⟨built, -, hbuilt⟩
        obtain ⟨r, _, hr, -, -⟩ := List.forall₂_cons_left_iff.mp hbuilt
        rw [hrecord] at hr
        simp at hr
    | some record =>
      change walk (done ++ [record]) rest = some records ↔ _
      rw [ih, List.length_append, List.length_singleton]
      constructor
      · rintro ⟨built, rfl, hbuilt⟩
        exact ⟨record :: built, by rw [List.append_assoc]; rfl, .cons hrecord hbuilt⟩
      · rintro ⟨built, rfl, hbuilt⟩
        obtain ⟨r, built', hr, hrest, rfl⟩ := List.forall₂_cons_left_iff.mp hbuilt
        obtain rfl := Option.some.inj (hrecord.symm.trans hr)
        exact ⟨built', by rw [List.append_assoc]; rfl, hrest⟩

theorem walk_eq_none {done : List Interface} {adapters : List Adapter} :
    walk done adapters = none ↔ ∃ adapter ∈ adapters, ¬ Fits adapter.unicast := by
  induction adapters generalizing done with
  | nil =>
    rw [walk]
    simp
  | cons adapter rest ih =>
    rw [walk, List.exists_mem_cons_iff]
    have hadapter := toInterface_of_fits adapter done.length
    by_cases hfits : Fits adapter.unicast
    · obtain ⟨r, hr, -, -⟩ := hadapter.1 hfits
      rw [hr]
      change walk (done ++ [r]) rest = none ↔ _
      rw [ih]
      constructor
      · exact Or.inr
      · rintro (h | h)
        · exact absurd hfits h
        · exact h
    · rw [hadapter.2 hfits]
      exact iff_of_true rfl (Or.inl hfits)

/-! ### The listing -/

/-- `GetAdaptersAddresses` over a table: what fits the buffer is written to it, and otherwise the
size that is wanted. -/
structure Serves (getAdaptersAddresses : ℕ → ℕ → AdaptersReply) (needed : ℕ) (adapter : Adapter)
    (next : List Adapter) : Prop where
  enough : ∀ call size, needed ≤ size →
    (getAdaptersAddresses call size).result = NO_ERROR ∧
      (getAdaptersAddresses call size).adapter = adapter ∧
      (getAdaptersAddresses call size).next = next
  short : ∀ call size, size < needed →
    (getAdaptersAddresses call size).result = ERROR_BUFFER_OVERFLOW ∧
      (getAdaptersAddresses call size).size = needed

/-- **A table is read whatever its size**: the second buffer is as large as is wanted. -/
theorem Serves.listInterfaces {getAdaptersAddresses : ℕ → ℕ → AdaptersReply} {needed : ℕ}
    {adapter : Adapter} {next : List Adapter}
    (h : Serves getAdaptersAddresses needed adapter next) :
    listInterfaces getAdaptersAddresses = walk [] (adapter :: next) := by
  have hread : ∀ reply : AdaptersReply, reply.result = NO_ERROR → reply.adapter = adapter →
      reply.next = next →
      (if reply.result ≠ NO_ERROR then some [] else walk [] (reply.adapter :: reply.next)) =
        walk [] (adapter :: next) := by
    intro reply hresult hadapter hnext
    rw [hresult, hadapter, hnext]
    exact if_neg (not_not_intro rfl)
  rw [InterfacesWindows.listInterfaces]
  by_cases hsize : needed ≤ INITIAL_BUFFER
  · obtain ⟨hresult, hadapter, hnext⟩ := h.enough 0 INITIAL_BUFFER hsize
    rw [if_neg (show ¬ _ = ERROR_BUFFER_OVERFLOW by rw [hresult]; decide)]
    exact hread _ hresult hadapter hnext
  · obtain ⟨hresult, hwanted⟩ := h.short 0 INITIAL_BUFFER (by omega)
    obtain ⟨hagain, hadapter, hnext⟩ := h.enough 1 needed le_rfl
    rw [if_pos hresult, hwanted]
    exact hread _ hagain hadapter hnext

theorem reports_of_toInterface {adapter : Adapter} {position : ℕ} {r : Interface}
    (h : toInterface adapter position = some r) :
    r.name = adapterName adapter position ∧ Reports adapter r := by
  have hadapter := toInterface_of_fits adapter position
  by_cases hfits : Fits adapter.unicast
  · obtain ⟨r', hr, hname, hreports⟩ := hadapter.1 hfits
    obtain rfl := Option.some.inj (h.symm.trans hr)
    exact ⟨hname, hreports⟩
  · rw [hadapter.2 hfits] at h
    simp at h

/-- Two adapters without a name, which their indices do not confuse. -/
structure Distinguishable (a b : Adapter) : Prop where
  left : Nameless a
  right : Nameless b
  index_ne : a.ifIndex = b.ifIndex → a.ifIndex = 0

/-- **A listing reports every adapter, or is lost to a prefix length.**  It is lost exactly when
some prefix length does not fit its address; otherwise it has one record for each adapter, in
order, that says what the adapter does, and any two adapters without a name of their own are told
apart by the names they are given. -/
theorem listInterfaces_reports_adapters {getAdaptersAddresses : ℕ → ℕ → AdaptersReply}
    {needed : ℕ} {adapter : Adapter} {next : List Adapter}
    (h : Serves getAdaptersAddresses needed adapter next) :
    (listInterfaces getAdaptersAddresses = none ↔
      ∃ x ∈ adapter :: next, ¬ Fits x.unicast) ∧
    ∀ records, listInterfaces getAdaptersAddresses = some records →
      List.Forall₂ Reports (adapter :: next) records ∧
      ∀ (i j : ℕ) (a b : Adapter) (r s : Interface), i ≠ j →
        (adapter :: next)[i]? = some a → (adapter :: next)[j]? = some b →
        records[i]? = some r → records[j]? = some s → Distinguishable a b → r.name ≠ s.name := by
  rw [h.listInterfaces]
  refine ⟨walk_eq_none, ?_⟩
  intro records hrecords
  obtain ⟨built, hbuilt, hforall⟩ := walk_eq_some.mp hrecords
  rw [List.nil_append] at hbuilt
  subst hbuilt
  rw [List.length_nil] at hforall
  have hnames : ∀ {i : ℕ} {a : Adapter} {r : Interface}, (adapter :: next)[i]? = some a →
      records[i]? = some r → r.name = adapterName a i := by
    intro i a r ha hr
    have hpair : ((adapter :: next).zipIdx)[i]? = some (a, i) := by
      rw [List.getElem?_zipIdx, ha, Option.map_some, Nat.zero_add]
    obtain ⟨hi, hpair⟩ := List.getElem?_eq_some_iff.mp hpair
    obtain ⟨hi', hr⟩ := List.getElem?_eq_some_iff.mp hr
    have hmade := hforall.get hi hi'
    rw [List.get_eq_getElem, List.get_eq_getElem, hpair, hr] at hmade
    exact (reports_of_toInterface hmade).1
  refine ⟨?_, ?_⟩
  · have hreports := hforall.imp fun x r hmade => (reports_of_toInterface hmade).2
    rw [← List.forall₂_map_left_iff, List.zipIdx_map_fst] at hreports
    exact hreports
  · intro i j a b r s hne ha hb hr hs hab
    rw [hnames ha hr, hnames hb hs, adapterName_of_nameless hab.left,
      adapterName_of_nameless hab.right]
    exact numberedName_ne hne hab.index_ne

/-! ### Three adapters -/

/-- An adapter with no name of its own that is up, with an address. -/
def namelessAdapter (index : UInt32) (host : UInt8) : Adapter where
  ifIndex := index
  adapterName := none
  unicast := [⟨⟨some ([2, 0, 0, 0, 192, 0, 2, host] ++ List.replicate 8 0), 16⟩, 24⟩]
  friendlyName := some []
  physicalAddress := #v[2, 0, 0x5e, 0x10, 0, 7, 0, 0]
  physicalAddressLength := 6
  mtu := 1500
  ifType := 6
  operStatus := 1

/-- An adapter with a permanent name alone. -/
def permanentAdapter : Adapter :=
  { namelessAdapter 4 9 with adapterName := some (encodeUtf8 "\x7b4D36E972\x7d".toList) }

/-- A table that is larger than the first buffer. -/
def threeAdapters (_ size : ℕ) : AdaptersReply :=
  if size < 20000 then
    ⟨ERROR_BUFFER_OVERFLOW, 20000, namelessAdapter 0 0, []⟩
  else ⟨NO_ERROR, size, namelessAdapter 0 7, [namelessAdapter 12 8, permanentAdapter]⟩

theorem threeAdapters_serves :
    Serves threeAdapters 20000 (namelessAdapter 0 7) [namelessAdapter 12 8, permanentAdapter] where
  enough := by
    intro call size hsize
    rw [threeAdapters, if_neg (by omega)]
    exact ⟨rfl, rfl, rfl⟩
  short := by
    intro call size hsize
    rw [threeAdapters, if_pos hsize]
    exact ⟨rfl, rfl⟩

theorem listInterfaces_reports_adapters_three :
    (listInterfaces threeAdapters = none ↔
      ∃ x ∈ [namelessAdapter 0 7, namelessAdapter 12 8, permanentAdapter], ¬ Fits x.unicast) ∧
    ∀ records, listInterfaces threeAdapters = some records →
      List.Forall₂ Reports [namelessAdapter 0 7, namelessAdapter 12 8, permanentAdapter] records ∧
      ∀ (i j : ℕ) (a b : Adapter) (r s : Interface), i ≠ j →
        [namelessAdapter 0 7, namelessAdapter 12 8, permanentAdapter][i]? = some a →
        [namelessAdapter 0 7, namelessAdapter 12 8, permanentAdapter][j]? = some b →
        records[i]? = some r → records[j]? = some s → Distinguishable a b → r.name ≠ s.name :=
  listInterfaces_reports_adapters threeAdapters_serves

end IPScout.InterfacesWindows
