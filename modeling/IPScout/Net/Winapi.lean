import IPScout.Net.Printed
import IPScout.Routes.Message

/-!
# Addresses as the Windows library holds them

The codecs of `winapi.py`.  A `SOCKADDR_INET` is a union of 28 octets: the family, in
Windows' own numbers, and behind it the address at the place the family gives it.

An address packed into a union is the one read from it (`sockaddrInet_eq_ok`), and what is
written of it names the same address (`ipAddress_addressText`).
-/

namespace IPScout.Winapi

open Base Base.Octets

/-! ### Families -/

def WIN_AF_INET : ℕ := 2
def WIN_AF_INET6 : ℕ := 23

def winFamily : AddressFamily → ℕ
  | .IPV6 => WIN_AF_INET6
  | .IPV4 => WIN_AF_INET

def familyFromWin (value : ℕ) : Option AddressFamily :=
  if value = WIN_AF_INET6 then some .IPV6
  else if value = WIN_AF_INET then some .IPV4
  else none

theorem familyFromWin_winFamily (family : AddressFamily) :
    familyFromWin (winFamily family) = some family := by
  cases family <;> rfl

theorem familyFromWin_eq_some {value : ℕ} {family : AddressFamily} :
    familyFromWin value = some family ↔ value = winFamily family := by
  constructor
  · intro h
    rw [familyFromWin] at h
    split at h
    · next hvalue => rw [hvalue, ← Option.some.inj h]; rfl
    · split at h
      · next hvalue => rw [hvalue, ← Option.some.inj h]; rfl
      · simp at h
  · rintro rfl
    exact familyFromWin_winFamily family

/-! ### `SOCKADDR_INET` -/

def SOCKADDR_INET_SIZE : ℕ := 28

/-- Where the address of a family stands: `sin_addr` and `sin6_addr`. -/
def addressOffset : AddressFamily → ℕ
  | .IPV4 => 4
  | .IPV6 => 8

/-- `sockaddr_inet`; an array field takes no octets but as many as it has. -/
def sockaddrInet (packed : Octets) (family : AddressFamily) : Except PyError Octets :=
  if packed.length = family.packedSize then
    .ok (packedLittle 2 (winFamily family) ++ List.replicate (addressOffset family - 2) 0 ++
      packed ++
      List.replicate (SOCKADDR_INET_SIZE - addressOffset family - family.packedSize) 0)
  else .error (.value [say "Can only assign sequence of same size"])

def sockaddrInetAddress (sockaddr : Octets) : Option IPAddress :=
  (familyFromWin (littleEndian (slice sockaddr 0 2))).map fun family =>
    .ofNat family (bigEndian (slice sockaddr (addressOffset family)
      (addressOffset family + family.packedSize)))

def addressText (address : IPAddress) : Text := inetNtop address.family address.packed

theorem family_ofNat (family : AddressFamily) (n : ℕ) :
    (IPAddress.ofNat family n).family = family := by
  cases family <;> rfl

theorem length_packed (a : IPAddress) : a.packed.length = a.family.packedSize := by
  cases a <;> exact length_packedNat _ _

theorem packed_ofNat {family : AddressFamily} {b : Octets} (h : b.length = family.packedSize) :
    (IPAddress.ofNat family (bigEndian b)).packed = b := by
  have hlt := bigEndian_lt b
  cases family with
  | IPV4 =>
    change b.length = 4 at h
    change packedNat 4 (BitVec.ofNat 32 (bigEndian b)).toNat = b
    rw [h] at hlt
    rw [BitVec.toNat_ofNat, Nat.mod_eq_of_lt (by simpa using hlt), ← h, packedNat_bigEndian]
  | IPV6 =>
    change b.length = 16 at h
    change packedNat 16 (BitVec.ofNat 128 (bigEndian b)).toNat = b
    rw [h] at hlt
    rw [BitVec.toNat_ofNat, Nat.mod_eq_of_lt (by simpa using hlt), ← h, packedNat_bigEndian]

theorem packedLittle_littleEndian {b : Octets} {n : ℕ} (h : b.length = n) :
    packedLittle n (littleEndian b) = b := by
  have hback := packedNat_bigEndian b.reverse
  rw [List.length_reverse, h] at hback
  rw [packedLittle]
  exact (congrArg List.reverse hback).trans b.reverse_reverse

theorem ofNat_packed_v4 (bits : BitVec 32) :
    IPAddress.ofNat .IPV4 (bigEndian (IPAddress.v4 bits).packed) = .v4 bits := by
  change IPAddress.v4 (BitVec.ofNat 32 (bigEndian (packedNat 4 bits.toNat))) = .v4 bits
  rw [bigEndian_packedNat, Nat.mod_eq_of_lt (by simpa using bits.isLt), BitVec.ofNat_toNat,
    BitVec.setWidth_eq]

theorem ofNat_packed (a : IPAddress) :
    IPAddress.ofNat a.family (bigEndian a.packed) = a.bare := by
  cases a with
  | v4 bits => exact ofNat_packed_v4 bits
  | v6 a =>
    change IPAddress.v6 ⟨BitVec.ofNat 128 (bigEndian (packedNat 16 a.ip.toNat)), none⟩ =
      .v6 ⟨a.ip, none⟩
    rw [bigEndian_packedNat, Nat.mod_eq_of_lt (by simpa using a.ip.isLt), BitVec.ofNat_toNat,
      BitVec.setWidth_eq]

/-- **What is written of an address read from a union reads back as that address.** -/
theorem ipAddress_addressText {family : AddressFamily} {b : Octets}
    (h : b.length = family.packedSize) :
    addressText (.ofNat family (bigEndian b)) = inetNtop family b ∧
      ipAddress (addressText (.ofNat family (bigEndian b))) =
        some (.ofNat family (bigEndian b)) := by
  have htext : addressText (.ofNat family (bigEndian b)) = inetNtop family b := by
    rw [addressText, family_ofNat, packed_ofNat h]
  exact ⟨htext, htext ▸ (ipAddress_inetNtop h).1⟩

/-- **A union holds the address packed into it**, and no other size is packed. -/
theorem sockaddrInet_eq_ok {packed s : Octets} {family : AddressFamily}
    (h : sockaddrInet packed family = .ok s) :
    packed.length = family.packedSize ∧ s.length = SOCKADDR_INET_SIZE ∧
      sockaddrInetAddress s = some (.ofNat family (bigEndian packed)) := by
  rw [sockaddrInet] at h
  split at h
  · next hlength =>
    have hs := Except.ok.inj h
    have htag : littleEndian (slice s 0 2) = winFamily family := by
      rw [← hs, List.append_assoc, List.append_assoc,
        slice_append_zero (length_packedLittle 2 _), littleEndian_packedLittle]
      cases family <;> rfl
    have hfront : (packedLittle 2 (winFamily family) ++
        List.replicate (addressOffset family - 2) (0 : UInt8)).length = addressOffset family := by
      rw [List.length_append, length_packedLittle, List.length_replicate]
      cases family <;> rfl
    have haddress : slice s (addressOffset family)
        (addressOffset family + family.packedSize) = packed := by
      rw [← hs, List.append_assoc]
      exact slice_append_append hfront (by rw [hlength])
    refine ⟨hlength, ?_, ?_⟩
    · rw [← hs, List.length_append, List.length_append, hfront, hlength, List.length_replicate]
      cases family <;> rfl
    · rw [sockaddrInetAddress, htag, familyFromWin_winFamily, Option.map_some, haddress]
  · simp at h

theorem exists_sockaddrInet {packed : Octets} {family : AddressFamily}
    (h : packed.length = family.packedSize) : ∃ s, sockaddrInet packed family = .ok s := by
  rw [sockaddrInet, if_pos h]
  exact ⟨_, rfl⟩

theorem exists_of_sockaddrInetAddress {sockaddr : Octets} {a : IPAddress}
    (hsize : sockaddr.length = SOCKADDR_INET_SIZE) (h : sockaddrInetAddress sockaddr = some a) :
    ∃ family b, b.length = AddressFamily.packedSize family ∧ a = .ofNat family (bigEndian b) := by
  rw [sockaddrInetAddress, Option.map_eq_some_iff] at h
  obtain ⟨family, _, rfl⟩ := h
  refine ⟨family, _, ?_, rfl⟩
  rw [length_slice, hsize]
  cases family <;> rfl

/-! ### Tables -/

/-- Where the rows of a table begin: behind the number of them, on a multiple of 8. -/
def TABLE_OFFSET : ℕ := 8

/-- The rows of a table, of which the number comes first. -/
def tableRows (size : ℕ) (table : Octets) : List Octets :=
  (List.range (littleEndian (slice table 0 4))).map fun i =>
    slice table (TABLE_OFFSET + size * i) (TABLE_OFFSET + size * (i + 1))

def tableOctets (padding : Octets) (rows : List Octets) : Octets :=
  packedLittle 4 rows.length ++ padding ++ rows.flatten

theorem slice_flatten {size : ℕ} {rows : List Octets} (hsize : ∀ row ∈ rows, row.length = size)
    {i : ℕ} (hi : i < rows.length) :
    slice rows.flatten (size * i) (size * (i + 1)) = rows[i] := by
  induction rows generalizing i with
  | nil => exact absurd hi (Nat.not_lt_zero _)
  | cons row rows ih =>
    have hrow : row.length = size := hsize row List.mem_cons_self
    rw [List.flatten_cons]
    cases i with
    | zero =>
      rw [Nat.mul_zero, Nat.zero_add, Nat.mul_one]
      exact slice_append_zero hrow rows.flatten
    | succ i =>
      have hlo : size * (i + 1) = row.length + size * i := by rw [hrow, Nat.mul_succ, Nat.add_comm]
      have hhi : size * (i + 1 + 1) = row.length + size * (i + 1) := by
        rw [hrow, Nat.mul_succ, Nat.add_comm]
      rw [hlo, hhi, slice_append_add]
      exact ih (fun r hr => hsize r (List.mem_cons_of_mem _ hr)) (Nat.lt_of_succ_lt_succ hi)

/-- **The rows read from a table are those it was made of.** -/
theorem tableRows_tableOctets {size : ℕ} {rows : List Octets} {padding : Octets}
    (hsize : ∀ row ∈ rows, row.length = size) (hpadding : padding.length = 4)
    (hcount : rows.length < 256 ^ 4) : tableRows size (tableOctets padding rows) = rows := by
  have hfront : (packedLittle 4 rows.length ++ padding).length = TABLE_OFFSET := by
    rw [List.length_append, length_packedLittle, hpadding]
    rfl
  have hnumber : littleEndian (slice (tableOctets padding rows) 0 4) = rows.length := by
    rw [tableOctets, List.append_assoc, slice_append_zero (length_packedLittle 4 _),
      littleEndian_packedLittle, Nat.mod_eq_of_lt hcount]
  rw [tableRows, hnumber]
  refine List.ext_getElem (by simp) ?_
  intro i hleft hright
  rw [List.getElem_map, List.getElem_range, tableOctets, ← hfront, slice_append_add]
  exact slice_flatten hsize hright

end IPScout.Winapi
