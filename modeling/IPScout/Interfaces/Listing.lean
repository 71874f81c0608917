import IPScout.Leases.Subnets
import IPScout.Net.Mac
import IPScout.Net.Winapi

/-!
# The record of an interface

`Interface` and `InterfaceAddress` of `models.py` check what they are given, and a listing is one
refusal away from being lost as a whole.  What the enumerators build them from is accepted: an
address written out is a literal of its family, a prefix length that fits the family fits the
address (`makeAddress_inetNtop`), and a hardware address of one to thirty-two octets is of the
form asked for (`isHardwareAddress_format`).
-/

namespace IPScout.Listing

open Base Base.Octets Base.Text

/-! ### Checks -/

def MAX_HARDWARE_OCTETS : ℕ := 32

/-- Whether `_require_hardware_address` accepts a text. -/
def isHardwareAddress (t : Text) : Bool :=
  (t.splitOn ':').all isOctetText && decide ((t.splitOn ':').length ≤ MAX_HARDWARE_OCTETS) &&
    (t.splitOn ':').any fun octet => hexValue octet != 0

/-- `InterfaceAddress(...)`; `none` is a refusal. -/
def makeAddress (address : Text) (prefixLen : ℤ) : Option Subnets.InterfaceAddress :=
  match h : parseAddress address with
  | .error _ => none
  | .ok a =>
    match h' : Subnets.requirePrefixLen prefixLen a with
    | .error _ => none
    | .ok () => some ⟨address, prefixLen, a, h, h'⟩

/-- The fields of an `Interface`. -/
structure InterfaceFields where
  name : Text
  index : Option ℕ
  ipv4 : List Subnets.InterfaceAddress
  ipv6 : List Subnets.InterfaceAddress
  mac : Option Text
  isUp : Bool
  isLoopback : Bool
  mtu : Option ℤ

def sitsIn (family : AddressFamily) (entry : Subnets.InterfaceAddress) : Bool :=
  (requireAddress entry.address family).toBool

/-- The checks of an `Interface`. -/
def InterfaceFields.accepted (d : InterfaceFields) : Bool :=
  !d.name.isEmpty && d.index.all (1 ≤ ·) && d.mac.all isHardwareAddress &&
    d.mtu.all (fun mtu => decide (0 < mtu ∧ mtu ≤ Subnets.MAX_MTU)) &&
    d.ipv4.all (sitsIn .IPV4) && d.ipv6.all (sitsIn .IPV6)

/-- An `Interface`: fields that pass the checks. -/
structure Interface extends InterfaceFields where
  passes : toInterfaceFields.accepted = true

/-- `Interface(...)`; `none` is a refusal. -/
def InterfaceFields.make (d : InterfaceFields) : Option Interface :=
  if h : d.accepted = true then some ⟨d, h⟩ else none

/-! ### What passes -/

theorem isHardwareAddress_format {raw : Octets} {mac : Text}
    (h : formatHardwareAddress raw = some mac) (hlength : raw.length ≤ MAX_HARDWARE_OCTETS) :
    isHardwareAddress mac = true := by
  rw [formatHardwareAddress] at h
  split at h
  · simp at h
  · next hzero =>
    obtain rfl := Option.some.inj h
    have hne : raw ≠ [] := by
      rintro rfl
      exact hzero rfl
    obtain ⟨x, hx, hxne⟩ : ∃ x ∈ raw, x ≠ 0 := by
      simpa only [List.all_eq_true, beq_iff_eq, not_forall, exists_prop] using hzero
    have hvalue : ∀ x : UInt8, hexValue (hexOctet x) = x.toNat := by
      intro x
      have hx := x.toNat_lt
      rw [hexOctet, hexValue, List.foldl_cons, List.foldl_cons, List.foldl_nil,
        hexDigit_digitChar (by omega), hexDigit_digitChar (by omega)]
      show (0 * 16 + x.toNat / 16) * 16 + x.toNat % 16 = x.toNat
      omega
    rw [isHardwareAddress, splitOn_intercalate_hexOctet hne, Bool.and_eq_true, Bool.and_eq_true]
    refine ⟨⟨?_, ?_⟩, ?_⟩
    · rw [List.all_map, List.all_eq_true]
      exact fun x _ => isOctetText_hexOctet x
    · rw [List.length_map]
      exact decide_eq_true hlength
    · rw [List.any_map, List.any_eq_true]
      refine ⟨x, hx, ?_⟩
      rw [Function.comp_apply, hvalue, bne_iff_ne]
      exact fun h0 => hxne (UInt8.toNat_inj.mp h0)

theorem maxPrefixlen_ofNat (family : AddressFamily) (n : ℕ) :
    (IPAddress.ofNat family n).maxPrefixlen = family.packedSize * 8 := by
  cases family <;> rfl

/-- **An address written out is accepted with any prefix length of its family.** -/
theorem makeAddress_inetNtop {family : AddressFamily} {b : Octets} {n : ℕ}
    (hb : b.length = family.packedSize) (hn : n ≤ family.packedSize * 8) :
    ∃ entry, makeAddress (inetNtop family b) n = some entry ∧ entry.address = inetNtop family b ∧
      entry.prefixLen = n ∧ sitsIn family entry = true := by
  have hread := (ipAddress_inetNtop hb).1
  have hparse := parseAddress_eq_ok.mpr hread
  have hfits : Subnets.requirePrefixLen n (.ofNat family (bigEndian b)) = .ok () := by
    rw [Subnets.requirePrefixLen_eq_ok, maxPrefixlen_ofNat]
    omega
  refine ⟨⟨inetNtop family b, n, _, hparse, hfits⟩, ?_, rfl, rfl, ?_⟩
  · rw [makeAddress]
    split
    · next h =>
      rw [hparse] at h
      simp at h
    · next a h =>
      obtain rfl := Except.ok.inj (hparse.symm.trans h)
      split
      · next h' =>
        rw [hfits] at h'
        simp at h'
      · rfl
  · rw [sitsIn, requireAddress_eq_ok_iff.mpr ⟨hread, Winapi.family_ofNat family _⟩]
    rfl

theorem InterfaceFields.make_of_accepted {d : InterfaceFields} (h : d.accepted = true) :
    d.make = some ⟨d, h⟩ := dif_pos h

end IPScout.Listing
