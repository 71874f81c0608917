import IPScout.Net.Literals
import IPScout.Scan.Find

/-!
# Targets from the neighbour cache

The text of an entry joins its address and its interface where the address is link-local,
and `resolve_one` takes the two apart again and refuses some shapes.  They agree on every
entry whose interface can be written as a zone (`isTargetOf_scoped`).  An entry that was
learned on no interface has nothing to join: its text is the bare address.
-/

namespace IPScout

open Base Base.Text

/-! ### Where the text of an entry is cut -/

theorem Neighbour.splitZone_ip (e : Neighbour) : splitZone e.ip = ⟨e.ip, none⟩ :=
  splitZone_of_notMem e.bare

theorem Neighbour.zone_address (e : Neighbour) : e.address.zone = none := by
  have hcut := (splitZone_of_ipAddress e.ipAddress_ip).2
  rw [e.splitZone_ip] at hcut
  exact hcut.symm

variable {python : PythonVersion}

theorem Neighbour.scoped_of_not_needsZone {e : Neighbour} (h : needsZone python e.address = false) :
    e.scoped python = e.ip := by
  rw [Neighbour.scoped]
  cases e.interface with
  | none => rfl
  | some interface =>
    dsimp only
    rw [h]
    rfl

theorem Neighbour.scoped_of_interface_eq_none {e : Neighbour} (h : e.interface = none) :
    e.scoped python = e.ip := by
  rw [Neighbour.scoped, h]

theorem Neighbour.scoped_of_needsZone {e : Neighbour} {interface : Text}
    (h : needsZone python e.address = true) (hinterface : e.interface = some interface) :
    e.scoped python = e.ip ++ '%' :: interface := by
  rw [Neighbour.scoped, hinterface]
  dsimp only
  rw [if_pos h]

theorem Neighbour.ipAddress_scoped {e : Neighbour} {interface : Text}
    (h : needsZone python e.address = true) (hzone : IsZone interface) :
    ∃ ip, e.address = .v6 ⟨ip, none⟩ ∧
      ipAddress (e.ip ++ '%' :: interface) = some (.v6 ⟨ip, some interface⟩) := by
  obtain ⟨ip, scope, haddress⟩ := exists_v6_of_needsZone h
  have hread := e.ipAddress_ip
  rw [haddress] at hread
  obtain ⟨hslash, ⟨hpct, hbits, rfl⟩ | ⟨x, _, hcut, _⟩⟩ :=
    ipv6Address_cases (ipv6Address_of_ipAddress hread).2
  · refine ⟨ip, haddress, ?_⟩
    rw [ipAddress_eq_of_colon (List.mem_append_left _ (colon_mem_of_ipv6Bits hbits)),
      ipv6Address_append hbits hpct hslash hzone]
    rfl
  · exact absurd (hcut ▸ List.mem_append_right _ List.mem_cons_self) e.bare

/-! ### Entries as targets -/

/-- The text of an entry is a target that is taken apart as it was put together. -/
structure IsTargetOf (env : Interfaces) (e : Neighbour) (t : Text) : Prop where
  accepted : ZoneChecksAccept env t
  address : (splitZone t).address = e.ip
  zone : (splitZone t).zone = if needsZone env.python e.address then e.interface else none

/-- The text of an entry that names no link is its bare address, which the second check
refuses. -/
structure IsBareOf (env : Interfaces) (e : Neighbour) (t : Text) : Prop where
  eq_ip : t = e.ip
  wellFormed : refuseAMalformedZone t = .ok ()
  split : splitZone t = ⟨e.ip, none⟩
  refused : ¬ ZoneChecksAccept env t

/-- **An entry is a target** if its address needs no zone or its interface can be one. -/
theorem isTargetOf_scoped (env : Interfaces) {e : Neighbour}
    (h : needsZone env.python e.address = true →
      ∃ interface, e.interface = some interface ∧ IsZone interface) :
    IsTargetOf env e (e.scoped env.python) := by
  by_cases hneeds : needsZone env.python e.address = true
  · obtain ⟨interface, hinterface, hzone⟩ := h hneeds
    obtain ⟨ip, _, hread⟩ := Neighbour.ipAddress_scoped hneeds hzone
    have hsplit := splitZone_append e.bare hzone.1
    rw [Neighbour.scoped_of_needsZone hneeds hinterface]
    refine ⟨(zoneChecksAccept_iff hread).mpr fun _ => rfl, ?_, ?_⟩
    · rw [hsplit]
    · rw [hsplit, if_pos hneeds, hinterface]
  · have hfalse : needsZone env.python e.address = false := by simpa using hneeds
    rw [Neighbour.scoped_of_not_needsZone hfalse]
    refine ⟨(zoneChecksAccept_iff e.ipAddress_ip).mpr fun hnot => absurd hnot hneeds, ?_, ?_⟩
    · rw [e.splitZone_ip]
    · rw [e.splitZone_ip, if_neg hneeds]

theorem isBareOf_scoped (env : Interfaces) {e : Neighbour}
    (hneeds : needsZone env.python e.address = true) (hinterface : e.interface = none) :
    IsBareOf env e (e.scoped env.python) := by
  rw [Neighbour.scoped_of_interface_eq_none hinterface]
  exact ⟨rfl, refuseAMalformedZone_of_ipAddress e.ipAddress_ip, e.splitZone_ip,
    not_zoneChecksAccept e.ipAddress_ip hneeds e.zone_address⟩

/-! ### What is returned -/

theorem mem_addressesHeldBy {entries : List Neighbour} {wanted t : Text}
    {family : Option AddressFamily} (h : t ∈ addressesHeldBy python entries wanted family) :
    ∃ e ∈ entries, t = e.scoped python := by
  obtain ⟨p, _, hfilter⟩ := exists_filter_ofFamily family
  rw [addressesHeldBy, matching, Dict.keys_fromKeys, hfilter, List.mem_eraseDups] at h
  obtain ⟨e, he, hscoped⟩ := List.mem_map.mp h
  exact ⟨e, List.mem_of_mem_filter (List.mem_of_mem_filter he), hscoped.symm⟩

theorem mem_findIpByMac {host : ScanHost} {mac : Text} {scan : Bool} {network : Option Text}
    {scope : Option SweepScope} {concurrency : ℤ} {family : Option AddressFamily}
    {found : List Text}
    (h : findIpByMac python host mac scan network scope concurrency family = .ok found) :
    ∃ hosts cache, host.neighbours hosts = .ok cache ∧
      ∀ t ∈ found, ∃ e ∈ cache, t = e.scoped python := by
  cases scan with
  | false =>
    obtain ⟨_, _, wanted, cache, _, hcache, rfl⟩ := findIpByMac_cache_eq_ok h
    exact ⟨[], cache, hcache, fun t ht => mem_addressesHeldBy ht⟩
  | true =>
    obtain ⟨wanted, covered, hwanted, hconcurrency, hplan⟩ := findIpByMac_scan_eq_ok h
    rw [findIpByMac_scan hwanted hconcurrency hplan] at h
    obtain ⟨_, cache, hcache, rfl⟩ := searchScope_eq_ok h
    refine ⟨hostsOf covered, cache, hcache, ?_⟩
    intro t ht
    obtain ⟨e, he, hscoped⟩ := mem_addressesHeldBy ht
    exact ⟨e, List.mem_of_mem_filter he, hscoped⟩

/-- **What is returned for an entry** is a target that gives back the entry's address and,
if that is link-local, its interface; or else the bare address of an entry that was
learned on no interface. -/
theorem addresses_are_targets (env : Interfaces) :
    (∀ entries wanted family, ∀ t ∈ addressesHeldBy env.python entries wanted family,
      ∃ e ∈ entries, t = e.scoped env.python) ∧
    (∀ host mac scan network scope concurrency family found,
      findIpByMac env.python host mac scan network scope concurrency family = .ok found →
      ∃ hosts cache, host.neighbours hosts = .ok cache ∧
        ∀ t ∈ found, ∃ e ∈ cache, t = e.scoped env.python) ∧
    (∀ e : Neighbour, (needsZone env.python e.address = true →
        ∃ interface, e.interface = some interface ∧ IsZone interface) →
      IsTargetOf env e (e.scoped env.python)) ∧
    (∀ e : Neighbour, needsZone env.python e.address = true → e.interface = none →
      IsBareOf env e (e.scoped env.python)) := by
  refine ⟨?_, ?_, ?_, ?_⟩
  · intro entries wanted family t ht
    exact mem_addressesHeldBy ht
  · intro host mac scan network scope concurrency family found h
    exact mem_findIpByMac h
  · intro e h
    exact isTargetOf_scoped env h
  · intro e hneeds hinterface
    exact isBareOf_scoped env hneeds hinterface

/-- A link-local entry and the interface it was learned on. -/
def linkLocalEntry (interface : Option Text) : Neighbour where
  ip := "fe80::53:1".toList
  mac := some ⟨"02:00:5e:00:53:01".toList, by decide +kernel⟩
  interface := interface
  family := .IPV6
  bare := by decide
  literal := ⟨_, rfl⟩

/-- Learned on no interface, the entry comes out in a form that the zone checks refuse. -/
theorem addresses_of_no_interface :
    (∀ python, addressesHeldBy python [linkLocalEntry none] "02:00:5e:00:53:01".toList none =
        ["fe80::53:1".toList]) ∧
      ∀ env, ¬ ZoneChecksAccept env "fe80::53:1".toList := by
  refine ⟨fun python => by cases python <;> decide +kernel, ?_⟩
  intro env
  have hread : ipAddress "fe80::53:1".toList =
      some (.v6 ⟨BitVec.ofNat 128 (0xfe80 * 2 ^ 112 + 0x530001), none⟩) := by
    decide +kernel
  have hneeds : ∀ python : PythonVersion, needsZone python
      (.v6 ⟨BitVec.ofNat 128 (0xfe80 * 2 ^ 112 + 0x530001), none⟩) = true := by
    intro python
    cases python <;> decide +kernel
  exact not_zoneChecksAccept hread (hneeds env.python) rfl

end IPScout
