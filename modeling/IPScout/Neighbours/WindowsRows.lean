import IPScout.Base.Outcome
import IPScout.Neighbours.Dump
import IPScout.Net.Winapi
import Mathlib.Data.List.Forall2

/-!
# The neighbour table of Windows

`neighbours_windows.py`: the library hands out the stack's table as a number of rows, each a
`MIB_IPNET_ROW2` of 88 octets, and takes a row of the same form to add or to delete.

A table is listed as the records of its rows that hold a learned address, in order
(`listNeighbours_rows`), and what `ipv4_neighbour_row` builds is listed as the entry it was
built for (`listNeighbours_ipv4NeighbourRow`).
-/

namespace IPScout.NeighboursWindows

open Base Base.Octets Base.Text Winapi

/-! ### `MIB_IPNET_ROW2` -/

def IPNET_ROW_SIZE : ℕ := 88

/-- The size of the physical address of a row. -/
def PHYSICAL_ADDRESS_SIZE : ℕ := 32

/-- What is read of a row. -/
structure IpnetRow where
  address : Octets
  interfaceIndex : ℕ
  physicalAddress : Octets
  physicalAddressLength : ℕ
  state : ℕ

namespace IpnetRow

def unpack (row : Octets) : IpnetRow where
  address := slice row 0 SOCKADDR_INET_SIZE
  interfaceIndex := littleEndian (slice row 28 32)
  physicalAddress := slice row 40 72
  physicalAddressLength := littleEndian (slice row 72 76)
  state := littleEndian (slice row 76 80)

/-- The octets of a row; its LUID, its flags and its reachability time are 0. -/
def octets (r : IpnetRow) : Octets :=
  r.address ++ packedLittle 4 r.interfaceIndex ++ List.replicate 8 0 ++ r.physicalAddress ++
    packedLittle 4 r.physicalAddressLength ++ packedLittle 4 r.state ++ List.replicate 8 0

end IpnetRow

/-! ### Reading -/

/-- `_STATES`, by number from 0. -/
def STATES : List NeighbourState :=
  [.FAILED, .INCOMPLETE, .OTHER, .OTHER, .STALE, .REACHABLE, .PERMANENT]

def NL_NUD_PERMANENT : ℕ := 6

def stateOf (value : ℕ) : NeighbourState := STATES.getD value .OTHER

def UNUSABLE : List NeighbourState := [.FAILED, .INCOMPLETE]

def declaredMac (raw : Octets) (length : ℕ) : Option Text := formatMac (raw.take length)

/-- One turn of the loop of `list_neighbours`. -/
def neighbourFromRow (env : Interfaces) (row : IpnetRow) :
    Except PyError (Option NeighbourRecord) :=
  let state := stateOf row.state
  if state ∈ UNUSABLE then .ok none
  else
    match sockaddrInetAddress row.address,
        declaredMac row.physicalAddress row.physicalAddressLength with
    | some address, some mac =>
      if !namesANeighbour env.python address then .ok none
      else
        (NeighbourRecord.make (addressText address) mac (interfaceName env row.interfaceIndex)
          state address.family).map some
    | _, _ => .ok none

def readRows (env : Interfaces) : List IpnetRow → List NeighbourRecord →
    Except PyError (List NeighbourRecord)
  | [], found => .ok found
  | row :: rest, found =>
    match neighbourFromRow env row with
    | .error e => .error e
    | .ok neighbour => readRows env rest (found ++ neighbour.toList)

/-- `list_neighbours`, by what `iphlpapi` loads as and what `GetIpNetTable2` answers with:
a `none` is a library that is not there, or a status other than `NO_ERROR`. -/
def listNeighbours (env : Interfaces) (table : Option Octets) :
    Except PyError (List NeighbourRecord) :=
  match table with
  | none => .ok []
  | some table => readRows env ((tableRows IPNET_ROW_SIZE table).map IpnetRow.unpack) []

/-! ### Writing -/

def ipv4NeighbourRow (ip : Text) (mac : Octets) (interfaceIndex : ℤ) : Except PyError Octets :=
  if mac.length ≠ 0 ∧ mac.length ≠ MAC_LENGTH then
    .error (.value [say "a neighbour entry's hardware address is ", .text (decimal MAC_LENGTH),
      say " bytes (or none, to delete), not ", .text (decimal mac.length)])
  else if ¬ (1 ≤ interfaceIndex ∧ interfaceIndex ≤ MAX_INTERFACE_INDEX) then
    .error (.value [say "interface index out of range 1-", .text (decimal MAX_INTERFACE_INDEX),
      say ": ", .text (decimalInt interfaceIndex)])
  else
    match requireAddress ip .IPV4 with
    | .error _ => .error (.value [.quoted ip, say " is not a dotted-quad IPv4 address"])
    | .ok address => do
      let sockaddr ← sockaddrInet address.packed .IPV4
      .ok (IpnetRow.octets {
        address := sockaddr
        interfaceIndex := interfaceIndex.toNat
        physicalAddress := mac ++ List.replicate (PHYSICAL_ADDRESS_SIZE - mac.length) 0
        physicalAddressLength := mac.length
        state := NL_NUD_PERMANENT })

/-! ### A row -/

/-- The fields of a row as it is laid out. -/
structure IpnetRow.Fits (r : IpnetRow) : Prop where
  address : r.address.length = SOCKADDR_INET_SIZE
  interfaceIndex : r.interfaceIndex < 256 ^ 4
  physicalAddress : r.physicalAddress.length = PHYSICAL_ADDRESS_SIZE
  physicalAddressLength : r.physicalAddressLength < 256 ^ 4
  state : r.state < 256 ^ 4

theorem IpnetRow.length_octets {r : IpnetRow} (h : r.Fits) : r.octets.length = IPNET_ROW_SIZE := by
  simp only [octets, List.length_append, length_packedLittle, List.length_replicate, h.address,
    h.physicalAddress]
  rfl

/-- **A row reads back as it was laid out.** -/
theorem IpnetRow.unpack_octets {r : IpnetRow} (h : r.Fits) : unpack r.octets = r := by
  obtain ⟨haddress, hindex, hphysical, hlength, hstate⟩ := h
  have hlayout : r.octets = r.address ++ (packedLittle 4 r.interfaceIndex ++
      (List.replicate 8 0 ++ (r.physicalAddress ++ (packedLittle 4 r.physicalAddressLength ++
        (packedLittle 4 r.state ++ List.replicate 8 0))))) := by
    simp only [octets, List.append_assoc]
  have hfirst : slice r.octets 0 SOCKADDR_INET_SIZE = r.address := by
    rw [hlayout]
    exact slice_append_zero haddress _
  have hsecond : slice r.octets 28 32 = packedLittle 4 r.interfaceIndex := by
    rw [hlayout]
    exact slice_append_append haddress (by rw [length_packedLittle])
  have hthird : slice r.octets 40 72 = r.physicalAddress := by
    rw [hlayout, ← List.append_assoc, ← List.append_assoc]
    refine slice_append_append ?_ (by rw [hphysical]; rfl)
    simp only [List.length_append, length_packedLittle, List.length_replicate, haddress]
    rfl
  have hfourth : slice r.octets 72 76 = packedLittle 4 r.physicalAddressLength := by
    rw [hlayout, ← List.append_assoc, ← List.append_assoc, ← List.append_assoc]
    refine slice_append_append ?_ (by rw [length_packedLittle])
    simp only [List.length_append, length_packedLittle, List.length_replicate, haddress, hphysical]
    rfl
  have hfifth : slice r.octets 76 80 = packedLittle 4 r.state := by
    rw [hlayout, ← List.append_assoc, ← List.append_assoc, ← List.append_assoc,
      ← List.append_assoc]
    refine slice_append_append ?_ (by rw [length_packedLittle])
    simp only [List.length_append, length_packedLittle, List.length_replicate, haddress, hphysical]
    rfl
  rw [unpack, hfirst, hsecond, hthird, hfourth, hfifth, littleEndian_packedLittle,
    littleEndian_packedLittle, littleEndian_packedLittle, Nat.mod_eq_of_lt hindex,
    Nat.mod_eq_of_lt hlength, Nat.mod_eq_of_lt hstate]

/-! ### One turn -/

/-- Whether a row holds a learned hardware address of a host. -/
def isReported (env : Interfaces) (row : IpnetRow) : Bool :=
  !decide (stateOf row.state ∈ UNUSABLE) &&
    (sockaddrInetAddress row.address).any (namesANeighbour env.python) &&
    (declaredMac row.physicalAddress row.physicalAddressLength).isSome

/-- The record of such a row. -/
structure IsRecord (env : Interfaces) (row : IpnetRow) (r : NeighbourRecord) : Prop where
  address : ipAddress r.ip = sockaddrInetAddress row.address
  family : (sockaddrInetAddress row.address).map IPAddress.family = some r.family
  mac : r.mac.map Subtype.val = declaredMac row.physicalAddress row.physicalAddressLength
  interface : r.interface = interfaceName env row.interfaceIndex
  state : r.state = stateOf row.state

/-- **A row that is reported has its record, and no other row has one.** -/
theorem neighbourFromRow_cases (env : Interfaces) {row : IpnetRow}
    (hsize : row.address.length = SOCKADDR_INET_SIZE) :
    (isReported env row = false ∧ neighbourFromRow env row = .ok none) ∨
      ∃ r, isReported env row = true ∧ neighbourFromRow env row = .ok (some r) ∧
        IsRecord env row r := by
  rw [neighbourFromRow, isReported]
  by_cases hstate : stateOf row.state ∈ UNUSABLE
  · left
    rw [if_pos hstate, decide_eq_true hstate]
    exact ⟨rfl, rfl⟩
  · rw [if_neg hstate, decide_eq_false hstate]
    cases haddress : sockaddrInetAddress row.address with
    | none => exact Or.inl ⟨rfl, rfl⟩
    | some address =>
      cases hmac : declaredMac row.physicalAddress row.physicalAddressLength with
      | none => exact Or.inl ⟨by simp, rfl⟩
      | some mac =>
        dsimp only
        rw [Option.any_some, Option.isSome_some, Bool.and_true, Bool.not_false, Bool.true_and]
        cases hnames : namesANeighbour env.python address with
        | false => exact Or.inl ⟨rfl, rfl⟩
        | true =>
          obtain ⟨family, b, hb, rfl⟩ := exists_of_sockaddrInetAddress hsize haddress
          obtain ⟨htext, hread⟩ := ipAddress_addressText hb
          obtain ⟨r, hr, hip, hfamily, hrmac, hinterface, hrstate⟩ := NeighbourRecord.make_eq
            (interfaceName env row.interfaceIndex) (stateOf row.state) hb hmac
          refine Or.inr ⟨r, rfl, ?_, ?_, ?_, ?_, hinterface, hrstate⟩
          · rw [family_ofNat, htext, hr]
            rfl
          · rw [hip, ← htext, hread, haddress]
          · rw [haddress, Option.map_some, family_ofNat, hfamily]
          · rw [hrmac, hmac]

/-! ### A table -/

/-- **Rows give the records of those that are reported**, in order. -/
theorem readRows_eq (env : Interfaces) {rows : List IpnetRow}
    (hsize : ∀ row ∈ rows, row.address.length = SOCKADDR_INET_SIZE)
    (found : List NeighbourRecord) :
    ∃ records, readRows env rows found = .ok (found ++ records) ∧
      List.Forall₂ (IsRecord env) (rows.filter (isReported env)) records := by
  induction rows generalizing found with
  | nil => exact ⟨[], by rw [List.append_nil]; rfl, .nil⟩
  | cons row rows ih =>
    have hrest : ∀ r ∈ rows, r.address.length = SOCKADDR_INET_SIZE :=
      fun r hr => hsize r (List.mem_cons_of_mem row hr)
    rw [readRows]
    rcases neighbourFromRow_cases env (hsize row List.mem_cons_self) with
      ⟨hreported, hturn⟩ | ⟨r, hreported, hturn, hr⟩
    · obtain ⟨records, hrecords, hall⟩ := ih hrest found
      rw [hturn, List.filter_cons_of_neg (by rw [hreported]; decide)]
      refine ⟨records, ?_, hall⟩
      rw [← hrecords]
      exact congrArg _ (List.append_nil found)
    · obtain ⟨records, hrecords, hall⟩ := ih hrest (found ++ [r])
      rw [hturn, List.filter_cons_of_pos (by rw [hreported])]
      refine ⟨r :: records, ?_, .cons hr hall⟩
      rw [← List.singleton_append, ← List.append_assoc]
      exact hrecords

theorem length_address_of_mem_map {rows : List Octets}
    (hsize : ∀ row ∈ rows, row.length = IPNET_ROW_SIZE) :
    ∀ row ∈ rows.map IpnetRow.unpack, row.address.length = SOCKADDR_INET_SIZE := by
  intro row hrow
  obtain ⟨octets, hoctets, rfl⟩ := List.mem_map.mp hrow
  rw [IpnetRow.unpack, length_slice, hsize octets hoctets]
  rfl

/-- **A table is listed as the records of its rows that are reported**, in order. -/
theorem listNeighbours_rows (env : Interfaces) {rows : List Octets} {padding : Octets}
    (hsize : ∀ row ∈ rows, row.length = IPNET_ROW_SIZE) (hpadding : padding.length = 4)
    (hcount : rows.length < 256 ^ 4) :
    ∃ found, listNeighbours env (some (tableOctets padding rows)) = .ok found ∧
      List.Forall₂ (IsRecord env) ((rows.map IpnetRow.unpack).filter (isReported env)) found := by
  rw [listNeighbours, tableRows_tableOctets hsize hpadding hcount]
  obtain ⟨records, hrecords, hall⟩ := readRows_eq env (length_address_of_mem_map hsize) []
  exact ⟨records, hrecords, hall⟩

def oneInterface : Interfaces where
  ifNametoindex name := if name = "ethernet_32768".toList then some 4 else none
  ifIndextoname index := if index = 4 then some "ethernet_32768".toList else none
  ifNameindex := [(4, "ethernet_32768".toList)]
  localInterfaces := [⟨"Ethernet 4".toList, some 4⟩]
  python := .since313

/-- A permanent row for a host of 192.0.2.0/24. -/
def permanentRow (host : UInt8) : Octets :=
  [2, 0, 0, 0, 192, 0, 2, host] ++ List.replicate 20 0 ++ [4, 0, 0, 0] ++ List.replicate 8 0 ++
    [0, 0, 0x5e, 0, 0x53, host] ++ List.replicate 26 0 ++ [6, 0, 0, 0] ++ [6, 0, 0, 0] ++
    List.replicate 8 0

/-- A table with a permanent row behind an empty one. -/
theorem listNeighbours_two_rows :
    ∃ found, listNeighbours oneInterface
        (some (tableOctets [0, 0, 0, 0] [List.replicate 88 0, permanentRow 7])) = .ok found ∧
      List.Forall₂ (IsRecord oneInterface)
        (([List.replicate 88 0, permanentRow 7].map IpnetRow.unpack).filter
          (isReported oneInterface)) found :=
  listNeighbours_rows oneInterface (by decide) (by decide) (by decide)

theorem exists_of_forall₂_append_cons {α β : Type*} {R : α → β → Prop} {before after : List α}
    {x : α} {ys : List β} (h : List.Forall₂ R (before ++ x :: after) ys) :
    ∃ first y rest, ys = first ++ y :: rest ∧ List.Forall₂ R before first ∧ R x y ∧
      List.Forall₂ R after rest := by
  induction before generalizing ys with
  | nil =>
    obtain ⟨y, rest, hy, hrest, rfl⟩ := List.forall₂_cons_left_iff.mp h
    exact ⟨[], y, rest, rfl, .nil, hy, hrest⟩
  | cons b before ih =>
    obtain ⟨y, ys, hy, hys, rfl⟩ := List.forall₂_cons_left_iff.mp h
    obtain ⟨first, z, rest, rfl, hfirst, hz, hrest⟩ := ih hys
    exact ⟨y :: first, z, rest, rfl, .cons hy hfirst, hz, hrest⟩

/-! ### What is written -/

/-- **A row that is built holds what it was built of**, and nothing is cut or wrapped. -/
theorem unpack_ipv4NeighbourRow {ip : Text} {mac row : Octets} {index : ℤ}
    (h : ipv4NeighbourRow ip mac index = .ok row) :
    row.length = IPNET_ROW_SIZE ∧ ∃ a, requireAddress ip .IPV4 = .ok a ∧
      sockaddrInetAddress (IpnetRow.unpack row).address = some a ∧
      ((IpnetRow.unpack row).interfaceIndex : ℤ) = index ∧
      declaredMac (IpnetRow.unpack row).physicalAddress
        (IpnetRow.unpack row).physicalAddressLength = formatMac mac ∧
      stateOf (IpnetRow.unpack row).state = .PERMANENT := by
  rw [ipv4NeighbourRow] at h
  split at h
  · cases h
  · next hmac =>
    split at h
    · cases h
    · next hindex =>
      rw [not_not] at hindex
      have hlength : mac.length ≤ MAC_LENGTH := by
        by_contra hlong
        exact hmac ⟨by omega, by omega⟩
      cases haddress : requireAddress ip .IPV4 with
      | error e =>
        rw [haddress] at h
        cases h
      | ok a =>
        rw [haddress] at h
        obtain ⟨sockaddr, hsockaddr, h⟩ := bind_eq_ok.mp h
        obtain rfl := Except.ok.inj h
        obtain ⟨_, hsize, hread⟩ := sockaddrInet_eq_ok hsockaddr
        obtain ⟨bits, rfl⟩ := exists_v4_of_requireAddress haddress
        have hmax : (MAX_INTERFACE_INDEX : ℤ) < 256 ^ 4 := by decide
        have hfits : IpnetRow.Fits {
            address := sockaddr
            interfaceIndex := index.toNat
            physicalAddress := mac ++ List.replicate (PHYSICAL_ADDRESS_SIZE - mac.length) 0
            physicalAddressLength := mac.length
            state := NL_NUD_PERMANENT } := by
          have hroom : MAC_LENGTH < PHYSICAL_ADDRESS_SIZE := by decide
          refine ⟨hsize, ?_, ?_, ?_, (by decide : NL_NUD_PERMANENT < 256 ^ 4)⟩
          · exact (Int.toNat_lt (by omega)).mpr (by push_cast; omega)
          · rw [List.length_append, List.length_replicate]
            omega
          · exact lt_of_le_of_lt hlength (by decide)
        rw [IpnetRow.unpack_octets hfits]
        refine ⟨IpnetRow.length_octets hfits, .v4 bits, rfl, ?_, ?_, ?_, rfl⟩
        · rw [hread, ofNat_packed_v4]
        · exact Int.toNat_of_nonneg (by omega)
        · rw [declaredMac, List.take_left']
          rfl

/-- **What `ipv4_neighbour_row` builds is listed as the entry it was built for**, wherever it
stands in a table: the address, the hardware address and the interface, as a permanent one. -/
theorem listNeighbours_ipv4NeighbourRow (env : Interfaces) {ip : Text} {mac row padding : Octets}
    {index : ℤ} {a : IPAddress} {text : Text} {before after : List Octets}
    (hrow : ipv4NeighbourRow ip mac index = .ok row) (hip : ipAddress ip = some a)
    (hnames : namesANeighbour env.python a = true) (hmac : formatMac mac = some text)
    (hsize : ∀ r ∈ before ++ row :: after, r.length = IPNET_ROW_SIZE)
    (hpadding : padding.length = 4) (hcount : (before ++ row :: after).length < 256 ^ 4) :
    ∃ first r rest,
      listNeighbours env (some (tableOctets padding (before ++ row :: after))) =
        .ok (first ++ r :: rest) ∧
      List.Forall₂ (IsRecord env) ((before.map IpnetRow.unpack).filter (isReported env)) first ∧
      List.Forall₂ (IsRecord env) ((after.map IpnetRow.unpack).filter (isReported env)) rest ∧
      ipAddress r.ip = some a ∧ r.mac.map Subtype.val = some text ∧
      r.interface = interfaceName env index.toNat ∧ r.state = .PERMANENT ∧ r.family = .IPV4 := by
  obtain ⟨found, hfound, hall⟩ := listNeighbours_rows env hsize hpadding hcount
  obtain ⟨_, b, hb, haddress, hindex, hdeclared, hstate⟩ := unpack_ipv4NeighbourRow hrow
  obtain ⟨hread, hfamily⟩ := requireAddress_eq_ok_iff.mp hb
  obtain rfl : b = a := Option.some.inj (hread.symm.trans hip)
  have hreported : isReported env (IpnetRow.unpack row) = true := by
    rw [isReported, hstate, haddress, hdeclared, hmac, Option.any_some, hnames]
    rfl
  rw [List.map_append, List.map_cons, List.filter_append, List.filter_cons_of_pos hreported] at hall
  obtain ⟨first, r, rest, rfl, hfirst, hr, hrest⟩ := exists_of_forall₂_append_cons hall
  refine ⟨first, r, rest, hfound, hfirst, hrest, ?_, ?_, ?_, ?_, ?_⟩
  · rw [hr.address, haddress]
  · rw [hr.mac, hdeclared, hmac]
  · rw [hr.interface, ← hindex, Int.toNat_natCast]
  · rw [hr.state, hstate]
  · have hr' := hr.family
    rw [haddress, Option.map_some, hfamily] at hr'
    exact (Option.some.inj hr').symm

/-- The row stands behind an empty one, between the rows of two other hosts. -/
theorem listNeighbours_builtRow :
    ∃ first r rest,
      listNeighbours oneInterface (some (tableOctets [0, 0, 0, 0]
        ([permanentRow 1, List.replicate 88 0] ++ permanentRow 7 :: [permanentRow 9]))) =
        .ok (first ++ r :: rest) ∧
      List.Forall₂ (IsRecord oneInterface)
        (([permanentRow 1, List.replicate 88 0].map IpnetRow.unpack).filter
          (isReported oneInterface)) first ∧
      List.Forall₂ (IsRecord oneInterface)
        (([permanentRow 9].map IpnetRow.unpack).filter (isReported oneInterface)) rest ∧
      ipAddress r.ip = some (.v4 0xc0000207) ∧
      r.mac.map Subtype.val = some "00:00:5e:00:53:07".toList ∧
      r.interface = interfaceName oneInterface (4 : ℤ).toNat ∧ r.state = .PERMANENT ∧
      r.family = .IPV4 := by
  have hrow : ipv4NeighbourRow "192.0.2.7".toList [0, 0, 0x5e, 0, 0x53, 7] 4 =
      .ok (permanentRow 7) := by
    decide +kernel
  exact listNeighbours_ipv4NeighbourRow oneInterface hrow (by decide +kernel) (by decide +kernel)
    (by decide +kernel) (by decide) (by decide) (by decide)

end IPScout.NeighboursWindows
