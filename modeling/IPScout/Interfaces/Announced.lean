import IPScout.Interfaces.Sockaddrs
import Mathlib.Data.List.Forall2

/-!
# What a chain of entries announces

The walk of `list_interfaces` keeps one accumulator for each name.  What the entries of one name
come to does not depend on where those of the others stand, so a listing has one record for each
name, in the order the names are first met, with its own addresses in order, their prefix lengths
and its hardware address; and no chain is refused (`listInterfaces_reports`).
-/

namespace IPScout.InterfacesPosix

open Base Base.Octets Base.Text Listing

/-! ### One entry -/

def announcedAddress (a : IPAddress) (prefixLen : ℕ) : Option Subnets.InterfaceAddress :=
  makeAddress (inetNtop a.family a.packed) prefixLen

/-- An accumulator that is told one thing more. -/
def Accumulator.tell (record : Accumulator) (x : Announcement) : Accumulator :=
  match x.said with
  | .nothing => record
  | .link mac =>
    match formatHardwareAddress mac with
    | none => record
    | some text => { record with mac := some text }
  | .address a prefixLen =>
    match a.family with
    | .IPV6 => { record with ipv6 := record.ipv6 ++ (announcedAddress a prefixLen).toList }
    | .IPV4 => { record with ipv4 := record.ipv4 ++ (announcedAddress a prefixLen).toList }

/-- What an entry says is well formed: a prefix length fits its address, and a hardware address
is no longer than a sockaddr keeps. -/
def Said.WellFormed : Said → Prop
  | .nothing => True
  | .link mac => mac.length ≤ 8
  | .address a prefixLen => prefixLen ≤ a.family.packedSize * 8

theorem Announces.wellFormed {s : Sockaddrs} {entry : IfAddrs} {x : Announcement}
    (h : Announces s entry x) : x.said.WellFormed := by
  obtain ⟨name, flags, said⟩ := x
  obtain ⟨-, -, h⟩ := h
  cases said with
  | nothing => exact trivial
  | link mac =>
    obtain ⟨_, -, -, hle, -⟩ := h
    exact hle
  | address a n =>
    obtain ⟨_, -, -, ⟨-, rfl⟩ | ⟨_, -, hmask⟩⟩ := h
    · exact le_rfl
    · exact hmask.le

theorem exists_announcedAddress {a : IPAddress} {n : ℕ} (h : n ≤ a.family.packedSize * 8) :
    ∃ entry, announcedAddress a n = some entry ∧ ipAddress entry.address = some a.bare ∧
      entry.prefixLen = n ∧ sitsIn a.family entry = true := by
  obtain ⟨entry, hmake, haddress, hlength, hsits⟩ := makeAddress_inetNtop (Winapi.length_packed a) h
  refine ⟨entry, hmake, ?_, hlength, hsits⟩
  rw [haddress, (ipAddress_inetNtop (Winapi.length_packed a)).1, Winapi.ofNat_packed]

/-- **An entry is absorbed as what it announces.** -/
theorem absorb_of_announces {s : Sockaddrs} {entry : IfAddrs} {x : Announcement}
    (h : Announces s entry x) (record : Accumulator) :
    absorb s record entry = some (record.tell x) := by
  have hwell := h.wellFormed
  obtain ⟨name, flags, said⟩ := x
  obtain ⟨-, -, h⟩ := h
  cases said with
  | nothing =>
    cases haddr : entry.addr with
    | none =>
      rw [absorb, haddr]
      rfl
    | some sockaddr =>
      have hsilent := h sockaddr haddr
      rw [absorb, haddr]
      dsimp only
      rw [hsilent.macOf]
      dsimp only
      rw [hsilent.addressOf]
      rfl
  | link mac =>
    obtain ⟨sockaddr, haddr, hlink⟩ := h
    rw [absorb, haddr]
    dsimp only [Accumulator.tell]
    rw [hlink.macOf]
    cases formatHardwareAddress mac with
    | none =>
      dsimp only
      rw [hlink.addressOf]
    | some text => rfl
  | address a n =>
    obtain ⟨sockaddr, haddr, haddress, hmask⟩ := h
    have hlength : prefixLength entry.netmask a.family = n := by
      rcases hmask with ⟨hnone, rfl⟩ | ⟨mask, hsome, hmask⟩
      · rw [hnone, prefixLength]
      · rw [hsome, hmask.prefixLength]
    obtain ⟨found, hfound, -⟩ := exists_announcedAddress hwell
    have hmake : makeAddress (inetNtop a.family a.packed) n = some found := hfound
    rw [absorb, haddr]
    dsimp only [Accumulator.tell]
    rw [haddress.macOf, haddress.addressOf]
    dsimp only
    rw [hlength, hmake, hfound]
    cases a.family <;> rfl

/-! ### One interface -/

/-- The addresses of a family that are announced, with their prefix lengths. -/
def addressesOf (family : AddressFamily) (own : List Announcement) :
    List (Option IPAddress × ℤ) :=
  own.filterMap fun x =>
    match x.said with
    | .address a prefixLen =>
      if a.family = family then some (some a.bare, (prefixLen : ℤ)) else none
    | _ => none

/-- The hardware addresses that are announced, of those that are not all zero. -/
def linksOf (own : List Announcement) : List Text :=
  own.filterMap fun x =>
    match x.said with
    | .link mac => formatHardwareAddress mac
    | _ => none

/-- What an address of a record says. -/
def held (entry : Subnets.InterfaceAddress) : Option IPAddress × ℤ :=
  (ipAddress entry.address, entry.prefixLen)

/-- An accumulator that has been told what is announced of one interface. -/
structure Told (own : List Announcement) (flags : ℕ) (record : Accumulator) : Prop where
  flags_eq : record.flags = flags
  ipv4 : record.ipv4.map held = addressesOf .IPV4 own
  ipv6 : record.ipv6.map held = addressesOf .IPV6 own
  mac : record.mac = (linksOf own).getLast?
  ipv4_sits : record.ipv4.all (sitsIn .IPV4) = true
  ipv6_sits : record.ipv6.all (sitsIn .IPV6) = true
  mac_accepted : record.mac.all isHardwareAddress = true

theorem told_start (flags : ℕ) : Told [] flags ⟨flags, [], [], none⟩ :=
  ⟨rfl, rfl, rfl, rfl, rfl, rfl, rfl⟩

theorem addressesOf_concat (family : AddressFamily) (own : List Announcement) (x : Announcement) :
    addressesOf family (own ++ [x]) = addressesOf family own ++ addressesOf family [x] :=
  List.filterMap_append

theorem linksOf_concat (own : List Announcement) (x : Announcement) :
    linksOf (own ++ [x]) = linksOf own ++ linksOf [x] := List.filterMap_append

section Tell

variable {own : List Announcement} {flags : ℕ} {record : Accumulator} {x : Announcement}

theorem Told.silent (h : Told own flags record) (haddresses : ∀ family, addressesOf family [x] = [])
    (hlinks : linksOf [x] = []) : Told (own ++ [x]) flags record := by
  refine ⟨h.flags_eq, ?_, ?_, ?_, h.ipv4_sits, h.ipv6_sits, h.mac_accepted⟩
  · rw [addressesOf_concat, haddresses, List.append_nil]
    exact h.ipv4
  · rw [addressesOf_concat, haddresses, List.append_nil]
    exact h.ipv6
  · rw [linksOf_concat, hlinks, List.append_nil]
    exact h.mac

theorem Told.setMac (h : Told own flags record) (haddresses : ∀ family, addressesOf family [x] = [])
    {text : Text} (hlinks : linksOf [x] = [text]) (htext : isHardwareAddress text = true) :
    Told (own ++ [x]) flags { record with mac := some text } := by
  refine ⟨h.flags_eq, ?_, ?_, ?_, h.ipv4_sits, h.ipv6_sits, htext⟩
  · rw [addressesOf_concat, haddresses, List.append_nil]
    exact h.ipv4
  · rw [addressesOf_concat, haddresses, List.append_nil]
    exact h.ipv6
  · rw [linksOf_concat, hlinks]
    exact List.getLast?_concat.symm

theorem Told.appendIpv4 (h : Told own flags record) {found : Subnets.InterfaceAddress}
    (hown : addressesOf .IPV4 [x] = [held found]) (hother : addressesOf .IPV6 [x] = [])
    (hlinks : linksOf [x] = []) (hsits : sitsIn .IPV4 found = true) :
    Told (own ++ [x]) flags { record with ipv4 := record.ipv4 ++ [found] } := by
  refine ⟨h.flags_eq, ?_, ?_, ?_, ?_, h.ipv6_sits, h.mac_accepted⟩
  · rw [addressesOf_concat, hown, ← h.ipv4]
    exact List.map_append
  · rw [addressesOf_concat, hother, List.append_nil]
    exact h.ipv6
  · rw [linksOf_concat, hlinks, List.append_nil]
    exact h.mac
  · rw [List.all_append, h.ipv4_sits, List.all_cons, hsits]
    rfl

theorem Told.appendIpv6 (h : Told own flags record) {found : Subnets.InterfaceAddress}
    (hown : addressesOf .IPV6 [x] = [held found]) (hother : addressesOf .IPV4 [x] = [])
    (hlinks : linksOf [x] = []) (hsits : sitsIn .IPV6 found = true) :
    Told (own ++ [x]) flags { record with ipv6 := record.ipv6 ++ [found] } := by
  refine ⟨h.flags_eq, ?_, ?_, ?_, h.ipv4_sits, ?_, h.mac_accepted⟩
  · rw [addressesOf_concat, hother, List.append_nil]
    exact h.ipv4
  · rw [addressesOf_concat, hown, ← h.ipv6]
    exact List.map_append
  · rw [linksOf_concat, hlinks, List.append_nil]
    exact h.mac
  · rw [List.all_append, h.ipv6_sits, List.all_cons, hsits]
    rfl

end Tell

theorem addressesOf_address (family : AddressFamily) (name : Text) (flags : ℕ) (a : IPAddress)
    (n : ℕ) : addressesOf family [⟨name, flags, .address a n⟩] =
      if a.family = family then [(some a.bare, (n : ℤ))] else [] := by
  rw [addressesOf, List.filterMap_cons]
  dsimp only
  by_cases hfamily : a.family = family
  · rw [if_pos hfamily, if_pos hfamily]
    rfl
  · rw [if_neg hfamily, if_neg hfamily]
    rfl

theorem linksOf_link (name : Text) (flags : ℕ) (mac : Octets) :
    linksOf [⟨name, flags, .link mac⟩] = (formatHardwareAddress mac).toList := rfl

theorem Told.tell {own : List Announcement} {flags : ℕ} {record : Accumulator}
    (h : Told own flags record) {x : Announcement} (hx : x.said.WellFormed) :
    Told (own ++ [x]) flags (record.tell x) := by
  obtain ⟨name, xflags, said⟩ := x
  cases said with
  | nothing => exact h.silent (fun _ => rfl) rfl
  | link mac =>
    have hlinks := linksOf_link name xflags mac
    dsimp only [Accumulator.tell]
    cases hmac : formatHardwareAddress mac with
    | none =>
      rw [hmac] at hlinks
      exact h.silent (fun _ => rfl) hlinks
    | some text =>
      have hshort : mac.length ≤ MAX_HARDWARE_OCTETS := le_trans hx (by decide)
      rw [hmac] at hlinks
      exact h.setMac (fun _ => rfl) hlinks (isHardwareAddress_format hmac hshort)
  | address a n =>
    obtain ⟨found, hfound, haddress, hlength, hsits⟩ := exists_announcedAddress hx
    have hheld : held found = (some a.bare, (n : ℤ)) := by
      rw [held, haddress, hlength]
    have haddresses : ∀ family, addressesOf family [⟨name, xflags, .address a n⟩] =
        if a.family = family then [held found] else [] := by
      intro family
      rw [hheld]
      exact addressesOf_address family name xflags a n
    dsimp only [Accumulator.tell]
    rw [hfound]
    cases hfamily : a.family with
    | IPV4 =>
      rw [hfamily] at haddresses hsits
      exact h.appendIpv4 (haddresses .IPV4) (haddresses .IPV6) rfl hsits
    | IPV6 =>
      rw [hfamily] at haddresses hsits
      exact h.appendIpv6 (haddresses .IPV6) (haddresses .IPV4) rfl hsits

theorem told_foldl {own : List Announcement} (flags : ℕ)
    (h : ∀ x ∈ own, x.said.WellFormed) :
    Told own flags (own.foldl Accumulator.tell ⟨flags, [], [], none⟩) := by
  induction own using List.reverseRecOn with
  | nil => exact told_start flags
  | append_singleton own x ih =>
    rw [List.foldl_append, List.foldl_cons, List.foldl_nil]
    exact (ih fun y hy => h y (List.mem_append_left _ hy)).tell (h x (by simp))

/-! ### The walk -/

def collectedOf (announced : List Announcement) : Dict Text Accumulator :=
  grouped Announcement.name (fun x => ⟨x.flags, [], [], none⟩) Accumulator.tell
    (announced.filter fun x => x.name ≠ [])

theorem collect_of_announces {s : Sockaddrs} {entry : IfAddrs} {x : Announcement}
    (h : Announces s entry x) (announced : List Announcement) :
    collect s (collectedOf announced) entry = some (collectedOf (announced ++ [x])) := by
  obtain ⟨hname, hflags, -⟩ := id h
  rw [collect, hname, hflags, collectedOf, collectedOf, List.filter_append]
  by_cases hempty : x.name = []
  · rw [if_pos hempty, List.filter_cons_of_neg (by simpa using hempty), List.filter_nil,
      List.append_nil]
  · rw [if_neg hempty, List.filter_cons_of_pos (by simpa using hempty), List.filter_nil,
      grouped_concat, absorb_of_announces h]
    rfl

/-- **The walk collects what is announced**, of each name its own. -/
theorem foldlM_collect {s : Sockaddrs} {entries : List IfAddrs} {announced : List Announcement}
    (h : List.Forall₂ (Announces s) entries announced) :
    entries.foldlM (collect s) Dict.empty = some (collectedOf announced) := by
  have hgo : ∀ (before : List Announcement),
      entries.foldlM (collect s) (collectedOf before) =
        some (collectedOf (before ++ announced)) := by
    induction h with
    | nil =>
      intro before
      rw [List.append_nil]
      rfl
    | cons hx hrest ih =>
      intro before
      rw [List.foldlM_cons, collect_of_announces hx before]
      exact (ih _).trans (by rw [List.append_assoc]; rfl)
  exact hgo []

/-! ### The host -/

/-- What a host answers about an MTU: Linux writes it on a line of its own, the BSDs behind the
name of the request. -/
def AnswersMtu (host : PosixHost) (name : Text) (mtu : Option ℕ) : Sockaddrs → Prop
  | .linux _ => host.sysfsMtu name = mtu.map fun n => decimal n ++ ['\n']
  | .bsd => ∃ before rest, before.length = 16 ∧
      host.ioctlMtu (ifreq name) = mtu.map fun n => before ++ packedLittle 4 n ++ rest

/-- A host whose indices are those of a kernel, and whose MTUs are 32-bit numbers. -/
structure Answers (s : Sockaddrs) (host : PosixHost) (mtu : Text → Option ℕ) : Prop where
  index_pos : ∀ name index, host.ifNametoindex name = some index → 1 ≤ index
  mtu_lt : ∀ name n, mtu name = some n → n < 2 ^ 32
  mtu_answered : ∀ name, AnswersMtu host name (mtu name) s

theorem strip_line (n : ℕ) : strip (decimal n ++ ['\n']) = decimal n := by
  have hspace : ∀ c ∈ decimal n, isSpace c = false := by
    intro c hc
    have hdigit := List.all_eq_true.mp (isDigit_decimal n) c hc
    rw [Char.isDigit, Bool.and_eq_true, decide_eq_true_eq, decide_eq_true_eq] at hdigit
    have hbounds : 48 ≤ c.toNat ∧ c.toNat ≤ 57 := ⟨hdigit.1, hdigit.2⟩
    simp only [isSpace, Bool.or_eq_false_iff, Bool.and_eq_false_iff, decide_eq_false_iff_not,
      beq_eq_false_iff_ne]
    omega
  obtain ⟨c, rest, hcons⟩ := List.exists_cons_of_ne_nil (decimal_ne_nil n)
  have hfront : (decimal n ++ ['\n']).dropWhile isSpace = decimal n ++ ['\n'] := by
    rw [hcons, List.cons_append, List.dropWhile_cons_of_neg]
    rw [hspace c (by rw [hcons]; exact List.mem_cons_self)]
    decide
  have hback : (decimal n).dropWhile isSpace = decimal n := by
    rw [hcons, List.dropWhile_cons_of_neg]
    rw [hspace c (by rw [hcons]; exact List.mem_cons_self)]
    decide
  have hstripped := strip_of_forall hspace
  rw [strip, hback] at hstripped
  rw [strip, hfront, List.reverse_append, List.reverse_singleton, List.singleton_append,
    List.dropWhile_cons_of_pos (by decide)]
  exact hstripped

theorem readInt_decimal {table : DigitTable} {n : ℕ} (h : n < 2 ^ 32) :
    readInt table (decimal n) = some (n : ℤ) := by
  have hshort : (decimal n).length ≤ 10 :=
    (Nat.length_toDigits_le_iff (by decide) (by decide)).mpr (show n < 10 ^ 10 by omega)
  have hlong : ¬ (decimal n = [] ∨ MAX_STR_DIGITS < (decimal n).length) := by
    rintro (hnil | hlt)
    · exact decimal_ne_nil n hnil
    · exact absurd (hlt.trans_le hshort) (by decide)
  rw [readInt_of_isDigit (isDigit_decimal n), if_neg hlong, decimalValue_decimal]

theorem mtuOf_eq {s : Sockaddrs} {host : PosixHost} {mtu : Text → Option ℕ}
    (h : Answers s host mtu) (name : Text) :
    mtuOf s host name = (mtu name).bind fun n => orNone (n : ℤ) := by
  have hanswered := h.mtu_answered name
  cases hmtu : mtu name with
  | none =>
    rw [hmtu] at hanswered
    cases s with
    | linux order =>
      have hnone : host.sysfsMtu name = none := hanswered
      rw [mtuOf, hnone]
      rfl
    | bsd =>
      obtain ⟨_, _, -, hnone⟩ := hanswered
      rw [mtuOf, hnone]
      rfl
  | some n =>
    have hlt := h.mtu_lt name n hmtu
    rw [hmtu] at hanswered
    cases s with
    | linux order =>
      have hsome : host.sysfsMtu name = some (decimal n ++ ['\n']) := hanswered
      rw [mtuOf, hsome, Option.bind_some, strip_line, readInt_decimal hlt, Option.bind_some,
        Option.bind_some]
    | bsd =>
      obtain ⟨before, rest, hbefore, hsome⟩ := hanswered
      have hfield : slice (before ++ packedLittle 4 n ++ rest) 16 20 = packedLittle 4 n := by
        rw [List.append_assoc]
        exact slice_append_append hbefore (congrArg (16 + ·) (length_packedLittle 4 n))
      rw [mtuOf, hsome]
      dsimp only [Option.map_some, Option.bind_some]
      rw [hfield, littleEndian_packedLittle, Nat.mod_eq_of_lt (show n < 256 ^ 4 by omega)]

/-! ### Records -/

/-- The record of an interface says what is announced of it, and no more. -/
structure Reports (mtu : Text → Option ℕ) (host : PosixHost) (own : List Announcement)
    (r : Interface) : Prop where
  index : r.index = host.ifNametoindex r.name
  ipv4 : r.ipv4.map held = addressesOf .IPV4 own
  ipv6 : r.ipv6.map held = addressesOf .IPV6 own
  mac : r.mac = (linksOf own).getLast?
  isUp : r.isUp = own.head?.any fun x => x.flags &&& IFF_UP != 0
  isLoopback : r.isLoopback = own.head?.any fun x => x.flags &&& IFF_LOOPBACK != 0
  mtu : r.mtu = (mtu r.name).bind fun n => orNone (n : ℤ)

theorem toInterface_of_told {s : Sockaddrs} {host : PosixHost} {mtu : Text → Option ℕ}
    (hhost : Answers s host mtu) {name : Text} (hname : name ≠ []) {x : Announcement}
    {own : List Announcement} {record : Accumulator} (h : Told (x :: own) x.flags record) :
    ∃ r, record.toInterface s host name = some r ∧ r.name = name ∧
      Reports mtu host (x :: own) r := by
  have hindex : (host.ifNametoindex name).all (1 ≤ ·) = true := by
    cases hindex : host.ifNametoindex name with
    | none => rfl
    | some index => exact decide_eq_true (hhost.index_pos name index hindex)
  have hmtu : (mtuOf s host name).all
      (fun mtu => decide (0 < mtu ∧ mtu ≤ Subnets.MAX_MTU)) = true := by
    rw [mtuOf_eq hhost]
    cases hmtu : mtu name with
    | none => rfl
    | some n =>
      have hlt := hhost.mtu_lt name n hmtu
      rw [Option.bind_some, orNone]
      by_cases hzero : (n : ℤ) = 0
      · rw [if_pos hzero]
        rfl
      · rw [if_neg hzero]
        exact decide_eq_true ⟨by omega, show (n : ℤ) ≤ 4294967295 by omega⟩
  have hnonempty : (!name.isEmpty) = true := by
    cases name with
    | nil => exact absurd rfl hname
    | cons c rest => rfl
  have haccepted : InterfaceFields.accepted
      { name := name
        index := host.ifNametoindex name
        ipv4 := record.ipv4
        ipv6 := record.ipv6
        mac := record.mac
        isUp := record.flags &&& IFF_UP != 0
        isLoopback := record.flags &&& IFF_LOOPBACK != 0
        mtu := mtuOf s host name } = true := by
    rw [InterfaceFields.accepted, hnonempty, hindex, h.mac_accepted, hmtu, h.ipv4_sits,
      h.ipv6_sits]
    rfl
  refine ⟨_, InterfaceFields.make_of_accepted haccepted, rfl, rfl, h.ipv4, h.ipv6, h.mac, ?_, ?_,
    mtuOf_eq hhost name⟩
  · dsimp only
    rw [h.flags_eq]
    rfl
  · dsimp only
    rw [h.flags_eq]
    rfl

theorem exists_mapM {α β κ : Type} {f : α → Option β} {nameOf : α → κ} {name : β → κ}
    {P : β → Prop} {l : List α} (h : ∀ a ∈ l, ∃ b, f a = some b ∧ name b = nameOf a ∧ P b) :
    ∃ bs, l.mapM f = some bs ∧ bs.map name = l.map nameOf ∧ ∀ b ∈ bs, P b := by
  induction l with
  | nil => exact ⟨[], rfl, rfl, by simp⟩
  | cons a l ih =>
    obtain ⟨b, hb, hname, hP⟩ := h a List.mem_cons_self
    obtain ⟨bs, hbs, hnames, hall⟩ := ih fun c hc => h c (List.mem_cons_of_mem _ hc)
    refine ⟨b :: bs, ?_, ?_, ?_⟩
    · rw [List.mapM_cons, hb, hbs]
      rfl
    · rw [List.map_cons, List.map_cons, hname, hnames]
    · intro c hc
      rcases List.mem_cons.mp hc with rfl | hc
      · exact hP
      · exact hall c hc

theorem told_of_mem_entries {announced : List Announcement}
    (hwell : ∀ x ∈ announced, x.said.WellFormed) {name : Text} {record : Accumulator}
    (h : (name, record) ∈ (collectedOf announced).entries) :
    name ≠ [] ∧ ∃ x own, announced.filter (fun x => x.name = name) = x :: own ∧
      Told (x :: own) x.flags record := by
  have hkey : name ∈ (collectedOf announced).keys := List.mem_map.mpr ⟨_, h, rfl⟩
  rw [collectedOf, keys_grouped, List.mem_eraseDups] at hkey
  obtain ⟨y, hy, rfl⟩ := List.mem_map.mp hkey
  have hname : y.name ≠ [] := of_decide_eq_true (List.mem_filter.mp hy).2
  have hown : (announced.filter fun x => x.name ≠ []).filter (fun x => x.name = y.name) =
      announced.filter fun x => x.name = y.name := by
    rw [List.filter_filter]
    refine List.filter_congr ?_
    intro x _
    by_cases hxy : x.name = y.name
    · simp [hxy, hname]
    · simp [hxy]
  have hvalue := groupValue_of_mem_entries _ _ _ h
  rw [hown] at hvalue
  refine ⟨hname, ?_⟩
  cases hgroup : announced.filter (fun x => x.name = y.name) with
  | nil =>
    rw [hgroup] at hvalue
    simp [groupValue] at hvalue
  | cons x own =>
    rw [hgroup] at hvalue
    refine ⟨x, own, rfl, ?_⟩
    obtain rfl := Option.some.inj hvalue
    refine told_foldl x.flags ?_
    intro z hz
    rw [← hgroup] at hz
    exact hwell z (List.mem_filter.mp hz).1

theorem exists_announced (s : Sockaddrs) {entries : List IfAddrs}
    (h : ∀ entry ∈ entries, entry.InMemory) :
    ∃ announced, List.Forall₂ (Announces s) entries announced := by
  induction entries with
  | nil => exact ⟨[], .nil⟩
  | cons entry entries ih =>
    obtain ⟨x, hx⟩ := exists_announces s (h entry List.mem_cons_self)
    obtain ⟨announced, hrest⟩ := ih fun other hother => h other (List.mem_cons_of_mem _ hother)
    exact ⟨x :: announced, .cons hx hrest⟩

theorem exists_listing {s : Sockaddrs} {host : PosixHost} {mtu : Text → Option ℕ}
    (hhost : Answers s host mtu) {entries : List IfAddrs} {announced : List Announcement}
    (h : List.Forall₂ (Announces s) entries announced) :
    ∃ records, listInterfaces s host (some entries) = some records ∧
      FirstSeen ((announced.map Announcement.name).filter (· ≠ [])) (records.map (·.name)) ∧
      ∀ r ∈ records, Reports mtu host (announced.filter fun x => x.name = r.name) r := by
  have hwell : ∀ x ∈ announced, x.said.WellFormed := by
    induction h with
    | nil =>
      intro x hx
      simp at hx
    | cons hfirst _ ih =>
      intro x hx
      rcases List.mem_cons.mp hx with rfl | hx
      · exact hfirst.wellFormed
      · exact ih x hx
  have hmade : ∀ e ∈ (collectedOf announced).entries, ∃ r, e.2.toInterface s host e.1 = some r ∧
      r.name = e.1 ∧ Reports mtu host (announced.filter fun x => x.name = r.name) r := by
    rintro ⟨name, record⟩ hmem
    obtain ⟨hname, x, own, hown, htold⟩ := told_of_mem_entries hwell hmem
    obtain ⟨r, hr, rfl, hreports⟩ := toInterface_of_told hhost hname htold
    exact ⟨r, hr, rfl, hown ▸ hreports⟩
  obtain ⟨records, hrecords, hnames, hall⟩ := exists_mapM hmade
  refine ⟨records, ?_, ?_, hall⟩
  · rw [listInterfaces, foldlM_collect h]
    exact hrecords
  · have hkeys : (collectedOf announced).entries.map Prod.fst =
        ((announced.map Announcement.name).filter (· ≠ [])).eraseDups := by
      rw [← Dict.keys, collectedOf, keys_grouped, List.filter_map]
      rfl
    rw [hnames, hkeys]
    exact firstSeen_eraseDups _

/-- **A listing reports what the chain announces**: every chain announces something, entry by
entry, and there is one record for each name, in the order the names are first met, with what is
announced of it, wherever the entries of other interfaces stand. -/
theorem listInterfaces_reports {s : Sockaddrs} {host : PosixHost} {mtu : Text → Option ℕ}
    (hhost : Answers s host mtu) (entries : List IfAddrs) :
    ((∀ entry ∈ entries, entry.InMemory) →
      ∃ announced, List.Forall₂ (Announces s) entries announced) ∧
    ∀ announced, List.Forall₂ (Announces s) entries announced →
      ∃ records, listInterfaces s host (some entries) = some records ∧
        FirstSeen ((announced.map Announcement.name).filter (· ≠ [])) (records.map (·.name)) ∧
        ∀ r ∈ records, Reports mtu host (announced.filter fun x => x.name = r.name) r :=
  ⟨exists_announced s, fun _ => exists_listing hhost⟩

/-! ### Three interfaces -/

/-- A host with the interfaces `lo` and `eth0`, and `wg0`, which has no index any more. -/
def threeInterfacesHost : PosixHost where
  table := .unicode15
  ifNametoindex name :=
    if name = "lo".toList then some 1 else if name = "eth0".toList then some 2 else none
  sysfsMtu name := (if name = "eth0".toList then some 1500 else none).map fun n : ℕ =>
    decimal n ++ ['\n']
  ioctlMtu _ := none

def eth0Mac : Octets := [2, 0, 0x5e, 0x10, 0, 7]

/-- The hardware address of `eth0`, the address of `lo`, a link of `wg0` without one, and the
address of `eth0`. -/
def threeInterfacesAnnounced : List Announcement :=
  [⟨"eth0".toList, 0x43, .link eth0Mac⟩,
    ⟨"lo".toList, 0x49, .address (.v4 0x7f000001) 8⟩,
    ⟨"wg0".toList, 0x91, .nothing⟩,
    ⟨"eth0".toList, 0x43, .address (.v4 0xc0000207) 24⟩]

def ipv4Mask (n : ℕ) : Octets :=
  [2, 0, 0, 0] ++ packedNat AddressFamily.IPV4.packedSize
    ((2 ^ n - 1) * 2 ^ (AddressFamily.IPV4.packedSize * 8 - n)) ++ List.replicate 120 0

def threeInterfacesChain : List IfAddrs :=
  [⟨some (encodeUtf8 "eth0".toList), 0x43, some ((Sockaddrs.linux .little).header 0 AF_PACKET ++
      List.replicate 9 0 ++ [UInt8.ofNat eth0Mac.length] ++ eth0Mac ++ List.replicate 110 0), none⟩,
    ⟨some (encodeUtf8 "lo".toList), 0x49, some ((Sockaddrs.linux .little).header 0 2 ++
      [0, 0] ++ [127, 0, 0, 1] ++ List.replicate 120 0), some (ipv4Mask 8)⟩,
    ⟨some (encodeUtf8 "wg0".toList), 0x91, some ((Sockaddrs.linux .little).header 0 AF_PACKET ++
      List.replicate 126 0), none⟩,
    ⟨some (encodeUtf8 "eth0".toList), 0x43, some ((Sockaddrs.linux .little).header 0 2 ++
      [0, 0] ++ [192, 0, 2, 7] ++ List.replicate 120 0), some (ipv4Mask 24)⟩]

theorem isMask_ipv4Mask {n : ℕ} (h : n ≤ 32) : IsMask (ipv4Mask n) .IPV4 n :=
  isMask_prefix h rfl _

theorem threeInterfacesHost_answers : Answers (.linux .little) threeInterfacesHost
    fun name => if name = "eth0".toList then some 1500 else none where
  index_pos := by
    intro name index h
    simp only [threeInterfacesHost] at h
    split at h
    · obtain rfl := Option.some.inj h
      decide
    · split at h
      · obtain rfl := Option.some.inj h
        decide
      · simp at h
  mtu_lt := by
    intro name n h
    split at h
    · obtain rfl := Option.some.inj h
      decide
    · simp at h
  mtu_answered := fun _ => rfl

theorem threeInterfacesChain_announces :
    List.Forall₂ (Announces (.linux .little)) threeInterfacesChain threeInterfacesAnnounced := by
  refine .cons ⟨by decide +kernel, rfl, _, rfl, by decide, by decide, List.replicate 9 0, _, rfl,
    rfl⟩ (.cons ⟨by decide +kernel, rfl, _, rfl, ⟨0, [0, 0], _, rfl, rfl⟩,
      .inr ⟨_, rfl, isMask_ipv4Mask (by decide)⟩⟩ (.cons ⟨by decide +kernel, rfl, ?_⟩
        (.cons ⟨by decide +kernel, rfl, _, rfl, ⟨0, [0, 0], _, rfl, rfl⟩,
          .inr ⟨_, rfl, isMask_ipv4Mask (by decide)⟩⟩ .nil)))
  intro sockaddr h
  obtain rfl := Option.some.inj h
  exact ⟨0, AF_PACKET, _, by decide, rfl, link_ne_number (.linux .little),
    fun _ => ⟨List.replicate 9 0, 0, List.replicate 116 0, rfl, rfl, by decide⟩⟩

theorem threeInterfacesChain_inMemory : ∀ entry ∈ threeInterfacesChain, entry.InMemory := by
  have hlengths : ∀ entry ∈ threeInterfacesChain, ∀ sockaddr ∈ entry.addr.toList ++
      entry.netmask.toList, SOCKADDR_MAX ≤ sockaddr.length := by
    decide +kernel
  intro entry hentry sockaddr h
  refine hlengths entry hentry sockaddr ?_
  rw [List.mem_append, Option.mem_toList, Option.mem_toList]
  exact h

theorem listInterfaces_reports_three :
    (∃ announced, List.Forall₂ (Announces (.linux .little)) threeInterfacesChain announced) ∧
    ∃ records, listInterfaces (.linux .little) threeInterfacesHost (some threeInterfacesChain) =
        some records ∧
      FirstSeen ((threeInterfacesAnnounced.map Announcement.name).filter (· ≠ []))
        (records.map (·.name)) ∧
      ∀ r ∈ records, Reports (fun name => if name = "eth0".toList then some 1500 else none)
        threeInterfacesHost (threeInterfacesAnnounced.filter fun x => x.name = r.name) r :=
  ⟨(listInterfaces_reports threeInterfacesHost_answers threeInterfacesChain).1
      threeInterfacesChain_inMemory,
    (listInterfaces_reports threeInterfacesHost_answers threeInterfacesChain).2 _
      threeInterfacesChain_announces⟩

end IPScout.InterfacesPosix
