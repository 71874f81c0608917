import IPScout.Base.Octets
import IPScout.Base.Text
import IPScout.Errors

/-!
# Address literals

`ip_address` of the standard library: which texts it reads as an IPv4 or an
IPv6 address, and as which one, an RFC 4007 zone included.  Above it are the
checks of `models.py` that every entry point shares: `parse_address`,
`require_address`, `needs_zone`.

The reader follows the standard library step by step, because the spelling of an
address is what the passive lookups compare: a literal is cut at its colons, a
dotted tail is rewritten as two hextets, and at most one empty part inside the
literal stands for the run of zeros left out.

`split_zone` of `resolve.py` cuts a text at its first `%` whatever the text is.
`splitZone_of_ipAddress` says that on a literal it cuts where `ip_address` does.
-/

namespace IPScout

open Base Base.Octets Base.Text

/-! ### Families -/

inductive AddressFamily
  | IPV4
  | IPV6
  deriving DecidableEq

namespace AddressFamily

def value : AddressFamily → Text
  | IPV4 => "ipv4".toList
  | IPV6 => "ipv6".toList

def ipVersion : AddressFamily → Nat
  | IPV4 => 4
  | IPV6 => 6

end AddressFamily

/-! ### IPv4 literals -/

def parseOctet (t : Text) : Option Nat :=
  if t = [] then none
  else if t.all Char.isDigit = false then none
  else if 3 < t.length then none
  else if t ≠ ['0'] ∧ t.head? = some '0' then none
  else if 255 < decimalValue t then none
  else some (decimalValue t)

/-- `IPv4Address(text)`, as the 32-bit number it holds. -/
def ipv4Address (t : Text) : Option (BitVec 32) :=
  if '/' ∈ t then none
  else
    match t.splitOn '.' with
    | [w, x, y, z] => do
      let w ← parseOctet w
      let x ← parseOctet x
      let y ← parseOctet y
      let z ← parseOctet z
      some (BitVec.ofNat 32 (((w * 256 + x) * 256 + y) * 256 + z))
    | _ => none

/-! ### IPv6 literals -/

/-- `IPv6Address._parse_hextet`; `int` refuses the empty text. -/
def parseHextet (t : Text) : Option Nat :=
  if t.all (fun c => (hexDigit c).isSome) = false then none
  else if 4 < t.length then none
  else if t = [] then none
  else some (hexValue t)

/-- The parts with a dotted-quad last part rewritten as the two hextets it
stands for. -/
def expandDottedTail (parts : List Text) : Option (List Text) :=
  match parts.getLast? with
  | none => some parts
  | some last =>
    if '.' ∈ last then do
      let v4 ← ipv4Address last
      some (parts.dropLast ++
        [hexadecimal (v4.toNat / 65536 % 65536), hexadecimal (v4.toNat % 65536)])
    else some parts

/-- How many parts stand before the `::`, how many after it, and how many
hextets it leaves out. -/
def hextetLayout (parts : List Text) : Option (Nat × Nat × Nat) :=
  let leading := parts.head? = some []
  let trailing := parts.getLast? = some []
  match (List.range' 1 (parts.length - 2)).filter (fun i => parts.getD i [] = []) with
  | [] =>
    if parts.length ≠ 8 ∨ leading ∨ trailing then none else some (parts.length, 0, 0)
  | [skip] =>
    let hi := if leading then skip - 1 else skip
    let lo := if trailing then parts.length - skip - 2 else parts.length - skip - 1
    if (leading ∧ hi ≠ 0) ∨ (trailing ∧ lo ≠ 0) then none
    else if 8 < hi + lo + 1 then none
    else some (hi, lo, 8 - (hi + lo))
  | _ => none

/-- `IPv6Address._ip_int_from_string`. -/
def ipv6Bits (t : Text) : Option (BitVec 128) :=
  if t = [] ∨ (t.splitOn ':').length < 3 then none
  else do
    let parts ← expandDottedTail (t.splitOn ':')
    if 9 < parts.length then none
    else do
      let (hi, lo, skipped) ← hextetLayout parts
      let high ← (parts.take hi).mapM parseHextet
      let low ← (parts.drop (parts.length - lo)).mapM parseHextet
      some (BitVec.ofNat 128
        ((high ++ List.replicate skipped 0 ++ low).foldl (fun n h => n * 65536 + h) 0))

/-- An IPv6 address and the zone it is scoped to. -/
structure IPv6Address where
  ip : BitVec 128
  scopeId : Option Text
  deriving DecidableEq

/-- `IPv6Address._split_scope_id`: the address text and the zone, if any. -/
def splitScopeId (t : Text) : Option (Text × Option Text) :=
  match partition '%' t with
  | (addr, [], _) => some (addr, none)
  | (addr, _, scope) => if scope = [] ∨ '%' ∈ scope then none else some (addr, some scope)

/-- `IPv6Address(text)`. -/
def ipv6Address (t : Text) : Option IPv6Address :=
  if '/' ∈ t then none
  else do
    let (addr, scope) ← splitScopeId t
    let ip ← ipv6Bits addr
    some ⟨ip, scope⟩

/-! ### Literals of either family -/

inductive IPAddress
  | v4 (ip : BitVec 32)
  | v6 (a : IPv6Address)
  deriving DecidableEq

/-- The versions of Python that differ in what their `ipaddress` makes of an IPv4-mapped address:
how it is written, and whose properties it has. -/
inductive PythonVersion
  | before313
  | since313
  deriving DecidableEq

/-- `ipv4_mapped`: whether an address is in `::ffff:0:0/96`. -/
def isIpv4Mapped (ip : BitVec 128) : Bool := ip.toNat / 2 ^ 32 == 0xffff

/-- `ip_address(text)`; `none` is its `ValueError`. -/
def ipAddress (t : Text) : Option IPAddress :=
  match ipv4Address t with
  | some ip => some (.v4 ip)
  | none => (ipv6Address t).map .v6

namespace IPAddress

def family : IPAddress → AddressFamily
  | v4 _ => .IPV4
  | v6 _ => .IPV6

def version (a : IPAddress) : Nat := a.family.ipVersion

/-- The zone an address is scoped to; an IPv4 address never has one. -/
def zone : IPAddress → Option Text
  | v4 _ => none
  | v6 a => a.scopeId

/-- A property of the number of an address; from Python 3.13 on an IPv4-mapped address has those
of the IPv4 address in it. -/
def property (python : PythonVersion) (ofIpv4 : BitVec 32 → Bool) (ofIpv6 : BitVec 128 → Bool) :
    IPAddress → Bool
  | v4 ip => ofIpv4 ip
  | v6 a =>
    if python = .since313 ∧ isIpv4Mapped a.ip = true then ofIpv4 (BitVec.ofNat 32 a.ip.toNat)
    else ofIpv6 a.ip

/-- `169.254.0.0/16` and `fe80::/10`. -/
def isLinkLocal (python : PythonVersion) : IPAddress → Bool :=
  property python (fun ip => ip.toNat / 2 ^ 16 == 0xa9fe) fun ip => ip.toNat / 2 ^ 118 == 0x3fa

def isUnspecified (python : PythonVersion) : IPAddress → Bool :=
  property python (fun ip => ip == 0) fun ip => ip == 0

/-- `224.0.0.0/4` and `ff00::/8`. -/
def isMulticast (python : PythonVersion) : IPAddress → Bool :=
  property python (fun ip => ip.toNat / 2 ^ 28 == 14) fun ip => ip.toNat / 2 ^ 120 == 0xff

end IPAddress

/-- The octets of a number, `count` of them, highest first. -/
def packedNat (count n : Nat) : Octets :=
  (List.range count).map (fun i => UInt8.ofNat (n / 256 ^ (count - 1 - i)))

/-- `socket.inet_ntoa` of four octets, and the text of an IPv4 address. -/
def inetNtoa (b : Octets) : Text :=
  ['.'].intercalate ((List.range 4).map (fun i => decimal (octet b i)))

/-- Where the first longest run of zero hextets starts, and how long it is. -/
def longestZeroRun (words : List Nat) : Nat × Nat :=
  (List.range words.length).foldl
    (fun best i =>
      let run := ((words.drop i).takeWhile (· == 0)).length
      if best.2 < run then (i, run) else best)
    (0, 0)

/-- `inet_ntop` of sixteen octets: the first longest run of two or more zero
hextets is left out, and an IPv4-compatible or IPv4-mapped tail is dotted. -/
def inetNtop6 (b : Octets) : Text :=
  let words := (List.range 8).map (fun i => octet b (2 * i) * 256 + octet b (2 * i + 1))
  let join := fun (ws : List Nat) => [':'].intercalate (ws.map hexadecimal)
  let (base, len) := longestZeroRun words
  if len < 2 then join words
  else if base = 0 ∧ len = 6 then "::".toList ++ inetNtoa (b.drop 12)
  else if base = 0 ∧ len = 5 ∧ words.getD 5 0 = 0xffff then "::ffff:".toList ++ inetNtoa (b.drop 12)
  else join (words.take base) ++ "::".toList ++ join (words.drop (base + len))

/-- `socket.inet_ntop` of an address of the family's length. -/
def inetNtop (family : AddressFamily) (b : Octets) : Text :=
  match family with
  | .IPV4 => inetNtoa b
  | .IPV6 => inetNtop6 b

/-- `socket.inet_pton`; it takes no zone. -/
def inetPton (family : AddressFamily) (t : Text) : Option Octets :=
  match family with
  | .IPV4 => (ipv4Address t).map fun ip => packedNat 4 ip.toNat
  | .IPV6 => (ipv6Bits t).map fun ip => packedNat 16 ip.toNat

/-! ### The checks every entry point shares -/

def parseAddress (t : Text) : Except PyError IPAddress :=
  match ipAddress t with
  | some a => .ok a
  | none => .error (.value [.quoted t, say " is not an IP address literal"])

def requireAddress (t : Text) (family : AddressFamily) : Except PyError IPAddress := do
  let parsed ← parseAddress t
  if parsed.version ≠ family.ipVersion then
    .error (.value [.quoted t, say " is not an ", .text family.value, say " address"])
  else .ok parsed

def needsZone (python : PythonVersion) (a : IPAddress) : Bool :=
  a.version == AddressFamily.IPV6.ipVersion && a.isLinkLocal python

/-- `names_a_neighbour`: a row for a group or for no address is no host's. -/
def namesANeighbour (python : PythonVersion) (a : IPAddress) : Bool :=
  !(a.isMulticast python || a.isUnspecified python)

/-- A target with nothing in it but white space. -/
def isBlankTarget (t : Text) : Bool := strip t == []

/-- `split_zone`: an address and the zone written after it. -/
structure ScopedAddress where
  address : Text
  zone : Option Text
  deriving DecidableEq

def splitZone (t : Text) : ScopedAddress :=
  match partition '%' t with
  | (bare, separator, zone) =>
    if separator ≠ [] ∧ zone ≠ [] then ⟨bare, some zone⟩ else ⟨t, none⟩

/-! ### Where a literal is cut -/

theorem splitZone_of_notMem {t : Text} (h : '%' ∉ t) : splitZone t = ⟨t, none⟩ := by
  rw [splitZone, partition_of_notMem h]
  rfl

theorem splitZone_append {address zone : Text} (haddress : '%' ∉ address) (hzone : zone ≠ []) :
    splitZone (address ++ '%' :: zone) = ⟨address, some zone⟩ := by
  rw [splitZone, partition_append haddress]
  simp [hzone]

theorem mem_of_ipv4Address {t : Text} {ip : BitVec 32} (h : ipv4Address t = some ip) {c : Char}
    (hc : c ∈ t) : c.isDigit = true ∨ c = '.' := by
  by_cases hdot : c = '.'
  · exact Or.inr hdot
  · left
    obtain ⟨piece, hpiece, hcp⟩ := exists_mem_splitOn hdot hc
    have hdigits : ∀ {q : Text} {n : Nat}, parseOctet q = some n → c ∈ q → c.isDigit = true := by
      intro q n hq hcq
      rw [parseOctet] at hq
      split at hq
      · simp at hq
      · split at hq
        · simp at hq
        · next hall => exact List.all_eq_true.mp (Bool.not_eq_false _ ▸ hall) c hcq
    rw [ipv4Address] at h
    split at h
    · simp at h
    · split at h
      · next hsplit =>
        simp only [Option.bind_eq_bind, Option.bind_eq_some_iff] at h
        obtain ⟨_, hw, _, hx, _, hy, _, hz, _⟩ := h
        rw [hsplit] at hpiece
        simp only [List.mem_cons, List.not_mem_nil, or_false] at hpiece
        rcases hpiece with rfl | rfl | rfl | rfl
        · exact hdigits hw hcp
        · exact hdigits hx hcp
        · exact hdigits hy hcp
        · exact hdigits hz hcp
      · simp at h

theorem colon_mem_of_ipv6Bits {t : Text} {ip : BitVec 128} (h : ipv6Bits t = some ip) :
    ':' ∈ t := by
  by_contra hc
  rw [ipv6Bits, List.splitOn_eq_singleton hc] at h
  simp at h

theorem ipv4Address_eq_none_of_ipv6Bits {t : Text} {ip : BitVec 128} (h : ipv6Bits t = some ip) :
    ipv4Address t = none := by
  cases h4 : ipv4Address t with
  | none => rfl
  | some ip4 =>
    rcases mem_of_ipv4Address h4 (colon_mem_of_ipv6Bits h) with hd | hd
    · exact absurd hd (by decide)
    · exact absurd hd (by decide)

def IPAddress.bare : IPAddress → IPAddress
  | v4 ip => v4 ip
  | v6 a => v6 ⟨a.ip, none⟩

theorem ipv4Address_of_ipAddress {t : Text} {ip : BitVec 32} (h : ipAddress t = some (.v4 ip)) :
    ipv4Address t = some ip := by
  rw [ipAddress] at h
  cases h4 : ipv4Address t with
  | some ip' =>
    rw [h4, Option.some_inj] at h
    rw [IPAddress.v4.inj h]
  | none =>
    rw [h4] at h
    obtain ⟨a, _, hsame⟩ := Option.map_eq_some_iff.mp h
    simp at hsame

theorem ipv6Address_of_ipAddress {t : Text} {a : IPv6Address} (h : ipAddress t = some (.v6 a)) :
    ipv4Address t = none ∧ ipv6Address t = some a := by
  rw [ipAddress] at h
  cases h4 : ipv4Address t with
  | some ip =>
    rw [h4] at h
    simp at h
  | none =>
    rw [h4] at h
    obtain ⟨v6, hv6, hsame⟩ := Option.map_eq_some_iff.mp h
    rw [hv6, IPAddress.v6.inj hsame]
    exact ⟨rfl, rfl⟩

theorem percent_notMem_of_ipv4Address {t : Text} {ip : BitVec 32} (h : ipv4Address t = some ip) :
    '%' ∉ t := by
  intro hmem
  rcases mem_of_ipv4Address h hmem with hd | hd
  · exact absurd hd (by decide)
  · exact absurd hd (by decide)

/-- **An IPv6 literal is its bits**, and behind them its zone if it has one. -/
theorem ipv6Address_cases {t : Text} {a : IPv6Address} (h : ipv6Address t = some a) :
    '/' ∉ t ∧ (('%' ∉ t ∧ ipv6Bits t = some a.ip ∧ a.scopeId = none) ∨
      ∃ x zone, t = x ++ '%' :: zone ∧ '%' ∉ x ∧ zone ≠ [] ∧ '%' ∉ zone ∧
        ipv6Bits x = some a.ip ∧ a.scopeId = some zone) := by
  rw [ipv6Address] at h
  split at h
  · simp at h
  · next hslash =>
    refine ⟨hslash, ?_⟩
    simp only [Option.bind_eq_bind, Option.bind_eq_some_iff] at h
    obtain ⟨⟨address, scope⟩, hscope, ip, hbits, hsame⟩ := h
    rw [← Option.some.inj hsame]
    by_cases hpct : '%' ∈ t
    · right
      obtain ⟨x, zone, rfl, hx⟩ := List.eq_append_cons_of_mem hpct
      rw [splitScopeId, partition_append hx] at hscope
      dsimp only at hscope
      split at hscope
      · simp at hscope
      · next hgood =>
        rw [not_or] at hgood
        rw [Option.some_inj, Prod.mk.injEq] at hscope
        rw [← hscope.1] at hbits
        exact ⟨x, zone, rfl, hx, hgood.1, hgood.2, hbits, hscope.2.symm⟩
    · left
      rw [splitScopeId, partition_of_notMem hpct, Option.some_inj, Prod.mk.injEq] at hscope
      rw [← hscope.1] at hbits
      exact ⟨hpct, hbits, hscope.2.symm⟩

theorem ipv6Address_of_ipv6Bits {t : Text} {ip : BitVec 128} (ht : ipv6Bits t = some ip)
    (hpct : '%' ∉ t) (hslash : '/' ∉ t) : ipv6Address t = some ⟨ip, none⟩ := by
  rw [ipv6Address, if_neg hslash, splitScopeId, partition_of_notMem hpct]
  simp [ht]

/-- **On a literal, `splitZone` cuts where `ip_address` does**: the text before the
zone is a literal of the same address, and the zone is the address's own. -/
theorem splitZone_of_ipAddress {t : Text} {a : IPAddress} (h : ipAddress t = some a) :
    ipAddress (splitZone t).address = some a.bare ∧ (splitZone t).zone = a.zone := by
  cases a with
  | v4 ip =>
    rw [splitZone_of_notMem (percent_notMem_of_ipv4Address (ipv4Address_of_ipAddress h))]
    exact ⟨h, rfl⟩
  | v6 a =>
    obtain ⟨ip, scope⟩ := a
    obtain ⟨hslash, ⟨hpct, _, rfl⟩ | ⟨x, zone, rfl, hx, hzone, _, hbits, rfl⟩⟩ :=
      ipv6Address_cases (ipv6Address_of_ipAddress h).2
    · rw [splitZone_of_notMem hpct]
      exact ⟨h, rfl⟩
    · have hbare : ipv6Address x = some ⟨ip, none⟩ :=
        ipv6Address_of_ipv6Bits hbits hx fun hmem => hslash (List.mem_append_left _ hmem)
      rw [splitZone_append hx hzone, ipAddress, ipv4Address_eq_none_of_ipv6Bits hbits, hbare]
      exact ⟨rfl, rfl⟩

/-! ### Packed numbers -/

theorem length_packedNat (count n : Nat) : (packedNat count n).length = count := by
  rw [packedNat, List.length_map, List.length_range]

theorem packedNat_succ (count n : Nat) :
    packedNat (count + 1) n = UInt8.ofNat (n / 256 ^ count) :: packedNat count n := by
  rw [packedNat, List.range_succ_eq_map, List.map_cons, List.map_map, packedNat]
  congr 1
  apply List.map_congr_left
  intro i _
  show UInt8.ofNat (n / 256 ^ (count + 1 - 1 - (i + 1))) = _
  rw [show count + 1 - 1 - (i + 1) = count - 1 - i by omega]

theorem bigEndian_packedNat (count n : Nat) : bigEndian (packedNat count n) = n % 256 ^ count := by
  induction count with
  | zero => rw [Nat.pow_zero, Nat.mod_one]; rfl
  | succ count ih =>
    have hoctet : (UInt8.ofNat (n / 256 ^ count)).toNat = n / 256 ^ count % 256 :=
      UInt8.toNat_ofNat'
    rw [packedNat_succ, bigEndian_cons, length_packedNat, ih, hoctet, Nat.mod_pow_succ,
      Nat.mul_comm, Nat.add_comm]

theorem packedNat_mul_add (count k n : Nat) :
    packedNat count (k * 256 ^ count + n) = packedNat count n := by
  induction count generalizing k with
  | zero => rfl
  | succ count ih =>
    have hpos : 0 < 256 ^ count := Nat.pow_pos (by decide)
    have hfirst : UInt8.ofNat ((k * 256 ^ (count + 1) + n) / 256 ^ count)
        = UInt8.ofNat (n / 256 ^ count) := by
      rw [Nat.pow_succ', ← Nat.mul_assoc, Nat.add_comm, Nat.add_mul_div_right _ _ hpos]
      apply UInt8.toNat_inj.mp
      rw [UInt8.toNat_ofNat', UInt8.toNat_ofNat']
      omega
    rw [packedNat_succ, packedNat_succ, hfirst, Nat.pow_succ', ← Nat.mul_assoc, ih]

/-- **The octets of the number they hold are the octets.** -/
theorem packedNat_bigEndian (b : Octets) : packedNat b.length (bigEndian b) = b := by
  induction b with
  | nil => rfl
  | cons x b ih =>
    have hlt := bigEndian_lt b
    have hfirst : (x.toNat * 256 ^ b.length + bigEndian b) / 256 ^ b.length = x.toNat := by
      rw [Nat.add_comm, Nat.add_mul_div_right _ _ (Nat.pow_pos (by decide)),
        Nat.div_eq_of_lt hlt, Nat.zero_add]
    rw [List.length_cons, bigEndian_cons, packedNat_succ, hfirst, packedNat_mul_add, ih,
      UInt8.ofNat_toNat]

theorem bigEndian_inj {a b : Octets} (hlength : a.length = b.length)
    (h : bigEndian a = bigEndian b) : a = b := by
  have ha := packedNat_bigEndian a
  rw [hlength, h, packedNat_bigEndian] at ha
  exact ha.symm

/-! ### IPv4 texts -/

theorem parseOctet_decimal {n : Nat} (h : n ≤ 255) : parseOctet (decimal n) = some n := by
  have hlength : (decimal n).length ≤ 3 := by
    rw [decimal, Nat.length_toDigits_le_iff (by decide) (by decide)]
    omega
  have hzero : ¬ (decimal n ≠ ['0'] ∧ (decimal n).head? = some '0') := by
    rintro ⟨hne, hhead⟩
    rcases decimal_eq_zero_or_head?_ne n with hzero | hhead'
    · exact hne hzero
    · exact hhead' hhead
  rw [parseOctet, if_neg (decimal_ne_nil n), isDigit_decimal, if_neg (by simp), if_neg (by omega),
    if_neg hzero, decimalValue_decimal, if_neg (by omega)]

theorem inetNtoa_eq_dottedText (b : Octets) :
    inetNtoa b = dottedText [octet b 0, octet b 1, octet b 2, octet b 3] := rfl

/-- **The text of four octets reads back as the number they hold.** -/
theorem ipv4Address_inetNtoa {b : Octets} (h : b.length = 4) :
    ipv4Address (inetNtoa b) = some (BitVec.ofNat 32 (bigEndian b)) := by
  have hoctet : ∀ i, octet b i ≤ 255 := fun i => by
    have : octet b i < 256 := UInt8.toNat_lt _
    omega
  have hslash : '/' ∉ inetNtoa b := by
    intro hmem
    rw [inetNtoa_eq_dottedText] at hmem
    rcases isDigit_of_mem_dottedText hmem with hdigit | hdot
    · exact absurd hdigit (by decide)
    · exact absurd hdot (by decide)
  have hnumber : ((octet b 0 * 256 + octet b 1) * 256 + octet b 2) * 256 + octet b 3
      = bigEndian b := by
    rcases b with _ | ⟨w, _ | ⟨x, _ | ⟨y, _ | ⟨z, _ | _⟩⟩⟩⟩
    · simp at h
    · simp at h
    · simp at h
    · simp at h
    · simp [octet, bigEndian]
    · simp at h
  rw [ipv4Address, if_neg hslash, inetNtoa_eq_dottedText, splitOn_dottedText (by simp)]
  simp only [List.map_cons, List.map_nil, parseOctet_decimal (hoctet _)]
  rw [← hnumber]
  rfl

theorem inetNtoa_inj {a b : Octets} (ha : a.length = 4) (hb : b.length = 4)
    (h : inetNtoa a = inetNtoa b) : a = b := by
  have hlt : ∀ c : Octets, c.length = 4 → bigEndian c < 2 ^ 32 := by
    intro c hc
    have := bigEndian_lt c
    rw [hc] at this
    exact this
  have hread := ipv4Address_inetNtoa ha
  rw [h, ipv4Address_inetNtoa hb] at hread
  have hnumber := congrArg BitVec.toNat (Option.some.inj hread)
  rw [BitVec.toNat_ofNat, BitVec.toNat_ofNat, Nat.mod_eq_of_lt (hlt a ha),
    Nat.mod_eq_of_lt (hlt b hb)] at hnumber
  exact bigEndian_inj (ha.trans hb.symm) hnumber.symm

/-! ### What the checks pass -/

theorem parseAddress_eq_ok {t : Text} {a : IPAddress} :
    parseAddress t = .ok a ↔ ipAddress t = some a := by
  rw [parseAddress]
  cases ipAddress t <;> simp

theorem AddressFamily.ipVersion_inj {f g : AddressFamily} : f.ipVersion = g.ipVersion ↔ f = g := by
  cases f <;> cases g <;> simp [ipVersion]

/-- **What passes for an address of a family is one.** -/
theorem requireAddress_eq_ok_iff {t : Text} {family : AddressFamily} {a : IPAddress} :
    requireAddress t family = .ok a ↔ ipAddress t = some a ∧ a.family = family := by
  rw [requireAddress, ← parseAddress_eq_ok]
  cases parseAddress t with
  | error e => simp [bind, Except.bind]
  | ok parsed =>
    have hversion : parsed.version = family.ipVersion ↔ parsed.family = family :=
      AddressFamily.ipVersion_inj
    show (if parsed.version ≠ family.ipVersion then _ else _) = _ ↔ _
    simp only [ne_eq, hversion, Except.ok.injEq]
    by_cases hfamily : parsed.family = family
    · rw [if_neg (not_not.mpr hfamily), Except.ok.injEq]
      constructor
      · rintro rfl
        exact ⟨rfl, hfamily⟩
      · exact And.left
    · rw [if_pos hfamily]
      simp only [reduceCtorEq, false_iff, not_and]
      rintro rfl
      exact hfamily

theorem requireAddress_eq_ok {t : Text} {a : IPAddress} (h : ipAddress t = some a) :
    requireAddress t a.family = .ok a := requireAddress_eq_ok_iff.mpr ⟨h, rfl⟩

theorem exists_v4_of_requireAddress {ip : Text} {a : IPAddress}
    (h : requireAddress ip .IPV4 = .ok a) : ∃ ip4, a = .v4 ip4 := by
  obtain ⟨_, hfamily⟩ := requireAddress_eq_ok_iff.mp h
  cases a with
  | v4 ip4 => exact ⟨ip4, rfl⟩
  | v6 ip6 => simp [IPAddress.family] at hfamily

end IPScout
