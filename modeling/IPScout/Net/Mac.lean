import IPScout.Base.Octets
import IPScout.Base.Text
import IPScout.Errors

/-!
# Hardware addresses

An Ethernet address is six octets on the wire and text of one canonical form in
every record: six lowercase two-digit octets joined by colons.  `formatMac`
writes it, `isMac` is the form `_require_mac` of `models.py` asks for, and
`canonicalMac` is the stricter check of `bootp.py`, which reads the text back
and compares.  `normaliseMac` takes an address in any common form to the canonical
one, and that is the form of the octets the text writes (`normaliseMac_eq_some_iff`).
-/

namespace IPScout

open Base Base.Octets Base.Text

def MAC_LENGTH : Nat := 6

/-! ### Writing -/

/-- `f"{octet:02x}"`. -/
def hexOctet (x : UInt8) : Text := [Nat.digitChar (x.toNat / 16), Nat.digitChar (x.toNat % 16)]

/-- `format_hardware_address`; an empty or all-zero address is none. -/
def formatHardwareAddress (raw : Octets) : Option Text :=
  if raw.all (· == 0) then none else some ([':'].intercalate (raw.map hexOctet))

def formatMac (raw : Octets) : Option Text :=
  if raw.length ≠ MAC_LENGTH then none else formatHardwareAddress raw

/-! ### Checking -/

def isOctetText (t : Text) : Bool :=
  t.length == 2 && t.all fun c => c.isDigit || ('a' ≤ c && c ≤ 'f')

/-- Whether `_require_mac` accepts a text. -/
def isMac (t : Text) : Bool :=
  (t.splitOn ':').all isOctetText && (t.splitOn ':').length == MAC_LENGTH

/-- A hardware address as a record carries it. -/
abbrev Mac := { t : Text // isMac t = true }

/-- The white space `bytes.fromhex` skips between two octets. -/
def isHexSpace (c : Char) : Bool := c == ' ' || (9 ≤ c.toNat && c.toNat ≤ 13)

/-- `bytes.fromhex`; `none` is its `ValueError`. -/
def fromHex : Text → Option Octets
  | [] => some []
  | [c] => if isHexSpace c then some [] else none
  | c :: d :: rest =>
    if isHexSpace c then fromHex (d :: rest)
    else do
      let high ← hexDigit c
      let low ← hexDigit d
      let octets ← fromHex rest
      some (UInt8.ofNat (high * 16 + low) :: octets)

/-- `_canonical_mac` of `bootp.py`. -/
def canonicalMac (mac : Text) : Except PyError Text :=
  if (fromHex (mac.filter (· ≠ ':'))).bind formatMac = some mac then .ok mac
  else .error (.value [.quoted mac,
    say (" is not a hardware address in canonical form (lowercase hex, " ++
    "colon-separated, like 02:00:5e:00:53:00); pass it through ipscout.normalise_mac first")])

theorem canonicalMac_eq_ok {mac t : Text} (h : canonicalMac mac = .ok t) :
    t = mac ∧ canonicalMac t = .ok t := by
  have hcopy := h
  rw [canonicalMac] at h
  split at h
  · have := Except.ok.inj h
    subst this
    exact ⟨rfl, hcopy⟩
  · simp at h

/-! ### What is written is canonical -/

/-- **What is written**: six octets that are not all zero. -/
theorem formatMac_eq_some_iff {raw : Octets} {mac : Text} :
    formatMac raw = some mac ↔ raw.length = MAC_LENGTH ∧ (∃ x ∈ raw, x ≠ 0) ∧
      mac = [':'].intercalate (raw.map hexOctet) := by
  have hzero : raw.all (· == 0) = true ↔ ¬ ∃ x ∈ raw, x ≠ 0 := by
    simp only [List.all_eq_true, beq_iff_eq, not_exists, not_and, not_not]
  rw [formatMac, formatHardwareAddress]
  by_cases hlength : raw.length = MAC_LENGTH
  · rw [if_neg (not_not.mpr hlength)]
    by_cases hall : raw.all (· == 0) = true
    · rw [if_pos hall]
      simp [hzero.mp hall]
    · rw [if_neg hall, Option.some_inj]
      rw [hzero, not_not] at hall
      exact ⟨fun h => ⟨hlength, hall, h.symm⟩, fun h => h.2.2.symm⟩
  · rw [if_pos hlength]
    simp [hlength]

theorem isHexSpace_digitChar {d : Nat} (h : d < 16) : isHexSpace (Nat.digitChar d) = false := by
  revert d
  decide

theorem fromHex_flatMap (raw : Octets) : fromHex (raw.flatMap hexOctet) = some raw := by
  induction raw with
  | nil => rfl
  | cons x raw ih =>
    have hx := x.toNat_lt
    have hhigh : x.toNat / 16 < 16 := by omega
    have hlow : x.toNat % 16 < 16 := by omega
    rw [List.flatMap_cons, hexOctet, List.cons_append, List.cons_append, List.nil_append, fromHex,
      isHexSpace_digitChar hhigh, hexDigit_digitChar hhigh, hexDigit_digitChar hlow, ih]
    have hvalue : x.toNat / 16 * 16 + x.toNat % 16 = x.toNat := by omega
    show some (UInt8.ofNat (x.toNat / 16 * 16 + x.toNat % 16) :: raw) = some (x :: raw)
    rw [hvalue, UInt8.ofNat_toNat]

theorem filter_intercalate (raw : Octets) :
    ([':'].intercalate (raw.map hexOctet)).filter (· ≠ ':') = raw.flatMap hexOctet := by
  have hoctet : ∀ x : UInt8, (hexOctet x).filter (· ≠ ':') = hexOctet x := by
    intro x
    rw [hexOctet, List.filter_eq_self]
    intro c hc
    simp only [List.mem_cons, List.not_mem_nil, or_false] at hc
    rcases hc with rfl | rfl
    · simp
    · simp
  induction raw with
  | nil => rfl
  | cons x raw ih =>
    rcases raw with _ | ⟨y, raw⟩
    · rw [List.map_cons, List.map_nil, List.intercalate_singleton, hoctet, List.flatMap_cons,
        List.flatMap_nil, List.append_nil]
    · rw [List.map_cons, List.map_cons, List.intercalate_cons_cons, List.filter_append,
        List.filter_append, hoctet, ← List.map_cons, ih, List.flatMap_cons]
      rfl

theorem eq_of_intercalate_hexOctet {raw raw' : Octets}
    (h : [':'].intercalate (raw.map hexOctet) = [':'].intercalate (raw'.map hexOctet)) :
    raw = raw' := by
  have hdigits : raw.flatMap hexOctet = raw'.flatMap hexOctet := by
    rw [← filter_intercalate raw, h, filter_intercalate]
  have hread := fromHex_flatMap raw
  rw [hdigits, fromHex_flatMap] at hread
  exact (Option.some.inj hread).symm

theorem fromHex_formatMac {raw : Octets} {mac : Text} (h : formatMac raw = some mac) :
    fromHex (mac.filter (· ≠ ':')) = some raw := by
  obtain ⟨-, -, rfl⟩ := formatMac_eq_some_iff.mp h
  rw [filter_intercalate, fromHex_flatMap]

/-- **An address that is written is canonical.** -/
theorem canonicalMac_formatMac {raw : Octets} {mac : Text} (h : formatMac raw = some mac) :
    canonicalMac mac = .ok mac := by
  have hread : (fromHex (mac.filter (· ≠ ':'))).bind formatMac = some mac := by
    rw [fromHex_formatMac h]
    exact h
  rw [canonicalMac, if_pos hread]

theorem splitOn_intercalate_hexOctet {raw : Octets} (h : raw ≠ []) :
    ([':'].intercalate (raw.map hexOctet)).splitOn ':' = raw.map hexOctet := by
  apply List.splitOn_intercalate
  · intro part hpart
    obtain ⟨x, _, rfl⟩ := List.mem_map.mp hpart
    rw [hexOctet, List.mem_cons, List.mem_singleton]
    simp
  · simpa using h

theorem isOctetText_hexOctet (x : UInt8) : isOctetText (hexOctet x) = true := by
  have hdigit : ∀ d < 16, ((Nat.digitChar d).isDigit ||
      ('a' ≤ Nat.digitChar d && Nat.digitChar d ≤ 'f')) = true := by decide
  have hx := x.toNat_lt
  rw [isOctetText, hexOctet, List.all_cons, List.all_cons, hdigit _ (by omega),
    hdigit _ (by omega)]
  rfl

theorem isMac_intercalate {raw : Octets} (h : raw.length = MAC_LENGTH) :
    isMac ([':'].intercalate (raw.map hexOctet)) = true := by
  have hne : raw ≠ [] := by
    rintro rfl
    simp [MAC_LENGTH] at h
  rw [isMac, splitOn_intercalate_hexOctet hne, List.length_map, h]
  simp only [List.all_map, Bool.and_eq_true, List.all_eq_true, Function.comp_apply]
  exact ⟨fun x _ => isOctetText_hexOctet x, beq_self_eq_true _⟩

/-- **An address that is written is one a record takes.** -/
theorem isMac_formatMac {raw : Octets} {mac : Text} (h : formatMac raw = some mac) :
    isMac mac = true := by
  obtain ⟨hlength, -, rfl⟩ := formatMac_eq_some_iff.mp h
  exact isMac_intercalate hlength

theorem isSome_formatMac (raw : Octets) :
    (formatMac raw).isSome = (raw.length == MAC_LENGTH && raw.any (· != 0)) := by
  rw [Bool.eq_iff_iff, Option.isSome_iff_exists, Bool.and_eq_true, beq_iff_eq]
  simp only [formatMac_eq_some_iff, exists_and_left, exists_eq, and_true, List.any_eq_true,
    bne_iff_ne]

/-! ### Any written form -/

/-- A separator that `normalise_mac` drops. -/
def isMacSeparator (c : Char) : Bool := c == ':' || c == '-' || c == '.'

/-- The characters of a written address that are no separators. -/
def macDigits (mac : Text) : Text := mac.filter fun c => !isMacSeparator c

def normaliseMac (mac : Text) : Option Text :=
  let digits := (macDigits mac).map Char.toLower
  if digits.length ≠ 2 * MAC_LENGTH ∨ digits.any fun c => !"0123456789abcdef".toList.contains c
  then none
  else some ([':'].intercalate ((List.range MAC_LENGTH).map fun i => (digits.drop (2 * i)).take 2))

def requireMac (mac : Text) : Except PyError Text :=
  match normaliseMac mac with
  | some canonical => .ok canonical
  | none => .error (.value [.quoted mac, say " is not a hardware address"])

def packedMac (mac : Text) : Except PyError Octets := do
  let canonical ← requireMac mac
  match fromHex (canonical.filter (· ≠ ':')) with
  | some raw => .ok raw
  | none => .error (.value [say "non-hexadecimal number found in fromhex() arg"])

/-- What `normalise_mac` takes a text for: six octets, two digits each in either case. -/
def WritesMac (mac : Text) (raw : Octets) : Prop :=
  raw.length = MAC_LENGTH ∧ (macDigits mac).map Char.toLower = raw.flatMap hexOctet

instance (mac : Text) (raw : Octets) : Decidable (WritesMac mac raw) :=
  inferInstanceAs (Decidable (_ ∧ _))

theorem mem_digits_iff {c : Char} :
    c ∈ "0123456789abcdef".toList ↔ ∃ d, d < 16 ∧ Nat.digitChar d = c := by
  have hdigits : "0123456789abcdef".toList = (List.range 16).map Nat.digitChar := by decide
  rw [hdigits, List.mem_map]
  simp only [List.mem_range]

theorem exists_octets {digits : Text} {n : ℕ} (hlength : digits.length = 2 * n)
    (hdigits : ∀ c ∈ digits, c ∈ "0123456789abcdef".toList) :
    ∃ raw : Octets, raw.length = n ∧ digits = raw.flatMap hexOctet := by
  induction n generalizing digits with
  | zero => exact ⟨[], rfl, List.length_eq_zero_iff.mp hlength⟩
  | succ n ih =>
    obtain _ | ⟨c, _ | ⟨d, rest⟩⟩ := digits
    · simp at hlength
    · simp at hlength
      omega
    · have hrest : rest.length = 2 * n := by
        simp only [List.length_cons] at hlength
        omega
      obtain ⟨raw, hraw, rfl⟩ := ih hrest fun e he =>
        hdigits e (List.mem_cons_of_mem _ (List.mem_cons_of_mem _ he))
      obtain ⟨i, hi, rfl⟩ := mem_digits_iff.mp (hdigits c List.mem_cons_self)
      obtain ⟨j, hj, rfl⟩ := mem_digits_iff.mp
        (hdigits d (List.mem_cons_of_mem _ List.mem_cons_self))
      refine ⟨UInt8.ofNat (i * 16 + j) :: raw, by simp [hraw], ?_⟩
      have hvalue : (UInt8.ofNat (i * 16 + j)).toNat = i * 16 + j := by
        rw [UInt8.toNat_ofNat']
        omega
      have hhigh : (i * 16 + j) / 16 = i := by omega
      have hlow : (i * 16 + j) % 16 = j := by omega
      rw [List.flatMap_cons, hexOctet, hvalue, hhigh, hlow]
      rfl

theorem length_flatMap_hexOctet (raw : Octets) :
    (raw.flatMap hexOctet).length = 2 * raw.length := by
  induction raw with
  | nil => rfl
  | cons x raw ih =>
    rw [List.flatMap_cons, List.length_append, ih, List.length_cons]
    show 2 + 2 * raw.length = 2 * (raw.length + 1)
    omega

theorem mem_of_mem_flatMap_hexOctet {raw : Octets} {c : Char} (h : c ∈ raw.flatMap hexOctet) :
    c ∈ "0123456789abcdef".toList := by
  obtain ⟨x, _, hc⟩ := List.mem_flatMap.mp h
  have hx := x.toNat_lt
  rw [hexOctet, List.mem_cons, List.mem_singleton] at hc
  rcases hc with rfl | rfl
  · exact mem_digits_iff.mpr ⟨_, by omega, rfl⟩
  · exact mem_digits_iff.mpr ⟨_, by omega, rfl⟩

theorem map_drop_take (raw : Octets) :
    ((List.range raw.length).map fun i => ((raw.flatMap hexOctet).drop (2 * i)).take 2) =
      raw.map hexOctet := by
  induction raw with
  | nil => rfl
  | cons x raw ih =>
    rw [List.length_cons, List.range_succ_eq_map, List.map_cons, List.map_map, List.map_cons,
      ← ih]
    rfl

/-- **The canonical form is the one of the octets a text writes.** -/
theorem normaliseMac_eq_some_iff {mac canonical : Text} :
    normaliseMac mac = some canonical ↔
      ∃ raw, WritesMac mac raw ∧ canonical = [':'].intercalate (raw.map hexOctet) := by
  constructor
  · intro h
    unfold normaliseMac at h
    dsimp only at h
    split at h
    · simp at h
    · next hgood =>
      rw [not_or, not_not] at hgood
      obtain ⟨hlength, hdigits⟩ := hgood
      obtain ⟨raw, hraw, hwritten⟩ := exists_octets hlength fun c hc => by
        by_contra hnot
        exact hdigits (List.any_eq_true.mpr ⟨c, hc, by simpa using hnot⟩)
      refine ⟨raw, ⟨hraw, hwritten⟩, ?_⟩
      rw [hwritten, ← hraw, map_drop_take] at h
      exact (Option.some.inj h).symm
  · rintro ⟨raw, ⟨hraw, hwritten⟩, rfl⟩
    unfold normaliseMac
    dsimp only
    rw [hwritten, if_neg, ← hraw, map_drop_take]
    rw [not_or, not_not, length_flatMap_hexOctet, hraw]
    refine ⟨rfl, ?_⟩
    intro hany
    obtain ⟨c, hc, hnot⟩ := List.any_eq_true.mp hany
    have hmem : "0123456789abcdef".toList.contains c = true :=
      List.contains_iff_mem.mpr (mem_of_mem_flatMap_hexOctet hc)
    rw [hmem] at hnot
    exact absurd hnot (by decide)

example : normaliseMac "AABB.CCDD.eeff".toList = some "aa:bb:cc:dd:ee:ff".toList := by
  decide +kernel

theorem WritesMac.unique {mac : Text} {raw raw' : Octets} (h : WritesMac mac raw)
    (h' : WritesMac mac raw') : raw = raw' := by
  have := fromHex_flatMap raw
  rw [← h.2, h'.2, fromHex_flatMap] at this
  exact (Option.some.inj this).symm

theorem normaliseMac_eq_iff {mac other canonical : Text} {raw : Octets} (h : WritesMac mac raw)
    (hmac : normaliseMac mac = some canonical) :
    normaliseMac other = some canonical ↔ WritesMac other raw := by
  obtain ⟨raw', hraw', hcanonical⟩ := normaliseMac_eq_some_iff.mp hmac
  rw [h.unique hraw', normaliseMac_eq_some_iff]
  constructor
  · rintro ⟨raw'', hother, hsame⟩
    rw [eq_of_intercalate_hexOctet (hcanonical.symm.trans hsame)]
    exact hother
  · intro hother
    exact ⟨raw', hother, hcanonical⟩

end IPScout
