import IPScout.Net.Mac

/-!
# One canonical form

The canonical form of a hardware address has four readers and writers: `normalise_mac` and
`format_mac` of `arp.py`, `_require_mac` of `models.py`, and `_canonical_mac` of `bootp.py`.
All of them mean six octets, two lowercase digits each, with colons between them
(`isMac_iff_exists`, `canonicalMac_iff`), and `packed_mac` reads back what they write
(`mac_forms_agree`).
-/

namespace IPScout

open Base Base.Octets Base.Text

/-- `_require_mac` of `models.py`. -/
def requireRecordMac (text : Text) : Except PyError Text :=
  if isMac text then .ok text
  else .error (.value [.quoted text,
    say " is not a hardware address in the aa:bb:cc:dd:ee:ff form"])

theorem requireRecordMac_eq_ok {text : Text} :
    requireRecordMac text = .ok text ↔ isMac text = true := by
  rw [requireRecordMac]
  split
  · next h => exact iff_of_true rfl h
  · next h => exact iff_of_false (by simp) h

/-! ### Six octets -/

theorem mem_digits_of_isOctetText {c : Char} (h : (c.isDigit || ('a' ≤ c && c ≤ 'f')) = true) :
    c ∈ "0123456789abcdef".toList := by
  rw [mem_digits_iff]
  rcases Bool.or_eq_true_iff.mp h with h | h
  · obtain ⟨hlt, hchar⟩ := digitChar_of_isDigit h
    exact ⟨_, by omega, hchar⟩
  · rw [Bool.and_eq_true, decide_eq_true_eq, decide_eq_true_eq] at h
    have hlow : 97 ≤ c.toNat := h.1
    have hhigh : c.toNat ≤ 102 := h.2
    have htable : ∀ d < 16, 10 ≤ d → (Nat.digitChar d).toNat = d + 87 := by decide
    refine ⟨c.toNat - 87, by omega, Char.toNat_inj.mp ?_⟩
    rw [htable _ (by omega) (by omega)]
    omega

theorem exists_hexOctet {t : Text} (h : isOctetText t = true) : ∃ x, t = hexOctet x := by
  rw [isOctetText, Bool.and_eq_true, beq_iff_eq, List.all_eq_true] at h
  obtain ⟨raw, hlength, hraw⟩ := exists_octets (n := 1) h.1 fun c hc =>
    mem_digits_of_isOctetText (h.2 c hc)
  obtain ⟨x, rfl⟩ := List.length_eq_one_iff.mp hlength
  exact ⟨x, by rw [hraw, List.flatMap_singleton]⟩

theorem exists_map_hexOctet {parts : List Text} (h : parts.all isOctetText = true) :
    ∃ raw : Octets, parts = raw.map hexOctet := by
  induction parts with
  | nil => exact ⟨[], rfl⟩
  | cons part parts ih =>
    rw [List.all_cons, Bool.and_eq_true] at h
    obtain ⟨x, rfl⟩ := exists_hexOctet h.1
    obtain ⟨raw, rfl⟩ := ih h.2
    exact ⟨x :: raw, rfl⟩

/-- **A record takes a text that is six octets as they are written.** -/
theorem isMac_iff_exists {t : Text} :
    isMac t = true ↔ ∃ raw : Octets, raw.length = MAC_LENGTH ∧
      t = [':'].intercalate (raw.map hexOctet) := by
  constructor
  · intro h
    rw [isMac, Bool.and_eq_true, beq_iff_eq] at h
    obtain ⟨raw, hraw⟩ := exists_map_hexOctet h.1
    refine ⟨raw, ?_, ?_⟩
    · rw [← h.2, hraw, List.length_map]
    · rw [← hraw, List.intercalate_splitOn]
  · rintro ⟨raw, hraw, rfl⟩
    exact isMac_intercalate hraw

/-! ### Reading them back -/

theorem not_isMacSeparator_of_mem {c : Char} (h : c ∈ "0123456789abcdef".toList) :
    isMacSeparator c = false := by
  obtain ⟨d, hd, rfl⟩ := mem_digits_iff.mp h
  clear h
  revert d
  decide

theorem toLower_of_mem {c : Char} (h : c ∈ "0123456789abcdef".toList) : c.toLower = c := by
  obtain ⟨d, hd, rfl⟩ := mem_digits_iff.mp h
  clear h
  revert d
  decide

theorem writesMac_intercalate {raw : Octets} (h : raw.length = MAC_LENGTH) :
    WritesMac ([':'].intercalate (raw.map hexOctet)) raw := by
  have hdigits : macDigits ([':'].intercalate (raw.map hexOctet)) = raw.flatMap hexOctet := by
    have hcolons : macDigits ([':'].intercalate (raw.map hexOctet)) =
        macDigits (([':'].intercalate (raw.map hexOctet)).filter (· ≠ ':')) := by
      rw [macDigits, macDigits, List.filter_filter]
      apply List.filter_congr
      intro c _
      by_cases hc : c = ':'
      · rw [hc]
        rfl
      · simp [hc]
    rw [hcolons, filter_intercalate, macDigits, List.filter_eq_self]
    intro c hc
    rw [not_isMacSeparator_of_mem (mem_of_mem_flatMap_hexOctet hc)]
    rfl
  refine ⟨h, ?_⟩
  rw [hdigits, List.map_congr_left fun c hc => toLower_of_mem (mem_of_mem_flatMap_hexOctet hc),
    List.map_id']

/-- **A text is the canonical form of itself when a record takes it.** -/
theorem requireRecordMac_iff {s : Text} :
    requireRecordMac s = .ok s ↔ normaliseMac s = some s := by
  rw [requireRecordMac_eq_ok, isMac_iff_exists, normaliseMac_eq_some_iff]
  constructor
  · rintro ⟨raw, hraw, hs⟩
    refine ⟨raw, ?_, hs⟩
    rw [hs]
    exact writesMac_intercalate hraw
  · rintro ⟨raw, ⟨hraw, _⟩, hs⟩
    exact ⟨raw, hraw, hs⟩

theorem normaliseMac_canonical {s canonical : Text} (h : normaliseMac s = some canonical) :
    normaliseMac canonical = some canonical := by
  obtain ⟨raw, ⟨hraw, _⟩, rfl⟩ := normaliseMac_eq_some_iff.mp h
  exact normaliseMac_eq_some_iff.mpr ⟨raw, writesMac_intercalate hraw, rfl⟩

/-! ### Octets that are not all zero -/

/-- The address of no interface, as it is written. -/
def zeroMac : Text := "00:00:00:00:00:00".toList

theorem intercalate_ne_zeroMac {raw : Octets} (h : raw.length = MAC_LENGTH) :
    [':'].intercalate (raw.map hexOctet) ≠ zeroMac ↔ ∃ x ∈ raw, x ≠ 0 := by
  have hzero : zeroMac = [':'].intercalate ((List.replicate MAC_LENGTH 0).map hexOctet) := by
    decide
  rw [hzero]
  constructor
  · intro hne
    by_contra hnone
    push Not at hnone
    apply hne
    rw [List.eq_replicate_iff.mpr ⟨h, hnone⟩]
  · rintro ⟨x, hx, hne⟩ hsame
    rw [eq_of_intercalate_hexOctet hsame] at hx
    exact hne (List.eq_of_mem_replicate hx)

/-- **A lease match takes a canonical form that is not all zeros**: what `bytes.fromhex` reads is
written again, and no other text is what it was written from. -/
theorem canonicalMac_iff {s : Text} :
    canonicalMac s = .ok s ↔ normaliseMac s = some s ∧ s ≠ zeroMac := by
  have hread : canonicalMac s = .ok s ↔
      (fromHex (s.filter (· ≠ ':'))).bind formatMac = some s := by
    rw [canonicalMac]
    split
    · next h => exact iff_of_true rfl h
    · next h => exact iff_of_false (by simp) h
  rw [hread, normaliseMac_eq_some_iff]
  constructor
  · intro h
    obtain ⟨raw, _, hformat⟩ := Option.bind_eq_some_iff.mp h
    obtain ⟨hraw, hsome, rfl⟩ := formatMac_eq_some_iff.mp hformat
    exact ⟨⟨raw, writesMac_intercalate hraw, rfl⟩, (intercalate_ne_zeroMac hraw).mpr hsome⟩
  · rintro ⟨⟨raw, ⟨hraw, _⟩, rfl⟩, hsome⟩
    rw [filter_intercalate, fromHex_flatMap]
    exact formatMac_eq_some_iff.mpr ⟨hraw, (intercalate_ne_zeroMac hraw).mp hsome, rfl⟩

/-! ### There and back -/

theorem packedMac_eq_ok {s : Text} {raw : Octets} (h : WritesMac s raw) :
    packedMac s = .ok raw := by
  have hform := normaliseMac_eq_some_iff.mpr ⟨raw, h, rfl⟩
  rw [packedMac, requireMac, hform]
  simp only [bind, Except.bind, filter_intercalate, fromHex_flatMap]

/-- **The readers and the writers mean one form**: what a record takes, what a lease match takes,
what is packed and written again, what is written and packed again, and what is canonical
already. -/
theorem mac_forms_agree :
    (∀ s, requireRecordMac s = .ok s ↔ normaliseMac s = some s) ∧
    (∀ s, canonicalMac s = .ok s ↔ requireRecordMac s = .ok s ∧ s ≠ "00:00:00:00:00:00".toList) ∧
    (∀ s canonical, normaliseMac s = some canonical → canonical ≠ "00:00:00:00:00:00".toList →
      ∃ raw, packedMac s = .ok raw ∧ formatMac raw = some canonical) ∧
    (∀ raw : Octets, raw.length = MAC_LENGTH → (∃ x ∈ raw, x ≠ 0) →
      ∃ mac, formatMac raw = some mac ∧ packedMac mac = .ok raw) ∧
    ∀ s canonical, normaliseMac s = some canonical → normaliseMac canonical = some canonical := by
  refine ⟨fun s => requireRecordMac_iff, ?_, ?_, ?_, fun s canonical => normaliseMac_canonical⟩
  · intro s
    rw [requireRecordMac_iff]
    exact canonicalMac_iff
  · intro s canonical hform hzero
    obtain ⟨raw, hwrites, rfl⟩ := normaliseMac_eq_some_iff.mp hform
    have hsome := (intercalate_ne_zeroMac hwrites.1).mp hzero
    exact ⟨raw, packedMac_eq_ok hwrites, formatMac_eq_some_iff.mpr ⟨hwrites.1, hsome, rfl⟩⟩
  · intro raw hraw hsome
    exact ⟨_, formatMac_eq_some_iff.mpr ⟨hraw, hsome, rfl⟩,
      packedMac_eq_ok (writesMac_intercalate hraw)⟩

/-- Hyphens and upper case. -/
theorem mac_forms_agree_of_hyphens :
    ∃ raw, packedMac "02-00-5E-10-00-00".toList = .ok raw ∧
      formatMac raw = some "02:00:5e:10:00:00".toList :=
  mac_forms_agree.2.2.1 _ _ (by decide +kernel) (by decide)

end IPScout
