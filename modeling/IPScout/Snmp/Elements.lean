import IPScout.Snmp.Ber

/-!
# Elements read back

What the writers of `snmpber.py` put out is what its readers take off: an element
(`nextElement_tlv`), and an integer whose minimal form has at most five octets
(`expectInteger_integerElement`).

The readers take more than the writers put out: a length or an integer may be
longer than it has to be.  `nextElement_ok` and `expectInteger_ok` say that the
written form is never the longer one, and that an element stays the same whatever
follows it.
-/

namespace IPScout.Ber

open Base Base.Octets Base.Text

/-! ### Lengths -/

theorem lt_of_lengthOctets (size : Nat) : size < 256 ^ ((Nat.size size + 7) / 8) := by
  calc size < 2 ^ Nat.size size := Nat.lt_size_self size
    _ ≤ 2 ^ (8 * ((Nat.size size + 7) / 8)) := Nat.pow_le_pow_right (by omega) (by omega)
    _ = 256 ^ ((Nat.size size + 7) / 8) := by rw [Nat.pow_mul]

theorem lengthOctets_le {size count : Nat} (h : size < 256 ^ count) :
    (Nat.size size + 7) / 8 ≤ count := by
  have : Nat.size size ≤ 8 * count := by
    rw [Nat.size_le, Nat.pow_mul]
    exact h
  omega

theorem lengthOctets_pos {size : Nat} (h : LONG_FORM ≤ size) : 1 ≤ (Nat.size size + 7) / 8 := by
  have hpos : 0 < Nat.size size := by
    rw [Nat.size_pos]
    exact Nat.lt_of_lt_of_le (by decide) h
  omega

/-- **A length reads back**, whatever follows it. -/
theorem elementLength_lengthField {size : Nat} (h : size < 2 ^ 32) (rest : Octets) :
    ∃ first field, lengthField size = first :: field ∧
      elementLength first (field ++ rest) = .ok (size, rest) := by
  by_cases hshort : size < LONG_FORM
  · refine ⟨UInt8.ofNat size, [], by rw [lengthField, if_pos hshort], ?_⟩
    have hsize : (UInt8.ofNat size).toNat = size := by
      rw [UInt8.toNat_ofNat']
      exact Nat.mod_eq_of_lt (Nat.lt_trans hshort (by decide))
    rw [elementLength, hsize, if_pos hshort, List.nil_append]
  · have hcount : (Nat.size size + 7) / 8 ≤ 4 := lengthOctets_le h
    have hpos := lengthOctets_pos (Nat.not_lt.mp hshort)
    refine ⟨_, packedNat ((Nat.size size + 7) / 8) size, by rw [lengthField, if_neg hshort], ?_⟩
    rw [length_packedNat]
    have hlong : LONG_FORM = 128 := rfl
    have hfirst : (UInt8.ofNat (LONG_FORM + (Nat.size size + 7) / 8)).toNat
        = LONG_FORM + (Nat.size size + 7) / 8 := by
      rw [UInt8.toNat_ofNat']
      apply Nat.mod_eq_of_lt
      omega
    rw [elementLength, hfirst, if_neg (by omega), Nat.add_sub_cancel_left, longLength,
      if_neg (by omega), if_neg (show ¬ MAX_LENGTH_OCTETS < (Nat.size size + 7) / 8 from
        Nat.not_lt.mpr hcount)]
    rw [if_neg (by rw [List.length_append, length_packedNat]; omega),
      List.take_left' (length_packedNat _ _), List.drop_left' (length_packedNat _ _),
      bigEndian_packedNat, Nat.mod_eq_of_lt (lt_of_lengthOctets size)]

theorem length_lengthField (size : Nat) : (lengthField size).length
    = if size < LONG_FORM then 1 else (Nat.size size + 7) / 8 + 1 := by
  rw [lengthField]
  split
  · rfl
  · rw [List.length_cons, length_packedNat]

theorem length_lengthField_mono {m n : Nat} (h : m ≤ n) :
    (lengthField m).length ≤ (lengthField n).length := by
  rw [length_lengthField, length_lengthField]
  have hsize := Nat.size_le_size h
  by_cases hm : m < LONG_FORM
  · rw [if_pos hm]
    split
    · omega
    · omega
  · rw [if_neg hm, if_neg (by omega)]
    omega

theorem length_tlv (tag : UInt8) (body : Octets) :
    (tlv tag body).length = 1 + (lengthField body.length).length + body.length := by
  rw [tlv, List.length_cons, List.length_append]
  omega

theorem length_tlv_mono {a b : UInt8} {x y : Octets} (h : x.length ≤ y.length) :
    (tlv a x).length ≤ (tlv b y).length := by
  rw [length_tlv, length_tlv]
  have := length_lengthField_mono h
  omega

theorem length_le_length_tlv (tag : UInt8) (body : Octets) :
    body.length ≤ (tlv tag body).length := by
  rw [length_tlv]
  omega

/-! ### Elements -/

/-- **An element reads back**, whatever follows it. -/
theorem nextElement_tlv (tag : UInt8) {body : Octets} (h : body.length < 2 ^ 32) (rest : Octets) :
    nextElement (tlv tag body ++ rest) = .ok ⟨tag, body, rest⟩ := by
  obtain ⟨first, field, hfield, hread⟩ := elementLength_lengthField h (body ++ rest)
  rw [tlv, hfield, List.cons_append, List.cons_append, List.cons_append, List.append_assoc,
    nextElement, hread]
  dsimp only
  rw [if_neg (by rw [List.length_append]; omega), List.take_left, List.drop_left]

theorem expect_tlv (tag : UInt8) (what : String) {body : Octets} (h : body.length < 2 ^ 32)
    (rest : Octets) : expect tag what (tlv tag body ++ rest) = .ok (body, rest) := by
  rw [expect, if_neg (by rw [tlv]; simp), nextElement_tlv tag h]
  simp

/-- What `expect` takes is an element of its tag. -/
theorem nextElement_of_expect {tag : UInt8} {what : String} {data body rest : Octets}
    (h : expect tag what data = .ok (body, rest)) : nextElement data = .ok ⟨tag, body, rest⟩ := by
  rw [expect] at h
  split at h
  · simp at h
  · split at h
    · simp at h
    · next element helement =>
      split at h
      · simp at h
      · next htag =>
        simp only [Except.ok.injEq, Prod.mk.injEq] at h
        obtain ⟨hbody, hrest⟩ := h
        have htag := not_not.mp htag
        rw [helement, ← htag, ← hbody, ← hrest]

theorem elementLength_ok {size : UInt8} {rest after : Octets} {n : Nat}
    (h : elementLength size rest = .ok (n, after)) :
    ∃ field, rest = field ++ after ∧ n < 2 ^ 32 ∧
      (lengthField n).length ≤ 1 + field.length ∧
      ∀ more, elementLength size (rest ++ more) = .ok (n, after ++ more) := by
  rw [elementLength] at h
  split at h
  · next hshort =>
    simp only [Except.ok.injEq, Prod.mk.injEq] at h
    obtain ⟨rfl, rfl⟩ := h
    refine ⟨[], rfl, Nat.lt_trans hshort (by decide), ?_, ?_⟩
    · rw [length_lengthField, if_pos hshort]
      exact Nat.le_refl 1
    · intro more
      rw [elementLength, if_pos hshort]
  · next hlong =>
    rw [longLength] at h
    split at h
    · simp at h
    · next hpos =>
      split at h
      · simp at h
      · next hmax =>
        split at h
        · simp at h
        · next hlen =>
          simp only [Except.ok.injEq, Prod.mk.injEq] at h
          obtain ⟨rfl, rfl⟩ := h
          generalize hk : size.toNat - LONG_FORM = k at hpos hmax hlen
          have hbound := bigEndian_lt (rest.take k)
          rw [List.length_take, Nat.min_eq_left (by omega)] at hbound
          have hfour : k ≤ 4 := Nat.not_lt.mp hmax
          refine ⟨rest.take k, (List.take_append_drop k rest).symm, ?_, ?_, ?_⟩
          · calc bigEndian (rest.take k) < 256 ^ k := hbound
              _ ≤ 256 ^ 4 := Nat.pow_le_pow_right (by omega) hfour
              _ = 2 ^ 32 := by decide
          · have := lengthOctets_le hbound
            rw [length_lengthField, List.length_take, Nat.min_eq_left (by omega)]
            split
            · omega
            · omega
          · intro more
            rw [elementLength, if_neg hlong, hk, longLength, if_neg hpos, if_neg hmax,
              if_neg (by rw [List.length_append]; omega),
              List.take_append_of_le_length (by omega), List.drop_append_of_le_length (by omega)]

/-- **An element that is read** ends inside the data, is below `2 ^ 32` octets, is
written no longer than it came, and stays the same whatever follows. -/
theorem nextElement_ok {data : Octets} {element : Element} (h : nextElement data = .ok element) :
    element.body.length < 2 ^ 32 ∧
      (tlv element.tag element.body).length + element.rest.length ≤ data.length ∧
      ∀ more, nextElement (data ++ more)
        = .ok ⟨element.tag, element.body, element.rest ++ more⟩ := by
  rw [nextElement.eq_def] at h
  split at h
  · next tag size rest =>
    split at h
    · simp at h
    · next n after hlength =>
      obtain ⟨field, hrest, hn, hfield, hmore⟩ := elementLength_ok hlength
      split at h
      · simp at h
      · next hfits =>
        have helement := Except.ok.inj h
        subst helement
        have htake : (after.take n).length = n := by
          rw [List.length_take, Nat.min_eq_left (by omega)]
        refine ⟨by rw [htake]; exact hn, ?_, ?_⟩
        · dsimp only
          rw [length_tlv, htake, List.length_drop, hrest, List.length_cons, List.length_cons,
            List.length_append]
          omega
        · intro more
          rw [List.cons_append, List.cons_append, nextElement, hmore more]
          dsimp only
          rw [if_neg (by rw [List.length_append]; omega),
            List.take_append_of_le_length (by omega), List.drop_append_of_le_length (by omega)]
  · simp at h

/-! ### Integers -/

def integerOctets (value : ℤ) : Nat :=
  Nat.size (if value < 0 then (-value - 1).toNat else value.toNat) / 8 + 1

theorem cast_two_pow (k : Nat) : ((2 ^ k : Nat) : ℤ) = 2 ^ k := by
  rw [Int.natCast_pow]
  rfl

theorem cast_octets_pow (k : Nat) : ((256 ^ k : Nat) : ℤ) = 256 ^ k := by
  rw [Int.natCast_pow]
  rfl

/-- The numbers so many octets hold in two's complement. -/
def fitsOctets (count : Nat) (value : ℤ) : Prop :=
  -(2 ^ (8 * count - 1) : ℤ) ≤ value ∧ value < 2 ^ (8 * count - 1)

theorem magnitude_lt {value : ℤ} {bits : Nat} (h : -(2 ^ bits : ℤ) ≤ value ∧ value < 2 ^ bits) :
    (if value < 0 then (-value - 1).toNat else value.toNat) < 2 ^ bits := by
  have hcast := cast_two_pow bits
  obtain ⟨hlow, hhigh⟩ := h
  split
  · omega
  · omega

theorem fitsOctets_integerOctets (value : ℤ) : fitsOctets (integerOctets value) value := by
  rw [fitsOctets, integerOctets]
  generalize hm : (if value < 0 then (-value - 1).toNat else value.toNat) = magnitude
  have hlt : magnitude < 2 ^ (8 * (Nat.size magnitude / 8 + 1) - 1) :=
    Nat.lt_of_lt_of_le (Nat.lt_size_self magnitude)
      (Nat.pow_le_pow_right (by omega) (by omega))
  rw [← cast_two_pow]
  by_cases hneg : value < 0
  · rw [if_pos hneg] at hm
    omega
  · rw [if_neg hneg] at hm
    omega

theorem integerOctets_le {count : Nat} {value : ℤ} (hpos : 1 ≤ count)
    (h : fitsOctets count value) : integerOctets value ≤ count := by
  have := Nat.size_le.mpr (magnitude_lt h)
  rw [integerOctets]
  omega

theorem fitsOctets_mono {m n : Nat} {value : ℤ} (hmn : m ≤ n) (h : fitsOctets m value) :
    fitsOctets n value := by
  have hpow : 2 ^ (8 * m - 1) ≤ 2 ^ (8 * n - 1) := Nat.pow_le_pow_right (by decide) (by omega)
  obtain ⟨hlow, hhigh⟩ := h
  rw [← cast_two_pow] at hlow hhigh
  rw [fitsOctets, ← cast_two_pow]
  omega

theorem two_mul_halfRange {count : Nat} (h : 1 ≤ count) :
    2 * 2 ^ (8 * count - 1) = 256 ^ count := by
  rw [← Nat.pow_succ', show (8 * count - 1).succ = 8 * count by omega, Nat.pow_mul]

theorem signedBigEndian_packedNat {count : Nat} {value : ℤ} (hpos : 1 ≤ count)
    (h : fitsOctets count value) :
    signedBigEndian (packedNat count (value % 256 ^ count).toNat) = value := by
  obtain ⟨hlow, hhigh⟩ := h
  have hhalf := two_mul_halfRange hpos
  rw [← cast_two_pow] at hlow hhigh
  have hmod : (value % ((256 ^ count : Nat) : ℤ)).toNat < 256 ^ count := by
    have hpow : 0 < 256 ^ count := Nat.pow_pos (by decide)
    have hrange : (0 : ℤ) < ((256 ^ count : Nat) : ℤ) := Int.natCast_pos.mpr hpow
    have := Int.emod_lt_of_pos value hrange
    have := Int.emod_nonneg value (Int.ne_of_gt hrange)
    omega
  rw [← cast_octets_pow, signedBigEndian, length_packedNat, bigEndian_packedNat,
    Nat.mod_eq_of_lt hmod, ← cast_octets_pow]
  by_cases hneg : value < 0
  · have hvalue : value % ((256 ^ count : Nat) : ℤ) = value + ((256 ^ count : Nat) : ℤ) := by
      rw [← Int.add_emod_right]
      exact Int.emod_eq_of_lt (by omega) (by omega)
    rw [hvalue, if_pos (by omega)]
    omega
  · have hvalue : value % ((256 ^ count : Nat) : ℤ) = value :=
      Int.emod_eq_of_lt (by omega) (by omega)
    rw [hvalue, if_neg (by omega)]
    omega

theorem integerElement_eq (value : ℤ) : integerElement value
    = tlv INTEGER (packedNat (integerOctets value) (value % 256 ^ integerOctets value).toNat) :=
  rfl

/-- **An integer of at most five octets reads back**, whatever follows it. -/
theorem expectInteger_integerElement (what : String) {value : ℤ} (h : fitsOctets 5 value)
    (rest : Octets) : expectInteger what (integerElement value ++ rest) = .ok (value, rest) := by
  have hfive := integerOctets_le (by omega) h
  have hone : 1 ≤ integerOctets value := by
    rw [integerOctets]
    omega
  rw [expectInteger, integerElement_eq, expect_tlv _ _ (by rw [length_packedNat]; omega)]
  dsimp only
  rw [length_packedNat, if_neg (by rw [not_not]; exact ⟨hone, hfive⟩),
    signedBigEndian_packedNat hone (fitsOctets_integerOctets value)]

theorem fitsOctets_signedBigEndian {b : Octets} (h : 1 ≤ b.length) :
    fitsOctets b.length (signedBigEndian b) := by
  have hlt := bigEndian_lt b
  have hhalf := two_mul_halfRange h
  rw [fitsOctets, signedBigEndian, ← cast_two_pow, ← cast_octets_pow]
  split
  · omega
  · omega

/-- **An integer that is read** is one of five octets, and is written no longer than
it came. -/
theorem expectInteger_ok {what : String} {data rest : Octets} {value : ℤ}
    (h : expectInteger what data = .ok (value, rest)) :
    fitsOctets 5 value ∧ (integerElement value).length + rest.length ≤ data.length := by
  rw [expectInteger] at h
  split at h
  · simp at h
  · next body after hexpect =>
    split at h
    · simp at h
    · next hlength =>
      obtain ⟨hone, hfive⟩ := not_not.mp hlength
      simp only [Except.ok.injEq, Prod.mk.injEq] at h
      obtain ⟨rfl, rfl⟩ := h
      have hfits := fitsOctets_signedBigEndian hone
      refine ⟨fitsOctets_mono hfive hfits, ?_⟩
      have hlen := (nextElement_ok (nextElement_of_expect hexpect)).2.1
      have hmono : (integerElement (signedBigEndian body)).length ≤ (tlv INTEGER body).length := by
        rw [integerElement_eq]
        apply length_tlv_mono
        rw [length_packedNat]
        exact integerOctets_le hone hfits
      dsimp only at hlen
      omega

end IPScout.Ber
