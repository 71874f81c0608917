import IPScout.Base.Text

/-!
# Reading an integer from a text

`int(text)` of a text without white space around it: a sign, and decimal digits of any
script with single underscores between them.  A run of more digits than the interpreter's
limit is refused.  Which characters are digits is a matter of the interpreter's version of
Unicode, so it is a parameter, a `DigitTable`.

A text of digits of base ten is read as the number it writes, unless it is too long
(`readInt_of_isDigit`).
-/

namespace IPScout.Base.Text

/-- The decimal digits of a version of Unicode, with their values; in ASCII they are those of
base ten. -/
structure DigitTable where
  decimalDigit : Char → Option ℕ
  ascii : ∀ c, c.toNat < 128 →
    decimalDigit c = if c.isDigit = true then some (c.toNat - '0'.toNat) else none

/-- The zeros of the scripts outside ASCII that have decimal digits (Unicode 15.0); nine more
digits follow each of them. -/
def decimalZeros : List ℕ :=
  [0x660, 0x6f0, 0x7c0, 0x966, 0x9e6, 0xa66, 0xae6, 0xb66, 0xbe6, 0xc66, 0xce6, 0xd66,
    0xde6, 0xe50, 0xed0, 0xf20, 0x1040, 0x1090, 0x17e0, 0x1810, 0x1946, 0x19d0, 0x1a80, 0x1a90,
    0x1b50, 0x1bb0, 0x1c40, 0x1c50, 0xa620, 0xa8d0, 0xa900, 0xa9d0, 0xa9f0, 0xaa50, 0xabf0,
    0xff10, 0x104a0, 0x10d30, 0x11066, 0x110f0, 0x11136, 0x111d0, 0x112f0, 0x11450, 0x114d0,
    0x11650, 0x116c0, 0x11730, 0x118e0, 0x11950, 0x11c50, 0x11d50, 0x11da0, 0x11f50, 0x16a60,
    0x16ac0, 0x16b50, 0x1d7ce, 0x1d7d8, 0x1d7e2, 0x1d7ec, 0x1d7f6, 0x1e140, 0x1e2f0, 0x1e4f0,
    0x1e950, 0x1fbf0]

/-- Python 3.12 and 3.13. -/
def DigitTable.unicode15 : DigitTable where
  decimalDigit c :=
    if c.toNat < 128 then if c.isDigit = true then some (c.toNat - '0'.toNat) else none
    else (decimalZeros.find? fun z => z ≤ c.toNat && c.toNat ≤ z + 9).map fun z => c.toNat - z
  ascii _ h := if_pos h

section Reading

variable (table : DigitTable)

def underscored : Text → Option (List ℕ)
  | [] => none
  | [c] => (table.decimalDigit c).map fun d => [d]
  | c :: '_' :: rest =>
    match table.decimalDigit c, underscored rest with
    | some d, some digits => some (d :: digits)
    | _, _ => none
  | c :: rest =>
    match table.decimalDigit c, underscored rest with
    | some d, some digits => some (d :: digits)
    | _, _ => none

/-- `sys.int_info.default_max_str_digits`. -/
def MAX_STR_DIGITS : ℕ := 4300

/-- The number digits of base ten make up. -/
def ofDecimals (digits : List ℕ) : ℕ := digits.foldl (fun n d => n * 10 + d) 0

/-- The digits after a sign, as an integer. -/
def readUnsigned (t : Text) : Option ℕ :=
  match underscored table t with
  | none => none
  | some digits => if MAX_STR_DIGITS < digits.length then none else some (ofDecimals digits)

/-- `int(text)`; `none` is its `ValueError`. -/
def readInt : Text → Option ℤ
  | '+' :: rest => (readUnsigned table rest).map fun n => (n : ℤ)
  | '-' :: rest => (readUnsigned table rest).map fun n => -(n : ℤ)
  | t => (readUnsigned table t).map fun n => (n : ℤ)

end Reading

/-! ### Digits of base ten -/

variable {table : DigitTable}

theorem DigitTable.decimalDigit_of_isDigit {c : Char} (h : c.isDigit = true) :
    table.decimalDigit c = some (c.toNat - '0'.toNat) := by
  have hascii : c.toNat < 128 := by
    rw [Char.isDigit, Bool.and_eq_true, decide_eq_true_eq, decide_eq_true_eq] at h
    have hhigh : c.toNat ≤ 57 := h.2
    omega
  rw [table.ascii c hascii, if_pos h]

theorem underscored_cons {c d : Char} (rest : Text) (hd : d ≠ '_') :
    underscored table (c :: d :: rest) =
      match table.decimalDigit c, underscored table (d :: rest) with
      | some value, some digits => some (value :: digits)
      | _, _ => none := by
  rw [underscored]
  · intro h
    simp at h
  · intro rest' h
    exact hd (List.cons.inj h).1

theorem underscored_of_isDigit {t : Text} (hne : t ≠ []) (h : t.all Char.isDigit = true) :
    underscored table t = some (t.map fun c => c.toNat - '0'.toNat) := by
  induction t with
  | nil => exact absurd rfl hne
  | cons c rest ih =>
    rw [List.all_cons, Bool.and_eq_true] at h
    cases rest with
    | nil =>
      rw [underscored, table.decimalDigit_of_isDigit h.1]
      rfl
    | cons d rest =>
      have hd : d ≠ '_' := by
        rintro rfl
        simp at h
      rw [underscored_cons rest hd, table.decimalDigit_of_isDigit h.1,
        ih (List.cons_ne_nil d rest) h.2]
      rfl

theorem ofDecimals_map (t : Text) :
    ofDecimals (t.map fun c => c.toNat - '0'.toNat) = decimalValue t := by
  rw [ofDecimals, decimalValue, List.foldl_map]

/-- **A text of digits is read as the number it writes**, unless it is too long. -/
theorem readInt_of_isDigit {t : Text} (h : t.all Char.isDigit = true) :
    readInt table t =
      if t = [] ∨ MAX_STR_DIGITS < t.length then none else some (decimalValue t : ℤ) := by
  have hsign : readInt table t = (readUnsigned table t).map fun n => (n : ℤ) := by
    rw [readInt]
    · rintro rest rfl
      simp at h
    · rintro rest rfl
      simp at h
  rw [hsign, readUnsigned]
  by_cases hne : t = []
  · subst hne
    rw [underscored, if_pos (Or.inl rfl)]
    rfl
  · rw [underscored_of_isDigit hne h]
    dsimp only
    rw [List.length_map]
    by_cases hlong : MAX_STR_DIGITS < t.length
    · rw [if_pos hlong, if_pos (Or.inr hlong)]
      rfl
    · rw [if_neg hlong, if_neg (not_or.mpr ⟨hne, hlong⟩), ofDecimals_map]
      rfl

end IPScout.Base.Text
