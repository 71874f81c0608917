import Mathlib.Algebra.Ring.Nat
import Mathlib.Data.List.Induction
import Mathlib.Data.List.TakeWhile

/-!
# Text

A text is a list of characters.  This file has the operations on text that
address and option parsers are written with: cutting at a separator, stripping
white space, and reading and writing digits in base ten and sixteen (a number
reads back, `decimalValue_decimal`, and so does a text without leading zeros).  Splitting
at every separator is `List.splitOn`.

White space is every character Unicode calls white space together with the four
separators `\x1c`–`\x1f`, which is what a strip without arguments removes.
-/

namespace IPScout.Base

abbrev Text := List Char

instance : LawfulBEq Text := inferInstance

namespace Text

/-- The text before the first `sep`, the separator if there is one, and the text
after it. -/
def partition (sep : Char) (t : Text) : Text × Text × Text :=
  (t.takeWhile (· ≠ sep), (t.dropWhile (· ≠ sep)).take 1, (t.dropWhile (· ≠ sep)).drop 1)

def isSpace (c : Char) : Bool :=
  let n := c.toNat
  (9 ≤ n && n ≤ 13) || (28 ≤ n && n ≤ 32) || n == 0x85 || n == 0xa0 || n == 0x1680 ||
    (0x2000 ≤ n && n ≤ 0x200a) || n == 0x2028 || n == 0x2029 || n == 0x202f || n == 0x205f ||
    n == 0x3000

def strip (t : Text) : Text := (((t.dropWhile isSpace).reverse).dropWhile isSpace).reverse

/-- The number a run of decimal digits writes. -/
def decimalValue (t : Text) : Nat := t.foldl (fun n c => n * 10 + (c.toNat - '0'.toNat)) 0

/-- The value of one hexadecimal digit of either case. -/
def hexDigit (c : Char) : Option Nat :=
  if c.isDigit then some (c.toNat - '0'.toNat)
  else if 'a' ≤ c ∧ c ≤ 'f' then some (c.toNat - 'a'.toNat + 10)
  else if 'A' ≤ c ∧ c ≤ 'F' then some (c.toNat - 'A'.toNat + 10)
  else none

/-- The number a run of hexadecimal digits writes. -/
def hexValue (t : Text) : Nat := t.foldl (fun n c => n * 16 + (hexDigit c).getD 0) 0

/-- A number in base ten, without leading zeros. -/
def decimal (n : Nat) : Text := Nat.toDigits 10 n

def decimalInt (n : ℤ) : Text := if n < 0 then '-' :: decimal n.natAbs else decimal n.natAbs

/-- A number in lowercase base sixteen, without leading zeros. -/
def hexadecimal (n : Nat) : Text := Nat.toDigits 16 n

/-! ### Cutting at a separator -/

theorem partition_of_notMem {sep : Char} {t : Text} (h : sep ∉ t) :
    partition sep t = (t, [], []) := by
  have hall : ∀ c ∈ t, (decide (c ≠ sep)) = true := by
    intro c hc
    have : c ≠ sep := fun he => h (he ▸ hc)
    simpa using this
  rw [partition, List.takeWhile_eq_self_iff.mpr hall, List.dropWhile_eq_nil_iff.mpr hall]
  rfl

theorem partition_append {sep : Char} {a b : Text} (h : sep ∉ a) :
    partition sep (a ++ sep :: b) = (a, [sep], b) := by
  have hall : ∀ c ∈ a, (decide (c ≠ sep)) = true := by
    intro c hc
    have : c ≠ sep := fun he => h (he ▸ hc)
    simpa using this
  rw [partition, List.takeWhile_append_of_pos hall, List.dropWhile_append_of_pos hall]
  simp

theorem exists_mem_splitOn {sep c : Char} (hc : c ≠ sep) : ∀ {t : Text}, c ∈ t →
    ∃ piece ∈ t.splitOn sep, c ∈ piece := by
  intro t
  induction t with
  | nil => intro h; exact absurd h (by simp)
  | cons d t ih =>
    intro h
    rw [List.splitOn_cons_eq_if_modifyHead]
    obtain ⟨first, rest, hsplit⟩ := List.exists_cons_of_ne_nil (List.splitOn_ne_nil sep t)
    rw [hsplit] at ih ⊢
    rcases List.mem_cons.mp h with rfl | ht
    · rw [if_neg (by simpa using hc), List.modifyHead_cons]
      exact ⟨_, List.mem_cons_self, List.mem_cons_self⟩
    · obtain ⟨piece, hp, hcp⟩ := ih ht
      split
      · exact ⟨piece, List.mem_cons_of_mem _ hp, hcp⟩
      · rw [List.modifyHead_cons]
        rcases List.mem_cons.mp hp with rfl | hp
        · exact ⟨_, List.mem_cons_self, List.mem_cons_of_mem _ hcp⟩
        · exact ⟨piece, List.mem_cons_of_mem _ hp, hcp⟩

/-! ### Numbers in base ten -/

theorem decimal_ne_nil (n : Nat) : decimal n ≠ [] := Nat.toDigits_ne_nil

theorem isDigit_decimal (n : Nat) : (decimal n).all Char.isDigit = true := by
  rw [List.all_eq_true]
  intro c hc
  exact Nat.isDigit_of_mem_toDigits (by decide) (by decide) hc

theorem dot_notMem_decimal (n : Nat) : '.' ∉ decimal n := by
  intro hmem
  have := List.all_eq_true.mp (isDigit_decimal n) _ hmem
  simp at this

theorem decimalValue_concat (t : Text) (c : Char) :
    decimalValue (t ++ [c]) = decimalValue t * 10 + (c.toNat - '0'.toNat) := by
  rw [decimalValue, List.foldl_append]
  rfl

/-- **A number written in base ten reads back.** -/
theorem decimalValue_decimal (n : Nat) : decimalValue (decimal n) = n := by
  induction n using Nat.strongRecOn with
  | ind n ih =>
    by_cases h : n < 10
    · rw [decimal, Nat.toDigits_of_lt_base h]
      show 0 * 10 + (n.digitChar.toNat - 48) = n
      rw [Nat.toNat_digitChar_sub_48_of_lt_ten h]
      omega
    · have hge : 10 ≤ n := by omega
      have hten := ih (n / 10) (by omega)
      rw [decimal] at hten ⊢
      rw [Nat.toDigits_of_base_le (by decide) hge, decimalValue_concat, hten]
      show n / 10 * 10 + ((n % 10).digitChar.toNat - 48) = n
      rw [Nat.toNat_digitChar_sub_48_of_lt_ten (Nat.mod_lt n (by decide))]
      omega

theorem decimal_eq_zero_or_head?_ne (n : Nat) :
    decimal n = ['0'] ∨ (decimal n).head? ≠ some '0' := by
  induction n using Nat.strongRecOn with
  | ind n ih =>
    by_cases h : n < 10
    · rw [decimal, Nat.toDigits_of_lt_base h]
      by_cases hn : n = 0
      · subst hn
        exact Or.inl rfl
      · right
        simpa using hn
    · right
      have hrest : (decimal (n / 10)).head? ≠ some '0' := by
        rcases ih (n / 10) (by omega) with hzero | hhead
        · have := decimalValue_decimal (n / 10)
          rw [hzero] at this
          have : n / 10 = 0 := this.symm
          omega
        · exact hhead
      rw [decimal, Nat.toDigits_of_base_le (by decide) (by omega)]
      rcases List.exists_cons_of_ne_nil (decimal_ne_nil (n / 10)) with ⟨x, r, hx⟩
      rw [decimal] at hx hrest
      rw [hx] at hrest ⊢
      exact hrest

theorem digitChar_of_isDigit {c : Char} (h : c.isDigit = true) :
    c.toNat - '0'.toNat < 10 ∧ Nat.digitChar (c.toNat - '0'.toNat) = c := by
  have hbounds : '0'.toNat ≤ c.toNat ∧ c.toNat ≤ 57 := by
    rw [Char.isDigit, Bool.and_eq_true, decide_eq_true_iff, decide_eq_true_iff] at h
    exact ⟨UInt32.le_iff_toNat_le.mp h.1, UInt32.le_iff_toNat_le.mp h.2⟩
  have hzero : '0'.toNat = 48 := rfl
  have hlt : c.toNat - '0'.toNat < 10 := by omega
  refine ⟨hlt, ?_⟩
  rw [← Char.toNat_inj, Nat.toNat_digitChar_of_lt_ten hlt]
  omega

/-- **A text of digits is what its number writes**, unless it has leading zeros. -/
theorem decimal_decimalValue {t : Text} (hdigits : t.all Char.isDigit = true) (hne : t ≠ [])
    (hzero : t = ['0'] ∨ t.head? ≠ some '0') : decimal (decimalValue t) = t := by
  induction t using List.reverseRecOn with
  | nil => exact absurd rfl hne
  | append_singleton t c ih =>
    rw [List.all_append, Bool.and_eq_true] at hdigits
    have hc : c.isDigit = true := by simpa using hdigits.2
    obtain ⟨hlt, hchar⟩ := digitChar_of_isDigit hc
    rw [decimalValue_concat]
    by_cases ht : t = []
    · subst ht
      rw [decimal, show decimalValue [] * 10 + (c.toNat - '0'.toNat) = c.toNat - '0'.toNat from
        Nat.zero_add _, Nat.toDigits_of_lt_base hlt, hchar, List.nil_append]
    · have hhead : t.head? ≠ some '0' := by
        rcases List.exists_cons_of_ne_nil ht with ⟨x, r, rfl⟩
        rcases hzero with h | h
        · simp at h
        · exact h
      have hrest := ih hdigits.1 ht (Or.inr hhead)
      have hpos : 0 < decimalValue t := by
        by_contra h0
        rw [Nat.eq_zero_of_not_pos h0] at hrest
        rw [← hrest] at hhead
        exact hhead rfl
      rw [decimal] at hrest ⊢
      rw [Nat.mul_comm, ← Nat.toDigits_append_toDigits (by decide) hpos hlt, hrest,
        Nat.toDigits_of_lt_base hlt, hchar]

/-- A run of digits without its leading zeros; zero keeps one. -/
def dropLeadingZeros (t : Text) : Text :=
  if t.dropWhile (· == '0') = [] then ['0'] else t.dropWhile (· == '0')

theorem decimalValue_dropWhile (t : Text) :
    decimalValue (t.dropWhile (· == '0')) = decimalValue t := by
  induction t with
  | nil => rfl
  | cons c t ih =>
    rw [List.dropWhile_cons]
    split
    · next hzero =>
      rw [ih, beq_iff_eq.mp hzero]
      rfl
    · rfl

/-- **A number is written without the leading zeros it was read with.** -/
theorem decimal_decimalValue_eq_dropLeadingZeros {t : Text}
    (hdigits : t.all Char.isDigit = true) :
    decimal (decimalValue t) = dropLeadingZeros t := by
  rw [dropLeadingZeros, ← decimalValue_dropWhile]
  by_cases hnil : t.dropWhile (· == '0') = []
  · rw [if_pos hnil, hnil]
    rfl
  · rw [if_neg hnil]
    apply decimal_decimalValue _ hnil
    · right
      intro hhead
      have hnot := List.head?_dropWhile_not (· == '0') t
      rw [hhead] at hnot
      simp at hnot
    · rw [List.all_eq_true] at hdigits ⊢
      intro c hc
      exact hdigits c ((List.dropWhile_sublist _).mem hc)

/-! ### Numbers in base sixteen -/

theorem hexDigit_digitChar {d : Nat} (h : d < 16) : hexDigit (Nat.digitChar d) = some d := by
  revert d
  decide

theorem hexadecimal_ne_nil (n : Nat) : hexadecimal n ≠ [] := Nat.toDigits_ne_nil

theorem hexValue_concat (t : Text) (c : Char) :
    hexValue (t ++ [c]) = hexValue t * 16 + (hexDigit c).getD 0 := by
  rw [hexValue, List.foldl_append]
  rfl

/-- **A number written in base sixteen reads back**, digit by digit. -/
theorem hexValue_hexadecimal (n : Nat) :
    (hexadecimal n).all (fun c => (hexDigit c).isSome) = true ∧ hexValue (hexadecimal n) = n := by
  induction n using Nat.strongRecOn with
  | ind n ih =>
    by_cases h : n < 16
    · rw [hexadecimal, Nat.toDigits_of_lt_base h]
      refine ⟨by simp [hexDigit_digitChar h], ?_⟩
      show 0 * 16 + (hexDigit (Nat.digitChar n)).getD 0 = n
      rw [hexDigit_digitChar h, Option.getD_some]
      omega
    · have hlast : n % 16 < 16 := Nat.mod_lt n (by decide)
      obtain ⟨hall, hvalue⟩ := ih (n / 16) (by omega)
      rw [hexadecimal] at hall hvalue ⊢
      rw [Nat.toDigits_of_base_le (by decide) (by omega), List.all_append, hall, hexValue_concat,
        hvalue, hexDigit_digitChar hlast, Option.getD_some]
      refine ⟨by simp [hexDigit_digitChar hlast], by omega⟩

theorem notMem_hexadecimal {c : Char} (h : hexDigit c = none) (n : Nat) : c ∉ hexadecimal n := by
  intro hmem
  have hdigit := List.all_eq_true.mp (hexValue_hexadecimal n).1 c hmem
  rw [h] at hdigit
  simp at hdigit

theorem length_hexadecimal_le {n : Nat} (h : n < 65536) : (hexadecimal n).length ≤ 4 := by
  rw [hexadecimal, Nat.length_toDigits_le_iff (by decide) (by decide)]
  omega

/-! ### Numbers joined by dots -/

def dottedText (numbers : List Nat) : Text := ['.'].intercalate (numbers.map decimal)

theorem splitOn_dottedText {numbers : List Nat} (h : numbers ≠ []) :
    (dottedText numbers).splitOn '.' = numbers.map decimal := by
  apply List.splitOn_intercalate
  · intro piece hpiece
    obtain ⟨n, _, rfl⟩ := List.mem_map.mp hpiece
    exact dot_notMem_decimal n
  · simpa using h

theorem isDigit_of_mem_dottedText {numbers : List Nat} {c : Char} (h : c ∈ dottedText numbers) :
    c.isDigit = true ∨ c = '.' := by
  by_cases hdot : c = '.'
  · exact Or.inr hdot
  · left
    rcases numbers with _ | ⟨n, numbers⟩
    · simp [dottedText] at h
    · obtain ⟨piece, hpiece, hc⟩ := exists_mem_splitOn hdot h
      rw [splitOn_dottedText (by simp)] at hpiece
      obtain ⟨m, _, rfl⟩ := List.mem_map.mp hpiece
      exact List.all_eq_true.mp (isDigit_decimal m) c hc

end Text

end IPScout.Base
