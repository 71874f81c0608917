import IPScout.Base.Octets
import IPScout.Base.Text

/-!
# UTF-8

Decoding with replacement: a run of octets that begins a character and cannot be
finished stands for one U+FFFD, and the octet that could not finish it is read
anew.  The decoder goes octet by octet; its state is what the character begun may
go on with.

An octet of ASCII ends whatever was begun, so what is before it and what is after it
are decoded apart (`decodeUtf8_append_ascii`), and no character of ASCII is made of
other octets (`exists_of_mem_decodeUtf8`).
-/

namespace IPScout.Base

open Octets

/-- `text.encode("utf-8")`. -/
def encodeUtf8 (t : Text) : Octets := t.flatMap String.utf8EncodeChar

/-- `text.encode("ascii")`; `none` is its `UnicodeEncodeError`. -/
def encodeAscii (t : Text) : Option Octets :=
  if t.all fun c => c.toNat < 0x80 then some (t.map fun c => UInt8.ofNat c.toNat) else none

def replacementCharacter : Char := Char.ofNat 0xFFFD

/-- Between two characters, or inside one: how many octets it still needs, the
bounds on the next of them, and the number read so far. -/
inductive Utf8State
  | start
  | inside (more lo hi acc : Nat)

namespace Utf8State

def first (a : Nat) : Text × Utf8State :=
  if a < 0x80 then ([Char.ofNat a], start)
  else if 0xc2 ≤ a ∧ a < 0xe0 then ([], inside 1 0x80 0xbf (a - 0xc0))
  else if a = 0xe0 then ([], inside 2 0xa0 0xbf 0)
  else if a = 0xed then ([], inside 2 0x80 0x9f 0xd)
  else if 0xe1 ≤ a ∧ a < 0xf0 then ([], inside 2 0x80 0xbf (a - 0xe0))
  else if a = 0xf0 then ([], inside 3 0x90 0xbf 0)
  else if 0xf1 ≤ a ∧ a < 0xf4 then ([], inside 3 0x80 0xbf (a - 0xf0))
  else if a = 0xf4 then ([], inside 3 0x80 0x8f 4)
  else ([replacementCharacter], start)

/-- One octet: the characters it ends, and the state after it. -/
def step (s : Utf8State) (a : Nat) : Text × Utf8State :=
  match s with
  | start => first a
  | inside more lo hi acc =>
    if lo ≤ a ∧ a ≤ hi then
      if more ≤ 1 then ([Char.ofNat (acc * 64 + (a - 0x80))], start)
      else ([], inside (more - 1) 0x80 0xbf (acc * 64 + (a - 0x80)))
    else (replacementCharacter :: (first a).1, (first a).2)

def decode : Utf8State → Octets → Text
  | start, [] => []
  | inside .., [] => [replacementCharacter]
  | s, a :: rest => (s.step a.toNat).1 ++ decode (s.step a.toNat).2 rest

end Utf8State

/-- `octets.decode("utf-8", errors="replace")`. -/
def decodeUtf8 (b : Octets) : Text := Utf8State.start.decode b

/-- A truncated character is replaced once, and what follows a broken one is read. -/
example : decodeUtf8 [0x41, 0xe2, 0x82, 0xac, 0xff, 0xe2, 0x82, 0x42, 0xf0, 0x9f] =
    ['A', '€', '\ufffd', '\ufffd', 'B', '\ufffd'] := by decide

/-! ### Octets of ASCII -/

namespace Utf8State

/-- Whatever finishes the character, it is outside ASCII. -/
def Sound : ℕ → ℕ → ℕ → ℕ → Prop
  | more + 2, lo, hi, acc => ∀ a, lo ≤ a → a ≤ hi →
    Sound (more + 1) 0x80 0xbf (acc * 64 + (a - 0x80))
  | _, lo, hi, acc => ∀ a, lo ≤ a → a ≤ hi →
    0x80 ≤ acc * 64 + (a - 0x80) ∧ (acc * 64 + (a - 0x80)).isValidChar

/-- A state the decoder gets into. -/
def WellFormed : Utf8State → Prop
  | start => True
  | inside more lo hi acc => 0x80 ≤ lo ∧ Sound more lo hi acc

theorem wellFormed_first (a : ℕ) : (first a).2.WellFormed := by
  simp only [first]
  split
  · trivial
  split
  · refine ⟨le_rfl, ?_⟩
    intro b hlo hhi
    simp only [Nat.isValidChar]
    omega
  split
  · refine ⟨by decide, ?_⟩
    intro b hlo hhi c hlo' hhi'
    simp only [Nat.isValidChar]
    omega
  split
  · refine ⟨le_rfl, ?_⟩
    intro b hlo hhi c hlo' hhi'
    simp only [Nat.isValidChar]
    omega
  split
  · refine ⟨le_rfl, ?_⟩
    intro b hlo hhi c hlo' hhi'
    simp only [Nat.isValidChar]
    omega
  split
  · refine ⟨by decide, ?_⟩
    intro b hlo hhi c hlo' hhi' d hlo'' hhi''
    simp only [Nat.isValidChar]
    omega
  split
  · refine ⟨le_rfl, ?_⟩
    intro b hlo hhi c hlo' hhi' d hlo'' hhi''
    simp only [Nat.isValidChar]
    omega
  split
  · refine ⟨le_rfl, ?_⟩
    intro b hlo hhi c hlo' hhi' d hlo'' hhi''
    simp only [Nat.isValidChar]
    omega
  · trivial

theorem WellFormed.step {s : Utf8State} (h : s.WellFormed) (a : ℕ) : (s.step a).2.WellFormed := by
  cases s with
  | start => exact wellFormed_first a
  | inside more lo hi acc =>
    rw [Utf8State.step]
    by_cases hin : lo ≤ a ∧ a ≤ hi
    · rw [if_pos hin]
      by_cases hlast : more ≤ 1
      · rw [if_pos hlast]
        trivial
      · obtain ⟨n, rfl⟩ : ∃ n, more = n + 2 := ⟨more - 2, by omega⟩
        rw [if_neg hlast]
        exact ⟨le_rfl, h.2 a hin.1 hin.2⟩
    · rw [if_neg hin]
      exact wellFormed_first a

theorem toNat_ofNat {n : ℕ} (h : n.isValidChar) : (Char.ofNat n).toNat = n := by
  rw [Char.ofNat, dif_pos h]
  rfl

theorem toNat_of_mem_first {a : ℕ} {c : Char} (h : c ∈ (first a).1) (hc : c.toNat < 0x80) :
    c.toNat = a := by
  rw [first] at h
  split at h
  · next ha =>
    rw [List.mem_singleton] at h
    rw [h, toNat_ofNat (Or.inl (by omega))]
  · repeat' split at h
    all_goals first
      | exact absurd h List.not_mem_nil
      | (rw [List.mem_singleton] at h
         rw [h] at hc
         exact absurd hc (by decide))

theorem WellFormed.toNat_of_mem_step {s : Utf8State} (h : s.WellFormed) {a : ℕ} {c : Char}
    (hmem : c ∈ (s.step a).1) (hc : c.toNat < 0x80) : c.toNat = a := by
  cases s with
  | start => exact toNat_of_mem_first hmem hc
  | inside more lo hi acc =>
    rw [Utf8State.step] at hmem
    by_cases hin : lo ≤ a ∧ a ≤ hi
    · rw [if_pos hin] at hmem
      by_cases hlast : more ≤ 1
      · rw [if_pos hlast, List.mem_singleton] at hmem
        have hsound : 0x80 ≤ acc * 64 + (a - 0x80) ∧ (acc * 64 + (a - 0x80)).isValidChar := by
          rcases Nat.le_one_iff_eq_zero_or_eq_one.mp hlast with rfl | rfl
          · exact h.2 a hin.1 hin.2
          · exact h.2 a hin.1 hin.2
        rw [hmem, toNat_ofNat hsound.2] at hc
        omega
      · rw [if_neg hlast] at hmem
        exact absurd hmem List.not_mem_nil
    · rw [if_neg hin] at hmem
      rcases List.mem_cons.mp hmem with rfl | hmem
      · exact absurd hc (by decide)
      · exact toNat_of_mem_first hmem hc

theorem decode_cons (s : Utf8State) (a : UInt8) (b : Octets) :
    s.decode (a :: b) = (s.step a.toNat).1 ++ (s.step a.toNat).2.decode b := by
  cases s <;> rfl

theorem WellFormed.exists_of_mem_decode {s : Utf8State} (h : s.WellFormed) {b : Octets}
    {c : Char} (hmem : c ∈ s.decode b) (hc : c.toNat < 0x80) : ∃ a ∈ b, a.toNat = c.toNat := by
  induction b generalizing s with
  | nil =>
    cases s with
    | start => exact absurd hmem List.not_mem_nil
    | inside more lo hi acc =>
      rw [decode, List.mem_singleton] at hmem
      rw [hmem] at hc
      exact absurd hc (by decide)
  | cons a b ih =>
    rw [decode_cons, List.mem_append] at hmem
    rcases hmem with hmem | hmem
    · exact ⟨a, List.mem_cons_self, (h.toNat_of_mem_step hmem hc).symm⟩
    · obtain ⟨x, hx, hval⟩ := ih (h.step a.toNat) hmem
      exact ⟨x, List.mem_cons_of_mem a hx, hval⟩

theorem WellFormed.decode_append_ascii {s : Utf8State} (h : s.WellFormed) (b : Octets)
    {a : UInt8} (ha : a.toNat < 0x80) (rest : Octets) :
    s.decode (b ++ a :: rest) = s.decode b ++ Char.ofNat a.toNat :: start.decode rest := by
  have hfirst : first a.toNat = ([Char.ofNat a.toNat], start) := by rw [first, if_pos ha]
  induction b generalizing s with
  | nil =>
    rw [List.nil_append, decode_cons]
    cases s with
    | start =>
      show (first a.toNat).1 ++ (first a.toNat).2.decode rest = _
      rw [hfirst]
      rfl
    | inside more lo hi acc =>
      have hout : ¬(lo ≤ a.toNat ∧ a.toNat ≤ hi) := by
        intro hin
        have := h.1
        omega
      rw [Utf8State.step, if_neg hout, hfirst]
      rfl
  | cons x b ih =>
    rw [List.cons_append, decode_cons, decode_cons, ih (h.step x.toNat), List.append_assoc]

end Utf8State

/-- **What is before an octet of ASCII and what is after it are decoded apart.** -/
theorem decodeUtf8_append_ascii (b : Octets) {a : UInt8} (ha : a.toNat < 0x80) (rest : Octets) :
    decodeUtf8 (b ++ a :: rest) = decodeUtf8 b ++ Char.ofNat a.toNat :: decodeUtf8 rest :=
  Utf8State.WellFormed.decode_append_ascii (s := .start) trivial b ha rest

theorem decodeUtf8_cons_ascii {a : UInt8} (ha : a.toNat < 0x80) (rest : Octets) :
    decodeUtf8 (a :: rest) = Char.ofNat a.toNat :: decodeUtf8 rest :=
  decodeUtf8_append_ascii [] ha rest

/-- **A character of ASCII is decoded from the octet that is its number.** -/
theorem exists_of_mem_decodeUtf8 {b : Octets} {c : Char} (hmem : c ∈ decodeUtf8 b)
    (hc : c.toNat < 0x80) : ∃ a ∈ b, a.toNat = c.toNat :=
  Utf8State.WellFormed.exists_of_mem_decode (s := .start) trivial hmem hc

theorem notMem_decodeUtf8 {b : Octets} {a : UInt8} (h : a ∉ b) (ha : a.toNat < 0x80) {c : Char}
    (hc : c.toNat = a.toNat) : c ∉ decodeUtf8 b := by
  intro hmem
  obtain ⟨a', ha', hval⟩ := exists_of_mem_decodeUtf8 hmem (hc ▸ ha)
  obtain rfl : a' = a := UInt8.toNat_inj.mp (hval.trans hc)
  exact h ha'

theorem mem_decodeUtf8 {b : Octets} {a : UInt8} (hmem : a ∈ b) (ha : a.toNat < 0x80) :
    Char.ofNat a.toNat ∈ decodeUtf8 b := by
  obtain ⟨x, y, rfl⟩ := List.append_of_mem hmem
  rw [decodeUtf8_append_ascii x ha y]
  exact List.mem_append_right _ List.mem_cons_self

/-! ### ASCII -/

theorem encodeAscii_of_forall {t : Text} (h : ∀ c ∈ t, c.toNat < 0x80) :
    encodeAscii t = some (t.map fun c => UInt8.ofNat c.toNat) := by
  rw [encodeAscii, if_pos]
  rw [List.all_eq_true]
  intro c hc
  exact decide_eq_true (h c hc)

theorem encodeAscii_map_ofNat {b : Octets} (h : ∀ x ∈ b, x.toNat < 0x80) :
    encodeAscii (b.map fun x => Char.ofNat x.toNat) = some b := by
  have hnumber : ∀ x ∈ b, (Char.ofNat x.toNat).toNat = x.toNat := by
    intro x hx
    have := h x hx
    exact Utf8State.toNat_ofNat (Or.inl (by omega))
  rw [encodeAscii_of_forall, List.map_map]
  · congr 1
    rw [List.map_congr_left fun x hx => by
      rw [Function.comp_apply, hnumber x hx, UInt8.ofNat_toNat], List.map_id']
  · intro c hc
    obtain ⟨x, hx, rfl⟩ := List.mem_map.mp hc
    rw [hnumber x hx]
    exact h x hx

end IPScout.Base
