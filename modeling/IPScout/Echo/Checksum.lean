import IPScout.Base.OnesComplement
import IPScout.Echo.Quoted
import Mathlib.Algebra.Group.Action.Defs
import Mathlib.Algebra.Order.BigOperators.Group.List
import Mathlib.Algebra.Order.Group.Nat

/-!
# The checksum of a message

`checksum` is the complement of the one's-complement sum of the 16-bit words of its
octets (`checksum_eq`): the plain sum is folded twice, and for octets that an IP packet
can hold that leaves no carry (`folds_leave_no_carry`).

A field for the checksum is zero while it is computed.  With the checksum in it the
octets sum to nothing but ones, wherever the field stands at an even offset
(`checksum_inserted`), and that is how a receiver checks an echo request
(`checksum_requestDatagram`).
-/

namespace IPScout

open Base Base.Octets Base.Text

/-! ### Words -/

/-- Octets as they are summed: an odd number of them gets one more. -/
def evenPadded (data : Octets) : Octets := if data.length % 2 ≠ 0 then data ++ [0] else data

theorem words_append {a : Octets} (h : a.length % 2 = 0) (b : Octets) :
    words (a ++ b) = words a ++ words b := by
  induction a using words.induct with
  | case1 high low rest ih =>
    have hrest : rest.length % 2 = 0 := by
      rw [List.length_cons, List.length_cons] at h
      omega
    show _ :: words (rest ++ b) = _ :: (words rest ++ words b)
    rw [ih hrest]
  | case2 a hshort =>
    obtain _ | ⟨x, _ | ⟨y, rest⟩⟩ := a
    · rfl
    · simp at h
    · exact absurd rfl (hshort x y rest)

theorem length_words (b : Octets) : (words b).length = b.length / 2 := by
  induction b using words.induct with
  | case1 high low rest ih =>
    rw [words, List.length_cons, ih, List.length_cons, List.length_cons]
    omega
  | case2 b hshort =>
    obtain _ | ⟨x, _ | ⟨y, rest⟩⟩ := b
    · rfl
    · simp [words]
    · exact absurd rfl (hshort x y rest)

theorem le_of_mem_words {b : Octets} {word : ℕ} (h : word ∈ words b) : word ≤ 0xFFFF := by
  induction b using words.induct with
  | case1 high low rest ih =>
    rw [words] at h
    rcases List.mem_cons.mp h with rfl | hrest
    · have := high.toNat_lt
      have := low.toNat_lt
      omega
    · exact ih hrest
  | case2 b hshort =>
    obtain _ | ⟨x, _ | ⟨y, rest⟩⟩ := b
    · simp [words] at h
    · simp [words] at h
    · exact absurd rfl (hshort x y rest)

theorem sum_words_lt {data : Octets} (h : data.length ≤ MAX_IP_LENGTH) :
    (words (evenPadded data)).sum < (0xFFFF + 1) * (0xFFFF + 1) := by
  have hpadded : (evenPadded data).length ≤ 0xFFFF + 1 := by
    have hmax : MAX_IP_LENGTH = 0xFFFF := rfl
    rw [evenPadded]
    split
    · rw [List.length_append, List.length_singleton]
      omega
    · omega
  have hlength := length_words (evenPadded data)
  have hwords : ∀ word ∈ words (evenPadded data), word ≤ 0xFFFF := by
    intro word hword
    exact le_of_mem_words hword
  have hsum := List.sum_le_card_nsmul _ 0xFFFF hwords
  rw [smul_eq_mul] at hsum
  omega

theorem words_packedNat {n : ℕ} (h : n ≤ 0xFFFF) : words (packedNat 2 n) = [n] := by
  have hwords : words (packedNat 2 n) =
      [(UInt8.ofNat (n / 256 ^ 1)).toNat * 256 + (UInt8.ofNat (n / 256 ^ 0)).toNat] := rfl
  rw [hwords, UInt8.toNat_ofNat', UInt8.toNat_ofNat', Nat.pow_one, Nat.pow_zero, Nat.div_one,
    List.singleton_inj]
  omega

theorem length_packedNat_two_mod (n : ℕ) : (packedNat 2 n).length % 2 = 0 := by
  rw [length_packedNat]

theorem evenPadded_append {a : Octets} (h : a.length % 2 = 0) (b : Octets) :
    evenPadded (a ++ b) = a ++ evenPadded b := by
  rw [evenPadded, evenPadded, List.length_append]
  by_cases hb : b.length % 2 ≠ 0
  · rw [if_pos (by omega), if_pos hb, List.append_assoc]
  · rw [if_neg (by omega), if_neg hb]

/-! ### The sum -/

/-- **The two folds leave no carry.** -/
theorem folds_leave_no_carry {data : Octets} (h : data.length ≤ MAX_IP_LENGTH) :
    foldCarry 0xFFFF (foldCarry 0xFFFF (words (evenPadded data)).sum) ≤ 0xFFFF :=
  foldCarry_foldCarry_le (sum_words_lt h)

theorem checksum_eq_residue {data : Octets} (h : data.length ≤ MAX_IP_LENGTH) :
    checksum data = 0xFFFF - residue 0xFFFF (words (evenPadded data)).sum := by
  have hdefined : checksum data = 0xFFFF - (foldCarry 0xFFFF (words (evenPadded data)).sum +
      foldCarry 0xFFFF (words (evenPadded data)).sum / (0xFFFF + 1)) % (0xFFFF + 1) := rfl
  have hfolds := folds_leave_no_carry h
  rw [hdefined, add_div_mod hfolds, ← residue_of_le hfolds, residue_foldCarry, residue_foldCarry]

/-- **The checksum is the complement of the one's-complement sum.** -/
theorem checksum_eq {data : Octets} (h : data.length ≤ MAX_IP_LENGTH) :
    checksum data = 0xFFFF - onesSum 0xFFFF (words (evenPadded data)) := by
  rw [checksum_eq_residue h, onesSum_eq (by decide) fun word hword => le_of_mem_words hword]

/-- **A checksum in its field is checked**: the octets around an even offset, with their
checksum between them, have the checksum zero. -/
theorem checksum_inserted {before after : Octets} (heven : before.length % 2 = 0)
    (hlength : (before ++ ([0, 0] ++ after)).length ≤ MAX_IP_LENGTH) :
    checksum (before ++ (packedNat 2 (checksum (before ++ ([0, 0] ++ after))) ++ after)) = 0 := by
  have hsum : ∀ n, n ≤ 0xFFFF → (words (evenPadded (before ++ (packedNat 2 n ++ after)))).sum =
      (words before).sum + (n + (words (evenPadded after)).sum) := by
    intro n hn
    rw [evenPadded_append heven, evenPadded_append (length_packedNat_two_mod n), words_append heven,
      words_append (length_packedNat_two_mod n), words_packedNat hn, List.sum_append,
      List.sum_append, List.sum_singleton]
  have hblank : (words (evenPadded (before ++ ([0, 0] ++ after)))).sum = _ := hsum 0 (Nat.zero_le _)
  have hvalue := checksum_eq_residue hlength
  have hresidue := residue_le (m := 0xFFFF) (by decide)
    (words (evenPadded (before ++ ([0, 0] ++ after)))).sum
  -- the sum of the rest is its residue up to a multiple, and the checksum completes it
  obtain ⟨k, hk⟩ := exists_eq_mul_add_residue (m := 0xFFFF)
    (words (evenPadded (before ++ ([0, 0] ++ after)))).sum
  rw [checksum_eq_residue, hsum _ (by omega), residue_of_dvd]
  · omega
  · exact ⟨k + 1, by omega⟩
  · rw [List.length_append, List.length_append] at hlength ⊢
    exact hlength

/-! ### Echo requests -/

/-- **An IPv4 echo request sums to its checksum.** -/
theorem checksum_requestDatagram {identifier sequence : ℕ} {payload : Octets}
    (h : payload.length ≤ MAX_PAYLOAD_SIZE_IPV4) :
    checksum (requestDatagram .IPV4 identifier sequence payload) = 0 := by
  have hfield : ∀ k, packHeader (echoRequest .IPV4) 0 k identifier sequence ++ payload =
      [echoRequest .IPV4, 0] ++
        (packedNat 2 k ++ (packedNat 2 identifier ++ packedNat 2 sequence ++ payload)) := by
    intro k
    simp only [packHeader, List.append_assoc]
  have hzero : packedNat 2 0 = [0, 0] := rfl
  have hmax : MAX_PAYLOAD_SIZE_IPV4 = 65507 := rfl
  have hip : MAX_IP_LENGTH = 65535 := rfl
  rw [requestDatagram]
  rw [hfield, hfield, hzero]
  apply checksum_inserted rfl
  simp only [List.length_append, length_packedNat, List.length_cons, List.length_nil]
  omega

theorem checksum_of_buildEchoRequest {fresh : Token} {sequence payloadSize identifier : ℤ}
    {token : Option Octets} {request : EchoRequest}
    (h : buildEchoRequest fresh sequence payloadSize .IPV4 identifier token = .ok request) :
    checksum request.datagram = 0 := by
  obtain ⟨_, _, hsize, hdatagram⟩ := buildEchoRequest_eq_ok h
  have hlength := length_requestPayload request.token hsize
  have hmax : (maxPayloadSize .IPV4 : ℤ) = MAX_PAYLOAD_SIZE_IPV4 := rfl
  have hmin : MIN_PAYLOAD_SIZE ≤ MAX_PAYLOAD_SIZE_IPV4 := by decide
  rw [hdatagram]
  apply checksum_requestDatagram
  omega

end IPScout
