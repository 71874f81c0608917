import IPScout.Base.Octets

/-!
# Aligned records

A buffer of records: each is a header of one size, a value, and padding up to the next
multiple of four octets, which the last record may lack.  The header says how long the
record is without its padding; how it says so is the format's own.

A walk over such a buffer finds its records, all of them and in order
(`recordsFrom_of_isBuffer`).  On any octets it ends, whatever the headers say
(`recordsFrom_eq`).
-/

namespace IPScout.Base

open Octets

/-- A length rounded up to a multiple of four. -/
def aligned (length : ℕ) : ℕ := (length + 3) / 4 * 4

theorem le_aligned (length : ℕ) : length ≤ aligned length := by
  rw [aligned]
  omega

/-- The only multiple of four so close above a length. -/
theorem aligned_eq {length padding : ℕ} (hlt : padding < 4) (hdvd : 4 ∣ length + padding) :
    aligned length = length + padding := by
  rw [aligned]
  omega

/-- A format: how long a header is, and the length of a record by its header. -/
structure RecordFormat where
  size : ℕ
  lengthOf : Octets → ℕ
  size_pos : 0 < size

variable {f : RecordFormat}

/-- The headers and values found from a position on. -/
def recordsFrom (f : RecordFormat) (data : Octets) : ℕ → ℕ → List (Octets × Octets)
  | 0, _ => []
  | fuel + 1, position =>
    if position + f.size ≤ data.length then
      let header := slice data position (position + f.size)
      let length := f.lengthOf header
      if length < f.size ∨ position + length > data.length then []
      else
        (header, slice data (position + f.size) (position + length)) ::
          recordsFrom f data fuel (position + aligned length)
    else []

theorem recordsFrom_of_length_le {data : Octets} {position : ℕ} (h : data.length ≤ position)
    (fuel : ℕ) : recordsFrom f data fuel position = [] := by
  cases fuel with
  | zero => rfl
  | succ fuel =>
    have hpos := f.size_pos
    rw [recordsFrom, if_neg (by omega)]

/-- **The walk never ends for want of fuel**: the octets left are fuel enough. -/
theorem recordsFrom_eq (data : Octets) {m n position : ℕ} (hm : data.length ≤ position + m)
    (hn : data.length ≤ position + n) :
    recordsFrom f data m position = recordsFrom f data n position := by
  have hpos := f.size_pos
  induction m generalizing n position with
  | zero =>
    have hend : data.length ≤ position := hm
    rw [recordsFrom_of_length_le hend, recordsFrom_of_length_le hend]
  | succ m ih =>
    cases n with
    | zero =>
      have hend : data.length ≤ position := hn
      rw [recordsFrom_of_length_le hend, recordsFrom_of_length_le hend]
    | succ n =>
      rw [recordsFrom, recordsFrom]
      split
      · dsimp only
        split
        · rfl
        · next hrecord =>
          have hle := le_aligned (f.lengthOf (slice data position (position + f.size)))
          rw [ih (n := n) (by omega) (by omega)]
      · rfl

theorem recordsFrom_append (before data : Octets) (fuel position : ℕ) :
    recordsFrom f (before ++ data) fuel (before.length + position) =
      recordsFrom f data fuel position := by
  induction fuel generalizing position with
  | zero => rfl
  | succ fuel ih =>
    rw [recordsFrom, recordsFrom]
    simp only [Nat.add_assoc, slice_append_add, ih, List.length_append, Nat.add_le_add_iff_left,
      gt_iff_lt, Nat.add_lt_add_iff_left]

/-- **A walk over a part of a buffer finds a part of its records**, the first ones. -/
theorem recordsFrom_take_isPrefix (data : Octets) (n fuel position : ℕ) :
    recordsFrom f (data.take n) fuel position <+: recordsFrom f data fuel position := by
  induction fuel generalizing position with
  | zero => exact List.prefix_rfl
  | succ fuel ih =>
    have hlength : (data.take n).length ≤ n ∧ (data.take n).length ≤ data.length := by
      rw [List.length_take]
      omega
    rw [recordsFrom, recordsFrom]
    by_cases hroom : position + f.size ≤ (data.take n).length
    · rw [if_pos hroom, if_pos (show position + f.size ≤ data.length by omega),
        slice_take (by omega)]
      dsimp only
      split
      · exact List.nil_prefix
      · next hrecord =>
        rw [if_neg (by omega), slice_take (by omega)]
        exact (List.prefix_cons_inj _).mpr (ih _)
    · rw [if_neg hroom]
      exact List.nil_prefix

/-- A record found in a buffer: a header, and behind it a value as long as the header says,
both inside the buffer. -/
def LiesIn (f : RecordFormat) (data : Octets) (record : Octets × Octets) : Prop :=
  f.lengthOf record.1 = f.size + record.2.length ∧
    ∃ start, start + f.size + record.2.length ≤ data.length ∧
      record.1 = slice data start (start + f.size) ∧
      record.2 = slice data (start + f.size) (start + f.size + record.2.length)

/-- **A walk never looks outside the buffer**, whatever the headers say. -/
theorem liesIn_of_mem_recordsFrom {data : Octets} {fuel position : ℕ} {record : Octets × Octets}
    (h : record ∈ recordsFrom f data fuel position) : LiesIn f data record := by
  induction fuel generalizing position with
  | zero => simp [recordsFrom] at h
  | succ fuel ih =>
    rw [recordsFrom] at h
    split at h
    · dsimp only at h
      split at h
      · simp at h
      · next hrecord =>
        rcases List.mem_cons.mp h with rfl | hrest
        · have hvalue := length_slice data (position + f.size)
            (position + f.lengthOf (slice data position (position + f.size)))
          refine ⟨by dsimp only; omega, position, by dsimp only; omega, rfl, ?_⟩
          dsimp only
          congr 1
          omega
        · exact ih hrest
    · simp at h

theorem length_recordsFrom_le (data : Octets) (fuel position : ℕ) :
    (recordsFrom f data fuel position).length * f.size ≤ data.length - position := by
  induction fuel generalizing position with
  | zero => simp [recordsFrom]
  | succ fuel ih =>
    rw [recordsFrom]
    split
    · dsimp only
      split
      · simp
      · next hrecord =>
        have hnext := ih (position + aligned (f.lengthOf (slice data position (position + f.size))))
        have hle := le_aligned (f.lengthOf (slice data position (position + f.size)))
        rw [List.length_cons, Nat.succ_mul]
        omega
    · simp

/-! ### Buffers -/

/-- A record of a format: its header, its value and the padding behind it. -/
structure Record (f : RecordFormat) where
  header : Octets
  value : Octets
  padding : Octets
  header_length : header.length = f.size
  length_eq : f.lengthOf header = f.size + value.length
  padding_lt : padding.length < 4
  padded : 4 ∣ f.size + value.length + padding.length

namespace Record

def ofValue (header value : Octets) (hheader : header.length = f.size)
    (hlength : f.lengthOf header = f.size + value.length) : Record f where
  header := header
  value := value
  padding := List.replicate (aligned (f.size + value.length) - (f.size + value.length)) 0
  header_length := hheader
  length_eq := hlength
  padding_lt := by
    rw [List.length_replicate, aligned]
    omega
  padded := by
    rw [List.length_replicate, aligned]
    omega

/-- The octets of a record, its padding included. -/
def octets (r : Record f) : Octets := r.header ++ (r.value ++ r.padding)

def found (r : Record f) : Octets × Octets := (r.header, r.value)

theorem length_octets (r : Record f) :
    r.octets.length = f.size + (r.value.length + r.padding.length) := by
  rw [octets, List.length_append, List.length_append, r.header_length]

end Record

/-- The octets of a list of records, the last one with its padding or only a part of it. -/
inductive IsBuffer : List (Record f) → Octets → Prop
  | nil : IsBuffer [] []
  | last (r : Record f) (n : ℕ) : IsBuffer [r] (r.header ++ (r.value ++ r.padding.take n))
  | cons (r : Record f) {rs : List (Record f)} {data : Octets} : IsBuffer rs data →
      IsBuffer (r :: rs) (r.octets ++ data)

theorem IsBuffer.single (r : Record f) : IsBuffer [r] r.octets := by
  have h := IsBuffer.last r r.padding.length
  rwa [List.take_length] at h

theorem isBuffer_flatMap (rs : List (Record f)) : IsBuffer rs (rs.flatMap Record.octets) := by
  induction rs with
  | nil => exact IsBuffer.nil
  | cons r rs ih =>
    rw [List.flatMap_cons]
    exact IsBuffer.cons r ih

/-- **A record at the front is found**, and the walk goes on behind its padding. -/
theorem recordsFrom_record (r : Record f) (rest : Octets) (fuel : ℕ) :
    recordsFrom f (r.header ++ (r.value ++ rest)) (fuel + 1) 0 =
      r.found :: recordsFrom f (r.header ++ (r.value ++ rest)) fuel r.octets.length := by
  have hlength : (r.header ++ (r.value ++ rest)).length =
      f.size + (r.value.length + rest.length) := by
    rw [List.length_append, List.length_append, r.header_length]
  have hheader : slice (r.header ++ (r.value ++ rest)) 0 f.size = r.header :=
    slice_append_zero r.header_length _
  have hvalue : slice (r.header ++ (r.value ++ rest)) f.size (f.size + r.value.length) = r.value :=
    slice_append_append r.header_length rfl
  have hnext : aligned (f.size + r.value.length) = r.octets.length := by
    rw [aligned_eq r.padding_lt r.padded, r.length_octets, Nat.add_assoc]
  rw [recordsFrom, if_pos (by omega)]
  simp only [Nat.zero_add, hheader, r.length_eq]
  rw [if_neg (by omega), hvalue, hnext, Record.found]

/-- **The records of a buffer are found**, all of them and in order, wherever it begins. -/
theorem recordsFrom_of_isBuffer {rs : List (Record f)} {data : Octets} (h : IsBuffer rs data)
    (before : Octets) {fuel : ℕ} (hfuel : data.length ≤ fuel) :
    recordsFrom f (before ++ data) fuel before.length = rs.map Record.found := by
  rw [← Nat.add_zero before.length, recordsFrom_append]
  have hpos := f.size_pos
  induction h generalizing fuel with
  | nil => exact recordsFrom_of_length_le le_rfl fuel
  | last r n =>
    obtain ⟨fuel, rfl⟩ : ∃ k, fuel = k + 1 := by
      apply Nat.exists_eq_succ_of_ne_zero
      rw [List.length_append, r.header_length] at hfuel
      omega
    -- with its padding or without, the buffer ends before the next record would begin
    have hend : (r.header ++ (r.value ++ r.padding.take n)).length ≤ r.octets.length := by
      simp only [Record.octets, List.length_append, List.length_take]
      omega
    rw [recordsFrom_record, recordsFrom_of_length_le hend]
    rfl
  | @cons r rs data _ ih =>
    obtain ⟨fuel, rfl⟩ : ∃ k, fuel = k + 1 := by
      apply Nat.exists_eq_succ_of_ne_zero
      rw [List.length_append, r.length_octets] at hfuel
      omega
    have hrest : data.length ≤ fuel := by
      rw [List.length_append, r.length_octets] at hfuel
      omega
    have hassoc : r.octets ++ data = r.header ++ (r.value ++ (r.padding ++ data)) := by
      simp only [Record.octets, List.append_assoc]
    rw [hassoc, recordsFrom_record, ← hassoc, ← Nat.add_zero r.octets.length, recordsFrom_append,
      ih hrest, List.map_cons]

end IPScout.Base
