import IPScout.Hosts.Greeting

/-!
# One line, however it arrives

`_read_line` asks a stream for as many octets as the cap has room for, and takes what it is
given.  Where the stream is cut does not matter: what is left is the front of the stream that
the cap has room for, up to its first newline (`readLine_of_chunks`).
-/

namespace IPScout

open Base Base.Octets

/-- What a stream gives of which `received` octets are read: as long as octets are asked for,
some of them, and no more than that. -/
def AsAskedFor (cap : ℕ) : (received : ℕ) → List Octets → Prop
  | _, [] => True
  | received, b :: rest => received < cap →
      b ≠ [] ∧ b.length ≤ cap - received ∧
        ((0x0a : UInt8) ∉ b → AsAskedFor cap (received + b.length) rest)

/-- The octets of a stream that the cap has room for, up to the first newline in them. -/
def firstLine (cap : ℕ) (stream : Octets) : Octets := (stream.take cap).takeWhile (· ≠ 0x0a)

/-! ### Lines of a stream -/

theorem length_firstLine_le (cap : ℕ) (stream : Octets) : (firstLine cap stream).length ≤ cap :=
  (List.takeWhile_prefix _).length_le.trans (List.length_take_le cap stream)

theorem firstLine_of_notMem {cap : ℕ} {received : Octets} (h : (0x0a : UInt8) ∉ received)
    (hcap : received.length ≤ cap) : firstLine cap received = received := by
  rw [firstLine, List.take_of_length_le hcap, List.takeWhile_eq_self_iff]
  intro x hx
  rw [decide_eq_true_eq]
  rintro rfl
  exact h hx

theorem firstLine_of_full {cap : ℕ} {received : Octets} (h : (0x0a : UInt8) ∉ received)
    (hfull : received.length = cap) (rest : Octets) :
    firstLine cap (received ++ rest) = received := by
  have hline := firstLine_of_notMem h hfull.le
  rw [firstLine, List.take_of_length_le hfull.le] at hline
  rw [firstLine, List.take_left' hfull, hline]

theorem firstLine_of_newline {cap : ℕ} {received b : Octets} (h : (0x0a : UInt8) ∉ received)
    (hb : (0x0a : UInt8) ∈ b) (hroom : received.length + b.length ≤ cap) (rest : Octets) :
    firstLine cap (received ++ (b ++ rest)) = received ++ b.takeWhile (· ≠ 0x0a) := by
  have hkept : ∀ x ∈ received, decide (x ≠ 0x0a) = true := by
    intro x hx
    rw [decide_eq_true_eq]
    rintro rfl
    exact h hx
  have hstop : (b.takeWhile (· ≠ 0x0a)).length ≠ b.length := by
    intro hall
    have hself := (List.takeWhile_prefix (fun x : UInt8 => decide (x ≠ 0x0a))).eq_of_length hall
    have hnot := List.mem_takeWhile_imp (hself ▸ hb)
    simp at hnot
  rw [firstLine, ← List.append_assoc, List.take_append,
    List.take_of_length_le (by rwa [List.length_append]), List.append_assoc,
    List.takeWhile_append_of_pos hkept, List.takeWhile_append, if_neg hstop]

theorem readLine_of_ended {ending : List ReadEvent} (h : arrived ending = []) (cap : ℕ)
    (received : Octets) : readLine cap received ending = received := by
  cases ending with
  | nil => rfl
  | cons event rest =>
    unfold readLine
    cases event with
    | failed e => exact ite_self _
    | chunk b =>
      have hb : b = [] := by
        by_contra hne
        rw [arrived, if_neg hne] at h
        exact hne (List.append_eq_nil_iff.mp h).1
      dsimp only
      rw [if_pos hb, ite_self]

/-! ### Reading -/

/-- **A stream is read as one line, however it is cut**: by induction on the chunks, with what
is received so far free of newlines and within the cap. -/
theorem readLine_append_chunks {cap : ℕ} {received : Octets} {chunks : List Octets}
    {ending : List ReadEvent} (hchunks : AsAskedFor cap received.length chunks)
    (hended : arrived ending = []) (hplain : (0x0a : UInt8) ∉ received)
    (hcap : received.length ≤ cap) :
    readLine cap received (chunks.map ReadEvent.chunk ++ ending) =
      firstLine cap (received ++ chunks.flatten) := by
  induction chunks generalizing received with
  | nil =>
    rw [List.map_nil, List.nil_append, List.flatten_nil, List.append_nil,
      readLine_of_ended hended, firstLine_of_notMem hplain hcap]
  | cons b chunks ih =>
    rw [List.map_cons, List.cons_append, readLine, List.flatten_cons]
    by_cases hfull : cap ≤ received.length
    · rw [if_pos hfull, firstLine_of_full hplain (Nat.le_antisymm hcap hfull)]
    · obtain ⟨hne, hlength, hrest⟩ := hchunks (Nat.lt_of_not_le hfull)
      rw [if_neg hfull, if_neg hne]
      by_cases hnewline : (0x0a : UInt8) ∈ b
      · rw [if_pos hnewline, firstLine_of_newline hplain hnewline (by omega)]
      · have hplain' : (0x0a : UInt8) ∉ received ++ b := by
          rw [List.mem_append, not_or]
          exact ⟨hplain, hnewline⟩
        rw [if_neg hnewline, ← List.append_assoc]
        apply ih _ hplain'
        · rw [List.length_append]
          omega
        · rw [List.length_append]
          exact hrest hnewline

theorem AsAskedFor.take {cap received : ℕ} {chunks : List Octets}
    (h : AsAskedFor cap received chunks) (n : ℕ) : AsAskedFor cap received (chunks.take n) := by
  induction chunks generalizing received n with
  | nil =>
    rw [List.take_nil]
    exact h
  | cons b chunks ih =>
    cases n with
    | zero => exact trivial
    | succ n =>
      intro hroom
      obtain ⟨hne, hlength, hrest⟩ := h hroom
      exact ⟨hne, hlength, fun hnewline => ih (hrest hnewline) n⟩

theorem arrived_take {events : List ReadEvent} (h : arrived events = []) (n : ℕ) :
    arrived (events.take n) = [] := by
  cases n with
  | zero => rfl
  | succ n =>
    cases events with
    | nil => rfl
    | cons event rest =>
      cases event with
      | failed e => rfl
      | chunk b =>
        by_cases hb : b = []
        · rw [List.take_succ_cons, arrived, if_pos hb]
        · rw [arrived, if_neg hb] at h
          exact absurd (List.append_eq_nil_iff.mp h).1 hb

theorem length_readLine_take_le {cap : ℕ} {chunks : List Octets} {ending : List ReadEvent}
    (hchunks : AsAskedFor cap 0 chunks) (hended : arrived ending = []) (n : ℕ) :
    (readLine cap [] ((chunks.map ReadEvent.chunk ++ ending).take n)).length ≤ cap := by
  have htake : (chunks.map ReadEvent.chunk ++ ending).take n =
      (chunks.take n).map ReadEvent.chunk ++ ending.take (n - chunks.length) := by
    rw [List.take_append, List.map_take, List.length_map]
  have hread := @readLine_append_chunks cap [] (chunks.take n) (ending.take (n - chunks.length))
    (hchunks.take n) (arrived_take hended _) List.not_mem_nil (Nat.zero_le cap)
  rw [htake, hread]
  exact length_firstLine_le cap _

/-- **A line does not depend on how the stream was cut**: it is the front of the stream that the
cap has room for, up to the first newline in it, and no more than that is ever kept. -/
theorem readLine_of_chunks (cap : ℕ) (stream : Octets) (chunks : List Octets)
    (ending : List ReadEvent) (hstream : chunks.flatten = stream)
    (hchunks : AsAskedFor cap 0 chunks) (hended : arrived ending = []) :
    readLine cap [] (chunks.map ReadEvent.chunk ++ ending) =
        (stream.take cap).takeWhile (· ≠ 0x0a) ∧
      ∀ n, (readLine cap [] ((chunks.map ReadEvent.chunk ++ ending).take n)).length ≤ cap := by
  have hread := @readLine_append_chunks cap [] chunks ending hchunks hended (List.not_mem_nil)
    (Nat.zero_le cap)
  rw [List.nil_append, hstream] at hread
  exact ⟨hread, length_readLine_take_le hchunks hended⟩

/-- A newline on the boundary of two chunks, and a cap at the end of the second. -/
theorem readLine_of_two_chunks :
    readLine 6 [] ([[0x32, 0x32, 0x30], [0x0a, 0x68, 0x69]].map ReadEvent.chunk ++ []) =
      [0x32, 0x32, 0x30] :=
  (readLine_of_chunks 6 [0x32, 0x32, 0x30, 0x0a, 0x68, 0x69]
    [[0x32, 0x32, 0x30], [0x0a, 0x68, 0x69]] [] rfl (by simp [AsAskedFor]) rfl).1

end IPScout
