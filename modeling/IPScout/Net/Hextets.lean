import IPScout.Net.Address

/-!
# Writing an IPv6 address

`str` of an `IPv6Address`: eight hextets in base sixteen, joined by colons, with the
first longest run of two or more zeros left out.

Whatever the run, the parts of the text are those before it, an empty part, and those
after it, and an empty part more where one side has none.  That is how the parser lays
the parts out again, so an address reads back from its text (`ipv6Bits_ipv6Text`).
-/

namespace IPScout

open Base Base.Text

/-! ### The text -/

/-- The digits of a number to a base, `count` of them, highest first. -/
def digitsTo (base count n : ℕ) : List ℕ :=
  (List.range count).map fun i => n / base ^ (count - 1 - i) % base

def hextets (ip : BitVec 128) : List ℕ := digitsTo 65536 8 ip.toNat

def compressHextets (words : List ℕ) : List Text :=
  let (start, len) := longestZeroRun words
  if len ≤ 1 then words.map hexadecimal
  else
    (if start = 0 then [[]] else []) ++ (words.take start).map hexadecimal ++ [[]] ++
      (words.drop (start + len)).map hexadecimal ++
      (if start + len = words.length then [[]] else [])

/-- `_string_from_ip_int` of an IPv6 address. -/
def ipv6Text (ip : BitVec 128) : Text := [':'].intercalate (compressHextets (hextets ip))

/-- `str` of an address. -/
def IPAddress.text : IPAddress → Text
  | v4 ip => inetNtoa (packedNat 4 ip.toNat)
  | v6 a =>
    match a.scopeId with
    | some (c :: zone) => ipv6Text a.ip ++ '%' :: c :: zone
    | _ => ipv6Text a.ip

/-! ### Digits -/

theorem length_digitsTo (base count n : ℕ) : (digitsTo base count n).length = count := by
  rw [digitsTo, List.length_map, List.length_range]

theorem lt_of_mem_digitsTo {base count n d : ℕ} (hbase : 0 < base) (h : d ∈ digitsTo base count n) :
    d < base := by
  obtain ⟨i, _, rfl⟩ := List.mem_map.mp h
  exact Nat.mod_lt _ hbase

theorem digitsTo_succ (base count n : ℕ) :
    digitsTo base (count + 1) n = digitsTo base count (n / base) ++ [n % base] := by
  rw [digitsTo, List.range_succ, List.map_append, List.map_singleton]
  congr 1
  · apply List.map_congr_left
    intro i hi
    have hlt := List.mem_range.mp hi
    rw [show count + 1 - 1 - i = count - 1 - i + 1 by omega, Nat.pow_succ',
      ← Nat.div_div_eq_div_mul]
  · rw [show count + 1 - 1 - count = 0 by omega, Nat.pow_zero, Nat.div_one]

/-- **The digits of a number make it up again.** -/
theorem foldl_digitsTo (base count n : ℕ) :
    (digitsTo base count n).foldl (fun m d => m * base + d) 0 = n % base ^ count := by
  induction count generalizing n with
  | zero =>
    rw [Nat.pow_zero, Nat.mod_one]
    rfl
  | succ count ih =>
    rw [digitsTo_succ, List.foldl_append, ih, Nat.pow_succ', Nat.mod_mul]
    show n / base % base ^ count * base + n % base = _
    rw [Nat.mul_comm, Nat.add_comm]

/-! ### The run that is left out -/

def IsZeroRun (words : List ℕ) (run : ℕ × ℕ) : Prop :=
  run.1 + run.2 ≤ words.length ∧ (words.drop run.1).take run.2 = List.replicate run.2 0

theorem isZeroRun_longestZeroRun (words : List ℕ) : IsZeroRun words (longestZeroRun words) := by
  have hrun : ∀ i < words.length, IsZeroRun words
      (i, ((words.drop i).takeWhile (· == 0)).length) := by
    intro i hi
    have hprefix := List.takeWhile_prefix (· == 0) (l := words.drop i)
    have hle := hprefix.length_le
    rw [List.length_drop] at hle
    refine ⟨?_, ?_⟩
    · dsimp only
      omega
    · rw [← List.prefix_iff_eq_take.mp hprefix, List.eq_replicate_iff]
      refine ⟨rfl, ?_⟩
      intro d hd
      simpa using List.mem_takeWhile_imp hd
  have hfold : ∀ (is : List ℕ) (best : ℕ × ℕ), (∀ i ∈ is, i < words.length) →
      IsZeroRun words best → IsZeroRun words (is.foldl (fun best i =>
        let run := ((words.drop i).takeWhile (· == 0)).length
        if best.2 < run then (i, run) else best) best) := by
    intro is
    induction is with
    | nil => exact fun _ _ h => h
    | cons i is ih =>
      intro best his hbest
      apply ih
      · exact fun j hj => his j (List.mem_cons_of_mem i hj)
      · dsimp only
        split
        · exact hrun i (his i List.mem_cons_self)
        · exact hbest
  apply hfold
  · exact fun i hi => List.mem_range.mp hi
  · exact ⟨Nat.zero_le _, rfl⟩

theorem IsZeroRun.eq_append {words : List ℕ} {start len : ℕ} (h : IsZeroRun words (start, len)) :
    words = words.take start ++ List.replicate len 0 ++ words.drop (start + len) := by
  have hdrop : words.drop (start + len) = (words.drop start).drop len := by
    rw [List.drop_drop]
  rw [List.append_assoc, ← h.2, hdrop, List.take_append_drop, List.take_append_drop]

/-! ### The parts -/

/-- An empty part at an end of the text stands for a run that reaches it. -/
def padded (side : List Text) : List Text := if side = [] then [[]] else side

theorem length_padded (side : List Text) : 1 ≤ (padded side).length := by
  rw [padded]
  split
  · rfl
  · next h => exact List.length_pos_iff.mpr h

theorem length_padded_le (side : List Text) : (padded side).length ≤ side.length + 1 := by
  rw [padded]
  split
  · next h => rw [h]; rfl
  · omega

theorem filter_range'_eq_singleton {p : ℕ → Bool} {n k : ℕ} (hk : 1 ≤ k ∧ k ≤ n)
    (hp : ∀ i, 1 ≤ i → i ≤ n → (p i = true ↔ i = k)) : (List.range' 1 n).filter p = [k] := by
  have hsplit : List.range' 1 n = List.range' 1 (k - 1) ++ k :: List.range' (k + 1) (n - k) := by
    have hrest : k :: List.range' (k + 1) (n - k) = List.range' k (n - k + 1) := rfl
    have happend := List.range'_append_1 (s := 1) (m := k - 1) (n := n - k + 1)
    rw [show 1 + (k - 1) = k by omega, show k - 1 + (n - k + 1) = n by omega] at happend
    rw [hrest, happend]
  have hnot : ∀ i, 1 ≤ i → i ≤ n → i ≠ k → p i = false := by
    intro i hlow hhigh hne
    rw [← Bool.not_eq_true, hp i hlow hhigh]
    exact hne
  have hleft : (List.range' 1 (k - 1)).filter p = [] := by
    rw [List.filter_eq_nil_iff]
    intro i hi
    rw [List.mem_range'_1] at hi
    rw [hnot i (by omega) (by omega) (by omega)]
    simp
  have hright : (List.range' (k + 1) (n - k)).filter p = [] := by
    rw [List.filter_eq_nil_iff]
    intro i hi
    rw [List.mem_range'_1] at hi
    rw [hnot i (by omega) (by omega) (by omega)]
    simp
  rw [hsplit, List.filter_append, hleft, List.filter_cons_of_pos ((hp k hk.1 hk.2).mpr rfl), hright,
    List.nil_append]

theorem getD_padded_ne_nil {side : List Text} (h : ∀ part ∈ side, part ≠ []) {i : ℕ}
    (hlt : i < (padded side).length) (hinside : 1 < (padded side).length) :
    (padded side).getD i [] ≠ [] := by
  have hside : side ≠ [] := by
    rintro rfl
    simp [padded] at hinside
  rw [padded, if_neg hside] at hlt ⊢
  rw [List.getD_eq_getElem _ _ hlt]
  exact h _ (List.getElem_mem hlt)

theorem skips_padded {left right : List Text} (hleft : ∀ part ∈ left, part ≠ [])
    (hright : ∀ part ∈ right, part ≠ []) :
    (List.range' 1 ((padded left ++ [] :: padded right).length - 2)).filter
      (fun i => (padded left ++ [] :: padded right).getD i [] = []) = [(padded left).length] := by
  have hl := length_padded left
  have hr := length_padded right
  apply filter_range'_eq_singleton
  · rw [List.length_append, List.length_cons]
    omega
  · intro i hlow hhigh
    rw [List.length_append, List.length_cons] at hhigh
    rw [decide_eq_true_iff]
    by_cases hi : i < (padded left).length
    · rw [List.getD_append _ _ _ _ hi]
      have hne := getD_padded_ne_nil hleft hi (by omega)
      exact ⟨fun h => absurd h hne, fun h => absurd h (by omega)⟩
    · rw [List.getD_append_right _ _ _ _ (by omega)]
      by_cases heq : i = (padded left).length
      · rw [heq, Nat.sub_self]
        exact ⟨fun _ => rfl, fun _ => rfl⟩
      · obtain ⟨j, hj⟩ : ∃ j, i - (padded left).length = j + 1 :=
          ⟨i - (padded left).length - 1, by omega⟩
        rw [hj, List.getD_cons_succ]
        have hne := getD_padded_ne_nil hright (i := j) (by omega) (by omega)
        exact ⟨fun h => absurd h hne, fun h => absurd h heq⟩

theorem head?_padded {side : List Text} (h : ∀ part ∈ side, part ≠ []) (rest : List Text) :
    (padded side ++ rest).head? = some [] ↔ side = [] := by
  rcases side with _ | ⟨part, side⟩
  · simp [padded]
  · simpa [padded] using h part List.mem_cons_self

theorem getLast?_padded {side : List Text} (h : ∀ part ∈ side, part ≠ []) (rest : List Text) :
    (rest ++ [] :: padded side).getLast? = some [] ↔ side = [] := by
  rcases List.eq_nil_or_concat side with rfl | ⟨side', part, rfl⟩
  · simp [padded]
  · have hpart := h part (by simp)
    simp [padded, hpart, List.getLast?_cons, List.getLast?_append]

/-- **The parser lays out again what was left out.** -/
theorem hextetLayout_padded (left right : List Text) (hleft : ∀ part ∈ left, part ≠ [])
    (hright : ∀ part ∈ right, part ≠ []) (h : left.length + right.length ≤ 7) :
    hextetLayout (padded left ++ [] :: padded right) =
      some (left.length, right.length, 8 - (left.length + right.length)) := by
  have hhead := head?_padded hleft ([] :: padded right)
  have hlast := getLast?_padded hright (padded left)
  have hlength : (padded left ++ [] :: padded right).length =
      (padded left).length + (padded right).length + 1 := by
    rw [List.length_append, List.length_cons]
    omega
  rw [hextetLayout, skips_padded hleft hright]
  dsimp only
  simp only [hhead, hlast, hlength]
  have hl : (if left = [] then (padded left).length - 1 else (padded left).length) =
      left.length := by
    rw [padded]
    split
    · next hnil => simp [hnil]
    · rfl
  have hr : (if right = [] then
      (padded left).length + (padded right).length + 1 - (padded left).length - 2
      else (padded left).length + (padded right).length + 1 - (padded left).length - 1) =
      right.length := by
    by_cases hnil : right = []
    · have hone : (padded right).length = 1 := by rw [padded, if_pos hnil]; rfl
      rw [if_pos hnil, hnil, List.length_nil]
      rw [hnil] at hone
      omega
    · have hsame : (padded right).length = right.length := by rw [padded, if_neg hnil]
      rw [if_neg hnil, hsame]
      omega
  rw [hl, hr, if_neg, if_neg (by omega)]
  rintro (⟨rfl, hne⟩ | ⟨rfl, hne⟩)
  · exact hne rfl
  · exact hne rfl

/-! ### Reading it back -/

theorem parseHextet_hexadecimal {d : ℕ} (h : d < 65536) : parseHextet (hexadecimal d) = some d := by
  have hlength := length_hexadecimal_le h
  rw [parseHextet, (hexValue_hexadecimal d).1, if_neg (by simp), if_neg (by omega),
    if_neg (hexadecimal_ne_nil d), (hexValue_hexadecimal d).2]

theorem mapM_parseHextet {words : List ℕ} (h : ∀ d ∈ words, d < 65536) :
    (words.map hexadecimal).mapM parseHextet = some words := by
  induction words with
  | nil => rfl
  | cons d words ih =>
    rw [List.map_cons, List.mapM_cons, parseHextet_hexadecimal (h d List.mem_cons_self),
      ih fun e he => h e (List.mem_cons_of_mem d he)]
    rfl

theorem ne_nil_of_mem_map_hexadecimal {words : List ℕ} :
    ∀ part ∈ words.map hexadecimal, part ≠ [] := by
  intro part hpart
  obtain ⟨d, _, rfl⟩ := List.mem_map.mp hpart
  exact hexadecimal_ne_nil d

/-- The parts of a compressed text, by the run that is left out. -/
theorem compressHextets_of_run {words : List ℕ} {start len : ℕ}
    (hrun : longestZeroRun words = (start, len)) (hlen : 2 ≤ len) :
    compressHextets words = padded ((words.take start).map hexadecimal) ++
      [] :: padded ((words.drop (start + len)).map hexadecimal) := by
  have hle : start + len ≤ words.length := by
    have hzeros := isZeroRun_longestZeroRun words
    rw [hrun] at hzeros
    exact hzeros.1
  have hleft : (if start = 0 then [[]] else []) ++ (words.take start).map hexadecimal =
      padded ((words.take start).map hexadecimal) := by
    by_cases hstart : start = 0
    · rw [if_pos hstart, hstart]
      rfl
    · have hne : (words.take start).map hexadecimal ≠ [] := by
        rw [ne_eq, List.map_eq_nil_iff, List.take_eq_nil_iff, not_or]
        refine ⟨hstart, ?_⟩
        rintro rfl
        simp at hle
        omega
      rw [if_neg hstart, padded, if_neg hne]
      rfl
  have hright : (words.drop (start + len)).map hexadecimal ++
      (if start + len = words.length then [[]] else []) =
      padded ((words.drop (start + len)).map hexadecimal) := by
    by_cases hstop : start + len = words.length
    · rw [if_pos hstop, hstop, List.drop_length]
      rfl
    · have hne : (words.drop (start + len)).map hexadecimal ≠ [] := by
        rw [ne_eq, List.map_eq_nil_iff, List.drop_eq_nil_iff]
        omega
      rw [if_neg hstop, padded, if_neg hne, List.append_nil]
  rw [compressHextets, hrun]
  dsimp only
  rw [if_neg (by omega), hleft, List.append_assoc, hright, List.append_assoc]
  rfl

theorem compressHextets_eq (words : List ℕ) :
    compressHextets words = words.map hexadecimal ∨
      ∃ left len right, 2 ≤ len ∧ words = left ++ List.replicate len 0 ++ right ∧
        compressHextets words =
          padded (left.map hexadecimal) ++ [] :: padded (right.map hexadecimal) := by
  have hzeros := isZeroRun_longestZeroRun words
  cases hrun : longestZeroRun words with
  | mk start len =>
    rw [hrun] at hzeros
    by_cases hlen : len ≤ 1
    · left
      rw [compressHextets, hrun]
      exact if_pos hlen
    · exact Or.inr ⟨words.take start, len, words.drop (start + len), by omega, hzeros.eq_append,
        compressHextets_of_run hrun (by omega)⟩

theorem mem_compressHextets {words : List ℕ} {part : Text} (h : part ∈ compressHextets words) :
    part = [] ∨ ∃ d, part = hexadecimal d := by
  have hpadded : ∀ {side : List ℕ}, part ∈ padded (side.map hexadecimal) →
      part = [] ∨ ∃ d, part = hexadecimal d := by
    intro side hpart
    rw [padded] at hpart
    split at hpart
    · exact Or.inl (List.mem_singleton.mp hpart)
    · obtain ⟨d, _, rfl⟩ := List.mem_map.mp hpart
      exact Or.inr ⟨d, rfl⟩
  rcases compressHextets_eq words with heq | ⟨left, len, right, _, _, heq⟩
  · rw [heq] at h
    obtain ⟨d, _, rfl⟩ := List.mem_map.mp h
    exact Or.inr ⟨d, rfl⟩
  · rw [heq] at h
    rcases List.mem_append.mp h with h | h
    · exact hpadded h
    · rcases List.mem_cons.mp h with rfl | h
      · exact Or.inl rfl
      · exact hpadded h

theorem notMem_of_mem_compressHextets {c : Char} (hc : hexDigit c = none) {words : List ℕ}
    {part : Text} (h : part ∈ compressHextets words) : c ∉ part := by
  rcases mem_compressHextets h with rfl | ⟨d, rfl⟩
  · simp
  · exact notMem_hexadecimal hc d

theorem length_hextets (ip : BitVec 128) : (hextets ip).length = 8 := length_digitsTo 65536 8 _

theorem three_le_length_compressHextets (ip : BitVec 128) :
    3 ≤ (compressHextets (hextets ip)).length := by
  rcases compressHextets_eq (hextets ip) with heq | ⟨left, len, right, _, _, heq⟩
  · rw [heq, List.length_map, length_hextets]
    omega
  · have hl := length_padded (left.map hexadecimal)
    have hr := length_padded (right.map hexadecimal)
    rw [heq, List.length_append, List.length_cons]
    omega

theorem splitOn_ipv6Text (ip : BitVec 128) :
    (ipv6Text ip).splitOn ':' = compressHextets (hextets ip) := by
  apply List.splitOn_intercalate
  · exact fun part hpart => notMem_of_mem_compressHextets (by decide) hpart
  · intro hnil
    have hlength := three_le_length_compressHextets ip
    rw [hnil] at hlength
    simp at hlength

theorem expandDottedTail_compressHextets (words : List ℕ) :
    expandDottedTail (compressHextets words) = some (compressHextets words) := by
  rw [expandDottedTail]
  cases hlast : (compressHextets words).getLast? with
  | none => rfl
  | some last =>
    have hno := notMem_of_mem_compressHextets (c := '.') (by decide)
      (List.mem_of_getLast? hlast)
    dsimp only
    rw [if_neg hno]

theorem hextetLayout_map_hexadecimal {words : List ℕ} (h : words.length = 8) :
    hextetLayout (words.map hexadecimal) = some (8, 0, 0) := by
  have hlength : (words.map hexadecimal).length = 8 := by rw [List.length_map, h]
  have hne : ∀ i, i < 8 → (words.map hexadecimal).getD i [] ≠ [] := by
    intro i hi
    rw [List.getD_eq_getElem _ _ (by omega)]
    exact ne_nil_of_mem_map_hexadecimal _ (List.getElem_mem _)
  have hskips : (List.range' 1 ((words.map hexadecimal).length - 2)).filter
      (fun i => (words.map hexadecimal).getD i [] = []) = [] := by
    rw [List.filter_eq_nil_iff]
    intro i hi
    rw [List.mem_range'_1, hlength] at hi
    simpa using hne i (by omega)
  have hhead : (words.map hexadecimal).head? ≠ some [] := by
    intro hhead
    exact ne_nil_of_mem_map_hexadecimal _ (List.mem_of_head? hhead) rfl
  have hlast : (words.map hexadecimal).getLast? ≠ some [] := by
    intro hlast
    exact ne_nil_of_mem_map_hexadecimal _ (List.mem_of_getLast? hlast) rfl
  rw [hextetLayout, hskips]
  dsimp only
  rw [if_neg, hlength]
  rintro (hnot | hnot | hnot)
  · exact hnot hlength
  · exact hhead hnot
  · exact hlast hnot

theorem take_padded (left rest : List Text) :
    (padded left ++ rest).take left.length = left := by
  rw [padded]
  split
  · next hnil => rw [hnil, List.length_nil, List.take_zero]
  · exact List.take_left

theorem drop_padded (right rest : List Text) :
    (rest ++ [] :: padded right).drop ((rest ++ [] :: padded right).length - right.length) =
      right := by
  rw [padded]
  split
  · next hnil => rw [hnil, List.length_nil, Nat.sub_zero, List.drop_length]
  · rw [← List.concat_append]
    apply List.drop_left'
    rw [List.length_append, Nat.add_sub_cancel]

/-- **An IPv6 address reads back from its text.** -/
theorem ipv6Bits_ipv6Text (ip : BitVec 128) : ipv6Bits (ipv6Text ip) = some ip := by
  have hthree := three_le_length_compressHextets ip
  have hsmall : ∀ d ∈ hextets ip, d < 65536 := fun d hd => lt_of_mem_digitsTo (by decide) hd
  have hvalue : BitVec.ofNat 128 ((hextets ip).foldl (fun n h => n * 65536 + h) 0) = ip := by
    rw [hextets, foldl_digitsTo, show 65536 ^ 8 = 2 ^ 128 by decide, Nat.mod_eq_of_lt ip.isLt,
      BitVec.ofNat_toNat, BitVec.setWidth_eq]
  have hne : ipv6Text ip ≠ [] := by
    intro hnil
    have hsplit := splitOn_ipv6Text ip
    rw [hnil, List.splitOn_nil] at hsplit
    rw [← hsplit] at hthree
    simp at hthree
  rw [ipv6Bits, splitOn_ipv6Text, if_neg (by rw [not_or]; exact ⟨hne, by omega⟩),
    expandDottedTail_compressHextets]
  rcases compressHextets_eq (hextets ip) with heq | ⟨left, len, right, hlen, hwords, heq⟩
  · have hlength : ((hextets ip).map hexadecimal).length = 8 := by
      rw [List.length_map, length_hextets]
    have htake : ((hextets ip).map hexadecimal).take 8 = (hextets ip).map hexadecimal :=
      List.take_of_length_le (by omega)
    have hdrop : ((hextets ip).map hexadecimal).drop 8 = [] := List.drop_of_length_le (by omega)
    simp only [heq, Option.bind_eq_bind, Option.bind_some, hlength,
      hextetLayout_map_hexadecimal (length_hextets ip), htake, hdrop, mapM_parseHextet hsmall,
      List.mapM_nil]
    simpa using hvalue
  · have hcount : left.length + len + right.length = 8 := by
      have hlength := length_hextets ip
      rw [hwords, List.length_append, List.length_append, List.length_replicate] at hlength
      exact hlength
    have hleft : ∀ d ∈ left, d < 65536 := by
      intro d hd
      apply hsmall
      rw [hwords]
      exact List.mem_append_left _ (List.mem_append_left _ hd)
    have hright : ∀ d ∈ right, d < 65536 := by
      intro d hd
      apply hsmall
      rw [hwords]
      exact List.mem_append_right _ hd
    have hlayout := hextetLayout_padded (left.map hexadecimal) (right.map hexadecimal)
      ne_nil_of_mem_map_hexadecimal ne_nil_of_mem_map_hexadecimal
      (by rw [List.length_map, List.length_map]; omega)
    have htake := take_padded (left.map hexadecimal) ([] :: padded (right.map hexadecimal))
    have hdrop := drop_padded (right.map hexadecimal) (padded (left.map hexadecimal))
    have hlong : ¬ 9 <
        (padded (left.map hexadecimal) ++ [] :: padded (right.map hexadecimal)).length := by
      have hl := length_padded_le (left.map hexadecimal)
      have hr := length_padded_le (right.map hexadecimal)
      rw [List.length_map] at hl hr
      rw [List.length_append, List.length_cons]
      omega
    rw [List.length_map] at htake hdrop
    rw [List.length_map, List.length_map] at hlayout
    have hzeros : 8 - (left.length + right.length) = len := by omega
    simp only [heq, Option.bind_eq_bind, Option.bind_some, if_neg hlong, hlayout, htake, hdrop,
      mapM_parseHextet hleft, mapM_parseHextet hright, hzeros]
    rw [← hwords, hvalue]

/-! ### Any address -/

theorem notMem_ipv6Text {c : Char} (hc : hexDigit c = none) (hcolon : c ≠ ':')
    (ip : BitVec 128) : c ∉ ipv6Text ip := by
  intro hmem
  obtain ⟨part, hpart, hcpart⟩ := exists_mem_splitOn hcolon hmem
  rw [splitOn_ipv6Text] at hpart
  exact notMem_of_mem_compressHextets hc hpart hcpart

/-- A zone that can be written after an address. -/
def IsZone (zone : Text) : Prop := zone ≠ [] ∧ '%' ∉ zone ∧ '/' ∉ zone

instance (zone : Text) : Decidable (IsZone zone) := inferInstanceAs (Decidable (_ ∧ _ ∧ _))

theorem ipv6Address_append {t zone : Text} {ip : BitVec 128} (ht : ipv6Bits t = some ip)
    (hpct : '%' ∉ t) (hslash : '/' ∉ t) (hzone : IsZone zone) :
    ipv6Address (t ++ '%' :: zone) = some ⟨ip, some zone⟩ := by
  have hno : '/' ∉ t ++ '%' :: zone := by
    rw [List.mem_append, List.mem_cons]
    rintro (hmem | hmem | hmem)
    · exact hslash hmem
    · simp at hmem
    · exact hzone.2.2 hmem
  have hscope : splitScopeId (t ++ '%' :: zone) = some (t, some zone) := by
    rw [splitScopeId, partition_append hpct]
    dsimp only
    rw [if_neg (by rw [not_or]; exact ⟨hzone.1, hzone.2.1⟩)]
  rw [ipv6Address, if_neg hno, hscope]
  simp [ht]

/-- **The zone of a literal is one that can be written.** -/
theorem isZone_of_ipv6Address {t : Text} {a : IPv6Address} (h : ipv6Address t = some a) :
    ∀ zone, a.scopeId = some zone → IsZone zone := by
  intro zone hscope
  obtain ⟨hslash, ⟨_, _, hnone⟩ | ⟨x, zone', rfl, _, hne, hpct, _, hsome⟩⟩ := ipv6Address_cases h
  · rw [hnone] at hscope
    simp at hscope
  · rw [hsome, Option.some_inj] at hscope
    rw [← hscope]
    refine ⟨hne, hpct, ?_⟩
    intro hmem
    exact hslash (List.mem_append_right _ (List.mem_cons_of_mem _ hmem))

theorem ipAddress_eq_of_colon {t : Text} (h : ':' ∈ t) : ipAddress t = (ipv6Address t).map .v6 := by
  rw [ipAddress]
  cases h4 : ipv4Address t with
  | none => rfl
  | some ip =>
    rcases mem_of_ipv4Address h4 h with hd | hd
    · exact absurd hd (by decide)
    · exact absurd hd (by decide)

/-- **Every address reads back from its text.** -/
theorem ipAddress_text (a : IPAddress) (hzone : ∀ zone, a.zone = some zone → IsZone zone) :
    ipAddress a.text = some a := by
  cases a with
  | v4 ip =>
    have hread := ipv4Address_inetNtoa (length_packedNat 4 ip.toNat)
    rw [bigEndian_packedNat, Nat.mod_eq_of_lt (show ip.toNat < 256 ^ 4 from ip.isLt),
      BitVec.ofNat_toNat, BitVec.setWidth_eq] at hread
    rw [IPAddress.text, ipAddress, hread]
  | v6 a =>
    obtain ⟨ip, scope⟩ := a
    have hbits := ipv6Bits_ipv6Text ip
    have hpct : '%' ∉ ipv6Text ip := notMem_ipv6Text (by decide) (by decide) ip
    have hslash : '/' ∉ ipv6Text ip := notMem_ipv6Text (by decide) (by decide) ip
    have hcolon := colon_mem_of_ipv6Bits hbits
    cases scope with
    | none =>
      rw [IPAddress.text]
      dsimp only
      rw [ipAddress_eq_of_colon hcolon, ipv6Address_of_ipv6Bits hbits hpct hslash]
      rfl
    | some zone =>
      have hz := hzone zone rfl
      obtain ⟨c, rest, rfl⟩ := List.exists_cons_of_ne_nil hz.1
      rw [IPAddress.text]
      dsimp only
      rw [ipAddress_eq_of_colon (List.mem_append_left _ hcolon),
        ipv6Address_append hbits hpct hslash hz]
      rfl

end IPScout
