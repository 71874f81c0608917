import IPScout.Base.Integers
import IPScout.Echo.Ping
import Mathlib.Data.List.Dedup
import Mathlib.Data.List.Sort

/-!
# Port specifications

`parse_ports` of `portscan.py`: the ports that a text like `22,80,8000-8100` names.  A number
is read by `int`, which takes more than digits: a sign, single underscores between digits, and
the digits of other scripts.

The parser accepts what is made of numbers that `int` reads (`parsePorts_spec`).  That is what
is made of plain digits, unless some number of an accepted text is spelled otherwise, or a
plain one is longer than `int` takes (`readsGrammar_iff`).
-/

namespace IPScout

open Base Base.Text

/-! ### The parser -/

def requirePort (value : ℤ) : Except PyError ℕ :=
  if (MIN_PORT : ℤ) ≤ value ∧ value ≤ (MAX_PORT : ℤ) then .ok value.toNat
  else .error (.value [say "port out of range 1-65535: ", .text (decimalInt value)])

variable (table : DigitTable)

def port (text : Text) : Except PyError ℕ :=
  match readInt table (strip text) with
  | none => .error (.value [say "not a port number: ", .quoted (strip text)])
  | some value => requirePort value

/-- The loop over the pieces; `found` is a set. -/
def parsePieces : List Text → (found : List ℕ) → Except PyError (List ℕ)
  | [], found => .ok found
  | piece :: rest, found =>
    let text := strip piece
    if text = [] then parsePieces rest found
    else if '-' ∈ text then
      let (lowText, _, highText) := partition '-' text
      match port table lowText with
      | .error e => .error e
      | .ok low =>
        match port table highText with
        | .error e => .error e
        | .ok high =>
          if high < low then
            .error (.value [say "port range runs backwards: ", .quoted text])
          else parsePieces rest (found ++ List.range' low (high + 1 - low))
    else
      match port table text with
      | .error e => .error e
      | .ok value => parsePieces rest (found ++ [value])

/-- `sorted(found)`. -/
def sortedSet (found : List ℕ) : List ℕ := found.dedup.insertionSort (· ≤ ·)

def parsePorts (specification : Text) : Except PyError (List ℕ) :=
  (parsePieces table (specification.splitOn ',') []).map sortedSet

/-! ### What a specification names -/

/-- A number that `int` reads, and a port. -/
def IntPort (t : Text) (n : ℕ) : Prop :=
  readInt table t = some (n : ℤ) ∧ MIN_PORT ≤ n ∧ n ≤ MAX_PORT

/-- A run of digits that writes a port. -/
def PlainPort (t : Text) (n : ℕ) : Prop :=
  t ≠ [] ∧ t.all Char.isDigit = true ∧ decimalValue t = n ∧ MIN_PORT ≤ n ∧ n ≤ MAX_PORT

section Pieces

variable (number : Text → ℕ → Prop)

/-- A piece that is a number, or two joined by a dash; white space around a number is
ignored. -/
def Names (text : Text) (low high : ℕ) : Prop :=
  ('-' ∉ text ∧ number (strip text) low ∧ high = low) ∨
    ∃ a b, text = a ++ '-' :: b ∧ '-' ∉ a ∧ number (strip a) low ∧ number (strip b) high ∧
      low ≤ high

/-- Every piece that is not blank names something. -/
def Accepts (pieces : List Text) : Prop :=
  ∀ piece ∈ pieces, strip piece ≠ [] → ∃ low high, Names number (strip piece) low high

/-- Some piece names the port, or a range around it. -/
def Includes (pieces : List Text) (p : ℕ) : Prop :=
  ∃ piece ∈ pieces, strip piece ≠ [] ∧
    ∃ low high, Names number (strip piece) low high ∧ low ≤ p ∧ p ≤ high

variable {number}

theorem names_append_iff {a b : Text} (ha : '-' ∉ a) {low high : ℕ} :
    Names number (a ++ '-' :: b) low high ↔
      number (strip a) low ∧ number (strip b) high ∧ low ≤ high := by
  constructor
  · rintro (⟨hno, _⟩ | ⟨a', b', hsame, ha', hends⟩)
    · simp at hno
    · have hparts := partition_append (b := b) ha
      rw [hsame, partition_append ha'] at hparts
      simp only [Prod.mk.injEq] at hparts
      obtain ⟨rfl, _, rfl⟩ := hparts
      exact hends
  · intro hends
    exact Or.inr ⟨a, b, rfl, ha, hends⟩

theorem names_iff_of_notMem {text : Text} (h : '-' ∉ text) {low high : ℕ} :
    Names number text low high ↔ number (strip text) low ∧ high = low := by
  constructor
  · rintro (⟨_, hnumber⟩ | ⟨a, b, rfl, _⟩)
    · exact hnumber
    · simp at h
  · intro hnumber
    exact Or.inl ⟨h, hnumber⟩

theorem accepts_cons {piece : Text} {rest : List Text} : Accepts number (piece :: rest) ↔
    (strip piece ≠ [] → ∃ low high, Names number (strip piece) low high) ∧
      Accepts number rest := by
  rw [Accepts, List.forall_mem_cons]
  rfl

theorem includes_cons {piece : Text} {rest : List Text} {p : ℕ} :
    Includes number (piece :: rest) p ↔
      (strip piece ≠ [] ∧ ∃ low high, Names number (strip piece) low high ∧ low ≤ p ∧ p ≤ high) ∨
        Includes number rest p := by
  simp only [Includes, List.exists_mem_cons_iff]

end Pieces

/-! ### What the parser accepts -/

variable {table}

theorem port_eq_ok_iff {t : Text} {n : ℕ} : port table t = .ok n ↔ IntPort table (strip t) n := by
  rw [port, IntPort]
  cases hread : readInt table (strip t) with
  | none => simp
  | some value =>
    dsimp only
    rw [requirePort]
    by_cases hrange : (MIN_PORT : ℤ) ≤ value ∧ value ≤ (MAX_PORT : ℤ)
    · rw [if_pos hrange, Except.ok.injEq, Option.some_inj]
      have hmin : 1 ≤ value := hrange.1
      have hmax : value ≤ 65535 := hrange.2
      have h1 : MIN_PORT = 1 := rfl
      have h65535 : MAX_PORT = 65535 := rfl
      omega
    · rw [if_neg hrange, Option.some_inj]
      constructor
      · intro h
        simp at h
      · rintro ⟨rfl, hmin, hmax⟩
        exact absurd ⟨Int.ofNat_le.mpr hmin, Int.ofNat_le.mpr hmax⟩ hrange

/-- A number that is not a port is refused with a `ValueError`. -/
theorem port_error {t : Text} {e : PyError} (h : port table t = .error e) :
    ∃ msg, e = .value msg := by
  rw [port] at h
  split at h
  · exact ⟨_, (Except.error.inj h).symm⟩
  · rw [requirePort] at h
    split at h
    · simp at h
    · exact ⟨_, (Except.error.inj h).symm⟩

theorem intPort_unique {t : Text} {n m : ℕ} (hn : IntPort table t n)
    (hm : IntPort table t m) : n = m := by
  have h := hn.1.symm.trans hm.1
  exact Int.ofNat.inj (Option.some.inj h)

/-- A piece names one range. -/
theorem names_unique {text : Text} {low high low' high' : ℕ}
    (h : Names (IntPort table) text low high)
    (h' : Names (IntPort table) text low' high') : low = low' ∧ high = high' := by
  by_cases hdash : '-' ∈ text
  · obtain ⟨a, b, rfl, ha⟩ := List.eq_append_cons_of_mem hdash
    obtain ⟨hlow, hhigh, _⟩ := (names_append_iff ha).mp h
    obtain ⟨hlow', hhigh', _⟩ := (names_append_iff ha).mp h'
    exact ⟨intPort_unique hlow hlow', intPort_unique hhigh hhigh'⟩
  · obtain ⟨hnumber, rfl⟩ := (names_iff_of_notMem hdash).mp h
    obtain ⟨hnumber', rfl⟩ := (names_iff_of_notMem hdash).mp h'
    have hsame := intPort_unique hnumber hnumber'
    exact ⟨hsame, hsame⟩

/-- Two ends joined by a dash: the range between them is added, or the parser refuses the
piece. -/
theorem parsePieces_range {piece a b : Text} (hpiece : strip piece = a ++ '-' :: b)
    (ha : '-' ∉ a) (rest : List Text) (found : List ℕ) :
    (∃ low high, Names (IntPort table) (strip piece) low high ∧ low ≤ high ∧
      parsePieces table (piece :: rest) found =
        parsePieces table rest (found ++ List.range' low (high + 1 - low))) ∨
    ((¬ ∃ low high, Names (IntPort table) (strip piece) low high) ∧
      ∃ msg, parsePieces table (piece :: rest) found = .error (.value msg)) := by
  have hnames : ∀ low high, Names (IntPort table) (a ++ '-' :: b) low high ↔
      port table a = .ok low ∧ port table b = .ok high ∧ low ≤ high := by
    intro low high
    rw [names_append_iff ha, port_eq_ok_iff, port_eq_ok_iff]
  rw [parsePieces, hpiece]
  dsimp only
  rw [if_neg (by simp), if_pos (by simp), partition_append ha]
  simp only [hnames]
  cases hlow : port table a with
  | error e =>
    obtain ⟨msg, rfl⟩ := port_error hlow
    exact Or.inr ⟨by simp, msg, rfl⟩
  | ok low =>
    cases hhigh : port table b with
    | error e =>
      obtain ⟨msg, rfl⟩ := port_error hhigh
      exact Or.inr ⟨by simp, msg, rfl⟩
    | ok high =>
      dsimp only
      by_cases hback : high < low
      · rw [if_pos hback]
        refine Or.inr ⟨?_, _, rfl⟩
        rintro ⟨low', high', hl, hh, hle⟩
        rw [Except.ok.injEq] at hl hh
        omega
      · rw [if_neg hback]
        exact Or.inl ⟨low, high, ⟨rfl, rfl, by omega⟩, by omega, rfl⟩

theorem parsePieces_number {piece : Text} (hne : strip piece ≠ []) (hdash : '-' ∉ strip piece)
    (rest : List Text) (found : List ℕ) :
    (∃ low high, Names (IntPort table) (strip piece) low high ∧ low ≤ high ∧
      parsePieces table (piece :: rest) found =
        parsePieces table rest (found ++ List.range' low (high + 1 - low))) ∨
    ((¬ ∃ low high, Names (IntPort table) (strip piece) low high) ∧
      ∃ msg, parsePieces table (piece :: rest) found = .error (.value msg)) := by
  have hnames : ∀ low high, Names (IntPort table) (strip piece) low high ↔
      port table (strip piece) = .ok low ∧ high = low := by
    intro low high
    rw [names_iff_of_notMem hdash, port_eq_ok_iff]
  rw [parsePieces]
  dsimp only
  rw [if_neg hne, if_neg hdash]
  simp only [hnames]
  cases hport : port table (strip piece) with
  | error e =>
    obtain ⟨msg, rfl⟩ := port_error hport
    exact Or.inr ⟨by simp, msg, rfl⟩
  | ok value =>
    refine Or.inl ⟨value, value, ⟨rfl, rfl⟩, le_rfl, ?_⟩
    dsimp only
    rw [Nat.add_sub_cancel_left, List.range'_one]

/-- **One piece**: it is skipped, or it adds the range it names, or the parser refuses it. -/
theorem parsePieces_cons (piece : Text) (rest : List Text) (found : List ℕ) :
    (strip piece = [] ∧ parsePieces table (piece :: rest) found = parsePieces table rest found) ∨
    (strip piece ≠ [] ∧ ∃ low high, Names (IntPort table) (strip piece) low high ∧ low ≤ high ∧
      parsePieces table (piece :: rest) found =
        parsePieces table rest (found ++ List.range' low (high + 1 - low))) ∨
    (strip piece ≠ [] ∧ (¬ ∃ low high, Names (IntPort table) (strip piece) low high) ∧
      ∃ msg, parsePieces table (piece :: rest) found = .error (.value msg)) := by
  by_cases hblank : strip piece = []
  · left
    refine ⟨hblank, ?_⟩
    rw [parsePieces]
    dsimp only
    rw [if_pos hblank]
  · right
    rw [← and_or_left]
    refine ⟨hblank, ?_⟩
    by_cases hdash : '-' ∈ strip piece
    · obtain ⟨a, b, hpiece, ha⟩ := List.eq_append_cons_of_mem hdash
      exact parsePieces_range hpiece ha rest found
    · exact parsePieces_number hblank hdash rest found

/-- **The pieces together.** -/
theorem parsePieces_spec (pieces : List Text) (found : List ℕ) :
    (Accepts (IntPort table) pieces ∧ ∃ all, parsePieces table pieces found = .ok all ∧
      ∀ p, p ∈ all ↔ p ∈ found ∨ Includes (IntPort table) pieces p) ∨
    (¬ Accepts (IntPort table) pieces ∧
      ∃ msg, parsePieces table pieces found = .error (.value msg)) := by
  induction pieces generalizing found with
  | nil =>
    refine Or.inl ⟨?_, found, rfl, ?_⟩
    · intro piece hpiece
      simp at hpiece
    · intro p
      simp [Includes]
  | cons piece rest ih =>
    rcases parsePieces_cons piece rest found with ⟨hblank, heq⟩ |
      ⟨hne, low, high, hnames, hle, heq⟩ | ⟨hne, hnone, msg, heq⟩
    · rw [heq]
      rcases ih found with ⟨hrest, all, hall, hmem⟩ | ⟨hrest, msg, hmsg⟩
      · refine Or.inl ⟨accepts_cons.mpr ⟨fun hne => absurd hblank hne, hrest⟩, all, hall, ?_⟩
        intro p
        rw [hmem, includes_cons]
        simp [hblank]
      · exact Or.inr ⟨fun h => hrest (accepts_cons.mp h).2, msg, hmsg⟩
    · rw [heq]
      rcases ih (found ++ List.range' low (high + 1 - low)) with
        ⟨hrest, all, hall, hmem⟩ | ⟨hrest, msg, hmsg⟩
      · refine Or.inl ⟨accepts_cons.mpr ⟨fun _ => ⟨low, high, hnames⟩, hrest⟩, all, hall, ?_⟩
        intro p
        have hrange : p ∈ List.range' low (high + 1 - low) ↔ low ≤ p ∧ p ≤ high := by
          rw [List.mem_range'_1]
          omega
        have hpiece : (strip piece ≠ [] ∧ ∃ low high, Names (IntPort table) (strip piece) low high ∧
            low ≤ p ∧ p ≤ high) ↔ low ≤ p ∧ p ≤ high := by
          constructor
          · rintro ⟨_, low', high', hnames', hmin, hmax⟩
            obtain ⟨rfl, rfl⟩ := names_unique hnames hnames'
            exact ⟨hmin, hmax⟩
          · intro hp
            exact ⟨hne, low, high, hnames, hp⟩
        rw [hmem, includes_cons, List.mem_append, hrange, hpiece, or_assoc]
      · exact Or.inr ⟨fun h => hrest (accepts_cons.mp h).2, msg, hmsg⟩
    · exact Or.inr ⟨fun h => hnone ((accepts_cons.mp h).1 hne), msg, heq⟩

theorem mem_sortedSet {found : List ℕ} {p : ℕ} : p ∈ sortedSet found ↔ p ∈ found := by
  rw [sortedSet, List.mem_insertionSort, List.mem_dedup]

theorem pairwise_sortedSet (found : List ℕ) : (sortedSet found).Pairwise (· < ·) := by
  have hle : (sortedSet found).Pairwise (· ≤ ·) := List.pairwise_insertionSort (· ≤ ·) found.dedup
  have hnodup : (sortedSet found).Nodup := by
    rw [sortedSet, (List.perm_insertionSort _ _).nodup_iff]
    exact List.nodup_dedup found
  exact (hle.and hnodup).imp fun h => lt_of_le_of_ne h.1 h.2

/-- **What the parser accepts and what it returns**: made of numbers that `int` reads. -/
theorem parsePorts_spec (t : Text) :
    (Accepts (IntPort table) (t.splitOn ',') ∧ ∃ ports, parsePorts table t = .ok ports ∧
      ports.Pairwise (· < ·) ∧ ∀ p, p ∈ ports ↔ Includes (IntPort table) (t.splitOn ',') p) ∨
    (¬ Accepts (IntPort table) (t.splitOn ',') ∧
      ∃ msg, parsePorts table t = .error (.value msg)) := by
  rw [parsePorts]
  rcases parsePieces_spec (t.splitOn ',') [] with ⟨haccepts, all, hall, hmem⟩ | ⟨hnot, msg, hmsg⟩
  · refine Or.inl ⟨haccepts, sortedSet all, by rw [hall]; rfl, pairwise_sortedSet all, ?_⟩
    intro p
    rw [mem_sortedSet, hmem]
    simp
  · exact Or.inr ⟨hnot, msg, by rw [hmsg]; rfl⟩

/-! ### Where that is what is made of plain digits -/

/-- The numbers of a piece as they are spelled. -/
def numbersOf (text : Text) : List Text :=
  if '-' ∈ text then [strip (partition '-' text).1, strip (partition '-' text).2.2]
  else [strip text]

/-- The numbers of all pieces that are not blank. -/
def numbers (pieces : List Text) : List Text :=
  (pieces.filter (strip · ≠ [])).flatMap fun piece => numbersOf (strip piece)

variable (table) in
/-- The specification reads, and some number of it is not spelled in plain digits. -/
def SpelledOtherwise (pieces : List Text) : Prop :=
  Accepts (IntPort table) pieces ∧ ∃ x ∈ numbers pieces, x.all Char.isDigit = false

/-- The specification is plain, and some number of it has more digits than `int` takes. -/
def TooLong (pieces : List Text) : Prop :=
  Accepts PlainPort pieces ∧ ∃ x ∈ numbers pieces, MAX_STR_DIGITS < x.length

variable (table) in
/-- The parser takes exactly what is made of plain digits, refuses all else with a
`ValueError`, and returns what is named, in order and once. -/
def ReadsGrammar (t : Text) : Prop :=
  ((∃ ports, parsePorts table t = .ok ports) ↔ Accepts PlainPort (t.splitOn ',')) ∧
    (∀ e, parsePorts table t = .error e → ∃ msg, e = .value msg) ∧
    ∀ ports, parsePorts table t = .ok ports →
      ports.Pairwise (· < ·) ∧ ∀ p, p ∈ ports ↔ Includes PlainPort (t.splitOn ',') p

theorem mem_numbers {pieces : List Text} {x : Text} : x ∈ numbers pieces ↔
    ∃ piece ∈ pieces, strip piece ≠ [] ∧ x ∈ numbersOf (strip piece) := by
  simp only [numbers, List.mem_flatMap, List.mem_filter, decide_eq_true_eq, and_assoc]

section Numbers

variable {number number' : Text → ℕ → Prop}

/-- Numbers that read otherwise make the piece read otherwise. -/
theorem Names.mono {text : Text} {low high : ℕ}
    (h : ∀ x ∈ numbersOf text, ∀ n, number x n → number' x n)
    (hnames : Names number text low high) : Names number' text low high := by
  rcases hnames with ⟨hdash, hnumber, hsame⟩ | ⟨a, b, rfl, ha, hlow, hhigh, hle⟩
  · rw [numbersOf, if_neg hdash] at h
    exact Or.inl ⟨hdash, h _ (List.mem_singleton_self _) _ hnumber, hsame⟩
  · rw [numbersOf, if_pos (by simp), partition_append ha] at h
    exact Or.inr ⟨a, b, rfl, ha, h _ List.mem_cons_self _ hlow,
      h _ (List.mem_cons_of_mem _ (List.mem_singleton_self _)) _ hhigh, hle⟩

theorem Names.numbersOf {text : Text} {low high : ℕ} (h : Names number text low high) {x : Text}
    (hx : x ∈ numbersOf text) : ∃ n, number x n := by
  rcases h with ⟨hdash, hnumber, _⟩ | ⟨a, b, rfl, ha, hlow, hhigh, _⟩
  · rw [IPScout.numbersOf, if_neg hdash, List.mem_singleton] at hx
    exact ⟨low, hx ▸ hnumber⟩
  · rw [IPScout.numbersOf, if_pos (by simp), partition_append ha, List.mem_cons,
      List.mem_singleton] at hx
    rcases hx with rfl | rfl
    · exact ⟨low, hlow⟩
    · exact ⟨high, hhigh⟩

theorem Accepts.numbers {pieces : List Text} (h : Accepts number pieces) {x : Text}
    (hx : x ∈ numbers pieces) : ∃ n, number x n := by
  obtain ⟨piece, hpiece, hne, hmem⟩ := mem_numbers.mp hx
  obtain ⟨low, high, hnames⟩ := h piece hpiece hne
  exact hnames.numbersOf hmem

theorem Accepts.mono {pieces : List Text}
    (h : ∀ x ∈ IPScout.numbers pieces, ∀ n, number x n → number' x n)
    (haccepts : Accepts number pieces) : Accepts number' pieces := by
  intro piece hpiece hne
  obtain ⟨low, high, hnames⟩ := haccepts piece hpiece hne
  exact ⟨low, high, hnames.mono fun x hx => h x (mem_numbers.mpr ⟨piece, hpiece, hne, hx⟩)⟩

theorem Includes.mono {pieces : List Text} {p : ℕ}
    (h : ∀ x ∈ IPScout.numbers pieces, ∀ n, number x n → number' x n)
    (hincludes : Includes number pieces p) : Includes number' pieces p := by
  obtain ⟨piece, hpiece, hne, low, high, hnames, hp⟩ := hincludes
  exact ⟨piece, hpiece, hne, low, high,
    hnames.mono fun x hx => h x (mem_numbers.mpr ⟨piece, hpiece, hne, hx⟩), hp⟩

end Numbers

/-- Digits that `int` reads are not too many. -/
theorem intPort_iff_of_isDigit {t : Text} {n : ℕ} (h : t.all Char.isDigit = true) :
    IntPort table t n ↔ t.length ≤ MAX_STR_DIGITS ∧ PlainPort t n := by
  rw [IntPort, PlainPort, readInt_of_isDigit h]
  by_cases hbad : t = [] ∨ MAX_STR_DIGITS < t.length
  · rw [if_pos hbad]
    constructor
    · rintro ⟨hread, _⟩
      simp at hread
    · rintro ⟨hlength, hne, _⟩
      rcases hbad with hnil | hlong
      · exact absurd hnil hne
      · omega
  · rw [if_neg hbad, Option.some_inj, Int.ofNat_inj]
    rw [not_or, not_lt] at hbad
    constructor
    · rintro ⟨hvalue, hrange⟩
      exact ⟨hbad.2, hbad.1, h, hvalue, hrange⟩
    · rintro ⟨_, _, _, hvalue, hrange⟩
      exact ⟨hvalue, hrange⟩

theorem ReadsGrammar.not_spelledOtherwise {t : Text} (h : ReadsGrammar table t) :
    ¬ SpelledOtherwise table (t.splitOn ',') := by
  rintro ⟨hint, x, hx, hother⟩
  rcases parsePorts_spec t with ⟨_, ports, hports, _⟩ | ⟨hnot, _⟩
  · obtain ⟨n, hplain⟩ := (h.1.mp ⟨ports, hports⟩).numbers hx
    rw [hplain.2.1] at hother
    simp at hother
  · exact hnot hint

theorem ReadsGrammar.not_tooLong {t : Text} (h : ReadsGrammar table t) :
    ¬ TooLong (t.splitOn ',') := by
  rintro ⟨hplain, x, hx, hlong⟩
  obtain ⟨ports, hports⟩ := h.1.mpr hplain
  rcases parsePorts_spec t with ⟨hint, _⟩ | ⟨_, msg, hmsg⟩
  · obtain ⟨n, hread⟩ := hint.numbers hx
    obtain ⟨m, hdigits⟩ := hplain.numbers hx
    have hshort := ((intPort_iff_of_isDigit hdigits.2.1).mp hread).1
    omega
  · rw [hmsg] at hports
    simp at hports

/-- What is accepted is read by the grammar, if all its numbers are digits. -/
theorem readsGrammar_of_accepts {t : Text} (hint : Accepts (IntPort table) (t.splitOn ','))
    (hspelled : ¬ SpelledOtherwise table (t.splitOn ',')) : ReadsGrammar table t := by
  have hdigits : ∀ x ∈ numbers (t.splitOn ','), x.all Char.isDigit = true := by
    intro x hx
    by_contra hother
    exact hspelled ⟨hint, x, hx, by simpa using hother⟩
  have hplain : ∀ x ∈ numbers (t.splitOn ','), ∀ n, IntPort table x n → PlainPort x n :=
    fun x hx n h => ((intPort_iff_of_isDigit (hdigits x hx)).mp h).2
  have hback : ∀ x ∈ numbers (t.splitOn ','), ∀ n, PlainPort x n → IntPort table x n := by
    intro x hx n h
    obtain ⟨m, hm⟩ := hint.numbers hx
    exact (intPort_iff_of_isDigit (hdigits x hx)).mpr
      ⟨((intPort_iff_of_isDigit (hdigits x hx)).mp hm).1, h⟩
  rcases parsePorts_spec t with ⟨_, ports, hports, hsorted, hmem⟩ | ⟨hnot, _⟩
  · refine ⟨iff_of_true ⟨ports, hports⟩ (hint.mono hplain), ?_, ?_⟩
    · intro e he
      rw [hports] at he
      simp at he
    · intro ports' hports'
      rw [hports, Except.ok.injEq] at hports'
      subst hports'
      refine ⟨hsorted, ?_⟩
      intro p
      rw [hmem]
      exact ⟨Includes.mono hplain, Includes.mono hback⟩
  · exact absurd hint hnot

/-- What is refused is not of the grammar, if no number is too long. -/
theorem readsGrammar_of_not_accepts {t : Text} (hnot : ¬ Accepts (IntPort table) (t.splitOn ','))
    (hlong : ¬ TooLong (t.splitOn ',')) : ReadsGrammar table t := by
  have hplain : ¬ Accepts PlainPort (t.splitOn ',') := by
    intro hplain
    apply hnot
    apply hplain.mono
    intro x hx n h
    have hshort : x.length ≤ MAX_STR_DIGITS := by
      by_contra hmore
      exact hlong ⟨hplain, x, hx, Nat.lt_of_not_le hmore⟩
    exact (intPort_iff_of_isDigit h.2.1).mpr ⟨hshort, h⟩
  rcases parsePorts_spec t with ⟨hint, _⟩ | ⟨_, msg, hmsg⟩
  · exact absurd hint hnot
  · refine ⟨iff_of_false ?_ hplain, ?_, ?_⟩
    · rintro ⟨ports, hports⟩
      rw [hmsg] at hports
      simp at hports
    · intro e he
      rw [hmsg, Except.error.injEq] at he
      exact ⟨msg, he.symm⟩
    · intro ports hports
      rw [hmsg] at hports
      simp at hports

/-- **The parser reads the grammar unless a number is spelled otherwise, or is too long.** -/
theorem readsGrammar_iff (table : DigitTable) (t : Text) :
    ReadsGrammar table t ↔
      ¬ SpelledOtherwise table (t.splitOn ',') ∧ ¬ TooLong (t.splitOn ',') := by
  constructor
  · intro h
    exact ⟨h.not_spelledOtherwise, h.not_tooLong⟩
  · rintro ⟨hspelled, hlong⟩
    by_cases hint : Accepts (IntPort table) (t.splitOn ',')
    · exact readsGrammar_of_accepts hint hspelled
    · exact readsGrammar_of_not_accepts hint hlong

/-- **`8_0,+443` is read as two ports.** -/
theorem spelled_otherwise_accepted :
    parsePorts .unicode15 "8_0,+443".toList = .ok [80, 443] ∧
    ¬ Accepts PlainPort ("8_0,+443".toList.splitOn ',') := by
  refine ⟨by decide +kernel, ?_⟩
  intro haccepts
  have hmem : "8_0".toList ∈ numbers ("8_0,+443".toList.splitOn ',') := by decide +kernel
  obtain ⟨n, hplain⟩ := haccepts.numbers hmem
  exact absurd hplain.2.1 (by decide)

end IPScout
