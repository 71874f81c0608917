import IPScout.Base.Text

/-!
# Words and lines

A text is cut into words at white space, and into lines at the characters Unicode ends a line
with.  Words with one blank between them come back (`words_intercalate`), and so does a line
without line breaks (`splitLines_append`).
-/

namespace IPScout.Base.Text

/-- `text.split()`. -/
def words (t : Text) : List Text := (t.splitOnP isSpace).filter (· ≠ [])

/-- Where `str.splitlines` ends a line. -/
def isLineBreak (c : Char) : Bool :=
  let n := c.toNat
  (10 ≤ n && n ≤ 13) || (28 ≤ n && n ≤ 30) || n == 0x85 || n == 0x2028 || n == 0x2029

/-- `text.splitlines()`. -/
def splitLines : Text → List Text
  | [] => []
  | '\r' :: '\n' :: t => [] :: splitLines t
  | c :: t =>
    if isLineBreak c then [] :: splitLines t
    else
      match splitLines t with
      | [] => [[c]]
      | line :: lines => (c :: line) :: lines

/-- The letters that are written in upper case with letters of ASCII.  The upper case of any
other letter outside ASCII is outside ASCII too, and the letter stands for it here. -/
def upperChar (c : Char) : Text :=
  match c with
  | 'ß' => ['S', 'S']
  | 'ı' => ['I']
  | 'ŉ' => ['ʼ', 'N']
  | 'ſ' => ['S']
  | 'ǰ' => ['J', '\u030c']
  | 'ẖ' => ['H', '\u0331']
  | 'ẗ' => ['T', '\u0308']
  | 'ẘ' => ['W', '\u030a']
  | 'ẙ' => ['Y', '\u030a']
  | 'ẚ' => ['A', '\u02be']
  | 'ﬀ' => ['F', 'F']
  | 'ﬁ' => ['F', 'I']
  | 'ﬂ' => ['F', 'L']
  | 'ﬃ' => ['F', 'F', 'I']
  | 'ﬄ' => ['F', 'F', 'L']
  | 'ﬅ' => ['S', 'T']
  | 'ﬆ' => ['S', 'T']
  | c => [c.toUpper]

/-- `text.upper()`. -/
def upper (t : Text) : Text := t.flatMap upperChar

/-- `text.find(word)`. -/
def find (word : Text) : Text → Option ℕ
  | [] => if word = [] then some 0 else none
  | c :: t => if word <+: c :: t then some 0 else (find word t).map (· + 1)

/-! ### Stripped texts -/

theorem length_strip_le (t : Text) : (strip t).length ≤ t.length := by
  have hfront := (List.dropWhile_sublist (p := isSpace) (l := t)).length_le
  have hback := (List.dropWhile_sublist (p := isSpace)
    (l := (t.dropWhile isSpace).reverse)).length_le
  rw [List.length_reverse] at hback
  rw [strip, List.length_reverse]
  exact hback.trans hfront

theorem strip_of_ends {t : Text} (hhead : ∀ c ∈ t.head?, isSpace c = false)
    (hlast : ∀ c ∈ t.getLast?, isSpace c = false) : strip t = t := by
  have hkeep : ∀ {l : Text}, (∀ c ∈ l.head?, isSpace c = false) → l.dropWhile isSpace = l := by
    intro l hl
    cases l with
    | nil => rfl
    | cons c l =>
      rw [List.dropWhile_cons_of_neg]
      rw [hl c rfl]
      decide
  rw [← List.head?_reverse] at hlast
  rw [strip, hkeep hhead, hkeep hlast, List.reverse_reverse]

theorem strip_of_forall {t : Text} (h : ∀ c ∈ t, isSpace c = false) : strip t = t :=
  strip_of_ends (fun c hc => h c (List.mem_of_head? hc)) fun c hc => h c (List.mem_of_getLast? hc)

/-! ### Words -/

/-- **Words with one character of white space between them come back.** -/
theorem words_intercalate {blank : Char} (hblank : isSpace blank = true) {pieces : List Text}
    (h : ∀ piece ∈ pieces, piece ≠ [] ∧ ∀ c ∈ piece, isSpace c = false) :
    words ([blank].intercalate pieces) = pieces := by
  induction pieces with
  | nil => rfl
  | cons piece pieces ih =>
    obtain ⟨⟨hne, hplain⟩, hpieces⟩ := List.forall_mem_cons.mp h
    have hrest := ih hpieces
    rw [words] at hrest ⊢
    cases pieces with
    | nil =>
      rw [List.intercalate_singleton, List.splitOnP_eq_singleton hplain]
      simp [hne]
    | cons next pieces =>
      rw [List.intercalate_cons_cons, List.append_assoc, List.singleton_append,
        List.splitOnP_append_cons_of_forall_mem hplain blank hblank, List.filter_cons_of_pos,
        hrest]
      simpa using hne

theorem mem_intercalate_of_mem {sep c : Char} {pieces : List Text}
    (h : c ∈ [sep].intercalate pieces) : c = sep ∨ ∃ piece ∈ pieces, c ∈ piece := by
  induction pieces with
  | nil => simp [List.intercalate] at h
  | cons piece pieces ih =>
    cases pieces with
    | nil =>
      rw [List.intercalate_singleton] at h
      exact Or.inr ⟨piece, List.mem_cons_self, h⟩
    | cons next pieces =>
      rw [List.intercalate_cons_cons, List.append_assoc, List.singleton_append,
        List.mem_append, List.mem_cons] at h
      rcases h with h | h | h
      · exact Or.inr ⟨piece, List.mem_cons_self, h⟩
      · exact Or.inl h
      · rcases ih h with h | ⟨other, hother, hc⟩
        · exact Or.inl h
        · exact Or.inr ⟨other, List.mem_cons_of_mem _ hother, hc⟩

theorem map_intercalate {sep blank : Char} {pieces : List Text}
    (h : ∀ piece ∈ pieces, sep ∉ piece) :
    ([sep].intercalate pieces).map (fun c => if c = sep then blank else c) =
      [blank].intercalate pieces := by
  have hkeep : ∀ {piece : Text}, sep ∉ piece →
      piece.map (fun c => if c = sep then blank else c) = piece := by
    intro piece hpiece
    conv_rhs => rw [← List.map_id piece]
    apply List.map_congr_left
    intro c hc
    have hne : c ≠ sep := by
      rintro rfl
      exact hpiece hc
    rw [if_neg hne]
    rfl
  induction pieces with
  | nil => rfl
  | cons piece pieces ih =>
    obtain ⟨hpiece, hpieces⟩ := List.forall_mem_cons.mp h
    cases pieces with
    | nil => rw [List.intercalate_singleton, List.intercalate_singleton, hkeep hpiece]
    | cons next pieces =>
      rw [List.intercalate_cons_cons, List.intercalate_cons_cons, List.map_append,
        List.map_append, hkeep hpiece, ih hpieces, List.map_singleton, if_pos rfl]

/-! ### Lines -/

theorem splitLines_cons {c : Char} (hc : isLineBreak c = false) (t : Text) :
    splitLines (c :: t) =
      match splitLines t with
      | [] => [[c]]
      | line :: lines => (c :: line) :: lines := by
  rw [splitLines, if_neg (by rw [hc]; decide)]
  rintro t' rfl -
  exact absurd hc (by decide)

/-- **A line without line breaks comes back**, and so does what follows it. -/
theorem splitLines_append {line : Text} (hline : ∀ c ∈ line, isLineBreak c = false) (t : Text) :
    splitLines (line ++ '\n' :: t) = line :: splitLines t := by
  induction line with
  | nil =>
    rw [List.nil_append, splitLines, if_pos (by decide)]
    rintro t' h -
    exact absurd h (by decide)
  | cons c line ih =>
    obtain ⟨hc, hline⟩ := List.forall_mem_cons.mp hline
    rw [List.cons_append, splitLines_cons hc, ih hline]

theorem splitLines_append_break {line : Text} (hline : ∀ c ∈ line, isLineBreak c = false) {c : Char}
    (hc : isLineBreak c = true) (t : Text) :
    ∃ tail, tail.length ≤ t.length ∧ splitLines (line ++ c :: t) = line :: splitLines tail := by
  induction line with
  | nil =>
    rw [List.nil_append]
    by_cases hpair : c = '\r' ∧ t.head? = some '\n'
    · obtain ⟨rfl, hhead⟩ := hpair
      obtain ⟨t', rfl⟩ := List.head?_eq_some_iff.mp hhead
      exact ⟨t', Nat.le_succ _, rfl⟩
    · refine ⟨t, le_rfl, ?_⟩
      rw [splitLines, if_pos hc]
      rintro t' rfl rfl
      exact hpair ⟨rfl, rfl⟩
  | cons d line ih =>
    obtain ⟨hd, hline⟩ := List.forall_mem_cons.mp hline
    obtain ⟨tail, htail, hlines⟩ := ih hline
    refine ⟨tail, htail, ?_⟩
    rw [List.cons_append, splitLines_cons hd, hlines]

theorem length_le_of_mem_splitLines {t line : Text} (h : line ∈ splitLines t) :
    line.length ≤ t.length := by
  induction t using splitLines.induct generalizing line with
  | case1 =>
    rw [splitLines] at h
    exact absurd h List.not_mem_nil
  | case2 t ih =>
    rw [splitLines] at h
    rcases List.mem_cons.mp h with rfl | h
    · exact Nat.zero_le _
    · have hle := ih h
      rw [List.length_cons, List.length_cons]
      omega
  | case3 t c hpair hc ih =>
    rw [splitLines, if_pos hc] at h
    · rcases List.mem_cons.mp h with rfl | h
      · exact Nat.zero_le _
      · have hle := ih h
        rw [List.length_cons]
        omega
    · exact hpair
  | case4 t c hpair hc hnil ih =>
    rw [splitLines, if_neg hc, hnil] at h
    · rw [List.mem_singleton.mp h, List.length_singleton, List.length_cons]
      omega
    · exact hpair
  | case5 t c hpair hc first lines hlines ih =>
    rw [splitLines, if_neg hc, hlines] at h
    · rcases List.mem_cons.mp h with rfl | h
      · have hle := ih (hlines ▸ List.mem_cons_self)
        rw [List.length_cons, List.length_cons]
        omega
      · have hle := ih (hlines ▸ List.mem_cons_of_mem first h)
        rw [List.length_cons]
        omega
    · exact hpair

end IPScout.Base.Text
