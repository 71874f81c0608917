import IPScout.Snmp.Elements

/-!
# Object identifiers read back

`encode_oid` and `decode_oid` undo each other.  An identifier written as dotted text
without leading zeros comes back as the same text (`decodeOid_of_encodeOid`), and
the octets of an identifier that is read are the octets it is written as
(`encodeOid_of_decodeOid`): no sub-identifier starts with `0x80`, so each has one
form.

Both directions are one fact about sub-identifiers, `subIdentifiers_base128` and
its converse `subIdentifiers_ok`: the octets of a list of numbers are the numbers'
base-128 forms, one after the other.
-/

namespace IPScout.Ber

open Base Base.Octets Base.Text

/-! ### Sub-identifiers -/

theorem base128From_zero (acc : Octets) : base128From 0 acc = acc := by
  rw [base128From, if_pos rfl]

theorem base128From_pos {n : Nat} (h : 0 < n) (acc : Octets) : base128From n acc
    = base128From (n / 128) (UInt8.ofNat (LONG_FORM + n % 128) :: acc) := by
  rw [base128From, if_neg (by omega)]

theorem base128From_append (n : Nat) (acc : Octets) :
    base128From n acc = base128From n [] ++ acc := by
  induction n using Nat.strongRecOn generalizing acc with
  | ind n ih =>
    by_cases h : n = 0
    · subst h
      rw [base128From_zero, base128From_zero, List.nil_append]
    · have hpos : 0 < n := by omega
      rw [base128From_pos hpos, base128From_pos hpos, ih (n / 128) (by omega),
        ih (n / 128) (by omega) [UInt8.ofNat (LONG_FORM + n % 128)], List.append_assoc]
      rfl

theorem toNat_continuation (n : Nat) :
    (UInt8.ofNat (LONG_FORM + n % 128)).toNat = LONG_FORM + n % 128 := by
  have hlong : LONG_FORM = 128 := rfl
  rw [UInt8.toNat_ofNat']
  apply Nat.mod_eq_of_lt
  omega

theorem toNat_last (n : Nat) : (UInt8.ofNat (n % 128)).toNat = n % 128 := by
  rw [UInt8.toNat_ofNat']
  apply Nat.mod_eq_of_lt
  omega

def nextBound (numbers : List Nat) : Nat :=
  if numbers = [] then MAX_FIRST_SUB_IDENTIFIER else MAX_ARC

theorem subIdentifiers_cons {numbers : List Nat} {current : Nat} {starting : Bool}
    {octet : UInt8} {rest : Octets} (hstart : ¬ (starting = true ∧ octet.toNat = LONG_FORM))
    (hbound : current * 128 + octet.toNat % 128 ≤ nextBound numbers) :
    subIdentifiers numbers current starting (octet :: rest)
      = if octet.toNat < LONG_FORM then
          subIdentifiers (numbers ++ [current * 128 + octet.toNat % 128]) 0 true rest
        else subIdentifiers numbers (current * 128 + octet.toNat % 128) false rest := by
  rw [subIdentifiers, if_neg hstart]
  exact if_neg (Nat.not_lt.mpr hbound)

theorem subIdentifiers_cons_ne_ok {numbers found : List Nat} {current : Nat} {starting : Bool}
    {octet : UInt8} {rest : Octets}
    (hbound : nextBound numbers < current * 128 + octet.toNat % 128) :
    subIdentifiers numbers current starting (octet :: rest) ≠ .ok found := by
  intro h
  rw [subIdentifiers] at h
  split at h
  · simp at h
  · dsimp only at h
    rw [if_pos (show (if numbers = [] then MAX_FIRST_SUB_IDENTIFIER else MAX_ARC) < _ from
      hbound)] at h
    simp at h

theorem subIdentifiers_base128From {numbers : List Nat} {n : Nat} (hpos : 0 < n)
    (h : n ≤ nextBound numbers) (rest : Octets) :
    subIdentifiers numbers 0 true (base128From n rest) = subIdentifiers numbers n false rest := by
  induction n using Nat.strongRecOn generalizing rest with
  | ind n ih =>
    have hoctet := toNat_continuation n
    have hlong : LONG_FORM = 128 := rfl
    rw [base128From_pos hpos]
    by_cases hlast : n / 128 = 0
    · rw [hlast, base128From_zero, subIdentifiers_cons (by omega) (by omega), hoctet,
        if_neg (by omega)]
      congr 1
      omega
    · rw [ih (n / 128) (by omega) (by omega) (by omega),
        subIdentifiers_cons (by simp) (by omega), hoctet, if_neg (by omega)]
      congr 1
      omega

/-- **A sub-identifier reads back**, whatever follows it. -/
theorem subIdentifiers_base128 {numbers : List Nat} {n : Nat} (h : n ≤ nextBound numbers)
    (rest : Octets) :
    subIdentifiers numbers 0 true (base128 n ++ rest)
      = subIdentifiers (numbers ++ [n]) 0 true rest := by
  have hoctet := toNat_last n
  have hlong : LONG_FORM = 128 := rfl
  rw [base128, base128From_append, List.append_assoc, ← base128From_append, List.singleton_append]
  by_cases hshort : n / 128 = 0
  · rw [hshort, base128From_zero, subIdentifiers_cons (by omega) (by omega), hoctet,
      if_pos (by omega)]
    congr 3
    omega
  · rw [subIdentifiers_base128From (by omega) (by omega),
      subIdentifiers_cons (by simp) (by omega), hoctet, if_pos (by omega)]
    congr 3
    omega

/-- The numbers an identifier may hold. -/
structure NumbersFit (numbers : List Nat) : Prop where
  first : ∀ n ∈ numbers, n ≤ MAX_FIRST_SUB_IDENTIFIER
  rest : ∀ n ∈ numbers.tail, n ≤ MAX_ARC

theorem numbersFit_concat {numbers : List Nat} {n : Nat} (h : NumbersFit numbers)
    (hn : n ≤ nextBound numbers) : NumbersFit (numbers ++ [n]) := by
  have hmax : MAX_ARC ≤ MAX_FIRST_SUB_IDENTIFIER := by decide
  rcases numbers with _ | ⟨m, numbers⟩
  · refine ⟨?_, by simp⟩
    intro k hk
    rw [List.nil_append, List.mem_singleton] at hk
    subst hk
    exact hn
  · have hn : n ≤ MAX_ARC := hn
    refine ⟨?_, ?_⟩
    · intro k hk
      rcases List.mem_append.mp hk with hk | hk
      · exact h.first k hk
      · rw [List.mem_singleton.mp hk]
        omega
    · intro k hk
      rcases List.mem_append.mp hk with hk | hk
      · exact h.rest k hk
      · rwa [List.mem_singleton.mp hk]

theorem le_nextBound {before after : List Nat} {n : Nat} (h : NumbersFit (before ++ n :: after)) :
    n ≤ nextBound before := by
  rcases before with _ | ⟨m, before⟩
  · exact h.first n (by simp)
  · exact h.rest n (by simp)

/-- **The octets of a list of numbers read back.** -/
theorem subIdentifiers_flatMap {numbers : List Nat} :
    ∀ {before : List Nat}, NumbersFit (before ++ numbers) → (before ++ numbers).length < MAX_ARCS →
      subIdentifiers before 0 true (numbers.flatMap base128) = .ok (before ++ numbers) := by
  induction numbers with
  | nil =>
    intro before _ hlength
    rw [List.append_nil] at hlength ⊢
    rw [List.flatMap_nil, subIdentifiers, if_neg (by omega)]
  | cons n numbers ih =>
    intro before hfit hlength
    rw [List.append_cons] at hlength ⊢
    rw [List.flatMap_cons, subIdentifiers_base128 (le_nextBound hfit)]
    rw [List.append_cons] at hfit
    exact ih hfit hlength

theorem base128From_last {current : Nat} {octet : UInt8} (hend : octet.toNat < LONG_FORM) :
    base128 (current * 128 + octet.toNat % 128) = base128From current [] ++ [octet] := by
  have hlong : LONG_FORM = 128 := rfl
  have hone : UInt8.ofNat ((current * 128 + octet.toNat % 128) % 128) = octet := by
    rw [show (current * 128 + octet.toNat % 128) % 128 = octet.toNat by omega]
    exact UInt8.ofNat_toNat
  rw [base128, hone, show (current * 128 + octet.toNat % 128) / 128 = current by omega,
    base128From_append current [octet]]

theorem base128From_middle {current : Nat} {octet : UInt8} (hmiddle : ¬ octet.toNat < LONG_FORM)
    (hpos : 0 < current * 128 + octet.toNat % 128) :
    base128From (current * 128 + octet.toNat % 128) [] = base128From current [] ++ [octet] := by
  have hlong : LONG_FORM = 128 := rfl
  have hoctet : octet.toNat < 256 := octet.toNat_lt
  have hone : UInt8.ofNat (LONG_FORM + (current * 128 + octet.toNat % 128) % 128) = octet := by
    rw [show LONG_FORM + (current * 128 + octet.toNat % 128) % 128 = octet.toNat by omega]
    exact UInt8.ofNat_toNat
  rw [base128From_pos hpos, hone,
    show (current * 128 + octet.toNat % 128) / 128 = current by omega,
    base128From_append current [octet]]

/-- **What is read are the octets of the numbers**: an octet starts a number exactly
when none is being read, and the one being read has the octets `base128From` writes. -/
theorem subIdentifiers_ok : ∀ {body : Octets} {numbers found : List Nat} {current : Nat}
    {starting : Bool}, subIdentifiers numbers current starting body = .ok found →
    (starting = true ↔ current = 0) → NumbersFit numbers →
    (∀ last, body.getLast? = some last → last.toNat < LONG_FORM) →
    (body = [] → starting = true) →
    found.length < MAX_ARCS ∧ NumbersFit found ∧
      ∃ more, found = numbers ++ more ∧ base128From current [] ++ body = more.flatMap base128 := by
  intro body
  induction body with
  | nil =>
    intro numbers found current starting h hstart hfit _ hnil
    rw [subIdentifiers] at h
    split at h
    · simp at h
    · have hfound := Except.ok.inj h
      subst hfound
      have hzero := hstart.mp (hnil rfl)
      subst hzero
      exact ⟨by omega, hfit, [], by simp, by rw [base128From_zero]; rfl⟩
  | cons octet rest ih =>
    intro numbers found current starting h hstart hfit hlast _
    have hlong : LONG_FORM = 128 := rfl
    have hoctet : octet.toNat < 256 := octet.toNat_lt
    have hrest : ∀ last, rest.getLast? = some last → last.toNat < LONG_FORM := by
      intro last h
      apply hlast
      rw [List.getLast?_cons, h]
      rfl
    by_cases hpad : starting = true ∧ octet.toNat = LONG_FORM
    · rw [subIdentifiers, if_pos hpad] at h
      simp at h
    · by_cases hbound : current * 128 + octet.toNat % 128 ≤ nextBound numbers
      · rw [subIdentifiers_cons hpad hbound] at h
        by_cases hend : octet.toNat < LONG_FORM
        · rw [if_pos hend] at h
          obtain ⟨hlength, hfound, more, hmore, hoctets⟩ := ih h (by simp)
            (numbersFit_concat hfit hbound) hrest (fun _ => rfl)
          refine ⟨hlength, hfound, (current * 128 + octet.toNat % 128) :: more, ?_, ?_⟩
          · rw [hmore, List.append_assoc, List.singleton_append]
          · rw [base128From_zero, List.nil_append] at hoctets
            rw [List.flatMap_cons, ← hoctets, base128From_last hend, List.append_assoc]
            rfl
        · rw [if_neg hend] at h
          have hpos : 0 < current * 128 + octet.toNat % 128 := by
            by_cases hs : starting = true
            · have : octet.toNat ≠ LONG_FORM := fun he => hpad ⟨hs, he⟩
              omega
            · have : current ≠ 0 := fun he => hs (hstart.mpr he)
              omega
          have hmid : rest = [] → false = true := by
            intro hnil
            subst hnil
            exact absurd (hlast octet rfl) hend
          obtain ⟨hlength, hfound, more, hmore, hoctets⟩ := ih h
            ⟨fun hf => absurd hf (by decide), fun he => absurd he (by omega)⟩ hfit hrest hmid
          refine ⟨hlength, hfound, more, hmore, ?_⟩
          rw [base128From_middle hend hpos, List.append_assoc] at hoctets
          exact hoctets
      · exact absurd h (subIdentifiers_cons_ne_ok (Nat.not_le.mp hbound))

/-! ### Dotted text -/

/-- The arcs of an identifier, the first two of them in one number. -/
structure ArcsFit (first second : Nat) (rest : List Nat) : Prop where
  length : rest.length + 2 ≤ MAX_ARCS
  bounds : ∀ n ∈ first :: second :: rest, n ≤ MAX_ARC
  root : first ≤ LAST_ROOT_ARC
  second : first < LAST_ROOT_ARC → second < ARCS_PER_ROOT

theorem isArcText_decimal {n : Nat} (h : n ≤ MAX_ARC) : isArcText (decimal n) = true := by
  have hlength : (decimal n).length ≤ 10 := by
    rw [decimal, Nat.length_toDigits_le_iff (by decide) (by decide)]
    exact Nat.lt_of_le_of_lt h (by decide)
  have hpos : 1 ≤ (decimal n).length := Nat.length_toDigits_pos
  rw [isArcText, isDigit_decimal]
  simp [hpos, hlength]

/-- **Arcs that fit are written as their numbers.** -/
theorem encodeOid_dottedText {first second : Nat} {rest : List Nat}
    (h : ArcsFit first second rest) :
    encodeOid (dottedText (first :: second :: rest))
      = .ok (((ARCS_PER_ROOT * first + second) :: rest).flatMap base128) := by
  have hall : ((first :: second :: rest).map decimal).all isArcText = true := by
    rw [List.all_map, List.all_eq_true]
    intro n hn
    exact isArcText_decimal (h.bounds n hn)
  have hvalues : ((first :: second :: rest).map decimal).map decimalValue
      = first :: second :: rest := by
    rw [List.map_map]
    apply List.map_id''
    intro n
    exact decimalValue_decimal n
  have hbounds : ¬ (MAX_ARCS < (first :: second :: rest).length ∨
      (first :: second :: rest).any (MAX_ARC < ·) ∨ LAST_ROOT_ARC < first ∨
      (first < LAST_ROOT_ARC ∧ ARCS_PER_ROOT ≤ second)) := by
    rintro (hlength | hany | hroot | hsecond)
    · have := h.length
      rw [List.length_cons, List.length_cons] at hlength
      omega
    · obtain ⟨n, hn, hlt⟩ := List.any_eq_true.mp hany
      have := h.bounds n hn
      have : MAX_ARC < n := by simpa using hlt
      omega
    · have := h.root
      omega
    · have := h.second hsecond.1
      omega
  unfold encodeOid
  dsimp only
  rw [splitOn_dottedText (by simp), hall, if_neg (by simp), hvalues]
  dsimp only
  rw [if_neg hbounds, List.flatMap_cons]

theorem numbersFit_of_arcsFit {first second : Nat} {rest : List Nat}
    (h : ArcsFit first second rest) : NumbersFit ((ARCS_PER_ROOT * first + second) :: rest) := by
  have hroot : first ≤ 2 := h.root
  have hsecond : second ≤ MAX_ARC := h.bounds second (by simp)
  have hmax : MAX_FIRST_SUB_IDENTIFIER = 80 + MAX_ARC := rfl
  have hper : ARCS_PER_ROOT * first = 40 * first := rfl
  refine ⟨?_, ?_⟩
  · intro n hn
    rcases List.mem_cons.mp hn with rfl | hn
    · omega
    · have := h.bounds n (by simp [hn])
      omega
  · intro n hn
    exact h.bounds n (by simp [show n ∈ rest from hn])

theorem base128_ne_nil (n : Nat) : base128 n ≠ [] := by
  rw [base128, base128From_append]
  simp

theorem getLast?_flatMap_base128 {numbers : List Nat} {last : UInt8}
    (h : (numbers.flatMap base128).getLast? = some last) : last.toNat < LONG_FORM := by
  induction numbers using List.reverseRecOn with
  | nil => simp at h
  | append_singleton numbers n _ =>
    rw [List.flatMap_append, List.flatMap_singleton, base128, base128From_append,
      ← List.append_assoc, List.getLast?_concat] at h
    rw [← Option.some.inj h, toNat_last]
    exact Nat.mod_lt n (by decide)

theorem root_of_arcsFit {first second : Nat} {rest : List Nat} (h : ArcsFit first second rest) :
    min ((ARCS_PER_ROOT * first + second) / ARCS_PER_ROOT) LAST_ROOT_ARC = first := by
  have hroot : first ≤ 2 := h.root
  have hsecond : first < 2 → second < 40 := h.second
  show min ((40 * first + second) / 40) 2 = first
  omega

theorem decodeOid_flatMap {first second : Nat} {rest : List Nat}
    (h : ArcsFit first second rest) :
    decodeOid (((ARCS_PER_ROOT * first + second) :: rest).flatMap base128)
      = .ok (dottedText (first :: second :: rest)) := by
  have hread : subIdentifiers [] 0 true (((ARCS_PER_ROOT * first + second) :: rest).flatMap base128)
      = .ok ((ARCS_PER_ROOT * first + second) :: rest) := by
    apply subIdentifiers_flatMap (numbersFit_of_arcsFit h)
    have := h.length
    rw [List.nil_append, List.length_cons]
    omega
  obtain ⟨last, hlast⟩ : ∃ last,
      (((ARCS_PER_ROOT * first + second) :: rest).flatMap base128).getLast? = some last := by
    have hne : ((ARCS_PER_ROOT * first + second) :: rest).flatMap base128 ≠ [] := by
      rw [List.flatMap_cons]
      simp [base128_ne_nil]
    exact ⟨_, List.getLast?_eq_some_getLast hne⟩
  unfold decodeOid
  rw [hlast]
  dsimp only
  rw [if_neg (Nat.not_le.mpr (getLast?_flatMap_base128 hlast)), hread]
  dsimp only
  rw [root_of_arcsFit h, Nat.add_sub_cancel_left]
  rfl

/-- Whether a dotted text is written without leading zeros. -/
def hasNoLeadingZeros (dotted : Text) : Bool :=
  (dotted.splitOn '.').all fun arc => arc = ['0'] || arc.head? ≠ some '0'

/-- **A text that is accepted is cut into arcs that fit**, and written as their numbers. -/
theorem encodeOid_eq_ok {dotted : Text} {body : Octets} (h : encodeOid dotted = .ok body) :
    (dotted.splitOn '.').all isArcText = true ∧ ∃ first second rest,
      (dotted.splitOn '.').map decimalValue = first :: second :: rest ∧
      ArcsFit first second rest ∧
      body = ((ARCS_PER_ROOT * first + second) :: rest).flatMap base128 := by
  unfold encodeOid at h
  dsimp only at h
  split at h
  · simp at h
  · next hall =>
    refine ⟨by simpa using hall, ?_⟩
    split at h
    · next first second rest harcs =>
      split at h
      · simp at h
      · next hbounds =>
        rw [not_or, not_or, not_or] at hbounds
        obtain ⟨hlength, hany, hroot, hsecond⟩ := hbounds
        refine ⟨first, second, rest, harcs, ⟨?_, ?_, Nat.not_lt.mp hroot, ?_⟩, ?_⟩
        · rw [List.length_cons, List.length_cons] at hlength
          omega
        · intro n hn
          by_contra hlt
          exact hany (List.any_eq_true.mpr ⟨n, hn, by simpa using hlt⟩)
        · intro hlt
          by_contra hge
          exact hsecond ⟨hlt, Nat.not_lt.mp hge⟩
        · rw [List.flatMap_cons]
          exact (Except.ok.inj h).symm
    · simp at h

theorem isArcText_digits {t : Text} (h : isArcText t = true) :
    t.all Char.isDigit = true ∧ t ≠ [] := by
  rw [isArcText, Bool.and_eq_true, Bool.and_eq_true, decide_eq_true_iff] at h
  refine ⟨h.2, ?_⟩
  rintro rfl
  simp at h

/-- A text that is accepted, and has no leading zeros, is the dotted text of arcs that
fit. -/
theorem exists_arcsFit_of_encodeOid {dotted : Text} {body : Octets}
    (h : encodeOid dotted = .ok body) (hzero : hasNoLeadingZeros dotted = true) :
    ∃ first second rest, ArcsFit first second rest ∧
      dotted = dottedText (first :: second :: rest) := by
  obtain ⟨hall, first, second, rest, harcs, hfit, _⟩ := encodeOid_eq_ok h
  refine ⟨first, second, rest, hfit, ?_⟩
  have hpieces : ((dotted.splitOn '.').map decimalValue).map decimal = dotted.splitOn '.' := by
    rw [List.map_map]
    conv_rhs => rw [← List.map_id (dotted.splitOn '.')]
    apply List.map_congr_left
    intro piece hpiece
    obtain ⟨hdigits, hne⟩ := isArcText_digits (List.all_eq_true.mp hall piece hpiece)
    have hleading := List.all_eq_true.mp hzero piece hpiece
    exact decimal_decimalValue hdigits hne (by simpa using hleading)
  rw [dottedText, ← harcs, hpieces, List.intercalate_splitOn]

/-- **Dotted text reads back**: an identifier that can be written comes back as its
text, unless it has leading zeros. -/
theorem decodeOid_of_encodeOid {dotted : Text} {body : Octets} (h : encodeOid dotted = .ok body)
    (hzero : hasNoLeadingZeros dotted = true) : decodeOid body = .ok dotted := by
  obtain ⟨first, second, rest, hfit, rfl⟩ := exists_arcsFit_of_encodeOid h hzero
  have hbody := Except.ok.inj (h.symm.trans (encodeOid_dottedText hfit))
  rw [hbody]
  exact decodeOid_flatMap hfit

theorem hasNoLeadingZeros_dottedText {arcs : List Nat} (h : arcs ≠ []) :
    hasNoLeadingZeros (dottedText arcs) = true := by
  rw [hasNoLeadingZeros, splitOn_dottedText h, List.all_map, List.all_eq_true]
  intro n _
  simpa using decimal_eq_zero_or_head?_ne n

theorem arcsFit_of_numbersFit {first : Nat} {rest : List Nat} (h : NumbersFit (first :: rest))
    (hlength : (first :: rest).length < MAX_ARCS) :
    ArcsFit (min (first / ARCS_PER_ROOT) LAST_ROOT_ARC)
      (first - ARCS_PER_ROOT * min (first / ARCS_PER_ROOT) LAST_ROOT_ARC) rest := by
  have hfirst : first ≤ 80 + MAX_ARC := h.first first (by simp)
  have hforty : 40 ≤ MAX_ARC := by decide
  have hsecond : first - 40 * min (first / 40) 2 ≤ MAX_ARC := by omega
  have hroot : min (first / 40) 2 < 2 → first - 40 * min (first / 40) 2 < 40 := by omega
  refine ⟨?_, ?_, Nat.min_le_right _ _, hroot⟩
  · rw [List.length_cons] at hlength
    omega
  · intro n hn
    rcases List.mem_cons.mp hn with rfl | hn
    · exact Nat.le_trans (Nat.min_le_right _ _) (by decide)
    · rcases List.mem_cons.mp hn with rfl | hn
      · exact hsecond
      · exact h.rest n hn

/-- **Octets read back**: an identifier that is read is written as the same octets. -/
theorem encodeOid_of_decodeOid {body : Octets} {dotted : Text} (h : decodeOid body = .ok dotted) :
    encodeOid dotted = .ok body ∧ hasNoLeadingZeros dotted = true := by
  unfold decodeOid at h
  split at h
  · simp at h
  · next last hlast =>
    split at h
    · simp at h
    · next hend =>
      split at h
      · simp at h
      · simp at h
      · next first rest hread =>
        have hends : ∀ x, body.getLast? = some x → x.toNat < LONG_FORM := by
          intro x hx
          rw [hlast] at hx
          rw [← Option.some.inj hx]
          exact Nat.not_le.mp hend
        obtain ⟨hlength, hfit, more, hmore, hoctets⟩ := subIdentifiers_ok hread (by simp)
          ⟨by simp, by simp⟩ hends (fun _ => rfl)
        rw [base128From_zero, List.nil_append, ← List.nil_append more, ← hmore] at hoctets
        have hdotted : dotted = dottedText (min (first / ARCS_PER_ROOT) LAST_ROOT_ARC ::
            (first - ARCS_PER_ROOT * min (first / ARCS_PER_ROOT) LAST_ROOT_ARC) :: rest) :=
          (Except.ok.inj h).symm
        have hroot : ARCS_PER_ROOT * min (first / ARCS_PER_ROOT) LAST_ROOT_ARC ≤ first := by
          show 40 * min (first / 40) 2 ≤ first
          omega
        have hencode := encodeOid_dottedText (arcsFit_of_numbersFit hfit hlength)
        rw [Nat.add_sub_cancel' hroot, ← hoctets, ← hdotted] at hencode
        refine ⟨hencode, ?_⟩
        rw [hdotted]
        exact hasNoLeadingZeros_dottedText (by simp)

/-! ### The same identifiers -/

/-- A dotted text without the leading zeros of its arcs. -/
def withoutLeadingZeros (dotted : Text) : Text :=
  ['.'].intercalate ((dotted.splitOn '.').map dropLeadingZeros)

/-- The arcs of an identifier: two to 128 of them, and the first two fit in one number. -/
def IsIdentifier (arcs : List Nat) : Prop :=
  ∃ first second rest, arcs = first :: second :: rest ∧ ArcsFit first second rest

theorem dottedText_inj {arcs others : List Nat} (h : arcs ≠ []) (h' : others ≠ [])
    (heq : dottedText arcs = dottedText others) : arcs = others := by
  have hpieces := splitOn_dottedText h
  rw [heq, splitOn_dottedText h'] at hpieces
  have hvalues := congrArg (List.map decimalValue) hpieces
  rw [List.map_map, List.map_map] at hvalues
  have hid : decimalValue ∘ decimal = id := funext decimalValue_decimal
  rw [hid, List.map_id, List.map_id] at hvalues
  exact hvalues.symm

theorem encodeOid_nil : encodeOid (dottedText []) =
    .error [say "not an object identifier: ", .quoted (dottedText [])] := rfl

/-- **The text of arcs is accepted exactly when they are an identifier.** -/
theorem exists_encodeOid_iff (arcs : List Nat) :
    (∃ body, encodeOid (dottedText arcs) = .ok body) ↔ IsIdentifier arcs := by
  constructor
  · rintro ⟨body, h⟩
    by_cases hnil : arcs = []
    · rw [hnil, encodeOid_nil] at h
      simp at h
    · obtain ⟨first, second, rest, hfit, hdotted⟩ :=
        exists_arcsFit_of_encodeOid h (hasNoLeadingZeros_dottedText hnil)
      exact ⟨first, second, rest, dottedText_inj hnil (by simp) hdotted, hfit⟩
  · rintro ⟨first, second, rest, rfl, hfit⟩
    exact ⟨_, encodeOid_dottedText hfit⟩

/-- **Writing and reading undo each other**: a text comes back without the leading zeros of its
arcs, octets come back as they are, and the two accept the same identifiers. -/
theorem oid_codec :
    (∀ dotted body, encodeOid dotted = .ok body →
      decodeOid body = .ok (withoutLeadingZeros dotted)) ∧
    (∀ body dotted, decodeOid body = .ok dotted → encodeOid dotted = .ok body) ∧
    ∀ arcs, ((∃ body, encodeOid (dottedText arcs) = .ok body) ↔ IsIdentifier arcs) ∧
      ((∃ body, decodeOid body = .ok (dottedText arcs)) ↔ IsIdentifier arcs) := by
  refine ⟨?_, fun body dotted h => (encodeOid_of_decodeOid h).1, ?_⟩
  · intro dotted body h
    obtain ⟨hall, first, second, rest, harcs, hfit, rfl⟩ := encodeOid_eq_ok h
    rw [decodeOid_flatMap hfit, dottedText, ← harcs, withoutLeadingZeros, List.map_map]
    congr 2
    apply List.map_congr_left
    intro piece hpiece
    exact decimal_decimalValue_eq_dropLeadingZeros
      (isArcText_digits (List.all_eq_true.mp hall piece hpiece)).1
  · intro arcs
    refine ⟨exists_encodeOid_iff arcs, ?_⟩
    constructor
    · rintro ⟨body, h⟩
      exact (exists_encodeOid_iff arcs).mp ⟨body, (encodeOid_of_decodeOid h).1⟩
    · rintro ⟨first, second, rest, rfl, hfit⟩
      exact ⟨_, decodeOid_flatMap hfit⟩

end IPScout.Ber
