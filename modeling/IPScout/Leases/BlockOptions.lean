import IPScout.Leases.Blocks
import Mathlib.Data.List.Chain

/-!
# The options of a block

A statement `option key value;` is found in a block as its key and its value
(`head?_matchAt_optionText`), and statements after one another are found in order
(`findall_optionLines`).  Nothing in front of them is taken for one as long as no `n` in it is
followed by white space: the word `option` ends with an `n` (`search_append_of_quiet`).  A
block is for the interface it names first (`isFor_of_interface`).
-/

namespace IPScout.Leases

open Base Base.Text

/-! ### A statement -/

/-- A key and a value that a statement can be made of. -/
structure BlockOption where
  key : Text
  value : Text
  key_ne : key ≠ []
  key_letters : ∀ c ∈ key, isOptionLetter c = true
  value_ne : value ≠ []
  value_head : ∀ c ∈ value.head?, isSpace c = false
  value_plain : ';' ∉ value

/-- `option key value;`. -/
def BlockOption.render (o : BlockOption) : Text :=
  "option".toList ++ (' ' :: (o.key ++ ' ' :: (o.value ++ [';'])))

def optionLines (options : List BlockOption) : Text :=
  options.flatMap fun o => "\n  ".toList ++ o.render

theorem optionLetter_not_space {c : Char} (h : isOptionLetter c = true) : isSpace c = false := by
  rw [isOptionLetter, Bool.or_eq_true, Bool.or_eq_true] at h
  have hbounds : c.toNat = 45 ∨ 48 ≤ c.toNat ∧ c.toNat ≤ 57 ∨ 97 ≤ c.toNat ∧ c.toNat ≤ 122 := by
    rcases h with (h | h) | h
    · have hlower : (decide (c.val ≥ 'a'.val) && decide (c.val ≤ 'z'.val)) = true := h
      rw [Bool.and_eq_true, decide_eq_true_eq, decide_eq_true_eq] at hlower
      exact Or.inr (Or.inr ⟨hlower.1, hlower.2⟩)
    · rw [Char.isDigit, Bool.and_eq_true, decide_eq_true_eq, decide_eq_true_eq] at h
      exact Or.inr (Or.inl ⟨h.1, h.2⟩)
    · rw [beq_iff_eq.mp h]
      exact Or.inl rfl
  simp only [isSpace, Bool.or_eq_false_iff, Bool.and_eq_false_iff, decide_eq_false_iff_not,
    beq_eq_false_iff_ne]
  omega

theorem head?_matchAtoms_blank {s : Text} (hs : ∀ c ∈ s.head?, isSpace c = false) :
    (matchAtoms [.greedy 1 isSpace] ([' '] ++ s)).head? = some ([' '], s) :=
  head?_matchAtoms_singleton (head?_splits_greedy (by decide) hs (by decide))

namespace BlockOption

variable (o : BlockOption) (t : Text)

theorem render_append : o.render ++ t = "option".toList ++
    ([' '] ++ (o.key ++ ([' '] ++ (o.value ++ ';' :: t)))) := by
  have htail : (' ' :: (o.key ++ ' ' :: (o.value ++ [';']))) ++ t =
      [' '] ++ (o.key ++ ([' '] ++ (o.value ++ ';' :: t))) := by
    simp only [List.append_assoc, List.cons_append, List.nil_append]
  show ("option".toList ++ (' ' :: (o.key ++ ' ' :: (o.value ++ [';'])))) ++ t = _
  rw [List.append_assoc, htail]

theorem head?_key_append (s : Text) : ∀ c ∈ (o.key ++ s).head?, isSpace c = false := by
  obtain ⟨d, key, hd⟩ := List.exists_cons_of_ne_nil o.key_ne
  intro c hc
  rw [hd] at hc
  obtain rfl := Option.some.inj hc
  exact optionLetter_not_space (o.key_letters d (hd ▸ List.mem_cons_self))

theorem head?_value_append (s : Text) : ∀ c ∈ (o.value ++ s).head?, isSpace c = false := by
  obtain ⟨d, value, hd⟩ := List.exists_cons_of_ne_nil o.value_ne
  intro c hc
  apply o.value_head
  rw [hd] at hc ⊢
  exact hc

theorem head?_matchAtoms_key (s : Text) :
    (matchAtoms [.greedy 1 isOptionLetter] (o.key ++ ([' '] ++ s))).head? =
      some (o.key, [' '] ++ s) := by
  apply head?_matchAtoms_singleton
  apply head?_splits_greedy
  · exact List.all_eq_true.mpr o.key_letters
  · intro c hc
    rw [← Option.some.inj hc]
    rfl
  · exact List.length_pos_iff.mpr o.key_ne

theorem head?_matchAtoms_value :
    (matchAtoms [.greedy 1 (· != ';')] (o.value ++ ';' :: t)).head? = some (o.value, ';' :: t) := by
  apply head?_matchAtoms_singleton
  apply head?_splits_greedy
  · rw [List.all_eq_true]
    intro c hc
    rw [bne_iff_ne]
    rintro rfl
    exact o.value_plain hc
  · intro c hc
    rw [← Option.some.inj hc]
    rfl
  · exact List.length_pos_iff.mpr o.value_ne

end BlockOption

/-- **A statement is matched as its key and its value.** -/
theorem head?_matchAt_optionText (o : BlockOption) (t : Text) :
    (matchAt OPTION (o.render ++ t)).head? = some ([o.key, o.value], t) := by
  have hend : (matchAt [.skip [.one (· == ';')]] (';' :: t)).head? = some ([], t) :=
    head?_matchAt_skip (head?_matchAtoms_singleton (head?_splits_one rfl t)) rfl
  have hvalue : (matchAt [.skip [.greedy 1 isSpace], .group [.greedy 1 (· != ';')],
      .skip [.one (· == ';')]] ([' '] ++ (o.value ++ ';' :: t))).head? = some ([o.value], t) := by
    apply head?_matchAt_skip (head?_matchAtoms_blank (o.head?_value_append _))
    exact head?_matchAt_group (o.head?_matchAtoms_value t) hend
  rw [o.render_append t, OPTION]
  apply head?_matchAt_skip
    (head?_matchAtoms_literal (head?_matchAtoms_blank (o.head?_key_append _)))
  exact head?_matchAt_group (o.head?_matchAtoms_key _) hvalue

/-! ### What is in front -/

/-- No `n` is followed by white space. -/
def Quiet (s : Text) : Prop := s.IsChain fun a b => a = 'n' → isSpace b = false

theorem Quiet.not_append {u v : Text} {c : Char} (hc : isSpace c = true) :
    ¬Quiet (u ++ 'n' :: c :: v) := by
  intro h
  have hpair := List.isChain_cons_cons.mp (List.IsChain.right_of_append h)
  rw [hpair.1 rfl] at hc
  exact absurd hc (by decide)

theorem quiet_indent : Quiet "\n  ".toList := by
  rw [Quiet]
  decide

/-- What begins in front and ends with a character: it ends in front as well, or the character
comes soon after. -/
theorem isPrefix_or_mem_take {u v t r : Text} {c : Char} (hne : v ≠ [])
    (h : u ++ c :: r = v ++ t) : u ++ [c] <+: v ∨ c ∈ t.take u.length := by
  rw [List.append_cons] at h
  rcases List.append_eq_append_iff.mp h with ⟨v', hv', -⟩ | ⟨w, hw, rfl⟩
  · exact Or.inl ⟨v', hv'.symm⟩
  · by_cases hnil : w = []
    · rw [hnil, List.append_nil] at hw
      exact Or.inl (hw ▸ List.prefix_rfl)
    · right
      have hshort : w.length ≤ u.length := by
        have hsum := congrArg List.length hw
        have hpos := List.length_pos_iff.mpr hne
        rw [List.length_append, List.length_append, List.length_singleton] at hsum
        omega
      have hlast : w.getLast? = some c := by
        have hsame := congrArg List.getLast? hw
        rw [List.getLast?_concat, List.getLast?_append_of_ne_nil v hnil] at hsame
        exact hsame.symm
      rw [List.take_append, List.take_of_length_le hshort]
      exact List.mem_append_left _ (List.mem_of_getLast? hlast)

theorem matchAt_OPTION_eq_nil {v t : Text} (hne : v ≠ []) (hv : Quiet v)
    (ht : ∀ c ∈ t.take 6, isSpace c = false) : matchAt OPTION (v ++ t) = [] := by
  rw [OPTION, matchAt, matchAtoms_literal]
  by_cases hword : "option".toList <+: v ++ t
  · obtain ⟨s, hs⟩ := hword
    have hrest : matchAtoms [.greedy 1 isSpace] s = [] := by
      rw [List.eq_nil_iff_forall_not_mem]
      intro m hm
      rw [matchAtoms, List.mem_flatMap] at hm
      obtain ⟨x, hx, -⟩ := hm
      obtain ⟨hfront, hspace, hlong⟩ := mem_splits_greedy hx
      obtain ⟨c, rest, hc⟩ := List.exists_cons_of_ne_nil (List.length_pos_iff.mp hlong)
      have hblank : isSpace c = true :=
        List.all_eq_true.mp hspace c (hc ▸ List.mem_cons_self)
      have hboth : "option".toList ++ c :: (rest ++ x.2) = v ++ t := by
        rw [← hs, hfront, hc, List.cons_append]
      rcases isPrefix_or_mem_take hne hboth with ⟨v', rfl⟩ | hmem
      · rw [List.append_assoc] at hv
        exact Quiet.not_append (u := "optio".toList) (v := v') hblank hv
      · rw [ht c hmem] at hblank
        exact absurd hblank (by decide)
    rw [if_pos ⟨s, hs⟩, ← hs, List.drop_left, hrest]
    rfl
  · rw [if_neg hword]
    rfl

/-- **A front in which no `n` is followed by white space holds no statement.** -/
theorem search_append_of_quiet {s t : Text} (hs : Quiet s)
    (ht : ∀ c ∈ t.take 6, isSpace c = false) : search OPTION (s ++ t) = search OPTION t := by
  apply search_append_of_none
  rintro u v rfl hv
  exact matchAt_OPTION_eq_nil hv hs.right_of_append ht

theorem consuming_OPTION : Consuming OPTION := consuming_of_literal 'o' _ _ _

/-- **Statements after one another are found in order.** -/
theorem findall_optionLines {front : Text} (options : List BlockOption)
    (hfront : Quiet (front ++ "\n  ".toList)) :
    findall OPTION (front ++ (optionLines options ++ ['\n'])) =
      options.map fun o => [o.key, o.value] := by
  induction options generalizing front with
  | nil =>
    have hquiet : Quiet (front ++ ['\n']) := by
      have hsplit : front ++ "\n  ".toList = (front ++ ['\n']) ++ [' ', ' '] := by
        rw [List.append_assoc]
        rfl
      rw [hsplit] at hfront
      exact hfront.left_of_append
    have hnone := search_append_of_quiet (t := []) hquiet (by simp)
    rw [List.append_nil] at hnone
    exact findall_of_none (hnone.trans rfl)
  | cons o options ih =>
    have htext : front ++ (optionLines (o :: options) ++ ['\n']) =
        (front ++ "\n  ".toList) ++ (o.render ++ (optionLines options ++ ['\n'])) := by
      simp only [optionLines, List.flatMap_cons, List.append_assoc]
    have hword : ∀ c ∈ (o.render ++ (optionLines options ++ ['\n'])).take 6, isSpace c = false := by
      have htake : (o.render ++ (optionLines options ++ ['\n'])).take 6 = "option".toList := rfl
      rw [htake]
      decide
    rw [htext, consuming_OPTION.findall_congr (search_append_of_quiet hfront hword),
      consuming_OPTION.findall_of_search (search_of_head? (head?_matchAt_optionText o _)),
      List.map_cons]
    have hrest := @ih [] quiet_indent
    rw [List.nil_append] at hrest
    rw [hrest]

theorem optionsOf_optionLines {front : Text} (options : List BlockOption)
    (hfront : Quiet (front ++ "\n  ".toList)) :
    optionsOf (front ++ (optionLines options ++ ['\n'])) =
      Dict.ofPairs (options.map fun o => (o.key, strip o.value)) := by
  rw [optionsOf, findall_optionLines options hfront, List.filterMap_map]
  congr 1
  rw [← List.filterMap_eq_map]
  rfl

/-! ### The interface -/

theorem head?_matchAt_interface {name : Text} (hne : name ≠ []) (hname : '"' ∉ name)
    (rest : Text) :
    (matchAt INTERFACE ("interface".toList ++ ([' '] ++ '"' :: (name ++ '"' :: rest)))).head? =
      some ([name], rest) := by
  have hopen : (matchAtoms [.greedy 1 isSpace, .one (· == '"')]
      ([' '] ++ '"' :: (name ++ '"' :: rest))).head? =
      some ([' '] ++ ['"'], name ++ '"' :: rest) := by
    apply head?_matchAtoms_cons
    · apply head?_splits_greedy (by decide) _ (by decide)
      intro c hc
      rw [← Option.some.inj hc]
      rfl
    · exact head?_matchAtoms_singleton (head?_splits_one rfl _)
  have htaken : (matchAtoms [.greedy 1 (· != '"')] (name ++ '"' :: rest)).head? =
      some (name, '"' :: rest) := by
    apply head?_matchAtoms_singleton
    apply head?_splits_greedy
    · rw [List.all_eq_true]
      intro c hc
      rw [bne_iff_ne]
      rintro rfl
      exact hname hc
    · intro c hc
      rw [← Option.some.inj hc]
      rfl
    · exact List.length_pos_iff.mpr hne
  have hend : (matchAt [.skip [.one (· == '"')]] ('"' :: rest)).head? = some ([], rest) :=
    head?_matchAt_skip (head?_matchAtoms_singleton (head?_splits_one rfl rest)) rfl
  exact head?_matchAt_skip (head?_matchAtoms_literal hopen) (head?_matchAt_group htaken hend)

/-- **A block is for the interface it names first.** -/
theorem isFor_of_interface {front name : Text} (hfront : 'i' ∉ front) (hne : name ≠ [])
    (hname : '"' ∉ name) (rest : Text) :
    isFor (some name) (front ++ ("interface".toList ++
      ([' '] ++ '"' :: (name ++ '"' :: rest)))) = true := by
  have hpass : search INTERFACE (front ++ ("interface".toList ++
      ([' '] ++ '"' :: (name ++ '"' :: rest)))) = some ([name], rest) :=
    (search_append_of_notMem hfront _).trans
      (search_of_head? (head?_matchAt_interface hne hname rest))
  simp only [isFor, firstGroup, hpass, Option.bind_some, List.head?_cons, beq_self_eq_true]

end IPScout.Leases
