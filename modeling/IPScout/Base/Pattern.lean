import IPScout.Base.Text

/-!
# Patterns

The patterns a parser of text searches for: characters of a class, runs of a class that take
as much or as little as they can, and groups that are captured.  A match is tried as a
backtracking matcher tries it, so `matchAt` lists the ways to match in the order of
preference, and the first of them is the match.

`search` finds the first place where a pattern matches, and `findall` every place, from left
to right.  Both pass over a front in which the pattern matches nowhere
(`search_append_of_none`, `Consuming.findall_congr`).
-/

namespace IPScout.Base

/-! ### Patterns and their matches -/

/-- One character of a class, a run that is as long as it can be (and has some length at
least), or one that is as short as it can be. -/
inductive Atom
  | one (p : Char → Bool)
  | greedy (least : ℕ) (p : Char → Bool)
  | lazily (p : Char → Bool)

/-- Atoms to pass over, or to capture. -/
inductive Item
  | skip (as : List Atom)
  | group (as : List Atom)

abbrev Pattern := List Item

/-- The atoms of a text that is written out. -/
def literal (t : Text) : List Atom := t.map fun c => Atom.one (· == c)

/-- The ways to take a run of a class off a text, the shortest first. -/
def runs (p : Char → Bool) : Text → List (Text × Text)
  | [] => [([], [])]
  | c :: t => ([], c :: t) :: if p c then (runs p t).map fun m => (c :: m.1, m.2) else []

/-- The ways an atom takes a front off a text. -/
def Atom.splits : Atom → Text → List (Text × Text)
  | one _, [] => []
  | one p, c :: t => if p c then [([c], t)] else []
  | greedy least p, t => ((runs p t).filter fun m => least ≤ m.1.length).reverse
  | lazily p, t => runs p t

def matchAtoms : List Atom → Text → List (Text × Text)
  | [], t => [([], t)]
  | a :: as, t => (a.splits t).flatMap fun m => (matchAtoms as m.2).map fun n => (m.1 ++ n.1, n.2)

/-- The matches at the front of a text: what the groups capture, and the rest. -/
def matchAt : Pattern → Text → List (List Text × Text)
  | [], t => [([], t)]
  | .skip as :: p, t => (matchAtoms as t).flatMap fun m => matchAt p m.2
  | .group as :: p, t =>
    (matchAtoms as t).flatMap fun m => (matchAt p m.2).map fun n => (m.1 :: n.1, n.2)

def search (p : Pattern) : Text → Option (List Text × Text)
  | [] => (matchAt p []).head?
  | c :: t =>
    match (matchAt p (c :: t)).head? with
    | some m => some m
    | none => search p t

/-- What the groups capture in every match, of a pattern that takes a character at least. -/
def findall (p : Pattern) (t : Text) : List (List Text) :=
  match search p t with
  | none => []
  | some m => if m.2.length < t.length then m.1 :: findall p m.2 else [m.1]
termination_by t.length

/-- Every match replaced, from left to right, by what its groups are replaced with, of a pattern
that takes a character at least. -/
def sub {ε : Type} (p : Pattern) (repl : List Text → Except ε Text) : Text → Except ε Text
  | [] => .ok []
  | c :: t =>
    match (matchAt p (c :: t)).head? with
    | none => do
      let rest ← sub p repl t
      return c :: rest
    | some m => do
      let front ← repl m.1
      if m.2.length < (c :: t).length then do
        let rest ← sub p repl m.2
        return front ++ rest
      else return front
termination_by t => t.length
decreasing_by
  · simp
  · assumption

/-! ### What is taken -/

theorem mem_runs {p : Char → Bool} {t : Text} {m : Text × Text} (h : m ∈ runs p t) :
    t = m.1 ++ m.2 ∧ m.1.all p = true := by
  induction t generalizing m with
  | nil =>
    rw [runs, List.mem_singleton] at h
    subst h
    exact ⟨rfl, rfl⟩
  | cons c t ih =>
    rw [runs, List.mem_cons] at h
    rcases h with rfl | h
    · exact ⟨rfl, rfl⟩
    · split at h
      · next hc =>
        obtain ⟨n, hn, rfl⟩ := List.mem_map.mp h
        obtain ⟨ht, hall⟩ := ih hn
        refine ⟨?_, ?_⟩
        · rw [List.cons_append, ← ht]
        · rw [List.all_cons, hc, hall]
          rfl
      · simp at h

theorem mem_splits_one {p : Char → Bool} {t : Text} {m : Text × Text}
    (h : m ∈ (Atom.one p).splits t) : ∃ c, t = c :: m.2 ∧ m.1 = [c] ∧ p c = true := by
  cases t with
  | nil => simp [Atom.splits] at h
  | cons c t =>
    rw [Atom.splits] at h
    split at h
    · next hc =>
      rw [List.mem_singleton] at h
      subst h
      exact ⟨c, rfl, rfl, hc⟩
    · simp at h

theorem mem_splits_greedy {least : ℕ} {p : Char → Bool} {t : Text} {m : Text × Text}
    (h : m ∈ (Atom.greedy least p).splits t) :
    t = m.1 ++ m.2 ∧ m.1.all p = true ∧ least ≤ m.1.length := by
  rw [Atom.splits, List.mem_reverse, List.mem_filter, decide_eq_true_eq] at h
  exact ⟨(mem_runs h.1).1, (mem_runs h.1).2, h.2⟩

theorem matchAtoms_literal (l : Text) (as : List Atom) (t : Text) :
    matchAtoms (literal l ++ as) t =
      if l <+: t then (matchAtoms as (t.drop l.length)).map fun n => (l ++ n.1, n.2) else [] := by
  induction l generalizing t with
  | nil =>
    rw [if_pos List.nil_prefix]
    exact (List.map_id _).symm
  | cons c l ih =>
    rw [literal, List.map_cons, ← literal, List.cons_append, matchAtoms]
    cases t with
    | nil =>
      rw [if_neg (by simp)]
      rfl
    | cons d t =>
      rw [Atom.splits]
      by_cases hd : (d == c) = true
      · have hsame := beq_iff_eq.mp hd
        subst hsame
        rw [if_pos hd, List.flatMap_singleton, ih]
        by_cases hl : l <+: t
        · rw [if_pos hl, if_pos (List.cons_prefix_cons.mpr ⟨rfl, hl⟩), List.map_map]
          rfl
        · rw [if_neg hl, if_neg (fun h => hl (List.cons_prefix_cons.mp h).2)]
          rfl
      · rw [if_neg hd, if_neg (fun h => hd (beq_iff_eq.mpr (List.cons_prefix_cons.mp h).1.symm))]
        rfl

/-! ### The first match -/

theorem head?_flatMap_cons {α β : Type} {f : α → List β} {a : α} {l : List α} {b : β}
    (h : (f a).head? = some b) : ((a :: l).flatMap f).head? = some b := by
  rw [List.flatMap_cons, List.head?_append, h]
  rfl

theorem head?_flatMap {α β : Type} {f : α → List β} {l : List α} {a : α} {b : β}
    (hl : l.head? = some a) (h : (f a).head? = some b) : (l.flatMap f).head? = some b := by
  cases l with
  | nil => simp at hl
  | cons x l =>
    obtain rfl := Option.some.inj hl
    exact head?_flatMap_cons h

theorem head?_splits_one {p : Char → Bool} {c : Char} (hc : p c = true) (t : Text) :
    ((Atom.one p).splits (c :: t)).head? = some ([c], t) := by
  rw [Atom.splits, if_pos hc]
  rfl

theorem getLast?_runs {p : Char → Bool} {x t : Text} (hx : x.all p = true)
    (ht : ∀ c ∈ t.head?, p c = false) : (runs p (x ++ t)).getLast? = some (x, t) := by
  induction x with
  | nil =>
    cases t with
    | nil => rfl
    | cons c t =>
      have hc : p c = false := ht c rfl
      rw [List.nil_append, runs, if_neg (by rw [hc]; decide)]
      rfl
  | cons c x ih =>
    rw [List.all_cons, Bool.and_eq_true] at hx
    have hlast := ih hx.2
    rw [List.cons_append, runs, if_pos hx.1, List.getLast?_cons, List.getLast?_map, hlast]
    rfl

/-- **A run takes all it can**, if that is long enough. -/
theorem head?_splits_greedy {least : ℕ} {p : Char → Bool} {x t : Text} (hx : x.all p = true)
    (ht : ∀ c ∈ t.head?, p c = false) (hleast : least ≤ x.length) :
    ((Atom.greedy least p).splits (x ++ t)).head? = some (x, t) := by
  have hlast := getLast?_runs hx ht
  rw [Atom.splits, List.head?_reverse]
  obtain ⟨front, hfront⟩ := List.getLast?_eq_some_iff.mp hlast
  have hkept : [(x, t)].filter (fun m => decide (least ≤ m.1.length)) = [(x, t)] := by
    simp [hleast]
  rw [hfront, List.filter_append, hkept, List.getLast?_concat]

theorem head?_matchAtoms_cons {a : Atom} {as : List Atom} {t x r y r' : Text}
    (ha : (a.splits t).head? = some (x, r)) (h : (matchAtoms as r).head? = some (y, r')) :
    (matchAtoms (a :: as) t).head? = some (x ++ y, r') := by
  rw [matchAtoms]
  apply head?_flatMap ha
  rw [List.head?_map, h]
  rfl

theorem head?_matchAtoms_singleton {a : Atom} {t x r : Text}
    (ha : (a.splits t).head? = some (x, r)) : (matchAtoms [a] t).head? = some (x, r) := by
  have h := @head?_matchAtoms_cons a [] t x r [] r ha rfl
  rwa [List.append_nil] at h

theorem head?_matchAtoms_literal {l : Text} {as : List Atom} {t x r : Text}
    (h : (matchAtoms as t).head? = some (x, r)) :
    (matchAtoms (literal l ++ as) (l ++ t)).head? = some (l ++ x, r) := by
  rw [matchAtoms_literal, if_pos (List.prefix_append l t), List.drop_left, List.head?_map, h]
  rfl

theorem head?_matchAt_skip {as : List Atom} {p : Pattern} {t x r : Text} {m : List Text × Text}
    (has : (matchAtoms as t).head? = some (x, r)) (h : (matchAt p r).head? = some m) :
    (matchAt (.skip as :: p) t).head? = some m := by
  rw [matchAt]
  exact head?_flatMap has h

theorem head?_matchAt_group {as : List Atom} {p : Pattern} {t x r : Text} {m : List Text × Text}
    (has : (matchAtoms as t).head? = some (x, r)) (h : (matchAt p r).head? = some m) :
    (matchAt (.group as :: p) t).head? = some (x :: m.1, m.2) := by
  rw [matchAt]
  apply head?_flatMap has
  rw [List.head?_map, h]
  rfl

/-- **A run that takes as little as it can ends where what follows it first matches.** -/
theorem head?_matchAt_lazily {p q : Char → Bool} {x : Text} (hp : x.all p = true)
    (hq : ∀ c ∈ x, q c = false) {c : Char} (hc : q c = true) (t : Text) :
    (matchAt [.group [.lazily p], .skip [.one q]] (x ++ c :: t)).head? = some ([x], t) := by
  have hstop : ∀ t, matchAt [.skip [.one q]] (c :: t) = [([], t)] := by
    intro t
    rw [matchAt, matchAtoms, Atom.splits, if_pos hc]
    rfl
  have hgo : ∀ {d : Char} (t : Text), q d = false → matchAt [.skip [.one q]] (d :: t) = [] := by
    intro d t hd
    rw [matchAt, matchAtoms, Atom.splits, if_neg (by rw [hd]; decide)]
    rfl
  -- the matches are those of the rest of each run
  have hmatch : ∀ t, matchAt [.group [.lazily p], .skip [.one q]] t =
      (runs p t).flatMap fun m =>
        (matchAt [.skip [.one q]] m.2).map fun n => (m.1 :: n.1, n.2) := by
    intro t
    rw [matchAt, matchAtoms, Atom.splits]
    simp only [matchAtoms, List.map_cons, List.map_nil, List.append_nil]
    rw [List.flatMap_assoc]
    simp only [List.flatMap_singleton]
  rw [hmatch]
  induction x with
  | nil =>
    rw [List.nil_append, runs]
    apply head?_flatMap_cons
    rw [hstop]
    rfl
  | cons d x ih =>
    rw [List.all_cons, Bool.and_eq_true] at hp
    rw [List.forall_mem_cons] at hq
    have hrest := ih hp.2 hq.2
    rw [List.cons_append, runs, List.flatMap_cons, hgo _ hq.1, List.map_nil, List.nil_append,
      if_pos hp.1]
    have hlonger : (((runs p (x ++ c :: t)).map fun m => (d :: m.1, m.2)).flatMap fun m =>
        (matchAt [.skip [.one q]] m.2).map fun n => (m.1 :: n.1, n.2)) =
        ((runs p (x ++ c :: t)).flatMap fun m =>
          (matchAt [.skip [.one q]] m.2).map fun n => (m.1 :: n.1, n.2)).map fun n =>
            (n.1.modifyHead (d :: ·), n.2) := by
      rw [List.flatMap_map, List.map_flatMap]
      simp only [List.map_map]
      rfl
    rw [hlonger, List.head?_map, hrest]
    rfl

/-! ### Searching -/

theorem search_of_head? {p : Pattern} {t : Text} {m : List Text × Text}
    (h : (matchAt p t).head? = some m) : search p t = some m := by
  cases t with
  | nil => exact h
  | cons c t => rw [search, h]

theorem search_append_of_none {p : Pattern} {s t : Text}
    (h : ∀ u v, s = u ++ v → v ≠ [] → matchAt p (v ++ t) = []) :
    search p (s ++ t) = search p t := by
  induction s with
  | nil => rfl
  | cons c s ih =>
    have hfirst := h [] (c :: s) rfl (List.cons_ne_nil c s)
    rw [List.cons_append] at hfirst
    rw [List.cons_append, search, hfirst]
    exact ih fun u v hs hv => h (c :: u) v (by rw [hs, List.cons_append]) hv

/-- A front without the character every match begins with is passed over. -/
theorem search_append_of_notMem {c : Char} {l : Text} {as : List Atom} {p : Pattern} {s : Text}
    (hs : c ∉ s) (t : Text) : search (.skip (literal (c :: l) ++ as) :: p) (s ++ t) =
      search (.skip (literal (c :: l) ++ as) :: p) t := by
  apply search_append_of_none
  intro u v hsplit hv
  obtain ⟨d, v, rfl⟩ := List.exists_cons_of_ne_nil hv
  have hd : c ≠ d := by
    rintro rfl
    exact hs (hsplit ▸ List.mem_append_right u List.mem_cons_self)
  rw [matchAt, matchAtoms_literal, List.cons_append,
    if_neg (fun h => hd (List.cons_prefix_cons.mp h).1)]
  rfl

/-! ### Every match -/

/-- A match takes a character at least. -/
def Consuming (p : Pattern) : Prop := ∀ t, ∀ m ∈ matchAt p t, m.2.length < t.length

theorem length_le_of_mem_splits {a : Atom} {t : Text} {m : Text × Text} (h : m ∈ a.splits t) :
    m.2.length ≤ t.length := by
  have happend : ∃ s, t = s ++ m.2 := by
    cases a with
    | one p =>
      obtain ⟨c, ht, -, -⟩ := mem_splits_one h
      exact ⟨[c], ht⟩
    | greedy least p => exact ⟨m.1, (mem_splits_greedy h).1⟩
    | lazily p => exact ⟨m.1, (mem_runs h).1⟩
  obtain ⟨s, hs⟩ := happend
  rw [hs, List.length_append]
  omega

theorem length_le_of_mem_matchAtoms {as : List Atom} {t : Text} {m : Text × Text}
    (h : m ∈ matchAtoms as t) : m.2.length ≤ t.length := by
  induction as generalizing t m with
  | nil =>
    rw [matchAtoms, List.mem_singleton] at h
    rw [h]
  | cons a as ih =>
    rw [matchAtoms, List.mem_flatMap] at h
    obtain ⟨x, hx, hm⟩ := h
    obtain ⟨n, hn, rfl⟩ := List.mem_map.mp hm
    exact (ih hn).trans (length_le_of_mem_splits hx)

theorem length_le_of_mem_matchAt {p : Pattern} {t : Text} {m : List Text × Text}
    (h : m ∈ matchAt p t) : m.2.length ≤ t.length := by
  induction p generalizing t m with
  | nil =>
    rw [matchAt, List.mem_singleton] at h
    rw [h]
  | cons item p ih =>
    cases item with
    | skip as =>
      rw [matchAt, List.mem_flatMap] at h
      obtain ⟨x, hx, hm⟩ := h
      exact (ih hm).trans (length_le_of_mem_matchAtoms hx)
    | group as =>
      rw [matchAt, List.mem_flatMap] at h
      obtain ⟨x, hx, hm⟩ := h
      obtain ⟨n, hn, rfl⟩ := List.mem_map.mp hm
      exact (ih hn).trans (length_le_of_mem_matchAtoms hx)

theorem consuming_of_literal (c : Char) (l : Text) (as : List Atom) (p : Pattern) :
    Consuming (.skip (literal (c :: l) ++ as) :: p) := by
  intro t m h
  rw [matchAt, List.mem_flatMap] at h
  obtain ⟨x, hx, hm⟩ := h
  have hrest := length_le_of_mem_matchAt hm
  rw [literal, List.map_cons, ← literal, List.cons_append, matchAtoms, List.mem_flatMap] at hx
  obtain ⟨y, hy, hx⟩ := hx
  obtain ⟨d, ht, -, -⟩ := mem_splits_one hy
  obtain ⟨n, hn, rfl⟩ := List.mem_map.mp hx
  have hatoms := length_le_of_mem_matchAtoms hn
  rw [ht, List.length_cons]
  dsimp only at hrest
  omega

theorem Consuming.length_lt_of_search {p : Pattern} (hp : Consuming p) {t : Text}
    {m : List Text × Text} (h : search p t = some m) : m.2.length < t.length := by
  induction t with
  | nil =>
    rw [search] at h
    exact hp [] m (List.mem_of_mem_head? h)
  | cons c t ih =>
    rw [search] at h
    split at h
    · next first hfirst =>
      obtain rfl := Option.some.inj h
      exact hp (c :: t) first (List.mem_of_mem_head? hfirst)
    · have hlt := ih h
      rw [List.length_cons]
      omega

theorem findall_of_none {p : Pattern} {t : Text} (h : search p t = none) : findall p t = [] := by
  rw [findall, h]

theorem Consuming.findall_of_search {p : Pattern} (hp : Consuming p) {t rest : Text}
    {caps : List Text} (h : search p t = some (caps, rest)) :
    findall p t = caps :: findall p rest := by
  rw [findall, h]
  dsimp only
  rw [if_pos (hp.length_lt_of_search h)]

/-- **A front in which nothing matches adds nothing.** -/
theorem Consuming.findall_congr {p : Pattern} (hp : Consuming p) {s t : Text}
    (h : search p s = search p t) : findall p s = findall p t := by
  cases hsearch : search p t with
  | none => rw [findall_of_none (h.trans hsearch), findall_of_none hsearch]
  | some m => rw [hp.findall_of_search (h.trans hsearch), hp.findall_of_search hsearch]

/-! ### Replacing every match -/

theorem sub_cons_of_none {ε : Type} {p : Pattern} {c : Char} {t : Text}
    (h : matchAt p (c :: t) = []) (repl : List Text → Except ε Text) :
    sub p repl (c :: t) = (sub p repl t).map (c :: ·) := by
  rw [sub, h]
  rfl

/-- **A match is replaced, and what follows it is gone through.** -/
theorem Consuming.sub_of_head? {ε : Type} {p : Pattern} (hp : Consuming p) {t : Text}
    {m : List Text × Text} (h : (matchAt p t).head? = some m)
    (repl : List Text → Except ε Text) :
    sub p repl t = (repl m.1).bind fun front => (sub p repl m.2).map (front ++ ·) := by
  have hlt := hp t m (List.mem_of_mem_head? h)
  cases t with
  | nil => simp at hlt
  | cons c t =>
    rw [sub, h]
    simp only [if_pos hlt]
    rfl

end IPScout.Base
