import IPScout.Scan.Find

/-!
# How a sweep divides its candidates

`SweepScope.from_networks` takes the candidates in the order given and keeps a running
budget.  What becomes of each is a mark at its position: it is covered exactly when
what is covered before it leaves room for all of it (`IsGreedySplit`).

The division keeps the order on both sides and loses no candidate, it is complete exactly
when the candidates fit the limit together, and the validation of the model has nothing
to refuse in it (`fromNetworks_spec`).
-/

namespace IPScout

open Base Base.Text

/-! ### Divisions -/

section Division

variable {α : Type}

/-- The elements of a list at the positions that are marked. -/
def chosen : List Bool → List α → List α
  | mark :: marks, x :: rest => if mark then x :: chosen marks rest else chosen marks rest
  | _, _ => []

/-- A division of a list under a budget: every element is covered, where what is covered
before it leaves room for it, or else skipped. -/
def IsGreedySplit (size : α → ℕ) (budget : ℤ) (l covered skipped : List α) : Prop :=
  ∃ marks : List Bool, marks.length = l.length ∧ covered = chosen marks l ∧
    skipped = chosen (marks.map not) l ∧
    ∀ i x, l[i]? = some x → (marks[i]? = some true ↔
      (((chosen marks (l.take i)).map size).sum : ℤ) + size x ≤ budget)

theorem chosen_sublist (marks : List Bool) (l : List α) : (chosen marks l).Sublist l := by
  induction l generalizing marks with
  | nil => cases marks <;> exact List.Sublist.refl _
  | cons x rest ih =>
    cases marks with
    | nil => exact List.nil_sublist _
    | cons mark marks =>
      rw [chosen]
      split
      · exact (ih marks).cons_cons x
      · exact (ih marks).cons x

/-- **What is marked and what is not are together the list.** -/
theorem chosen_append_perm {marks : List Bool} {l : List α} (h : marks.length = l.length) :
    (chosen marks l ++ chosen (marks.map not) l).Perm l := by
  induction l generalizing marks with
  | nil =>
    obtain rfl := List.length_eq_zero_iff.mp h
    exact List.Perm.refl _
  | cons x rest ih =>
    cases marks with
    | nil => simp at h
    | cons mark marks =>
      have hrest := ih (Nat.succ.inj h)
      cases mark with
      | true => exact hrest.cons x
      | false => exact List.perm_middle.trans (hrest.cons x)

namespace IsGreedySplit

variable {size : α → ℕ} {budget : ℤ} {l covered skipped : List α}

/-- Both sides of a division keep the order, and together they are the list. -/
theorem partition (h : IsGreedySplit size budget l covered skipped) :
    covered.Sublist l ∧ skipped.Sublist l ∧ (covered ++ skipped).Perm l := by
  obtain ⟨marks, hlength, rfl, rfl, _⟩ := h
  exact ⟨chosen_sublist _ l, chosen_sublist _ l, chosen_append_perm hlength⟩

/-- The first element is covered when the budget has room for it. -/
theorem cover {x : α} (hx : size x ≤ budget)
    (h : IsGreedySplit size (budget - size x) l covered skipped) :
    IsGreedySplit size budget (x :: l) (x :: covered) skipped := by
  obtain ⟨marks, hlength, rfl, rfl, hmarks⟩ := h
  refine ⟨true :: marks, congrArg Nat.succ hlength, rfl, rfl, ?_⟩
  intro i y hy
  cases i with
  | zero =>
    obtain rfl := Option.some.inj hy
    simpa [chosen] using hx
  | succ i =>
    rw [List.getElem?_cons_succ, hmarks i y hy]
    show _ ↔ (((x :: chosen marks (l.take i)).map size).sum : ℤ) + size y ≤ budget
    rw [List.map_cons, List.sum_cons]
    push_cast
    omega

theorem skip {x : α} (hx : ¬ size x ≤ budget)
    (h : IsGreedySplit size budget l covered skipped) :
    IsGreedySplit size budget (x :: l) covered (x :: skipped) := by
  obtain ⟨marks, hlength, rfl, rfl, hmarks⟩ := h
  refine ⟨false :: marks, congrArg Nat.succ hlength, rfl, rfl, ?_⟩
  intro i y hy
  cases i with
  | zero =>
    obtain rfl := Option.some.inj hy
    simpa [chosen] using hx
  | succ i =>
    rw [List.getElem?_cons_succ, hmarks i y hy]
    rfl

end IsGreedySplit

/-- **`divide` is the division under its budget.** -/
theorem isGreedySplit_divide (size : α → ℕ) (room : ℤ) (l : List α) :
    IsGreedySplit size room l (divide size room l).1 (divide size room l).2 := by
  induction l generalizing room with
  | nil => exact ⟨[], rfl, rfl, rfl, fun i x hx => by simp at hx⟩
  | cons x rest ih =>
    rw [divide]
    split
    · next hroom => exact (ih (room - size x)).cover hroom
    · next hroom => exact (ih room).skip hroom

theorem divide_skips_nothing_iff (size : α → ℕ) {room : ℤ} (h : 0 ≤ room) (l : List α) :
    (divide size room l).2 = [] ↔ ((l.map size).sum : ℤ) ≤ room := by
  have hsum := sum_divide_le size room l h
  have hperm := (isGreedySplit_divide size room l).partition.2.2
  constructor
  · intro hnone
    rw [hnone, List.append_nil] at hperm
    rwa [← (hperm.map size).sum_nat]
  · intro hfits
    clear hsum hperm
    induction l generalizing room with
    | nil => rfl
    | cons x rest ih =>
      rw [List.map_cons, List.sum_cons] at hfits
      rw [divide, if_pos (by omega)]
      have hrest : 0 ≤ room - size x := by omega
      exact ih hrest (by omega)

end Division

/-! ### Scopes -/

/-- `SweepScope(...)`: its field's bound and `_networks_fit_the_limit`. -/
def SweepScope.make (limit : ℤ) (networks skipped : List IPNetwork) : Except PyError SweepScope :=
  if hlimit : 1 ≤ limit then
    let covered := (networks.map IPNetwork.numAddresses).sum
    if hfits : (covered : ℤ) ≤ limit then
      .ok ⟨limit.toNat, networks, skipped, by omega, by omega⟩
    else
      .error (.value [say "networks cover ", .text (decimal covered),
        say " addresses, more than the limit of ", .text (decimalInt limit)])
  else .error (.value [say "limit: Input should be greater than or equal to 1"])

def SweepScope.complete (scope : SweepScope) : Bool := scope.skipped.isEmpty

def refuseAPartialScope (scope : SweepScope) : Except PyError Unit :=
  if scope.skipped = [] then .ok ()
  else .error (tooWide (scope.networks ++ scope.skipped) scope.limit)

theorem make_divide {networks : List IPNetwork} {limit : ℤ} (hlimit : 1 ≤ limit) :
    ∃ scope, SweepScope.make limit (divide IPNetwork.numAddresses limit networks).1
        (divide IPNetwork.numAddresses limit networks).2 = .ok scope ∧
      scope.limit = limit ∧
      scope.networks = (divide IPNetwork.numAddresses limit networks).1 ∧
      scope.skipped = (divide IPNetwork.numAddresses limit networks).2 := by
  have hfits := sum_divide_le IPNetwork.numAddresses limit networks (by omega)
  rw [SweepScope.make, dif_pos hlimit]
  dsimp only
  rw [dif_pos hfits]
  exact ⟨_, rfl, Int.toNat_of_nonneg (by omega), rfl, rfl⟩

/-- **A scope divides the networks asked for**: both sides keep their order and together are
what was asked for, each network is covered exactly when what is covered before it leaves
room for it, so what is covered fits the limit; it is complete, and not refused as partial,
exactly when all of it fits; and the model's validation accepts it. -/
theorem fromNetworks_spec {candidates : List Candidate} {networks : List IPNetwork} {limit : ℤ}
    (hread : candidates.mapM Candidate.read = .ok networks) (hlimit : 1 ≤ limit) :
    ∃ scope, SweepScope.fromNetworks candidates limit = .ok scope ∧ scope.limit = limit ∧
      IsGreedySplit IPNetwork.numAddresses limit networks scope.networks scope.skipped ∧
      (scope.networks.Sublist networks ∧ scope.skipped.Sublist networks ∧
        (scope.networks ++ scope.skipped).Perm networks) ∧
      ((scope.networks.map IPNetwork.numAddresses).sum : ℤ) ≤ limit ∧
      (scope.complete = true ↔ ((networks.map IPNetwork.numAddresses).sum : ℤ) ≤ limit) ∧
      (refuseAPartialScope scope = .ok () ↔ scope.complete = true) ∧
      SweepScope.make limit scope.networks scope.skipped = .ok scope := by
  have hsplit := isGreedySplit_divide IPNetwork.numAddresses limit networks
  have hnothing := divide_skips_nothing_iff IPNetwork.numAddresses
    (show 0 ≤ limit by omega) networks
  obtain ⟨scope, hmake, hscope, hnetworks, hskipped⟩ := @make_divide networks limit hlimit
  have hbuilt : SweepScope.fromNetworks candidates limit = .ok scope := by
    rw [SweepScope.fromNetworks, hread, ← hmake, SweepScope.make]
    have hfits := sum_divide_le IPNetwork.numAddresses limit networks (by omega)
    show (if h : 1 ≤ limit then _ else _) = _
    rw [dif_pos hlimit, dif_pos hlimit]
    dsimp only
    rw [dif_pos hfits]
  rw [← hnetworks, ← hskipped] at hsplit hmake
  rw [← hskipped] at hnothing
  refine ⟨scope, hbuilt, hscope, hsplit, hsplit.partition, ?_, ?_, ?_, hmake⟩
  · rw [← hscope]
    exact Int.ofNat_le.mpr scope.fits
  · rw [SweepScope.complete, List.isEmpty_iff, hnothing]
  · rw [refuseAPartialScope, SweepScope.complete, List.isEmpty_iff]
    by_cases hnone : scope.skipped = []
    · rw [if_pos hnone]
      exact ⟨fun _ => hnone, fun _ => rfl⟩
    · rw [if_neg hnone]
      constructor
      · intro h
        simp at h
      · intro h
        exact absurd h hnone

/-- A network of IPv4 that takes the whole limit, one of IPv6 and the first once more. -/
theorem fromNetworks_spec_of_both_families :
    let wide : IPNetwork := .v4 ⟨0x0a000000, 20, by decide, by decide⟩
    let linkLocal : IPNetwork := .v6 ⟨⟨0xfe80 <<< 112, none⟩, 64, by decide, by decide +kernel,
      fun _ h => by simp at h⟩
    ∃ scope, SweepScope.fromNetworks [.network wide, .network linkLocal, .network wide] 4096 =
        .ok scope ∧
      IsGreedySplit IPNetwork.numAddresses 4096 [wide, linkLocal, wide] scope.networks
        scope.skipped := by
  intro wide linkLocal
  obtain ⟨scope, hbuilt, _, hsplit, _⟩ := fromNetworks_spec
    (show [.network wide, .network linkLocal, .network wide].mapM Candidate.read =
      .ok [wide, linkLocal, wide] from rfl) (show (1 : ℤ) ≤ 4096 by decide)
  exact ⟨scope, hbuilt, hsplit⟩

end IPScout
