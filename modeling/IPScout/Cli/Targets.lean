import IPScout.Scan.Split

/-!
# The hosts of a command

A command takes hosts and networks, mixed.  `_hosts_and_networks` of `cli.py` reads the networks
in one pass and puts their hosts in place in another, from an iterator: the networks and the
items with a `/` have to keep step.  They do, because a scope that is not refused has a network
for each of them in their order, so the iterator never runs out (`expand_networksOf`).
-/

namespace IPScout

open Base Base.Text

/-- What `_hosts_and_networks` raises: what a call of it raises, or the `StopIteration` of an
iterator that ran out. -/
inductive TargetError
  | raised (e : PyError)
  | stopIteration
  deriving DecidableEq

def candidatesOf (items : List Text) : List Candidate :=
  (items.filter fun item => '/' ∈ item).map .text

/-- The second pass over the items, with the networks that the iterator still has. -/
def expand : List Text → List IPNetwork → Except TargetError (List Text)
  | [], _ => .ok []
  | item :: items, expanded =>
    if '/' ∈ item then
      match expanded with
      | [] => .error .stopIteration
      | network :: rest => do
        let hosts ← expand items rest
        return network.hosts.map IPAddress.text ++ hosts
    else do
      let hosts ← expand items expanded
      return item :: hosts

def hostsAndNetworks (items : List Text) : Except TargetError (List Text) := do
  let scope ← (SweepScope.fromNetworks (candidatesOf items) MAX_SWEEP_HOSTS).mapError .raised
  (refuseAPartialScope scope).mapError .raised
  expand items scope.networks

/-! ### What is asked for -/

/-- The hosts an item is for: those of its network, or the item as it is. -/
def hostsOfItem (item : Text) : List Text :=
  if '/' ∈ item then ((ipNetwork item).map fun n => n.hosts.map IPAddress.text).getD []
  else [item]

/-- The networks of the items that have a `/`. -/
def networksOf (items : List Text) : List IPNetwork :=
  (items.filter fun item => '/' ∈ item).filterMap ipNetwork

/-- Items with a `/` are networks, and together the networks fit what one sweep covers. -/
structure FitsASweep (items : List Text) : Prop where
  networks : ∀ item ∈ items, '/' ∈ item → ∃ n, ipNetwork item = some n
  fits : (((networksOf items).map IPNetwork.numAddresses).sum : ℤ) ≤ MAX_SWEEP_HOSTS

theorem networksOf_cons_of_mem {item : Text} (hslash : '/' ∈ item) {n : IPNetwork}
    (hn : ipNetwork item = some n) (items : List Text) :
    networksOf (item :: items) = n :: networksOf items := by
  rw [networksOf, List.filter_cons_of_pos (by simpa using hslash),
    List.filterMap_cons_some hn, ← networksOf]

theorem networksOf_cons_of_notMem {item : Text} (hslash : '/' ∉ item) (items : List Text) :
    networksOf (item :: items) = networksOf items := by
  rw [networksOf, List.filter_cons_of_neg (by simpa using hslash), ← networksOf]

/-- **The two passes keep step**: with a network for each item that has a `/`, each item is
expanded in its place. -/
theorem expand_networksOf {items : List Text}
    (h : ∀ item ∈ items, '/' ∈ item → ∃ n, ipNetwork item = some n) :
    expand items (networksOf items) = .ok (items.flatMap hostsOfItem) := by
  induction items with
  | nil => rfl
  | cons item items ih =>
    have hrest := ih fun item hitem => h item (List.mem_cons_of_mem _ hitem)
    by_cases hslash : '/' ∈ item
    · obtain ⟨n, hn⟩ := h item List.mem_cons_self hslash
      rw [networksOf_cons_of_mem hslash hn, expand, if_pos hslash, hrest, List.flatMap_cons,
        hostsOfItem, if_pos hslash, hn]
      rfl
    · unfold expand
      rw [networksOf_cons_of_notMem hslash, if_neg hslash, hrest, List.flatMap_cons, hostsOfItem,
        if_neg hslash]
      rfl

/-! ### Scopes of items -/

theorem mem_candidatesOf {items : List Text} {c : Candidate} :
    c ∈ candidatesOf items ↔ ∃ item ∈ items, '/' ∈ item ∧ c = .text item := by
  rw [candidatesOf, List.mem_map]
  constructor
  · rintro ⟨item, hitem, rfl⟩
    rw [List.mem_filter, decide_eq_true_eq] at hitem
    exact ⟨item, hitem.1, hitem.2, rfl⟩
  · rintro ⟨item, hitem, hslash, rfl⟩
    exact ⟨item, List.mem_filter.mpr ⟨hitem, decide_eq_true hslash⟩, rfl⟩

theorem Candidate.read_text_of_some {t : Text} {n : IPNetwork} (h : ipNetwork t = some n) :
    (text t).read = .ok n := by
  rw [read, h]

theorem Candidate.read_text_of_none {t : Text} (h : ipNetwork t = none) :
    (text t).read = .error (.value [.quoted t,
      say " does not appear to be an IPv4 or IPv6 network"]) := by
  rw [read, h]

theorem mapM_read_networksOf {items : List Text}
    (h : ∀ item ∈ items, '/' ∈ item → ∃ n, ipNetwork item = some n) :
    (candidatesOf items).mapM Candidate.read = .ok (networksOf items) := by
  induction items with
  | nil => rfl
  | cons item items ih =>
    have hrest := ih fun item hitem => h item (List.mem_cons_of_mem _ hitem)
    by_cases hslash : '/' ∈ item
    · obtain ⟨n, hn⟩ := h item List.mem_cons_self hslash
      rw [networksOf_cons_of_mem hslash hn, candidatesOf,
        List.filter_cons_of_pos (by simpa using hslash), List.map_cons]
      exact mapM_cons_eq_ok.mpr ⟨n, _, Candidate.read_text_of_some hn, hrest, rfl⟩
    · rw [networksOf_cons_of_notMem hslash, candidatesOf,
        List.filter_cons_of_neg (by simpa using hslash)]
      exact hrest

theorem divide_of_fits {α : Type} (size : α → ℕ) {room : ℤ} {l : List α}
    (h : ((l.map size).sum : ℤ) ≤ room) :
    (divide size room l).1 = l ∧ (divide size room l).2 = [] := by
  have hroom : 0 ≤ room := by omega
  have hnone := (divide_skips_nothing_iff size hroom l).mpr h
  obtain ⟨hsublist, -, hperm⟩ := (isGreedySplit_divide size room l).partition
  rw [hnone, List.append_nil] at hperm
  exact ⟨hsublist.eq_of_length hperm.length_eq, hnone⟩

theorem refuseAPartialScope_of_skipped {scope : SweepScope} (h : scope.skipped ≠ []) :
    refuseAPartialScope scope = .error (tooWide (scope.networks ++ scope.skipped) scope.limit) := by
  rw [refuseAPartialScope, if_neg h]

/-! ### What is returned and what is refused -/

/-- **Items that fit a sweep are expanded in their places.** -/
theorem hostsAndNetworks_of_fits {items : List Text} (h : FitsASweep items) :
    hostsAndNetworks items = .ok (items.flatMap hostsOfItem) := by
  obtain ⟨scope, hscope, hnetworks, hskipped, -⟩ := SweepScope.exists_fromNetworks
    (mapM_read_networksOf h.networks) (show 1 ≤ MAX_SWEEP_HOSTS by decide)
  obtain ⟨hall, hnone⟩ := divide_of_fits IPNetwork.numAddresses h.fits
  rw [hall] at hnetworks
  rw [hnone] at hskipped
  have hread : (SweepScope.fromNetworks (candidatesOf items) MAX_SWEEP_HOSTS).mapError
      TargetError.raised = .ok scope := by
    rw [hscope]
    rfl
  have hwhole : (refuseAPartialScope scope).mapError TargetError.raised = .ok () := by
    rw [refuseAPartialScope, if_pos hskipped]
    rfl
  have hexpanded : expand items scope.networks = .ok (items.flatMap hostsOfItem) := by
    rw [hnetworks]
    exact expand_networksOf h.networks
  exact bind_eq_ok.mpr ⟨scope, hread, bind_eq_ok.mpr ⟨(), hwhole, hexpanded⟩⟩

theorem hostsAndNetworks_of_no_network {items : List Text} {item : Text} (hitem : item ∈ items)
    (hslash : '/' ∈ item) (hnone : ipNetwork item = none) :
    ∃ bad ∈ items, '/' ∈ bad ∧ ipNetwork bad = none ∧
      hostsAndNetworks items = .error (.raised (.value [.quoted bad,
        say " does not appear to be an IPv4 or IPv6 network"])) := by
  obtain ⟨c, hc, e, he, hread⟩ := exists_mapM_eq_error
    (mem_candidatesOf.mpr ⟨item, hitem, hslash, rfl⟩) (Candidate.read_text_of_none hnone)
  obtain ⟨bad, hbad, hslash', rfl⟩ := mem_candidatesOf.mp hc
  cases hn : ipNetwork bad with
  | some n =>
    rw [Candidate.read_text_of_some hn] at he
    simp at he
  | none =>
    rw [Candidate.read_text_of_none hn, Except.error.injEq] at he
    refine ⟨bad, hbad, hslash', hn, ?_⟩
    unfold hostsAndNetworks SweepScope.fromNetworks
    rw [hread, he]
    rfl

theorem hostsAndNetworks_of_too_wide {items : List Text}
    (hnetworks : ∀ item ∈ items, '/' ∈ item → ∃ n, ipNetwork item = some n)
    (hwide : ¬ (((networksOf items).map IPNetwork.numAddresses).sum : ℤ) ≤ MAX_SWEEP_HOSTS) :
    ∃ named : List IPNetwork, named.Perm (networksOf items) ∧
      hostsAndNetworks items = .error (.raised (tooWide named 4096)) := by
  obtain ⟨scope, hscope, hcovered, hskipped, hlimit⟩ := SweepScope.exists_fromNetworks
    (mapM_read_networksOf hnetworks) (show 1 ≤ MAX_SWEEP_HOSTS by decide)
  have hsplit := isGreedySplit_divide IPNetwork.numAddresses MAX_SWEEP_HOSTS (networksOf items)
  rw [← hcovered, ← hskipped] at hsplit
  refine ⟨scope.networks ++ scope.skipped, hsplit.partition.2.2, ?_⟩
  have hleft : scope.skipped ≠ [] := by
    rw [hskipped, Ne, divide_skips_nothing_iff IPNetwork.numAddresses (by decide)]
    exact hwide
  have hlimit : scope.limit = 4096 := by
    rw [MAX_SWEEP_HOSTS] at hlimit
    omega
  unfold hostsAndNetworks
  rw [hscope]
  show (Except.mapError TargetError.raised (refuseAPartialScope scope) >>= fun _ => _) = _
  rw [refuseAPartialScope_of_skipped hleft, hlimit]
  rfl

/-- **Items are expanded in their places, or refused**: those that fit a sweep come out as what
each is for, in their order; otherwise an item is no network, or the networks are too wide
together, and that is what is said of them.  The iterator never runs out. -/
theorem hostsAndNetworks_expands (items : List Text) :
    (FitsASweep items → hostsAndNetworks items = .ok (items.flatMap hostsOfItem)) ∧
      (¬ FitsASweep items →
        (∃ bad ∈ items, '/' ∈ bad ∧ ipNetwork bad = none ∧
          hostsAndNetworks items = .error (.raised (.value [.quoted bad,
            say " does not appear to be an IPv4 or IPv6 network"]))) ∨
        ∃ named : List IPNetwork, named.Perm (networksOf items) ∧
          hostsAndNetworks items = .error (.raised (tooWide named 4096))) := by
  refine ⟨hostsAndNetworks_of_fits, ?_⟩
  intro hfits
  by_cases hnetworks : ∀ item ∈ items, '/' ∈ item → ∃ n, ipNetwork item = some n
  · exact Or.inr (hostsAndNetworks_of_too_wide hnetworks fun hsum => hfits ⟨hnetworks, hsum⟩)
  · push Not at hnetworks
    obtain ⟨item, hitem, hslash, hnone⟩ := hnetworks
    exact Or.inl (hostsAndNetworks_of_no_network hitem hslash
      (Option.eq_none_iff_forall_ne_some.mpr hnone))

/-- A network, a name and the network again. -/
theorem hostsAndNetworks_expands_of_a_mix :
    hostsAndNetworks ["192.0.2.0/30".toList, "router".toList, "192.0.2.0/30".toList] =
      .ok ["192.0.2.1".toList, "192.0.2.2".toList, "router".toList, "192.0.2.1".toList,
        "192.0.2.2".toList] := by
  have hnetwork : ipNetwork "192.0.2.0/30".toList =
      some (.v4 (.make (BitVec.ofNat 32 0xc0000200) 30 (by decide))) := by
    decide +kernel
  have hfits : FitsASweep
      ["192.0.2.0/30".toList, "router".toList, "192.0.2.0/30".toList] := by
    refine ⟨?_, by decide +kernel⟩
    intro item hitem hslash
    simp only [List.mem_cons, List.not_mem_nil, or_false] at hitem
    rcases hitem with rfl | rfl | rfl
    · exact ⟨_, hnetwork⟩
    · exact absurd hslash (by decide)
    · exact ⟨_, hnetwork⟩
  rw [(hostsAndNetworks_expands _).1 hfits]
  decide +kernel

end IPScout
