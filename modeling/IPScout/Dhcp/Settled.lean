import IPScout.Dhcp.Offers

/-!
# The snapshot of a settled exchange

`result` waits until no new address has come for `settle` seconds, and takes its
snapshot in a critical section of its own.  Between the two the reader may record one
more address.

If no address is recorded there, a snapshot that neither the finished flag nor the end of the
window explains comes at least `settle` seconds after every address of the record, in
every run; and an address that is recorded there is in a snapshot that comes at once
(`settled_at_the_snapshot`).
-/

namespace IPScout

open Base Base.Octets

/-- In every run of a step relation, a snapshot taken before the window is over and with the
finished flag not set comes `settle` seconds after every address recorded. -/
def SettledAtTheSnapshot (w : Watch) (step : Session → SessionAction → Session → Prop) : Prop :=
  ∀ before r a s after t i u, Steps step .initial before r → step r a s → s.found ≠ r.found →
    Steps step s after t → SessionStep w t (.record i) u → t.finished = false →
    t.now < t.started + w.timeout → r.now + w.settle ≤ t.now

/-- Whether what a call of `result` waits for has come. -/
def Due (w : Watch) (s : Session) : Prop :=
  s.finished = true ∨ s.started + w.timeout ≤ s.now ∨
    ∀ lastSeen, s.lastSeen = some lastSeen → lastSeen + w.settle ≤ s.now

/-- No new address is recorded between a call's last look and its snapshot, unless the
finished flag or the end of the window lets the call through anyway, or it has nothing to
wait for. -/
def NotInTheGap (w : Watch) (s : Session) : SessionAction → Prop
  | .absorb => (∀ address ∈ s.pending w, address ∈ s.seen) ∨ (∀ i, s.call i ≠ .recording) ∨
      s.finished = true ∨ s.started + w.timeout ≤ s.now ∨ w.settle = 0
  | _ => True

variable {w : Watch}

/-! ### The clock of a session -/

/-- The last address was recorded in the past, and none before the session was entered. -/
structure Session.Clocked (s : Session) : Prop where
  unstarted : s.entered = false → s.reader = .unstarted ∧ s.lastSeen = none
  past : ∀ lastSeen, s.lastSeen = some lastSeen → lastSeen ≤ s.now

/-- **What absorbing a frame does**: nothing, or its address is added and the clock of the
quiet period starts again. -/
theorem absorb_cases {s t : Session} {frame : Octets} (hreader : s.reader = .absorbing frame)
    (h : s.absorb w frame = .ok t) :
    (t = s ∧ ∀ address ∈ s.pending w, address ∈ s.seen) ∨
      ∃ address, address ∈ s.pending w ∧ address ∉ s.seen ∧
        t = { s with
          seen := insert address s.seen
          found := s.found ++ [address]
          lastSeen := some s.now } := by
  have hpending : s.pending w = offeredBy w frame := by
    rw [Session.pending, hreader]
  rw [hpending]
  rcases absorb_of_fromFrame h with ⟨hnone, rfl⟩ | ⟨address, hone, rfl⟩
  · refine Or.inl ⟨rfl, ?_⟩
    rw [hnone]
    intro address hmem
    simp at hmem
  · rw [hone, Session.recordAddress]
    by_cases hseen : address ∈ s.seen
    · rw [if_pos hseen]
      refine Or.inl ⟨rfl, ?_⟩
      intro other hmem
      rw [List.mem_singleton] at hmem
      rwa [hmem]
    · rw [if_neg hseen]
      exact Or.inr ⟨address, List.mem_singleton_self _, hseen, rfl⟩

theorem Session.Clocked.step {s t : Session} {a : SessionAction} (h : s.Clocked)
    (hstep : SessionStep w s a t) : t.Clocked := by
  obtain ⟨hunstarted, hpast⟩ := h
  have hstarted : s.reader ≠ .unstarted → s.entered = false →
      ∀ {P : Prop}, P := fun hne hnot => absurd (hunstarted hnot).1 hne
  cases hstep with
  | call | test | record | check | raise | answer | stop | join | close | stopped =>
    exact ⟨hunstarted, hpast⟩
  | tick hpositive =>
    refine ⟨hunstarted, ?_⟩
    intro lastSeen hlast
    exact (hpast lastSeen hlast).trans (le_add_of_nonneg_right hpositive)
  | enter => exact ⟨fun hnot => absurd hnot (by simp), hpast⟩
  | refuse => exact ⟨fun hnot => absurd hnot (by simp), hpast⟩
  | look hreader | time hreader | receive hreader | die hreader | fail hreader
  | finish hreader | absorbRaises hreader _ =>
    exact ⟨fun hnot => hstarted (by rw [hreader]; simp) hnot, hpast⟩
  | absorb hreader habsorb =>
    have hentered : s.entered = false → False :=
      fun hnot => hstarted (by rw [hreader]; simp) hnot
    rcases absorb_cases hreader habsorb with ⟨rfl, -⟩ | ⟨address, -, -, rfl⟩
    · exact ⟨fun hnot => (hentered hnot).elim, hpast⟩
    · refine ⟨fun hnot => (hentered hnot).elim, ?_⟩
      intro lastSeen hlast
      obtain rfl := Option.some.inj hlast
      exact le_refl _

theorem clocked_of_run {as : List SessionAction} {s : Session}
    (hrun : Steps (SessionStep w) .initial as s) : s.Clocked := by
  refine hrun.invariant (I := Session.Clocked) ⟨fun _ => ⟨rfl, rfl⟩, ?_⟩
    (fun h hstep => h.step hstep)
  intro lastSeen hlast
  simp [Session.initial] at hlast

/-! ### Calls in the gap -/

/-- Every call that is about to take its snapshot has what it waited for. -/
def Session.Patient (w : Watch) (s : Session) : Prop := ∀ i, s.call i = .recording → Due w s

theorem due_of_quiet {s : Session} (h : s.quiet w = true) : Due w s := by
  rw [Session.quiet, Bool.or_eq_true] at h
  rcases h with hfinished | hquiet
  · exact Or.inl hfinished
  · unfold theExchangeHasGoneQuiet at hquiet
    split at hquiet
    · next hover => exact Or.inr (Or.inl hover)
    · refine Or.inr (Or.inr ?_)
      intro lastSeen hlast
      rw [hlast] at hquiet
      exact of_decide_eq_true hquiet

theorem Session.Patient.setCall {s : Session} (h : s.Patient w) (i : ℕ) {c : Call}
    (hc : c = .recording → Due w s) : (s.setCall i c).Patient w := by
  intro j hj
  by_cases hji : j = i
  · subst hji
    rw [call_setCall_self] at hj
    exact hc hj
  · rw [call_setCall_of_ne s c hji] at hj
    exact h j hj

/-- **A call in the gap keeps what it waited for**, if no address is recorded there. -/
theorem Session.Patient.step {s t : Session} {a : SessionAction} (h : s.Patient w)
    (hclocked : s.Clocked) (hstep : guarded (NotInTheGap w) (SessionStep w) s a t) :
    t.Patient w := by
  obtain ⟨hcond, hstep⟩ := hstep
  cases hstep with
  | look | time | receive | die | absorbRaises | fail | stop | join | close => exact h
  | finish | stopped => exact fun _ _ => Or.inl rfl
  | tick hpositive =>
    intro i hi
    have hlater := le_add_of_nonneg_right (a := s.now) hpositive
    rcases h i hi with hfinished | hover | hquiet
    · exact Or.inl hfinished
    · exact Or.inr (Or.inl (hover.trans hlater))
    · exact Or.inr (Or.inr fun lastSeen hlast => (hquiet lastSeen hlast).trans hlater)
  | enter hentered | refuse hentered =>
    -- nothing was recorded before
    intro i _
    refine Or.inr (Or.inr ?_)
    intro lastSeen hlast
    have hnone := (hclocked.unstarted hentered).2
    rw [show s.lastSeen = some lastSeen from hlast] at hnone
    simp at hnone
  | call => exact h.setCall _ (by split <;> simp)
  | test =>
    apply h.setCall
    intro hc
    split at hc
    · next hquiet => exact due_of_quiet hquiet
    · simp at hc
  | record => exact h.setCall _ (show Call.checking = .recording → _ by simp)
  | check => exact h.setCall _ (by simp)
  | raise => exact h.setCall _ (by simp)
  | answer => exact h.setCall _ (show Call.idle = .recording → _ by simp)
  | absorb hreader habsorb =>
    intro i hi
    rcases absorb_cases hreader habsorb with ⟨rfl, -⟩ | ⟨address, hmem, hnew, rfl⟩
    · exact h i hi
    · rcases hcond with hold | hno | hfinished | hover | hsettle
      · exact absurd (hold address hmem) hnew
      · exact absurd hi (hno i)
      · exact Or.inl hfinished
      · exact Or.inr (Or.inl hover)
      · refine Or.inr (Or.inr ?_)
        intro lastSeen hlast
        obtain rfl := Option.some.inj hlast
        rw [hsettle, add_zero]

theorem patient_of_run {as : List SessionAction} {s : Session}
    (hrun : Steps (guarded (NotInTheGap w) (SessionStep w)) .initial as s) : s.Patient w := by
  refine (hrun.invariant (I := fun s => s.Clocked ∧ s.Patient w) ⟨?_, ?_⟩ ?_).2
  · exact clocked_of_run (w := w) (.nil _)
  · intro i hi
    simp [Session.initial] at hi
  · intro s a t h hstep
    exact ⟨h.1.step hstep.2, h.2.step h.1 hstep⟩

/-! ### The last address -/

/-- An address has been recorded, at a moment or later. -/
def SeenSince (moment : ℚ) (s : Session) : Prop :=
  ∃ lastSeen, s.lastSeen = some lastSeen ∧ moment ≤ lastSeen

theorem SeenSince.step {moment : ℚ} {s t : Session} {a : SessionAction}
    (h : SeenSince moment s ∧ s.Clocked) (hstep : SessionStep w s a t) :
    SeenSince moment t ∧ t.Clocked := by
  refine ⟨?_, h.2.step hstep⟩
  obtain ⟨⟨lastSeen, hlast, hle⟩, hclocked⟩ := h
  cases hstep with
  | tick | enter | refuse | look | time | receive | die | absorbRaises | fail | finish | call
  | test | record | check | raise | answer | stop | join | close | stopped =>
    exact ⟨lastSeen, hlast, hle⟩
  | absorb hreader habsorb =>
    rcases absorb_cases hreader habsorb with ⟨rfl, -⟩ | ⟨address, -, -, rfl⟩
    · exact ⟨lastSeen, hlast, hle⟩
    · exact ⟨s.now, rfl, hle.trans (hclocked.past lastSeen hlast)⟩

theorem seenSince_of_found_ne {s t : Session} {a : SessionAction} (hstep : SessionStep w s a t)
    (hnew : t.found ≠ s.found) : SeenSince s.now t := by
  cases hstep with
  | tick | enter | refuse | look | time | receive | die | absorbRaises | fail | finish | call
  | test | record | check | raise | answer | stop | join | close | stopped =>
    exact absurd rfl hnew
  | absorb hreader habsorb =>
    rcases absorb_cases hreader habsorb with ⟨rfl, -⟩ | ⟨address, -, -, rfl⟩
    · exact absurd rfl hnew
    · exact ⟨s.now, rfl, le_refl _⟩

/-- **A snapshot comes after the quiet period exactly where no address comes between a call's
last look and its snapshot**: it does so in every run without one, and one is in a snapshot
that can be taken at once. -/
theorem settled_at_the_snapshot (w : Watch) :
    SettledAtTheSnapshot w (guarded (NotInTheGap w) (SessionStep w)) ∧
      ∀ s t, SessionStep w s .absorb t → ¬ NotInTheGap w s .absorb →
        t.found ≠ s.found ∧ t.finished = false ∧ t.now < t.started + w.timeout ∧
          t.now < s.now + w.settle ∧ ∃ i u, SessionStep w t (.record i) u := by
  constructor
  · intro before r a s after t i u hbefore hadds hnew hafter hsnapshot hopen htime
    have hseen := hafter.of_guarded.invariant (I := fun t => SeenSince r.now t ∧ t.Clocked)
      ⟨seenSince_of_found_ne hadds.2 hnew, (clocked_of_run hbefore.of_guarded).step hadds.2⟩
      SeenSince.step
    obtain ⟨lastSeen, hlast, hle⟩ := hseen.1
    have hpatient := patient_of_run (hbefore.append (.cons hadds hafter))
    cases hsnapshot with
    | record hrecording =>
      rcases hpatient i hrecording with hfinished | hover | hquiet
      · rw [hopen] at hfinished
        simp at hfinished
      · exact absurd hover (not_le_of_gt htime)
      · exact (add_le_add_left hle _).trans (hquiet lastSeen hlast)
  · intro s t hstep hgap
    simp only [NotInTheGap, not_or, not_forall, not_not] at hgap
    obtain ⟨⟨new, hpending, hunseen⟩, ⟨i, hi⟩, hopen, htime, hsettle⟩ := hgap
    cases hstep with
    | absorb hreader habsorb =>
      rcases absorb_cases hreader habsorb with ⟨-, hold⟩ | ⟨address, -, -, rfl⟩
      · exact absurd (hold new hpending) hunseen
      · have hpositive : 0 < w.settle := lt_of_le_of_ne w.settle_bounds.1 (Ne.symm hsettle)
        refine ⟨?_, by simpa using hopen, not_le.mp htime, ?_, i, _, .record hi⟩
        · intro hsame
          simpa using congrArg List.length hsame
        · exact lt_add_of_pos_right _ hpositive
    | absorbRaises _ hraises => exact absurd hraises (absorb_ne_error s _ _)

/-! ### An address in the gap -/

/-- The offer of another address to the same machine. -/
def otherOffer : Octets := (offer 0).set 47 51

theorem absorb_otherOffer (s : Session) :
    s.absorb defaultWatch otherOffer = .ok (s.recordAddress "192.0.2.51".toList) :=
  absorb_of_read s (by decide +kernel)

/-- A snapshot twelve seconds after the only offer. -/
theorem settled_at_the_snapshot_of_one_offer : ∃ r s t u,
    Steps (guarded (NotInTheGap defaultWatch) (SessionStep defaultWatch)) .initial
      [.enter, .look, .time, .receive (some (offer 0))] r ∧
    Steps (guarded (NotInTheGap defaultWatch) (SessionStep defaultWatch)) s
      [.call 0, .tick 12, .test 0] t ∧
    SessionStep defaultWatch t (.record 0) u ∧ r.now + 12 ≤ t.now := by
  obtain ⟨r, hbefore, s, hadds, hnew, t, hafter, u, hsnapshot, hopen, htime⟩ : ∃ r,
      Steps (guarded (NotInTheGap defaultWatch) (SessionStep defaultWatch)) .initial
        [.enter, .look, .time, .receive (some (offer 0))] r ∧
      ∃ s, guarded (NotInTheGap defaultWatch) (SessionStep defaultWatch) r .absorb s ∧
        s.found ≠ r.found ∧
      ∃ t, Steps (guarded (NotInTheGap defaultWatch) (SessionStep defaultWatch)) s
        [.call 0, .tick 12, .test 0] t ∧
      ∃ u, SessionStep defaultWatch t (.record 0) u ∧ t.finished = false ∧
        t.now < t.started + defaultWatch.timeout :=
    ⟨_, .cons ⟨trivial, .enter rfl⟩ <| .cons ⟨trivial, .look rfl⟩ <|
      .cons ⟨trivial, .time rfl⟩ <| .single ⟨trivial, .receive (by decide +kernel)⟩,
      _, ⟨Or.inr (Or.inl fun i => by simp [Session.initial]), .absorb rfl (absorb_offer _)⟩,
      by decide +kernel,
      _, .cons ⟨trivial, .call (by decide +kernel)⟩ <|
        .cons ⟨trivial, .tick (by decide +kernel)⟩ <|
        .single ⟨trivial, .test (by decide +kernel)⟩,
      _, .record (by decide +kernel), by decide +kernel, by decide +kernel⟩
  exact ⟨r, s, t, u, hbefore, hafter, hsnapshot,
    (settled_at_the_snapshot defaultWatch).1 _ r .absorb s _ t 0 u hbefore hadds hnew hafter
      hsnapshot hopen htime⟩

/-- **An address in the gap is returned as settled**: the call has waited twelve seconds after
the first offer, and another one is recorded before it takes its snapshot. -/
theorem not_settled_at_the_snapshot :
    ¬ SettledAtTheSnapshot defaultWatch (SessionStep defaultWatch) := by
  intro hsettled
  obtain ⟨r, hbefore, s, hadds, hnew, u, hsnapshot, hopen, htime, hnow⟩ : ∃ r,
      Steps (SessionStep defaultWatch) .initial
        [.enter, .look, .time, .receive (some (offer 0)), .absorb, .call 0, .tick 12, .test 0,
          .look, .time, .receive (some otherOffer)] r ∧
      ∃ s, SessionStep defaultWatch r .absorb s ∧ s.found ≠ r.found ∧
      ∃ u, SessionStep defaultWatch s (.record 0) u ∧ s.finished = false ∧
        s.now < s.started + defaultWatch.timeout ∧ ¬ r.now + defaultWatch.settle ≤ s.now :=
    ⟨_, .cons (.enter rfl) <| .cons (.look rfl) <| .cons (.time rfl) <|
      .cons (.receive (by decide +kernel)) <| .cons (.absorb rfl (absorb_offer _)) <|
      .cons (.call (by decide +kernel)) <| .cons (.tick (by decide +kernel)) <|
      .cons (.test (by decide +kernel)) <| .cons (.look (by decide +kernel)) <|
      .cons (.time (by decide +kernel)) <| .single (.receive (by decide +kernel)),
      _, .absorb rfl (absorb_otherOffer _), by decide +kernel,
      _, .record (by decide +kernel), by decide +kernel, by decide +kernel, by decide +kernel⟩
  exact hnow (hsettled _ r .absorb s [] s 0 u hbefore hadds hnew (.nil s) hsnapshot hopen htime)

end IPScout
