import IPScout.Dhcp.Frames
import IPScout.Dhcp.Session

/-!
# The recorded answer

A call of `result` that finds an answer recorded returns it without waiting.  Two
events change what a later call does: a failure of the reader stored after a call
has found none, and a snapshot taken by a call that was already waiting when
another returned.  Between such events the first answer stands
(`result_stands`); each of them alone breaks it (`result_does_not_stand`).
-/

namespace IPScout

open Base Base.Octets

/-- After a call has returned a list, a later call reads the failure and returns that
list: it waits for nothing, takes no snapshot and does not raise. -/
def Steadfast (as : List SessionAction) : Prop :=
  ∀ before during rest i j addresses, as = before ++ .call j :: (during ++ rest) →
    .answer i addresses ∈ before → .call j ∉ during →
    ∀ a ∈ during, a.caller = some j → a = .check j ∨ a = .answer j addresses

/-- No failure is stored once a call has found none, and once a call has returned no
snapshot differs from the recorded one. -/
def Undisturbed (s : Session) : SessionAction → Prop
  | .fail => s.answered = false ∧ ∀ i, s.call i ≠ .returning
  | .record _ => s.answered = true → s.recorded = some s.found
  | _ => True

/-! ### What a step does -/

theorem recordAddress_eq (s : Session) (address : Text) : ∃ found seen lastSeen,
    s.recordAddress address = { s with found := found, seen := seen, lastSeen := lastSeen } := by
  rw [Session.recordAddress]
  split
  · exact ⟨s.found, s.seen, s.lastSeen, rfl⟩
  · exact ⟨_, _, _, rfl⟩

/-- **`_absorb` touches the record of addresses and nothing else.** -/
theorem absorb_eq_ok {w : Watch} {s t : Session} {frame : Octets} (h : s.absorb w frame = .ok t) :
    ∃ found seen lastSeen, t = { s with found := found, seen := seen, lastSeen := lastSeen } := by
  rw [Session.absorb] at h
  split at h
  · simp at h
  · rw [← Except.ok.inj h]
    exact ⟨s.found, s.seen, s.lastSeen, rfl⟩
  · split at h
    · rw [← Except.ok.inj h]
      exact ⟨s.found, s.seen, s.lastSeen, rfl⟩
    · rw [← Except.ok.inj h]
      exact recordAddress_eq s _

theorem call_setCall_self (s : Session) (i : ℕ) (c : Call) : (s.setCall i c).call i = c := by
  rw [Session.setCall]
  exact Function.update_self i c s.call

theorem call_setCall_of_ne (s : Session) {i j : ℕ} (c : Call) (h : j ≠ i) :
    (s.setCall i c).call j = s.call j := by
  rw [Session.setCall]
  exact Function.update_of_ne h c s.call

variable {w : Watch}

/-- A call past its snapshot, its own or another's, finds a list recorded. -/
def Kept (s : Session) : Prop :=
  ∀ i, s.call i = .checking ∨ s.call i = .returning → s.recorded.isSome

theorem Kept.setCall {s : Session} (h : Kept s) (i : ℕ) {c : Call}
    (hc : c = .checking ∨ c = .returning → s.recorded.isSome) : Kept (s.setCall i c) := by
  intro j hj
  by_cases hji : j = i
  · subst hji
    rw [call_setCall_self] at hj
    exact hc hj
  · rw [call_setCall_of_ne s c hji] at hj
    exact h j hj

/-- **No call of `result` returns what was never recorded.** -/
theorem Kept.step {s t : Session} {a : SessionAction} (h : Kept s) (hstep : SessionStep w s a t) :
    Kept t := by
  cases hstep with
  | tick | enter | refuse | look | time | receive | die | absorbRaises | fail | finish | stop
  | join | close | stopped => exact h
  | absorb _ habsorb =>
    obtain ⟨found, seen, lastSeen, rfl⟩ := absorb_eq_ok habsorb
    exact h
  | call =>
    apply h.setCall _
    cases s.recorded with
    | none => simp
    | some _ => simp
  | test => exact h.setCall _ (by split <;> simp)
  | record => exact fun _ _ => rfl
  | check hchecking => exact h.setCall _ fun _ => h _ (Or.inl hchecking)
  | raise => exact h.setCall _ (by simp)
  | answer => exact h.setCall _ (show Call.idle = .checking ∨ Call.idle = .returning → _ by simp)

/-! ### The invariants of an undisturbed run -/

/-- A call that is about to return has found no failure. -/
def Clean (s : Session) : Prop := ∀ i, s.call i = .returning → s.failure = none

theorem Clean.setCall {s : Session} (h : Clean s) (i : ℕ) {c : Call} (hc : c ≠ .returning) :
    Clean (s.setCall i c) := by
  intro j hj
  by_cases hji : j = i
  · subst hji
    rw [call_setCall_self] at hj
    exact absurd hj hc
  · rw [call_setCall_of_ne s c hji] at hj
    exact h j hj

theorem Clean.step {s t : Session} {a : SessionAction} (h : Clean s)
    (hstep : guarded Undisturbed (SessionStep w) s a t) : Clean t := by
  obtain ⟨hcond, hstep⟩ := hstep
  cases hstep with
  | tick | enter | refuse | look | time | receive | die | absorbRaises | finish | stop | join
  | close | stopped => exact h
  | absorb _ habsorb =>
    obtain ⟨found, seen, lastSeen, rfl⟩ := absorb_eq_ok habsorb
    exact h
  | fail =>
    intro i hi
    exact absurd hi (hcond.2 i)
  | call => exact h.setCall _ (by split <;> decide)
  | test => exact h.setCall _ (by split <;> decide)
  | record => exact h.setCall _ (show Call.checking ≠ .returning by decide)
  | check _ hnone => exact fun _ _ => hnone
  | raise => exact h.setCall _ (by decide)
  | answer => exact h.setCall _ (show Call.idle ≠ .returning by decide)

/-- The list is recorded and every call returns it. -/
def Stands (addresses : List Text) (s : Session) : Prop :=
  s.answered = true ∧ s.recorded = some addresses ∧ s.failure = none

/-- **An answer that stands is not undone by an undisturbed step.** -/
theorem Stands.step {addresses : List Text} {s t : Session} {a : SessionAction}
    (h : Stands addresses s) (hstep : guarded Undisturbed (SessionStep w) s a t) :
    Stands addresses t := by
  obtain ⟨hcond, hstep⟩ := hstep
  obtain ⟨hanswered, hrecorded, hfailure⟩ := h
  cases hstep with
  | tick | enter | refuse | look | time | receive | die | absorbRaises | finish | call | test
  | check | raise | stop | join | close | stopped => exact ⟨hanswered, hrecorded, hfailure⟩
  | absorb _ habsorb =>
    obtain ⟨found, seen, lastSeen, rfl⟩ := absorb_eq_ok habsorb
    exact ⟨hanswered, hrecorded, hfailure⟩
  | fail =>
    have hnot := hcond.1
    rw [hanswered] at hnot
    simp at hnot
  | record => exact ⟨hanswered, (hcond hanswered).symm.trans hrecorded, hfailure⟩
  | answer => exact ⟨rfl, hrecorded, hfailure⟩

theorem answered_step {as : List SessionAction} {s t : Session} {a : SessionAction}
    (h : s.answered = true → ∃ i addresses, .answer i addresses ∈ as)
    (hstep : SessionStep w s a t) :
    t.answered = true → ∃ i addresses, .answer i addresses ∈ as ++ [a] := by
  have hgrow : s.answered = true → ∃ i addresses, .answer i addresses ∈ as ++ [a] := by
    intro hs
    obtain ⟨i, addresses, hmem⟩ := h hs
    exact ⟨i, addresses, List.mem_append_left _ hmem⟩
  cases hstep with
  | tick | enter | refuse | look | time | receive | die | absorbRaises | fail | finish | call
  | test | record | check | raise | stop | join | close | stopped => exact hgrow
  | absorb _ habsorb =>
    obtain ⟨found, seen, lastSeen, rfl⟩ := absorb_eq_ok habsorb
    exact hgrow
  | answer => exact fun _ => ⟨_, _, List.mem_append_right _ (List.mem_singleton_self _)⟩

theorem stands_of_answer {as : List SessionAction} {s : Session}
    (hrun : Steps (guarded Undisturbed (SessionStep w)) .initial as s) :
    Clean s ∧ ∀ i addresses, .answer i addresses ∈ as → Stands addresses s := by
  refine hrun.trace (I := fun as s => Clean s ∧ ∀ i addresses, .answer i addresses ∈ as →
    Stands addresses s) ⟨?_, by simp⟩ ?_
  · intro i hi
    simp [Session.initial] at hi
  · intro as s a t ⟨hclean, hstands⟩ hstep
    refine ⟨hclean.step hstep, ?_⟩
    intro i addresses hmem
    rcases List.mem_append.mp hmem with hmem | hmem
    · exact (hstands i addresses hmem).step hstep
    · rw [List.mem_singleton] at hmem
      subst hmem
      obtain ⟨_, hanswer⟩ := hstep
      cases hanswer with
      | answer hreturning hrecorded => exact ⟨rfl, hrecorded, hclean i hreturning⟩

/-! ### A later call -/

/-- A call that finds the answer has not to wait for it, nor has it raised. -/
def Later (c : Call) : Prop := c = .checking ∨ c = .returning ∨ c = .idle

theorem Later.ne_waiting {c : Call} (h : Later c) : c ≠ .waiting ∧ c ≠ .recording := by
  rcases h with rfl | rfl | rfl <;> decide

/-- **While an answer stands, a call that found it checks the failure and returns it.** -/
theorem Later.step {addresses : List Text} {s t : Session} {a : SessionAction} {j : ℕ}
    (hlater : Later (s.call j)) (hstands : Stands addresses s) (ha : a ≠ .call j)
    (hstep : SessionStep w s a t) :
    Later (t.call j) ∧ (a.caller = some j → a = .check j ∨ a = .answer j addresses) := by
  obtain ⟨_, hrecorded, hfailure⟩ := hstands
  cases hstep with
  | tick | enter | refuse | look | time | receive | die | absorbRaises | finish | fail | stop
  | join | close | stopped => exact ⟨hlater, fun h => by simp [SessionAction.caller] at h⟩
  | absorb _ habsorb =>
    obtain ⟨found, seen, lastSeen, rfl⟩ := absorb_eq_ok habsorb
    exact ⟨hlater, fun h => by simp [SessionAction.caller] at h⟩
  | @call i hidle =>
    have hji : j ≠ i := fun hji => ha (by rw [hji])
    rw [call_setCall_of_ne s _ hji]
    exact ⟨hlater, fun h => absurd (Option.some.inj h).symm hji⟩
  | @test i hwaiting =>
    have hji : j ≠ i := fun hji => hlater.ne_waiting.1 (hji ▸ hwaiting)
    rw [call_setCall_of_ne s _ hji]
    exact ⟨hlater, fun h => absurd (Option.some.inj h).symm hji⟩
  | @record i hrecording =>
    have hji : j ≠ i := fun hji => hlater.ne_waiting.2 (hji ▸ hrecording)
    refine ⟨?_, fun h => absurd (Option.some.inj h).symm hji⟩
    show Later ((s.setCall i .checking).call j)
    rwa [call_setCall_of_ne s _ hji]
  | @check i hchecking hnone =>
    by_cases hji : j = i
    · subst hji
      rw [call_setCall_self]
      exact ⟨Or.inr (Or.inl rfl), fun _ => Or.inl rfl⟩
    · rw [call_setCall_of_ne s _ hji]
      exact ⟨hlater, fun h => absurd (Option.some.inj h).symm hji⟩
  | raise _ hsome =>
    rw [hfailure] at hsome
    simp at hsome
  | @answer i returned hreturning hsome =>
    rw [hrecorded, Option.some.injEq] at hsome
    subst hsome
    by_cases hji : j = i
    · subst hji
      refine ⟨?_, fun _ => Or.inr rfl⟩
      show Later ((s.setCall j .idle).call j)
      rw [call_setCall_self]
      exact Or.inr (Or.inr rfl)
    · refine ⟨?_, fun h => absurd (Option.some.inj h).symm hji⟩
      show Later ((s.setCall i .idle).call j)
      rwa [call_setCall_of_ne s _ hji]

theorem Later.run {addresses : List Text} {as : List SessionAction} {s t : Session} {j : ℕ}
    (hlater : Later (s.call j)) (hstands : Stands addresses s)
    (hrun : Steps (guarded Undisturbed (SessionStep w)) s as t) (hno : .call j ∉ as) :
    ∀ a ∈ as, a.caller = some j → a = .check j ∨ a = .answer j addresses := by
  refine (hrun.trace (I := fun as t => .call j ∉ as → Stands addresses t ∧ Later (t.call j) ∧
    ∀ a ∈ as, a.caller = some j → a = .check j ∨ a = .answer j addresses) ?_ ?_ hno).2.2
  · intro _
    exact ⟨hstands, hlater, by simp⟩
  · intro as t a u ih hstep hno
    rw [List.mem_append, not_or, List.mem_singleton] at hno
    obtain ⟨hstands, hlater, hall⟩ := ih hno.1
    obtain ⟨hnext, hlast⟩ := hlater.step hstands (Ne.symm hno.2) hstep.2
    refine ⟨hstands.step hstep, hnext, ?_⟩
    intro b hb
    rcases List.mem_append.mp hb with hb | hb
    · exact hall b hb
    · rw [List.mem_singleton] at hb
      rw [hb]
      exact hlast

/-- A call by an idle thread runs straight to its return while an answer stands. -/
theorem Stands.call {addresses : List Text} {s : Session} (hstands : Stands addresses s) {j : ℕ}
    (hidle : s.call j = .idle) :
    ∃ t, Steps (SessionStep w) s [.call j, .check j, .answer j addresses] t := by
  obtain ⟨_, hrecorded, hfailure⟩ := hstands
  have hfirst : SessionStep w s (.call j) (s.setCall j .checking) := by
    have hcall := SessionStep.call (w := w) hidle
    rwa [hrecorded] at hcall
  exact ⟨_, .cons hfirst <| .cons (.check (call_setCall_self s j _) hfailure) <|
    .single (.answer (call_setCall_self _ j _) hrecorded)⟩

/-- **In every undisturbed run the first answer stands**: a later call neither waits
nor raises, and the list it returns is the list returned before. -/
theorem result_stands (w : Watch) {as : List SessionAction} {s : Session}
    (hrun : Steps (guarded Undisturbed (SessionStep w)) .initial as s) :
    Steadfast as ∧ ∀ i addresses, .answer i addresses ∈ as → ∀ j, s.call j = .idle →
      ∃ t, Steps (SessionStep w) s [.call j, .check j, .answer j addresses] t := by
  refine ⟨?_, ?_⟩
  · intro before during rest i j addresses has hanswer hno
    rw [has] at hrun
    obtain ⟨t, hbefore, hafter⟩ := hrun.exists_of_append
    obtain ⟨u, hcall, hafter⟩ := hafter.exists_of_cons
    obtain ⟨v, hduring, _⟩ := hafter.exists_of_append
    have hstands := (stands_of_answer hbefore).2 i addresses hanswer
    refine Later.run ?_ (hstands.step hcall) hduring hno
    obtain ⟨_, hcall⟩ := hcall
    cases hcall with
    | call =>
      rw [call_setCall_self, hstands.2.1]
      exact Or.inl rfl
  · intro i addresses hanswer j hidle
    exact ((stands_of_answer hrun).2 i addresses hanswer).call hidle

/-! ### Disturbances -/

theorem not_steadfast_of_raise {as : List SessionAction} {i : ℕ} {addresses : List Text}
    (hanswer : .answer i addresses ∈ as) (j : ℕ) (e : PyError) :
    ¬ Steadfast (as ++ [.call j, .raise j e]) := by
  intro h
  rcases h as [.raise j e] [] i j addresses rfl hanswer (by simp) _ (List.mem_singleton_self _) rfl
    with h | h <;> cases h

theorem not_steadfast_of_answer {as : List SessionAction} {i : ℕ} {addresses others : List Text}
    (hanswer : .answer i addresses ∈ as) (hne : others ≠ addresses) (j : ℕ) :
    ¬ Steadfast (as ++ [.call j, .check j, .answer j others]) := by
  intro h
  rcases h as [.check j, .answer j others] [] i j addresses rfl hanswer (by simp) _
    (List.mem_cons_of_mem _ (List.mem_singleton_self _)) rfl with h | h
  · cases h
  · injection h with _ h
    exact hne h

/-- A failure stored after an answer is raised by the next call. -/
theorem falls_of_failure {as : List SessionAction} {s : Session} {e : PyError} {i j : ℕ}
    {addresses : List Text} (hanswer : .answer i addresses ∈ as) (hidle : s.call j = .idle)
    (hrecorded : s.recorded.isSome) (hfailure : s.failure = some e) :
    ∃ bs u, Steps (SessionStep w) s bs u ∧ ¬ Steadfast (as ++ bs) := by
  have hfirst : SessionStep w s (.call j) (s.setCall j .checking) := by
    have hcall := SessionStep.call (w := w) hidle
    rwa [Option.isNone_eq_false_iff.mpr hrecorded] at hcall
  exact ⟨[.call j, .raise j (captureStopped w e)], _,
    .cons hfirst <| .single (.raise (call_setCall_self s j _) hfailure),
    not_steadfast_of_raise hanswer j _⟩

/-- A list recorded after another has been returned is returned by the next call. -/
theorem falls_of_snapshot {as : List SessionAction} {s : Session} {i j : ℕ}
    {addresses others : List Text} (hanswer : .answer i addresses ∈ as) (hidle : s.call j = .idle)
    (hstands : Stands others s) (hne : others ≠ addresses) :
    ∃ bs u, Steps (SessionStep w) s bs u ∧ ¬ Steadfast (as ++ bs) := by
  obtain ⟨u, hcall⟩ := hstands.call (w := w) hidle
  exact ⟨_, u, hcall, not_steadfast_of_answer hanswer hne j⟩

/-- **What is not undisturbed breaks the promise**: after the first such step of a
run an idle thread's call can raise, or return another list. -/
theorem result_falls {as : List SessionAction} {s t : Session} {a : SessionAction} {j : ℕ}
    (hrun : Steps (guarded Undisturbed (SessionStep w)) .initial as s)
    (hstep : SessionStep w s a t) (ha : ¬ Undisturbed s a) (hidle : s.call j = .idle) :
    ∃ bs u, Steps (SessionStep w) t bs u ∧ ¬ Steadfast (as ++ a :: bs) := by
  obtain ⟨hkept, hanswered⟩ := hrun.of_guarded.trace (I := fun as s => Kept s ∧
    (s.answered = true → ∃ i addresses, .answer i addresses ∈ as))
    ⟨by simp [Kept, Session.initial], by simp [Session.initial]⟩
    (fun h hstep => ⟨h.1.step hstep, answered_step h.2 hstep⟩)
  obtain ⟨_, hstands⟩ := stands_of_answer hrun
  suffices h : ∃ bs u, Steps (SessionStep w) t bs u ∧ ¬ Steadfast (as ++ [a] ++ bs) by
    obtain ⟨bs, u, hbs, hfalls⟩ := h
    rw [← List.append_cons] at hfalls
    exact ⟨bs, u, hbs, hfalls⟩
  cases hstep with
  | tick | enter | refuse | look | time | receive | die | absorbRaises | absorb | finish | call
  | test | check | raise | answer | stop | join | close | stopped => exact absurd trivial ha
  | @fail e _ =>
    by_cases hdone : s.answered = true
    · obtain ⟨i, addresses, hmem⟩ := hanswered hdone
      have hrecorded : s.recorded = some addresses := (hstands i addresses hmem).2.1
      exact falls_of_failure (List.mem_append_left _ hmem) hidle
        (Option.isSome_iff_exists.mpr ⟨_, hrecorded⟩) rfl
    · -- the thread that is about to return an answer calls again
      obtain ⟨i, hreturning⟩ : ∃ i, s.call i = .returning := by
        by_contra hnone
        exact ha ⟨by simpa using hdone, fun i hi => hnone ⟨i, hi⟩⟩
      obtain ⟨addresses, hrecorded⟩ := Option.isSome_iff_exists.mp (hkept i (Or.inr hreturning))
      obtain ⟨v, hanswer, hidle, hkeeps, hfailure⟩ : ∃ v, SessionStep w
          { s with failure := some e, reader := .finishing } (.answer i addresses) v ∧
          v.call i = .idle ∧ v.recorded = some addresses ∧ v.failure = some e :=
        ⟨_, .answer hreturning hrecorded, call_setCall_self _ i .idle, hrecorded, rfl⟩
      have hmem : .answer i addresses ∈ as ++ [.fail] ++ [.answer i addresses] :=
        List.mem_append_right _ (List.mem_singleton_self _)
      obtain ⟨bs, u, hbs, hfalls⟩ := falls_of_failure hmem hidle
        (Option.isSome_iff_exists.mpr ⟨_, hkeeps⟩) hfailure
      refine ⟨.answer i addresses :: bs, u, .cons hanswer hbs, ?_⟩
      rwa [List.append_cons]
  | @record i hrecording =>
    obtain ⟨hdone, hne⟩ := Classical.not_imp.mp ha
    obtain ⟨k, addresses, hmem⟩ := hanswered hdone
    obtain ⟨_, hrecorded, hfailure⟩ := hstands k addresses hmem
    have hji : j ≠ i := by
      rintro rfl
      rw [hidle] at hrecording
      simp at hrecording
    refine falls_of_snapshot (j := j) (List.mem_append_left _ hmem) ?_ ⟨hdone, rfl, hfailure⟩ ?_
    · show (s.setCall i .checking).call j = .idle
      rwa [call_setCall_of_ne s _ hji]
    · intro hfound
      rw [hrecorded, ← hfound] at hne
      exact hne rfl

/-! ### Two windows -/

/-- The defaults, for the machine `offer` is made to. -/
def defaultWatch : Watch where
  mac := ⟨"02:00:5e:10:00:00".toList, by decide +kernel⟩
  interface := "br0".toList
  timeout := 60
  settle := 12
  timeout_bounds := by decide +kernel
  settle_bounds := by decide +kernel

def networkIsDown : PyError :=
  .os ⟨.OSError, some 100, none, some "Network is down".toList,
    "[Errno 100] Network is down".toList⟩

/-- Two calls wait for the end of a window with no offer, and one returns. -/
def emptyWindow : List SessionAction :=
  [.enter, .look, .time, .call 0, .call 1, .tick 60, .test 0, .record 0, .check 0, .answer 0 []]

theorem absorb_of_read (s : Session) {frame : Octets} {address : Text}
    (hread : (DhcpReply.fromFrame frame).map (Option.map fun r => (r.clientMac, r.offeredIp)) =
      .ok (some (w.mac.val, address))) : s.absorb w frame = .ok (s.recordAddress address) := by
  rw [Session.absorb]
  cases hreply : DhcpReply.fromFrame frame with
  | error e =>
    rw [hreply] at hread
    simp [Except.map] at hread
  | ok found =>
    rw [hreply] at hread
    cases found with
    | none => simp [Except.map] at hread
    | some reply =>
      simp only [Except.map, Option.map_some, Except.ok.injEq, Option.some.injEq,
        Prod.mk.injEq] at hread
      dsimp only
      rw [if_neg (not_not.mpr hread.1), hread.2]

theorem absorb_offer (s : Session) :
    s.absorb defaultWatch (offer 0) = .ok (s.recordAddress "192.0.2.50".toList) :=
  absorb_of_read s (by decide +kernel)

/-- Nothing disturbs the empty window: the other call answers the same list, and so does a later
one. -/
theorem result_stands_after_an_empty_window :
    let undisturbed := emptyWindow ++ [.test 1, .record 1, .check 1, .answer 1 [], .call 0,
      .check 0, .answer 0 []]
    (∃ s, Steps (guarded Undisturbed (SessionStep defaultWatch)) .initial undisturbed s) ∧
      Steadfast undisturbed := by
  intro undisturbed
  obtain ⟨s, hrun⟩ : ∃ s, Steps (guarded Undisturbed (SessionStep defaultWatch)) .initial
      undisturbed s :=
    ⟨_, .cons ⟨trivial, .enter rfl⟩ <| .cons ⟨trivial, .look rfl⟩ <|
      .cons ⟨trivial, .time rfl⟩ <| .cons ⟨trivial, .call rfl⟩ <| .cons ⟨trivial, .call rfl⟩ <|
      .cons ⟨trivial, .tick (by decide +kernel)⟩ <| .cons ⟨trivial, .test rfl⟩ <|
      .cons ⟨fun h => absurd h (by decide +kernel), .record (by decide +kernel)⟩ <|
      .cons ⟨trivial, .check (by decide +kernel) rfl⟩ <|
      .cons ⟨trivial, .answer (by decide +kernel) (by decide +kernel)⟩ <|
      .cons ⟨trivial, .test (by decide +kernel)⟩ <|
      .cons ⟨fun _ => by decide +kernel, .record (by decide +kernel)⟩ <|
      .cons ⟨trivial, .check (by decide +kernel) rfl⟩ <|
      .cons ⟨trivial, .answer (by decide +kernel) (by decide +kernel)⟩ <|
      .cons ⟨trivial, .call (by decide +kernel)⟩ <|
      .cons ⟨trivial, .check (by decide +kernel) rfl⟩ <|
      .single ⟨trivial, .answer (by decide +kernel) (by decide +kernel)⟩⟩
  exact ⟨⟨s, hrun⟩, (result_stands defaultWatch hrun).1⟩

/-- After the empty window the capture fails and the next call raises; or an offer
still comes, the other call records it, and the next call returns another list. -/
theorem result_does_not_stand :
    let failed := emptyWindow ++ [.die networkIsDown, .fail, .call 0,
      .raise 0 (captureStopped defaultWatch networkIsDown)]
    let overwritten := emptyWindow ++ [.receive (some (offer 0)), .absorb, .test 1, .record 1,
      .check 1, .answer 1 ["192.0.2.50".toList], .call 0, .check 0,
      .answer 0 ["192.0.2.50".toList]]
    ((∃ s, Steps (SessionStep defaultWatch) .initial failed s) ∧ ¬ Steadfast failed) ∧
      (∃ s, Steps (SessionStep defaultWatch) .initial overwritten s) ∧
        ¬ Steadfast overwritten := by
  intro failed overwritten
  have hfailed : ∃ s, Steps (SessionStep defaultWatch) .initial failed s :=
    ⟨_, .cons (.enter rfl) <| .cons (.look rfl) <| .cons (.time rfl) <| .cons (.call rfl) <|
      .cons (.call rfl) <| .cons (.tick (by decide +kernel)) <| .cons (.test rfl) <|
      .cons (.record (by decide +kernel)) <| .cons (.check (by decide +kernel) rfl) <|
      .cons (.answer (by decide +kernel) (by decide +kernel)) <|
      .cons (.die (by decide +kernel)) <|
      .cons (.fail (e := networkIsDown) (by decide +kernel)) <|
      .cons (.call (by decide +kernel)) <|
      .single (.raise (e := networkIsDown) (by decide +kernel) (by decide +kernel))⟩
  have hoverwritten : ∃ s, Steps (SessionStep defaultWatch) .initial overwritten s :=
    ⟨_, .cons (.enter rfl) <| .cons (.look rfl) <| .cons (.time rfl) <| .cons (.call rfl) <|
      .cons (.call rfl) <| .cons (.tick (by decide +kernel)) <| .cons (.test rfl) <|
      .cons (.record (by decide +kernel)) <| .cons (.check (by decide +kernel) rfl) <|
      .cons (.answer (by decide +kernel) (by decide +kernel)) <|
      .cons (.receive (by decide +kernel)) <| .cons (.absorb rfl (absorb_offer _)) <|
      .cons (.test (by decide +kernel)) <| .cons (.record (by decide +kernel)) <|
      .cons (.check (by decide +kernel) (by decide +kernel)) <|
      .cons (.answer (by decide +kernel) (by decide +kernel)) <|
      .cons (.call (by decide +kernel)) <|
      .cons (.check (by decide +kernel) (by decide +kernel)) <|
      .single (.answer (by decide +kernel) (by decide +kernel))⟩
  have hreturned : .answer 0 [] ∈ emptyWindow := by
    simp [emptyWindow]
  have hraise := not_steadfast_of_raise
    (List.mem_append_left [.die networkIsDown, .fail] hreturned) 0
    (captureStopped defaultWatch networkIsDown)
  have hanswer := not_steadfast_of_answer
    (List.mem_append_left [.receive (some (offer 0)), .absorb, .test 1, .record 1, .check 1,
      .answer 1 ["192.0.2.50".toList]] hreturned)
    (show ["192.0.2.50".toList] ≠ [] from List.cons_ne_nil _ _) 0
  rw [List.append_assoc] at hraise hanswer
  exact ⟨⟨hfailed, hraise⟩, hoverwritten, hanswer⟩

end IPScout
