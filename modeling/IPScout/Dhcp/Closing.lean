import IPScout.Dhcp.Captures
import IPScout.Dhcp.Offers

/-!
# Stopping a session under its reader

A session over one of the captures.  The reader's `receive` and the `close` of
`stop()` are the steps of the capture; where `receive` returns the session absorbs
what it returned, and where it raises the reader dies of it.  `stop()` waits for the
reader no longer than the join, so its close may find the reader anywhere in
`receive`.

While the closes are timely a session that has been closed records no failure, and
neither `result` nor an iterator raises (`stopping_is_no_failure`); on every backend
the stop of a reader can be reported as a failure (`stopping_is_a_failure`).
-/

namespace IPScout

open Base Base.Octets

/-! ### A session over a capture -/

/-- A session, the iterators over it, and the capture it reads. -/
structure Captured where
  watched : Watched
  capture : Capture

namespace Captured

/-- A session not entered yet; its capture is opened as it is entered. -/
def initial : Captured := ⟨.initial, .initial⟩

def session (s : Captured) : Session := s.watched.session

end Captured

inductive CapturedAction
  | watched (a : OfferAction)
  | capture (a : CaptureAction)

/-- A step of the session that is none of its capture. -/
def OfferAction.isOwn : OfferAction → Bool
  | .session (.receive _) => false
  | .session (.die _) => false
  | .session (.close _) => false
  | _ => true

/-- A step between the call and the end of `receive` or `close`. -/
def CaptureAction.isInner : CaptureAction → Bool
  | .receive => false
  | .returned _ => false
  | .raised _ => false
  | .close _ => false
  | .closed _ => false
  | _ => true

/-- One step of a session over a capture. -/
inductive CapturedStep (w : Watch) (b : Backend) : Captured → CapturedAction → Captured → Prop
  | own {s : Captured} {a : OfferAction} {t : Watched} : a.isOwn = true →
      OfferStep w s.watched a t → CapturedStep w b s (.watched a) { s with watched := t }
  | inner {s : Captured} {a : CaptureAction} {t : Capture} : a.isInner = true →
      CaptureStep b s.capture a t → CapturedStep w b s (.capture a) { s with capture := t }
  | receive {s : Captured} {t : Capture} : s.session.reader = .receiving →
      CaptureStep b s.capture .receive t →
      CapturedStep w b s (.capture .receive) { s with capture := t }
  | returned {s : Captured} {frame : Option Octets} {t : Capture} {u : Watched} :
      CaptureStep b s.capture (.returned frame) t →
      OfferStep w s.watched (.session (.receive frame)) u →
      CapturedStep w b s (.capture (.returned frame)) ⟨u, t⟩
  | raised {s : Captured} {e : PyError} {t : Capture} {u : Watched} :
      CaptureStep b s.capture (.raised e) t → OfferStep w s.watched (.session (.die e)) u →
      CapturedStep w b s (.capture (.raised e)) ⟨u, t⟩
  | close {s : Captured} {i : ℕ} {t : Capture} : s.session.stopper i = .closing →
      s.session.captureOpen = true → CaptureStep b s.capture (.close i) t →
      CapturedStep w b s (.capture (.close i)) { s with capture := t }
  | closed {s : Captured} {i : ℕ} {t : Capture} {u : Watched} :
      CaptureStep b s.capture (.closed i) t → OfferStep w s.watched (.session (.close i)) u →
      CapturedStep w b s (.capture (.closed i)) ⟨u, t⟩
  -- the capture has been given up by an earlier `stop`, or was never opened
  | skip {s : Captured} {i : ℕ} {u : Watched} : s.session.captureOpen = false →
      s.capture.closer i = .idle → OfferStep w s.watched (.session (.close i)) u →
      CapturedStep w b s (.watched (.session (.close i))) { s with watched := u }

/-- The close is timely for the capture. -/
def TimelyFor (s : Captured) : CapturedAction → Prop
  | .watched _ => True
  | .capture a => Timely s.capture a

/-! ### A closed session -/

variable {w : Watch} {b : Backend}

/-- No failure is recorded, and none is about to be. -/
structure Session.Sound (s : Session) : Prop where
  failure : s.failure = none
  reader : ∀ e, s.reader ≠ .failing e

/-- **Only the death of its capture makes a session fail.** -/
theorem Session.Sound.step {s t : Session} {a : SessionAction} (h : s.Sound)
    (hstep : SessionStep w s a t) (ha : ∀ e, a ≠ .die e) : t.Sound := by
  cases hstep with
  | tick | refuse | call | test | record | check | raise | answer | stop | join | close
  | stopped => exact ⟨h.failure, h.reader⟩
  | enter | finish => exact ⟨h.failure, fun e => by simp⟩
  | look | time =>
    refine ⟨h.failure, ?_⟩
    intro e
    dsimp only
    split <;> simp
  | @receive frame _ =>
    refine ⟨h.failure, ?_⟩
    intro e
    cases frame <;> simp
  | @die failure _ => exact absurd rfl (ha failure)
  | absorb _ habsorb =>
    obtain ⟨found, seen, lastSeen, rfl⟩ := absorb_eq_ok habsorb
    exact ⟨h.failure, fun e => by simp⟩
  | absorbRaises _ hraises => exact absurd hraises (absorb_ne_error s _ _)
  | fail hfailing => exact absurd hfailing (h.reader _)

theorem Session.Sound.ne_raise {s t : Session} {a : SessionAction} (h : s.Sound)
    (hstep : SessionStep w s a t) (i : ℕ) (e : PyError) : a ≠ .raise i e := by
  rintro rfl
  cases hstep with
  | raise _ hfailure =>
    rw [h.failure] at hfailure
    simp at hfailure

/-- An iterator raises, or a call of `result` does. -/
def OfferAction.isRaise : OfferAction → Bool
  | .session (.raise _ _) => true
  | .raise _ _ => true
  | _ => false

theorem sound_of_offerStep {s t : Watched} {a : OfferAction} (h : s.session.Sound)
    (hstep : OfferStep w s a t) (ha : ∀ e, a ≠ .session (.die e)) :
    t.session.Sound ∧ a.isRaise = false := by
  cases hstep with
  | @session a u hsession =>
    refine ⟨h.step hsession fun e he => ha e (by rw [he]), ?_⟩
    cases hraise : a with
    | raise i e => exact absurd hraise (h.ne_raise hsession i e)
    | _ => rfl
  | offers | next | look | yield | conclude => exact ⟨h, rfl⟩
  | raise _ hfailure =>
    rw [h.failure] at hfailure
    simp at hfailure

/-- A step of the capture is a step of the whole, and the rest leave it alone. -/
theorem capture_of_step {s t : Captured} {a : CapturedAction} (h : CapturedStep w b s a t) :
    (∃ o, a = .watched o ∧ t.capture = s.capture) ∨
      ∃ c, a = .capture c ∧ CaptureStep b s.capture c t.capture := by
  cases h with
  | own | skip => exact Or.inl ⟨_, rfl, rfl⟩
  | inner _ hstep | receive _ hstep | close _ _ hstep => exact Or.inr ⟨_, rfl, hstep⟩
  | returned hstep | raised hstep | closed hstep => exact Or.inr ⟨_, rfl, hstep⟩

/-- A session moves by its own steps or with its capture, and dies only where `receive`
raises. -/
theorem watched_of_step {s t : Captured} {a : CapturedAction} (h : CapturedStep w b s a t) :
    (t.watched = s.watched ∧ ∃ c, a = .capture c) ∨ ∃ o, OfferStep w s.watched o t.watched ∧
      (a = .watched o ∨ ∃ c, a = .capture c) ∧
        ∀ e, o = .session (.die e) → a = .capture (.raised e) := by
  cases h with
  | @own a u hown hstep =>
    refine Or.inr ⟨a, hstep, Or.inl rfl, ?_⟩
    rintro e rfl
    simp [OfferAction.isOwn] at hown
  | inner | receive | close => exact Or.inl ⟨rfl, _, rfl⟩
  | returned _ hstep => exact Or.inr ⟨_, hstep, Or.inr ⟨_, rfl⟩, by simp⟩
  | raised _ hstep =>
    refine Or.inr ⟨_, hstep, Or.inr ⟨_, rfl⟩, ?_⟩
    intro e he
    injection he with he
    injection he with he
    rw [he]
  | closed _ hstep => exact Or.inr ⟨_, hstep, Or.inr ⟨_, rfl⟩, by simp⟩
  | skip _ _ hstep => exact Or.inr ⟨_, hstep, Or.inl rfl, by simp⟩

/-- A session whose capture has been closed, and that has not failed before. -/
structure Captured.Settled (s : Captured) : Prop where
  quiet : s.capture.Quiet
  sound : s.session.Sound

/-- **A timely step of a closed session neither fails nor raises.** -/
theorem Captured.Settled.step {s t : Captured} {a : CapturedAction} (h : s.Settled)
    (hstep : guarded TimelyFor (CapturedStep w b) s a t) :
    t.Settled ∧ ∀ o, a = .watched o → o.isRaise = false := by
  obtain ⟨hcond, hstep⟩ := hstep
  have hcalm : ∀ e, a ≠ .capture (.raised e) := by
    rintro e rfl
    rcases capture_of_step hstep with ⟨o, ho, _⟩ | ⟨c, hc, hcapture⟩
    · simp at ho
    · injection hc with hc
      exact h.quiet.calm.ne_raised hcapture e hc.symm
  have hquiet : t.capture.Quiet := by
    rcases capture_of_step hstep with ⟨o, _, hsame⟩ | ⟨c, rfl, hcapture⟩
    · rw [hsame]
      exact h.quiet
    · exact h.quiet.step ⟨hcond, hcapture⟩
  rcases watched_of_step hstep with ⟨hsame, c, rfl⟩ | ⟨o, hoffer, ha, hdie⟩
  · refine ⟨⟨hquiet, ?_⟩, by simp⟩
    rw [Captured.session, hsame]
    exact h.sound
  · obtain ⟨hsound, hraise⟩ :=
      sound_of_offerStep h.sound hoffer fun e he => hcalm e (hdie e he)
    refine ⟨⟨hquiet, hsound⟩, ?_⟩
    rcases ha with rfl | ⟨c, rfl⟩
    · intro p hp
      injection hp with hp
      rw [← hp]
      exact hraise
    · simp

theorem stocked_of_captured {as : List CapturedAction} {s : Captured}
    (h : Steps (guarded TimelyFor (CapturedStep w b)) .initial as s) : s.capture.Stocked := by
  refine h.invariant (I := fun s : Captured => s.capture.Stocked) ?_ ?_
  · intro htaking
    simp [Captured.initial, Capture.initial] at htaking
  · intro s a t hs hstep
    rcases capture_of_step hstep.2 with ⟨o, _, hsame⟩ | ⟨c, rfl, hcapture⟩
    · rw [hsame]
      exact hs
    · exact hs.step ⟨hstep.1, hcapture⟩

/-- **Stopping is no failure while the closes are timely.**  Once `close` has been
called a timely `receive` raises nothing; a step that is not timely makes it raise, on a
capture that has been closed; and a session that had not failed when its capture was
closed records no failure, and no call of `result` and no iterator raises. -/
theorem stopping_is_no_failure (w : Watch) (b : Backend) :
    (∀ as s bs t, Steps (guarded Timely (CaptureStep b)) .initial as s → s.closed = true →
        s.Calm → Steps (guarded Timely (CaptureStep b)) s bs t → ∀ e, .raised e ∉ bs) ∧
      (∀ as s a t, Steps (CaptureStep b) .initial as s → CaptureStep b s a t → ¬ Timely s a →
        s.closed = true ∧ s.Calm ∧ ∃ bs e u, Steps (CaptureStep b) t (bs ++ [.raised e]) u) ∧
      ∀ as s bs t, Steps (guarded TimelyFor (CapturedStep w b)) .initial as s →
        s.capture.closed = true → s.capture.Calm → s.session.Sound →
        Steps (guarded TimelyFor (CapturedStep w b)) s bs t →
        t.session.failure = none ∧ ∀ o, .watched o ∈ bs → o.isRaise = false := by
  refine ⟨?_, ?_, ?_⟩
  · intro as s bs t has hclosed hcalm hbs
    exact receive_after_close has hclosed hcalm hbs
  · intro as s a t has hstep ha
    exact untimely_raises has hstep ha
  · intro as s bs t has hclosed hcalm hsound hbs
    have hstart : s.Settled := ⟨⟨hclosed, stocked_of_captured has, hcalm⟩, hsound⟩
    have hall := hbs.trace (I := fun bs t => Captured.Settled t ∧
      ∀ o, CapturedAction.watched o ∈ bs → o.isRaise = false) ⟨hstart, by simp⟩ ?_
    · exact ⟨hall.1.sound.failure, hall.2⟩
    · intro cs u a v hu hstep
      obtain ⟨hsettled, hraise⟩ := hu.1.step hstep
      refine ⟨hsettled, ?_⟩
      intro o hmem
      rcases List.mem_append.mp hmem with hmem | hmem
      · exact hu.2 o hmem
      · exact hraise o (List.mem_singleton.mp hmem).symm

/-- The reader is entered and gets to its call of `receive`. -/
def openingActions : List CapturedAction :=
  [.watched (.session .enter), .watched (.session .look), .watched (.session .time),
    .capture .receive]

/-- The join times out and the capture is closed, as far as `_closed`. -/
def stopping : List CapturedAction :=
  [.watched (.session (.stop 0)), .watched (.session (.join 0)), .capture (.close 0),
    .capture (.mark 0)]

/-- The read of a released socket fails, and a call of `result` returns. -/
def readFails : List CapturedAction :=
  [.capture (.release 0), .capture (.closed 0), .capture (.recv (.error badDescriptor)),
    .capture .guard, .capture (.returned none), .watched (.session .look),
    .watched (.session .finish), .watched (.session (.call 1)), .watched (.session (.test 1)),
    .watched (.session (.record 1)), .watched (.session (.check 1)),
    .watched (.session (.answer 1 []))]

/-- A packet socket closed while the reader waits in `recv`: the `EBADF` is taken for
the stop it is. -/
theorem stopping_is_no_failure_of_a_waiting_reader :
    ∃ s t, Steps (guarded TimelyFor (CapturedStep defaultWatch .packetSocket)) .initial
        (openingActions ++ .capture .settimeout :: stopping) s ∧
      Steps (guarded TimelyFor (CapturedStep defaultWatch .packetSocket)) s readFails t ∧
      t.session.failure = none := by
  obtain ⟨s, t, hs, ht, hclosed, hplace, hfailure, hreader⟩ : ∃ s t,
      Steps (guarded TimelyFor (CapturedStep defaultWatch .packetSocket)) .initial
        (openingActions ++ .capture .settimeout :: stopping) s ∧
      Steps (guarded TimelyFor (CapturedStep defaultWatch .packetSocket)) s readFails t ∧
      s.capture.closed = true ∧ s.capture.receiver = .receiving ∧ s.session.failure = none ∧
        s.session.reader = .receiving :=
    ⟨_, _, .cons ⟨trivial, .own rfl (.session (.enter rfl))⟩ <|
        .cons ⟨trivial, .own rfl (.session (.look rfl))⟩ <|
        .cons ⟨trivial, .own rfl (.session (.time rfl))⟩ <|
        .cons ⟨trivial, .receive (by decide +kernel) (.receive rfl)⟩ <|
        .cons ⟨rfl, .inner rfl (.settimeout rfl)⟩ <|
        .cons ⟨trivial, .own rfl (.session (.stop rfl))⟩ <|
        .cons ⟨trivial, .own rfl (.session (.join (by decide +kernel)))⟩ <|
        .cons ⟨trivial, .close (by decide +kernel) (by decide +kernel) (.close rfl)⟩ <|
        .single ⟨trivial, .inner rfl (.mark (by decide +kernel))⟩,
      .cons ⟨trivial, .inner rfl (.release (by decide +kernel))⟩ <|
        .cons ⟨trivial, .closed (.closed (by decide +kernel))
          (.session (.close (by decide +kernel)))⟩ <|
        .cons ⟨trivial, .inner rfl (.recv (by decide +kernel))⟩ <|
        .cons ⟨trivial, .inner rfl (.guard (e := badDescriptor) (by decide +kernel))⟩ <|
        .cons ⟨trivial, .returned (.returned (by decide +kernel))
          (.session (.receive (by decide +kernel)))⟩ <|
        .cons ⟨trivial, .own rfl (.session (.look (by decide +kernel)))⟩ <|
        .cons ⟨trivial, .own rfl (.session (.finish (by decide +kernel)))⟩ <|
        .cons ⟨trivial, .own rfl (.session (.call (by decide +kernel)))⟩ <|
        .cons ⟨trivial, .own rfl (.session (.test (by decide +kernel)))⟩ <|
        .cons ⟨trivial, .own rfl (.session (.record (by decide +kernel)))⟩ <|
        .cons ⟨trivial, .own rfl (.session (.check (by decide +kernel) (by decide +kernel)))⟩ <|
        .single ⟨trivial, .own rfl
          (.session (.answer (by decide +kernel) (by decide +kernel)))⟩,
      by decide +kernel, by decide +kernel, by decide +kernel, by decide +kernel⟩
  refine ⟨s, t, hs, ht, ?_⟩
  have hcalm : s.capture.Calm := fun e => by simp [hplace]
  have hsound : s.session.Sound := ⟨hfailure, fun e => by simp [hreader]⟩
  exact ((stopping_is_no_failure defaultWatch .packetSocket).2.2 _ s _ t hs hclosed hcalm hsound
    ht).1

/-! ### A stop reported as a failure -/

/-- The session was sound when its capture was closed; then a failure is recorded, a call
of `result` raises it and so does an iterator. -/
def FallsWith (b : Backend) (as bs : List CapturedAction) (e : PyError) : Prop :=
  ∃ s t, Steps (CapturedStep defaultWatch b) .initial as s ∧ s.capture.closed = true ∧
    s.capture.Calm ∧ s.session.Sound ∧ Steps (CapturedStep defaultWatch b) s bs t ∧
    t.session.failure = some e ∧
    .watched (.session (.raise 1 (captureStopped defaultWatch e))) ∈ bs ∧
    .watched (.raise 0 (captureStopped defaultWatch e)) ∈ bs

/-- The reader has died of `e`; a call of `result` and an iterator learn of it. -/
def aftermath (e : PyError) : List CapturedAction :=
  [.capture (.raised e), .watched (.session .fail), .watched (.session .finish),
    .watched (.session (.call 1)), .watched (.session (.test 1)), .watched (.session (.record 1)),
    .watched (.session (.raise 1 (captureStopped defaultWatch e))),
    .watched (.offers 0), .watched (.next 0), .watched (.look 0),
    .watched (.raise 0 (captureStopped defaultWatch e))]

/-- **From the raise on the session fails**, whatever came before. -/
theorem aftermath_of_raising {b : Backend} {s : Captured} {e : PyError}
    (hraising : s.capture.receiver = .raising e) (hreader : s.session.reader = .receiving)
    (hcall : s.session.call 1 = .idle) (hrecorded : s.session.recorded = none)
    (hfound : s.session.found = []) (hunborn : (s.watched.offering 0).place = .unborn) :
    ∃ t, Steps (CapturedStep defaultWatch b) s (aftermath e) t ∧ t.session.failure = some e := by
  rw [Captured.session] at hreader hcall hrecorded hfound
  refine ⟨_, .cons (.raised (.raised hraising) (.session (.die hreader))) <|
    .cons (.own rfl (.session (.fail rfl))) <| .cons (.own rfl (.session (.finish rfl))) <|
    .cons (.own rfl (.session (.call hcall))) <| .cons (.own rfl (.session (.test ?_))) <|
    .cons (.own rfl (.session (.record ?_))) <|
    .cons (.own rfl (.session (.raise ?_ rfl))) <|
    .cons (.own rfl (.offers hunborn)) <|
    .cons (.own rfl (.next ?_)) <| .cons (.own rfl (.look ?_)) <|
    .single (.own rfl (.raise ?_ rfl)), rfl⟩
  · simp [Session.setCall, hrecorded]
  · simp [Session.setCall, Session.quiet]
  · simp [Session.setCall]
  · simp [Watched.setOffering]
  · simp [Watched.setOffering]
  · simp [Watched.setOffering, Offering.look, Session.setCall, hfound]

theorem fallsWith_of_raising {b : Backend} {as bs : List CapturedAction} {s t : Captured}
    {e : PyError} (has : Steps (CapturedStep defaultWatch b) .initial as s)
    (hclosed : s.capture.closed = true)
    (hplace : s.capture.receiver = .settingTimeout ∨ s.capture.receiver = .taking)
    (hsound : s.session.failure = none ∧ s.session.reader = .receiving)
    (hbs : Steps (CapturedStep defaultWatch b) s bs t)
    (hraising : t.capture.receiver = .raising e) (hreader : t.session.reader = .receiving)
    (hcall : t.session.call 1 = .idle) (hrecorded : t.session.recorded = none)
    (hfound : t.session.found = []) (hunborn : (t.watched.offering 0).place = .unborn) :
    FallsWith b as (bs ++ aftermath e) e := by
  obtain ⟨u, hafter, hfailure⟩ :=
    aftermath_of_raising (b := b) hraising hreader hcall hrecorded hfound hunborn
  have hcalm : s.capture.Calm := by
    intro f
    rcases hplace with hplace | hplace
    · simp [hplace]
    · simp [hplace]
  have hstart : s.session.Sound := ⟨hsound.1, fun f => by simp [hsound.2]⟩
  refine ⟨s, u, has, hclosed, hcalm, hstart, hbs.append hafter, hfailure, ?_, ?_⟩
  · exact List.mem_append_right _ (by simp [aftermath])
  · exact List.mem_append_right _ (by simp [aftermath])

/-- A record of a BPF read: its header and a frame of two octets. -/
def bpfRecord (frame : Octets) : Octets :=
  List.replicate 8 0 ++ [2, 0, 0, 0, 2, 0, 0, 0, 18, 0] ++ frame

/-- A read of two frames, of which the first is returned. -/
def firstOfTwo : List CapturedAction :=
  openingActions ++ [.capture .check, .capture (.select (.ok true)),
    .capture (.read (.ok (bpfRecord [1, 2] ++ bpfRecord [3, 4]))), .capture .queue,
    .capture .check, .capture .take, .capture (.returned (some [1, 2])),
    .watched (.session .absorb), .watched (.session .look), .watched (.session .time),
    .capture .receive, .capture .check]

theorem absorb_of_two (s : Session) : s.absorb defaultWatch [1, 2] = .ok s := by
  rw [Session.absorb, show DhcpReply.fromFrame [1, 2] = .ok none by decide +kernel]

/-- A reader before its `settimeout` as the socket is released, or about to take a
pending frame as the device's are cleared away: the stop is recorded as a failure, and
`result` and an iterator raise it. -/
theorem stopping_is_a_failure :
    FallsWith .packetSocket (openingActions ++ stopping)
        ([.capture (.release 0), .capture (.closed 0), .capture .settimeout] ++
          aftermath Backend.packetSocket.notASocket) Backend.packetSocket.notASocket ∧
      FallsWith (.rawSocket true) (openingActions ++ stopping)
        ([.capture (.quiet 0), .capture (.release 0), .capture (.closed 0),
          .capture .settimeout] ++ aftermath (Backend.rawSocket true).notASocket)
        (Backend.rawSocket true).notASocket ∧
      FallsWith .bpf (firstOfTwo ++ stopping)
        ([.capture (.clear 0), .capture .take] ++ aftermath emptyDeque) emptyDeque := by
  refine ⟨?_, ?_, ?_⟩
  · exact fallsWith_of_raising (.cons (.own rfl (.session (.enter rfl))) <|
        .cons (.own rfl (.session (.look rfl))) <| .cons (.own rfl (.session (.time rfl))) <|
        .cons (.receive (by decide +kernel) (.receive rfl)) <|
        .cons (.own rfl (.session (.stop rfl))) <|
        .cons (.own rfl (.session (.join (by decide +kernel)))) <|
        .cons (.close (by decide +kernel) (by decide +kernel) (.close rfl)) <|
        .single (.inner rfl (.mark (by decide +kernel))))
      (by decide +kernel) (by decide +kernel) (by decide +kernel)
      (.cons (.inner rfl (.release (by decide +kernel))) <|
        .cons (.closed (.closed (by decide +kernel)) (.session (.close (by decide +kernel)))) <|
        .single (.inner rfl (.settimeout (by decide +kernel))))
      (by decide +kernel) (by decide +kernel) (by decide +kernel) (by decide +kernel)
      (by decide +kernel) (by decide +kernel)
  · exact fallsWith_of_raising (.cons (.own rfl (.session (.enter rfl))) <|
        .cons (.own rfl (.session (.look rfl))) <| .cons (.own rfl (.session (.time rfl))) <|
        .cons (.receive (by decide +kernel) (.receive rfl)) <|
        .cons (.own rfl (.session (.stop rfl))) <|
        .cons (.own rfl (.session (.join (by decide +kernel)))) <|
        .cons (.close (by decide +kernel) (by decide +kernel) (.close rfl)) <|
        .single (.inner rfl (.mark (by decide +kernel))))
      (by decide +kernel) (by decide +kernel) (by decide +kernel)
      (.cons (.inner rfl (.quiet (by decide +kernel))) <|
        .cons (.inner rfl (.release (by decide +kernel))) <|
        .cons (.closed (.closed (by decide +kernel)) (.session (.close (by decide +kernel)))) <|
        .single (.inner rfl (.settimeout (by decide +kernel))))
      (by decide +kernel) (by decide +kernel) (by decide +kernel) (by decide +kernel)
      (by decide +kernel) (by decide +kernel)
  · exact fallsWith_of_raising (.cons (.own rfl (.session (.enter rfl))) <|
        .cons (.own rfl (.session (.look rfl))) <| .cons (.own rfl (.session (.time rfl))) <|
        .cons (.receive (by decide +kernel) (.receive rfl)) <| .cons (.inner rfl (.check rfl)) <|
        .cons (.inner rfl (.select (by decide +kernel))) <| .cons (.inner rfl (.read rfl)) <|
        .cons (.inner rfl (.queue rfl)) <| .cons (.inner rfl (.recheck rfl)) <|
        .cons (.inner rfl (.take (by decide +kernel))) <|
        .cons (.returned (.returned (by decide +kernel))
          (.session (.receive (by decide +kernel)))) <|
        .cons (.own rfl (.session (.absorb rfl (absorb_of_two _)))) <|
        .cons (.own rfl (.session (.look rfl))) <|
        .cons (.own rfl (.session (.time (by decide +kernel)))) <|
        .cons (.receive (by decide +kernel) (.receive (by decide +kernel))) <|
        .cons (.inner rfl (.check (by decide +kernel))) <|
        .cons (.own rfl (.session (.stop (by decide +kernel)))) <|
        .cons (.own rfl (.session (.join (by decide +kernel)))) <|
        .cons (.close (by decide +kernel) (by decide +kernel) (.close (by decide +kernel))) <|
        .single (.inner rfl (.mark (by decide +kernel))))
      (by decide +kernel) (by decide +kernel) (by decide +kernel)
      (.cons (.inner rfl (.clear (by decide +kernel))) <|
        .single (.inner rfl (.take (by decide +kernel))))
      (by decide +kernel) (by decide +kernel) (by decide +kernel) (by decide +kernel)
      (by decide +kernel) (by decide +kernel)

end IPScout
