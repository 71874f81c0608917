import IPScout.Dhcp.Offers

/-!
# The first offered address that answers

`observe_dhcp_first_reachable` of `dhcp.py`: a session of its own, one iterator of `offers()`
over it, and a probe of every address the iterator yields, while the reader goes on.  What a
probe answers is free.

The address that is returned is the first of the record that has answered, and all before it
were asked in vain.  `None` is returned only when the window is over, and then the whole
record was asked in vain; and whatever the outcome, the capture has been released
(`first_reachable`).
-/

namespace IPScout

open Base Base.Octets

/-! ### The caller -/

abbrev FirstOutcome := Except PyError (Option Text)

/-- Where the caller is. -/
inductive FirstPlace
  /-- Before `__enter__`. -/
  | outside
  /-- Before the iterator is made. -/
  | entered
  /-- Before the iterator is asked for the next address. -/
  | looping
  /-- In the iterator. -/
  | awaiting
  /-- In `is_reachable`. -/
  | probing (address : Text)
  /-- In `__exit__`, with the outcome behind it. -/
  | leaving (outcome : FirstOutcome)
  | left (outcome : FirstOutcome)

/-- The session with its iterators, the caller, and the probes it has made with their answers. -/
structure FirstWatch where
  watched : Watched
  place : FirstPlace
  probes : List (Text × Bool)

namespace FirstWatch

def initial : FirstWatch := ⟨.initial, .outside, []⟩

def session (s : FirstWatch) : Session := s.watched.session

def iterator (s : FirstWatch) : Offering := s.watched.offering 0

end FirstWatch

/-- A step of the clock or of the reader. -/
def SessionAction.isReaders : SessionAction → Bool
  | tick _ => true
  | look => true
  | time => true
  | receive _ => true
  | die _ => true
  | absorb => true
  | fail => true
  | finish => true
  | _ => false

/-- The steps of `stop()`, but for its return. -/
def stopSteps : List SessionAction := [.stop 0, .join 0, .close 0]

inductive FirstAction
  | reader (a : SessionAction)
  | enter
  | offers
  | next
  | look
  | take (address : Text)
  | probe (answer : Bool)
  | exhaust
  | fail (error : PyError)
  | stop (a : SessionAction)
  | leave

/-- One step of the call, of the reader or of the clock. -/
inductive FirstStep (w : Watch) : FirstWatch → FirstAction → FirstWatch → Prop
  | reader {s : FirstWatch} {a : SessionAction} {t : Watched} : a.isReaders = true →
      OfferStep w s.watched (.session a) t → FirstStep w s (.reader a) { s with watched := t }
  | enter {s : FirstWatch} {t : Watched} : s.place = .outside →
      OfferStep w s.watched (.session .enter) t →
      FirstStep w s .enter { s with watched := t, place := .entered }
  | offers {s : FirstWatch} {t : Watched} : s.place = .entered →
      OfferStep w s.watched (.offers 0) t →
      FirstStep w s .offers { s with watched := t, place := .looping }
  | next {s : FirstWatch} {t : Watched} : s.place = .looping →
      OfferStep w s.watched (.next 0) t →
      FirstStep w s .next { s with watched := t, place := .awaiting }
  | look {s : FirstWatch} {t : Watched} : s.place = .awaiting →
      OfferStep w s.watched (.look 0) t → FirstStep w s .look { s with watched := t }
  | take {s : FirstWatch} {address : Text} {t : Watched} : s.place = .awaiting →
      OfferStep w s.watched (.yield 0 address) t →
      FirstStep w s (.take address) { s with watched := t, place := .probing address }
  | probe {s : FirstWatch} {address : Text} {answer : Bool} : s.place = .probing address →
      FirstStep w s (.probe answer)
        { s with
          place := if answer then .leaving (.ok (some address)) else .looping
          probes := s.probes ++ [(address, answer)] }
  | exhaust {s : FirstWatch} {t : Watched} : s.place = .awaiting →
      OfferStep w s.watched (.conclude 0) t →
      FirstStep w s .exhaust { s with watched := t, place := .leaving (.ok none) }
  | fail {s : FirstWatch} {e : PyError} {t : Watched} : s.place = .awaiting →
      OfferStep w s.watched (.raise 0 e) t →
      FirstStep w s (.fail e) { s with watched := t, place := .leaving (.error e) }
  | stop {s : FirstWatch} {a : SessionAction} {outcome : FirstOutcome} {t : Watched} :
      s.place = .leaving outcome → a ∈ stopSteps → OfferStep w s.watched (.session a) t →
      FirstStep w s (.stop a) { s with watched := t }
  | leave {s : FirstWatch} {outcome : FirstOutcome} {t : Watched} :
      s.place = .leaving outcome → OfferStep w s.watched (.session (.stopped 0)) t →
      FirstStep w s .leave { s with watched := t, place := .left outcome }

/-! ### The session while nobody stops it -/

variable {w : Watch}

/-- A session that its reader alone ends: it is finished when the reader is, and the reader
ends for a failure or because the window is over. -/
structure Session.Unstopped (w : Watch) (s : Session) : Prop where
  stopping : s.stopping = false
  idle : s.stopper 0 = .idle
  unentered : s.entered = false → s.reader = .unstarted
  finished : s.finished = true → s.reader = .done
  ended : s.reader = .finishing ∨ s.reader = .done →
    s.failure ≠ none ∨ s.started + w.timeout ≤ s.now

theorem Session.unstopped_initial : Session.initial.Unstopped w where
  stopping := rfl
  idle := rfl
  unentered _ := rfl
  finished h := by cases h
  ended h := by rcases h with h | h <;> cases h

theorem Session.Unstopped.enter {s t : Session} (h : s.Unstopped w)
    (hstep : SessionStep w s .enter t) : t.Unstopped w := by
  cases hstep with
  | enter hentered =>
    have hunstarted := h.unentered hentered
    refine ⟨h.stopping, h.idle, ?_, ?_, ?_⟩
    · rintro ⟨⟩
    · intro hfinished
      have hdone := h.finished hfinished
      rw [hunstarted] at hdone
      cases hdone
    · intro hover
      rcases hover with hover | hover <;> cases hover

theorem Session.of_isReaders {s t : Session} {a : SessionAction} (ha : a.isReaders = true)
    (hstep : SessionStep w s a t) : t.captureOpen = s.captureOpen ∧ t.stopper = s.stopper := by
  cases hstep with
  | tick | look | time | receive | die | absorbRaises | fail | finish => exact ⟨rfl, rfl⟩
  | @absorb t frame _ habsorb =>
    rcases absorb_of_fromFrame habsorb with ⟨_, rfl⟩ | ⟨address, _, rfl⟩
    · exact ⟨rfl, rfl⟩
    · obtain ⟨_, _, _, hrecorded⟩ := recordAddress_eq s address
      rw [hrecorded]
      exact ⟨rfl, rfl⟩
  | _ => cases ha

theorem Session.Unstopped.of_moves {s t : Session} (h : s.Unstopped w)
    (hstarted : s.reader ≠ .unstarted) (hundone : s.reader ≠ .done)
    (hstopping : t.stopping = s.stopping) (hstopper : t.stopper = s.stopper)
    (hentered : t.entered = s.entered) (hfinished : t.finished = s.finished)
    (hover : t.reader = .finishing ∨ t.reader = .done →
      t.failure ≠ none ∨ t.started + w.timeout ≤ t.now) : t.Unstopped w where
  stopping := hstopping.trans h.stopping
  idle := (congrFun hstopper 0).trans h.idle
  unentered hnot := absurd (h.unentered (hentered.symm.trans hnot)) hstarted
  finished hend := absurd (h.finished (hfinished.symm.trans hend)) hundone
  ended := hover

theorem Session.Unstopped.step {s t : Session} {a : SessionAction} (h : s.Unstopped w)
    (ha : a.isReaders = true) (hstep : SessionStep w s a t) : t.Unstopped w := by
  cases hstep with
  | tick hseconds =>
    refine ⟨h.stopping, h.idle, h.unentered, h.finished, ?_⟩
    intro hend
    rcases h.ended hend with hfailure | hlate
    · exact Or.inl hfailure
    · exact Or.inr (hlate.trans (le_add_of_nonneg_right hseconds))
  | look hreader =>
    refine h.of_moves (by simp [hreader]) (by simp [hreader]) rfl rfl rfl rfl ?_
    intro hend
    simp [h.stopping] at hend
  | time hreader =>
    refine h.of_moves (by simp [hreader]) (by simp [hreader]) rfl rfl rfl rfl ?_
    intro hend
    dsimp only at hend ⊢
    split at hend
    · next hlate => exact Or.inr (sub_nonpos.mp hlate)
    · rcases hend with hend | hend <;> cases hend
  | @receive frame hreader =>
    refine h.of_moves (by simp [hreader]) (by simp [hreader]) rfl rfl rfl rfl ?_
    intro hend
    cases frame with
    | none => rcases hend with hend | hend <;> cases hend
    | some frame => rcases hend with hend | hend <;> cases hend
  | die hreader =>
    refine h.of_moves (by simp [hreader]) (by simp [hreader]) rfl rfl rfl rfl ?_
    intro hend
    rcases hend with hend | hend <;> cases hend
  | fail hreader =>
    exact h.of_moves (by simp [hreader]) (by simp [hreader]) rfl rfl rfl rfl
      fun _ => Or.inl (Option.some_ne_none _)
  | finish hreader =>
    refine ⟨h.stopping, h.idle, ?_, fun _ => rfl, fun _ => h.ended (Or.inl hreader)⟩
    intro hnot
    have hunstarted := h.unentered hnot
    rw [hreader] at hunstarted
    cases hunstarted
  | @absorb t frame hreader habsorb =>
    have hkept : t.stopping = s.stopping ∧ t.stopper = s.stopper ∧ t.entered = s.entered ∧
        t.finished = s.finished := by
      rcases absorb_of_fromFrame habsorb with ⟨_, rfl⟩ | ⟨address, _, rfl⟩
      · exact ⟨rfl, rfl, rfl, rfl⟩
      · obtain ⟨_, _, _, hrecorded⟩ := recordAddress_eq s address
        rw [hrecorded]
        exact ⟨rfl, rfl, rfl, rfl⟩
    obtain ⟨hstopping, hstopper, hentered, hfinished⟩ := hkept
    refine h.of_moves (by simp [hreader]) (by simp [hreader]) hstopping hstopper hentered
      hfinished ?_
    intro hend
    rcases hend with hend | hend <;> cases hend
  | absorbRaises hreader _ =>
    refine h.of_moves (by simp [hreader]) (by simp [hreader]) rfl rfl rfl rfl ?_
    intro hend
    rcases hend with hend | hend <;> cases hend
  | _ => cases ha

theorem Session.of_done {s t : Session} {a : SessionAction} (hdone : s.reader = .done)
    (ha : a.isReaders = true) (hstep : SessionStep w s a t) :
    ∃ seconds, 0 ≤ seconds ∧ t = { s with now := s.now + seconds } := by
  cases hstep with
  | tick hseconds => exact ⟨_, hseconds, rfl⟩
  | look hreader | time hreader | receive hreader | die hreader | fail hreader
  | finish hreader =>
    rw [hdone] at hreader
    cases hreader
  | absorb hreader _ | absorbRaises hreader _ =>
    rw [hdone] at hreader
    cases hreader
  | _ => cases ha

/-- What `stop()` leaves alone. -/
theorem Session.of_stopSteps {s t : Session} {a : SessionAction}
    (ha : a ∈ stopSteps ∨ a = .stopped 0) (hstep : SessionStep w s a t) :
    t.found = s.found ∧ t.reader = s.reader ∧ t.failure = s.failure ∧ t.started = s.started ∧
      t.now = s.now := by
  cases hstep with
  | stop | join | close | stopped => exact ⟨rfl, rfl, rfl, rfl, rfl⟩
  | _ => simp [stopSteps] at ha

/-! ### What the caller keeps -/

def inVain (addresses : List Text) : List (Text × Bool) :=
  addresses.map fun address => (address, false)

theorem inVain_concat (addresses : List Text) (address : Text) :
    inVain (addresses ++ [address]) = inVain addresses ++ [(address, false)] :=
  List.map_append

/-- What an outcome means. -/
def Concluded (w : Watch) (s : Session) (probes : List (Text × Bool)) : FirstOutcome → Prop
  | .ok (some address) =>
    ∃ before, before ++ [address] <+: s.found ∧ probes = inVain before ++ [(address, true)]
  | .ok none => s.reader = .done ∧ probes = inVain s.found ∧ s.failure = none ∧
      s.started + w.timeout ≤ s.now
  | .error e => s.reader = .done ∧ probes = inVain s.found ∧
      ∃ failure, s.failure = some failure ∧ e = captureStopped w failure

namespace FirstWatch

/-- What holds of the session, the iterator and the probes at a place of the caller. -/
def AtPlace (w : Watch) (s : FirstWatch) : FirstPlace → Prop
  | .outside => s.session.Unstopped w ∧ s.probes = []
  | .entered => s.session.Unstopped w ∧ s.probes = []
  | .looping => s.session.Unstopped w ∧ s.probes = inVain s.iterator.yielded
  | .awaiting => s.session.Unstopped w ∧ s.probes = inVain s.iterator.yielded ∧
      (s.iterator.place = .ending → s.iterator.yielded = s.session.found)
  | .probing address => s.session.Unstopped w ∧
      ∃ before, s.iterator.yielded = before ++ [address] ∧ s.probes = inVain before
  | .leaving outcome => Concluded w s.session s.probes outcome ∧
      (s.session.stopper 0 = .finishing → s.session.captureOpen = false)
  | .left outcome => Concluded w s.session s.probes outcome ∧ s.session.captureOpen = false

/-- The iterator follows the record, and the caller keeps its place. -/
def Kept (w : Watch) (s : FirstWatch) : Prop := s.watched.Following ∧ s.AtPlace w s.place

end FirstWatch

theorem Concluded.reader {s t : Session} {probes : List (Text × Bool)} {outcome : FirstOutcome}
    {a : SessionAction} (h : Concluded w s probes outcome) (ha : a.isReaders = true)
    (hstep : SessionStep w s a t) : Concluded w t probes outcome := by
  match outcome, h with
  | .ok (some address), ⟨before, hbefore, hprobes⟩ =>
    exact ⟨before, hbefore.trans (found_prefix_of_step hstep).1, hprobes⟩
  | .ok none, ⟨hdone, hprobes, hfailure, hlate⟩ =>
    obtain ⟨seconds, hseconds, rfl⟩ := Session.of_done hdone ha hstep
    exact ⟨hdone, hprobes, hfailure, hlate.trans (le_add_of_nonneg_right hseconds)⟩
  | .error e, ⟨hdone, hprobes, hfailure⟩ =>
    obtain ⟨seconds, hseconds, rfl⟩ := Session.of_done hdone ha hstep
    exact ⟨hdone, hprobes, hfailure⟩

theorem Concluded.stopping {s t : Session} {probes : List (Text × Bool)} {outcome : FirstOutcome}
    {a : SessionAction} (h : Concluded w s probes outcome)
    (ha : a ∈ stopSteps ∨ a = .stopped 0) (hstep : SessionStep w s a t) :
    Concluded w t probes outcome := by
  obtain ⟨hfound, hreader, hfailure, hstarted, hnow⟩ := Session.of_stopSteps ha hstep
  match outcome, h with
  | .ok (some address), h =>
    rw [Concluded, hfound]
    exact h
  | .ok none, h =>
    rw [Concluded, hfound, hreader, hfailure, hstarted, hnow]
    exact h
  | .error e, h =>
    rw [Concluded, hfound, hreader, hfailure]
    exact h

namespace FirstWatch

variable {s : FirstWatch}

/-- **The reader goes on under the caller.** -/
theorem AtPlace.reader {place : FirstPlace} {a : SessionAction} {t : Watched}
    (h : s.AtPlace w place) (hfollows : s.iterator.Follows s.session) (ha : a.isReaders = true)
    (hoffer : OfferStep w s.watched (.session a) t) :
    ({ s with watched := t } : FirstWatch).AtPlace w place := by
  cases hoffer with
  | session hstep =>
    cases place with
    | outside => exact ⟨h.1.step ha hstep, h.2⟩
    | entered => exact ⟨h.1.step ha hstep, h.2⟩
    | looping => exact ⟨h.1.step ha hstep, h.2⟩
    | awaiting =>
      obtain ⟨hunstopped, hprobes, hall⟩ := h
      refine ⟨hunstopped.step ha hstep, hprobes, ?_⟩
      intro hending
      -- the iterator has come to the end of a finished record
      have hdone := hunstopped.finished (hfollows.finished (Or.inl hending))
      obtain ⟨_, _, rfl⟩ := Session.of_done hdone ha hstep
      exact hall hending
    | probing address => exact ⟨h.1.step ha hstep, h.2⟩
    | leaving outcome =>
      obtain ⟨hcapture, hstopper⟩ := Session.of_isReaders ha hstep
      refine ⟨h.1.reader ha hstep, ?_⟩
      intro hfinishing
      exact hcapture.trans (h.2 ((congrFun hstopper 0).symm.trans hfinishing))
    | left outcome =>
      exact ⟨h.1.reader ha hstep, (Session.of_isReaders ha hstep).1.trans h.2⟩

theorem yielded_look (s : Session) (o : Offering) : (o.look s).yielded = o.yielded := by
  rw [Offering.look]
  split
  · rfl
  · split <;> rfl

/-- Nobody is about to return from `stop()` while nobody has stopped the session. -/
theorem not_finishing {s : Session} (h : s.Unstopped w) :
    s.stopper 0 = .finishing → s.captureOpen = false := by
  intro hfinishing
  rw [h.idle] at hfinishing
  cases hfinishing

theorem AtPlace.enter {t : Watched} (h : s.AtPlace w .outside)
    (hoffer : OfferStep w s.watched (.session .enter) t) :
    ({ s with watched := t, place := .entered } : FirstWatch).AtPlace w .entered := by
  cases hoffer with
  | session hsession => exact ⟨h.1.enter hsession, h.2⟩

theorem AtPlace.offers {t : Watched} (h : s.AtPlace w .entered)
    (hoffer : OfferStep w s.watched (.offers 0) t) :
    ({ s with watched := t, place := .looping } : FirstWatch).AtPlace w .looping := by
  cases hoffer with
  | offers =>
    refine ⟨h.1, ?_⟩
    rw [iterator, offering_setOffering_self]
    exact h.2

theorem AtPlace.next {t : Watched} (h : s.AtPlace w .looping)
    (hoffer : OfferStep w s.watched (.next 0) t) :
    ({ s with watched := t, place := .awaiting } : FirstWatch).AtPlace w .awaiting := by
  cases hoffer with
  | next =>
    refine ⟨h.1, ?_⟩
    rw [iterator, offering_setOffering_self]
    exact ⟨h.2, fun hending => by cases hending⟩

theorem AtPlace.look {t : Watched} (h : s.AtPlace w .awaiting)
    (hfollows : s.iterator.Follows s.session) (hoffer : OfferStep w s.watched (.look 0) t) :
    ({ s with watched := t } : FirstWatch).AtPlace w .awaiting := by
  obtain ⟨hunstopped, hprobes, _⟩ := h
  cases hoffer with
  | look hlooking =>
    refine ⟨hunstopped, ?_⟩
    rw [iterator, offering_setOffering_self]
    refine ⟨?_, fun hending => hfollows.eq_found_of_look hlooking (Or.inl hending)⟩
    rw [yielded_look]
    exact hprobes

theorem AtPlace.take {address : Text} {t : Watched} (h : s.AtPlace w .awaiting)
    (hoffer : OfferStep w s.watched (.yield 0 address) t) :
    ({ s with watched := t, place := .probing address } : FirstWatch).AtPlace w
      (.probing address) := by
  cases hoffer with
  | yield =>
    refine ⟨h.1, s.iterator.yielded, ?_, h.2.1⟩
    rw [iterator, offering_setOffering_self]
    rfl

theorem AtPlace.probe {address : Text} (h : s.AtPlace w (.probing address))
    (hfollows : s.iterator.Follows s.session) (answer : Bool) (place : FirstPlace) :
    ({ s with place := place, probes := s.probes ++ [(address, answer)] } : FirstWatch).AtPlace w
      (if answer then .leaving (.ok (some address)) else .looping) := by
  obtain ⟨hunstopped, before, hyielded, hprobes⟩ := h
  cases answer with
  | true =>
    refine ⟨⟨before, ?_, by rw [hprobes]⟩, ?_⟩
    · rw [← hyielded]
      exact hfollows.yielded
    · exact not_finishing hunstopped
  | false =>
    refine ⟨hunstopped, ?_⟩
    show s.probes ++ [(address, false)] = inVain s.iterator.yielded
    rw [hyielded, inVain_concat, hprobes]

/-- An iterator at its end has yielded the whole record, and its reader is done. -/
theorem AtPlace.of_ending (h : s.AtPlace w .awaiting) (hfollows : s.iterator.Follows s.session)
    (hending : s.iterator.place = .ending) :
    s.session.Unstopped w ∧ s.session.reader = .done ∧ s.probes = inVain s.session.found := by
  obtain ⟨hunstopped, hprobes, hall⟩ := h
  refine ⟨hunstopped, hunstopped.finished (hfollows.finished (Or.inl hending)), ?_⟩
  rw [hprobes, hall hending]

theorem AtPlace.exhaust {t : Watched} (h : s.AtPlace w .awaiting)
    (hfollows : s.iterator.Follows s.session) (hoffer : OfferStep w s.watched (.conclude 0) t) :
    ({ s with watched := t, place := .leaving (.ok none) } : FirstWatch).AtPlace w
      (.leaving (.ok none)) := by
  cases hoffer with
  | conclude hending hfailure =>
    obtain ⟨hunstopped, hdone, hprobes⟩ := h.of_ending hfollows hending
    refine ⟨⟨hdone, hprobes, hfailure, ?_⟩, not_finishing hunstopped⟩
    exact (hunstopped.ended (Or.inr hdone)).resolve_left (not_not.mpr hfailure)

theorem AtPlace.fail {e : PyError} {t : Watched} (h : s.AtPlace w .awaiting)
    (hfollows : s.iterator.Follows s.session) (hoffer : OfferStep w s.watched (.raise 0 e) t) :
    ({ s with watched := t, place := .leaving (.error e) } : FirstWatch).AtPlace w
      (.leaving (.error e)) := by
  cases hoffer with
  | raise hending hfailure =>
    obtain ⟨hunstopped, hdone, hprobes⟩ := h.of_ending hfollows hending
    exact ⟨⟨hdone, hprobes, _, hfailure, rfl⟩, not_finishing hunstopped⟩

/-- `stop()` changes no outcome, and it is about to return when it has closed the capture. -/
theorem AtPlace.stop {outcome : FirstOutcome} {a : SessionAction} {t : Watched}
    (h : s.AtPlace w (.leaving outcome)) (ha : a ∈ stopSteps)
    (hoffer : OfferStep w s.watched (.session a) t) :
    ({ s with watched := t } : FirstWatch).AtPlace w (.leaving outcome) := by
  cases hoffer with
  | session hsession =>
    refine ⟨h.1.stopping (Or.inl ha) hsession, ?_⟩
    simp only [stopSteps, List.mem_cons, List.not_mem_nil, or_false] at ha
    intro hfinishing
    rcases ha with rfl | rfl | rfl
    · cases hsession
      simp [session, Session.setStopper] at hfinishing
    · cases hsession
      simp [session, Session.setStopper] at hfinishing
    · cases hsession
      rfl

theorem AtPlace.leave {outcome : FirstOutcome} {t : Watched} (h : s.AtPlace w (.leaving outcome))
    (hoffer : OfferStep w s.watched (.session (.stopped 0)) t) :
    ({ s with watched := t, place := .left outcome } : FirstWatch).AtPlace w (.left outcome) := by
  cases hoffer with
  | session hsession =>
    refine ⟨h.1.stopping (Or.inr rfl) hsession, ?_⟩
    cases hsession with
    | stopped hfinishing => exact h.2 hfinishing

/-- **Every step keeps what holds at the place of the caller.** -/
theorem Kept.step {t : FirstWatch} {a : FirstAction} (h : s.Kept w) (hstep : FirstStep w s a t) :
    t.Kept w := by
  obtain ⟨hfollowing, hplace⟩ := h
  have hfollows := hfollowing 0
  cases hstep with
  | reader ha hoffer => exact ⟨hfollowing.step hoffer, hplace.reader hfollows ha hoffer⟩
  | enter hat hoffer => exact ⟨hfollowing.step hoffer, (hat ▸ hplace).enter hoffer⟩
  | offers hat hoffer => exact ⟨hfollowing.step hoffer, (hat ▸ hplace).offers hoffer⟩
  | next hat hoffer => exact ⟨hfollowing.step hoffer, (hat ▸ hplace).next hoffer⟩
  | look hat hoffer =>
    rw [hat] at hplace
    refine ⟨hfollowing.step hoffer, ?_⟩
    rw [hat]
    exact hplace.look hfollows hoffer
  | take hat hoffer => exact ⟨hfollowing.step hoffer, (hat ▸ hplace).take hoffer⟩
  | probe hat => exact ⟨hfollowing, (hat ▸ hplace).probe hfollows _ _⟩
  | exhaust hat hoffer => exact ⟨hfollowing.step hoffer, (hat ▸ hplace).exhaust hfollows hoffer⟩
  | fail hat hoffer => exact ⟨hfollowing.step hoffer, (hat ▸ hplace).fail hfollows hoffer⟩
  | stop hat ha hoffer =>
    rw [hat] at hplace
    refine ⟨hfollowing.step hoffer, ?_⟩
    rw [hat]
    exact hplace.stop ha hoffer
  | leave hat hoffer => exact ⟨hfollowing.step hoffer, (hat ▸ hplace).leave hoffer⟩

theorem kept_of_run {as : List FirstAction} (h : Steps (FirstStep w) .initial as s) :
    s.Kept w := by
  refine h.invariant ?_ fun hkept hstep => hkept.step hstep
  have hnil : Steps (OfferStep w) .initial [] .initial := .nil Watched.initial
  exact ⟨following_of_run hnil, Session.unstopped_initial, rfl⟩

end FirstWatch

/-- **The first address of the record that answers is returned**, in every run: the addresses
before it have been asked in vain.  `None` is returned only when the window is over and all of
the record has been asked in vain, an error only for a failure of the reader; and the capture
has been released by then. -/
theorem first_reachable (w : Watch) {as : List FirstAction} {s : FirstWatch}
    (h : Steps (FirstStep w) .initial as s) {outcome : FirstOutcome}
    (hleft : s.place = .left outcome) :
    (∀ address, outcome = .ok (some address) → ∃ before,
      before ++ [address] <+: s.session.found ∧ s.probes = inVain before ++ [(address, true)]) ∧
    (outcome = .ok none → s.probes = inVain s.session.found ∧
      s.session.started + w.timeout ≤ s.session.now) ∧
    (∀ e, outcome = .error e → s.probes = inVain s.session.found ∧
      ∃ failure, s.session.failure = some failure ∧ e = captureStopped w failure) ∧
    s.session.captureOpen = false := by
  obtain ⟨_, hplace⟩ := FirstWatch.kept_of_run h
  rw [hleft] at hplace
  obtain ⟨hconcluded, hclosed⟩ := hplace
  refine ⟨?_, ?_, ?_, hclosed⟩
  · rintro address rfl
    exact hconcluded
  · rintro rfl
    obtain ⟨_, hprobes, _, hlate⟩ := hconcluded
    exact ⟨hprobes, hlate⟩
  · rintro e rfl
    obtain ⟨_, hprobes, hfailure⟩ := hconcluded
    exact ⟨hprobes, hfailure⟩

/-- An address is offered, is asked and answers. -/
theorem first_reachable_of_an_offer :
    ∃ s, Steps (FirstStep defaultWatch) .initial
      [.enter, .offers, .next, .reader .look, .reader .time,
        .reader (.receive (some (offer 0))), .reader .absorb, .look,
        .take "192.0.2.50".toList, .probe true, .stop (.stop 0), .stop (.join 0),
        .stop (.close 0), .leave] s ∧
      s.place = .left (.ok (some "192.0.2.50".toList)) ∧
      ∃ before, before ++ ["192.0.2.50".toList] <+: s.session.found ∧
        s.probes = inVain before ++ [("192.0.2.50".toList, true)] := by
  obtain ⟨s, hrun, hleft⟩ : ∃ s, Steps (FirstStep defaultWatch) .initial
      [.enter, .offers, .next, .reader .look, .reader .time,
        .reader (.receive (some (offer 0))), .reader .absorb, .look,
        .take "192.0.2.50".toList, .probe true, .stop (.stop 0), .stop (.join 0),
        .stop (.close 0), .leave] s ∧ s.place = .left (.ok (some "192.0.2.50".toList)) :=
    ⟨_, .cons (.enter rfl (.session (.enter rfl))) <| .cons (.offers rfl (.offers rfl)) <|
      .cons (.next rfl (.next rfl)) <| .cons (.reader rfl (.session (.look rfl))) <|
      .cons (.reader rfl (.session (.time rfl))) <|
      .cons (.reader rfl (.session (.receive (by decide +kernel)))) <|
      .cons (.reader rfl (.session (.absorb rfl (absorb_offer _)))) <|
      .cons (.look rfl (.look (by decide +kernel))) <|
      .cons (.take rfl (.yield (by decide +kernel))) <| .cons (.probe rfl) <|
      .cons (.stop rfl (by decide) (.session (.stop (by decide +kernel)))) <|
      .cons (.stop rfl (by decide) (.session (.join (by decide +kernel)))) <|
      .cons (.stop rfl (by decide) (.session (.close (by decide +kernel)))) <|
      .single (.leave rfl (.session (.stopped (by decide +kernel)))), rfl⟩
  exact ⟨s, hrun, hleft, (first_reachable defaultWatch hrun hleft).1 _ rfl⟩

end IPScout
