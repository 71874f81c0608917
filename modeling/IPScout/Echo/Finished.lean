import IPScout.Echo.Async

/-!
# Finished neighbours

A future that is done stays registered until its probe resumes, so between two callbacks there
are waiters that need nothing any more.  `_settle` counts them: an error that quotes no token goes
to the one probe it concerns, and a finished probe of the same sequence makes two of it.

`settle_reaches_iff` says when the one probe that still waits receives the error, in any state.
-/

namespace IPScout

open Base

def namedBy (socket : EchoSocket) (s : AsyncTransport) (error : IcmpError) :
    List (Token × Waiter) :=
  s.waiters.entries.filter fun e => concerns error e.2.probe socket.ownDestination

def waitingFor (socket : EchoSocket) (s : AsyncTransport) (error : IcmpError) :
    List (Token × Waiter) := (namedBy socket s error).filter fun e => !e.2.answer.done

/-- If one probe alone still waits of those an error concerns, it receives the error. -/
def ReachesTheOneWaiting (socket : EchoSocket) (s : AsyncTransport) (error : IcmpError) : Prop :=
  ∀ token w, waitingFor socket s error = [(token, w)] →
    s.settle socket error = some (s.resolve token w error.arrival)

/-- A probe the error concerns is finished and still registered. -/
def HasFinishedNeighbour (socket : EchoSocket) (s : AsyncTransport) (error : IcmpError) : Prop :=
  ∃ token w, s.waiters.get? token = some w ∧
    concerns error w.probe socket.ownDestination = true ∧ w.answer.done = true

variable {socket : EchoSocket} {s : AsyncTransport} {error : IcmpError}

theorem settle_eq (socket : EchoSocket) (s : AsyncTransport) (error : IcmpError) :
    s.settle socket error = match namedBy socket s error with
      | [(token, w)] => if w.answer.done then some s else s.setResult token w error.arrival
      | _ => some s := rfl

theorem settle_of_one_named {token : Token} {w : Waiter}
    (hnamed : namedBy socket s error = [(token, w)]) (hdone : w.answer.done = false) :
    s.settle socket error = some (s.resolve token w error.arrival) := by
  rw [settle_eq, hnamed]
  dsimp only
  rw [hdone, if_neg Bool.false_ne_true, AsyncTransport.setResult, hdone,
    if_neg Bool.false_ne_true]

theorem settle_of_two_named {e e' : Token × Waiter} (he : e ∈ namedBy socket s error)
    (he' : e' ∈ namedBy socket s error) (hne : e ≠ e') : s.settle socket error = some s := by
  rw [settle_eq]
  split
  · next token w hnamed =>
    rw [hnamed, List.mem_singleton] at he he'
    exact absurd (he.trans he'.symm) hne
  · rfl

theorem mem_waitingFor {e : Token × Waiter} : e ∈ waitingFor socket s error ↔
    e ∈ namedBy socket s error ∧ e.2.answer.done = false := by
  rw [waitingFor, List.mem_filter, Bool.not_eq_true']

/-- Without a finished neighbour all that are named still wait. -/
theorem waitingFor_eq_namedBy (h : ¬ HasFinishedNeighbour socket s error) :
    waitingFor socket s error = namedBy socket s error := by
  rw [waitingFor, List.filter_eq_self]
  intro e he
  obtain ⟨hentry, hconcerns⟩ := List.mem_filter.mp he
  by_contra hdone
  rw [Bool.not_eq_true, Bool.not_eq_false'] at hdone
  exact h ⟨e.1, e.2, Dict.get?_eq_some_iff.mpr hentry, hconcerns, hdone⟩

theorem resolve_ne_self (s : AsyncTransport) (token : Token) (w : Waiter) (r : Option Arrival) :
    s.resolve token w r ≠ s := by
  intro hsame
  have hlength := congrArg (fun t => t.answered.length) hsame
  simp [AsyncTransport.resolve] at hlength

/-- **Where it has a finished neighbour the one that still waits is passed over.** -/
theorem settle_of_finishedNeighbour {token : Token} {w : Waiter}
    (hwaiting : waitingFor socket s error = [(token, w)])
    (hneighbour : HasFinishedNeighbour socket s error) : s.settle socket error = some s := by
  obtain ⟨k, v, hget, hconcerns, hdone⟩ := hneighbour
  have hw : (token, w) ∈ waitingFor socket s error := by
    rw [hwaiting]
    exact List.mem_singleton_self _
  obtain ⟨hnamed, hpending⟩ := mem_waitingFor.mp hw
  have hv : (k, v) ∈ namedBy socket s error :=
    List.mem_filter.mpr ⟨Dict.get?_eq_some_iff.mp hget, hconcerns⟩
  refine settle_of_two_named hnamed hv ?_
  intro hsame
  rw [← (Prod.mk.inj hsame).2, hpending] at hdone
  exact Bool.false_ne_true hdone

/-- **The one probe that still waits receives an error exactly when no finished probe is
concerned as well**, in every state of the transport and for every error, with a token or
without one. -/
theorem settle_reaches_iff (socket : EchoSocket) (s : AsyncTransport) (error : IcmpError) :
    ReachesTheOneWaiting socket s error ↔
      ¬ ((waitingFor socket s error).length = 1 ∧ HasFinishedNeighbour socket s error) := by
  constructor
  · rintro hreaches ⟨hone, hneighbour⟩
    obtain ⟨⟨token, w⟩, hwaiting⟩ := List.length_eq_one_iff.mp hone
    have hlost := settle_of_finishedNeighbour hwaiting hneighbour
    rw [hreaches token w hwaiting, Option.some.injEq] at hlost
    exact resolve_ne_self s token w _ hlost
  · intro hcond token w hwaiting
    have hnone : ¬ HasFinishedNeighbour socket s error := by
      intro hneighbour
      exact hcond ⟨by rw [hwaiting]; rfl, hneighbour⟩
    have hw : (token, w) ∈ waitingFor socket s error := by
      rw [hwaiting]
      exact List.mem_singleton_self _
    rw [waitingFor_eq_namedBy hnone] at hwaiting
    exact settle_of_one_named hwaiting (mem_waitingFor.mp hw).2

theorem settleDatagram_of_error {raw : Octets} {peer : Text} {finished : ℚ} {parsed : ParsedReply}
    (hparsed : parseEchoReply raw = some parsed)
    (hreply : isEchoReply parsed socket.family = false)
    (herror : timeExceededDatagram raw peer finished socket.family = some error) :
    s.settleDatagram socket raw peer finished = s.settle socket error := by
  rw [AsyncTransport.settleDatagram, hparsed, Option.bind_some, hreply,
    if_neg Bool.false_ne_true]
  simp only [herror]

/-- Two probes of one sequence, of which the first is answered; before it resumes, a router quotes
eight octets of the second one's request, and nothing becomes of it. -/
theorem error_lost_to_a_finished_probe :
    let socket : EchoSocket := ⟨.IPV4, some [192, 0, 2, 1]⟩
    let answered : Probe := ⟨7, ⟨[1, 2, 3, 4, 5, 6, 7, 8], rfl⟩, some 1, true⟩
    let waiting : Probe := ⟨7, ⟨[8, 7, 6, 5, 4, 3, 2, 1], rfl⟩, some 1, true⟩
    let reply : Octets := [0, 0, 0, 0, 0, 1, 0, 7] ++ MAGIC ++ answered.token.val
    let expired : Octets := [11, 0, 0, 0, 0, 0, 0, 0] ++
      [0x45, 0, 0, 0x2c, 0, 0, 0, 0, 1, 1, 0, 0, 10, 0, 0, 1, 192, 0, 2, 1] ++
      [8, 0, 0, 0, 0, 1, 0, 7]
    let as : List AsyncAction :=
      [.start answered, .start waiting, .datagram reply "192.0.2.1".toList 1]
    ∃ s error, Steps (AsyncStep socket) .initial as s ∧ FreshTokens as ∧
      s.waiters.get? waiting.token = some ⟨waiting, .pending⟩ ∧
      timeExceededDatagram expired "198.51.100.1".toList 2 .IPV4 = some error ∧
      error.probe.token = none ∧
      s.settleDatagram socket expired "198.51.100.1".toList 2 = some s ∧
      ¬ ReachesTheOneWaiting socket s error := by
  intro socket answered waiting reply expired as
  let started := (AsyncTransport.initial.register answered).register waiting
  let s := started.resolve answered.token ⟨answered, .pending⟩
    (some ⟨1, "192.0.2.1".toList, false⟩)
  let error : IcmpError := ⟨⟨8, 0, 1, 7, none⟩, some [192, 0, 2, 1],
    some ⟨2, "198.51.100.1".toList, true⟩⟩
  have hparsed : parseEchoReply reply =
      some ⟨0, 0, 1, 7, some ⟨answered.token, [], Nat.zero_le _⟩⟩ := by
    decide +kernel
  have hreply : started.settleDatagram socket reply "192.0.2.1".toList 1 = some s := by
    rw [AsyncTransport.settleDatagram, hparsed]
    rfl
  have herror : timeExceededDatagram expired "198.51.100.1".toList 2 .IPV4 = some error := by
    decide +kernel
  have hwaiting : waitingFor socket s error = [(waiting.token, ⟨waiting, .pending⟩)] := by
    decide +kernel
  have hpassed : s.settle socket error = some s :=
    settle_of_finishedNeighbour hwaiting ⟨answered.token, _, rfl, rfl, rfl⟩
  have hquoted : parseEchoReply expired = some ⟨11, 0, 0, 0, none⟩ := by decide +kernel
  have hlost : s.settleDatagram socket expired "198.51.100.1".toList 2 = some s := by
    rw [settleDatagram_of_error hquoted (by decide) herror]
    exact hpassed
  refine ⟨s, error, ?_, ?_, by decide, herror, rfl, hlost, ?_⟩
  · exact .cons .start (.cons .start (.single (.datagram hreply)))
  · show ([answered.token, waiting.token] : List Token).Nodup
    decide
  · intro hreaches
    have hreached := hreaches _ _ hwaiting
    rw [hpassed, Option.some.injEq] at hreached
    exact resolve_ne_self s _ _ _ hreached.symm

end IPScout
