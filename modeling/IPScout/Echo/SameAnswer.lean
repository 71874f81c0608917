import IPScout.Echo.Async

/-!
# The two transports on one datagram

The synchronous transport compares a reply with the probe field by field
(`answerIn`); the asynchronous one looks it up by its token (`settleDatagram`).
With one probe outstanding, what the latter resolves the probe's future with is
`loneAnswer`.

Both read a Time Exceeded the same way, so they can differ on an echo reply only,
and there they differ on a reply with the probe's token and another sequence and
on nothing else (`sameAnswer_iff`).
-/

namespace IPScout

open Base AsyncTransport

/-! ### One probe outstanding -/

/-- What settling a datagram resolves a future with, its probe the only one
outstanding. -/
def loneAnswer (socket : EchoSocket) (raw : Octets) (peer : Text) (finished : ℚ) (probe : Probe) :
    Option (Option Arrival) :=
  match (initial.register probe).settleDatagram socket raw peer finished with
  | none => none
  | some t =>
    match t.waiters.get? probe.token with
    | some ⟨_, .resolved r⟩ => some r
    | _ => none

/-- The datagram is an echo reply with the probe's token and another sequence. -/
def StaleSequence (family : AddressFamily) (probe : Probe) (raw : Octets) : Prop :=
  ∃ parsed, parseEchoReply raw = some parsed ∧ isEchoReply parsed family = true ∧
    parsed.token = some probe.token ∧ parsed.sequence ≠ probe.sequence

/-- One transport gives an arrival exactly when the other does, the two have one
source and one `ttl_expired`, and a reply either accepts carries the probe's
sequence and token. -/
def SameAnswer (socket : EchoSocket) (probe : Probe) (raw : Octets) (peer : Text) : Prop :=
  ∀ now later,
    ((answerIn socket raw peer now probe).isSome = true ↔
      (loneAnswer socket raw peer later probe).isSome = true) ∧
    (∀ a r, answerIn socket raw peer now probe = some a →
      loneAnswer socket raw peer later probe = some r →
      ∃ b, r = some b ∧ a.source = b.source ∧ a.ttlExpired = b.ttlExpired) ∧
    (∀ parsed, parseEchoReply raw = some parsed → isEchoReply parsed socket.family = true →
      (answerIn socket raw peer now probe).isSome = true ∨
        (loneAnswer socket raw peer later probe).isSome = true →
      parsed.sequence = probe.sequence ∧ parsed.token = some probe.token)

@[simp] theorem get?_register (s : AsyncTransport) (probe : Probe) :
    (s.register probe).waiters.get? probe.token = some ⟨probe, .pending⟩ :=
  Dict.get?_set_self _ _ _

@[simp] theorem get?_resolve (s : AsyncTransport) (token : Token) (w : Waiter)
    (r : Option Arrival) :
    (s.resolve token w r).waiters.get? token = some { w with answer := .resolved r } :=
  Dict.get?_set_self _ _ _

/-! ### Each transport by the kind of datagram -/

theorem loneAnswer_of_isEchoReply {socket : EchoSocket} {raw : Octets} {peer : Text}
    {finished : ℚ} {probe : Probe} {parsed : ParsedReply}
    (hparsed : parseEchoReply raw = some parsed)
    (hreply : isEchoReply parsed socket.family = true) :
    loneAnswer socket raw peer finished probe
      = if parsed.token = some probe.token then some (some ⟨finished, peer, false⟩) else none := by
  have hno : timeExceededDatagram raw peer finished socket.family = none := by
    rw [timeExceededDatagram, quotedEchoRequest_of_isEchoReply hparsed hreply]
  rw [loneAnswer, settleDatagram, hparsed, Option.bind_some, if_pos hreply]
  cases htoken : parsed.token with
  | none => simp [hno]
  | some token =>
    by_cases htk : token = probe.token
    · subst htk
      simp [Future.done, setResult]
    · have hget : (initial.register probe).waiters.get? token = none :=
        Dict.get?_set_of_ne _ _ htk
      simp [hget, htk]

theorem loneAnswer_of_not_isEchoReply {socket : EchoSocket} {raw : Octets} {peer : Text}
    {finished : ℚ} {probe : Probe}
    (hno : ∀ parsed, parseEchoReply raw = some parsed → isEchoReply parsed socket.family = false) :
    loneAnswer socket raw peer finished probe
      = ((timeExceededDatagram raw peer finished socket.family).filter
          (concerns · probe socket.ownDestination)).map IcmpError.arrival := by
  have hbind : ((parseEchoReply raw).bind fun parsed =>
      if isEchoReply parsed socket.family then parsed.token else none) = none := by
    rw [Option.bind_eq_none_iff]
    intro parsed hparsed
    rw [hno parsed hparsed]
    rfl
  rw [loneAnswer, settleDatagram, hbind]
  cases timeExceededDatagram raw peer finished socket.family with
  | none => simp
  | some error =>
    have hentries : (initial.register probe).waiters.entries
        = [(probe.token, ⟨probe, .pending⟩)] := rfl
    by_cases hc : concerns error probe socket.ownDestination = true
    · simp [settle, hentries, hc, Future.done, setResult, Option.filter]
    · simp [settle, hentries, hc, Option.filter]

theorem answerIn_of_isEchoReply {socket : EchoSocket} {raw : Octets} {peer : Text}
    {finished : ℚ} {probe : Probe} {parsed : ParsedReply}
    (hparsed : parseEchoReply raw = some parsed)
    (hreply : isEchoReply parsed socket.family = true) :
    answerIn socket raw peer finished probe
      = if parsed.sequence = probe.sequence ∧ parsed.token = some probe.token
        then some ⟨finished, peer, false⟩ else none := by
  have hno : timeExceededDatagram raw peer finished socket.family = none := by
    rw [timeExceededDatagram, quotedEchoRequest_of_isEchoReply hparsed hreply]
  rw [answerIn, hparsed, hno, Option.filter_some]
  by_cases hours : parsed.sequence = probe.sequence ∧ parsed.token = some probe.token
  · simp [replyMatches, hreply, hours]
  · have hnot : replyMatches parsed probe.sequence probe.token socket.family = false := by
      rw [← Bool.not_eq_true, replyMatches_iff]
      exact fun h => hours h.2
    simp [hnot, hours]

theorem answerIn_of_not_isEchoReply {socket : EchoSocket} {raw : Octets} {peer : Text}
    {finished : ℚ} {probe : Probe}
    (hno : ∀ parsed, parseEchoReply raw = some parsed → isEchoReply parsed socket.family = false) :
    answerIn socket raw peer finished probe
      = ((timeExceededDatagram raw peer finished socket.family).filter
          (concerns · probe socket.ownDestination)).bind IcmpError.arrival := by
  have hfilter : (parseEchoReply raw).filter
      (replyMatches · probe.sequence probe.token socket.family) = none := by
    rw [Option.filter_eq_none_iff]
    intro parsed hparsed
    simp [replyMatches, hno parsed hparsed]
  rw [answerIn, hfilter]
  cases timeExceededDatagram raw peer finished socket.family with
  | none => rfl
  | some error =>
    by_cases hc : concerns error probe socket.ownDestination = true
    · simp [hc, Option.filter]
    · simp [hc, Option.filter]

/-! ### Where they agree -/

theorem sameAnswer_of_isEchoReply {socket : EchoSocket} {probe : Probe} {raw : Octets}
    {peer : Text} {parsed : ParsedReply} (hparsed : parseEchoReply raw = some parsed)
    (hreply : isEchoReply parsed socket.family = true) : SameAnswer socket probe raw peer ↔
      (parsed.token = some probe.token → parsed.sequence = probe.sequence) := by
  constructor
  · intro h htoken
    have hacc : (loneAnswer socket raw peer 0 probe).isSome = true := by
      rw [loneAnswer_of_isEchoReply hparsed hreply, if_pos htoken]
      rfl
    exact ((h 0 0).2.2 parsed hparsed hreply (Or.inr hacc)).1
  · intro h now later
    rw [answerIn_of_isEchoReply hparsed hreply, loneAnswer_of_isEchoReply hparsed hreply]
    by_cases htoken : parsed.token = some probe.token
    · rw [if_pos ⟨h htoken, htoken⟩, if_pos htoken]
      refine ⟨Iff.rfl, ?_, ?_⟩
      · intro a r ha hr
        rw [← Option.some.inj ha, ← Option.some.inj hr]
        exact ⟨_, rfl, rfl, rfl⟩
      · intro other hother _ _
        rw [hparsed, Option.some.injEq] at hother
        rw [← hother]
        exact ⟨h htoken, htoken⟩
    · rw [if_neg (fun hours => htoken hours.2), if_neg htoken]
      simp

theorem sameAnswer_of_not_isEchoReply {socket : EchoSocket} {probe : Probe} {raw : Octets}
    {peer : Text}
    (hno : ∀ parsed, parseEchoReply raw = some parsed → isEchoReply parsed socket.family = false) :
    SameAnswer socket probe raw peer := by
  intro now later
  rw [answerIn_of_not_isEchoReply hno, loneAnswer_of_not_isEchoReply hno]
  refine ⟨?_, ?_, ?_⟩
  · rw [timeExceededDatagram, timeExceededDatagram]
    cases quotedEchoRequest raw socket.family with
    | none => simp
    | some quoted =>
      -- whether it concerns the probe does not depend on the clock
      have hclock : concerns ⟨quoted.request, some quoted.destination, some ⟨now, peer, true⟩⟩
          probe socket.ownDestination = concerns ⟨quoted.request, some quoted.destination,
            some ⟨later, peer, true⟩⟩ probe socket.ownDestination := rfl
      rw [Option.filter_some, Option.filter_some, hclock]
      split
      · exact Iff.rfl
      · exact Iff.rfl
  · intro a r ha hr
    obtain ⟨e, he, hea⟩ := Option.bind_eq_some_iff.mp ha
    obtain ⟨f, hf, hfr⟩ := Option.map_eq_some_iff.mp hr
    rw [arrival_of_timeExceededDatagram (Option.filter_eq_some_iff.mp he).1] at hea
    rw [arrival_of_timeExceededDatagram (Option.filter_eq_some_iff.mp hf).1] at hfr
    rw [← Option.some.inj hea, ← hfr]
    exact ⟨_, rfl, rfl, rfl⟩
  · intro parsed hparsed hreply
    rw [hno parsed hparsed] at hreply
    simp at hreply

/-- **The transports accept the same answers exactly on datagrams without a stale
sequence**: the asynchronous one looks a reply up by its token alone. -/
theorem sameAnswer_iff (socket : EchoSocket) (probe : Probe) (raw : Octets) (peer : Text) :
    SameAnswer socket probe raw peer ↔ ¬ StaleSequence socket.family probe raw := by
  by_cases h : ∃ parsed, parseEchoReply raw = some parsed ∧
      isEchoReply parsed socket.family = true
  · obtain ⟨parsed, hparsed, hreply⟩ := h
    rw [sameAnswer_of_isEchoReply hparsed hreply]
    constructor
    · rintro h ⟨other, hother, _, htoken, hseq⟩
      rw [hparsed, Option.some.injEq] at hother
      subst hother
      exact hseq (h htoken)
    · intro h htoken
      by_contra hseq
      exact h ⟨parsed, hparsed, hreply, htoken, hseq⟩
  · have hno : ∀ parsed, parseEchoReply raw = some parsed →
        isEchoReply parsed socket.family = false := by
      intro parsed hparsed
      by_contra hreply
      exact h ⟨parsed, hparsed, by simpa using hreply⟩
    apply iff_of_true (sameAnswer_of_not_isEchoReply hno)
    rintro ⟨parsed, hparsed, hreply, _⟩
    exact h ⟨parsed, hparsed, hreply⟩

/-- A reply with the token of probe 1 and sequence 2 is no answer to the synchronous
transport and resolves the asynchronous one's future. -/
theorem sameAnswer_fails_on_a_stale_sequence :
    let probe : Probe := ⟨1, ⟨[1, 2, 3, 4, 5, 6, 7, 8], rfl⟩, none, false⟩
    let raw : Octets := [0, 0, 0, 0, 0, 0, 0, 2] ++ MAGIC ++ probe.token.val
    answerIn ⟨.IPV4, none⟩ raw "192.0.2.1".toList 1 probe = none ∧
      loneAnswer ⟨.IPV4, none⟩ raw "192.0.2.1".toList 1 probe
        = some (some ⟨1, "192.0.2.1".toList, false⟩) ∧
      ¬ SameAnswer ⟨.IPV4, none⟩ probe raw "192.0.2.1".toList := by
  intro probe raw
  have hsync : answerIn ⟨.IPV4, none⟩ raw "192.0.2.1".toList 1 probe = none := by decide +kernel
  have hasync : loneAnswer ⟨.IPV4, none⟩ raw "192.0.2.1".toList 1 probe
      = some (some ⟨1, "192.0.2.1".toList, false⟩) := by decide +kernel
  refine ⟨hsync, hasync, fun h => ?_⟩
  have := (h 1 1).1
  rw [hsync, hasync] at this
  simp at this

end IPScout
