import IPScout.Echo.IcmpError

/-!
# The synchronous wait

`PosixEchoTransport._await` reads its socket until something answers the probe
or the deadline passes.  What it sees is a list of turns, each the clock read at
the head of the loop and what the read then gave: a datagram, or an `OSError`
behind which the error queue held some entries.  A list that ends is a wait that
reached its deadline, or a read that timed out.

A turn before the deadline either ends the wait (`ending`) or leaves it as it
was, so the wait returns what the first ending turn says (`await_eq_findSome`).
`trim` removes every item that does not answer the probe, whole datagrams and
single entries of a queue alike, and no turn's ending changes by it
(`ending_trimEvent`): foreign traffic cannot change a probe's outcome
(`await_ignores_foreign_traffic`).
-/

namespace IPScout

open Base

/-- What one read of the socket gave. -/
inductive Event
  | datagram (raw : Octets) (peer : Text) (finished : ℚ)
  | oserror (entries : List QueueEntry)

/-- `_answer_in`: the answer a received datagram gives this probe. -/
def answerIn (socket : EchoSocket) (raw : Octets) (peer : Text) (finished : ℚ) (probe : Probe) :
    Option Arrival :=
  match (parseEchoReply raw).filter (replyMatches · probe.sequence probe.token socket.family) with
  | some _ => some ⟨finished, peer, false⟩
  | none =>
    match timeExceededDatagram raw peer finished socket.family with
    | none => none
    | some error => if concerns error probe socket.ownDestination then error.arrival else none

def await (socket : EchoSocket) (probe : Probe) (deadline : ℚ) : List (ℚ × Event) → Option Arrival
  | [] => none
  | (now, event) :: rest =>
    if deadline ≤ now then none
    else
      match event with
      | .oserror entries =>
        match drainErrors entries socket.family with
        -- an error with no entry behind it cannot be about another probe
        | none => none
        | some errors =>
          match concerning errors probe socket.ownDestination with
          | some mine => mine.arrival
          | none => await socket probe deadline rest
      | .datagram raw peer finished =>
        match answerIn socket raw peer finished probe with
        | some arrival => some arrival
        | none => await socket probe deadline rest

/-! ### What ends the wait -/

/-- How a turn ends the wait, if it does. -/
def ending (socket : EchoSocket) (probe : Probe) : Event → Option (Option Arrival)
  | .datagram raw peer finished => (answerIn socket raw peer finished probe).map some
  | .oserror entries =>
    match drainErrors entries socket.family with
    | none => some none
    | some errors => (concerning errors probe socket.ownDestination).map IcmpError.arrival

theorem ending_datagram (socket : EchoSocket) (probe : Probe) (raw : Octets) (peer : Text)
    (finished : ℚ) : ending socket probe (.datagram raw peer finished)
      = (answerIn socket raw peer finished probe).map some := rfl

theorem ending_oserror {socket : EchoSocket} {probe : Probe} {entries : List QueueEntry}
    (h : entries ≠ []) : ending socket probe (.oserror entries)
      = (concerning (entries.filterMap (fun entry => queuedError entry socket.family)) probe
          socket.ownDestination).map IcmpError.arrival := by
  cases entries with
  | nil => exact absurd rfl h
  | cons _ _ => rfl

/-- **The wait returns what the first ending turn says.** -/
theorem await_eq_findSome (socket : EchoSocket) (probe : Probe) {deadline : ℚ}
    {events : List (ℚ × Event)} (hbefore : ∀ turn ∈ events, turn.1 < deadline) :
    await socket probe deadline events
      = (events.findSome? (fun turn => ending socket probe turn.2)).join := by
  induction events with
  | nil => rfl
  | cons turn rest ih =>
    obtain ⟨now, event⟩ := turn
    have hnow : ¬ deadline ≤ now := not_le.mpr (hbefore _ List.mem_cons_self)
    have ih := ih (fun turn h => hbefore turn (List.mem_cons_of_mem _ h))
    unfold await
    rw [if_neg hnow, List.findSome?_cons]
    cases event with
    | datagram raw peer finished =>
      rw [ending_datagram]
      dsimp only
      cases answerIn socket raw peer finished probe with
      | none => exact ih
      | some arrival => rfl
    | oserror entries =>
      cases entries with
      | nil => rfl
      | cons entry entries =>
        rw [ending_oserror (List.cons_ne_nil _ _)]
        dsimp only [drainErrors]
        cases concerning ((entry :: entries).filterMap fun entry => queuedError entry socket.family)
            probe socket.ownDestination with
        | none => exact ih
        | some mine => rfl

/-! ### Removing what does not answer -/

/-- Whether a queue entry reports an error about the probe. -/
def entryAnswers (socket : EchoSocket) (probe : Probe) (entry : QueueEntry) : Bool :=
  (queuedError entry socket.family).any fun error => concerns error probe socket.ownDestination

/-- A turn without the items that do not answer the probe; a turn with nothing
left is gone. -/
def trimEvent (socket : EchoSocket) (probe : Probe) : Event → Option Event
  | .datagram raw peer finished =>
    if (answerIn socket raw peer finished probe).isSome then some (.datagram raw peer finished)
    else none
  | .oserror entries =>
    match entries.filter (entryAnswers socket probe) with
    | [] => none
    | kept => some (.oserror kept)

/-- What the wait sees with every item that does not answer the probe removed. -/
def trim (socket : EchoSocket) (probe : Probe) (events : List (ℚ × Event)) : List (ℚ × Event) :=
  events.filterMap fun turn => (trimEvent socket probe turn.2).map fun event => (turn.1, event)

theorem concerning_filter (socket : EchoSocket) (probe : Probe) (entries : List QueueEntry) :
    concerning ((entries.filter (entryAnswers socket probe)).filterMap
        (fun entry => queuedError entry socket.family)) probe socket.ownDestination
      = concerning (entries.filterMap (fun entry => queuedError entry socket.family)) probe
          socket.ownDestination := by
  unfold concerning
  induction entries with
  | nil => rfl
  | cons entry rest ih =>
    rw [List.filter_cons, List.filterMap_cons]
    cases herr : queuedError entry socket.family with
    | none =>
      rw [if_neg (by simp [entryAnswers, herr])]
      exact ih
    | some error =>
      by_cases hc : concerns error probe socket.ownDestination = true
      · rw [if_pos (by simp [entryAnswers, herr, hc]), List.filterMap_cons, herr]
        simp [hc]
      · rw [if_neg (by simp [entryAnswers, herr, hc])]
        simpa [List.find?_cons, hc] using ih

theorem concerning_eq_none_of_filter {socket : EchoSocket} {probe : Probe}
    {entries : List QueueEntry} (h : entries.filter (entryAnswers socket probe) = []) :
    concerning (entries.filterMap (fun entry => queuedError entry socket.family)) probe
      socket.ownDestination = none := by
  rw [← concerning_filter, h]
  rfl

/-- **A trimmed turn ends the wait as the turn does.** -/
theorem ending_trimEvent {socket : EchoSocket} {probe : Probe} {event : Event}
    (hread : ∀ entries, event = .oserror entries → entries ≠ []) :
    (trimEvent socket probe event).bind (ending socket probe) = ending socket probe event := by
  cases event with
  | datagram raw peer finished =>
    rw [trimEvent, ending_datagram]
    cases h : answerIn socket raw peer finished probe with
    | none => rfl
    | some arrival =>
      rw [Option.isSome_some, if_pos rfl, Option.bind_some, ending_datagram, h]
  | oserror entries =>
    have hne := hread entries rfl
    rw [trimEvent, ending_oserror hne]
    cases hkept : entries.filter (entryAnswers socket probe) with
    | nil =>
      rw [concerning_eq_none_of_filter hkept]
      rfl
    | cons entry rest =>
      show ending socket probe (.oserror (entry :: rest)) = _
      rw [ending_oserror (List.cons_ne_nil _ _), ← hkept, concerning_filter]

theorem ending_eq_none_of_trimEvent {socket : EchoSocket} {probe : Probe} {event : Event}
    (hread : ∀ entries, event = .oserror entries → entries ≠ [])
    (h : trimEvent socket probe event = none) : ending socket probe event = none := by
  rw [← ending_trimEvent hread, h]
  rfl

theorem findSome_trim (socket : EchoSocket) (probe : Probe) {events : List (ℚ × Event)}
    (hread : ∀ turn ∈ events, ∀ entries, turn.2 = .oserror entries → entries ≠ []) :
    (trim socket probe events).findSome? (fun turn => ending socket probe turn.2)
      = events.findSome? (fun turn => ending socket probe turn.2) := by
  induction events with
  | nil => rfl
  | cons turn rest ih =>
    have ih := ih (fun turn h => hread turn (List.mem_cons_of_mem _ h))
    have hturn := hread turn List.mem_cons_self
    rw [trim, List.filterMap_cons, List.findSome?_cons]
    cases htrim : trimEvent socket probe turn.2 with
    | none =>
      rw [ending_eq_none_of_trimEvent hturn htrim]
      exact ih
    | some event =>
      have hending : ending socket probe event = ending socket probe turn.2 := by
        rw [← ending_trimEvent hturn, htrim]
        rfl
      rw [Option.map_some, List.findSome?_cons, hending]
      cases ending socket probe turn.2 with
      | none => exact ih
      | some _ => rfl

/-! ### Where an arrival comes from -/

/-- The arrival an event gives as an echo reply to the probe. -/
def FromReply (socket : EchoSocket) (probe : Probe) : Event → Arrival → Prop
  | .datagram raw peer finished, arrival =>
    ∃ parsed, parseEchoReply raw = some parsed ∧ parsed.icmpType = echoReply socket.family ∧
      parsed.sequence = probe.sequence ∧ parsed.token = some probe.token ∧
      arrival = ⟨finished, peer, false⟩
  | .oserror _, _ => False

/-- An event reports an ICMP error: as the datagram it carries, or as one of the
queue entries read. -/
def Reports (family : AddressFamily) : Event → IcmpError → Prop
  | .datagram raw peer finished, error => timeExceededDatagram raw peer finished family = some error
  | .oserror entries, error => ∃ entry ∈ entries, queuedError entry family = some error

/-- The arrival an event gives as a router's report about the probe. -/
def FromTimeExceeded (socket : EchoSocket) (probe : Probe) (event : Event) (arrival : Arrival) :
    Prop :=
  ∃ error, Reports socket.family event error ∧
    concerns error probe socket.ownDestination = true ∧ error.arrival = some arrival ∧
    arrival.ttlExpired = true ∧ probe.hopLimited = true

theorem replyMatches_iff {parsed : ParsedReply} {sequence : UInt16} {token : Token}
    {family : AddressFamily} : replyMatches parsed sequence token family = true ↔
      parsed.icmpType = echoReply family ∧ parsed.sequence = sequence ∧
        parsed.token = some token := by
  simp only [replyMatches, isEchoReply, Bool.and_eq_true, beq_iff_eq, and_assoc]

theorem answerIn_eq_some {socket : EchoSocket} {probe : Probe} {raw : Octets} {peer : Text}
    {finished : ℚ} {arrival : Arrival}
    (h : answerIn socket raw peer finished probe = some arrival) :
    FromReply socket probe (.datagram raw peer finished) arrival ∨
      FromTimeExceeded socket probe (.datagram raw peer finished) arrival := by
  rw [answerIn] at h
  split at h
  · next parsed hparsed =>
    obtain ⟨hsome, hmatch⟩ := Option.filter_eq_some_iff.mp hparsed
    obtain ⟨htype, hseq, htoken⟩ := replyMatches_iff.mp hmatch
    exact Or.inl ⟨parsed, hsome, htype, hseq, htoken, (Option.some.inj h).symm⟩
  · split at h
    · simp at h
    · next error herror =>
      split at h
      · next hc =>
        have harr := arrival_of_timeExceededDatagram herror
        refine Or.inr ⟨error, herror, hc, h, ?_, hopLimited_of_concerns hc h⟩
        rw [h] at harr
        rw [Option.some.inj harr]
      · simp at h

theorem ending_eq_some_some {socket : EchoSocket} {probe : Probe} {event : Event}
    {arrival : Arrival} (h : ending socket probe event = some (some arrival)) :
    FromReply socket probe event arrival ∨ FromTimeExceeded socket probe event arrival := by
  cases event with
  | datagram raw peer finished =>
    rw [ending_datagram, Option.map_eq_some_iff] at h
    obtain ⟨a, ha, hsome⟩ := h
    rw [← Option.some.inj hsome]
    exact answerIn_eq_some ha
  | oserror entries =>
    cases entries with
    | nil => simp [ending, drainErrors] at h
    | cons entry entries =>
      rw [ending_oserror (List.cons_ne_nil _ _), Option.map_eq_some_iff] at h
      obtain ⟨error, hmine, harr⟩ := h
      have hc := List.find?_some hmine
      obtain ⟨e, he, hread⟩ := List.mem_filterMap.mp (List.mem_of_find?_eq_some hmine)
      exact Or.inr ⟨error, ⟨e, he, hread⟩, hc, harr, ttlExpired_of_queuedError hread harr,
        hopLimited_of_concerns hc harr⟩

/-! ### Foreign traffic -/

/-- **Foreign traffic cannot change a probe's outcome.**  The wait returns what it
returns without the items that do not answer the probe.  What it returns comes
from a reply with the probe's sequence and token, or from a Time Exceeded about
the probe, and that only under a hop limit.  An undelivered error about the probe
ends the wait with nothing, and where nothing answers, nothing is returned. -/
theorem await_ignores_foreign_traffic (socket : EchoSocket) (probe : Probe) (deadline : ℚ)
    (events : List (ℚ × Event)) (hbefore : ∀ turn ∈ events, turn.1 < deadline)
    (hread : ∀ turn ∈ events, ∀ entries, turn.2 = .oserror entries → entries ≠ []) :
    await socket probe deadline events = await socket probe deadline (trim socket probe events) ∧
    (∀ arrival, await socket probe deadline events = some arrival → ∃ turn ∈ events,
      FromReply socket probe turn.2 arrival ∨ FromTimeExceeded socket probe turn.2 arrival) ∧
    (∀ earlier now entries later errors mine,
      events = earlier ++ (now, .oserror entries) :: later → trim socket probe earlier = [] →
      drainErrors entries socket.family = some errors →
      concerning errors probe socket.ownDestination = some mine → mine.arrival = none →
      await socket probe deadline events = none) ∧
    (trim socket probe events = [] → await socket probe deadline events = none) := by
  have hfirst := await_eq_findSome socket probe hbefore
  have htrim := findSome_trim socket probe hread
  have hbefore' : ∀ turn ∈ trim socket probe events, turn.1 < deadline := by
    intro turn hturn
    obtain ⟨old, hold, hmap⟩ := List.mem_filterMap.mp hturn
    obtain ⟨event, _, rfl⟩ := Option.map_eq_some_iff.mp hmap
    exact hbefore old hold
  refine ⟨?_, ?_, ?_, ?_⟩
  · rw [hfirst, await_eq_findSome socket probe hbefore', htrim]
  · intro arrival harr
    rw [hfirst, Option.join_eq_some_iff] at harr
    obtain ⟨turn, hturn, hend⟩ := List.exists_of_findSome?_eq_some harr
    exact ⟨turn, hturn, ending_eq_some_some hend⟩
  · intro earlier now entries later errors mine heq hnone hdrain hmine harr
    have hearlier : earlier.findSome? (fun turn => ending socket probe turn.2) = none := by
      rw [← findSome_trim socket probe (fun turn h => hread turn (by rw [heq]; simp [h])), hnone]
      rfl
    have hends : ending socket probe (.oserror entries) = some none := by
      simp only [ending, hdrain, hmine, Option.map_some, harr]
    rw [hfirst, heq, List.findSome?_append, hearlier, List.findSome?_cons, hends]
    rfl
  · intro hnone
    rw [hfirst, ← htrim, hnone]
    rfl

/-- A stranger's datagram and an unread one before the reply leave the reply. -/
theorem await_ignores_a_stranger :
    let token : Token := ⟨[1, 2, 3, 4, 5, 6, 7, 8], rfl⟩
    let reply : Octets := [0, 0, 0, 0, 0, 0, 0, 5] ++ MAGIC ++ token.val
    let socket : EchoSocket := ⟨.IPV4, none⟩
    let probe : Probe := ⟨5, token, none, false⟩
    let events : List (ℚ × Event) :=
      [(0, .datagram [0, 0] "192.0.2.9".toList 0), (1, .oserror [⟨[], [], none, 1⟩]),
        (2, .datagram reply "192.0.2.1".toList 2)]
    await socket probe 3 events = await socket probe 3 (trim socket probe events) ∧
      await socket probe 3 events = some ⟨2, "192.0.2.1".toList, false⟩ := by
  intro token reply socket probe events
  refine ⟨(await_ignores_foreign_traffic _ _ _ events ?_ ?_).1, by decide +kernel⟩
  · intro turn hturn
    simp only [events, List.mem_cons, List.not_mem_nil, or_false] at hturn
    rcases hturn with rfl | rfl | rfl <;> decide
  · intro turn hturn entries hentries
    simp only [events, List.mem_cons, List.not_mem_nil, or_false] at hturn
    rcases hturn with rfl | rfl | rfl
    · simp at hentries
    · simp only [Event.oserror.injEq] at hentries
      rw [← hentries]
      exact List.cons_ne_nil _ _
    · simp at hentries

end IPScout
