import IPScout.Echo.Quoted

/-!
# What an error is credited on

An ICMP error quotes the start of the request it is about, and `_concerns` compares the
quote with a probe.  Of the quoted payload it compares the token, and a payload that holds
none of our tokens is taken for one cut short before its token.  So octets of the quote
that are not the request's go unread where the quote is too short for a token, where it is
somebody else's payload and where they are behind the token, more octets than the request
ever had among them (`Unread`).

An error is credited on all that its quote carries exactly when that does not happen under
the same sequence, identifier, destination and hop limit (`credit_iff`).
-/

namespace IPScout

open Base Base.Octets

/-! ### Errors and what they quote -/

/-- What an ICMP error is read from: a datagram of a raw socket, or an error-queue entry. -/
inductive ErrorSource
  | datagram (raw : Octets) (peer : Text) (finished : ℚ)
  | queued (entry : QueueEntry)

namespace ErrorSource

def error (family : AddressFamily) : ErrorSource → Option IcmpError
  | datagram raw peer finished => timeExceededDatagram raw peer finished family
  | queued entry => queuedError entry family

/-- The octets of the request that are quoted: behind the quoted header, or the entry's data. -/
def quote (family : AddressFamily) : ErrorSource → Octets
  | datagram raw _ _ =>
    match quotedHeader (stripIpHeader raw) family with
    | none => []
    | some (header, headerLen) => header.drop headerLen
  | queued entry => entry.data

/-- The octets of the request's payload that are quoted. -/
def quotedPayload (family : AddressFamily) (source : ErrorSource) : Octets :=
  (stripIpHeader (source.quote family)).drop HEADER_SIZE

end ErrorSource

/-- What identifies a request as a transport built it; the kernel keeps the identifier of a
raw socket. -/
def EchoRequest.probe (request : EchoRequest) (sequence identifier : ℤ) (isRaw hopLimited : Bool) :
    Probe where
  sequence := UInt16.ofNat sequence.toNat
  token := request.token
  identifier := if isRaw then some (UInt16.ofNat identifier.toNat) else none
  hopLimited := hopLimited

def EchoRequest.payload (request : EchoRequest) : Octets := request.datagram.drop HEADER_SIZE

/-- A quoted payload is a payload as far as it was quoted, and nothing else. -/
def Agrees (q p : Octets) : Prop := q <+: p

instance (q p : Octets) : Decidable (Agrees q p) := inferInstanceAs (Decidable (q <+: p))

/-! ### Tokens of a quote -/

theorem token_fromBytes_iff {q : Octets} {t : Token} :
    (EchoPayload.fromBytes q).map EchoPayload.token = some t ↔
      q.length ≤ MAX_PAYLOAD_SIZE_IPV6 ∧ MAGIC ++ t.val <+: q := by
  have hstart : (MAGIC ++ t.val).length = MIN_PAYLOAD_SIZE := by
    rw [List.length_append, t.property]
    rfl
  constructor
  · intro h
    obtain ⟨payload, hpayload, rfl⟩ := Option.map_eq_some_iff.mp h
    rw [EchoPayload.fromBytes] at hpayload
    split at hpayload
    · next hours =>
      obtain ⟨rest, rfl⟩ := List.isPrefixOf_iff_prefix.mp hours.2
      obtain rfl := Option.some.inj hpayload
      have hslice : slice (MAGIC ++ rest) MAGIC.length (MAGIC.length + TOKEN_SIZE) <+: rest := by
        rw [slice_append_right le_rfl, slice, Nat.sub_self, List.drop_zero]
        exact List.take_prefix _ _
      exact ⟨hours.1.2, (List.prefix_append_right_inj _).mpr hslice⟩
    · simp at hpayload
  · rintro ⟨hmax, filler, rfl⟩
    have hfiller : filler.length ≤ maxFillerSize := by
      rw [List.length_append, hstart] at hmax
      rw [maxFillerSize]
      omega
    rw [show MAGIC ++ t.val ++ filler = EchoPayload.toBytes ⟨t, filler, hfiller⟩ from rfl,
      EchoPayload.fromBytes_toBytes]
    rfl

theorem fromBytes_eq_none_iff {q : Octets} : EchoPayload.fromBytes q = none ↔
    q.length < MIN_PAYLOAD_SIZE ∨ MAX_PAYLOAD_SIZE_IPV6 < q.length ∨ ¬ MAGIC <+: q := by
  rw [EchoPayload.fromBytes]
  split
  · next hours =>
    have := List.isPrefixOf_iff_prefix.mp hours.2
    simp only [reduceCtorEq, false_iff, not_or, not_not]
    exact ⟨by omega, by omega, this⟩
  · next hours =>
    rw [List.isPrefixOf_iff_prefix] at hours
    simp only [true_iff]
    by_contra hnot
    rw [not_or, not_or, not_not] at hnot
    exact hours ⟨⟨by omega, by omega⟩, hnot.2.2⟩

/-! ### Readers of errors -/

theorem payload_of_parseEchoRequest {b : Octets} {family : AddressFamily} {p : ParsedReply}
    (h : parseEchoRequest b family = some p) :
    p.payload = EchoPayload.fromBytes ((stripIpHeader b).drop HEADER_SIZE) := by
  rw [parseEchoRequest] at h
  split at h
  · simp at h
  · split at h
    · simp at h
    · next parsed hparsed =>
      rw [Option.ite_none_right_eq_some] at h
      obtain rfl := Option.some.inj h.2
      simp only [parseEchoReply, Option.ite_none_left_eq_some] at hparsed
      exact (congrArg ParsedReply.payload (Option.some.inj hparsed.2)).symm

/-- **An error is about the request it quotes**, with the payload that is quoted. -/
theorem payload_of_error {family : AddressFamily} {source : ErrorSource} {e : IcmpError}
    (h : source.error family = some e) :
    e.probe.payload = EchoPayload.fromBytes (source.quotedPayload family) := by
  cases source with
  | datagram raw peer finished =>
    simp only [ErrorSource.error, timeExceededDatagram] at h
    split at h
    · simp at h
    · next quoted hquoted =>
      obtain rfl := Option.some.inj h
      rw [quotedEchoRequest] at hquoted
      split at hquoted
      · simp at hquoted
      · split at hquoted
        · simp at hquoted
        · next header headerLen hheader =>
          rw [Option.ite_none_left_eq_some] at hquoted
          obtain ⟨request, hrequest, rfl⟩ := Option.map_eq_some_iff.mp hquoted.2
          rw [ErrorSource.quotedPayload, ErrorSource.quote, hheader]
          exact payload_of_parseEchoRequest hrequest
  | queued entry =>
    simp only [ErrorSource.error, queuedError] at h
    split at h
    · simp at h
    · next probe hprobe =>
      obtain ⟨control, _, hcontrol⟩ := List.exists_of_findSome?_eq_some h
      have he : e.probe = probe := by
        rw [controlError] at hcontrol
        split at hcontrol
        · rw [← Option.some.inj hcontrol]
        · rw [Option.ite_none_right_eq_some] at hcontrol
          rw [← Option.some.inj hcontrol.2]
      rw [he]
      exact payload_of_parseEchoRequest hprobe

/-! ### Credit -/

/-- An error and a probe are the same in all that is compared besides the token. -/
structure SameFields (error : IcmpError) (probe : Probe) (destination : Option Octets) : Prop where
  sequence : error.probe.sequence = probe.sequence
  identifier : probe.identifier = none ∨ probe.identifier = some error.probe.identifier
  destination : destination = none ∨ error.destination = none ∨ error.destination = destination
  hopLimited : probe.hopLimited = true ∨ error.arrival = none

theorem concerns_iff {error : IcmpError} {probe : Probe} {destination : Option Octets} :
    concerns error probe destination = true ↔ SameFields error probe destination ∧
      (error.probe.token = none ∨ error.probe.token = some probe.token) := by
  simp only [concerns, Bool.and_eq_true, Bool.or_eq_true, beq_iff_eq]
  constructor
  · rintro ⟨⟨⟨⟨hsequence, htoken⟩, hidentifier⟩, hdestination⟩, hhop⟩
    exact ⟨⟨hsequence, hidentifier, or_assoc.mp hdestination, hhop⟩, htoken⟩
  · rintro ⟨⟨hsequence, hidentifier, hdestination, hhop⟩, htoken⟩
    exact ⟨⟨⟨⟨hsequence, htoken⟩, hidentifier⟩, or_assoc.mpr hdestination⟩, hhop⟩

/-- A quoted payload with octets that are not the request's, where the token does not tell. -/
inductive Unread (q p : Octets) (token : Token) : Prop
  /-- Too short for a token, and not the start of the request's payload. -/
  | short : q.length < MIN_PAYLOAD_SIZE → ¬ Agrees q p → Unread q p token
  /-- Long enough for a token, and without the magic: a payload of another program. -/
  | foreign : MIN_PAYLOAD_SIZE ≤ q.length → ¬ MAGIC <+: q → Unread q p token
  /-- The request's token, and behind it another filler, or more than the request had. -/
  | filler : MAGIC ++ token.val <+: q → ¬ Agrees q p → Unread q p token
  /-- More than a payload can be, and not the request's. -/
  | long : MAX_PAYLOAD_SIZE_IPV6 < q.length → ¬ Agrees q p → Unread q p token

theorem magic_prefix_of_agrees {q p : Octets} (hp : MAGIC <+: p)
    (hq : MIN_PAYLOAD_SIZE ≤ q.length) (h : Agrees q p) : MAGIC <+: q := by
  apply List.prefix_of_prefix_length_le hp h
  exact le_trans (by decide) hq

/-- **A token that is missing or the request's leaves octets unread** exactly when the quote
does not agree with the request. -/
theorem unread_iff {q p : Octets} {token : Token} (hp : MAGIC <+: p) :
    Unread q p token ↔
      ((EchoPayload.fromBytes q).map EchoPayload.token = none ∨
        (EchoPayload.fromBytes q).map EchoPayload.token = some token) ∧ ¬ Agrees q p := by
  rw [Option.map_eq_none_iff, fromBytes_eq_none_iff, token_fromBytes_iff]
  constructor
  · intro h
    cases h with
    | short hq hnot => exact ⟨Or.inl (Or.inl hq), hnot⟩
    | foreign hq hmagic =>
      exact ⟨Or.inl (Or.inr (Or.inr hmagic)), fun h => hmagic (magic_prefix_of_agrees hp hq h)⟩
    | filler hprefix hnot =>
      by_cases hmax : q.length ≤ MAX_PAYLOAD_SIZE_IPV6
      · exact ⟨Or.inr ⟨hmax, hprefix⟩, hnot⟩
      · exact ⟨Or.inl (Or.inr (Or.inl (not_le.mp hmax))), hnot⟩
    | long hq hnot => exact ⟨Or.inl (Or.inr (Or.inl hq)), hnot⟩
  · rintro ⟨(hshort | hlong | hmagic) | ⟨_, hprefix⟩, hnot⟩
    · exact .short hshort hnot
    · exact .long hlong hnot
    · by_cases hq : q.length < MIN_PAYLOAD_SIZE
      · exact .short hq hnot
      · exact .foreign (not_lt.mp hq) hmagic
    · exact .filler hprefix hnot

/-- **When an error is credited only on a quote that agrees with the request.** -/
theorem credit_iff {fresh : Token} {sequence payloadSize identifier : ℤ} {family : AddressFamily}
    {token : Option Octets} {request : EchoRequest}
    (h : buildEchoRequest fresh sequence payloadSize family identifier token = .ok request)
    {source : ErrorSource} {error : IcmpError} (herror : source.error family = some error)
    (isRaw hopLimited : Bool) (destination : Option Octets) :
    (concerns error (request.probe sequence identifier isRaw hopLimited) destination = true →
      (error.probe.sequence.toNat : ℤ) = sequence ∧
        Agrees (source.quotedPayload family) request.payload) ↔
    ¬ (SameFields error (request.probe sequence identifier isRaw hopLimited) destination ∧
      Unread (source.quotedPayload family) request.payload request.token) := by
  obtain ⟨hsequence, _, hsize, hdatagram⟩ := buildEchoRequest_eq_ok h
  have hmagic : MAGIC <+: request.payload := by
    obtain ⟨k, hheader⟩ := requestDatagram_eq family identifier.toNat sequence.toNat
      (requestPayload request.token payloadSize family hsize).toBytes
    rw [EchoRequest.payload, hdatagram, hheader,
      ← length_packHeader (echoRequest family) 0 k identifier.toNat sequence.toNat,
      List.drop_left, EchoPayload.toBytes, List.append_assoc]
    exact List.prefix_append _ _
  rw [concerns_iff, unread_iff hmagic, ← payload_of_error herror, ← ParsedReply.token]
  constructor
  · rintro hcredit ⟨hfields, htoken, hnot⟩
    exact hnot (hcredit ⟨hfields, htoken⟩).2
  · rintro hnot ⟨hfields, htoken⟩
    refine ⟨?_, ?_⟩
    · rw [hfields.sequence]
      exact toNat_field hsequence
    · by_contra hdiffers
      exact hnot ⟨hfields, htoken, hdiffers⟩

/-- A request of another program: sixteen letters, under the identifier and sequence of ours. -/
def anotherPing : Octets :=
  packHeader (echoRequest .IPV4) 0 0 0xbeef 7 ++
    [0x61, 0x62, 0x63, 0x64, 0x65, 0x66, 0x67, 0x68, 0x69, 0x6a, 0x6b, 0x6c, 0x6d, 0x6e, 0x6f, 0x70]

/-- What a raw socket receives when a router discards it on its way to our destination. -/
def anotherPingDiscarded : ErrorSource :=
  .datagram (timeExceededMessage .IPV4 0 0 0 0 (headerWithOptions ++ anotherPing))
    "192.0.2.1".toList 2

/-- **A router's report about another program's ping is credited to ours**, though it quotes
sixteen octets that are neither the magic nor the token. -/
theorem credited_with_another_payload :
    ∃ request, buildEchoRequest letterToken 7 16 .IPV4 0xbeef none = .ok request ∧
      ∃ error, anotherPingDiscarded.error .IPV4 = some error ∧
        concerns error (request.probe 7 0xbeef true true) (some [198, 51, 100, 7]) = true ∧
        MIN_PAYLOAD_SIZE ≤ (anotherPingDiscarded.quotedPayload .IPV4).length ∧
        ¬ Agrees (anotherPingDiscarded.quotedPayload .IPV4) request.payload := by
  refine ⟨_, rfl, _, rfl, ?_⟩
  decide

/-- The report about another program's ping is not credited to a ping with another identifier. -/
theorem credit_iff_of_another_identifier :
    ∃ (request : EchoRequest) (error : IcmpError),
      buildEchoRequest letterToken 7 16 .IPV4 1 none = .ok request ∧
      anotherPingDiscarded.error .IPV4 = some error ∧
      ((concerns error (request.probe 7 1 true true) none = true →
        (error.probe.sequence.toNat : ℤ) = 7 ∧
          Agrees (anotherPingDiscarded.quotedPayload .IPV4) request.payload) ↔
      ¬ (SameFields error (request.probe 7 1 true true) none ∧
        Unread (anotherPingDiscarded.quotedPayload .IPV4) request.payload request.token)) := by
  have hbuilt := buildEchoRequest_ok letterToken .IPV4 7 1
    (show (16 : ℤ) ≤ maxPayloadSize .IPV4 by decide) none
  exact ⟨_, _, hbuilt, rfl, credit_iff hbuilt rfl true true none⟩

end IPScout
