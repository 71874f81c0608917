import IPScout.Echo.Request

/-!
# A request that is quoted

A router that discards a request answers with a Time Exceeded that quotes the
request's IP header and as much of the request as the router likes, eight octets at
least.  Whatever the two headers' options are, `quoted_echo_request` reads the
request's sequence, identifier and destination out of it, and the token if the quote
reaches that far (`quoted_request_recovered`).
-/

namespace IPScout

open Base Base.Octets

/-- The IP header of a request on its way to an address: any header of the family that
carries ICMP, with any options on IPv4. -/
def IsQuotedHeader (family : AddressFamily) (destination inner : Octets) : Prop :=
  inner.getD (protocolOffset family) 0 = icmpProtocol family ∧
    ∃ fields options, inner = fields ++ destination ++ options ∧
      match family with
      | .IPV4 => fields.length = 16 ∧ destination.length = 4 ∧ IsIpv4Header inner
      | .IPV6 => fields.length = 24 ∧ destination.length = 16 ∧ options = [] ∧
          octet inner 0 / 16 = AddressFamily.IPV6.ipVersion

/-- A Time Exceeded: its header, whose fields after the type are free, and what it quotes. -/
def timeExceededMessage (family : AddressFamily) (code : UInt8) (checksum unused unused' : ℕ)
    (quoted : Octets) : Octets :=
  packHeader (timeExceeded family) code checksum unused unused' ++ quoted

/-! ### Requests that are built -/

/-- **What a request that is built is**: all its arguments are in range. -/
theorem buildEchoRequest_eq_ok {fresh : Token} {sequence payloadSize identifier : ℤ}
    {family : AddressFamily} {token : Option Octets} {request : EchoRequest}
    (h : buildEchoRequest fresh sequence payloadSize family identifier token = .ok request) :
    (0 ≤ sequence ∧ sequence ≤ MAX_ICMP_FIELD16) ∧
      (0 ≤ identifier ∧ identifier ≤ MAX_ICMP_FIELD16) ∧
      ∃ hsize, request.datagram = requestDatagram family identifier.toNat sequence.toNat
        (requestPayload request.token payloadSize family hsize).toBytes := by
  rw [buildEchoRequest] at h
  by_cases hsequence : 0 ≤ sequence ∧ sequence ≤ MAX_ICMP_FIELD16
  · by_cases hidentifier : 0 ≤ identifier ∧ identifier ≤ MAX_ICMP_FIELD16
    · rw [requireUint16, if_pos hsequence, requireUint16, if_pos hidentifier] at h
      by_cases hsize : payloadSize ≤ maxPayloadSize family
      · simp only [bind, Except.bind, dif_pos hsize] at h
        cases hactual : actualToken fresh token with
        | error e =>
          rw [hactual] at h
          simp at h
        | ok actual =>
          rw [hactual] at h
          obtain rfl := Except.ok.inj h
          exact ⟨hsequence, hidentifier, hsize, rfl⟩
      · simp [bind, Except.bind, hsize] at h
    · rw [requireUint16, if_pos hsequence, requireUint16, if_neg hidentifier] at h
      simp [bind, Except.bind] at h
  · rw [requireUint16, if_neg hsequence] at h
    simp [bind, Except.bind] at h

theorem toNat_field {n : ℤ} (h : 0 ≤ n ∧ n ≤ MAX_ICMP_FIELD16) :
    ((UInt16.ofNat n.toNat).toNat : ℤ) = n := by
  rw [MAX_ICMP_FIELD16] at h
  rw [UInt16.toNat_ofNat']
  omega

/-! ### Quotes -/

/-- **A payload cut short has its token exactly when the cut leaves it.** -/
theorem token_take (p : EchoPayload) (m : ℕ) :
    (EchoPayload.fromBytes (p.toBytes.take m)).map EchoPayload.token =
      if MIN_PAYLOAD_SIZE ≤ m then some p.token else none := by
  have hstart : (MAGIC ++ p.token.val).length = MIN_PAYLOAD_SIZE := by
    rw [List.length_append, p.token.property]
    rfl
  split
  · next hm =>
    -- what is left is a payload with the same token and less filler
    have hfiller : (p.filler.take (m - MIN_PAYLOAD_SIZE)).length ≤ maxFillerSize :=
      (List.length_take_le' _ _).trans p.filler_le
    have hcut : p.toBytes.take m =
        EchoPayload.toBytes ⟨p.token, p.filler.take (m - MIN_PAYLOAD_SIZE), hfiller⟩ := by
      rw [EchoPayload.toBytes, EchoPayload.toBytes, List.take_append, hstart,
        List.take_of_length_le (by omega)]
    rw [hcut, EchoPayload.fromBytes_toBytes]
    rfl
  · next hm =>
    rw [EchoPayload.fromBytes, dif_neg]
    · rfl
    · intro hours
      have := hours.1.1
      rw [List.length_take] at this
      omega

theorem length_quotedHeader_ipv6 {destination inner : Octets}
    (hinner : IsQuotedHeader .IPV6 destination inner) : inner.length = IPV6_HEADER_SIZE := by
  obtain ⟨_, fields, options, rfl, hfields, hdestination, rfl, _⟩ := hinner
  rw [List.append_nil, List.length_append, hfields, hdestination]
  rfl

theorem quotedHeader_message {family : AddressFamily} {destination inner : Octets}
    (hinner : IsQuotedHeader family destination inner) (code : UInt8)
    (checksum unused unused' : ℕ) (quote : Octets) :
    quotedHeader (timeExceededMessage family code checksum unused unused' (inner ++ quote)) family
      = some (inner ++ quote, inner.length) := by
  have hdrop : (timeExceededMessage family code checksum unused unused' (inner ++ quote)).drop
      HEADER_SIZE = inner ++ quote := by
    rw [timeExceededMessage,
      ← length_packHeader (timeExceeded family) code checksum unused unused', List.drop_left]
  simp only [quotedHeader, hdrop]
  cases family with
  | IPV4 =>
    obtain ⟨_, _, _, _, _, _, hheader⟩ := hinner
    dsimp only
    rw [ipv4HeaderLength_append hheader]
    rfl
  | IPV6 =>
    have hlength := length_quotedHeader_ipv6 hinner
    obtain ⟨_, _, _, _, _, _, _, hversion⟩ := hinner
    have h40 : IPV6_HEADER_SIZE = 40 := rfl
    dsimp only
    rw [if_neg, hlength]
    rw [octet_append_left (by omega), hversion, List.length_append]
    omega

theorem protocolOffset_lt {family : AddressFamily} {destination inner : Octets}
    (hinner : IsQuotedHeader family destination inner) :
    protocolOffset family < inner.length := by
  cases family with
  | IPV4 =>
    obtain ⟨_, _, _, _, _, _, _, hihl, hlength⟩ := hinner
    rw [protocolOffset]
    omega
  | IPV6 =>
    rw [length_quotedHeader_ipv6 hinner]
    decide

theorem quotedDestination_append {family : AddressFamily} {destination inner : Octets}
    (hinner : IsQuotedHeader family destination inner) (quote : Octets) :
    quotedDestination (inner ++ quote) family = destination := by
  cases family with
  | IPV4 =>
    obtain ⟨_, fields, options, rfl, hfields, hdestination, _⟩ := hinner
    rw [List.append_assoc, List.append_assoc]
    exact slice_append_append hfields (by rw [hdestination])
  | IPV6 =>
    obtain ⟨_, fields, options, rfl, hfields, hdestination, _⟩ := hinner
    rw [List.append_assoc, List.append_assoc]
    exact slice_append_append hfields (by rw [hdestination])

theorem timeExceeded_div_ne (family : AddressFamily) : (timeExceeded family).toNat / 16 ≠ 4 := by
  cases family <;> decide

/-- **A Time Exceeded reads as the request it quotes**, whatever follows the quoted header. -/
theorem quotedEchoRequest_message {family : AddressFamily} {destination outer inner : Octets}
    (houter : MayPrecede family outer) (hinner : IsQuotedHeader family destination inner)
    (code : UInt8) (checksum unused unused' : ℕ) (quote : Octets) :
    quotedEchoRequest (outer ++
        timeExceededMessage family code checksum unused unused' (inner ++ quote)) family =
      (parseEchoRequest quote family).map fun request => ⟨request, destination⟩ := by
  have hstrip : stripIpHeader (outer ++
      timeExceededMessage family code checksum unused unused' (inner ++ quote)) =
      timeExceededMessage family code checksum unused unused' (inner ++ quote) := by
    apply stripIpHeader_mayPrecede houter
    · simp [timeExceededMessage, packHeader]
    · exact timeExceeded_div_ne family
  have hexceeded : isTimeExceeded (outer ++
      timeExceededMessage family code checksum unused unused' (inner ++ quote)) family = true := by
    rw [isTimeExceeded, hstrip]
    exact beq_self_eq_true (timeExceeded family)
  rw [quotedEchoRequest, if_neg (by rw [hexceeded]; simp), hstrip, quotedHeader_message hinner]
  dsimp only
  rw [List.getD_append _ _ _ _ (protocolOffset_lt hinner), if_neg (by rw [hinner.1]; simp),
    List.drop_left, quotedDestination_append hinner]

theorem parseEchoRequest_take {family : AddressFamily} (k identifier sequence : ℕ)
    (payload : Octets) {n : ℕ} (hn : HEADER_SIZE ≤ n) :
    parseEchoRequest ((packHeader (echoRequest family) 0 k identifier sequence ++ payload).take n)
        family =
      some ⟨echoRequest family, 0, UInt16.ofNat identifier, UInt16.ofNat sequence,
        EchoPayload.fromBytes (payload.take (n - HEADER_SIZE))⟩ := by
  rw [List.take_append, length_packHeader, List.take_of_length_le (by rwa [length_packHeader]),
    parseEchoRequest_packHeader]

/-- **The request a router discarded is recovered from its Time Exceeded**: its sequence, its
identifier and its destination always, its token exactly when the quote reaches to the end of
it. -/
theorem quoted_request_recovered {fresh : Token} {sequence payloadSize identifier : ℤ}
    {family : AddressFamily} {token : Option Octets} {request : EchoRequest}
    (h : buildEchoRequest fresh sequence payloadSize family identifier token = .ok request)
    {destination outer inner : Octets} (houter : MayPrecede family outer)
    (hinner : IsQuotedHeader family destination inner) {n : ℕ} (hn : HEADER_SIZE ≤ n)
    (code : UInt8) (checksum unused unused' : ℕ) :
    ∃ q, quotedEchoRequest (outer ++ timeExceededMessage family code checksum unused unused'
          (inner ++ request.datagram.take n)) family = some q ∧
      (q.request.sequence.toNat : ℤ) = sequence ∧
      (q.request.identifier.toNat : ℤ) = identifier ∧
      q.destination = destination ∧
      q.request.token =
        if HEADER_SIZE + MIN_PAYLOAD_SIZE ≤ n then some request.token else none := by
  obtain ⟨hsequence, hidentifier, hsize, hdatagram⟩ := buildEchoRequest_eq_ok h
  obtain ⟨k, hheader⟩ := requestDatagram_eq family identifier.toNat sequence.toNat
    (requestPayload request.token payloadSize family hsize).toBytes
  have hread := quotedEchoRequest_message houter hinner code checksum unused unused'
    (request.datagram.take n)
  rw [hdatagram, hheader, parseEchoRequest_take _ _ _ _ hn] at hread
  refine ⟨_, by rw [hdatagram, hheader, hread]; rfl, toNat_field hsequence,
    toNat_field hidentifier, rfl, ?_⟩
  show (EchoPayload.fromBytes _).map EchoPayload.token = _
  rw [token_take]
  exact if_congr (by omega) rfl rfl

/-- The header of a request to 198.51.100.7, with one word of options. -/
def headerWithOptions : Octets :=
  [0x46, 0, 0, 0x54, 0, 0, 0x40, 0, 1, 1, 0, 0, 192, 0, 2, 9, 198, 51, 100, 7, 1, 1, 1, 0]

/-- A quote of the eight octets every router sends back, under a header with options. -/
theorem quoted_request_recovered_of_a_short_quote :
    ∃ request, buildEchoRequest letterToken 7 56 .IPV4 0xbeef none = .ok request ∧
      ∃ q, quotedEchoRequest ([] ++ timeExceededMessage .IPV4 0 0 0 0
          (headerWithOptions ++ request.datagram.take 8)) .IPV4 = some q ∧
        (q.request.sequence.toNat : ℤ) = 7 ∧ q.destination = [198, 51, 100, 7] ∧
        q.request.token = none := by
  have hbuilt := buildEchoRequest_ok letterToken .IPV4 7 0xbeef
    (show (56 : ℤ) ≤ maxPayloadSize .IPV4 by decide) none
  have hinner : IsQuotedHeader .IPV4 [198, 51, 100, 7] headerWithOptions :=
    ⟨by decide, headerWithOptions.take 16, headerWithOptions.drop 20, by decide, by decide,
      by decide, by decide, by decide, by decide⟩
  obtain ⟨q, hq, hsequence, _, hdestination, htoken⟩ :=
    quoted_request_recovered hbuilt (Or.inl rfl) hinner (le_refl 8) 0 0 0 0
  exact ⟨_, hbuilt, q, hq, hsequence, hdestination, htoken⟩

end IPScout
