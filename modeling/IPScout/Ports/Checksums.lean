import IPScout.Echo.Checksum
import IPScout.Ports.TcpSyn

/-!
# The checksums of a SYN

`build_syn` puts two checksums into its packet: one over the IPv4 header, and one over
the TCP segment and the pseudo-header made of the addresses.  A receiver that sums what
it gets, with the addresses of the packet itself, finds both in order (`IsSyn`,
`buildSyn_isSyn`).

`checksums_complete` says what `checksum` is and that it checks, for it and for the
builders that rely on it, which build something for whatever they accept.
-/

namespace IPScout

open Base Base.Octets Base.Text

theorem length_packed_of_requireAddress {t : Text} {a : IPAddress}
    (h : requireAddress t .IPV4 = .ok a) : a.packed.length = 4 := by
  obtain ⟨ip, rfl⟩ := exists_v4_of_requireAddress h
  exact length_packedNat 4 _

variable {source target : Octets}

theorem length_synHeader (hsource : source.length = 4) (htarget : target.length = 4) (n : ℕ) :
    (synHeader source target n).length = 20 := by
  simp only [synHeader, packIpv4, List.length_append, length_packedNat, List.length_cons,
    List.length_nil, hsource, htarget]

theorem length_synSegment (sourcePort targetPort : UInt16) (sequence : UInt32) :
    (synSegment source target sourcePort targetPort sequence).length = TCP_HEADER_SIZE := rfl

theorem checksum_synHeader (hsource : source.length = 4) (htarget : target.length = 4) (n : ℕ) :
    checksum (synHeader source target n) = 0 := by
  have hfield : ∀ k, packIpv4 (IPV4_MIN_HEADER_SIZE + n) k source target =
      ([VERSION_IHL, 0] ++ packedNat 2 (IPV4_MIN_HEADER_SIZE + n) ++ packedNat 2 0 ++
        packedNat 2 0 ++ [DEFAULT_TTL, IPPROTO_TCP]) ++
        (packedNat 2 k ++ (source ++ target)) := by
    intro k
    simp only [packIpv4, List.append_assoc]
  have hzero : packedNat 2 0 = [0, 0] := rfl
  rw [synHeader]
  rw [hfield, hfield, hzero]
  apply checksum_inserted
  · simp only [List.length_append, length_packedNat, List.length_cons, List.length_nil]
  · have hip : MAX_IP_LENGTH = 65535 := rfl
    simp only [List.length_append, length_packedNat, List.length_cons, List.length_nil, hsource,
      htarget]
    omega

theorem checksum_synSegment (hsource : source.length = 4) (htarget : target.length = 4)
    (sourcePort targetPort : UInt16) (sequence : UInt32) :
    checksum (pseudoHeader source target TCP_HEADER_SIZE ++
      synSegment source target sourcePort targetPort sequence) = 0 := by
  have hfield : ∀ k, pseudoHeader source target TCP_HEADER_SIZE ++
      packTcp sourcePort targetPort sequence k =
      (pseudoHeader source target TCP_HEADER_SIZE ++ packedNat 2 sourcePort.toNat ++
        packedNat 2 targetPort.toNat ++ packedNat 4 sequence.toNat ++ packedNat 4 0 ++
        [DATA_OFFSET, SYN] ++ packedNat 2 WINDOW) ++ (packedNat 2 k ++ packedNat 2 0) := by
    intro k
    simp only [packTcp, List.append_assoc]
  have hsegment : synSegment source target sourcePort targetPort sequence =
      packTcp sourcePort targetPort sequence (checksum (pseudoHeader source target
        TCP_HEADER_SIZE ++ packTcp sourcePort targetPort sequence 0)) := rfl
  have hzero : packedNat 2 0 = [0, 0] := rfl
  rw [hsegment, hfield, hfield, hzero]
  apply checksum_inserted
  · simp only [pseudoHeader, List.length_append, length_packedNat, List.length_cons,
      List.length_nil, hsource, htarget]
  · have hip : MAX_IP_LENGTH = 65535 := rfl
    simp only [pseudoHeader, List.length_append, length_packedNat, List.length_cons,
      List.length_nil, hsource, htarget]
    omega

theorem slice_synHeader (hsource : source.length = 4) (htarget : target.length = 4) (n : ℕ)
    (rest : Octets) :
    slice (synHeader source target n ++ rest) 12 16 = source ∧
      slice (synHeader source target n ++ rest) 16 20 = target := by
  obtain ⟨fields, hfields, hheader⟩ : ∃ fields : Octets, fields.length = 12 ∧
      synHeader source target n = fields ++ (source ++ target) := by
    refine ⟨[VERSION_IHL, 0] ++ packedNat 2 (IPV4_MIN_HEADER_SIZE + n) ++ packedNat 2 0 ++
      packedNat 2 0 ++ [DEFAULT_TTL, IPPROTO_TCP] ++
      packedNat 2 (checksum (packIpv4 (IPV4_MIN_HEADER_SIZE + n) 0 source target)), rfl, ?_⟩
    rw [synHeader]
    simp only [packIpv4, List.append_assoc]
  rw [hheader]
  constructor
  · rw [List.append_assoc, List.append_assoc]
    exact slice_append_append hfields (by rw [hsource])
  · rw [← List.append_assoc, List.append_assoc]
    apply slice_append_append
    · rw [List.length_append, hfields, hsource]
    · rw [htarget]

/-- A SYN between two ports of two addresses: its header sums to nothing, and so does its
segment under the addresses the header names. -/
structure IsSyn (source target : Octets) (sourcePort targetPort : UInt16) (sequence : UInt32)
    (packet : Octets) : Prop where
  source : slice packet 12 16 = source
  target : slice packet 16 20 = target
  ports : slice packet 20 24 = packedNat 2 sourcePort.toNat ++ packedNat 2 targetPort.toNat
  sequence : slice packet 24 28 = packedNat 4 sequence.toNat
  flags : octet packet 33 = SYN.toNat
  header : checksum (packet.take 20) = 0
  segment : checksum (pseudoHeader (slice packet 12 16) (slice packet 16 20)
    (packet.length - 20) ++ packet.drop 20) = 0

/-- **A SYN is checked by whoever receives it.** -/
theorem isSyn_append (hsource : source.length = 4) (htarget : target.length = 4)
    (sourcePort targetPort : UInt16) (sequence : UInt32) :
    IsSyn source target sourcePort targetPort sequence
      (synHeader source target TCP_HEADER_SIZE ++
        synSegment source target sourcePort targetPort sequence) := by
  have hheader := length_synHeader hsource htarget TCP_HEADER_SIZE
  obtain ⟨hfrom, hto⟩ := slice_synHeader hsource htarget TCP_HEADER_SIZE
    (synSegment source target sourcePort targetPort sequence)
  refine ⟨hfrom, hto, ?_, ?_, ?_, ?_, ?_⟩
  · rw [slice_append_right hheader.le, hheader]
    rfl
  · rw [slice_append_right (by omega), hheader]
    rfl
  · rw [octet_append_right (by omega), hheader]
    rfl
  · rw [List.take_left' hheader]
    exact checksum_synHeader hsource htarget TCP_HEADER_SIZE
  · rw [hfrom, hto, List.length_append, hheader, length_synSegment, Nat.add_sub_cancel_left,
      List.drop_left' hheader]
    exact checksum_synSegment hsource htarget sourcePort targetPort sequence

/-- **For two IPv4 addresses a SYN is built**, whatever the ports and the sequence number. -/
theorem buildSyn_isSyn {sourceIp targetIp : Text} {source target : IPAddress}
    (hsource : requireAddress sourceIp .IPV4 = .ok source)
    (htarget : requireAddress targetIp .IPV4 = .ok target) (sourcePort targetPort : UInt16)
    (sequence : UInt32) :
    ∃ packet, buildSyn sourceIp targetIp sourcePort targetPort sequence = .ok packet ∧
      IsSyn source.packed target.packed sourcePort targetPort sequence packet :=
  ⟨_, buildSyn_eq hsource htarget sourcePort targetPort sequence,
    isSyn_append (length_packed_of_requireAddress hsource)
      (length_packed_of_requireAddress htarget) sourcePort targetPort sequence⟩

theorem isSyn_of_buildSyn {sourceIp targetIp : Text} {sourcePort targetPort : UInt16}
    {sequence : UInt32} {packet : Octets}
    (h : buildSyn sourceIp targetIp sourcePort targetPort sequence = .ok packet) :
    ∃ source target, requireAddress sourceIp .IPV4 = .ok source ∧
      requireAddress targetIp .IPV4 = .ok target ∧
      IsSyn source.packed target.packed sourcePort targetPort sequence packet := by
  cases hsource : requireAddress sourceIp .IPV4 with
  | error e =>
    rw [buildSyn, hsource] at h
    simp [bind, Except.bind] at h
  | ok source =>
    cases htarget : requireAddress targetIp .IPV4 with
    | error e =>
      rw [buildSyn, hsource, htarget] at h
      simp [bind, Except.bind] at h
    | ok target =>
      obtain ⟨built, hbuilt, hsyn⟩ :=
        buildSyn_isSyn hsource htarget sourcePort targetPort sequence
      rw [hbuilt] at h
      rw [← Except.ok.inj h]
      exact ⟨source, target, rfl, rfl, hsyn⟩

/-- **An IPv4 echo request is built for every sequence, identifier, token and size there is
room for**, and it sums to its checksum. -/
theorem buildEchoRequest_checks (fresh : Token) (sequence identifier : UInt16) {payloadSize : ℤ}
    (h : payloadSize ≤ maxPayloadSize .IPV4) (token : Option Token) :
    ∃ request, buildEchoRequest fresh sequence.toNat payloadSize .IPV4 identifier.toNat
        (token.map Subtype.val) = .ok request ∧
      request.token = token.getD fresh ∧
      slice request.datagram 4 8 = packedNat 2 identifier.toNat ++ packedNat 2 sequence.toNat ∧
      MAGIC ++ request.token.val <+: request.datagram.drop HEADER_SIZE ∧
      checksum request.datagram = 0 := by
  obtain ⟨request, hbuilt, htoken, _, hpayload, _⟩ :=
    echo_request_codec fresh .IPV4 sequence identifier h token
  refine ⟨request, hbuilt, htoken, ?_, hpayload, checksum_of_buildEchoRequest hbuilt⟩
  rw [buildEchoRequest_ok fresh .IPV4 sequence identifier h token] at hbuilt
  rw [← Except.ok.inj hbuilt]
  obtain ⟨k, hdatagram⟩ := requestDatagram_eq .IPV4 identifier.toNat sequence.toNat
    (requestPayload (token.getD fresh) payloadSize .IPV4 h).toBytes
  rw [hdatagram]
  rfl

/-- **`checksum` is the complement of the one's-complement sum, and what carries it checks**:
two folds leave no carry; octets with their checksum at an even offset have the checksum
zero; so has every IPv4 echo request, and one is built for whatever is accepted; so have the
IPv4 header of every SYN and its TCP segment under the pseudo-header, and one is built for
every two IPv4 addresses. -/
theorem checksums_complete :
    (∀ data : Octets, data.length ≤ 65535 →
      foldCarry 0xFFFF (foldCarry 0xFFFF (words (evenPadded data)).sum) ≤ 0xFFFF ∧
      checksum data = 0xFFFF - onesSum 0xFFFF (words (evenPadded data))) ∧
    (∀ before after : Octets, before.length % 2 = 0 →
      (before ++ ([0, 0] ++ after)).length ≤ 65535 →
      checksum (before ++ (packedNat 2 (checksum (before ++ ([0, 0] ++ after))) ++ after)) = 0) ∧
    ((∀ fresh sequence payloadSize identifier token request,
        buildEchoRequest fresh sequence payloadSize .IPV4 identifier token = .ok request →
        checksum request.datagram = 0) ∧
      ∀ (fresh : Token) (sequence identifier : UInt16) (payloadSize : ℤ) (token : Option Token),
        payloadSize ≤ maxPayloadSize .IPV4 →
        ∃ request, buildEchoRequest fresh sequence.toNat payloadSize .IPV4 identifier.toNat
            (token.map Subtype.val) = .ok request ∧
          request.token = token.getD fresh ∧
          slice request.datagram 4 8 =
            packedNat 2 identifier.toNat ++ packedNat 2 sequence.toNat ∧
          MAGIC ++ request.token.val <+: request.datagram.drop HEADER_SIZE ∧
          checksum request.datagram = 0) ∧
    ∀ sourceIp targetIp sourcePort targetPort sequence,
      (∀ packet, buildSyn sourceIp targetIp sourcePort targetPort sequence = .ok packet →
        ∃ source target, requireAddress sourceIp .IPV4 = .ok source ∧
          requireAddress targetIp .IPV4 = .ok target ∧
          IsSyn source.packed target.packed sourcePort targetPort sequence packet) ∧
      ∀ source target, requireAddress sourceIp .IPV4 = .ok source →
        requireAddress targetIp .IPV4 = .ok target →
        ∃ packet, buildSyn sourceIp targetIp sourcePort targetPort sequence = .ok packet ∧
          IsSyn source.packed target.packed sourcePort targetPort sequence packet := by
  refine ⟨?_, ?_, ⟨?_, ?_⟩, ?_⟩
  · intro data h
    exact ⟨folds_leave_no_carry h, checksum_eq h⟩
  · intro before after heven hlength
    exact checksum_inserted heven hlength
  · intro fresh sequence payloadSize identifier token request h
    exact checksum_of_buildEchoRequest h
  · intro fresh sequence identifier payloadSize token h
    exact buildEchoRequest_checks fresh sequence identifier h token
  · intro sourceIp targetIp sourcePort targetPort sequence
    refine ⟨fun packet h => isSyn_of_buildSyn h, ?_⟩
    intro source target hsource htarget
    exact buildSyn_isSyn hsource htarget sourcePort targetPort sequence

end IPScout
