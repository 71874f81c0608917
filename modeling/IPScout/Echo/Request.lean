import IPScout.Echo.IcmpError

/-!
# Building an echo request

`build_echo_request`, and that it is read back.  The request begins with a type whose
high nibble is not 4 in either family, so nothing is stripped from it, and an IPv4
header in front of it is stripped whole, whatever its options are
(`stripIpHeader_append`).

What a reader takes from a datagram is its type, code, identifier, sequence and
payload (`parseEchoReply_icmp`); a request carries the ones it was built from, and a
peer's reply to it carries its sequence and its payload (`echo_request_codec`).
-/

namespace IPScout

open Base Base.Octets Base.Text

/-! ### The builder -/

def MAX_ICMP_FIELD16 : ℕ := 0xFFFF

/-- The 16-bit words of octets that are even in number. -/
def words : Octets → List ℕ
  | high :: low :: rest => (high.toNat * 256 + low.toNat) :: words rest
  | _ => []

/-- `checksum`: the one's-complement sum, its carries folded in twice. -/
def checksum (data : Octets) : ℕ :=
  let data := if data.length % 2 ≠ 0 then data ++ [0] else data
  let total := (words data).sum
  let total := total / 2 ^ 16 + total % 2 ^ 16
  let total := total + total / 2 ^ 16
  -- `~total & 0xFFFF`
  0xFFFF - total % 2 ^ 16

/-- `_HEADER_STRUCT.pack`. -/
def packHeader (icmpType code : UInt8) (checksum identifier sequence : ℕ) : Octets :=
  [icmpType, code] ++ packedNat 2 checksum ++ packedNat 2 identifier ++ packedNat 2 sequence

/-- One echo request ready to send, and the token its reply must carry. -/
structure EchoRequest where
  datagram : Octets
  token : Token

def requireUint16 (name : String) (value : ℤ) : Except PyError Unit :=
  if 0 ≤ value ∧ value ≤ MAX_ICMP_FIELD16 then .ok ()
  else .error (.value [say (name ++ " out of range 0-65535: "), .text (decimalInt value)])

theorem maxPayloadSize_le (family : AddressFamily) :
    maxPayloadSize family ≤ MAX_PAYLOAD_SIZE_IPV6 := by
  cases family <;> decide

/-- The payload of a request: the token, and filler up to the size asked for. -/
def requestPayload (token : Token) (payloadSize : ℤ) (family : AddressFamily)
    (h : payloadSize ≤ maxPayloadSize family) : EchoPayload where
  token := token
  filler := List.replicate (payloadSize - MIN_PAYLOAD_SIZE).toNat 0
  filler_le := by
    have := maxPayloadSize_le family
    rw [List.length_replicate, maxFillerSize]
    omega

/-- The datagram of a request; the kernel computes the checksum of an IPv6 one. -/
def requestDatagram (family : AddressFamily) (identifier sequence : ℕ) (payload : Octets) :
    Octets :=
  match family with
  | .IPV6 => packHeader (echoRequest .IPV6) 0 0 identifier sequence ++ payload
  | .IPV4 =>
    let blank := packHeader (echoRequest .IPV4) 0 0 identifier sequence ++ payload
    packHeader (echoRequest .IPV4) 0 (checksum blank) identifier sequence ++ payload

/-- The token given, or the fresh one of `secrets.token_bytes`. -/
def actualToken (fresh : Token) : Option Octets → Except PyError Token
  | none => .ok fresh
  | some token =>
    if h : token.length = TOKEN_SIZE then .ok ⟨token, h⟩
    else
      .error (.value [say "token must be exactly 8 bytes, got ", .text (decimal token.length)])

def buildEchoRequest (fresh : Token) (sequence payloadSize : ℤ) (family : AddressFamily)
    (identifier : ℤ) (token : Option Octets) : Except PyError EchoRequest := do
  requireUint16 "sequence" sequence
  requireUint16 "identifier" identifier
  if h : payloadSize ≤ maxPayloadSize family then
    let actual ← actualToken fresh token
    let payload := requestPayload actual payloadSize family h
    .ok ⟨requestDatagram family identifier.toNat sequence.toNat payload.toBytes, actual⟩
  else
    .error (.value [say "payload_size above the ", .text family.value, say " maximum of ",
      .text (decimal (maxPayloadSize family)), say " bytes: ", .text (decimalInt payloadSize)])

/-! ### Headers in front -/

/-- A whole IPv4 header: five words and its options. -/
def IsIpv4Header (header : Octets) : Prop :=
  octet header 0 / 16 = 4 ∧ 5 ≤ octet header 0 % 16 ∧ header.length = octet header 0 % 16 * 4

/-- What a socket may deliver before an ICMP message: on IPv4 its header. -/
def MayPrecede (family : AddressFamily) (before : Octets) : Prop :=
  before = [] ∨ (family = .IPV4 ∧ IsIpv4Header before)

theorem stripIpHeader_of_ne {b : Octets} (h : octet b 0 / 16 ≠ 4) : stripIpHeader b = b := by
  rw [stripIpHeader]
  cases hlen : ipv4HeaderLength b with
  | none => rfl
  | some n => exact absurd (ipv4HeaderLength_eq_some.mp hlen).2.1 h

theorem ipv4HeaderLength_append {header : Octets} (h : IsIpv4Header header) (rest : Octets) :
    ipv4HeaderLength (header ++ rest) = some header.length := by
  obtain ⟨hversion, hihl, hlength⟩ := h
  have hfirst : octet (header ++ rest) 0 = octet header 0 := octet_append_left (by omega)
  have h20 : IPV4_MIN_HEADER_SIZE = 20 := rfl
  refine ipv4HeaderLength_eq_some.mpr ⟨?_, ?_, ?_, ?_⟩
  · rw [List.length_append]
    omega
  · rw [hfirst, hversion]
  · rwa [hfirst]
  · rwa [hfirst]

/-- **An IPv4 header in front is stripped whole.** -/
theorem stripIpHeader_append {header : Octets} (h : IsIpv4Header header) {rest : Octets}
    (hrest : rest ≠ []) : stripIpHeader (header ++ rest) = rest := by
  have hpos := List.length_pos_iff.mpr hrest
  rw [stripIpHeader, ipv4HeaderLength_append h]
  dsimp only
  rw [if_neg (by rw [List.length_append]; omega), List.drop_left]

theorem stripIpHeader_mayPrecede {family : AddressFamily} {before icmp : Octets}
    (h : MayPrecede family before) (hicmp : icmp ≠ []) (hfirst : octet icmp 0 / 16 ≠ 4) :
    stripIpHeader (before ++ icmp) = icmp := by
  rcases h with rfl | ⟨_, hheader⟩
  · exact stripIpHeader_of_ne hfirst
  · exact stripIpHeader_append hheader hicmp

/-! ### Reading back -/

theorem ofNat_bigEndian_packedNat (n : ℕ) :
    UInt16.ofNat (bigEndian (packedNat 2 n)) = UInt16.ofNat n := by
  apply UInt16.toNat_inj.mp
  rw [bigEndian_packedNat, UInt16.toNat_ofNat', UInt16.toNat_ofNat']
  exact Nat.mod_mod _ _

theorem exists_packedNat_two (n : ℕ) : ∃ x y, packedNat 2 n = [x, y] := ⟨_, _, rfl⟩

/-- **What a reader takes from an ICMP message**, with or without a header in front. -/
theorem parseEchoReply_icmp {family : AddressFamily} {before : Octets}
    (hbefore : MayPrecede family before) {icmpType : UInt8} (htype : icmpType.toNat / 16 ≠ 4)
    (code : UInt8) (checksum identifier sequence : ℕ) (payload : Octets) :
    parseEchoReply (before ++ (packHeader icmpType code checksum identifier sequence ++ payload)) =
      some ⟨icmpType, code, UInt16.ofNat identifier, UInt16.ofNat sequence,
        EchoPayload.fromBytes payload⟩ := by
  obtain ⟨k, k', hk⟩ := exists_packedNat_two checksum
  obtain ⟨i, i', hi⟩ := exists_packedNat_two identifier
  obtain ⟨s, s', hs⟩ := exists_packedNat_two sequence
  have hheader : packHeader icmpType code checksum identifier sequence ++ payload =
      icmpType :: code :: k :: k' :: i :: i' :: s :: s' :: payload := by
    rw [packHeader, hk, hi, hs]
    rfl
  have hstrip : stripIpHeader (before ++ icmpType :: code :: k :: k' :: i :: i' :: s :: s' ::
      payload) = _ := stripIpHeader_mayPrecede hbefore (by simp) htype
  rw [hheader, parseEchoReply, hstrip, ← ofNat_bigEndian_packedNat identifier, hi,
    ← ofNat_bigEndian_packedNat sequence, hs]
  rw [if_neg (by simp [HEADER_SIZE])]
  rfl

theorem echoRequest_div_ne (family : AddressFamily) : (echoRequest family).toNat / 16 ≠ 4 := by
  cases family <;> decide

theorem echoReply_div_ne (family : AddressFamily) : (echoReply family).toNat / 16 ≠ 4 := by
  cases family <;> decide

theorem requestDatagram_eq (family : AddressFamily) (identifier sequence : ℕ) (payload : Octets) :
    ∃ k, requestDatagram family identifier sequence payload =
      packHeader (echoRequest family) 0 k identifier sequence ++ payload := by
  cases family with
  | IPV4 => exact ⟨_, rfl⟩
  | IPV6 => exact ⟨0, rfl⟩

theorem length_packHeader (icmpType code : UInt8) (checksum identifier sequence : ℕ) :
    (packHeader icmpType code checksum identifier sequence).length = HEADER_SIZE := by
  simp [packHeader, length_packedNat, HEADER_SIZE]

theorem length_requestPayload (token : Token) {payloadSize : ℤ} {family : AddressFamily}
    (h : payloadSize ≤ maxPayloadSize family) :
    (((requestPayload token payloadSize family h).toBytes).length : ℤ) =
      max (MIN_PAYLOAD_SIZE : ℤ) payloadSize := by
  have h8 : MIN_PAYLOAD_SIZE = MAGIC.length + TOKEN_SIZE := rfl
  rw [EchoPayload.toBytes, requestPayload, List.length_append, List.length_append, token.property,
    List.length_replicate]
  omega

/-! ### Round trips -/

/-- What a peer answers a request with: the type changed, the sequence and the payload kept,
and any checksum and identifier. -/
def peerReply (family : AddressFamily) (checksum identifier : ℕ) (request : Octets) : Octets :=
  [echoReply family] ++ slice request 1 2 ++ packedNat 2 checksum ++ packedNat 2 identifier ++
    request.drop 6

/-- A decoded message that is about one request. -/
structure Identifies (p : ParsedReply) (sequence identifier : UInt16) (token : Token) : Prop where
  sequence : p.sequence = sequence
  identifier : p.identifier = identifier
  token : p.token = some token

theorem peerReply_packHeader (family : AddressFamily) (checksum identifier' : ℕ)
    (k identifier sequence : ℕ) (payload : Octets) :
    peerReply family checksum identifier'
        (packHeader (echoRequest family) 0 k identifier sequence ++ payload) =
      packHeader (echoReply family) 0 checksum identifier' sequence ++ payload := by
  obtain ⟨x, x', hx⟩ := exists_packedNat_two k
  obtain ⟨i, i', hi⟩ := exists_packedNat_two identifier
  rw [peerReply, packHeader, packHeader, hx, hi]
  simp [slice]

theorem parseEchoRequest_packHeader (family : AddressFamily) (k identifier sequence : ℕ)
    (payload : Octets) :
    parseEchoRequest (packHeader (echoRequest family) 0 k identifier sequence ++ payload) family =
      some ⟨echoRequest family, 0, UInt16.ofNat identifier, UInt16.ofNat sequence,
        EchoPayload.fromBytes payload⟩ := by
  have hread := parseEchoReply_icmp (Or.inl rfl : MayPrecede family []) (echoRequest_div_ne family)
    0 k identifier sequence payload
  rw [List.nil_append] at hread
  rw [parseEchoRequest, if_neg, hread]
  · exact if_pos rfl
  · rw [List.length_append, length_packHeader]
    omega

theorem buildEchoRequest_ok (fresh : Token) (family : AddressFamily) (sequence identifier : UInt16)
    {payloadSize : ℤ} (h : payloadSize ≤ maxPayloadSize family) (token : Option Token) :
    buildEchoRequest fresh sequence.toNat payloadSize family identifier.toNat
        (token.map Subtype.val) =
      .ok ⟨requestDatagram family identifier.toNat sequence.toNat
        (requestPayload (token.getD fresh) payloadSize family h).toBytes, token.getD fresh⟩ := by
  have hfits : ∀ (name : String) (n : UInt16), requireUint16 name n.toNat = .ok () := by
    intro name n
    have hlt := n.toNat_lt
    rw [requireUint16, if_pos]
    rw [MAX_ICMP_FIELD16]
    omega
  have htoken : actualToken fresh (token.map Subtype.val) = .ok (token.getD fresh) := by
    cases token with
    | none => rfl
    | some t => simp [actualToken, t.property]
  rw [buildEchoRequest, hfits, hfits, htoken, dif_pos h]
  rfl

/-- **An echo request reads back as what it was built from**, and a peer's reply to it is
accepted for its sequence and token and for no others. -/
theorem echo_request_codec (fresh : Token) (family : AddressFamily) (sequence identifier : UInt16)
    {payloadSize : ℤ} (h : payloadSize ≤ maxPayloadSize family) (token : Option Token) :
    ∃ request, buildEchoRequest fresh sequence.toNat payloadSize family identifier.toNat
        (token.map Subtype.val) = .ok request ∧
      request.token = token.getD fresh ∧
      (request.datagram.length : ℤ) = HEADER_SIZE + max (MIN_PAYLOAD_SIZE : ℤ) payloadSize ∧
      MAGIC ++ request.token.val <+: request.datagram.drop HEADER_SIZE ∧
      (∃ p, parseEchoRequest request.datagram family = some p ∧
        Identifies p sequence identifier request.token) ∧
      (∀ before, MayPrecede family before → ∃ p,
        parseEchoReply (before ++ request.datagram) = some p ∧
          Identifies p sequence identifier request.token) ∧
      ∀ before checksum identifier', MayPrecede family before → ∃ p,
        parseEchoReply (before ++ peerReply family checksum identifier' request.datagram) = some p ∧
          ∀ sequence' token', replyMatches p sequence' token' family = true ↔
            sequence' = sequence ∧ token' = request.token := by
  have hbuilt := buildEchoRequest_ok fresh family sequence identifier h token
  generalize hpayload : requestPayload (token.getD fresh) payloadSize family h = payload at hbuilt
  obtain ⟨k, hdatagram⟩ :=
    requestDatagram_eq family identifier.toNat sequence.toNat payload.toBytes
  have htoken : payload.token = token.getD fresh := by rw [← hpayload, requestPayload]
  rw [hdatagram] at hbuilt
  have hidentifies : Identifies ⟨echoRequest family, 0, UInt16.ofNat identifier.toNat,
      UInt16.ofNat sequence.toNat, EchoPayload.fromBytes payload.toBytes⟩ sequence identifier
      (token.getD fresh) := by
    refine ⟨UInt16.ofNat_toNat, UInt16.ofNat_toNat, ?_⟩
    rw [ParsedReply.token, EchoPayload.fromBytes_toBytes, Option.map_some, htoken]
  refine ⟨_, hbuilt, rfl, ?_, ?_, ?_, ?_, ?_⟩
  · dsimp only
    rw [List.length_append, length_packHeader, Nat.cast_add, ← hpayload, length_requestPayload]
  · dsimp only
    rw [← length_packHeader (echoRequest family) 0 k identifier.toNat sequence.toNat,
      List.drop_left, EchoPayload.toBytes, htoken]
    exact List.prefix_append _ _
  · exact ⟨_, parseEchoRequest_packHeader family k _ _ _, hidentifies⟩
  · intro before hbefore
    exact ⟨_, parseEchoReply_icmp hbefore (echoRequest_div_ne family) 0 k _ _ _, hidentifies⟩
  · intro before checksum identifier' hbefore
    dsimp only
    rw [peerReply_packHeader, parseEchoReply_icmp hbefore (echoReply_div_ne family)]
    refine ⟨_, rfl, ?_⟩
    intro sequence' token'
    simp only [replyMatches, isEchoReply, ParsedReply.token, EchoPayload.fromBytes_toBytes,
      Option.map_some, htoken, UInt16.ofNat_toNat, Bool.and_eq_true, beq_iff_eq, true_and,
      Option.some.injEq]
    exact and_congr eq_comm eq_comm

/-- The eight letters from `a` on. -/
def letterToken : Token := ⟨[0x61, 0x62, 0x63, 0x64, 0x65, 0x66, 0x67, 0x68], by decide⟩

/-- A ping of the default size. -/
theorem echo_request_codec_of_a_ping :
    ∃ request, buildEchoRequest letterToken (7 : UInt16).toNat 56 .IPV4 (0xbeef : UInt16).toNat
        none = .ok request ∧
      request.token = letterToken ∧ request.datagram.length = 64 := by
  obtain ⟨request, hbuilt, htoken, hlength, _⟩ :=
    echo_request_codec letterToken .IPV4 7 0xbeef (show (56 : ℤ) ≤ _ by decide) none
  refine ⟨request, hbuilt, htoken, ?_⟩
  have h64 : (HEADER_SIZE : ℤ) + max (MIN_PAYLOAD_SIZE : ℤ) 56 = 64 := by decide
  omega

end IPScout
