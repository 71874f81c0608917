import IPScout.Echo.Quoted

/-!
# A request behind a second header

`parse_echo_request` takes octets that begin at the ICMP header of a request, and
`quoted_echo_request` hands it those directly after the quoted IP header.  It reads
them with `parse_echo_reply`, which strips an IPv4 header first, so octets that begin
with one more IPv4 header are accepted for the request behind it.

`RequestAt` is a request read in place.  What is accepted is a request in place of the
octets without such a header (`parseEchoRequest_eq_some`), so the two readers read in
place except exactly where a header hides a request (`reads_in_place_iff`).
-/

namespace IPScout

open Base Base.Octets

/-- The fields of an echo message, at their offsets from the first octet. -/
def fieldsInPlace (octets : Octets) : ParsedReply where
  icmpType := octets.getD 0 0
  code := octets.getD 1 0
  identifier := uint16At octets 4
  sequence := uint16At octets 6
  payload := EchoPayload.fromBytes (octets.drop HEADER_SIZE)

/-- A request that begins with the first of some octets. -/
def RequestAt (family : AddressFamily) (octets : Octets) (request : ParsedReply) : Prop :=
  HEADER_SIZE ≤ octets.length ∧ octets.getD 0 0 = echoRequest family ∧
    request = fieldsInPlace octets

/-- Octets that begin with an IPv4 header, directly after which a request begins. -/
def HidesARequest (family : AddressFamily) (octets : Octets) : Prop :=
  ∃ headerLen, ipv4HeaderLength octets = some headerLen ∧
    headerLen + HEADER_SIZE ≤ octets.length ∧ octets.getD headerLen 0 = echoRequest family

/-- A Time Exceeded that quotes a packet of ICMP. -/
def QuotesIcmp (family : AddressFamily) (datagram header : Octets) (headerLen : ℕ) : Prop :=
  isTimeExceeded datagram family = true ∧
    quotedHeader (stripIpHeader datagram) family = some (header, headerLen) ∧
    header.getD (protocolOffset family) 0 = icmpProtocol family

/-! ### Stripping -/

theorem length_stripIpHeader_le (b : Octets) : (stripIpHeader b).length ≤ b.length := by
  rw [stripIpHeader]
  split
  · exact le_refl _
  · next n _ =>
    split
    · exact le_refl _
    · rw [List.length_drop]
      omega

theorem stripIpHeader_cases (b : Octets) : stripIpHeader b = b ∨
    ∃ n, ipv4HeaderLength b = some n ∧ n < b.length ∧ stripIpHeader b = b.drop n := by
  rw [stripIpHeader]
  split
  · exact Or.inl rfl
  · next n hn =>
    by_cases hle : b.length ≤ n
    · exact Or.inl (if_pos hle)
    · exact Or.inr ⟨n, hn, Nat.lt_of_not_le hle, if_neg hle⟩

theorem stripIpHeader_of_room {b : Octets} {n : ℕ}
    (hn : ipv4HeaderLength b = some n) (hlength : n + HEADER_SIZE ≤ b.length) :
    stripIpHeader b = b.drop n := by
  have h8 : HEADER_SIZE = 8 := rfl
  rw [stripIpHeader, hn]
  exact if_neg (by omega)

/-! ### What is accepted -/

/-- **What is accepted is a request in place of the octets that are left.** -/
theorem parseEchoRequest_eq_some {family : AddressFamily} {b : Octets} {request : ParsedReply} :
    parseEchoRequest b family = some request ↔ RequestAt family (stripIpHeader b) request := by
  have hstrip := length_stripIpHeader_le b
  have hreply : parseEchoReply b = if (stripIpHeader b).length < HEADER_SIZE then none
      else some (fieldsInPlace (stripIpHeader b)) := rfl
  rw [parseEchoRequest, RequestAt, hreply]
  by_cases hshort : (stripIpHeader b).length < HEADER_SIZE
  · rw [if_pos hshort]
    constructor
    · intro h
      split at h <;> simp at h
    · rintro ⟨hlength, -⟩
      exact absurd hlength (Nat.not_le_of_lt hshort)
  · rw [if_neg (by omega), if_neg hshort]
    dsimp only
    constructor
    · intro h
      split at h
      · next htype => exact ⟨Nat.le_of_not_lt hshort, htype, (Option.some.inj h).symm⟩
      · simp at h
    · rintro ⟨-, htype, rfl⟩
      exact if_pos htype

/-- A request in place begins with no IPv4 header. -/
theorem RequestAt.ipv4HeaderLength {family : AddressFamily} {b : Octets} {request : ParsedReply}
    (h : RequestAt family b request) : ipv4HeaderLength b = none := by
  cases hlen : IPScout.ipv4HeaderLength b with
  | none => rfl
  | some n =>
    have hversion := (ipv4HeaderLength_eq_some.mp hlen).2.1
    rw [octet, h.2.1] at hversion
    exact absurd hversion (echoRequest_div_ne family)

/-- **`parse_echo_request` reads in place exactly the octets that hide no request.** -/
theorem parseEchoRequest_in_place_iff (family : AddressFamily) (b : Octets) :
    (∀ request, parseEchoRequest b family = some request → RequestAt family b request) ↔
      ¬ HidesARequest family b := by
  constructor
  · rintro hplace ⟨n, hn, hlength, htype⟩
    have hdrop := stripIpHeader_of_room hn hlength
    have hfirst : (b.drop n).getD 0 0 = b.getD n 0 := by
      rw [List.getD_eq_getElem?_getD, List.getElem?_drop, List.getD_eq_getElem?_getD, Nat.add_zero]
    have haccepted : RequestAt family (stripIpHeader b) (fieldsInPlace (b.drop n)) := by
      rw [hdrop]
      refine ⟨?_, ?_, rfl⟩
      · rw [List.length_drop]
        omega
      · rw [hfirst, htype]
    have hnone := (hplace _ (parseEchoRequest_eq_some.mpr haccepted)).ipv4HeaderLength
    rw [hn] at hnone
    simp at hnone
  · intro hclear request h
    have hread := parseEchoRequest_eq_some.mp h
    rcases stripIpHeader_cases b with hsame | ⟨n, hn, _, hdrop⟩
    · rwa [hsame] at hread
    · -- what was accepted is behind a header
      rw [hdrop] at hread
      obtain ⟨hlength, htype, -⟩ := hread
      have h8 : HEADER_SIZE = 8 := rfl
      rw [List.length_drop] at hlength
      rw [List.getD_eq_getElem?_getD, List.getElem?_drop, ← List.getD_eq_getElem?_getD,
        Nat.add_zero] at htype
      exact absurd ⟨n, hn, by omega, htype⟩ hclear

/-- **What `quoted_echo_request` accepts**: a packet of ICMP, and what is read after its
header. -/
theorem quotedEchoRequest_eq_some {family : AddressFamily} {datagram : Octets}
    {q : QuotedRequest} : quotedEchoRequest datagram family = some q ↔
      ∃ header headerLen, QuotesIcmp family datagram header headerLen ∧
        parseEchoRequest (header.drop headerLen) family = some q.request ∧
        q.destination = quotedDestination header family := by
  rw [quotedEchoRequest]
  constructor
  · intro h
    split at h
    · simp at h
    · next hexceeded =>
      split at h
      · simp at h
      · next header headerLen hheader =>
        split at h
        · simp at h
        · next hprotocol =>
          obtain ⟨request, hrequest, rfl⟩ := Option.map_eq_some_iff.mp h
          exact ⟨header, headerLen, ⟨by simpa using hexceeded, hheader, not_not.mp hprotocol⟩,
            hrequest, rfl⟩
  · rintro ⟨header, headerLen, ⟨hexceeded, hheader, hprotocol⟩, hrequest, hdestination⟩
    rw [if_neg (by simp [hexceeded]), hheader]
    dsimp only
    rw [if_neg (not_not.mpr hprotocol), hrequest, Option.map_some, ← hdestination]

/-- **The two readers read in place exactly what hides no request**: the octets they are
given, and those directly after the quoted header. -/
theorem reads_in_place_iff (family : AddressFamily) (octets : Octets) :
    ((∀ request, parseEchoRequest octets family = some request →
        RequestAt family octets request) ↔ ¬ HidesARequest family octets) ∧
    ((∀ q, quotedEchoRequest octets family = some q →
        ∃ header headerLen, QuotesIcmp family octets header headerLen ∧
          RequestAt family (header.drop headerLen) q.request) ↔
      ∀ header headerLen, QuotesIcmp family octets header headerLen →
        ¬ HidesARequest family (header.drop headerLen)) := by
  refine ⟨parseEchoRequest_in_place_iff family octets, ?_⟩
  constructor
  · intro hplace header headerLen hquotes
    apply (parseEchoRequest_in_place_iff family (header.drop headerLen)).mp
    intro request hrequest
    obtain ⟨header', headerLen', hquotes', hread⟩ := hplace
      ⟨request, quotedDestination header family⟩
      (quotedEchoRequest_eq_some.mpr ⟨header, headerLen, hquotes, hrequest, rfl⟩)
    have hsame := hquotes.2.1.symm.trans hquotes'.2.1
    obtain ⟨rfl, rfl⟩ := Prod.mk.inj (Option.some.inj hsame)
    exact hread
  · intro hclear q hq
    obtain ⟨header, headerLen, hquotes, hrequest, _⟩ := quotedEchoRequest_eq_some.mp hq
    exact ⟨header, headerLen, hquotes, (parseEchoRequest_in_place_iff family _).mpr
      (hclear header headerLen hquotes) q.request hrequest⟩

/-- An IPv4 header, and the header of an echo request with sequence 5 behind it. -/
def requestBehindAHeader : Octets :=
  [0x45, 0, 0, 28, 0, 0, 0, 0, 1, 1, 0, 0, 192, 0, 2, 1, 192, 0, 2, 2] ++ [8, 0, 0, 0, 0, 1, 0, 5]

/-- A Time Exceeded that quotes such a packet. -/
def nestedQuote : Octets :=
  [11, 0, 0, 0, 0, 0, 0, 0] ++
    [0x45, 0, 0, 48, 0, 0, 0, 0, 1, 1, 0, 0, 192, 0, 2, 9, 192, 0, 2, 8] ++ requestBehindAHeader

/-- **A packet in a packet is accepted**: the request's sequence is read 20 octets too far. -/
theorem requestBehindAHeader_accepted :
    (∃ request, parseEchoRequest requestBehindAHeader .IPV4 = some request ∧
      request.sequence = 5 ∧ requestBehindAHeader.getD 0 0 ≠ echoRequest .IPV4) ∧
    ∃ q, quotedEchoRequest nestedQuote .IPV4 = some q ∧ q.request.sequence = 5 ∧
      nestedQuote.getD (8 + 20) 0 ≠ echoRequest .IPV4 :=
  ⟨⟨⟨8, 0, 1, 5, none⟩, by decide, rfl, by decide⟩,
    ⟨⟨⟨8, 0, 1, 5, none⟩, [192, 0, 2, 8]⟩, by decide, rfl, by decide⟩⟩

end IPScout
