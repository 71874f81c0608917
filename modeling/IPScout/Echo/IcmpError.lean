import Mathlib.Algebra.Order.Ring.Rat
import IPScout.Echo.Packet

/-!
# What ends a probe's wait

The part of `transport_posix.py` the two transports share: how a received
datagram or an entry of the socket's error queue is read, and the two tests of
whether what was read is about a given probe.

* `replyMatches`: an echo reply answers the probe whose sequence and token it carries.
* `concerns`: an ICMP error is about the probe its quote agrees with, field by
  field; a Time Exceeded (an error with an arrival) only if the probe set a hop
  limit.

A clock reading is a rational number of seconds, and whatever reads one carries
it as a field.  A peer's socket address is its host text: an address the kernel
hands over with a datagram always has one, the address of an error-queue entry
may be missing.
-/

namespace IPScout

open Base Base.Octets

/-! ### Records -/

/-- What ends a probe's wait with an answer: a reply, or a router's report. -/
structure Arrival where
  finished : ℚ
  source : Text
  ttlExpired : Bool
  deriving DecidableEq

/-- What identifies one probe in the ICMP errors that quote it. -/
structure Probe where
  sequence : UInt16
  token : Token
  identifier : Option UInt16
  hopLimited : Bool
  deriving DecidableEq

/-- An ICMP error about one of our probes.  It has an arrival when a router
reported Time Exceeded and none when the probe was not delivered. -/
structure IcmpError where
  probe : ParsedReply
  destination : Option Octets
  arrival : Option Arrival
  deriving DecidableEq

/-- One entry of a socket's error queue: the request as it was sent, the control
messages about it, where it was going, and the clock when it was read. -/
structure QueueEntry where
  data : Octets
  ancillary : List Octets
  address : Option Text
  finished : ℚ

/-- What the two transports' readers need of their socket. -/
structure EchoSocket where
  family : AddressFamily
  ownDestination : Option Octets

/-! ### Control messages -/

/-- The size of `struct sock_extended_err`. -/
def extendedErrSize : Nat := 16

/-- `SO_EE_ORIGIN_LOCAL`. -/
def originLocal : UInt8 := 1

def icmpOrigin : AddressFamily → UInt8
  | .IPV4 => 2
  | .IPV6 => 3

/-- The ICMP types that say a probe was not delivered. -/
def undeliveredTypes : AddressFamily → List UInt8
  | .IPV4 => [3, 12]
  | .IPV6 => [1, 2, 4]

/-- Where the address sits inside the offender's `sockaddr`. -/
def offenderSlice : AddressFamily → Nat × Nat
  | .IPV4 => (4, 8)
  | .IPV6 => (8, 24)

/-- The origin field of `struct sock_extended_err`. -/
def extendedOrigin (control : Octets) : UInt8 := control.getD 4 0

/-- The type field of `struct sock_extended_err`. -/
def extendedType (control : Octets) : UInt8 := control.getD 5 0

/-- The router `SO_EE_OFFENDER` names, when the message is a Time Exceeded. -/
def offenderAddress (control : Octets) (family : AddressFamily) : Option Text :=
  if control.length < extendedErrSize then none
  else if extendedOrigin control ≠ icmpOrigin family ∨
      extendedType control ≠ timeExceeded family then none
  else
    let offender := control.drop extendedErrSize
    let (start, stop) := offenderSlice family
    if offender.length < stop then none else some (inetNtop family (slice offender start stop))

/-- Whether a control message says the probe was not delivered. -/
def undelivered (control : Octets) (family : AddressFamily) : Bool :=
  if control.length < extendedErrSize then false
  else
    extendedOrigin control == originLocal ||
      (extendedOrigin control == icmpOrigin family &&
        (undeliveredTypes family).contains (extendedType control))

/-! ### Whether it is about a probe -/

/-- Whether a decoded datagram answers this probe.  The identifier is not looked
at: the kernel rewrites it. -/
def replyMatches (parsed : ParsedReply) (sequence : UInt16) (token : Token)
    (family : AddressFamily) : Bool :=
  isEchoReply parsed family && parsed.sequence == sequence && parsed.token == some token

/-- Whether an error is about this probe. -/
def concerns (error : IcmpError) (probe : Probe) (destination : Option Octets) : Bool :=
  error.probe.sequence == probe.sequence &&
    (error.probe.token == none || error.probe.token == some probe.token) &&
    (probe.identifier == none || probe.identifier == some error.probe.identifier) &&
    (destination == none || error.destination == none || error.destination == destination) &&
    (probe.hopLimited || error.arrival == none)

/-- The first of the errors that is about this probe. -/
def concerning (errors : List IcmpError) (probe : Probe) (destination : Option Octets) :
    Option IcmpError :=
  errors.find? fun error => concerns error probe destination

theorem hopLimited_of_concerns {error : IcmpError} {probe : Probe} {destination : Option Octets}
    {a : Arrival} (h : concerns error probe destination = true) (ha : error.arrival = some a) :
    probe.hopLimited = true := by
  simp only [concerns, Bool.and_eq_true, Bool.or_eq_true, ha, reduceCtorEq, beq_iff_eq] at h
  simpa using h.2

/-! ### Reading errors -/

/-- The host of a received socket address, packed. -/
def packedHost (address : Option Text) (family : AddressFamily) : Option Octets :=
  match address with
  | none => none
  | some host => inetPton family (splitZone host).address

/-- What one control message of an entry says became of the request. -/
def controlError (probe : ParsedReply) (destination : Option Octets) (finished : ℚ)
    (family : AddressFamily) (control : Octets) : Option IcmpError :=
  match offenderAddress control family with
  | some router => some ⟨probe, destination, some ⟨finished, router, true⟩⟩
  | none => if undelivered control family then some ⟨probe, destination, none⟩ else none

/-- The error one queue entry reports, if it is an answer to a probe. -/
def queuedError (entry : QueueEntry) (family : AddressFamily) : Option IcmpError :=
  match parseEchoRequest entry.data family with
  | none => none
  | some probe =>
    entry.ancillary.findSome?
      (controlError probe (packedHost entry.address family) entry.finished family)

/-- The errors a whole queue reports, oldest first, or `none` when not a single
entry was read.  The reads end with the `OSError` of an empty queue. -/
def drainErrors (entries : List QueueEntry) (family : AddressFamily) : Option (List IcmpError) :=
  match entries with
  | [] => none
  | entries => some (entries.filterMap fun entry => queuedError entry family)

def timeExceededDatagram (raw : Octets) (peer : Text) (finished : ℚ) (family : AddressFamily) :
    Option IcmpError :=
  match quotedEchoRequest raw family with
  | none => none
  | some quoted => some ⟨quoted.request, some quoted.destination, some ⟨finished, peer, true⟩⟩

theorem ttlExpired_of_queuedError {entry : QueueEntry} {family : AddressFamily} {e : IcmpError}
    {a : Arrival} (h : queuedError entry family = some e) (ha : e.arrival = some a) :
    a.ttlExpired = true := by
  rw [queuedError] at h
  split at h
  · simp at h
  · obtain ⟨control, _, hc⟩ := List.exists_of_findSome?_eq_some h
    rw [controlError] at hc
    split at hc
    · have he := Option.some.inj hc
      subst he
      have := Option.some.inj ha
      subst this
      rfl
    · split at hc
      · have he := Option.some.inj hc
        subst he
        simp at ha
      · simp at hc

theorem arrival_of_timeExceededDatagram {raw : Octets} {peer : Text} {finished : ℚ}
    {family : AddressFamily} {e : IcmpError}
    (h : timeExceededDatagram raw peer finished family = some e) :
    e.arrival = some ⟨finished, peer, true⟩ := by
  rw [timeExceededDatagram] at h
  split at h
  · simp at h
  · have he := Option.some.inj h
    subst he
    rfl

end IPScout
