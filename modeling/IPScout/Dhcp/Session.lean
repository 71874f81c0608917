import Mathlib.Data.Finset.Insert
import IPScout.Base.Steps
import IPScout.Dhcp.Bootp
import IPScout.Echo.Ping

/-!
# A watch for DHCP offers

`DhcpSession` of `dhcp.py`: a reader thread absorbs the frames of one capture,
any number of threads call `result()`, and `stop()` may come at any time.  A
session is the variables they share and the place each thread has reached; a run
takes one step of one thread after another, in any order, between moments of the
clock.  A step is what a thread does under the condition, or one read or write
outside it.
-/

namespace IPScout

open Base Base.Octets

/-! ### Settings -/

/-- `_WatchSettings`, and the interface the capture is opened on. -/
structure Watch where
  mac : Mac
  interface : Text
  timeout : ℚ
  settle : ℚ
  timeout_bounds : 0 < timeout ∧ timeout ≤ MAX_TIMEOUT
  settle_bounds : 0 ≤ settle ∧ settle ≤ MAX_TIMEOUT

def theExchangeHasGoneQuiet (lastSeenAt : Option ℚ) (now startedAt timeout settle : ℚ) : Bool :=
  if now ≥ startedAt + timeout then true
  else
    match lastSeenAt with
    | none => false
    | some lastSeen => now ≥ lastSeen + settle

/-! ### States -/

/-- Where the reader is in `_read_until_done`. -/
inductive Reader
  | unstarted
  /-- Before `_stopping.is_set()`. -/
  | looping
  /-- Before the clock is compared with the deadline. -/
  | timing
  | receiving
  | absorbing (frame : Octets)
  /-- Before `_failure` is set. -/
  | failing (failure : PyError)
  /-- Before `_finished` is set. -/
  | finishing
  | done
  deriving DecidableEq

/-- Where a thread is in a call of `result`. -/
inductive Call
  | idle
  /-- In `_wait_for_quiet`. -/
  | waiting
  /-- Before the snapshot. -/
  | recording
  /-- Before `_reraise_any_failure`. -/
  | checking
  /-- Before `return list(self._recorded)`. -/
  | returning
  deriving DecidableEq

/-- Where a thread is in a call of `stop`. -/
inductive Stop
  | idle
  | joining
  | closing
  | finishing
  deriving DecidableEq

/-- What the threads of a session share, and where each of them is. -/
structure Session where
  now : ℚ
  entered : Bool
  started : ℚ
  captureOpen : Bool
  found : List Text
  seen : Finset Text
  lastSeen : Option ℚ
  stopping : Bool
  finished : Bool
  failure : Option PyError
  recorded : Option (List Text)
  reader : Reader
  call : ℕ → Call
  stopper : ℕ → Stop
  /-- Whether some call of `result` has returned a list; the code keeps no such flag. -/
  answered : Bool

namespace Session

def initial : Session where
  now := 0
  entered := false
  started := 0
  captureOpen := false
  found := []
  seen := ∅
  lastSeen := none
  stopping := false
  finished := false
  failure := none
  recorded := none
  reader := .unstarted
  call := fun _ => .idle
  stopper := fun _ => .idle
  answered := false

/-- The state in which a call of `result` has reached another place. -/
def setCall (s : Session) (i : ℕ) (c : Call) : Session :=
  { s with call := Function.update s.call i c }

def setStopper (s : Session) (i : ℕ) (c : Stop) : Session :=
  { s with stopper := Function.update s.stopper i c }

/-- The part of `_absorb` under the condition: a retransmission changes nothing. -/
def recordAddress (s : Session) (address : Text) : Session :=
  if address ∈ s.seen then s
  else { s with
    seen := insert address s.seen
    found := s.found ++ [address]
    lastSeen := some s.now }

/-- `_absorb`: record the address a frame offers, if it offers one to this machine. -/
def absorb (w : Watch) (s : Session) (frame : Octets) : Except PyError Session :=
  match DhcpReply.fromFrame frame with
  | .error e => .error e
  | .ok none => .ok s
  | .ok (some reply) =>
    if reply.clientMac ≠ w.mac.val then .ok s else .ok (s.recordAddress reply.offeredIp)

/-- Whether one pass of `_wait_for_quiet` returns. -/
def quiet (w : Watch) (s : Session) : Bool :=
  s.finished || theExchangeHasGoneQuiet s.lastSeen s.now s.started w.timeout w.settle

end Session

/-- `_reraise_any_failure`: what a call raises for a failure of the reader. -/
def captureStopped (w : Watch) (failure : PyError) : PyError :=
  .scout .IPScoutError ([say "the DHCP capture on ", .quoted w.interface,
    say " stopped before the window ended: "] ++ failure.str)

/-! ### Steps -/

inductive SessionAction
  | tick (seconds : ℚ)
  /-- `__enter__` returns. -/
  | enter
  /-- `__enter__` raises: no capture, or an opened one and no thread. -/
  | refuse (opened : Bool)
  | look
  | time
  | receive (frame : Option Octets)
  /-- The capture raises. -/
  | die (failure : PyError)
  | absorb
  | fail
  | finish
  | call (i : ℕ)
  /-- One pass of `_wait_for_quiet`. -/
  | test (i : ℕ)
  | record (i : ℕ)
  | check (i : ℕ)
  | raise (i : ℕ) (error : PyError)
  | answer (i : ℕ) (addresses : List Text)
  | stop (i : ℕ)
  | join (i : ℕ)
  | close (i : ℕ)
  | stopped (i : ℕ)
  deriving DecidableEq

/-- The thread whose call of `result` takes the step. -/
def SessionAction.caller : SessionAction → Option ℕ
  | call i => some i
  | test i => some i
  | record i => some i
  | check i => some i
  | raise i _ => some i
  | answer i _ => some i
  | _ => none

/-- One step of a session. -/
inductive SessionStep (w : Watch) : Session → SessionAction → Session → Prop
  | tick {s : Session} {seconds : ℚ} :
      0 ≤ seconds → SessionStep w s (.tick seconds) { s with now := s.now + seconds }
  | enter {s : Session} : s.entered = false →
      SessionStep w s .enter
        { s with entered := true, captureOpen := true, started := s.now, reader := .looping }
  | refuse {s : Session} {opened : Bool} : s.entered = false →
      SessionStep w s (.refuse opened)
        { s with entered := true, started := if opened then s.now else s.started }
  | look {s : Session} : s.reader = .looping →
      SessionStep w s .look { s with reader := if s.stopping then .finishing else .timing }
  | time {s : Session} : s.reader = .timing →
      SessionStep w s .time
        { s with reader := if s.started + w.timeout - s.now ≤ 0 then .finishing else .receiving }
  | receive {s : Session} {frame : Option Octets} : s.reader = .receiving →
      SessionStep w s (.receive frame)
        { s with reader := match frame with
            | none => .looping
            | some frame => .absorbing frame }
  | die {s : Session} {failure : PyError} : s.reader = .receiving →
      SessionStep w s (.die failure) { s with reader := .failing failure }
  | absorb {s t : Session} {frame : Octets} :
      s.reader = .absorbing frame → s.absorb w frame = .ok t →
      SessionStep w s .absorb { t with reader := .looping }
  | absorbRaises {s : Session} {frame : Octets} {e : PyError} :
      s.reader = .absorbing frame → s.absorb w frame = .error e →
      SessionStep w s .absorb { s with reader := .failing e }
  | fail {s : Session} {e : PyError} : s.reader = .failing e →
      SessionStep w s .fail { s with failure := some e, reader := .finishing }
  | finish {s : Session} : s.reader = .finishing →
      SessionStep w s .finish { s with finished := true, reader := .done }
  | call {s : Session} {i : ℕ} : s.call i = .idle →
      SessionStep w s (.call i) (s.setCall i (if s.recorded.isNone then .waiting else .checking))
  | test {s : Session} {i : ℕ} : s.call i = .waiting →
      SessionStep w s (.test i) (s.setCall i (if s.quiet w then .recording else .waiting))
  | record {s : Session} {i : ℕ} : s.call i = .recording →
      SessionStep w s (.record i) { s.setCall i .checking with recorded := some s.found }
  | check {s : Session} {i : ℕ} : s.call i = .checking → s.failure = none →
      SessionStep w s (.check i) (s.setCall i .returning)
  | raise {s : Session} {i : ℕ} {e : PyError} : s.call i = .checking → s.failure = some e →
      SessionStep w s (.raise i (captureStopped w e)) (s.setCall i .idle)
  | answer {s : Session} {i : ℕ} {addresses : List Text} :
      s.call i = .returning → s.recorded = some addresses →
      SessionStep w s (.answer i addresses) { s.setCall i .idle with answered := true }
  | stop {s : Session} {i : ℕ} : s.stopper i = .idle →
      SessionStep w s (.stop i) { s.setStopper i .joining with stopping := true }
  -- the reader has ended by then or the join has timed out
  | join {s : Session} {i : ℕ} : s.stopper i = .joining →
      SessionStep w s (.join i) (s.setStopper i .closing)
  | close {s : Session} {i : ℕ} : s.stopper i = .closing →
      SessionStep w s (.close i) { s.setStopper i .finishing with captureOpen := false }
  | stopped {s : Session} {i : ℕ} : s.stopper i = .finishing →
      SessionStep w s (.stopped i) { s.setStopper i .idle with finished := true }

end IPScout
