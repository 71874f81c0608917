import IPScout.Base.Utf8
import IPScout.Hosts.Reach

/-!
# Banner grabs

`banner.py`: what one host says first on a TCP port.  A connection is what its
reads give before the deadline, chunk by chunk, and what saying goodbye and
closing raise, which the code suppresses.

Every record a grab builds passes its own check, so a grab raises only what
reaching the host raised and nobody caught (`grabOne_error_iff`).
-/

namespace IPScout

open Base Base.Octets

/-! ### Records and settings -/

inductive BannerState
  | GREETED
  | SILENT
  | REFUSED
  | UNREACHABLE
  deriving DecidableEq

/-- The first line one host sent on one TCP port, and how the attempt went. -/
structure Banner where
  host : Text
  port : Port
  state : BannerState
  line : Option Text
  error : Option Message
  error_nonempty : ∀ msg, error = some msg → msg.isEmpty = false
  line_greeted : line.isSome = (state == .GREETED)
  error_unreachable : error.isSome = (state == .UNREACHABLE)

/-- `Banner(...)`. -/
def Banner.make (host : Text) (port : Port) (state : BannerState) (line : Option Text)
    (error : Option Message) : Except PyError Banner :=
  if htext : ∀ msg, error = some msg → msg.isEmpty = false then
    if hline : line.isSome = (state == .GREETED) then
      if herror : error.isSome = (state == .UNREACHABLE) then
        .ok ⟨host, port, state, line, error, htext, hline, herror⟩
      else .error (.value [say "error is set exactly when state is UNREACHABLE"])
    else .error (.value [say "line is set exactly when state is GREETED"])
  else .error (.value [say "String should have at least 1 character"])

structure BannerSettings where
  port : Port
  timeout : ℚ
  maxLineBytes : Nat
  farewell : Option Octets
  concurrency : Nat
  family : Option AddressFamily
  timeout_bounds : 0 < timeout ∧ timeout ≤ MAX_TIMEOUT
  line_bytes : 1 ≤ maxLineBytes
  farewell_nonempty : farewell ≠ some []
  concurrency_bound : 1 ≤ concurrency

/-! ### Conversations -/

/-- How a read before the deadline ends; an empty chunk is the close. -/
inductive ReadEvent
  | chunk (b : Octets)
  | failed (e : OSErr)

/-- An open connection: its reads before the deadline, and what `drain` and
`wait_closed` raise. -/
structure Connection where
  reads : List ReadEvent
  drain : Option OSErr
  waitClosed : Option OSErr

/-- `_read_line`: what is received up to a newline, the close, `cap` octets or the
deadline. -/
def readLine (cap : Nat) (received : Octets) : List ReadEvent → Octets
  | [] => received
  | event :: rest =>
    if cap ≤ received.length then received
    else
      match event with
      | .failed _ => received
      | .chunk b =>
        if b = [] then received
        else if (0x0a : UInt8) ∈ b then received ++ b.takeWhile (· ≠ 0x0a)
        else readLine cap (received ++ b) rest

/-- `with contextlib.suppress(OSError)`. -/
def suppressOSError (raised : Option OSErr) : Except PyError Unit :=
  match raised with
  | some e => if (PyError.os e).isOSError then .ok () else .error (.os e)
  | none => .ok ()

def sayGoodbye (connection : Connection) : Except PyError Unit := suppressOSError connection.drain

def close (connection : Connection) : Except PyError Unit := suppressOSError connection.waitClosed

/-- What is written to the peer: the farewell, to a host that said something. -/
def farewellTo (settings : BannerSettings) (raw : Octets) : Option Octets :=
  if raw = [] then none else settings.farewell

/-- `_converse`: read the greeting, say goodbye if asked, and close. -/
def converse (host : Text) (connection : Connection) (settings : BannerSettings) :
    Except PyError Banner := do
  let raw := readLine settings.maxLineBytes [] connection.reads
  if (farewellTo settings raw).isSome then sayGoodbye connection
  close connection
  if raw = [] then Banner.make host settings.port .SILENT none none
  else Banner.make host settings.port .GREETED (some (Text.strip (decodeUtf8 raw))) none

/-- The `except` clauses of `_grab_one`. -/
def notReached (settings : BannerSettings) (host : Text) (e : PyError) : Except PyError Banner :=
  let unreachable := fun reason : Message =>
    Banner.make host settings.port .UNREACHABLE none (some reason)
  if e.isIPScoutError then unreachable e.failureReason
  else if e.isTimeoutError then
    unreachable [say "no connection within ", .general settings.timeout, say " s"]
  else
    match e with
    | .os err =>
      if isRefusal err then Banner.make host settings.port .REFUSED none none
      else unreachable e.failureReason
    | _ => .error e

/-- `_grab_one`: one host's banner. -/
def grabOne (env : Interfaces) (settings : BannerSettings) (host : Text)
    (world : HostWorld Connection) : Except PyError Banner :=
  match world.reach env host settings.port settings.family with
  | .ok connection => converse host connection settings
  | .error e => notReached settings host e

/-! ### What a grab raises -/

theorem Banner.make_ok (host : Text) (port : Port) {state : BannerState} {line : Option Text}
    {error : Option Message} (htext : ∀ msg, error = some msg → msg.isEmpty = false)
    (hline : line.isSome = (state == .GREETED)) (herror : error.isSome = (state == .UNREACHABLE)) :
    ∃ b, Banner.make host port state line error = .ok b := by
  rw [Banner.make, dif_pos htext, dif_pos hline, dif_pos herror]
  exact ⟨_, rfl⟩

theorem unreachable_ok (host : Text) (port : Port) {reason : Message}
    (h : reason.isEmpty = false) :
    ∃ b, Banner.make host port .UNREACHABLE none (some reason) = .ok b := by
  refine Banner.make_ok host port ?_ rfl rfl
  intro msg hmsg
  rwa [← Option.some.inj hmsg]

theorem suppressOSError_eq (raised : Option OSErr) : suppressOSError raised = .ok () := by
  cases raised <;> rfl

/-- **A conversation never raises**, whatever the peer sends. -/
theorem converse_ok (host : Text) (connection : Connection) (settings : BannerSettings) :
    ∃ b, converse host connection settings = .ok b := by
  have hgoodbye : sayGoodbye connection = .ok () := suppressOSError_eq _
  have hclose : close connection = .ok () := suppressOSError_eq _
  rw [converse]
  simp only [hgoodbye, hclose, bind, Except.bind, ite_self]
  split
  · exact Banner.make_ok host settings.port (by simp) rfl rfl
  · exact Banner.make_ok host settings.port (by simp) rfl rfl

/-- **An `IPScoutError` or an `OSError` is a result.** -/
theorem notReached_ok (settings : BannerSettings) (host : Text) {e : PyError}
    (h : e.isIPScoutError = true ∨ e.isOSError = true) :
    ∃ b, notReached settings host e = .ok b := by
  have hreason := unreachable_ok host settings.port e.failureReason_ne_empty
  cases e with
  | scout cls msg => exact hreason
  | os err =>
    unfold notReached
    dsimp only
    rw [if_neg (by simp [PyError.isIPScoutError])]
    split
    · exact unreachable_ok host settings.port rfl
    · split
      · exact Banner.make_ok host settings.port (by simp) rfl rfl
      · exact hreason
  | unicode msg => simp [PyError.isIPScoutError, PyError.isOSError] at h
  | value msg => simp [PyError.isIPScoutError, PyError.isOSError] at h
  | index msg => simp [PyError.isIPScoutError, PyError.isOSError] at h

/-- **A grab raises exactly the `UnicodeError` of a lookup.** -/
theorem grabOne_error_iff (env : Interfaces) (settings : BannerSettings) (host : Text)
    (world : HostWorld Connection) (e : PyError) :
    grabOne env settings host world = .error e ↔
      ∃ msg, e = .unicode msg ∧
        world.RaisesUnicode env host settings.port settings.family msg := by
  refine raises_iff_of_reach ?_ ?_ (fun _ h => notReached_ok settings host h) (fun _ => rfl) e
  · intro connection hreach
    rw [grabOne, hreach]
    exact converse_ok host connection settings
  · intro f hreach
    rw [grabOne, hreach]

end IPScout
