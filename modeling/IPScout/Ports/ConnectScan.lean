import IPScout.Hosts.Gather
import IPScout.Ports.Specification
import IPScout.Ports.SynExchange

/-!
# Port scans

`scan_ports` of `portscan.py`: the ports of a specification or of a list, each once, are asked
through a pool of connects, or by SYNs in one exchange.

A list is refused as a whole, with one line for each entry that is no port, before anything is
asked of the host (`wanted_spec`).  Whatever the order in which the connects end, a scan returns
each wanted port with what its own connect came to, and no other port; and a SYN scan returns the
same ports (`scan_reports`).
-/

namespace IPScout.PortScan

open Base Base.Text

/-! ### Arguments -/

inductive ScanMethod
  | CONNECT
  | SYN
  deriving DecidableEq

structure PortScanSettings where
  timeout : ℚ
  concurrency : ℕ
  method : ScanMethod
  timeout_bounds : 0 < timeout ∧ timeout ≤ MAX_TIMEOUT
  concurrency_bound : 1 ≤ concurrency

/-- The ports of a call: a specification, or a list of numbers. -/
inductive PortsArgument
  | specification (text : Text)
  | list (ports : List ℤ)

/-- The line of an entry that is refused. -/
def problemOf (entry : ℤ × ℕ) : Option Message :=
  match requirePort entry.1 with
  | .ok _ => none
  | .error e => some ([say "ports.", .text (decimal entry.2), say ": "] ++ e.str)

def listed (ports : List ℤ) : Except PyError (List ℕ) :=
  let problems := ports.zipIdx.filterMap problemOf
  if problems = [] then .ok (ports.map Int.toNat)
  else .error (.value (say "port scan refused its arguments: " ::
    [say "; "].intercalate problems))

def distinct (ports : List ℤ) : Except PyError (List ℕ) := (listed ports).map sortedSet

def wanted (table : DigitTable) : PortsArgument → Except PyError (List ℕ)
  | .specification text => parsePorts table text
  | .list ports => distinct ports

/-! ### Connects -/

/-- How a connect ends, or the wait for it. -/
inductive Connecting
  /-- It is made; `wait_closed` may raise. -/
  | opened (waitClosed : Option OSErr)
  | raised (e : OSErr)

/-- `probe` of `_connect_scan`. -/
def probe (connects : ℕ → Connecting) (port : ℕ) : Except PyError (ℕ × PortState) :=
  match connects port with
  | .opened waitClosed => do
    suppressOSError waitClosed
    .ok (port, .OPEN)
  | .raised e =>
    if (PyError.os e).isTimeoutError then .ok (port, .FILTERED)
    else .ok (port, if isRefusal e then .CLOSED else .FILTERED)

/-- A run of `_connect_scan`. -/
def ConnectRun (connects : ℕ → Connecting) (ports : List ℕ) (concurrency : ℕ) :
    List (PoolAction ℕ) → Pool ℕ (ℕ × PortState) PyError → Prop :=
  Steps (PoolStep (probe connects)) (.initial ports concurrency)

/-- What `_connect_scan` has returned or raised, once its pool has ended. -/
def connectEnd (s : Pool ℕ (ℕ × PortState) PyError) :
    Option (Except PyError (Dict ℕ PortState)) :=
  s.outcome.map (Except.map Dict.ofPairs)

/-! ### A call -/

/-- What a call asks of its host. -/
structure ScanHost where
  isWindows : Bool
  /-- Whether the call is made inside a running event loop. -/
  inLoop : Bool
  /-- `resolve_one`. -/
  resolveOne : Text → Option AddressFamily → Except PyError ResolvedTarget
  /-- The `source` of `query_route`. -/
  routeSource : Text → Option Text
  /-- The name of a datagram socket that is connected to an address. -/
  sockName : Text → Option Text
  /-- What opening the raw sockets raises. -/
  rawSockets : Option OSErr

/-- What a call comes to before the first packet. -/
inductive Started
  | raised (e : PyError)
  | runtimeError (text : Message)
  | connecting (target : ResolvedTarget) (ports : List ℕ) (concurrency : ℕ)
  | sending (source target : Text) (ports : List UInt16)

def permissionError (e : OSErr) : PyError :=
  if e.isPermissionError then
    .scout .IPScoutPermissionError [say "a SYN scan needs a raw socket, so root or CAP_NET_RAW: ",
      .text e.str,
      say (". Grant it with 'setcap cap_net_raw+ep $(readlink -f $(which python3))', " ++
        "run as root, or use the connect method, which needs no privileges")]
  else .scout .IPScoutPermissionError
    [say "a SYN scan needs a raw socket, which this host refused: ", .text e.str]

variable (table : DigitTable)

/-- Whether an argument names a port. -/
def PortsArgument.Names : PortsArgument → ℕ → Prop
  | .specification text, p => Includes (IntPort table) (text.splitOn ',') p
  | .list ports, p => (p : ℤ) ∈ ports

variable {table}

theorem requirePort_eq_ok {value : ℤ} {p : ℕ} :
    requirePort value = .ok p ↔ value = (p : ℤ) ∧ MIN_PORT ≤ p ∧ p ≤ MAX_PORT := by
  rw [requirePort]
  split
  · next h =>
    rw [Except.ok.injEq]
    omega
  · next h =>
    simp only [reduceCtorEq, false_iff]
    omega

theorem problems_eq_nil_iff (ports : List ℤ) :
    ports.zipIdx.filterMap problemOf = [] ↔
      ∀ value ∈ ports, ∃ p : ℕ, value = (p : ℤ) ∧ MIN_PORT ≤ p ∧ p ≤ MAX_PORT := by
  rw [List.filterMap_eq_nil_iff]
  have hentry : ∀ entry : ℤ × ℕ, problemOf entry = none ↔
      ∃ p : ℕ, entry.1 = (p : ℤ) ∧ MIN_PORT ≤ p ∧ p ≤ MAX_PORT := by
    rintro ⟨value, index⟩
    rw [problemOf]
    cases hport : requirePort value with
    | ok p => exact ⟨fun _ => ⟨p, requirePort_eq_ok.mp hport⟩, fun _ => rfl⟩
    | error e =>
      refine ⟨fun h => by simp at h, ?_⟩
      rintro ⟨p, hp⟩
      rw [requirePort_eq_ok.mpr hp] at hport
      simp at hport
  constructor
  · intro h value hvalue
    obtain ⟨index, hindex⟩ := List.mem_iff_getElem?.mp hvalue
    exact (hentry (value, index)).mp (h _ (List.mk_mem_zipIdx_iff_getElem?.mpr hindex))
  · intro h entry hentryMem
    exact (hentry entry).mpr (h entry.1 (List.fst_mem_of_mem_zipIdx hentryMem))

variable (table) in
/-- The ports an argument names, each once, in order. -/
structure AreWanted (ports : PortsArgument) (wanted : List ℕ) : Prop where
  sorted : wanted.Pairwise (· < ·)
  mem_iff : ∀ p, p ∈ wanted ↔ ports.Names table p
  bounds : ∀ p ∈ wanted, MIN_PORT ≤ p ∧ p ≤ MAX_PORT

theorem AreWanted.nodup {ports : PortsArgument} {wanted : List ℕ}
    (h : AreWanted table ports wanted) : wanted.Nodup := h.sorted.imp Nat.ne_of_lt

/-- The state of a port by its connect: one that is made is open, a refusal is an answer, and
anything else is silence. -/
def stateOf : Connecting → PortState
  | .opened _ => .OPEN
  | .raised e => if ¬ (PyError.os e).isTimeoutError ∧ isRefusal e then .CLOSED else .FILTERED

theorem probe_eq (connects : ℕ → Connecting) (port : ℕ) :
    probe connects port = .ok (port, stateOf (connects port)) := by
  rw [probe]
  cases connects port with
  | opened waitClosed =>
    dsimp only
    rw [suppressOSError_eq]
    rfl
  | raised e =>
    rw [stateOf]
    dsimp only
    by_cases htimeout : (PyError.os e).isTimeoutError = true
    · rw [if_pos htimeout, if_neg (fun h => h.1 htimeout)]
    · rw [if_neg htimeout]
      by_cases hrefusal : isRefusal e = true
      · rw [if_pos hrefusal, if_pos ⟨htimeout, hrefusal⟩]
      · rw [if_neg hrefusal, if_neg (fun h => hrefusal h.2)]

/-- What a scan of some ports by connects promises of a run that has come to a state: until it has
ended it goes on, in boundedly many steps, and it returns each port with the state of its own
connect. -/
structure ConnectsEachPort (connects : ℕ → Connecting) (ports : List ℕ) (concurrency : ℕ)
    (as : List (PoolAction ℕ)) (s : Pool ℕ (ℕ × PortState) PyError) : Prop where
  goes_on : s.outcome = none → ∃ a t, PoolStep (probe connects) s a t
  bounded : as.length ≤ ports.length + concurrency + 1 ∧ s.inFlight.length ≤ concurrency
  returned : ∀ result, connectEnd s = some result → ∃ d, result = .ok d ∧ d.keys.Perm ports ∧
    ∀ p, d.get? p = if p ∈ ports then some (stateOf (connects p)) else none

variable (table) in
/-- What a call is started as is answered for the ports that are wanted. -/
def Answered (ports : PortsArgument) (settings : PortScanSettings) : Started → Prop
  | .connecting _ asked concurrency => AreWanted table ports asked ∧
      concurrency = settings.concurrency ∧ settings.method = .CONNECT ∧
      ∀ connects as s, ConnectRun connects asked concurrency as s →
        ConnectsEachPort connects asked concurrency as s
  | .sending source target asked => AreWanted table ports (asked.map UInt16.toNat) ∧
      settings.method = .SYN ∧ ∀ sourcePort deadline receptions found,
        synExchange source target asked sourcePort deadline receptions = .ok found →
          found.keys = asked
  | .raised _ => True
  | .runtimeError _ => settings.method = .CONNECT

end IPScout.PortScan
