import IPScout.Base.Exchange
import IPScout.Neighbours.Lookup
import IPScout.Scan.Scope

/-!
# Static neighbour entries

`set_neighbour` of `static_neighbours.py` and the three backends under it.  Each backend
is an exchange with a kernel that holds the neighbour table: Linux replaces an entry in
one request, macOS deletes what its dump lists before it adds, and Windows deletes and
adds again when its first add finds an entry.

A kernel may refuse any request, and then it has not changed the table.  What the messages
look like is left to the backends that encode them.

A refused request leaves the table as it was before the call, but for one: where the
kernel has accepted the delete of a call and refuses the add after it, the address has no
entry (`refused_setNeighbour`).
-/

namespace IPScout

open Base Base.Octets Base.Text

/-! ### The kernel's table -/

/-- An entry of a neighbour table, static or learned. -/
structure TableEntry where
  mac : Octets
  isStatic : Bool
  deriving DecidableEq

/-- A neighbour table: the entry of an address on an interface. -/
def NeighbourTable := Text → ℕ → Option TableEntry

/-- A change of the table that is asked for. -/
inductive TableChange
  /-- `RTM_NEWNEIGH` with `NLM_F_CREATE` and `NLM_F_REPLACE`. -/
  | replace (ip : Text) (index : ℕ) (mac : Octets)
  /-- `RTM_ADD`, `CreateIpNetEntry2`. -/
  | add (ip : Text) (index : ℕ) (mac : Octets)
  /-- `RTM_DELETE`, which names no interface, and `DeleteIpNetEntry2`. -/
  | delete (ip : Text) (index : Option ℕ)
  deriving DecidableEq

namespace NeighbourTable

/-- The table with an entry put in its place. -/
def write (t : NeighbourTable) (ip : Text) (index : ℕ) (entry : TableEntry) : NeighbourTable :=
  fun ip' index' => if ip' = ip ∧ index' = index then some entry else t ip' index'

/-- The table without the entries of an address, on one interface or on all. -/
def erase (t : NeighbourTable) (ip : Text) (index : Option ℕ) : NeighbourTable :=
  fun ip' index' =>
    if ip' = ip ∧ (index = none ∨ index = some index') then none else t ip' index'

def apply (t : NeighbourTable) : TableChange → NeighbourTable
  | .replace ip index mac => t.write ip index ⟨mac, true⟩
  | .add ip index mac => t.write ip index ⟨mac, true⟩
  | .delete ip index => t.erase ip index

theorem erase_of_ne (t : NeighbourTable) {ip other : Text} (h : other ≠ ip) (index : Option ℕ) :
    t.erase ip index other = t other := by
  funext index'
  exact if_neg fun hsame => h hsame.1

theorem erase_none (t : NeighbourTable) (ip : Text) (index : ℕ) :
    t.erase ip none ip index = none :=
  if_pos ⟨rfl, Or.inl rfl⟩

theorem erase_some (t : NeighbourTable) (ip : Text) (index : ℕ) :
    t.erase ip (some index) ip index = none :=
  if_pos ⟨rfl, Or.inr rfl⟩

end NeighbourTable

/-! ### Requests -/

/-- What the functions below ask of the host they run on. -/
inductive NeighbourRequest
  /-- `_exchange` of Linux. -/
  | exchange (change : TableChange)
  /-- `_route_write` of macOS, and a call of the Windows library. -/
  | call (change : TableChange)
  /-- `list_neighbours`. -/
  | listNeighbours

/-- The acknowledged number or none, the number returned, the entries. -/
abbrev NeighbourRequest.Answer : NeighbourRequest → Type
  | exchange _ => Option ℕ
  | call _ => ℕ
  | listNeighbours => Except PyError (List Neighbour)

/-- What a kernel may do with a request.  A change it answers with a number other than 0 is
refused; a change that goes unanswered may have been made. -/
inductive KernelServes :
    NeighbourTable → (q : NeighbourRequest) → q.Answer → NeighbourTable → Prop
  | acknowledged {t : NeighbourTable} {change : TableChange} :
      KernelServes t (.exchange change) (some 0) (t.apply change)
  | refused {t : NeighbourTable} {change : TableChange} {error : ℕ} : error ≠ 0 →
      KernelServes t (.exchange change) (some error) t
  | unanswered {t : NeighbourTable} {change : TableChange} :
      KernelServes t (.exchange change) none t
  | lost {t : NeighbourTable} {change : TableChange} :
      KernelServes t (.exchange change) none (t.apply change)
  | succeeded {t : NeighbourTable} {change : TableChange} :
      KernelServes t (.call change) (0 : ℕ) (t.apply change)
  | failed {t : NeighbourTable} {change : TableChange} {status : ℕ} : status ≠ 0 →
      KernelServes t (.call change) status t
  | listed {t : NeighbourTable} {entries : Except PyError (List Neighbour)} :
      KernelServes t .listNeighbours entries t

namespace KernelServes

/-- The change a kernel made, by its answer. -/
def accepted : Sigma NeighbourRequest.Answer → Option TableChange
  | ⟨.exchange change, (answer : Option ℕ)⟩ => if answer = some 0 then some change else none
  | ⟨.call change, (status : ℕ)⟩ => if status = 0 then some change else none
  | ⟨.listNeighbours, _⟩ => none

/-- The change a kernel refused, by its answer. -/
def refusal : Sigma NeighbourRequest.Answer → Option TableChange
  | ⟨.exchange change, (answer : Option ℕ)⟩ =>
    if answer = none ∨ answer = some 0 then none else some change
  | ⟨.call change, (status : ℕ)⟩ => if status = 0 then none else some change
  | ⟨.listNeighbours, _⟩ => none

/-- An answer that leaves it open whether the change was made. -/
def isUnanswered : Sigma NeighbourRequest.Answer → Bool
  | ⟨.exchange _, (answer : Option ℕ)⟩ => answer.isNone
  | _ => false

theorem accepted_listNeighbours (listed : Except PyError (List Neighbour)) :
    accepted ⟨.listNeighbours, listed⟩ = none := rfl

theorem accepted_call (change : TableChange) (status : ℕ) :
    accepted ⟨.call change, status⟩ = if status = 0 then some change else none := rfl

theorem refusal_exchange (change : TableChange) (answer : Option ℕ) :
    refusal ⟨.exchange change, answer⟩ =
      if answer = none ∨ answer = some 0 then none else some change := rfl

theorem refusal_call (change : TableChange) (status : ℕ) :
    refusal ⟨.call change, status⟩ = if status = 0 then none else some change := rfl

theorem of_refusal_exchange {change change' : TableChange} (answer : Option ℕ)
    (h : refusal ⟨.exchange change, answer⟩ = some change') :
    accepted ⟨.exchange change, answer⟩ = none ∧
      isUnanswered ⟨.exchange change, answer⟩ = false := by
  rw [refusal_exchange, Option.ite_none_left_eq_some, not_or] at h
  exact ⟨if_neg h.1.2, Option.isNone_eq_false_iff.mpr (Option.isSome_iff_ne_none.mpr h.1.1)⟩

theorem of_refusal_call {change change' : TableChange} (status : ℕ)
    (h : refusal ⟨.call change, status⟩ = some change') :
    status ≠ 0 ∧ change' = change := by
  rw [refusal_call, Option.ite_none_left_eq_some] at h
  exact ⟨h.1, (Option.some.inj h.2).symm⟩

/-- **What one request changes**: what the kernel accepted. -/
theorem eq_apply {t t' : NeighbourTable} {q : NeighbourRequest} {r : q.Answer}
    (h : KernelServes t q r t') (hanswered : isUnanswered ⟨q, r⟩ = false) :
    t' = (accepted ⟨q, r⟩).elim t t.apply := by
  cases h with
  | acknowledged => rfl
  | refused herror =>
    rw [accepted, if_neg (by simpa using herror)]
    rfl
  | unanswered => simp [isUnanswered] at hanswered
  | lost => simp [isUnanswered] at hanswered
  | succeeded => rfl
  | failed hstatus =>
    rw [accepted, if_neg hstatus]
    rfl
  | listed => rfl

end KernelServes

abbrev NeighbourBackend := Exchange NeighbourRequest NeighbourRequest.Answer

abbrev NeighbourTrace := List (Sigma NeighbourRequest.Answer)

/-! ### The host -/

/-- An interface as `set_neighbour` reads it. -/
structure StationInterface extends LocalInterface where
  mac : Option Text
  ipv4 : List InterfaceAddress

/-- The host a static entry is written on. -/
structure StationHost where
  interfaces : Interfaces
  localInterfaces : Except PyError (List StationInterface)
  /-- Whether `open_socket` opens a netlink socket. -/
  hasNetlink : Bool
  /-- `os.strerror`. -/
  strerror : ℕ → Text

inductive NeighbourChange
  | ADD
  | REMOVE
  deriving DecidableEq

namespace NeighbourChange

def value : NeighbourChange → Text
  | ADD => "add".toList
  | REMOVE => "remove".toList

def refusedByKernel (host : StationHost) (action : NeighbourChange) (error : ℕ) : PyError :=
  .scout .IPScoutError [say "the kernel refused to ", .text action.value,
    say " the neighbour entry: ", .text (host.strerror error), say " (errno ",
    .text (decimal error), say ")"]

end NeighbourChange

/-- `EPERM` and `EACCES`. -/
def PERMISSION_ERRNOS : List ℕ := [1, 13]

/-! ### Linux -/

namespace LinuxBackend

def raiseForAck (host : StationHost) (action : NeighbourChange) :
    Option ℕ → Except PyError Unit
  | none => .error (.scout .IPScoutError [say "the kernel did not acknowledge the request to ",
      .text action.value, say " the neighbour entry"])
  | some error =>
    if error = 0 then .ok ()
    else if PERMISSION_ERRNOS.contains error then
      .error (.scout .IPScoutPermissionError
        [say "changing the neighbour table needs root or CAP_NET_ADMIN: ",
          .text (host.strerror error), say (". Run as root, or grant it with " ++
            "'setcap cap_net_admin+ep $(readlink -f $(which python3))'")])
    else .error (action.refusedByKernel host error)

def setStaticNeighbour (host : StationHost) (ip : Text) (mac : Octets) (ifindex : ℕ) :
    NeighbourBackend (Except PyError Unit) :=
  if host.hasNetlink then
    .ask (.exchange (.replace ip ifindex mac)) fun error => .done (raiseForAck host .ADD error)
  else .done (.error (.scout .IPScoutUnsupportedError
    [say "no netlink socket on this host, so the neighbour table cannot be changed"]))

end LinuxBackend

/-! ### macOS -/

namespace MacosBackend

def ESRCH : ℕ := 3

def raiseForRouteErrno (host : StationHost) (action : NeighbourChange) (error : ℕ) :
    Except PyError Unit :=
  if error = 0 then .ok ()
  else if PERMISSION_ERRNOS.contains error then
    .error (.scout .IPScoutPermissionError
      [say "changing the neighbour table needs root on macOS: ", .text (host.strerror error),
        say ". Run as root"])
  else .error (action.refusedByKernel host error)

def removedFromRouteErrno (host : StationHost) (error : ℕ) : Except PyError Bool :=
  if error = ESRCH then .ok false
  else do
    raiseForRouteErrno host .REMOVE error
    .ok true

def listsNeighbour (env : Interfaces) (entries : List Neighbour) (ip : Text) :
    Option ℕ → Bool
  | none => entries.any fun entry => entry.ip == ip
  | some ifindex =>
    match interfaceName env ifindex with
    | none => false
    | some name => entries.any fun entry => entry.ip == ip && entry.interface == some name

/-- The `RTM_ADD` both ways end with. -/
def addNeighbour (host : StationHost) (ip : Text) (mac : Octets) (ifindex : ℕ) :
    NeighbourBackend (Except PyError Unit) :=
  .ask (.call (.add ip ifindex mac)) fun error => .done (raiseForRouteErrno host .ADD error)

def setStaticNeighbour (host : StationHost) (ip : Text) (mac : Octets) (ifindex : ℕ) :
    NeighbourBackend (Except PyError Unit) :=
  .ask .listNeighbours fun listed =>
    match listed with
    | .error e => .done (.error e)
    | .ok entries =>
      if listsNeighbour host.interfaces entries ip none then
        .ask (.call (.delete ip none)) fun error =>
          match removedFromRouteErrno host error with
          | .error e => .done (.error e)
          | .ok _ => addNeighbour host ip mac ifindex
      else addNeighbour host ip mac ifindex

end MacosBackend

/-! ### Windows -/

namespace WindowsBackend

def ERROR_ACCESS_DENIED : ℕ := 5

def ERROR_NOT_FOUND : ℕ := 1168

def ERROR_OBJECT_ALREADY_EXISTS : ℕ := 5010

def raiseForStatus (action : NeighbourChange) (status : ℕ) : Except PyError Unit :=
  if status = 0 then .ok ()
  else if status = ERROR_ACCESS_DENIED then
    .error (.scout .IPScoutPermissionError [say ("changing the neighbour table needs " ++
      "Administrator on Windows (ERROR_ACCESS_DENIED). Run elevated")])
  else
    .error (.scout .IPScoutError [say "Windows refused to ", .text action.value,
      say " the neighbour entry: Win32 error ", .text (decimal status)])

def removedFromStatus (status : ℕ) : Except PyError Bool :=
  if status = ERROR_NOT_FOUND then .ok false
  else do
    raiseForStatus .REMOVE status
    .ok true

def setStaticNeighbour (ip : Text) (mac : Octets) (ifindex : ℕ) :
    NeighbourBackend (Except PyError Unit) :=
  .ask (.call (.add ip ifindex mac)) fun (status : ℕ) =>
    if status = ERROR_OBJECT_ALREADY_EXISTS then
      .ask (.call (.delete ip (some ifindex))) fun deleted =>
        match removedFromStatus deleted with
        | .error e => .done (.error e)
        | .ok _ =>
          .ask (.call (.add ip ifindex mac)) fun status => .done (raiseForStatus .ADD status)
    else .done (raiseForStatus .ADD status)

end WindowsBackend

/-! ### Arguments -/

def LIMITED_BROADCAST : Text := "255.255.255.255".toList

def ipv4StationAddress (ip : Text) : Except PyError Text := do
  match ← parseAddress ip with
  | .v6 _ => .error (.scout .IPScoutUnsupportedError
      [.text ip, say " is an IPv6 address; static neighbour entries are written for IPv4 only"])
  | .v4 bits =>
    let address := IPAddress.v4 bits
    -- an IPv4 address has the same properties in every version of Python
    if namesANeighbour .since313 address = false ∨ address.text = LIMITED_BROADCAST then
      .error (.value [.text ip,
        say " does not name a single station, so it cannot have a neighbour entry"])
    else .ok address.text

def stationMac (mac : Text) : Except PyError Text := do
  let normalised ← requireMac mac
  let raw ← packedMac normalised
  if raw.all (· == 0) then
    .error (.value [.text mac, say " is the all-zero hardware address, which names no device"])
  else if octet raw 0 % 2 = 1 then
    .error (.value [.text mac, say (" is a broadcast or multicast hardware address, which no " ++
      "single device owns")])
  else .ok normalised

def interfaceIndex (env : Interfaces) (name : Text) (interfaces : List StationInterface) :
    Except PyError ℕ :=
  if isInterfaceIndexDigits name then
    match interfaceName env (decimalValue name) with
    | none =>
      .error (.value [say "no interface with index ", .text name, say " on this host"])
    | some _ => .ok (decimalValue name)
  else
    match interfaces.findSome? fun candidate =>
      if candidate.name = name then candidate.index.filter (· ≠ 0) else none with
    | some index => .ok index
    | none =>
      match env.ifNametoindex name with
      | some index => .ok index
      | none => .error (.value [say "no interface named ", .quoted name, say " on this host"])

/-- The interfaces with a link layer whose IPv4 subnets hold an address. -/
def subnetMatches (address : BitVec 32) (interfaces : List StationInterface) : List (Text × ℕ) :=
  interfaces.filterMap fun candidate =>
    match candidate.index.filter (· ≠ 0) with
    | none => none
    | some index =>
      if candidate.mac.isSome && candidate.ipv4.any fun entry =>
          (interfaceNetwork entry.address entry.prefixLen entry.fits).contains (.v4 address) then
        some (candidate.name, index)
      else none

def subnetInterfaceIndex (ip : Text) (interfaces : List StationInterface) : Except PyError ℕ :=
  match ipv4Address ip with
  | none => .error (.value [.quoted ip, say " is not an IPv4 address"])
  | some address =>
    match subnetMatches address interfaces with
    | [] => .error (.scout .IPScoutUnsupportedError
        [say "no interface on this host has a subnet holding ", .text ip,
          say "; name one with interface= (--interface on the command line)"])
    | [(_, index)] => .ok index
    | several => .error (.scout .IPScoutUnsupportedError [.text ip,
        say " lies in the subnet of several interfaces (",
        .text (", ".toList.intercalate (several.map Prod.fst)),
        say "); name one with interface= (--interface on the command line)"])

/-! ### Setting an entry -/

inductive Platform
  | LINUX
  | MACOS
  | WINDOWS
  deriving DecidableEq

/-- `_write`. -/
def writeNeighbour (platform : Platform) (host : StationHost) (ip : Text) (mac : Octets)
    (index : ℕ) : NeighbourBackend (Except PyError Unit) :=
  match platform with
  | .WINDOWS => WindowsBackend.setStaticNeighbour ip mac index
  | .MACOS => MacosBackend.setStaticNeighbour host ip mac index
  | .LINUX => LinuxBackend.setStaticNeighbour host ip mac index

def confirmed (env : Interfaces) (ip mac : Text) (index : ℕ) (entries : List Neighbour) :
    Option Neighbour :=
  entries.find? fun entry => entry.ip = ip ∧ entry.mac.map Subtype.val = some mac ∧
    entry.interface.bind env.ifNametoindex = some index

/-- What `set_neighbour` works out before it writes. -/
structure StationEntry where
  target : Text
  station : Text
  packed : Octets
  index : ℕ
  deriving DecidableEq

/-- The checks of `set_neighbour`. -/
def stationEntry (host : StationHost) (ip mac : Text) (interface : Option Text) :
    Except PyError StationEntry := do
  let target ← ipv4StationAddress ip
  let station ← stationMac mac
  let interfaces ← host.localInterfaces
  let index ←
    match interface with
    | some name => interfaceIndex host.interfaces name interfaces
    | none => subnetInterfaceIndex target interfaces
  let packed ← packedMac station
  .ok ⟨target, station, packed, index⟩

/-- The read back of `set_neighbour`. -/
def readBack (host : StationHost) (e : StationEntry) :
    NeighbourBackend (Except PyError Neighbour) :=
  .ask .listNeighbours fun listed =>
    match listed with
    | .error error => .done (.error error)
    | .ok entries =>
      match confirmed host.interfaces e.target e.station e.index
          (entries.filter fun entry => entry.family = .IPV4) with
      | some entry => .done (.ok entry)
      | none => .done (.error (.scout .IPScoutError [say "the kernel accepted ", .text e.target,
          say " -> ", .text e.station, say " on interface index ", .text (decimal e.index),
          say ", but the neighbour cache does not list it"]))

def setNeighbour (platform : Platform) (host : StationHost) (ip mac : Text)
    (interface : Option Text) : NeighbourBackend (Except PyError Neighbour) :=
  match stationEntry host ip mac interface with
  | .error error => .done (.error error)
  | .ok e =>
    (writeNeighbour platform host e.target e.packed e.index).bind fun
      | .error error => .done (.error error)
      | .ok () => readBack host e

/-! ### What a refusal leaves -/

open KernelServes (accepted refusal isUnanswered)

/-- **What a run changes**: what the kernel accepted, one after the other. -/
theorem table_of_runs {α : Type} {m : NeighbourBackend α} {t t' : NeighbourTable}
    {trace : NeighbourTrace} {a : α} (h : Exchange.Runs KernelServes t m trace a t')
    (hanswered : ∀ x ∈ trace, isUnanswered x = false) :
    t' = (trace.filterMap accepted).foldl NeighbourTable.apply t := by
  induction h with
  | done => rfl
  | ask hserve _ ih =>
    rw [ih fun x hx => hanswered x (List.mem_cons_of_mem _ hx),
      hserve.eq_apply (hanswered _ List.mem_cons_self), List.filterMap_cons]
    split
    · next hnone =>
      rw [hnone]
      rfl
    · next change hsome =>
      rw [hsome]
      rfl

/-- What the kernel has accepted of a call whose last request it refuses: nothing, or the
delete that makes room for the add it refuses. -/
structure RefusedWrite (platform : Platform) (ip : Text) (mac : Octets) (index : ℕ)
    (trace : NeighbourTrace) (change : TableChange) : Prop where
  answered : ∀ x ∈ trace, isUnanswered x = false
  accepted : trace.filterMap accepted = [] ∨
    platform ≠ .LINUX ∧ change = .add ip index mac ∧
      ∃ on, (on = none ∨ on = some index) ∧ trace.filterMap accepted = [.delete ip on]

section RefusedWrites

variable {host : StationHost} {ip : Text} {mac : Octets} {index : ℕ} {t t' : NeighbourTable}
  {trace : NeighbourTrace} {a : Except PyError Unit} {change : TableChange}

theorem LinuxBackend.refusedWrite
    (h : Exchange.Runs KernelServes t (setStaticNeighbour host ip mac index) trace a t')
    (hrefused : trace.getLast?.bind refusal = some change) :
    RefusedWrite .LINUX ip mac index trace change := by
  rw [setStaticNeighbour] at h
  split at h
  · obtain ⟨answer, u, rest, rfl, _, hrest⟩ := Exchange.runs_ask.mp h
    obtain ⟨rfl, _, _⟩ := Exchange.runs_done.mp hrest
    obtain ⟨hnone, hanswered⟩ := KernelServes.of_refusal_exchange answer hrefused
    refine ⟨?_, Or.inl ?_⟩
    · intro x hx
      rw [List.mem_singleton.mp hx]
      exact hanswered
    · rw [List.filterMap_cons_none hnone]
      rfl
  · obtain ⟨rfl, _, _⟩ := Exchange.runs_done.mp h
    simp at hrefused

theorem answered_of_calls {trace : NeighbourTrace}
    (h : ∀ x ∈ trace, ∀ change, x.1 ≠ .exchange change) :
    ∀ x ∈ trace, isUnanswered x = false := by
  intro x hx
  obtain ⟨q, r⟩ := x
  cases q with
  | exchange change => exact absurd rfl (h _ hx change)
  | call change => rfl
  | listNeighbours => rfl

/-- The `RTM_ADD` alone. -/
theorem MacosBackend.runs_addNeighbour
    (h : Exchange.Runs KernelServes t (addNeighbour host ip mac index) trace a t') :
    ∃ status : ℕ, trace = [⟨.call (.add ip index mac), status⟩] := by
  obtain ⟨(status : ℕ), u, rest, rfl, _, hrest⟩ := Exchange.runs_ask.mp h
  obtain ⟨rfl, _, _⟩ := Exchange.runs_done.mp hrest
  exact ⟨status, rfl⟩

theorem MacosBackend.refusedWrite
    (h : Exchange.Runs KernelServes t (setStaticNeighbour host ip mac index) trace a t')
    (hrefused : trace.getLast?.bind refusal = some change) :
    RefusedWrite .MACOS ip mac index trace change := by
  obtain ⟨listed, u, rest, rfl, _, hrest⟩ := Exchange.runs_ask.mp h
  cases listed with
  | error e =>
    obtain ⟨rfl, _, _⟩ := Exchange.runs_done.mp hrest
    cases hrefused
  | ok entries =>
    dsimp only at hrest
    split at hrest
    · obtain ⟨(deleted : ℕ), v, rest, rfl, _, hrest⟩ := Exchange.runs_ask.mp hrest
      split at hrest
      · -- the delete is refused
        obtain ⟨rfl, _, _⟩ := Exchange.runs_done.mp hrest
        obtain ⟨hstatus, _⟩ := KernelServes.of_refusal_call deleted hrefused
        refine ⟨answered_of_calls (by simp), Or.inl ?_⟩
        simp [KernelServes.accepted_listNeighbours, KernelServes.accepted_call, hstatus]
      · obtain ⟨(status : ℕ), rfl⟩ := runs_addNeighbour hrest
        obtain ⟨hstatus, hchange⟩ := KernelServes.of_refusal_call status hrefused
        refine ⟨answered_of_calls (by simp), ?_⟩
        by_cases hdeleted : deleted = 0
        · refine Or.inr ⟨by decide, hchange, none, Or.inl rfl, ?_⟩
          simp [List.filterMap_cons, KernelServes.accepted_listNeighbours,
            KernelServes.accepted_call, hstatus, hdeleted]
        · left
          simp [KernelServes.accepted_listNeighbours, KernelServes.accepted_call, hstatus, hdeleted]
    · obtain ⟨(status : ℕ), rfl⟩ := runs_addNeighbour hrest
      obtain ⟨hstatus, _⟩ := KernelServes.of_refusal_call status hrefused
      refine ⟨answered_of_calls (by simp), Or.inl ?_⟩
      simp [KernelServes.accepted_listNeighbours, KernelServes.accepted_call, hstatus]

theorem WindowsBackend.refusedWrite
    (h : Exchange.Runs KernelServes t (setStaticNeighbour ip mac index) trace a t')
    (hrefused : trace.getLast?.bind refusal = some change) :
    RefusedWrite .WINDOWS ip mac index trace change := by
  obtain ⟨(status : ℕ), u, rest, rfl, _, hrest⟩ := Exchange.runs_ask.mp h
  split at hrest
  · next hexists =>
    have hfirst : status ≠ 0 := by
      rw [hexists]
      exact (by decide : (5010 : ℕ) ≠ 0)
    obtain ⟨(deleted : ℕ), v, rest, rfl, _, hrest⟩ := Exchange.runs_ask.mp hrest
    split at hrest
    · -- the delete is refused
      obtain ⟨rfl, _, _⟩ := Exchange.runs_done.mp hrest
      obtain ⟨hstatus, _⟩ := KernelServes.of_refusal_call deleted hrefused
      refine ⟨answered_of_calls (by simp), Or.inl ?_⟩
      simp [KernelServes.accepted_call, hfirst, hstatus]
    · obtain ⟨(again : ℕ), w, rest, rfl, _, hrest⟩ := Exchange.runs_ask.mp hrest
      obtain ⟨rfl, _, _⟩ := Exchange.runs_done.mp hrest
      obtain ⟨hstatus, hchange⟩ := KernelServes.of_refusal_call again hrefused
      refine ⟨answered_of_calls (by simp), ?_⟩
      by_cases hdeleted : deleted = 0
      · refine Or.inr ⟨by decide, hchange, some index, Or.inr rfl, ?_⟩
        simp [KernelServes.accepted_call, hfirst, hstatus, hdeleted]
      · left
        simp [KernelServes.accepted_call, hfirst, hstatus, hdeleted]
  · obtain ⟨rfl, _, _⟩ := Exchange.runs_done.mp hrest
    obtain ⟨hstatus, _⟩ := KernelServes.of_refusal_call status hrefused
    refine ⟨answered_of_calls (by simp), Or.inl ?_⟩
    simp [KernelServes.accepted_call, hstatus]

theorem refusedWrite {platform : Platform}
    (h : Exchange.Runs KernelServes t (writeNeighbour platform host ip mac index) trace a t')
    (hrefused : trace.getLast?.bind refusal = some change) :
    RefusedWrite platform ip mac index trace change := by
  cases platform with
  | LINUX => exact LinuxBackend.refusedWrite h hrefused
  | MACOS => exact MacosBackend.refusedWrite h hrefused
  | WINDOWS => exact WindowsBackend.refusedWrite h hrefused

end RefusedWrites

/-- **What a refused `set_neighbour` leaves behind**: the table as it was, unless the kernel
had accepted the delete of the call; then the refused request is the add, on macOS or Windows,
and the address has lost its entry. -/
theorem refused_setNeighbour {platform : Platform} {host : StationHost} {ip mac : Text}
    {interface : Option Text} {t t' : NeighbourTable} {trace : NeighbourTrace} {error : PyError}
    (h : Exchange.Runs KernelServes t (setNeighbour platform host ip mac interface) trace
      (.error error) t') {change : TableChange}
    (hrefused : trace.getLast?.bind refusal = some change) :
    (trace.filterMap accepted = [] → t' = t) ∧
    (trace.filterMap accepted ≠ [] → platform ≠ .LINUX ∧
      ∃ e on, stationEntry host ip mac interface = .ok e ∧
        change = .add e.target e.index e.packed ∧
        trace.filterMap accepted = [.delete e.target on] ∧ (on = none ∨ on = some e.index) ∧
        t' e.target e.index = none ∧ ∀ other, other ≠ e.target → t' other = t other) := by
  have hwrite : ∃ e, stationEntry host ip mac interface = .ok e ∧
      RefusedWrite platform e.target e.packed e.index trace change := by
    rw [setNeighbour] at h
    split at h
    · obtain ⟨rfl, _, _⟩ := Exchange.runs_done.mp h
      simp at hrefused
    · next e hentry =>
      obtain ⟨first, second, a, u, rfl, hfirst, hsecond⟩ := Exchange.runs_bind.mp h
      cases a with
      | error f =>
        obtain ⟨rfl, _, _⟩ := Exchange.runs_done.mp hsecond
        rw [List.append_nil] at hrefused ⊢
        exact ⟨e, hentry, refusedWrite hfirst hrefused⟩
      | ok =>
        -- the last request is the read back, and that is no change
        obtain ⟨listed, v, rest, rfl, _, hrest⟩ := Exchange.runs_ask.mp hsecond
        have hrest : rest = [] := by
          split at hrest
          · exact (Exchange.runs_done.mp hrest).1
          · split at hrest <;> exact (Exchange.runs_done.mp hrest).1
        subst hrest
        rw [List.getLast?_append] at hrefused
        cases hrefused
  obtain ⟨e, hentry, hanswered, haccepted⟩ := hwrite
  have htable := table_of_runs h hanswered
  constructor
  · intro hnone
    rw [htable, hnone]
    rfl
  · intro hsome
    obtain hnone | ⟨hplatform, hchange, on, hon, hdelete⟩ := haccepted
    · exact absurd hnone hsome
    · rw [hdelete] at htable
      refine ⟨hplatform, e, on, hentry, hchange, hdelete, hon, ?_, ?_⟩
      · rw [htable]
        obtain rfl | rfl := hon
        · exact NeighbourTable.erase_none t e.target e.index
        · exact NeighbourTable.erase_some t e.target e.index
      · intro other hother
        rw [htable]
        exact NeighbourTable.erase_of_ne t hother on

/-- A host with one interface, and an entry its dump lists. -/
def stationHost : StationHost where
  interfaces :=
    { ifNametoindex := fun name => if name = "en0".toList then some 4 else none
      ifIndextoname := fun index => if index = 4 then some "en0".toList else none
      ifNameindex := [(4, "en0".toList)]
      localInterfaces := [⟨"en0".toList, some 4⟩]
      python := .since313 }
  localInterfaces := .ok [⟨⟨"en0".toList, some 4⟩, some "02:00:00:00:00:01".toList, []⟩]
  hasNetlink := true
  strerror := fun _ => "Network is unreachable".toList

def learnedNeighbour : Neighbour where
  ip := "192.0.2.7".toList
  mac := some ⟨"02:00:00:00:00:09".toList, by decide +kernel⟩
  interface := some "en0".toList
  family := .IPV4
  bare := by decide +kernel
  literal := ⟨.v4 0xc0000207, by decide +kernel⟩

def learnedTable : NeighbourTable :=
  fun ip index =>
    if ip = "192.0.2.7".toList ∧ index = 4 then some ⟨[2, 0, 0, 0, 0, 9], false⟩ else none

theorem stationEntry_stationHost :
    stationEntry stationHost "192.0.2.7".toList "00:00:5e:00:53:07".toList (some "en0".toList) =
      .ok ⟨"192.0.2.7".toList, "00:00:5e:00:53:07".toList, [0, 0, 0x5e, 0, 0x53, 7], 4⟩ := by
  decide +kernel

/-- **A refused `set_neighbour` may lose the entry there was**: on macOS it is deleted before the
kernel refuses the new one, here for want of a route. -/
theorem entry_lost_by_a_refused_add : ∃ trace error table, Exchange.Runs KernelServes learnedTable
      (setNeighbour .MACOS stationHost "192.0.2.7".toList "00:00:5e:00:53:07".toList
        (some "en0".toList)) trace (.error error) table ∧
    (trace.getLast?.bind refusal).isSome = true ∧
    learnedTable "192.0.2.7".toList 4 ≠ none ∧ table "192.0.2.7".toList 4 = none := by
  have hrun : Exchange.Runs KernelServes learnedTable (setNeighbour .MACOS stationHost
      "192.0.2.7".toList "00:00:5e:00:53:07".toList (some "en0".toList))
      [⟨.listNeighbours, .ok [learnedNeighbour]⟩,
        ⟨.call (.delete "192.0.2.7".toList none), (0 : ℕ)⟩,
        ⟨.call (.add "192.0.2.7".toList 4 [0, 0, 0x5e, 0, 0x53, 7]), (51 : ℕ)⟩]
      (.error (NeighbourChange.ADD.refusedByKernel stationHost 51))
      (learnedTable.erase "192.0.2.7".toList none) := by
    rw [setNeighbour, stationEntry_stationHost]
    refine Exchange.runs_bind.mpr ⟨_, [], .error _, _, (List.append_nil _).symm, ?_, .done⟩
    exact .ask .listed (.ask .succeeded (.ask (.failed (by decide)) .done))
  exact ⟨_, _, _, hrun, rfl, by decide, NeighbourTable.erase_none _ _ _⟩

/-- On Linux the same refusal changes nothing. -/
theorem refused_setNeighbour_of_one_request : ∃ trace error table,
    Exchange.Runs KernelServes learnedTable (setNeighbour .LINUX stationHost "192.0.2.7".toList
      "00:00:5e:00:53:07".toList (some "en0".toList)) trace (.error error) table ∧
    table = learnedTable := by
  have hrun : Exchange.Runs KernelServes learnedTable (setNeighbour .LINUX stationHost
      "192.0.2.7".toList "00:00:5e:00:53:07".toList (some "en0".toList))
      [⟨.exchange (.replace "192.0.2.7".toList 4 [0, 0, 0x5e, 0, 0x53, 7]), some 51⟩]
      (.error (NeighbourChange.ADD.refusedByKernel stationHost 51)) learnedTable := by
    rw [setNeighbour, stationEntry_stationHost]
    refine Exchange.runs_bind.mpr ⟨_, [], .error _, _, (List.append_nil _).symm, ?_, .done⟩
    exact .ask (.refused (by decide)) .done
  exact ⟨_, _, _, hrun, (refused_setNeighbour hrun rfl).1 rfl⟩

end IPScout
