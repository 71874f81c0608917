import IPScout.Base.Dict
import IPScout.Base.Outcome
import IPScout.Base.Utf8
import IPScout.Hosts.Reach
import IPScout.Snmp.Ber

/-!
# SNMP system reads

`snmp.py`: one GET of the system group, asked again without each value an SNMPv1
agent says it lacks.  What arrives before the deadline is a list of datagrams and
socket errors; the ids of the requests are any the generator draws.

Every record a read builds passes its own check, so a read raises only what
reaching the host raised and nobody caught (`readOne_error_iff`).
-/

namespace IPScout

open Base Base.Octets Base.Text Ber

/-! ### Values, records and settings -/

/-- The four system-group values, in the order they are asked for. -/
inductive SystemValue
  | DESCRIPTION
  | OBJECT_ID
  | UPTIME
  | NAME
  deriving DecidableEq

namespace SystemValue

/-- `tuple(_SystemValue)`. -/
def all : List SystemValue := [DESCRIPTION, OBJECT_ID, UPTIME, NAME]

def oid : SystemValue → Text
  | DESCRIPTION => "1.3.6.1.2.1.1.1.0".toList
  | OBJECT_ID => "1.3.6.1.2.1.1.2.0".toList
  | UPTIME => "1.3.6.1.2.1.1.3.0".toList
  | NAME => "1.3.6.1.2.1.1.5.0".toList

/-- The BER type a value must arrive as. -/
def tag : SystemValue → UInt8
  | DESCRIPTION => OCTET_STRING
  | OBJECT_ID => OBJECT_IDENTIFIER
  | UPTIME => TIMETICKS
  | NAME => OCTET_STRING

/-- `kind.name.lower()`. -/
def label : SystemValue → String
  | DESCRIPTION => "description"
  | OBJECT_ID => "object_id"
  | UPTIME => "uptime"
  | NAME => "name"

end SystemValue

inductive SnmpVersion
  | V1
  | V2C
  deriving DecidableEq

def SnmpVersion.wireNumber : SnmpVersion → ℤ
  | V1 => 0
  | V2C => 1

inductive SnmpState
  | ANSWERED
  | SILENT
  | REFUSED
  | ERROR
  | UNREACHABLE
  deriving DecidableEq

def MAX_UPTIME_SECONDS : ℚ := (2 ^ 32 - 1) / 100

/-- Whether a text matches `^[0-2](\.[0-9]+)+$`. -/
def isObjectId (t : Text) : Bool :=
  match t.splitOn '.' with
  | head :: rest => head ∈ [['0'], ['1'], ['2']] && rest ≠ [] &&
      rest.all fun arc => arc ≠ [] && arc.all Char.isDigit
  | [] => false

/-- What a `SnmpSystem` is built from. -/
structure SystemData where
  host : Text
  state : SnmpState
  uptimeSeconds : Option ℚ
  name : Option Text
  description : Option Text
  objectId : Option Text
  error : Option Message

def SystemData.hasValue (d : SystemData) : Bool :=
  d.uptimeSeconds.isSome || d.name.isSome || d.description.isSome || d.objectId.isSome

/-- The checks of `SnmpSystem`. -/
structure SystemData.Valid (d : SystemData) : Prop where
  uptime : d.uptimeSeconds.all (fun s => 0 ≤ s && s ≤ MAX_UPTIME_SECONDS) = true
  objectId : d.objectId.all isObjectId = true
  error_nonempty : d.error.all (fun msg => !msg.isEmpty) = true
  values : d.state = .ANSWERED ∨ d.hasValue = false
  error_iff : d.error.isSome = (d.state == .ERROR || d.state == .UNREACHABLE)

/-- The system group of one host, and how the read went. -/
abbrev SnmpSystem := { d : SystemData // d.Valid }

/-- `SnmpSystem(...)`. -/
def SystemData.make (d : SystemData) : Except PyError SnmpSystem :=
  if huptime : d.uptimeSeconds.all (fun s => 0 ≤ s && s ≤ MAX_UPTIME_SECONDS) = true then
    if hid : d.objectId.all isObjectId = true then
      if htext : d.error.all (fun msg => !msg.isEmpty) = true then
        if hvalues : d.state = .ANSWERED ∨ d.hasValue = false then
          if herror : d.error.isSome = (d.state == .ERROR || d.state == .UNREACHABLE) then
            .ok ⟨d, huptime, hid, htext, hvalues, herror⟩
          else .error (.value [say "error is set exactly when state is ERROR or UNREACHABLE"])
        else .error (.value [say "values are set only when state is ANSWERED"])
      else .error (.value [say "String should have at least 1 character"])
    else .error (.value [say "String should match pattern '^[0-2](\\.[0-9]+)+$'"])
  else .error (.value [say "Input should be from 0 to MAX_UPTIME_SECONDS"])

structure SnmpSettings where
  version : SnmpVersion
  community : Text
  port : Port
  timeout : ℚ
  concurrency : Nat
  family : Option AddressFamily
  community_length : 1 ≤ community.length ∧ community.length ≤ 255
  timeout_bounds : 0 < timeout ∧ timeout ≤ MAX_TIMEOUT
  concurrency_bound : 1 ≤ concurrency

/-! ### Hearing -/

/-- A datagram, or an error of the socket. -/
inductive SnmpArrival
  | datagram (data : Octets)
  | error (e : OSErr)

/-- What came back for one request before the deadline. -/
inductive Heard
  | reply (reply : SnmpMessage)
  | refused
  | unreachable (reason : Message)
  /-- Nothing that counts, and why the last datagram was set aside. -/
  | nothing (discarded : Option Message)

def ERROR_PORT_UNREACHABLE : Int := 1234

def isPortUnreachable (e : OSErr) : Bool :=
  isRefusal e || e.cls == .ConnectionResetError || e.winerror == some ERROR_PORT_UNREACHABLE

/-- `_listen`: the reply to a request, anything else set aside, and what is left. -/
def listen (requestId : ℤ) (discarded : Option Message) :
    List SnmpArrival → Heard × List SnmpArrival
  | [] => (.nothing discarded, [])
  | .error e :: rest =>
    if isPortUnreachable e then (.refused, rest)
    else (.unreachable (PyError.failureReason (.os e)), rest)
  | .datagram data :: rest =>
    match parseMessage data with
    | .error msg => listen requestId (some ([say "a malformed reply ("] ++ msg ++ [say ")"])) rest
    | .ok reply =>
      if reply.requestId ≠ requestId then
        listen requestId (some [say "a reply to another request"]) rest
      else (.reply reply, rest)

/-! ### Reading a reply -/

def TICKS_PER_SECOND : ℚ := 100

def MAX_TIMETICKS_OCTETS : Nat := 5

def TIMETICKS_VALUE_OCTETS : Nat := 4

/-- The number a TimeTicks body holds: four octets are the value itself, however
its top bit is set. -/
def tickCount (body : Octets) : ℤ :=
  if body.length ≠ TIMETICKS_VALUE_OCTETS then signedBigEndian body else bigEndian body

/-- `_ticks`; the errors of this section are the texts of `_BadReplyError`. -/
def ticks (body : Octets) : Except Message ℚ :=
  if ¬ (1 ≤ body.length ∧ body.length ≤ MAX_TIMETICKS_OCTETS) then
    .error [say "uptime: TimeTicks of ", .text (decimal body.length), say " octets"]
  else
    let seconds : ℚ := tickCount body / TICKS_PER_SECOND
    if ¬ (0 ≤ seconds ∧ seconds ≤ MAX_UPTIME_SECONDS) then
      .error [say "uptime: TimeTicks outside 0 to 2**32-1"]
    else .ok seconds

/-- `_body`: one value's octets once its tag is checked, if it was read. -/
def valueBody (kind : SystemValue) (bindings : Dict SystemValue VarBind) (version : SnmpVersion) :
    Except Message (Option Octets) :=
  match bindings.get? kind with
  | none => .ok none
  | some binding =>
    if binding.tag ∈ EXCEPTION_TAGS ∧ version = .V2C then .ok none
    else if binding.tag ≠ kind.tag then
      .error [say (kind.label ++ ": arrived as tag 0x"), .text (hexOctet binding.tag),
        say ", expected 0x", .text (hexOctet kind.tag)]
    else .ok (some binding.value)

/-- `_object_id`. -/
def objectIdText : Option Octets → Except Message (Option Text)
  | none => .ok none
  | some body =>
    match decodeOid body with
    | .error msg => .error (say "object_id: " :: msg)
    | .ok t => .ok (some t)

/-- The seconds of an uptime that was read. -/
def uptimeSeconds : Option Octets → Except Message (Option ℚ)
  | none => .ok none
  | some body => (ticks body).map some

/-- `_ERROR_STATUS`. -/
def errorStatusName (status : ℤ) : Text :=
  match status with
  | 1 => "tooBig".toList
  | 2 => "noSuchName".toList
  | 3 => "badValue".toList
  | 4 => "readOnly".toList
  | 5 => "genErr".toList
  | 6 => "noAccess".toList
  | 7 => "wrongType".toList
  | 8 => "wrongLength".toList
  | 9 => "wrongEncoding".toList
  | 10 => "wrongValue".toList
  | 11 => "noCreation".toList
  | 12 => "inconsistentValue".toList
  | 13 => "resourceUnavailable".toList
  | 14 => "commitFailed".toList
  | 15 => "undoFailed".toList
  | 16 => "authorizationError".toList
  | 17 => "notWritable".toList
  | 18 => "inconsistentName".toList
  | _ => decimalInt status

/-- `_check`: refuse a reply that is not an answer to the request. -/
def check (reply : SnmpMessage) (wanted : List SystemValue) (version : SnmpVersion) :
    Except Message Unit :=
  if reply.pduTag ≠ GET_RESPONSE then
    .error [say "the reply is not a response (PDU tag 0x", .text (hexOctet reply.pduTag), say ")"]
  else if reply.version ≠ version.wireNumber then
    .error [say "the reply is in protocol version ", .text (decimalInt reply.version), say ", not ",
      .text (decimalInt version.wireNumber)]
  else if reply.errorStatus ≠ 0 then
    .error [say "the agent answered error status ", .text (errorStatusName reply.errorStatus),
      say " (index ", .text (decimalInt reply.errorIndex), say ")"]
  else if reply.bindings.map VarBind.oid ≠ wanted.map SystemValue.oid then
    .error [say "the reply names other values than were asked for"]
  else .ok ()

/-- `zip(wanted, bindings, strict=True)`. -/
def zipStrict : List SystemValue → List VarBind → Option (List (SystemValue × VarBind))
  | [], [] => some []
  | kind :: wanted, bind :: binds => (zipStrict wanted binds).map ((kind, bind) :: ·)
  | _, _ => none

/-- The four values, decoded in the order they are asked for. -/
def decodeValues (host : Text) (bindings : Dict SystemValue VarBind) (version : SnmpVersion) :
    Except Message SystemData := do
  let description ← valueBody .DESCRIPTION bindings version
  let objectId ← valueBody .OBJECT_ID bindings version
  let objectId ← objectIdText objectId
  let uptime ← valueBody .UPTIME bindings version
  let uptime ← uptimeSeconds uptime
  let name ← valueBody .NAME bindings version
  .ok ⟨host, .ANSWERED, uptime, name.map decodeUtf8, description.map decodeUtf8, objectId, none⟩

/-- A read with no value: its state, and why it failed. -/
def noValues (host : Text) (state : SnmpState) (error : Option Message) : SystemData :=
  ⟨host, state, none, none, none, none, error⟩

def answered (host : Text) (reply : SnmpMessage) (wanted : List SystemValue)
    (version : SnmpVersion) : Except PyError SnmpSystem :=
  match check reply wanted version with
  | .error msg => (noValues host .ERROR (some msg)).make
  | .ok () =>
    match zipStrict wanted reply.bindings with
    | none => .error (.value [say "zip() arguments differ in length"])
    | some pairs =>
      match decodeValues host (Dict.ofPairs pairs) version with
      | .error msg => (noValues host .ERROR (some msg)).make
      | .ok values => values.make

def unanswered (host : Text) (heard : Heard) (settings : SnmpSettings) :
    Except PyError SnmpSystem :=
  match heard with
  | .refused => (noValues host .REFUSED none).make
  | .unreachable reason => (noValues host .UNREACHABLE (some reason)).make
  | .nothing (some discarded) =>
    (noValues host .ERROR (some ([say "no valid reply within ", .general settings.timeout,
      say " s; the last datagram was "] ++ discarded))).make
  | _ => (noValues host .SILENT none).make

def NO_SUCH_NAME : ℤ := 2

/-- `_unknown_in_v1`: the value an SNMPv1 `noSuchName` names. -/
def unknownInV1 (reply : SnmpMessage) (wanted : List SystemValue) (version : SnmpVersion) :
    Option SystemValue :=
  if version ≠ .V1 ∨ reply.errorStatus ≠ NO_SUCH_NAME ∨ reply.pduTag ≠ GET_RESPONSE then none
  else if ¬ (1 ≤ reply.errorIndex ∧ reply.errorIndex ≤ wanted.length) then none
  else wanted[(reply.errorIndex - 1).toNat]?

/-! ### Conversations -/

def MAX_REQUEST_ID : Nat := 2 ^ 31 - 1

abbrev RequestId := { n : Nat // 1 ≤ n ∧ n ≤ MAX_REQUEST_ID }

/-- An endpoint: the ids drawn for it, and what arrives before the deadline. -/
structure Endpoint where
  ids : ℕ → RequestId
  arrivals : List SnmpArrival

/-- A request that was sent. -/
structure SnmpRequest where
  requestId : RequestId
  wanted : List SystemValue
  datagram : Octets

theorem mem_of_unknownInV1 {reply : SnmpMessage} {wanted : List SystemValue}
    {version : SnmpVersion} {kind : SystemValue}
    (h : unknownInV1 reply wanted version = some kind) :
    kind ∈ wanted := by
  rw [unknownInV1] at h
  split at h
  · simp at h
  · split at h
    · simp at h
    · exact List.mem_of_getElem? h

/-- `tuple(kind for kind in wanted if kind is not unknown)`. -/
def without (wanted : List SystemValue) (unknown : SystemValue) : List SystemValue :=
  wanted.filter (· ≠ unknown)

theorem length_without_lt {wanted : List SystemValue} {unknown : SystemValue}
    (h : unknown ∈ wanted) : (without wanted unknown).length < wanted.length :=
  List.length_filter_lt_length_iff_exists.mpr ⟨unknown, h, by simp⟩

/-- `_converse` from one round on: the result, and the requests sent. -/
def converseFrom (host : Text) (settings : SnmpSettings) (ids : ℕ → RequestId) (round : ℕ)
    (wanted : List SystemValue) (arrivals : List SnmpArrival) :
    Except PyError (SnmpSystem × List SnmpRequest) :=
  if wanted = [] then (noValues host .ANSWERED none).make.map (·, [])
  else
    match encodeGetRequest settings.version.wireNumber (encodeUtf8 settings.community)
        (ids round).val (wanted.map SystemValue.oid) with
    | .error msg => .error (.value msg)
    | .ok datagram =>
      let request : SnmpRequest := ⟨ids round, wanted, datagram⟩
      match listen (ids round).val none arrivals with
      | (.reply reply, rest) =>
        match h : unknownInV1 reply wanted settings.version with
        | none => (answered host reply wanted settings.version).map (·, [request])
        | some unknown =>
          have := length_without_lt (mem_of_unknownInV1 h)
          (converseFrom host settings ids (round + 1) (without wanted unknown) rest).map
            fun result => (result.1, request :: result.2)
      | (heard, _) => (unanswered host heard settings).map (·, [request])
termination_by wanted.length

/-- `_converse`. -/
def converseSnmp (host : Text) (endpoint : Endpoint) (settings : SnmpSettings) :
    Except PyError (SnmpSystem × List SnmpRequest) :=
  converseFrom host settings endpoint.ids 0 SystemValue.all endpoint.arrivals

/-- The `except` clauses of `_read_one`. -/
def notRead (settings : SnmpSettings) (host : Text) (e : PyError) : Except PyError SnmpSystem :=
  let unreachable := fun reason : Message => (noValues host .UNREACHABLE (some reason)).make
  if e.isIPScoutError then unreachable e.failureReason
  else if e.isTimeoutError then
    unreachable [say "no address and socket within ", .general settings.timeout, say " s"]
  else if e.isOSError then unreachable e.failureReason
  else .error e

/-- `_read_one`: one host's system group. -/
def readOne (env : Interfaces) (settings : SnmpSettings) (host : Text)
    (world : HostWorld Endpoint) : Except PyError SnmpSystem :=
  match world.reach env host settings.port settings.family with
  | .ok endpoint => (converseSnmp host endpoint settings).map Prod.fst
  | .error e => notRead settings host e

/-! ### Records pass their checks -/

theorem SystemData.make_ok {d : SystemData} (h : d.Valid) : d.make = .ok ⟨d, h⟩ := by
  rw [SystemData.make, dif_pos h.uptime, dif_pos h.objectId, dif_pos h.error_nonempty,
    dif_pos h.values, dif_pos h.error_iff]

theorem valid_noValues (host : Text) {state : SnmpState} {error : Option Message}
    (htext : error.all (fun msg => !msg.isEmpty) = true)
    (hiff : error.isSome = (state == .ERROR || state == .UNREACHABLE)) :
    (noValues host state error).Valid where
  uptime := rfl
  objectId := rfl
  error_nonempty := htext
  values := Or.inr rfl
  error_iff := hiff

theorem noValues_ok (host : Text) {state : SnmpState} {error : Option Message}
    (htext : error.all (fun msg => !msg.isEmpty) = true)
    (hiff : error.isSome = (state == .ERROR || state == .UNREACHABLE)) :
    ∃ r, (noValues host state error).make = .ok r :=
  ⟨_, SystemData.make_ok (valid_noValues host htext hiff)⟩

theorem isObjectId_intercalate {head : ℕ} (hhead : head ≤ 2) (second : ℕ) (rest : List ℕ) :
    isObjectId (['.'].intercalate ((head :: second :: rest).map decimal)) = true := by
  have hdot : ∀ l ∈ (head :: second :: rest).map decimal, '.' ∉ l := by
    intro l hl
    obtain ⟨n, _, rfl⟩ := List.mem_map.mp hl
    exact dot_notMem_decimal n
  have hroot : decide (decimal head ∈ [['0'], ['1'], ['2']]) = true := by
    have hcases : head = 0 ∨ head = 1 ∨ head = 2 := by omega
    rcases hcases with rfl | rfl | rfl <;> decide
  have harcs : ((second :: rest).map decimal).all
      (fun arc => arc ≠ [] && arc.all Char.isDigit) = true := by
    rw [List.all_map, List.all_eq_true]
    intro n _
    simp [isDigit_decimal, decimal_ne_nil]
  rw [isObjectId, List.splitOn_intercalate _ hdot (by simp)]
  show (decide (decimal head ∈ [['0'], ['1'], ['2']]) &&
    decide ((second :: rest).map decimal ≠ []) &&
    ((second :: rest).map decimal).all (fun arc => arc ≠ [] && arc.all Char.isDigit)) = true
  rw [hroot, harcs]
  simp

/-- **An identifier that is read is one a record accepts.** -/
theorem isObjectId_of_decodeOid {body : Octets} {t : Text} (h : decodeOid body = .ok t) :
    isObjectId t = true := by
  unfold decodeOid at h
  split at h
  · simp at h
  · split at h
    · simp at h
    · split at h
      · simp at h
      · simp at h
      · rw [← Except.ok.inj h]
        exact isObjectId_intercalate (Nat.min_le_right _ _) _ _

theorem ticks_bounds {body : Octets} {seconds : ℚ} (h : ticks body = .ok seconds) :
    0 ≤ seconds ∧ seconds ≤ MAX_UPTIME_SECONDS := by
  rw [ticks] at h
  split at h
  · simp at h
  · dsimp only at h
    split at h
    · simp at h
    · next hbounds =>
      rw [← Except.ok.inj h]
      exact not_not.mp hbounds

theorem valueBody_error {kind : SystemValue} {bindings : Dict SystemValue VarBind}
    {version : SnmpVersion} {msg : Message} (h : valueBody kind bindings version = .error msg) :
    msg.isEmpty = false := by
  rw [valueBody] at h
  split at h
  · simp at h
  · split at h
    · simp at h
    · split at h
      · rw [← Except.error.inj h]
        exact Message.isEmpty_say_cons (by cases kind <;> decide) _
      · simp at h

theorem objectIdText_error {body : Option Octets} {msg : Message}
    (h : objectIdText body = .error msg) : msg.isEmpty = false := by
  cases body with
  | none => simp [objectIdText] at h
  | some body =>
    rw [objectIdText] at h
    split at h
    · rw [← Except.error.inj h]
      exact Message.isEmpty_say_cons (by decide) _
    · simp at h

theorem uptimeSeconds_error {body : Option Octets} {msg : Message}
    (h : uptimeSeconds body = .error msg) : msg.isEmpty = false := by
  cases body with
  | none => simp [uptimeSeconds] at h
  | some body =>
    rw [uptimeSeconds, ticks] at h
    split at h
    · rw [← Except.error.inj h]
      exact Message.isEmpty_say_cons (by decide) _
    · dsimp only at h
      split at h
      · rw [← Except.error.inj h]
        exact Message.isEmpty_say_cons (by decide) _
      · simp [Except.map] at h

theorem check_error {reply : SnmpMessage} {wanted : List SystemValue} {version : SnmpVersion}
    {msg : Message} (h : check reply wanted version = .error msg) : msg.isEmpty = false := by
  rw [check] at h
  split at h
  · rw [← Except.error.inj h]
    exact Message.isEmpty_say_cons (by decide) _
  · split at h
    · rw [← Except.error.inj h]
      exact Message.isEmpty_say_cons (by decide) _
    · split at h
      · rw [← Except.error.inj h]
        exact Message.isEmpty_say_cons (by decide) _
      · split at h
        · rw [← Except.error.inj h]
          exact Message.isEmpty_say_cons (by decide) _
        · simp at h

theorem objectIdText_ok {body : Option Octets} {t : Option Text} (h : objectIdText body = .ok t) :
    t.all isObjectId = true := by
  cases body with
  | none => rw [← Except.ok.inj h]; rfl
  | some body =>
    rw [objectIdText] at h
    split at h
    · simp at h
    · next hdecode =>
      rw [← Except.ok.inj h]
      exact isObjectId_of_decodeOid hdecode

theorem uptimeSeconds_ok {body : Option Octets} {seconds : Option ℚ}
    (h : uptimeSeconds body = .ok seconds) :
    seconds.all (fun s => 0 ≤ s && s ≤ MAX_UPTIME_SECONDS) = true := by
  cases body with
  | none => rw [← Except.ok.inj h]; rfl
  | some body =>
    rw [uptimeSeconds] at h
    cases hticks : ticks body with
    | error msg =>
      rw [hticks] at h
      simp [Except.map] at h
    | ok s =>
      rw [hticks] at h
      rw [← Except.ok.inj h]
      simpa using ticks_bounds hticks

/-- **What is decoded passes the checks of the record**, and what is not names why. -/
theorem decodeValues_cases (host : Text) (bindings : Dict SystemValue VarBind)
    (version : SnmpVersion) :
    (∃ d, decodeValues host bindings version = .ok d ∧ d.Valid) ∨
      ∃ msg, decodeValues host bindings version = .error msg ∧ msg.isEmpty = false := by
  refine bind_cases (fun _ h => valueBody_error h) fun description _ => ?_
  refine bind_cases (fun _ h => valueBody_error h) fun body _ => ?_
  refine bind_cases (fun _ h => objectIdText_error h) fun objectId hid => ?_
  refine bind_cases (fun _ h => valueBody_error h) fun body _ => ?_
  refine bind_cases (fun _ h => uptimeSeconds_error h) fun uptime huptime => ?_
  refine bind_cases (fun _ h => valueBody_error h) fun name _ => ?_
  exact Or.inl ⟨_, rfl, uptimeSeconds_ok huptime, objectIdText_ok hid, rfl, Or.inl rfl, rfl⟩

/-! ### What a read raises -/

theorem zipStrict_of_length {wanted : List SystemValue} {binds : List VarBind}
    (h : wanted.length = binds.length) : ∃ pairs, zipStrict wanted binds = some pairs := by
  induction wanted generalizing binds with
  | nil =>
    cases binds with
    | nil => exact ⟨[], rfl⟩
    | cons bind binds => simp at h
  | cons kind wanted ih =>
    cases binds with
    | nil => simp at h
    | cons bind binds =>
      obtain ⟨pairs, hpairs⟩ := ih (by simpa using h)
      exact ⟨(kind, bind) :: pairs, by rw [zipStrict, hpairs]; rfl⟩

theorem length_of_check {reply : SnmpMessage} {wanted : List SystemValue} {version : SnmpVersion}
    (h : check reply wanted version = .ok ()) : wanted.length = reply.bindings.length := by
  rw [check] at h
  split at h
  · simp at h
  · split at h
    · simp at h
    · split at h
      · simp at h
      · split at h
        · simp at h
        · next hoids =>
          have := congrArg List.length (not_not.mp hoids)
          simpa using this.symm

theorem failed_ok (host : Text) {msg : Message} (h : msg.isEmpty = false) :
    ∃ r, (noValues host .ERROR (some msg)).make = .ok r :=
  noValues_ok host (by simp [h]) rfl

theorem answered_ok (host : Text) (reply : SnmpMessage) (wanted : List SystemValue)
    (version : SnmpVersion) : ∃ r, answered host reply wanted version = .ok r := by
  rw [answered]
  cases hcheck : check reply wanted version with
  | error msg => exact failed_ok host (check_error hcheck)
  | ok _ =>
    obtain ⟨pairs, hpairs⟩ := zipStrict_of_length (length_of_check hcheck)
    dsimp only
    rw [hpairs]
    dsimp only
    rcases decodeValues_cases host (Dict.ofPairs pairs) version with
      ⟨d, hd, hvalid⟩ | ⟨msg, hmsg, htext⟩
    · rw [hd]
      exact ⟨_, SystemData.make_ok hvalid⟩
    · rw [hmsg]
      exact failed_ok host htext

theorem listen_unreachable {requestId : ℤ} {discarded : Option Message}
    {arrivals rest : List SnmpArrival} {reason : Message}
    (h : listen requestId discarded arrivals = (.unreachable reason, rest)) :
    reason.isEmpty = false := by
  induction arrivals generalizing discarded with
  | nil => simp [listen] at h
  | cons arrival arrivals ih =>
    cases arrival with
    | error e =>
      rw [listen] at h
      split at h
      · simp at h
      · simp only [Prod.mk.injEq, Heard.unreachable.injEq] at h
        rw [← h.1]
        exact PyError.failureReason_ne_empty _
    | datagram data =>
      rw [listen] at h
      split at h
      · exact ih h
      · split at h
        · exact ih h
        · simp at h

theorem unanswered_ok (host : Text) {heard : Heard} (settings : SnmpSettings)
    (h : ∀ reason, heard = .unreachable reason → reason.isEmpty = false) :
    ∃ r, unanswered host heard settings = .ok r := by
  cases heard with
  | reply reply => exact noValues_ok host rfl rfl
  | refused => exact noValues_ok host rfl rfl
  | unreachable reason => exact noValues_ok host (by simp [h reason rfl]) rfl
  | nothing discarded =>
    cases discarded with
    | none => exact noValues_ok host rfl rfl
    | some discarded =>
      exact failed_ok host (Message.isEmpty_say_cons (by decide) _)

/-- **Every identifier that is asked for can be written.** -/
theorem encodeOid_oid (kind : SystemValue) : ∃ b, encodeOid kind.oid = .ok b := by
  cases kind <;> exact ⟨_, rfl⟩

theorem encodeGetRequest_ok (version : ℤ) (community : Octets) (requestId : ℤ)
    (wanted : List SystemValue) :
    ∃ b, encodeGetRequest version community requestId (wanted.map SystemValue.oid) = .ok b := by
  have hbind : ∀ bind ∈ (wanted.map SystemValue.oid).map fun oid => VarBind.mk oid NULL [],
      ∃ b, bindingElement bind = .ok b := by
    intro bind hbind
    rw [List.map_map] at hbind
    obtain ⟨kind, _, rfl⟩ := List.mem_map.mp hbind
    obtain ⟨b, hb⟩ := encodeOid_oid kind
    have helement : bindingElement ⟨kind.oid, NULL, []⟩ =
        .ok (tlv SEQUENCE (tlv OBJECT_IDENTIFIER b ++ tlv NULL [])) := by
      rw [bindingElement, hb]
      rfl
    exact ⟨_, helement⟩
  obtain ⟨elements, helements⟩ := mapM_ok hbind
  rw [encodeGetRequest, encodeMessage, helements]
  exact ⟨_, rfl⟩

/-- **A conversation never raises**, whatever arrives and in whatever round. -/
theorem converseFrom_ok (host : Text) (settings : SnmpSettings) (ids : ℕ → RequestId) (round : ℕ)
    (wanted : List SystemValue) (arrivals : List SnmpArrival) :
    ∃ r, converseFrom host settings ids round wanted arrivals = .ok r := by
  -- each round asks for fewer values
  induction hn : wanted.length using Nat.strong_induction_on generalizing round wanted arrivals with
  | _ n ih =>
    rw [converseFrom]
    split
    · obtain ⟨r, hr⟩ : ∃ r, (noValues host .ANSWERED none).make = .ok r :=
        noValues_ok host rfl rfl
      exact ⟨_, by rw [hr]; rfl⟩
    · obtain ⟨datagram, hdatagram⟩ := encodeGetRequest_ok settings.version.wireNumber
        (encodeUtf8 settings.community) (ids round).val wanted
      rw [hdatagram]
      dsimp only
      split
      · next reply rest _ =>
        split
        · obtain ⟨r, hr⟩ := answered_ok host reply wanted settings.version
          exact ⟨_, by rw [hr]; rfl⟩
        · next unknown hunknown =>
          have hlt := length_without_lt (mem_of_unknownInV1 hunknown)
          obtain ⟨r, hr⟩ := ih _ (hn ▸ hlt) (round + 1) (without wanted unknown) rest rfl
          exact ⟨_, by rw [hr]; rfl⟩
      · next heard rest _ hheard =>
        have htext : ∀ reason, heard = .unreachable reason → reason.isEmpty = false := by
          rintro reason rfl
          exact listen_unreachable hheard
        obtain ⟨r, hr⟩ := unanswered_ok host settings htext
        exact ⟨_, by rw [hr]; rfl⟩

/-- **An `IPScoutError` or an `OSError` is a result.** -/
theorem notRead_ok (settings : SnmpSettings) (host : Text) {e : PyError}
    (h : e.isIPScoutError = true ∨ e.isOSError = true) : ∃ r, notRead settings host e = .ok r := by
  have hunreachable : ∀ reason : Message, reason.isEmpty = false →
      ∃ r, (noValues host .UNREACHABLE (some reason)).make = .ok r :=
    fun reason hreason => noValues_ok host (by simp [hreason]) rfl
  unfold notRead
  dsimp only
  split
  · exact hunreachable _ e.failureReason_ne_empty
  · next hscout =>
    split
    · exact hunreachable _ (Message.isEmpty_say_cons (by decide) _)
    · rw [if_pos (h.resolve_left hscout)]
      exact hunreachable _ e.failureReason_ne_empty

/-- **A read raises exactly the `UnicodeError` of a lookup.** -/
theorem readOne_error_iff (env : Interfaces) (settings : SnmpSettings) (host : Text)
    (world : HostWorld Endpoint) (e : PyError) :
    readOne env settings host world = .error e ↔
      ∃ msg, e = .unicode msg ∧
        world.RaisesUnicode env host settings.port settings.family msg := by
  refine raises_iff_of_reach ?_ ?_ (fun _ h => notRead_ok settings host h) (fun _ => rfl) e
  · intro endpoint hreach
    obtain ⟨r, hr⟩ := converseFrom_ok host settings endpoint.ids 0 SystemValue.all
      endpoint.arrivals
    rw [readOne, hreach]
    exact ⟨r.1, by dsimp only; rw [converseSnmp, hr]; rfl⟩
  · intro f hreach
    rw [readOne, hreach]

end IPScout
