import IPScout.Echo.Sending
import IPScout.Net.Hextets

/-!
# Ping and is_reachable

`ping` and `is_reachable` of `api.py` on Linux and macOS.

`ping` raises what is wrong with a call, and reports what is wrong with the network.  With
`raise_on_error=False` it reports both, in a record that passes its own checks unless the address
has a zone that no record can hold (`ping_suppresses_iff`).  `is_reachable` never raises: the
target is resolved once, an echo goes to its address, and where none comes back a connect goes to
the same address (`isReachable_eq_true_iff`).
-/

namespace IPScout.Api

open Base Base.Text

/-! ### Ping -/

def unspecifiedAddress : AddressFamily → Text
  | .IPV4 => "0.0.0.0".toList
  | .IPV6 => "::".toList

/-- What `_suppressed` reports. -/
def suppressedData (f : Formats) (target : Text) (e : PyError) (place : ResolvedTarget) :
    ResponseData where
  target := target
  reached := false
  ip := place.address
  numberOfPings := 0
  rttsMs := []
  packetsSent := 0
  packetsReceived := 0
  family := place.family
  method := .ICMP
  error := some (if render f e.str = [] then e.className else render f e.str)

def suppressed (f : Formats) (target : Text) (e : PyError) (resolved : Option ResolvedTarget)
    (family : Option AddressFamily) : Except PyError ResponseObject :=
  let known := family.getD .IPV4
  let place := resolved.getD ⟨unspecifiedAddress known, known⟩
  ResponseObject.make (suppressedData f target e place)

/-- `icmp_available`, on a socket that is opened for it. -/
def icmpAvailable (world : SocketWorld) : Bool :=
  match openSocket world with
  | .ok _ => true
  | .error _ => false

def probeMethod (world : SocketWorld) (allowTcpFallback : Bool) : ProbeMethod :=
  if allowTcpFallback && !icmpAvailable world then .TCP else .ICMP

/-- What a call of `ping` meets. -/
structure PingWorld where
  env : Interfaces
  getaddrinfo : Getaddrinfo
  /-- The socket `icmp_available` opens. -/
  trial : SocketWorld
  sending : SendWorld

/-- `_request`; `_with_method` sets the method of a request that has been checked. -/
def checkedRequest (f : Formats) (world : PingWorld) (target : Text) (resolved : ResolvedTarget)
    (a : PingArguments) (allowTcpFallback : Bool) : Except PyError PingRequest :=
  match pingRequest f target resolved a .ICMP with
  | .error refused => .error (refusedArguments "ping" refused)
  | .ok request => .ok { request with method := probeMethod world.trial allowTcpFallback }

def ping (f : Formats) (world : PingWorld) (target : Text) (family : Option AddressFamily)
    (a : PingArguments) (allowTcpFallback raiseOnError : Bool) : Except PyError ResponseObject :=
  let caught (e : PyError) (resolved : Option ResolvedTarget) : Except PyError ResponseObject :=
    if isSetupError e && !raiseOnError then suppressed f target e resolved family else .error e
  match resolveOne world.env world.getaddrinfo target family with
  | .error e => caught e none
  | .ok resolved =>
    match checkedRequest f world target resolved a allowTcpFallback with
    | .error e => caught e (some resolved)
    | .ok request =>
      match send world.env world.sending request with
      | .error e => caught e (some resolved)
      | .ok response => .ok response

/-! ### Reachability -/

def reachabilityRequest (f : Formats) (target : Text) (resolved : ResolvedTarget) (timeout : ℚ)
    (method : ProbeMethod) (tcpPort : ℤ) : Except ValidationError PingRequest :=
  pingRequest f target resolved ⟨1, timeout, 0, 56, tcpPort⟩ method

structure ReachabilityLegs where
  icmp : PingRequest
  tcp : Option PingRequest

def reachabilityLegs (f : Formats) (target : Text) (resolved : ResolvedTarget) (timeout : ℚ)
    (tcpPort : ℤ) : Except ValidationError ReachabilityLegs := do
  let icmp ← reachabilityRequest f target resolved timeout .ICMP DEFAULT_TCP_PORT
  match reachabilityRequest f target resolved timeout .TCP tcpPort with
  | .error _ => .ok ⟨icmp, none⟩
  | .ok tcp => .ok ⟨icmp, some tcp⟩

def answers (env : Interfaces) (world : SendWorld) (request : PingRequest) :
    Except PyError Bool :=
  match send env world request with
  | .ok response => .ok response.reached
  | .error e => if notReached e then .ok false else .error e

/-- `is_reachable`; each leg meets a world of its own. -/
def isReachable (f : Formats) (env : Interfaces) (getaddrinfo : Getaddrinfo)
    (icmpWorld tcpWorld : SendWorld) (target : Text) (timeout : ℚ) (tcpPort : ℤ)
    (family : Option AddressFamily) : Except PyError Bool :=
  match resolveOne env getaddrinfo target family with
  | .error e => if notReached e then .ok false else .error e
  | .ok resolved =>
    match reachabilityLegs f target resolved timeout tcpPort with
    -- a `ValidationError` is a `ValueError`
    | .error _ => .ok false
    | .ok legs => do
      if ← answers env icmpWorld legs.icmp then .ok true
      else
        match legs.tcp with
        | none => .ok false
        | some request => answers env tcpWorld request

/-! ### What a lookup has found -/

section Resolved

variable {env : Interfaces} {getaddrinfo : Getaddrinfo} {target : Text}
  {family : Option AddressFamily} {resolved : ResolvedTarget}

theorem mem_of_resolveOne (h : resolveOne env getaddrinfo target family = .ok resolved) :
    isBlankTarget target = false ∧
      ∃ infos, resolved ∈ resolvedTargets env infos (splitZone target).zone := by
  unfold resolveOne at h
  cases hall : resolveTargets env getaddrinfo target family with
  | error e => simp [hall] at h
  | ok found =>
    rw [hall] at h
    dsimp only at h
    have hfirst : found.val.head found.property = resolved := by
      split at h
      · simp at h
      · exact Except.ok.inj h
    unfold resolveTargets at hall
    split at hall
    · simp at hall
    · next hbefore =>
      refine ⟨?_, ?_⟩
      · by_contra hblank
        rw [Bool.not_eq_false] at hblank
        unfold refuseBeforeLookup at hbefore
        rw [if_pos hblank] at hbefore
        simp at hbefore
      · split at hall
        · simp at hall
        · next infos _ =>
          dsimp only at hall
          split at hall
          · simp at hall
          · refine ⟨infos, @mem_of_mem_dedupe [] _ _ ?_⟩
            rw [← hfirst]
            have hmem := List.head_mem found.property
            rw [← Except.ok.inj hall] at hmem ⊢
            exact hmem

theorem Inet6Info.exists_bits (info : Inet6Info) :
    '/' ∉ info.address ∧ '%' ∉ info.address ∧ ∃ ip, ipv6Bits info.address = some ip := by
  obtain ⟨ip, hip⟩ := info.literal
  obtain ⟨hslash, ⟨hpct, hbits, _⟩ | ⟨_, _, _, _, _, _, _, hscope⟩⟩ := ipv6Address_cases hip
  · exact ⟨hslash, hpct, ip, hbits⟩
  · simp at hscope

theorem fits_plain (info : Inet6Info) : ∃ a, requireAddress info.address .IPV6 = .ok a := by
  obtain ⟨ip, hip⟩ := info.literal
  obtain ⟨_, _, bits, hbits⟩ := Inet6Info.exists_bits info
  refine ⟨.v6 ⟨ip, none⟩, requireAddress_eq_ok_iff.mpr ⟨?_, rfl⟩⟩
  rw [ipAddress_eq_of_colon (colon_mem_of_ipv6Bits hbits), hip]
  rfl

theorem fits_zoned_iff (info : Inet6Info) {zone : Text} (hne : zone ≠ []) :
    (∃ a, requireAddress (info.address ++ '%' :: zone) .IPV6 = .ok a) ↔ IsZone zone := by
  obtain ⟨hslash, hpct, ip, hbits⟩ := Inet6Info.exists_bits info
  constructor
  · rintro ⟨a, ha⟩
    obtain ⟨haddress, hfamily⟩ := requireAddress_eq_ok_iff.mp ha
    cases a with
    | v4 ip4 => simp [IPAddress.family] at hfamily
    | v6 a =>
      obtain ⟨hnone, ⟨hno, _⟩ | ⟨x, zone', hsame, hx, hne', hpct', _⟩⟩ :=
        ipv6Address_cases (ipv6Address_of_ipAddress haddress).2
      · exact absurd (List.mem_append_right _ List.mem_cons_self) hno
      · have hzone : zone = zone' := by
          have hcut := congrArg ScopedAddress.zone (splitZone_append hpct hne)
          rw [hsame, zone_splitZone_append hx hne'] at hcut
          exact (Option.some.inj hcut).symm
        refine ⟨hne, hzone ▸ hpct', ?_⟩
        intro hmem
        exact hnone (List.mem_append_right _ (List.mem_cons_of_mem _ hmem))
  · intro hzone
    refine ⟨.v6 ⟨ip, some zone⟩, requireAddress_eq_ok_iff.mpr ⟨?_, rfl⟩⟩
    rw [ipAddress_eq_of_colon (List.mem_append_left _ (colon_mem_of_ipv6Bits hbits)),
      ipv6Address_append hbits hpct hslash hzone]
    rfl

theorem withZone_cases (env : Interfaces) (info : Inet6Info) {written : Option Text}
    (hwritten : written ≠ some []) :
    info.withZone env written = info.address ∨
      ∃ zone, zone ≠ [] ∧ info.withZone env written = info.address ++ '%' :: zone := by
  cases written with
  | some zone => exact Or.inr ⟨zone, fun hnil => hwritten (by rw [hnil]), rfl⟩
  | none =>
    rw [Inet6Info.withZone]
    split
    · exact Or.inl rfl
    · split
      · split
        · exact Or.inr ⟨_, decimal_ne_nil _, rfl⟩
        · next hname => exact Or.inr ⟨_, hname, rfl⟩
      · exact Or.inr ⟨_, decimal_ne_nil _, rfl⟩

/-- **An address that was found is one of its family, unless it has a zone that cannot be
read.** -/
theorem fits_iff_of_resolveOne (h : resolveOne env getaddrinfo target family = .ok resolved) :
    (∃ a, requireAddress resolved.address resolved.family = .ok a) ↔
      ∀ zone, (splitZone resolved.address).zone = some zone →
        resolved.family = .IPV6 ∧ IsZone zone := by
  obtain ⟨_, infos, hmem⟩ := mem_of_resolveOne h
  have hwritten := zone_splitZone_ne_nil target
  obtain ⟨info, _, hinfo⟩ := List.mem_filterMap.mp hmem
  cases info with
  | other => simp at hinfo
  | inet info =>
    rw [← Option.some.inj hinfo]
    obtain ⟨ip, hip⟩ := Option.isSome_iff_exists.mp info.literal
    have hpct := percent_notMem_of_ipv4Address hip
    cases hzone : (splitZone target).zone with
    | none =>
      dsimp only [InetInfo.withZone]
      rw [splitZone_of_notMem hpct]
      refine iff_of_true ⟨.v4 ip, requireAddress_eq_ok_iff.mpr ⟨?_, rfl⟩⟩ (by simp)
      rw [ipAddress, hip]
    | some zone =>
      dsimp only [InetInfo.withZone]
      rw [hzone] at hwritten
      rw [zone_splitZone_append hpct (fun hnil => hwritten (by rw [hnil]))]
      refine iff_of_false ?_ fun hall => by simpa using (hall zone rfl).1
      rintro ⟨a, ha⟩
      obtain ⟨ip4, rfl⟩ := exists_v4_of_requireAddress ha
      have hread := ipv4Address_of_ipAddress (requireAddress_eq_ok_iff.mp ha).1
      exact percent_notMem_of_ipv4Address hread (List.mem_append_right _ List.mem_cons_self)
  | inet6 info =>
    rw [← Option.some.inj hinfo]
    dsimp only
    obtain ⟨_, hpct, _⟩ := Inet6Info.exists_bits info
    rcases withZone_cases env info hwritten with hplain | ⟨zone, hne, hzoned⟩
    · rw [hplain, splitZone_of_notMem hpct]
      exact iff_of_true (fits_plain info) (by simp)
    · rw [hzoned, fits_zoned_iff info hne, zone_splitZone_append hpct hne]
      simp

end Resolved

/-! ### What is reachable -/

theorem answers_eq_ok_iff (env : Interfaces) (world : SendWorld) (request : PingRequest) :
    ∃ b, answers env world request = .ok b ∧
    (b = true ↔ ∃ response, send env world request = .ok response ∧ response.reached = true) := by
  rw [answers]
  cases hsend : send env world request with
  | ok response => exact ⟨response.reached, rfl, by simp⟩
  | error e =>
    dsimp only
    rw [if_pos (send_error hsend)]
    exact ⟨false, rfl, by simp⟩

theorem notReached_of_resolveOne {env : Interfaces} {getaddrinfo : Getaddrinfo} {target : Text}
    {family : Option AddressFamily} {e : PyError}
    (h : resolveOne env getaddrinfo target family = .error e) : notReached e = true := by
  rw [notReached, Bool.or_eq_true]
  rcases resolveOne_error h with hresolution | ⟨raised, _, rfl⟩
  · exact Or.inl (isSetupError_of_isResolutionError hresolution)
  · cases raised with
    | os e => exact Or.inr rfl
    | unicode msg => exact Or.inl rfl

/-- A leg is sent exactly when the wait and the port are within their bounds, and the address is
one of its family. -/
theorem reachabilityRequest_ok_iff (f : Formats) {target : Text} (resolved : ResolvedTarget)
    (htarget : isBlankTarget target = false) (timeout : ℚ) (method : ProbeMethod) (tcpPort : ℤ) :
    (∃ request, reachabilityRequest f target resolved timeout method tcpPort = .ok request) ↔
      (∃ a, requireAddress resolved.address resolved.family = .ok a) ∧
        (0 < timeout ∧ timeout ≤ MAX_TIMEOUT) ∧
        (MIN_PORT : ℤ) ≤ tcpPort ∧ tcpPort ≤ MAX_PORT := by
  have hsize : (56 : ℤ) ≤ maxPayloadSize resolved.family := by
    cases resolved.family <;> decide
  have htimes : (1 : ℤ) ≤ 1 ∧ (1 : ℤ) ≤ MAX_TIMES := by decide
  have hinterval : (0 : ℚ) ≤ 0 ∧ (0 : ℚ) ≤ MAX_TIMEOUT := by decide +kernel
  rw [reachabilityRequest, pingRequest_ok_iff]
  constructor
  · rintro ⟨hfit, hfits, _⟩
    exact ⟨hfits, hfit.timeout_bounds, hfit.port_bounds⟩
  · rintro ⟨hfits, htimeout, hport⟩
    exact ⟨⟨htarget, htimes, htimeout, hinterval, Int.natCast_nonneg 56, hport⟩, hfits, hsize⟩

theorem reachabilityLegs_cases (f : Formats) {target : Text} (resolved : ResolvedTarget)
    (htarget : isBlankTarget target = false) (timeout : ℚ) (tcpPort : ℤ) :
    (∃ e, reachabilityLegs f target resolved timeout tcpPort = .error e ∧
      ¬ ((∃ a, requireAddress resolved.address resolved.family = .ok a) ∧
        0 < timeout ∧ timeout ≤ MAX_TIMEOUT)) ∨
    ∃ icmp tcp, reachabilityLegs f target resolved timeout tcpPort = .ok ⟨icmp, tcp⟩ ∧
      ((∃ a, requireAddress resolved.address resolved.family = .ok a) ∧
        0 < timeout ∧ timeout ≤ MAX_TIMEOUT) ∧
      (RequestOf target resolved ⟨1, timeout, 0, 56, DEFAULT_TCP_PORT⟩ icmp ∧
        icmp.method = .ICMP) ∧
      (tcp = none ∧ ¬ ((MIN_PORT : ℤ) ≤ tcpPort ∧ tcpPort ≤ MAX_PORT) ∨
        ∃ request, tcp = some request ∧ ((MIN_PORT : ℤ) ≤ tcpPort ∧ tcpPort ≤ MAX_PORT) ∧
          RequestOf target resolved ⟨1, timeout, 0, 56, tcpPort⟩ request ∧
          request.method = .TCP) := by
  have hdefault : (MIN_PORT : ℤ) ≤ DEFAULT_TCP_PORT ∧ DEFAULT_TCP_PORT ≤ MAX_PORT := by decide
  have hicmp := reachabilityRequest_ok_iff f resolved htarget timeout .ICMP
    DEFAULT_TCP_PORT
  have htcp := reachabilityRequest_ok_iff f resolved htarget timeout .TCP tcpPort
  rw [reachabilityLegs]
  cases hasked : reachabilityRequest f target resolved timeout .ICMP DEFAULT_TCP_PORT with
  | error e =>
    refine Or.inl ⟨e, rfl, ?_⟩
    intro hfit
    obtain ⟨request, hrequest⟩ := hicmp.mpr ⟨hfit.1, hfit.2, hdefault⟩
    rw [hasked] at hrequest
    simp at hrequest
  | ok icmp =>
    right
    obtain ⟨hfits, htimeout, _⟩ := hicmp.mp ⟨icmp, hasked⟩
    have hof := requestOf_pingRequest hasked
    cases hport : reachabilityRequest f target resolved timeout .TCP tcpPort with
    | error e =>
      refine ⟨icmp, none, rfl, ⟨hfits, htimeout⟩, hof, Or.inl ⟨rfl, ?_⟩⟩
      intro hbounds
      obtain ⟨request, hrequest⟩ := htcp.mpr ⟨hfits, htimeout, hbounds⟩
      rw [hport] at hrequest
      simp at hrequest
    | ok request =>
      refine ⟨icmp, some request, rfl, ⟨hfits, htimeout⟩, hof, Or.inr ⟨request, rfl, ?_⟩⟩
      exact ⟨(htcp.mp ⟨request, hport⟩).2.2, requestOf_pingRequest hport⟩

/-- **`is_reachable` never raises, and answers for the address its target resolves to.**  It says
yes exactly when an echo to that address is answered in time, or a connect to it is made or
refused; a port out of bounds silences the connect alone. -/
theorem isReachable_eq_true_iff (f : Formats) (env : Interfaces) (getaddrinfo : Getaddrinfo)
    (icmpWorld tcpWorld : SendWorld) (target : Text) (timeout : ℚ) (tcpPort : ℤ)
    (family : Option AddressFamily) :
    ∃ b, isReachable f env getaddrinfo icmpWorld tcpWorld target timeout tcpPort family = .ok b ∧
      (b = true ↔ ∃ resolved, resolveOne env getaddrinfo target family = .ok resolved ∧
        ((∀ zone, (splitZone resolved.address).zone = some zone →
          resolved.family = .IPV6 ∧ IsZone zone) ∧ 0 < timeout ∧ timeout ≤ MAX_TIMEOUT) ∧
        (EchoReaches env icmpWorld resolved timeout ∨
          ((MIN_PORT : ℤ) ≤ tcpPort ∧ tcpPort ≤ MAX_PORT) ∧
            ConnectReaches (tcpWorld.connects 0))) := by
  rw [isReachable]
  cases hresolve : resolveOne env getaddrinfo target family with
  | error e =>
    dsimp only
    rw [if_pos (notReached_of_resolveOne hresolve)]
    exact ⟨false, rfl, by simp⟩
  | ok resolved =>
    simp only [Except.ok.injEq, exists_eq_left']
    rw [← fits_iff_of_resolveOne hresolve]
    rcases reachabilityLegs_cases f resolved (mem_of_resolveOne hresolve).1 timeout
      tcpPort with ⟨e, hlegs, hunfit⟩ | ⟨icmp, tcp, hlegs, hfit, ⟨hicmp, hmethod⟩, htcp⟩
    · rw [hlegs]
      exact ⟨false, rfl, by simp [hunfit]⟩
    · rw [hlegs]
      dsimp only
      obtain ⟨answered, hanswers, hecho⟩ :=
        answers_eq_ok_iff env icmpWorld icmp
      rw [icmp_reached_iff hmethod hicmp] at hecho
      rw [hanswers]
      cases answered with
      | true => exact ⟨true, rfl, iff_of_true rfl ⟨hfit, Or.inl (hecho.mp rfl)⟩⟩
      | false =>
        have hsilent : ¬ EchoReaches env icmpWorld resolved timeout := by
          intro hreaches
          simpa using hecho.mpr hreaches
        rcases htcp with ⟨rfl, hport⟩ | ⟨request, rfl, hport, hof, hconnects⟩
        · exact ⟨false, rfl, by simp [hsilent, hport]⟩
        · obtain ⟨connected, htried, hiff⟩ :=
            answers_eq_ok_iff env tcpWorld request
          rw [tcp_reached_iff hconnects hof] at hiff
          refine ⟨connected, htried, hiff.trans ?_⟩
          constructor
          · intro hreaches
            exact ⟨hfit, Or.inr ⟨hport, hreaches⟩⟩
          · rintro ⟨_, hreaches | ⟨_, hreaches⟩⟩
            · exact absurd hreaches hsilent
            · exact hreaches

/-! ### What is reported in place of an error -/

theorem reason_eq (f : Formats) (e : PyError) :
    (if render f e.str = [] then e.className else render f e.str) = render f e.failureReason := by
  rw [PyError.failureReason]
  by_cases hempty : e.str.isEmpty = true
  · rw [if_pos ((render_eq_nil_iff f e.str).mpr hempty), if_pos hempty]
    simp [render]
  · rw [if_neg fun hnil => hempty ((render_eq_nil_iff f e.str).mp hnil), if_neg hempty]

theorem reason_ne_nil (f : Formats) (e : PyError) : render f e.failureReason ≠ [] := by
  rw [ne_eq, render_eq_nil_iff, e.failureReason_ne_empty]
  simp

theorem make_suppressedData (f : Formats) (target : Text) (e : PyError) (place : ResolvedTarget) :
    (∃ a, requireAddress place.address place.family = .ok a) ∧
        (∃ response, ResponseObject.make (suppressedData f target e place) = .ok response ∧
          response.toResponseData = suppressedData f target e place) ∨
      ∃ refusal, requireAddress place.address place.family = .error refusal ∧
        ResponseObject.make (suppressedData f target e place) = .error refusal := by
  have hreason : ¬ (suppressedData f target e place).error = some [] := by
    rw [suppressedData, reason_eq, Option.some.injEq]
    exact reason_ne_nil f e
  have hfields : (suppressedData f target e place).checkFields = .ok () := by
    rw [ResponseData.checkFields, if_neg (by simp [suppressedData]),
      if_neg (by simp [suppressedData]), if_neg hreason]
  have hproblems : (suppressedData f target e place).problems.find? (·.1) = none := by
    simp [ResponseData.problems, suppressedData]
  have hcheck : (suppressedData f target e place).check =
      (requireAddress place.address place.family).map fun _ => () := by
    have hplace : requireAddress (suppressedData f target e place).ip
        (suppressedData f target e place).family = requireAddress place.address place.family := rfl
    rw [ResponseData.check, hfields, hplace]
    cases requireAddress place.address place.family with
    | error refusal => rfl
    | ok a => simp only [bind, Except.bind, Except.map, hproblems]
  cases hrequired : requireAddress place.address place.family with
  | ok a =>
    rw [hrequired] at hcheck
    refine Or.inl ⟨⟨a, rfl⟩, ⟨_, hcheck⟩, ?_, rfl⟩
    rw [ResponseObject.make]
    split
    · rfl
    · next refusal hrefusal =>
      rw [hcheck] at hrefusal
      simp [Except.map] at hrefusal
  | error refusal =>
    rw [hrequired] at hcheck
    refine Or.inr ⟨refusal, rfl, ?_⟩
    rw [ResponseObject.make]
    split
    · next hok =>
      rw [hcheck] at hok
      simp [Except.map] at hok
    · next other hother =>
      rw [hcheck] at hother
      exact congrArg Except.error (Except.error.inj hother).symm

section Suppressed

variable (f : Formats) (world : PingWorld) (target : Text) (family : Option AddressFamily)
  (a : PingArguments) (allowTcpFallback : Bool)

/-- Where a call was going: the address of its target, or no address of the family asked for. -/
def placeOf : ResolvedTarget :=
  match resolveOne world.env world.getaddrinfo target family with
  | .ok resolved => resolved
  | .error _ => ⟨unspecifiedAddress (family.getD .IPV4), family.getD .IPV4⟩

theorem fits_placeOf_iff :
    (∃ address, requireAddress (placeOf world target family).address
        (placeOf world target family).family = .ok address) ↔
      ∀ zone, (splitZone (placeOf world target family).address).zone = some zone →
        (placeOf world target family).family = .IPV6 ∧ IsZone zone := by
  rw [placeOf]
  cases hresolve : resolveOne world.env world.getaddrinfo target family with
  | ok resolved => exact fits_iff_of_resolveOne hresolve
  | error e =>
    have hplain : '%' ∉ unspecifiedAddress (family.getD .IPV4) := by
      cases family.getD .IPV4 <;> decide
    dsimp only
    rw [splitZone_of_notMem hplain]
    refine iff_of_true ?_ (by simp)
    cases family.getD .IPV4 with
    | IPV4 => exact ⟨.v4 0, by decide +kernel⟩
    | IPV6 => exact ⟨.v6 ⟨0, none⟩, by decide +kernel⟩

/-- A call that reports what it would raise is the call that raises it, with a record in place of
a setup error. -/
theorem ping_eq (raiseOnError : Bool) :
    ping f world target family a allowTcpFallback raiseOnError =
      match ping f world target family a allowTcpFallback true with
      | .ok response => .ok response
      | .error e =>
        if isSetupError e && !raiseOnError then
          ResponseObject.make (suppressedData f target e (placeOf world target family))
        else .error e := by
  rw [ping, ping, placeOf]
  cases hresolve : resolveOne world.env world.getaddrinfo target family with
  | error e => simp [suppressed]
  | ok resolved =>
    cases hchecked : checkedRequest f world target resolved a allowTcpFallback with
    | error e => simp [suppressed, hchecked]
    | ok request =>
      cases hsend : send world.env world.sending request with
      | error e => simp [suppressed, hchecked, hsend]
      | ok response => simp [hchecked, hsend]

/-- A call that raises what it meets looks the target up, checks its arguments and sends. -/
theorem ping_strict :
    ping f world target family a allowTcpFallback true = (do
      let resolved ← resolveOne world.env world.getaddrinfo target family
      let request ← checkedRequest f world target resolved a allowTcpFallback
      send world.env world.sending request) := by
  rw [ping]
  cases hresolve : resolveOne world.env world.getaddrinfo target family with
  | error e => simp [bind, Except.bind]
  | ok resolved =>
    cases hchecked : checkedRequest f world target resolved a allowTcpFallback with
    | error e => simp [bind, Except.bind, hchecked]
    | ok request =>
      cases hsend : send world.env world.sending request with
      | error e => simp [bind, Except.bind, hchecked, hsend]
      | ok response => simp [bind, Except.bind, hchecked, hsend]

theorem ping_error {e : PyError}
    (h : ping f world target family a allowTcpFallback true = .error e) :
    notReached e = true := by
  rw [ping_strict] at h
  rcases bind_eq_error.mp h with h | ⟨resolved, _, h⟩
  · exact notReached_of_resolveOne h
  · rcases bind_eq_error.mp h with h | ⟨request, _, h⟩
    · unfold checkedRequest at h
      split at h
      · rw [← Except.error.inj h]
        rfl
      · simp at h
    · exact send_error h

/-- A record in place of an error: nothing was sent, and it says why. -/
structure InPlaceOf (e : PyError) (response : ResponseObject) : Prop where
  target_eq : response.target = target
  address : response.ip = (placeOf world target family).address
  family_eq : response.family = (placeOf world target family).family
  unreached : response.reached = false
  sent : response.numberOfPings = 0 ∧ response.packetsSent = 0 ∧ response.packetsReceived = 0 ∧
    response.rttsMs = []
  reason : response.error = some (render f e.failureReason) ∧ render f e.failureReason ≠ []

/-- **What `raise_on_error=False` changes.**  A result is the result, and an error of the system
is raised as it is.  Any other error is reported in a record that keeps what was learnt before it,
exactly when no zone of the address is one that cannot be read. -/
theorem ping_suppresses_iff :
    (∀ response, ping f world target family a allowTcpFallback true = .ok response →
      ping f world target family a allowTcpFallback false = .ok response) ∧
    ∀ e, ping f world target family a allowTcpFallback true = .error e →
      (isSetupError e = false →
        e.isOSError = true ∧ ping f world target family a allowTcpFallback false = .error e) ∧
      (isSetupError e = true →
        ((∃ response, ping f world target family a allowTcpFallback false = .ok response) ↔
          ∀ zone, (splitZone (placeOf world target family).address).zone = some zone →
            (placeOf world target family).family = .IPV6 ∧ IsZone zone) ∧
        ∀ response, ping f world target family a allowTcpFallback false = .ok response →
          InPlaceOf f world target family e response) := by
  have hquiet := ping_eq f world target family a allowTcpFallback false
  constructor
  · intro response hstrict
    rw [hquiet, hstrict]
  · intro e hstrict
    rw [hstrict] at hquiet
    dsimp only at hquiet
    constructor
    · intro hsystem
      have hraised := ping_error f world target family a allowTcpFallback hstrict
      rw [notReached, hsystem, Bool.false_or] at hraised
      refine ⟨hraised, ?_⟩
      rw [hquiet, hsystem]
      rfl
    · intro hsetup
      have hmade : ping f world target family a allowTcpFallback false =
          ResponseObject.make (suppressedData f target e (placeOf world target family)) := by
        rw [hquiet, hsetup]
        rfl
      rw [hmade, ← fits_placeOf_iff]
      rcases make_suppressedData f target e (placeOf world target family) with
        ⟨hfits, record, hrecord, hdata⟩ | ⟨refusal, hunfit, hrefused⟩
      · refine ⟨iff_of_true ⟨record, hrecord⟩ hfits, ?_⟩
        intro response hresponse
        rw [hrecord] at hresponse
        rw [← Except.ok.inj hresponse]
        refine ⟨?_, ?_, ?_, ?_, ?_, ?_, reason_ne_nil f e⟩
        · rw [hdata, suppressedData]
        · rw [hdata, suppressedData]
        · rw [hdata, suppressedData]
        · rw [hdata, suppressedData]
        · rw [hdata]
          exact ⟨rfl, rfl, rfl, rfl⟩
        · rw [hdata, suppressedData, reason_eq]
      · rw [hrefused]
        refine ⟨iff_of_false (by simp) ?_, by simp⟩
        rintro ⟨address, haddress⟩
        rw [hunfit] at haddress
        simp at haddress

end Suppressed

end IPScout.Api
