import IPScout.Echo.Ping

/-!
# The path to a target

`_walk` and `_awalk` raise the hop limit one by one and turn what comes back into a hop each
time: a router's, the target's, or a silent one.  The target's ends the walk.

Each hop limit is probed once at most, so what a transport answers is a function of the call,
and what a name server answers one of the hop limit and the address.  Whatever these are, a
walk is what `PathOf` says (`pathOf_walkFrom`), and the two walks are the same
(`walk_spec`).
-/

namespace IPScout

open Base Base.Text

/-! ### Hops -/

def MAX_HOP_LIMIT : ℕ := 255

/-- What a `TraceHop` is built from. -/
structure TraceHopData where
  ttl : ℕ
  address : Option Text
  rttMs : Option ℚ
  reached : Bool
  hostname : Option Text
  deriving DecidableEq

namespace TraceHopData

/-- `_require_literal`, of a field that may be absent. -/
def checkLiteral : Option Text → Except PyError Unit
  | none => .ok ()
  | some text =>
    match parseAddress text with
    | .error e => .error e
    | .ok _ => .ok ()

def checkFields (d : TraceHopData) : Except PyError Unit :=
  if d.ttl < 1 then .error (.value [say "Input should be greater than or equal to 1"])
  else if MAX_HOP_LIMIT < d.ttl then
    .error (.value [say "Input should be less than or equal to 255"])
  else
    match checkLiteral d.address with
    | .error e => .error e
    | .ok () =>
      if d.rttMs.any (· < 0) then
        .error (.value [say "Input should be greater than or equal to 0"])
      else if d.hostname = some [] then
        .error (.value [say "String should have at least 1 character"])
      else .ok ()

/-- What `_answered_or_silent` finds broken, and what it says about it. -/
def problems (d : TraceHopData) : List (Bool × Message) :=
  let silent := d.address.isNone
  [(d.rttMs.isNone != silent,
      [say "address and rtt_ms are set together: a hop either answered or was silent"]),
    (d.reached && silent, [say "reached needs the address that answered"]),
    (d.hostname.isSome && silent, [say "hostname needs the address it names"])]

/-- The field checks and `_answered_or_silent`. -/
def check (d : TraceHopData) : Except PyError Unit :=
  match d.checkFields with
  | .error e => .error e
  | .ok () =>
    match d.problems.find? (·.1) with
    | some (_, msg) => .error (.value msg)
    | none => .ok ()

end TraceHopData

/-- One hop on the path to a target. -/
structure TraceHop extends TraceHopData where
  valid : toTraceHopData.check = .ok ()

/-- `TraceHop(...)`. -/
def TraceHop.make (d : TraceHopData) : Except PyError TraceHop :=
  match h : d.check with
  | .ok () => .ok ⟨d, h⟩
  | .error e => .error e

theorem TraceHop.make_eq {d : TraceHopData} (h : d.check = .ok ()) :
    TraceHop.make d = .ok ⟨d, h⟩ := by
  unfold TraceHop.make
  split
  · rfl
  · next e he =>
    rw [h] at he
    simp at he

/-! ### From an outcome to a hop -/

def EchoResult.answered (r : EchoResult) : Bool := r.rttMs.isSome

/-- `_name_to_look_up`: the address whose name is wanted. -/
def nameToLookUp (result : EchoResult) (resolveNames : Bool) : Option Text :=
  if resolveNames && result.answered then
    -- an empty source is none
    result.source.filter (· ≠ [])
  else none

/-- What `gethostbyaddr` returns first, or raises. -/
inductive HostByAddr
  | name (hostname : Text)
  | osError (e : OSErr)
  | unicodeError (msg : Message)

/-- `reverse_dns`: an empty name is none. -/
def reverseDns : HostByAddr → Option Text
  | .name hostname => if hostname = [] then none else some hostname
  | .osError _ => none
  | .unicodeError _ => none

/-- `_to_hop`: the hop an outcome represents. -/
def toHop (ttl : ℕ) (result : EchoResult) (hostname : Option Text) : Except PyError TraceHop :=
  if result.answered then
    TraceHop.make ⟨ttl, result.source, result.rttMs, !result.ttlExpired, hostname⟩
  else TraceHop.make ⟨ttl, none, none, false, none⟩

/-! ### Walks -/

/-- The arguments of one walk, checked. -/
structure TracerouteSettings where
  maxHops : ℕ
  timeout : ℚ
  resolveNames : Bool
  hops_bounds : 1 ≤ maxHops ∧ maxHops ≤ MAX_HOP_LIMIT
  timeout_bounds : 0 < timeout ∧ timeout ≤ MAX_TIMEOUT

/-- The arguments of `probe`. -/
structure HopProbe where
  sequence : ℕ
  timeout : ℚ
  ttl : ℕ
  deriving DecidableEq

/-- A transport a walk probes with. -/
structure HopTransport where
  supportsTtlDiscovery : Bool
  probe : HopProbe → EchoResult

/-- What a walk has asked of its transport, and the hops it has built. -/
structure Walk where
  probes : List HopProbe
  hops : List TraceHop

def requireWalkable (supportsTtlDiscovery : Bool) : Except PyError Unit :=
  if supportsTtlDiscovery then .ok ()
  else .error (.scout .IPScoutUnsupportedError [say ("traceroute needs to observe ICMP Time " ++
    "Exceeded, which this platform does not expose to an unprivileged process. On macOS run as " ++
    "root: a raw ICMP socket receives it, while neither MSG_ERRQUEUE nor a plain receive on the " ++
    "unprivileged socket surfaces it. Linux and Windows need no privilege.")])

section Walks

variable (transport : HopTransport) (names : ℕ → Text → HostByAddr) (settings : TracerouteSettings)

def hopProbe (ttl : ℕ) : HopProbe := ⟨ttl, settings.timeout, ttl⟩

/-- The loop of `_walk` over the hop limits. -/
def walkFrom : List ℕ → Except PyError Walk
  | [] => .ok ⟨[], []⟩
  | ttl :: ttls =>
    let result := transport.probe (hopProbe settings ttl)
    let source := nameToLookUp result settings.resolveNames
    match toHop ttl result (source.bind fun ip => reverseDns (names ttl ip)) with
    | .error e => .error e
    | .ok hop =>
      if hop.reached then .ok ⟨[hopProbe settings ttl], [hop]⟩
      else
        match walkFrom ttls with
        | .error e => .error e
        | .ok rest => .ok ⟨hopProbe settings ttl :: rest.probes, hop :: rest.hops⟩

def walk : Except PyError Walk :=
  match requireWalkable transport.supportsTtlDiscovery with
  | .error e => .error e
  | .ok () => walkFrom transport names settings (List.range' 1 settings.maxHops)

/-- The loop of `_awalk`: the probe is awaited, and the name is looked up in a thread before the
hop is built. -/
def awalkFrom : List ℕ → Except PyError Walk
  | [] => .ok ⟨[], []⟩
  | ttl :: ttls =>
    let result := transport.probe (hopProbe settings ttl)
    let hostname :=
      match nameToLookUp result settings.resolveNames with
      | some source => reverseDns (names ttl source)
      | none => none
    match toHop ttl result hostname with
    | .error e => .error e
    | .ok hop =>
      if hop.reached then .ok ⟨[hopProbe settings ttl], [hop]⟩
      else
        match awalkFrom ttls with
        | .error e => .error e
        | .ok rest => .ok ⟨hopProbe settings ttl :: rest.probes, hop :: rest.hops⟩

def awalk : Except PyError Walk :=
  match requireWalkable transport.supportsTtlDiscovery with
  | .error e => .error e
  | .ok () => awalkFrom transport names settings (List.range' 1 settings.maxHops)

end Walks

/-! ### Every hop is valid -/

/-- Who answered is an address literal. -/
def LiteralSource (result : EchoResult) : Prop :=
  ∀ source, result.source = some source → ∃ a, parseAddress source = .ok a

/-- The hop is what the outcome and the name say. -/
structure HopOf (ttl : ℕ) (result : EchoResult) (hostname : Option Text) (hop : TraceHop) :
    Prop where
  ttl_eq : hop.ttl = ttl
  address : hop.address = result.source
  rttMs : hop.rttMs = result.rttMs
  reached : hop.reached = result.isReply
  hostname : hop.hostname = hostname

theorem reverseDns_ne_nil (answer : HostByAddr) : reverseDns answer ≠ some [] := by
  cases answer with
  | name hostname =>
    rw [reverseDns]
    split
    · simp
    · next h => simpa using h
  | osError e => simp [reverseDns]
  | unicodeError msg => simp [reverseDns]

theorem source_of_nameToLookUp {result : EchoResult} {resolveNames : Bool} {source : Text}
    (h : nameToLookUp result resolveNames = some source) : result.source = some source := by
  rw [nameToLookUp] at h
  split at h
  · exact (Option.filter_eq_some_iff.mp h).1
  · simp at h

/-- **Every hop a walk builds is valid**, and it is what the outcome says. -/
theorem toHop_eq {ttl : ℕ} {result : EchoResult} {hostname : Option Text}
    (hmin : 1 ≤ ttl) (hmax : ttl ≤ MAX_HOP_LIMIT) (hliteral : LiteralSource result)
    (hname : hostname ≠ some []) (hsource : hostname.isSome = true → result.source.isSome = true) :
    ∃ hop, toHop ttl result hostname = .ok hop ∧ HopOf ttl result hostname hop := by
  obtain ⟨rttMs, source, ttlExpired, hnonneg, htogether, hexpired⟩ := result
  dsimp only at htogether hsource
  rw [toHop, EchoResult.answered]
  cases source with
  | none =>
    -- nobody answered
    have hrtt : rttMs = none := by
      cases rttMs with
      | none => rfl
      | some rtt => simp at htogether
    have hhost : hostname = none := by
      cases hostname with
      | none => rfl
      | some name => simp at hsource
    subst hrtt
    subst hhost
    have hcheck : (TraceHopData.mk ttl none none false none).check = .ok () := by
      rw [TraceHopData.check, TraceHopData.checkFields, if_neg (Nat.not_lt.mpr hmin),
        if_neg (Nat.not_lt.mpr hmax)]
      rfl
    rw [if_neg (by simp), TraceHop.make_eq hcheck]
    exact ⟨_, rfl, rfl, rfl, rfl, rfl, rfl⟩
  | some text =>
    obtain ⟨rtt, hrtt⟩ : ∃ rtt, rttMs = some rtt := Option.isSome_iff_exists.mp htogether
    subst hrtt
    obtain ⟨a, ha⟩ := hliteral text rfl
    have hpos : ¬ rtt < 0 := not_lt.mpr (hnonneg rtt rfl)
    have hcheck : (TraceHopData.mk ttl (some text) (some rtt) (!ttlExpired) hostname).check
        = .ok () := by
      rw [TraceHopData.check, TraceHopData.checkFields, if_neg (Nat.not_lt.mpr hmin),
        if_neg (Nat.not_lt.mpr hmax), TraceHopData.checkLiteral, ha]
      dsimp only
      rw [if_neg (by simpa using hpos), if_neg hname]
      simp [TraceHopData.problems]
    rw [if_pos (Option.isSome_some), TraceHop.make_eq hcheck]
    exact ⟨_, rfl, rfl, rfl, rfl, by simp [EchoResult.isReply], rfl⟩

/-! ### What a walk is -/

section Paths

variable (transport : HopTransport) (names : ℕ → Text → HostByAddr) (settings : TracerouteSettings)

def outcomeAt (ttl : ℕ) : EchoResult := transport.probe (hopProbe settings ttl)

/-- The name looked up at a hop limit. -/
def hostnameAt (ttl : ℕ) : Option Text :=
  (nameToLookUp (outcomeAt transport settings ttl) settings.resolveNames).bind
    fun ip => reverseDns (names ttl ip)

/-- The walk over some hop limits: it probes them in order, has a hop for each one it probes,
and ends early only at the target. -/
structure PathOf (ttls : List ℕ) (w : Walk) : Prop where
  probes : w.probes = (ttls.take w.hops.length).map (hopProbe settings)
  numbered : w.hops.map (·.ttl) = ttls.take w.hops.length
  length_le : w.hops.length ≤ ttls.length
  onlyLast : ∀ hop ∈ w.hops.dropLast, hop.reached = false
  stopped : w.hops.length < ttls.length → ∃ hop ∈ w.hops.getLast?, hop.reached = true
  hopOf : ∀ hop ∈ w.hops, HopOf hop.ttl (outcomeAt transport settings hop.ttl)
    (hostnameAt transport names settings hop.ttl) hop

variable {transport settings}

theorem toHop_outcomeAt {ttl : ℕ} (hmin : 1 ≤ ttl) (hmax : ttl ≤ MAX_HOP_LIMIT)
    (hliteral : LiteralSource (outcomeAt transport settings ttl)) :
    ∃ hop, toHop ttl (outcomeAt transport settings ttl) (hostnameAt transport names settings ttl)
      = .ok hop ∧ HopOf ttl (outcomeAt transport settings ttl)
        (hostnameAt transport names settings ttl) hop := by
  apply toHop_eq hmin hmax hliteral
  · rw [hostnameAt]
    cases nameToLookUp (outcomeAt transport settings ttl) settings.resolveNames with
    | none => simp
    | some source => exact reverseDns_ne_nil _
  · rw [hostnameAt]
    cases hlook : nameToLookUp (outcomeAt transport settings ttl) settings.resolveNames with
    | none => simp
    | some source =>
      rw [source_of_nameToLookUp hlook]
      simp

theorem walkFrom_cons {ttl : ℕ} {ttls : List ℕ} {hop : TraceHop} {rest : Walk}
    (hhop : toHop ttl (outcomeAt transport settings ttl) (hostnameAt transport names settings ttl) =
      .ok hop) (hrest : walkFrom transport names settings ttls = .ok rest) :
    walkFrom transport names settings (ttl :: ttls) =
      if hop.reached then .ok ⟨[hopProbe settings ttl], [hop]⟩
      else .ok ⟨hopProbe settings ttl :: rest.probes, hop :: rest.hops⟩ := by
  rw [walkFrom]
  show (match toHop ttl (outcomeAt transport settings ttl)
    (hostnameAt transport names settings ttl) with | .error e => _ | .ok hop => _) = _
  rw [hhop, hrest]

namespace PathOf

theorem nil : PathOf transport names settings [] ⟨[], []⟩ where
  probes := rfl
  numbered := rfl
  length_le := le_rfl
  onlyLast := by simp
  stopped := by simp
  hopOf := by simp

variable {ttl : ℕ} {hop : TraceHop} (hof : HopOf ttl (outcomeAt transport settings ttl)
  (hostnameAt transport names settings ttl) hop)
include hof

theorem hopOf_self : HopOf hop.ttl (outcomeAt transport settings hop.ttl)
    (hostnameAt transport names settings hop.ttl) hop := by
  rw [hof.ttl_eq]
  exact hof

theorem singleton (ttls : List ℕ) (hreached : hop.reached = true) :
    PathOf transport names settings (ttl :: ttls) ⟨[hopProbe settings ttl], [hop]⟩ where
  probes := rfl
  numbered := by simp [hof.ttl_eq]
  length_le := by simp
  onlyLast := by simp
  stopped := fun _ => ⟨hop, rfl, hreached⟩
  hopOf := by
    intro h hmem
    rw [List.mem_singleton.mp hmem]
    exact hopOf_self names hof

theorem cons {ttls : List ℕ} {rest : Walk} (hreached : hop.reached = false)
    (hpath : PathOf transport names settings ttls rest) :
    PathOf transport names settings (ttl :: ttls)
      ⟨hopProbe settings ttl :: rest.probes, hop :: rest.hops⟩ where
  probes := by rw [List.length_cons, List.take_succ_cons, List.map_cons, hpath.probes]
  numbered := by
    rw [List.length_cons, List.take_succ_cons, List.map_cons, hpath.numbered, hof.ttl_eq]
  length_le := by
    rw [List.length_cons, List.length_cons]
    exact Nat.succ_le_succ hpath.length_le
  onlyLast := by
    intro h hmem
    cases hhops : rest.hops with
    | nil =>
      rw [hhops] at hmem
      simp at hmem
    | cons next more =>
      rw [hhops, List.dropLast_cons_cons, List.mem_cons] at hmem
      rcases hmem with rfl | hmem
      · exact hreached
      · exact hpath.onlyLast h (by rwa [hhops])
  stopped := by
    intro hlt
    rw [List.length_cons, List.length_cons] at hlt
    obtain ⟨last, hlast, hend⟩ := hpath.stopped (Nat.lt_of_succ_lt_succ hlt)
    refine ⟨last, ?_, hend⟩
    rw [List.getLast?_cons, Option.mem_def.mp hlast]
    rfl
  hopOf := by
    intro h hmem
    rcases List.mem_cons.mp hmem with rfl | hmem
    · exact hopOf_self names hof
    · exact hpath.hopOf h hmem

end PathOf

/-- **A walk is a path**, by induction on the hop limits left. -/
theorem pathOf_walkFrom {ttls : List ℕ} (hbounds : ∀ ttl ∈ ttls, 1 ≤ ttl ∧ ttl ≤ MAX_HOP_LIMIT)
    (hliteral : ∀ ttl ∈ ttls, LiteralSource (outcomeAt transport settings ttl)) :
    ∃ w, walkFrom transport names settings ttls = .ok w ∧
      PathOf transport names settings ttls w := by
  induction ttls with
  | nil => exact ⟨⟨[], []⟩, rfl, .nil names⟩
  | cons ttl ttls ih =>
    obtain ⟨hmin, hmax⟩ := hbounds ttl List.mem_cons_self
    obtain ⟨hop, hhop, hof⟩ := toHop_outcomeAt names hmin hmax
      (hliteral ttl List.mem_cons_self)
    obtain ⟨rest, hrest, hpath⟩ := ih (fun t ht => hbounds t (List.mem_cons_of_mem _ ht))
      (fun t ht => hliteral t (List.mem_cons_of_mem _ ht))
    rw [walkFrom_cons names hhop hrest]
    cases hreached : hop.reached with
    | true => exact ⟨_, rfl, .singleton names hof ttls hreached⟩
    | false => exact ⟨_, rfl, .cons names hof hreached hpath⟩

theorem awalkFrom_eq (ttls : List ℕ) :
    awalkFrom transport names settings ttls = walkFrom transport names settings ttls := by
  induction ttls with
  | nil => rfl
  | cons ttl ttls ih =>
    rw [awalkFrom, walkFrom, ih]
    cases nameToLookUp (transport.probe (hopProbe settings ttl)) settings.resolveNames with
    | none => rfl
    | some source => rfl

end Paths

/-- **The path to a target.**  Over every transport whose sources are address literals, both
walks probe the hop limits from 1 on without a gap, number their hops the same way, mark the
last one only as reached, end before `max_hops` only there, and build valid hops; and they are
the same walk. -/
theorem walk_spec {transport : HopTransport} {names : ℕ → Text → HostByAddr}
    {settings : TracerouteSettings} (hdiscovery : transport.supportsTtlDiscovery = true)
    (hliteral : ∀ call, LiteralSource (transport.probe call)) :
    ∃ w, walk transport names settings = .ok w ∧ awalk transport names settings = .ok w ∧
      w.probes = (List.range' 1 w.hops.length).map (hopProbe settings) ∧
      w.hops.map (·.ttl) = List.range' 1 w.hops.length ∧
      w.hops.length ≤ settings.maxHops ∧
      (∀ hop ∈ w.hops.dropLast, hop.reached = false) ∧
      (w.hops.length < settings.maxHops → ∃ hop ∈ w.hops.getLast?, hop.reached = true) ∧
      ∀ hop ∈ w.hops, hop.check = .ok () ∧ HopOf hop.ttl (outcomeAt transport settings hop.ttl)
        (hostnameAt transport names settings hop.ttl) hop := by
  have hbounds : ∀ ttl ∈ List.range' 1 settings.maxHops, 1 ≤ ttl ∧ ttl ≤ MAX_HOP_LIMIT := by
    intro ttl httl
    have hmax := settings.hops_bounds.2
    rw [List.mem_range'_1] at httl
    omega
  obtain ⟨w, hw, hpath⟩ := pathOf_walkFrom names hbounds
    (fun ttl _ => hliteral (hopProbe settings ttl))
  have hlength := hpath.length_le
  rw [List.length_range'] at hlength
  have htake : (List.range' 1 settings.maxHops).take w.hops.length =
      List.range' 1 w.hops.length := by
    obtain ⟨n, hn⟩ := Nat.exists_eq_add_of_le hlength
    rw [hn, ← List.range'_append_1, List.take_left' List.length_range']
  refine ⟨w, ?_, ?_, ?_, ?_, hlength, hpath.onlyLast, ?_, ?_⟩
  · rw [walk, hdiscovery]
    exact hw
  · rw [awalk, hdiscovery]
    exact (awalkFrom_eq names _).trans hw
  · rw [hpath.probes, htake]
  · rw [hpath.numbered, htake]
  · intro hlt
    exact hpath.stopped (by rwa [List.length_range'])
  · intro hop hhop
    exact ⟨hop.valid, hpath.hopOf hop hhop⟩

/-- A router at the first hop, the target at the second. -/
def twoHops : HopTransport where
  supportsTtlDiscovery := true
  probe call :=
    if call.ttl = 1 then .answer 1 "192.0.2.1".toList true (by decide)
    else .answer 2 "192.0.2.9".toList false (by decide)

/-- The two hops are found, the second as the target, and the walk ends there. -/
theorem walk_twoHops : ∃ w, walk twoHops (fun _ _ => .name "gateway".toList)
      ⟨30, 2, true, by decide, by decide⟩ = .ok w ∧
    w.hops.map (·.toTraceHopData) =
      [⟨1, some "192.0.2.1".toList, some 1, false, some "gateway".toList⟩,
        ⟨2, some "192.0.2.9".toList, some 2, true, some "gateway".toList⟩] ∧
    w.probes = (List.range' 1 2).map (hopProbe ⟨30, 2, true, by decide, by decide⟩) := by
  have hliteral : ∀ call, LiteralSource (twoHops.probe call) := by
    intro call source hsource
    rw [twoHops] at hsource
    dsimp only at hsource
    split at hsource
    · rw [← Option.some.inj hsource]
      exact ⟨_, rfl⟩
    · rw [← Option.some.inj hsource]
      exact ⟨_, rfl⟩
  obtain ⟨w, hw, _, hprobes, _⟩ := @walk_spec twoHops (fun _ _ => .name "gateway".toList)
    ⟨30, 2, true, by decide, by decide⟩ rfl hliteral
  have hfound : (walk twoHops (fun _ _ => .name "gateway".toList)
      ⟨30, 2, true, by decide, by decide⟩).map (fun w => w.hops.map (·.toTraceHopData)) =
        .ok [⟨1, some "192.0.2.1".toList, some 1, false, some "gateway".toList⟩,
          ⟨2, some "192.0.2.9".toList, some 2, true, some "gateway".toList⟩] := by
    decide +kernel
  rw [hw, Except.map, Except.ok.injEq] at hfound
  have hlength : w.hops.length = 2 := by
    rw [← List.length_map (·.toTraceHopData), hfound]
    rfl
  rw [hlength] at hprobes
  exact ⟨w, hw, hfound, hprobes⟩

end IPScout
