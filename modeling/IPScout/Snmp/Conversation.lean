import IPScout.Base.Outcome
import IPScout.Snmp.System

/-!
# Conversations with an agent

`Conversed` is the course of one conversation as a relation: it asks, hears
nothing that counts or a reply, and either ends there or asks again without the
value an SNMPv1 agent says it lacks.  `converseFrom_iff` says it is exactly the
function of `System.lean`, and what holds of every conversation is proved by
induction on its course.

The ids a conversation draws decide what it sets aside.  `SameButJunk` relates two
lists of arrivals that differ only in that.
-/

namespace IPScout

open Base Base.Octets Base.Text Ber

/-! ### The course of a conversation -/

/-- A conversation from one round on: what is wanted, what arrives, the result and
the requests sent. -/
inductive Conversed (host : Text) (settings : SnmpSettings) (ids : ℕ → RequestId) :
    ℕ → List SystemValue → List SnmpArrival → SnmpSystem → List SnmpRequest → Prop
  | done {round : ℕ} {arrivals : List SnmpArrival} {r : SnmpSystem}
      (hr : (noValues host .ANSWERED none).make = .ok r) : Conversed host settings ids round []
        arrivals r []
  | unheard {round : ℕ} {wanted : List SystemValue} {arrivals rest : List SnmpArrival}
      {datagram : Octets} {heard : Heard} {r : SnmpSystem} (hwanted : wanted ≠ [])
      (hask : encodeGetRequest settings.version.wireNumber (encodeUtf8 settings.community)
        (ids round).val (wanted.map SystemValue.oid) = .ok datagram)
      (hlisten : listen (ids round).val none arrivals = (heard, rest))
      (hheard : ∀ reply, heard ≠ .reply reply) (hr : unanswered host heard settings = .ok r) :
      Conversed host settings ids round wanted arrivals r [⟨ids round, wanted, datagram⟩]
  | answered {round : ℕ} {wanted : List SystemValue} {arrivals rest : List SnmpArrival}
      {datagram : Octets} {reply : SnmpMessage} {r : SnmpSystem} (hwanted : wanted ≠ [])
      (hask : encodeGetRequest settings.version.wireNumber (encodeUtf8 settings.community)
        (ids round).val (wanted.map SystemValue.oid) = .ok datagram)
      (hlisten : listen (ids round).val none arrivals = (.reply reply, rest))
      (hknown : unknownInV1 reply wanted settings.version = none)
      (hr : IPScout.answered host reply wanted settings.version = .ok r) :
      Conversed host settings ids round wanted arrivals r [⟨ids round, wanted, datagram⟩]
  | dropped {round : ℕ} {wanted : List SystemValue} {arrivals rest : List SnmpArrival}
      {datagram : Octets} {reply : SnmpMessage} {unknown : SystemValue} {r : SnmpSystem}
      {requests : List SnmpRequest} (hwanted : wanted ≠ [])
      (hask : encodeGetRequest settings.version.wireNumber (encodeUtf8 settings.community)
        (ids round).val (wanted.map SystemValue.oid) = .ok datagram)
      (hlisten : listen (ids round).val none arrivals = (.reply reply, rest))
      (hunknown : unknownInV1 reply wanted settings.version = some unknown)
      (more : Conversed host settings ids (round + 1) (without wanted unknown) rest r requests) :
      Conversed host settings ids round wanted arrivals r
        (⟨ids round, wanted, datagram⟩ :: requests)

variable {host : Text} {settings : SnmpSettings} {ids : ℕ → RequestId}

theorem map_pair_eq_ok {x : Except PyError SnmpSystem} {r : SnmpSystem}
    {sent requests : List SnmpRequest} :
    x.map (·, sent) = .ok (r, requests) ↔ x = .ok r ∧ sent = requests := by
  cases x with
  | error e => simp [Except.map]
  | ok a => simp [Except.map]

theorem conversed_of_converseFrom {round : ℕ} {wanted : List SystemValue}
    {arrivals : List SnmpArrival} {r : SnmpSystem} {requests : List SnmpRequest} :
    converseFrom host settings ids round wanted arrivals = .ok (r, requests) →
      Conversed host settings ids round wanted arrivals r requests := by
  -- each round asks for fewer values
  induction hn : wanted.length using Nat.strong_induction_on
    generalizing round wanted arrivals requests with
  | _ n ih =>
    intro h
    rw [converseFrom] at h
    split at h
    · next hempty =>
      obtain ⟨hr, rfl⟩ := map_pair_eq_ok.mp h
      subst hempty
      exact .done hr
    · next hwanted =>
      split at h
      · simp at h
      · next datagram hask =>
        dsimp only at h
        split at h
        · next reply rest hlisten =>
          split at h
          · next hknown =>
            obtain ⟨hr, rfl⟩ := map_pair_eq_ok.mp h
            exact .answered hwanted hask hlisten hknown hr
          · next unknown hunknown =>
            have hlt := length_without_lt (mem_of_unknownInV1 hunknown)
            cases hmore : converseFrom host settings ids (round + 1) (without wanted unknown)
                rest with
            | error e =>
              rw [hmore] at h
              simp [Except.map] at h
            | ok result =>
              rw [hmore] at h
              have hpair := Except.ok.inj h
              simp only [Prod.mk.injEq] at hpair
              obtain ⟨rfl, rfl⟩ := hpair
              exact .dropped hwanted hask hlisten hunknown (ih _ (hn ▸ hlt) rfl hmore)
        · next heard rest hheard hlisten =>
          obtain ⟨hr, rfl⟩ := map_pair_eq_ok.mp h
          exact .unheard hwanted hask hlisten hheard hr

theorem Conversed.converseFrom_eq {round : ℕ} {wanted : List SystemValue}
    {arrivals : List SnmpArrival} {r : SnmpSystem} {requests : List SnmpRequest} :
    Conversed host settings ids round wanted arrivals r requests →
      converseFrom host settings ids round wanted arrivals = .ok (r, requests) := by
  intro h
  induction h with
  | done hr =>
    rw [converseFrom, if_pos rfl]
    exact map_pair_eq_ok.mpr ⟨hr, rfl⟩
  | unheard hwanted hask hlisten hheard hr =>
    rw [converseFrom, if_neg hwanted, hask]
    dsimp only
    rw [hlisten]
    split
    · next reply rest heq =>
      exact absurd (congrArg Prod.fst heq) (hheard reply)
    · next heard rest _ heq =>
      simp only [Prod.mk.injEq] at heq
      rw [← heq.1]
      exact map_pair_eq_ok.mpr ⟨hr, rfl⟩
  | answered hwanted hask hlisten hknown hr =>
    rw [converseFrom, if_neg hwanted, hask]
    dsimp only
    rw [hlisten]
    dsimp only
    split
    · exact map_pair_eq_ok.mpr ⟨hr, rfl⟩
    · next unknown hunknown =>
      rw [hknown] at hunknown
      simp at hunknown
  | dropped hwanted hask hlisten hunknown more ih =>
    rw [converseFrom, if_neg hwanted, hask]
    dsimp only
    rw [hlisten]
    dsimp only
    split
    · next hknown =>
      rw [hunknown] at hknown
      simp at hknown
    · next unknown hunknown' =>
      rw [hunknown] at hunknown'
      have heq := Option.some.inj hunknown'
      subst heq
      rw [ih]
      rfl

/-- **The course of a conversation is what the function computes.** -/
theorem converseFrom_iff {round : ℕ} {wanted : List SystemValue} {arrivals : List SnmpArrival}
    {r : SnmpSystem} {requests : List SnmpRequest} :
    converseFrom host settings ids round wanted arrivals = .ok (r, requests) ↔
      Conversed host settings ids round wanted arrivals r requests :=
  ⟨conversed_of_converseFrom, Conversed.converseFrom_eq⟩

namespace Conversed

variable {round : ℕ} {wanted : List SystemValue} {arrivals : List SnmpArrival} {r : SnmpSystem}
  {requests : List SnmpRequest}

/-! ### The requests -/

/-- A request asks for what it says, under its id. -/
def Asks (settings : SnmpSettings) (request : SnmpRequest) : Prop :=
  request.wanted ≠ [] ∧ encodeGetRequest settings.version.wireNumber
    (encodeUtf8 settings.community) request.requestId.val (request.wanted.map SystemValue.oid)
    = .ok request.datagram

/-- What the next request asks for: some of the same values, in the same order. -/
def AsksLess (first next : SnmpRequest) : Prop :=
  next.wanted.Sublist first.wanted ∧ next.wanted ≠ first.wanted

theorem wanted_of_cons {request : SnmpRequest}
    (h : Conversed host settings ids round wanted arrivals r (request :: requests)) :
    request.wanted = wanted ∧ wanted ≠ [] := by
  cases h with
  | unheard hwanted => exact ⟨rfl, hwanted⟩
  | answered hwanted => exact ⟨rfl, hwanted⟩
  | dropped hwanted => exact ⟨rfl, hwanted⟩

theorem requests_ne_nil (h : Conversed host settings ids round wanted arrivals r requests)
    (hwanted : wanted ≠ []) : requests ≠ [] := by
  rintro rfl
  cases h
  exact hwanted rfl

/-- **Each request asks for less than the one before.** -/
theorem isChain_requests (h : Conversed host settings ids round wanted arrivals r requests) :
    requests.IsChain AsksLess := by
  induction h with
  | done => exact .nil
  | unheard => exact .singleton _
  | answered => exact .singleton _
  | @dropped round wanted arrivals rest datagram reply unknown r requests hwanted hask hlisten
      hunknown more ih =>
    rcases requests with _ | ⟨next, requests⟩
    · exact .singleton _
    · refine .cons_cons ?_ ih
      rw [AsksLess, more.wanted_of_cons.1]
      refine ⟨List.filter_sublist, ?_⟩
      intro heq
      have hlt := length_without_lt (mem_of_unknownInV1 hunknown)
      dsimp only at heq
      rw [heq] at hlt
      omega

theorem length_requests (h : Conversed host settings ids round wanted arrivals r requests) :
    requests.length ≤ wanted.length := by
  induction h with
  | done => exact Nat.le_refl 0
  | unheard hwanted => exact List.length_pos_iff.mpr hwanted
  | answered hwanted => exact List.length_pos_iff.mpr hwanted
  | dropped _ _ _ hunknown _ ih =>
    have hlt := length_without_lt (mem_of_unknownInV1 hunknown)
    rw [List.length_cons]
    omega

theorem asks_of_mem (h : Conversed host settings ids round wanted arrivals r requests) :
    ∀ request ∈ requests, Asks settings request := by
  induction h with
  | done => intro request hmem; simp at hmem
  | unheard hwanted hask =>
    intro request hmem
    rw [List.mem_singleton.mp hmem]
    exact ⟨hwanted, hask⟩
  | answered hwanted hask =>
    intro request hmem
    rw [List.mem_singleton.mp hmem]
    exact ⟨hwanted, hask⟩
  | dropped hwanted hask _ _ _ ih =>
    intro request hmem
    rcases List.mem_cons.mp hmem with rfl | hmem
    · exact ⟨hwanted, hask⟩
    · exact ih request hmem

end Conversed

/-! ### What is set aside -/

/-- What waiting for the reply to a request sets aside: a malformed datagram, or a
reply to another request. -/
def SetAside (requestId : ℤ) : SnmpArrival → Prop
  | .error _ => False
  | .datagram data => ∀ reply, parseMessage data = .ok reply → reply.requestId ≠ requestId

/-- Two lists of arrivals that differ, from one round on, only in what is set aside.
Whatever is not set aside ends the round. -/
inductive SameButJunk (ids : ℕ → RequestId) : ℕ → List SnmpArrival → List SnmpArrival → Prop
  | nil (round : ℕ) : SameButJunk ids round [] []
  | left {round : ℕ} {junk : SnmpArrival} {as bs : List SnmpArrival}
      (hjunk : SetAside (ids round).val junk) (more : SameButJunk ids round as bs) :
      SameButJunk ids round (junk :: as) bs
  | right {round : ℕ} {junk : SnmpArrival} {as bs : List SnmpArrival}
      (hjunk : SetAside (ids round).val junk) (more : SameButJunk ids round as bs) :
      SameButJunk ids round as (junk :: bs)
  | heard {round : ℕ} {arrival : SnmpArrival} {as bs : List SnmpArrival}
      (hheard : ¬ SetAside (ids round).val arrival) (more : SameButJunk ids (round + 1) as bs) :
      SameButJunk ids round (arrival :: as) (arrival :: bs)

theorem listen_setAside {requestId : ℤ} {junk : SnmpArrival} (h : SetAside requestId junk)
    (discarded : Option Message) (arrivals : List SnmpArrival) :
    ∃ reason, listen requestId discarded (junk :: arrivals)
      = listen requestId (some reason) arrivals := by
  cases junk with
  | error e => exact absurd h id
  | datagram data =>
    rw [listen]
    split
    · exact ⟨_, rfl⟩
    · next reply hparse =>
      rw [if_pos (h reply hparse)]
      exact ⟨_, rfl⟩

theorem listen_heard {requestId : ℤ} {arrival : SnmpArrival}
    (h : ¬ SetAside requestId arrival) :
    (∃ reply, ∀ discarded arrivals, listen requestId discarded (arrival :: arrivals)
      = (.reply reply, arrivals)) ∨
    ∀ discarded arrivals reply rest, listen requestId discarded (arrival :: arrivals)
      ≠ (.reply reply, rest) := by
  cases arrival with
  | error e =>
    right
    intro discarded arrivals reply rest
    rw [listen]
    split
    · simp
    · simp
  | datagram data =>
    left
    simp only [SetAside, not_forall, not_not] at h
    obtain ⟨reply, hparse, hid⟩ := h
    refine ⟨reply, ?_⟩
    intro discarded arrivals
    rw [listen, hparse]
    dsimp only
    rw [if_neg (by simpa using hid)]

/-- **A reply that is heard is heard whatever is set aside before it.** -/
theorem listen_sameButJunk {round : ℕ} {as bs : List SnmpArrival}
    (h : SameButJunk ids round as bs) : ∀ {discarded : Option Message} {reply : SnmpMessage}
    {rest : List SnmpArrival}, listen (ids round).val discarded as = (.reply reply, rest) →
    ∀ discarded', ∃ rest', listen (ids round).val discarded' bs = (.reply reply, rest') ∧
      SameButJunk ids (round + 1) rest rest' := by
  induction h with
  | nil =>
    intro discarded reply rest hlisten
    simp [listen] at hlisten
  | left hjunk _ ih =>
    intro discarded reply rest hlisten discarded'
    obtain ⟨reason, heq⟩ := listen_setAside hjunk discarded _
    rw [heq] at hlisten
    exact ih hlisten discarded'
  | right hjunk _ ih =>
    intro discarded reply rest hlisten discarded'
    obtain ⟨reason, heq⟩ := listen_setAside hjunk discarded' _
    rw [heq]
    exact ih hlisten _
  | @heard round arrival as bs hheard more _ =>
    intro discarded reply rest hlisten discarded'
    rcases listen_heard hheard with ⟨found, hfound⟩ | hnone
    · rw [hfound] at hlisten
      simp only [Prod.mk.injEq, Heard.reply.injEq] at hlisten
      obtain ⟨rfl, rfl⟩ := hlisten
      exact ⟨bs, hfound _ _, more⟩
    · exact absurd hlisten (hnone _ _ _ _)

/-! ### Results -/

theorem SystemData.val_of_make {d : SystemData} {r : SnmpSystem} (h : d.make = .ok r) :
    r.val = d := by
  rw [SystemData.make] at h
  split at h
  · split at h
    · split at h
      · split at h
        · split at h
          · rw [← Except.ok.inj h]
          · simp at h
        · simp at h
      · simp at h
    · simp at h
  · simp at h

theorem state_of_unanswered {heard : Heard} {r : SnmpSystem}
    (h : unanswered host heard settings = .ok r) : r.val.state ≠ .ANSWERED := by
  cases heard with
  | nothing discarded =>
    cases discarded with
    | none => rw [SystemData.val_of_make h]; simp [noValues]
    | some discarded => rw [SystemData.val_of_make h]; simp [noValues]
  | reply reply => rw [SystemData.val_of_make h]; simp [noValues]
  | refused => rw [SystemData.val_of_make h]; simp [noValues]
  | unreachable reason => rw [SystemData.val_of_make h]; simp [noValues]

/-- **What is set aside never changes an answer.** -/
theorem Conversed.sameButJunk {round : ℕ} {wanted : List SystemValue}
    {as bs : List SnmpArrival} {r : SnmpSystem} {requests : List SnmpRequest}
    (h : Conversed host settings ids round wanted as r requests) (hr : r.val.state = .ANSWERED)
    (hjunk : SameButJunk ids round as bs) :
    Conversed host settings ids round wanted bs r requests := by
  induction h generalizing bs with
  | done hmake => exact .done hmake
  | unheard _ _ _ _ hunanswered => exact absurd hr (state_of_unanswered hunanswered)
  | answered hwanted hask hlisten hknown hanswered =>
    obtain ⟨rest', hlisten', _⟩ := listen_sameButJunk hjunk hlisten none
    exact .answered hwanted hask hlisten' hknown hanswered
  | dropped hwanted hask hlisten hunknown _ ih =>
    obtain ⟨rest', hlisten', hmore⟩ := listen_sameButJunk hjunk hlisten none
    exact .dropped hwanted hask hlisten' hunknown (ih hr hmore)

/-! ### Where a value comes from -/

/-- A value that was read is the one its octets hold. -/
def Decoded (d : SystemData) (body : Octets) : SystemValue → Prop
  | .DESCRIPTION => d.description = some (decodeUtf8 body)
  | .OBJECT_ID => ∃ t, decodeOid body = .ok t ∧ d.objectId = some t
  | .UPTIME => ∃ seconds, ticks body = .ok seconds ∧ d.uptimeSeconds = some seconds
  | .NAME => d.name = some (decodeUtf8 body)

/-- A value that is not there. -/
def Absent (d : SystemData) : SystemValue → Prop
  | .DESCRIPTION => d.description = none
  | .OBJECT_ID => d.objectId = none
  | .UPTIME => d.uptimeSeconds = none
  | .NAME => d.name = none

theorem valueBody_some {kind : SystemValue} {bindings : Dict SystemValue VarBind}
    {version : SnmpVersion} {body : Octets}
    (h : valueBody kind bindings version = .ok (some body)) :
    ∃ bind, bindings.get? kind = some bind ∧ bind.tag = kind.tag ∧ body = bind.value := by
  rw [valueBody] at h
  split at h
  · simp at h
  · next bind hbind =>
    split at h
    · simp at h
    · split at h
      · simp at h
      · next htag => exact ⟨bind, hbind, not_not.mp htag, (Option.some.inj (Except.ok.inj h)).symm⟩

theorem valueBody_none {kind : SystemValue} {bindings : Dict SystemValue VarBind}
    {version : SnmpVersion} (h : valueBody kind bindings version = .ok none) :
    bindings.get? kind = none ∨
      ∃ bind, bindings.get? kind = some bind ∧ bind.tag ∈ EXCEPTION_TAGS ∧ version = .V2C := by
  rw [valueBody] at h
  split at h
  · next hnone => exact Or.inl hnone
  · next bind hbind =>
    split at h
    · next hexception => exact Or.inr ⟨bind, hbind, hexception⟩
    · split at h
      · simp at h
      · simp at h

/-- **Each value is decoded from its own octets**, or is not there. -/
theorem decodeValues_ok {bindings : Dict SystemValue VarBind} {version : SnmpVersion}
    {d : SystemData} (h : decodeValues host bindings version = .ok d) (kind : SystemValue) :
    ∃ body, valueBody kind bindings version = .ok body ∧
      (∀ octets, body = some octets → Decoded d octets kind) ∧ (body = none → Absent d kind) := by
  rw [decodeValues] at h
  obtain ⟨description, hdescription, h⟩ := bind_eq_ok.mp h
  obtain ⟨identifier, hidentifier, h⟩ := bind_eq_ok.mp h
  obtain ⟨objectId, hobjectId, h⟩ := bind_eq_ok.mp h
  obtain ⟨time, htime, h⟩ := bind_eq_ok.mp h
  obtain ⟨uptime, huptime, h⟩ := bind_eq_ok.mp h
  obtain ⟨name, hname, h⟩ := bind_eq_ok.mp h
  have hd := Except.ok.inj h
  subst hd
  cases kind with
  | DESCRIPTION =>
    refine ⟨description, hdescription, ?_, ?_⟩
    · rintro octets rfl
      rfl
    · rintro rfl
      rfl
  | OBJECT_ID =>
    refine ⟨identifier, hidentifier, ?_, ?_⟩
    · rintro octets rfl
      rw [objectIdText] at hobjectId
      split at hobjectId
      · simp at hobjectId
      · next t ht => exact ⟨t, ht, (Except.ok.inj hobjectId).symm⟩
    · rintro rfl
      exact (Except.ok.inj hobjectId).symm
  | UPTIME =>
    refine ⟨time, htime, ?_, ?_⟩
    · rintro octets rfl
      rw [uptimeSeconds] at huptime
      cases hticks : ticks octets with
      | error e =>
        rw [hticks] at huptime
        simp [Except.map] at huptime
      | ok seconds =>
        rw [hticks] at huptime
        exact ⟨seconds, hticks, (Except.ok.inj huptime).symm⟩
    · rintro rfl
      exact (Except.ok.inj huptime).symm
  | NAME =>
    refine ⟨name, hname, ?_, ?_⟩
    · rintro octets rfl
      rfl
    · rintro rfl
      rfl

/-- A reply that is an answer: a response in the version asked in, without an error,
that names exactly what was asked for. -/
structure IsAnswer (settings : SnmpSettings) (wanted : List SystemValue) (reply : SnmpMessage) :
    Prop where
  pduTag : reply.pduTag = GET_RESPONSE
  version : reply.version = settings.version.wireNumber
  errorStatus : reply.errorStatus = 0
  oids : reply.bindings.map VarBind.oid = wanted.map SystemValue.oid

theorem isAnswer_of_check {reply : SnmpMessage} {wanted : List SystemValue}
    (h : check reply wanted settings.version = .ok ()) : IsAnswer settings wanted reply := by
  rw [check] at h
  split at h
  · simp at h
  · next htag =>
    split at h
    · simp at h
    · next hversion =>
      split at h
      · simp at h
      · next hstatus =>
        split at h
        · simp at h
        · next hoids =>
          exact ⟨not_not.mp htag, not_not.mp hversion, not_not.mp hstatus, not_not.mp hoids⟩

theorem oid_of_mem_zipStrict {wanted : List SystemValue} {binds : List VarBind}
    {pairs : List (SystemValue × VarBind)} (h : zipStrict wanted binds = some pairs)
    (hoids : binds.map VarBind.oid = wanted.map SystemValue.oid) :
    pairs.map Prod.fst = wanted ∧
      ∀ kind bind, (kind, bind) ∈ pairs → bind ∈ binds ∧ bind.oid = kind.oid := by
  induction wanted generalizing binds pairs with
  | nil =>
    cases binds with
    | nil =>
      rw [← Option.some.inj h]
      simp
    | cons bind binds => simp at hoids
  | cons kind wanted ih =>
    cases binds with
    | nil => simp at hoids
    | cons bind binds =>
      rw [List.map_cons, List.map_cons, List.cons_eq_cons] at hoids
      rw [zipStrict] at h
      obtain ⟨more, hmore, rfl⟩ := Option.map_eq_some_iff.mp h
      obtain ⟨hkinds, hpairs⟩ := ih hmore hoids.2
      refine ⟨by rw [List.map_cons, hkinds], ?_⟩
      intro k b hmem
      rcases List.mem_cons.mp hmem with heq | hmem
      · simp only [Prod.mk.injEq] at heq
        obtain ⟨rfl, rfl⟩ := heq
        exact ⟨List.mem_cons_self, hoids.1⟩
      · exact ⟨List.mem_cons_of_mem _ (hpairs k b hmem).1, (hpairs k b hmem).2⟩

/-- **What an answer says of a value that was asked for**: the octets of its own
binding, or that the agent does not have it. -/
def Told (settings : SnmpSettings) (d : SystemData) (reply : SnmpMessage) (kind : SystemValue) :
    Prop :=
  ∃ bind ∈ reply.bindings, bind.oid = kind.oid ∧
    ((bind.tag = kind.tag ∧ Decoded d bind.value kind) ∨
      (Absent d kind ∧ settings.version = .V2C ∧ bind.tag ∈ EXCEPTION_TAGS))

theorem told_of_answered {reply : SnmpMessage} {wanted : List SystemValue} {r : SnmpSystem}
    (hnodup : wanted.Nodup) (h : answered host reply wanted settings.version = .ok r)
    (hr : r.val.state = .ANSWERED) :
    IsAnswer settings wanted reply ∧ (∀ kind ∈ wanted, Told settings r.val reply kind) ∧
      ∀ kind, kind ∉ wanted → Absent r.val kind := by
  rw [answered] at h
  split at h
  · rw [SystemData.val_of_make h] at hr
    simp [noValues] at hr
  · next hcheck =>
    have hanswer := isAnswer_of_check hcheck
    split at h
    · simp at h
    · next pairs hpairs =>
      split at h
      · rw [SystemData.val_of_make h] at hr
        simp [noValues] at hr
      · next d hd =>
        rw [SystemData.val_of_make h]
        obtain ⟨hkinds, hmem⟩ := oid_of_mem_zipStrict hpairs hanswer.oids
        have hentries : (Dict.ofPairs pairs).entries = pairs :=
          Dict.entries_ofPairs (by rw [hkinds]; exact hnodup)
        have hkeys : (Dict.ofPairs pairs).keys = wanted := by
          rw [Dict.keys, hentries, hkinds]
        refine ⟨hanswer, ?_, ?_⟩
        · intro kind hkind
          obtain ⟨bind, hbind⟩ := Dict.mem_keys_iff.mp (hkeys ▸ hkind)
          have hpair := Dict.get?_eq_some_iff.mp hbind
          rw [hentries] at hpair
          refine ⟨bind, (hmem kind bind hpair).1, (hmem kind bind hpair).2, ?_⟩
          obtain ⟨body, hbody, hsome, hnone⟩ := decodeValues_ok hd kind
          cases body with
          | some octets =>
            obtain ⟨found, hfound, htag, rfl⟩ := valueBody_some hbody
            rw [hbind] at hfound
            have heq := Option.some.inj hfound
            subst heq
            exact Or.inl ⟨htag, hsome _ rfl⟩
          | none =>
            rcases valueBody_none hbody with hmissing | ⟨found, hfound, htag, hversion⟩
            · rw [hbind] at hmissing
              simp at hmissing
            · rw [hbind] at hfound
              have heq := Option.some.inj hfound
              subst heq
              exact Or.inr ⟨hnone rfl, hversion, htag⟩
        · intro kind hkind
          obtain ⟨body, hbody, hsome, hnone⟩ := decodeValues_ok hd kind
          have hmissing : (Dict.ofPairs pairs).get? kind = none :=
            Dict.get?_eq_none_iff.mpr (hkeys ▸ hkind)
          rw [valueBody, hmissing] at hbody
          exact hnone (Except.ok.inj hbody).symm

/-- A reply that arrived. -/
def Arrived (arrivals : List SnmpArrival) (reply : SnmpMessage) : Prop :=
  ∃ data, .datagram data ∈ arrivals ∧ parseMessage data = .ok reply

theorem arrived_of_listen {requestId : ℤ} {discarded : Option Message}
    {arrivals rest : List SnmpArrival} {reply : SnmpMessage}
    (h : listen requestId discarded arrivals = (.reply reply, rest)) :
    Arrived arrivals reply ∧ reply.requestId = requestId ∧ rest ⊆ arrivals := by
  induction arrivals generalizing discarded with
  | nil => simp [listen] at h
  | cons arrival arrivals ih =>
    by_cases haside : SetAside requestId arrival
    · obtain ⟨reason, heq⟩ := listen_setAside haside discarded arrivals
      rw [heq] at h
      obtain ⟨⟨data, hdata, hparse⟩, hid, hrest⟩ := ih h
      exact ⟨⟨data, List.mem_cons_of_mem _ hdata, hparse⟩, hid,
        fun a ha => List.mem_cons_of_mem _ (hrest ha)⟩
    · cases arrival with
      | error e =>
        rw [listen] at h
        split at h
        · simp at h
        · simp at h
      | datagram data =>
        simp only [SetAside, not_forall, not_not] at haside
        obtain ⟨found, hparse, hid⟩ := haside
        rw [listen, hparse] at h
        dsimp only at h
        rw [if_neg (by simpa using hid)] at h
        simp only [Prod.mk.injEq, Heard.reply.injEq] at h
        obtain ⟨rfl, rfl⟩ := h
        exact ⟨⟨data, List.mem_cons_self, hparse⟩, hid, fun a ha => List.mem_cons_of_mem _ ha⟩

/-- The reply a result is read from: it answers the last request. -/
structure AnswersLast (settings : SnmpSettings) (arrivals : List SnmpArrival)
    (requests : List SnmpRequest) (reply : SnmpMessage) : Prop where
  arrived : Arrived arrivals reply
  last : ∃ last, requests.getLast? = some last ∧ reply.requestId = last.requestId.val ∧
    IsAnswer settings last.wanted reply

/-- A value some SNMPv1 reply to a request named with `noSuchName`. -/
def NamedUnknown (settings : SnmpSettings) (arrivals : List SnmpArrival)
    (requests : List SnmpRequest) (kind : SystemValue) : Prop :=
  settings.version = .V1 ∧ ∃ request ∈ requests, ∃ reply, Arrived arrivals reply ∧
    reply.requestId = request.requestId.val ∧ reply.pduTag = GET_RESPONSE ∧
    reply.errorStatus = NO_SUCH_NAME ∧ 1 ≤ reply.errorIndex ∧
    request.wanted[(reply.errorIndex - 1).toNat]? = some kind

theorem unknownInV1_eq_some {reply : SnmpMessage} {wanted : List SystemValue}
    {version : SnmpVersion} {kind : SystemValue}
    (h : unknownInV1 reply wanted version = some kind) :
    version = .V1 ∧ reply.pduTag = GET_RESPONSE ∧ reply.errorStatus = NO_SUCH_NAME ∧
      1 ≤ reply.errorIndex ∧ wanted[(reply.errorIndex - 1).toNat]? = some kind := by
  rw [unknownInV1] at h
  split at h
  · simp at h
  · next hkind =>
    rw [not_or, not_or, not_not, not_not, not_not] at hkind
    split at h
    · simp at h
    · next hindex => exact ⟨hkind.1, hkind.2.2, hkind.2.1, (not_not.mp hindex).1, h⟩

/-- **Each value of an answered result was read from the reply to the last request, or
is not there**: the agent said it lacks it, in that reply or in an earlier one. -/
theorem Conversed.values {round : ℕ} {wanted : List SystemValue} {arrivals : List SnmpArrival}
    {r : SnmpSystem} {requests : List SnmpRequest}
    (h : Conversed host settings ids round wanted arrivals r requests)
    (hr : r.val.state = .ANSWERED) (hnodup : wanted.Nodup) :
    (∀ kind, kind ∉ wanted → Absent r.val kind) ∧ ∃ answer : Option SnmpMessage,
      (∀ reply, answer = some reply → AnswersLast settings arrivals requests reply) ∧
      ∀ kind ∈ wanted, (∃ reply, answer = some reply ∧ Told settings r.val reply kind) ∨
        (Absent r.val kind ∧ NamedUnknown settings arrivals requests kind) := by
  induction h with
  | done hmake =>
    refine ⟨?_, none, by simp, by simp⟩
    intro kind _
    rw [SystemData.val_of_make hmake]
    cases kind with
    | DESCRIPTION => rfl
    | OBJECT_ID => rfl
    | UPTIME => rfl
    | NAME => rfl
  | unheard _ _ _ _ hunanswered => exact absurd hr (state_of_unanswered hunanswered)
  | answered _ _ hlisten _ hanswered =>
    obtain ⟨hanswer, htold, habsent⟩ := told_of_answered hnodup hanswered hr
    obtain ⟨harrived, hid, _⟩ := arrived_of_listen hlisten
    refine ⟨habsent, some _, ?_, fun kind hkind => Or.inl ⟨_, rfl, htold kind hkind⟩⟩
    intro reply hreply
    have heq := Option.some.inj hreply
    subst heq
    exact ⟨harrived, _, rfl, hid, hanswer⟩
  | @dropped round wanted arrivals rest datagram reply unknown r requests _ _ hlisten hunknown more
      ih =>
    obtain ⟨harrived, hid, hrest⟩ := arrived_of_listen hlisten
    obtain ⟨habsent, answer, hlast, hvalues⟩ := ih hr (hnodup.filter _)
    have harrives : ∀ {reply}, Arrived rest reply → Arrived arrivals reply := by
      rintro reply ⟨data, hdata, hparse⟩
      exact ⟨data, hrest hdata, hparse⟩
    have hout : ∀ kind, kind ∉ without wanted unknown ↔ kind ∉ wanted ∨ kind = unknown := by
      intro kind
      rw [without, List.mem_filter, decide_eq_true_iff, not_and_or, not_not]
    refine ⟨fun kind hkind => habsent kind ((hout kind).mpr (Or.inl hkind)), answer, ?_, ?_⟩
    · intro found hfound
      obtain ⟨hfrom, last, hend, hanswers⟩ := hlast found hfound
      refine ⟨harrives hfrom, last, ?_, hanswers⟩
      rw [List.getLast?_cons, hend]
      rfl
    · intro kind hkind
      by_cases hdropped : kind = unknown
      · right
        subst hdropped
        obtain ⟨hversion, htag, hstatus, hone, hindex⟩ := unknownInV1_eq_some hunknown
        exact ⟨habsent kind ((hout kind).mpr (Or.inr rfl)), hversion, _, List.mem_cons_self, reply,
          harrived, hid, htag, hstatus, hone, hindex⟩
      · have hmem : kind ∈ without wanted unknown := by
          by_contra hnot
          rcases (hout kind).mp hnot with hnot | hnot
          · exact hnot hkind
          · exact hdropped hnot
        rcases hvalues kind hmem with htold | ⟨hmissing, hversion, request, hrequest, said, hsaid,
          hrestFacts⟩
        · exact Or.inl htold
        · exact Or.inr ⟨hmissing, hversion, request, List.mem_cons_of_mem _ hrequest, said,
            harrives hsaid, hrestFacts⟩

/-- **What a conversation is, whatever arrives**: at most four requests, the first for
all four values and each later one for less than the one before; a result that is never
an exception; and in an answered one, values read from the one reply to the last
request, whatever was set aside. -/
theorem converse_spec (host : Text) (endpoint : Endpoint) (settings : SnmpSettings) :
    ∃ r requests, converseSnmp host endpoint settings = .ok (r, requests) ∧
      requests.length ≤ 4 ∧ requests.head?.map SnmpRequest.wanted = some SystemValue.all ∧
      requests.IsChain Conversed.AsksLess ∧
      (∀ request ∈ requests, Conversed.Asks settings request) ∧
      (r.val.state = .ANSWERED →
        (∀ arrivals, SameButJunk endpoint.ids 0 endpoint.arrivals arrivals →
          converseSnmp host ⟨endpoint.ids, arrivals⟩ settings = .ok (r, requests)) ∧
        ∃ answer : Option SnmpMessage,
          (∀ reply, answer = some reply →
            AnswersLast settings endpoint.arrivals requests reply) ∧
          ∀ kind, (∃ reply, answer = some reply ∧ Told settings r.val reply kind) ∨
            (Absent r.val kind ∧
              NamedUnknown settings endpoint.arrivals requests kind)) := by
  obtain ⟨⟨r, requests⟩, hr⟩ := converseFrom_ok host settings endpoint.ids 0 SystemValue.all
    endpoint.arrivals
  have hrun := converseFrom_iff.mp hr
  have hne : SystemValue.all ≠ [] := by decide
  have hhead : requests.head?.map SnmpRequest.wanted = some SystemValue.all := by
    rcases requests with _ | ⟨request, requests⟩
    · exact absurd rfl (hrun.requests_ne_nil hne)
    · exact congrArg some hrun.wanted_of_cons.1
  refine ⟨r, requests, hr, hrun.length_requests, hhead, hrun.isChain_requests, hrun.asks_of_mem, ?_⟩
  intro hanswered
  refine ⟨?_, ?_⟩
  · intro arrivals hjunk
    exact converseFrom_iff.mpr (hrun.sameButJunk hanswered hjunk)
  · obtain ⟨_, answer, hlast, hvalues⟩ := hrun.values hanswered (by decide)
    refine ⟨answer, hlast, ?_⟩
    intro kind
    exact hvalues kind (by cases kind <;> decide)

end IPScout
