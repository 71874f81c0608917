import IPScout.Base.Steps
import IPScout.Routes.Message

/-!
# Route lookups at the same time

Any number of calls of `query_route` run in the threads of one process.  Each opens a
routing socket, sends its request and reads until a message is accepted; the kernel
answers each request once, and every message it has to tell goes to every routing
socket that is open, in its own time.

A call knows its answer by the process and by a sequence number that is the same for
every call, so a call that reads the usable answer to another call's request takes it
for its own.  While that does not happen each call returns what the kernel reported
for its own destination (`own_routes_only`); where it does, a plausible wrong route
comes out (`wrong_route`).
-/

namespace IPScout

open Base Base.Octets

/-! ### States -/

/-- A routing message, and the call whose request it answers, if it answers one; that
is nowhere in the message. -/
structure RouteMessage where
  answers : Option ℕ
  data : Octets
  deriving DecidableEq

/-- Where a thread is in a call of `query_route`. -/
inductive RoutePlace
  | idle
  /-- Before `send`; the socket is open. -/
  | opened (packed : Octets) (family : AddressFamily)
  /-- Before another `recv`, after so many. -/
  | reading (reads : ℕ)
  | returned (route : Option RouteInfo)
  deriving DecidableEq

/-- A call: its place, the request it has sent, and what its socket holds. -/
structure RouteCall where
  place : RoutePlace
  request : Option Octets
  /-- Whether the kernel has answered the request. -/
  answered : Bool
  /-- Told to the socket, and not in its queue yet. -/
  coming : List RouteMessage
  queue : List RouteMessage

def RouteCall.isOpen (c : RouteCall) : Bool :=
  match c.place with
  | .opened _ _ => true
  | .reading _ => true
  | _ => false

/-- The calls of one process. -/
structure RouteProcess where
  call : ℕ → RouteCall

namespace RouteProcess

def initial : RouteProcess := ⟨fun _ => ⟨.idle, none, false, [], []⟩⟩

/-- The state in which a call has become another. -/
def setCall (s : RouteProcess) (i : ℕ) (c : RouteCall) : RouteProcess :=
  ⟨Function.update s.call i c⟩

theorem call_setCall_self (s : RouteProcess) (i : ℕ) (c : RouteCall) :
    (s.setCall i c).call i = c := by
  rw [setCall]
  exact Function.update_self i c s.call

theorem call_setCall_of_ne (s : RouteProcess) {i j : ℕ} (c : RouteCall) (h : j ≠ i) :
    (s.setCall i c).call j = s.call j := by
  rw [setCall]
  exact Function.update_of_ne h c s.call

/-- Every open routing socket is told a message. -/
def broadcast (s : RouteProcess) (m : RouteMessage) : RouteProcess :=
  ⟨fun j => if (s.call j).isOpen then { s.call j with coming := (s.call j).coming ++ [m] }
    else s.call j⟩

end RouteProcess

/-! ### Steps -/

def RECEIVE_SIZE : ℕ := 4096

def MAX_REPLY_READS : ℕ := 8

/-- The sequence number of every call. -/
def SEQ : ℕ := 1

/-- What a call makes of one message it reads. -/
def readRoute (env : Interfaces) (pid : ℕ) (m : RouteMessage) : Option RouteInfo :=
  parseRouteReply env (m.data.take RECEIVE_SIZE) (some pid) (some SEQ)

/-- The kernel answers a request by the request: type, process and sequence number are
those of the request. -/
def RepliesTo (request data : Octets) : Prop :=
  RT_MSGHDR_SIZE ≤ data.length ∧
    (RtMsghdr.unpack data).messageType = (RtMsghdr.unpack request).messageType ∧
    (RtMsghdr.unpack data).pid = (RtMsghdr.unpack request).pid ∧
    (RtMsghdr.unpack data).seq = (RtMsghdr.unpack request).seq

/-- A message that is no answer to a route request of the process. -/
def IsForeign (pid : ℕ) (data : Octets) : Prop :=
  data.length < RT_MSGHDR_SIZE ∨ (RtMsghdr.unpack data).messageType ≠ RTM_GET ∨
    (RtMsghdr.unpack data).pid ≠ pid

inductive QueryAction
  | call (i : ℕ) (destination : Text) (family : AddressFamily) (opens : Bool)
  | send (i : ℕ) (sent : Bool)
  /-- The kernel answers the request of a call. -/
  | answer (i : ℕ) (data : Octets)
  /-- The kernel tells of something else. -/
  | foreign (data : Octets)
  /-- A message told reaches a socket's queue. -/
  | deliver (i : ℕ) (m : RouteMessage)
  | recv (i : ℕ)
  /-- `recv` raises. -/
  | fail (i : ℕ)

/-- One step of a process with pid `pid`. -/
inductive QueryStep (env : Interfaces) (pid : ℕ) :
    RouteProcess → QueryAction → RouteProcess → Prop
  | call {s : RouteProcess} {i : ℕ} {destination : Text} {family : AddressFamily} {opens : Bool} :
      (s.call i).place = .idle →
      QueryStep env pid s (.call i destination family opens)
        (s.setCall i { s.call i with
          place := match requireAddress destination family with
            | .error _ => .returned none
            | .ok a => if opens then .opened a.packed family else .returned none })
  | send {s : RouteProcess} {i : ℕ} {packed : Octets} {family : AddressFamily} :
      (s.call i).place = .opened packed family →
      QueryStep env pid s (.send i true)
        (s.setCall i { s.call i with
          place := .reading 0
          request := some (buildRequest pid packed family SEQ) })
  | sendFails {s : RouteProcess} {i : ℕ} {packed : Octets} {family : AddressFamily} :
      (s.call i).place = .opened packed family →
      QueryStep env pid s (.send i false)
        (s.setCall i { s.call i with place := .returned none })
  | answer {s : RouteProcess} {i : ℕ} {request data : Octets} :
      (s.call i).request = some request → (s.call i).answered = false → RepliesTo request data →
      QueryStep env pid s (.answer i data)
        ((s.setCall i { s.call i with answered := true }).broadcast ⟨some i, data⟩)
  | foreign {s : RouteProcess} {data : Octets} : IsForeign pid data →
      QueryStep env pid s (.foreign data) (s.broadcast ⟨none, data⟩)
  | deliver {s : RouteProcess} {i : ℕ} {before after : List RouteMessage} {m : RouteMessage} :
      (s.call i).coming = before ++ m :: after →
      QueryStep env pid s (.deliver i m)
        (s.setCall i { s.call i with
          coming := before ++ after
          queue := (s.call i).queue ++ [m] })
  | recv {s : RouteProcess} {i reads : ℕ} {m : RouteMessage} {rest : List RouteMessage} :
      (s.call i).place = .reading reads → (s.call i).queue = m :: rest →
      QueryStep env pid s (.recv i)
        (s.setCall i { s.call i with
          place := match readRoute env pid m with
            | some route => .returned (some route)
            | none => if reads + 1 < MAX_REPLY_READS then .reading (reads + 1) else .returned none
          queue := rest })
  | fail {s : RouteProcess} {i reads : ℕ} : (s.call i).place = .reading reads →
      QueryStep env pid s (.fail i) (s.setCall i { s.call i with place := .returned none })

/-! ### What the kernel has reported -/

variable {env : Interfaces} {pid : ℕ}

/-- A call has asked for its own destination by this request. -/
def Asked (pid : ℕ) (as : List QueryAction) (i : ℕ) (request : Octets) : Prop :=
  ∃ destination family a, .call i destination family true ∈ as ∧
    requireAddress destination family = .ok a ∧ request = buildRequest pid a.packed family SEQ

/-- The kernel has answered this to what a call has asked. -/
def Reported (pid : ℕ) (as : List QueryAction) (i : ℕ) (data : Octets) : Prop :=
  .answer i data ∈ as ∧ ∃ request, Asked pid as i request ∧ RepliesTo request data

theorem Asked.mono {as : List QueryAction} {i : ℕ} {request : Octets} (h : Asked pid as i request)
    (bs : List QueryAction) : Asked pid (as ++ bs) i request := by
  obtain ⟨destination, family, a, hmem, hread⟩ := h
  exact ⟨destination, family, a, List.mem_append_left bs hmem, hread⟩

theorem Reported.mono {as : List QueryAction} {i : ℕ} {data : Octets} (h : Reported pid as i data)
    (bs : List QueryAction) : Reported pid (as ++ bs) i data := by
  obtain ⟨hmem, request, hasked, hreplies⟩ := h
  exact ⟨List.mem_append_left bs hmem, request, hasked.mono bs, hreplies⟩

/-- A message is what the kernel has reported to the call it answers, or nobody's. -/
def Genuine (pid : ℕ) (as : List QueryAction) (m : RouteMessage) : Prop :=
  match m.answers with
  | some i => Reported pid as i m.data
  | none => IsForeign pid m.data

theorem Genuine.mono {as : List QueryAction} {m : RouteMessage} (h : Genuine pid as m)
    (bs : List QueryAction) : Genuine pid (as ++ bs) m := by
  unfold Genuine at h ⊢
  split
  · next hanswers =>
    rw [hanswers] at h
    exact h.mono bs
  · next hanswers =>
    rw [hanswers] at h
    exact h

/-- What a call has sent is its own request, and what its socket holds is genuine. -/
structure RouteCall.Accounted (pid : ℕ) (as : List QueryAction) (i : ℕ) (c : RouteCall) :
    Prop where
  opened : ∀ packed family, c.place = .opened packed family →
    Asked pid as i (buildRequest pid packed family SEQ)
  request : ∀ request, c.request = some request → Asked pid as i request
  coming : ∀ m ∈ c.coming, Genuine pid as m
  queue : ∀ m ∈ c.queue, Genuine pid as m

namespace RouteCall.Accounted

theorem mono {as : List QueryAction} {i : ℕ} {c : RouteCall} (h : c.Accounted pid as i)
    (bs : List QueryAction) : c.Accounted pid (as ++ bs) i where
  opened packed family hplace := (h.opened packed family hplace).mono bs
  request request hrequest := (h.request request hrequest).mono bs
  coming m hm := (h.coming m hm).mono bs
  queue m hm := (h.queue m hm).mono bs

theorem setPlace {as : List QueryAction} {i : ℕ} {c : RouteCall} (h : c.Accounted pid as i)
    {place : RoutePlace} (hplace : ∀ packed family, place ≠ .opened packed family) :
    { c with place := place }.Accounted pid as i where
  opened packed family hopened := absurd hopened (hplace packed family)
  request := h.request
  coming := h.coming
  queue := h.queue

end RouteCall.Accounted

def RouteProcess.Accounted (pid : ℕ) (as : List QueryAction) (s : RouteProcess) : Prop :=
  ∀ i, (s.call i).Accounted pid as i

namespace RouteProcess.Accounted

theorem setCall {as : List QueryAction} {s : RouteProcess} (h : s.Accounted pid as) {i : ℕ}
    {c : RouteCall} (hc : c.Accounted pid as i) : (s.setCall i c).Accounted pid as := by
  intro j
  by_cases hji : j = i
  · subst hji
    rw [call_setCall_self]
    exact hc
  · rw [call_setCall_of_ne s c hji]
    exact h j

theorem broadcast {as : List QueryAction} {s : RouteProcess} (h : s.Accounted pid as)
    {m : RouteMessage} (hm : Genuine pid as m) : (s.broadcast m).Accounted pid as := by
  intro j
  show (if (s.call j).isOpen then _ else s.call j).Accounted pid as j
  split
  · refine ⟨(h j).opened, (h j).request, ?_, (h j).queue⟩
    intro n hn
    rcases List.mem_append.mp hn with hn | hn
    · exact (h j).coming n hn
    · rw [List.mem_singleton.mp hn]
      exact hm
  · exact h j

/-- **Every step keeps account of who has asked what.** -/
theorem step {as : List QueryAction} {s t : RouteProcess} {a : QueryAction}
    (h : s.Accounted pid as) (hstep : QueryStep env pid s a t) : t.Accounted pid (as ++ [a]) := by
  have hs : s.Accounted pid (as ++ [a]) := fun i => (h i).mono [a]
  have hlast : a ∈ as ++ [a] := List.mem_append_right _ (List.mem_singleton_self a)
  cases hstep with
  | @call i destination family opens _ =>
    apply hs.setCall
    cases hread : requireAddress destination family with
    | error e => exact (hs i).setPlace (by simp)
    | ok address =>
      cases opens with
      | false => exact (hs i).setPlace (by simp)
      | true =>
        refine ⟨?_, (hs i).request, (hs i).coming, (hs i).queue⟩
        intro packed family' hopened
        simp only [if_true, RoutePlace.opened.injEq] at hopened
        obtain ⟨rfl, rfl⟩ := hopened
        exact ⟨destination, _, address, hlast, hread, rfl⟩
  | @send i packed family hopened =>
    apply hs.setCall
    refine ⟨by simp, ?_, (hs i).coming, (hs i).queue⟩
    intro request hrequest
    rw [← Option.some.inj hrequest]
    exact (hs i).opened packed family hopened
  | sendFails | fail => exact hs.setCall ((hs _).setPlace (by simp))
  | @answer i request data hrequest _ hreplies =>
    apply RouteProcess.Accounted.broadcast
    · exact hs.setCall ⟨(hs i).opened, (hs i).request, (hs i).coming, (hs i).queue⟩
    · exact ⟨hlast, request, (hs i).request request hrequest, hreplies⟩
  | foreign hforeign => exact hs.broadcast hforeign
  | @deliver i before after m hcoming =>
    have hmem : ∀ n, n ∈ before ∨ n = m ∨ n ∈ after → Genuine pid (as ++ [.deliver i m]) n := by
      intro n hn
      apply (hs i).coming
      rw [hcoming, List.mem_append, List.mem_cons]
      exact hn
    refine hs.setCall ⟨(hs i).opened, (hs i).request, ?_, ?_⟩
    · intro n hn
      rcases List.mem_append.mp hn with hn | hn
      · exact hmem n (Or.inl hn)
      · exact hmem n (Or.inr (Or.inr hn))
    · intro n hn
      rcases List.mem_append.mp hn with hn | hn
      · exact (hs i).queue n hn
      · exact hmem n (Or.inr (Or.inl (List.mem_singleton.mp hn)))
  | @recv i reads m rest _ hqueue =>
    refine hs.setCall ⟨?_, (hs i).request, (hs i).coming, ?_⟩
    · intro packed family hopened
      dsimp only at hopened
      split at hopened
      · simp at hopened
      · split at hopened <;> simp at hopened
    · intro n hn
      apply (hs i).queue
      rw [hqueue]
      exact List.mem_cons_of_mem m hn

end RouteProcess.Accounted

theorem accounted_of_run {as : List QueryAction} {s : RouteProcess}
    (h : Steps (QueryStep env pid) .initial as s) : s.Accounted pid as := by
  refine h.trace (I := RouteProcess.Accounted pid) ?_ fun hs hstep => hs.step hstep
  intro i
  exact ⟨by simp [RouteProcess.initial], by simp [RouteProcess.initial],
    by simp [RouteProcess.initial], by simp [RouteProcess.initial]⟩

/-! ### Whose route a call returns -/

theorem isSome_readRoute (m : RouteMessage) :
    (readRoute env pid m).isSome = usable (m.data.take RECEIVE_SIZE) pid SEQ :=
  isSome_parseRouteReply env (m.data.take RECEIVE_SIZE) pid SEQ

theorem readRoute_of_isForeign {m : RouteMessage} (h : IsForeign pid m.data) :
    readRoute env pid m = none := by
  rw [← Option.not_isSome_iff_eq_none, isSome_readRoute, usable, List.take_take,
    unpack_take _ (by decide), List.length_take]
  rcases h with hlength | htype | hpid
  · rw [decide_eq_false (by omega)]
    simp
  · simp [htype]
  · simp [hpid]

theorem returned_of_step {s t : RouteProcess} {a : QueryAction} {i : ℕ} {route : RouteInfo}
    (hstep : QueryStep env pid s a t) (h : (t.call i).place = .returned (some route)) :
    (s.call i).place = .returned (some route) ∨
      a = .recv i ∧ ∃ m rest, (s.call i).queue = m :: rest ∧ readRoute env pid m = some route := by
  have hset : ∀ {s : RouteProcess} {j : ℕ} {c : RouteCall},
      ((s.setCall j c).call i).place = .returned (some route) →
        (s.call i).place = .returned (some route) ∨
          i = j ∧ c.place = .returned (some route) := by
    intro s j c hplace
    by_cases hij : i = j
    · subst hij
      rw [RouteProcess.call_setCall_self] at hplace
      exact Or.inr ⟨rfl, hplace⟩
    · rw [RouteProcess.call_setCall_of_ne s c hij] at hplace
      exact Or.inl hplace
  have hbroadcast : ∀ {s : RouteProcess} {m : RouteMessage},
      ((s.broadcast m).call i).place = .returned (some route) →
        (s.call i).place = .returned (some route) := by
    intro s m hplace
    rw [RouteProcess.broadcast] at hplace
    dsimp only at hplace
    split at hplace <;> exact hplace
  cases hstep with
  | @call j destination family opens _ =>
    rcases hset h with hold | ⟨_, hnew⟩
    · exact Or.inl hold
    · dsimp only at hnew
      split at hnew
      · simp at hnew
      · split at hnew <;> simp at hnew
  | send | sendFails | fail =>
    rcases hset h with hold | ⟨_, hnew⟩
    · exact Or.inl hold
    · simp at hnew
  | answer =>
    rcases hset (hbroadcast h) with hold | ⟨rfl, hnew⟩
    · exact Or.inl hold
    · exact Or.inl hnew
  | foreign => exact Or.inl (hbroadcast h)
  | deliver =>
    rcases hset h with hold | ⟨rfl, hnew⟩
    · exact Or.inl hold
    · exact Or.inl hnew
  | @recv j reads m rest _ hqueue =>
    rcases hset h with hold | ⟨rfl, hnew⟩
    · exact Or.inl hold
    · refine Or.inr ⟨rfl, m, rest, hqueue, ?_⟩
      dsimp only at hnew
      split at hnew
      · next hread =>
        injection hnew with hnew
        rw [hread, hnew]
      · split at hnew <;> simp at hnew

/-- A call does not read the usable answer to another call's request. -/
def OwnReplies (pid : ℕ) (s : RouteProcess) : QueryAction → Prop
  | .recv i => ∀ m rest j, (s.call i).queue = m :: rest → m.answers = some j → j ≠ i →
      usable (m.data.take RECEIVE_SIZE) pid SEQ = false
  | _ => True

/-- Every route returned is read out of what the kernel reported to that call. -/
def Answered (env : Interfaces) (pid : ℕ) (as : List QueryAction) (s : RouteProcess) : Prop :=
  ∀ i route, (s.call i).place = .returned (some route) →
    ∃ data, Reported pid as i data ∧ readRoute env pid ⟨some i, data⟩ = some route

theorem Answered.step {as : List QueryAction} {s t : RouteProcess} {a : QueryAction}
    (h : Answered env pid as s) (hs : s.Accounted pid as)
    (hstep : guarded (OwnReplies pid) (QueryStep env pid) s a t) :
    Answered env pid (as ++ [a]) t := by
  obtain ⟨hcond, hstep⟩ := hstep
  intro i route hreturned
  rcases returned_of_step hstep hreturned with hold | ⟨rfl, m, rest, hqueue, hread⟩
  · obtain ⟨data, hreported, hroute⟩ := h i route hold
    exact ⟨data, hreported.mono [a], hroute⟩
  · have hgenuine := (hs i).queue m (by rw [hqueue]; exact List.mem_cons_self)
    have husable : usable (m.data.take RECEIVE_SIZE) pid SEQ = true := by
      rw [← @isSome_readRoute env, hread]
      rfl
    cases hanswers : m.answers with
    | none =>
      rw [Genuine, hanswers] at hgenuine
      rw [readRoute_of_isForeign hgenuine] at hread
      simp at hread
    | some j =>
      by_cases hji : j = i
      · rw [Genuine, hanswers, hji] at hgenuine
        exact ⟨m.data, hgenuine.mono _, hread⟩
      · rw [hcond m rest j hqueue hanswers hji] at husable
        simp at husable

/-- **While no call reads the usable answer to another call's request, each returns what
the kernel reported for its own destination.**  A call that does read one returns the
other's route. -/
theorem own_routes_only (env : Interfaces) (pid : ℕ) :
    (∀ as t, Steps (guarded (OwnReplies pid) (QueryStep env pid)) .initial as t →
        Answered env pid as t) ∧
      ∀ as s a t, Steps (QueryStep env pid) .initial as s → QueryStep env pid s a t →
        ¬ OwnReplies pid s a → ∃ i j data route, a = .recv i ∧ j ≠ i ∧ Reported pid as j data ∧
          readRoute env pid ⟨some j, data⟩ = some route ∧
          (t.call i).place = .returned (some route) := by
  refine ⟨?_, ?_⟩
  · intro as t hrun
    have hstart : RouteProcess.Accounted pid [] .initial :=
      accounted_of_run (show Steps (QueryStep env pid) .initial [] .initial from .nil _)
    have hall := hrun.trace (I := fun as t => RouteProcess.Accounted pid as t ∧
      Answered env pid as t) ⟨hstart, by simp [Answered, RouteProcess.initial]⟩
      fun hs hstep => ⟨hs.1.step hstep.2, hs.2.step hs.1 hstep⟩
    exact hall.2
  · intro as s a t hrun hstep ha
    have hs := accounted_of_run hrun
    cases hstep with
    | call | send | sendFails | answer | foreign | deliver | fail => exact absurd trivial ha
    | @recv i reads m rest _ hqueue =>
      have hforeign : ∃ j, m.answers = some j ∧ j ≠ i ∧
          usable (m.data.take RECEIVE_SIZE) pid SEQ = true := by
        by_contra hnone
        apply ha
        intro n more j hhead hanswers hji
        rw [hqueue, List.cons.injEq] at hhead
        rw [← hhead.1] at hanswers ⊢
        by_contra husable
        exact hnone ⟨j, hanswers, hji, by simpa using husable⟩
      obtain ⟨j, hanswers, hji, husable⟩ := hforeign
      have hgenuine := (hs i).queue m (by rw [hqueue]; exact List.mem_cons_self)
      rw [Genuine, hanswers] at hgenuine
      rw [← @isSome_readRoute env] at husable
      obtain ⟨route, hroute⟩ := Option.isSome_iff_exists.mp husable
      refine ⟨i, j, m.data, route, rfl, hji, hgenuine, hroute, ?_⟩
      rw [RouteProcess.call_setCall_self, hroute]

/-! ### Two lookups -/

def twoInterfaces : Interfaces where
  ifNametoindex name := if name = "en0".toList then some 4 else if name = "en1".toList then some 5
    else none
  ifIndextoname index :=
    if index = 4 then some "en0".toList else if index = 5 then some "en1".toList else none
  ifNameindex := [(4, "en0".toList), (5, "en1".toList)]
  localInterfaces := [⟨"en0".toList, some 4⟩, ⟨"en1".toList, some 5⟩]
  python := .since313

/-- What the kernel answers process 4242 about a routed destination. -/
def routedReply (index : ℕ) (destination gateway : Octets) : Octets :=
  packedLittle 2 (RT_MSGHDR_SIZE + 32) ++ [5, 4] ++ packedLittle 2 index ++ [0, 0] ++
    packedLittle 4 (RTF_UP ||| RTF_GATEWAY) ++ packedLittle 4 (RTA_DST ||| RTA_GATEWAY) ++
    packedLittle 4 4242 ++ packedLittle 4 SEQ ++ packedLittle 4 0 ++ packedLittle 4 0 ++
    packedLittle 4 0 ++ List.replicate RT_METRICS_SIZE 0 ++ packSockaddrIn destination ++
    packSockaddrIn gateway

/-- 192.0.2.1 is behind 192.0.2.254. -/
def firstReport : Octets := routedReply 4 [192, 0, 2, 1] [192, 0, 2, 254]

/-- 198.51.100.1 is behind 203.0.113.1. -/
def secondReport : Octets := routedReply 5 [198, 51, 100, 1] [203, 0, 113, 1]

/-- Two calls ask, and the answer to the second reaches the first one's socket first. -/
def crossed : List QueryAction :=
  [.call 0 "192.0.2.1".toList .IPV4 true, .call 1 "198.51.100.1".toList .IPV4 true,
    .send 0 true, .send 1 true, .answer 1 secondReport, .answer 0 firstReport,
    .deliver 0 ⟨some 1, secondReport⟩, .deliver 0 ⟨some 0, firstReport⟩, .recv 0]

/-- The first call returns the gateway and the interface of the second one's route. -/
theorem wrong_route :
    ∃ t, Steps (QueryStep twoInterfaces 4242) .initial crossed t ∧
      (t.call 0).place =
        .returned (some ⟨some "203.0.113.1".toList, some "en1".toList, none⟩) ∧
      readRoute twoInterfaces 4242 ⟨some 0, firstReport⟩ =
        some ⟨some "192.0.2.254".toList, some "en0".toList, none⟩ ∧
      ¬ Answered twoInterfaces 4242 crossed t := by
  obtain ⟨t, hrun, hreturned⟩ : ∃ t, Steps (QueryStep twoInterfaces 4242) .initial crossed t ∧
      (t.call 0).place =
        .returned (some ⟨some "203.0.113.1".toList, some "en1".toList, none⟩) :=
    ⟨_, .cons (.call rfl) <| .cons (.call rfl) <|
      .cons (@QueryStep.send _ _ _ 0 [192, 0, 2, 1] .IPV4 (by decide +kernel)) <|
      .cons (@QueryStep.send _ _ _ 1 [198, 51, 100, 1] .IPV4 (by decide +kernel)) <|
      .cons (@QueryStep.answer _ _ _ 1 (buildRequest 4242 [198, 51, 100, 1] .IPV4 SEQ) _
        (by decide +kernel) (by decide +kernel)
        ⟨by decide +kernel, by decide +kernel, by decide +kernel, by decide +kernel⟩) <|
      .cons (@QueryStep.answer _ _ _ 0 (buildRequest 4242 [192, 0, 2, 1] .IPV4 SEQ) _
        (by decide +kernel) (by decide +kernel)
        ⟨by decide +kernel, by decide +kernel, by decide +kernel, by decide +kernel⟩) <|
      .cons (@QueryStep.deliver _ _ _ 0 [] [⟨some 0, firstReport⟩] _ (by decide +kernel)) <|
      .cons (@QueryStep.deliver _ _ _ 0 [] [] _ (by decide +kernel)) <|
      .single (@QueryStep.recv _ _ _ 0 0 ⟨some 1, secondReport⟩ [⟨some 0, firstReport⟩]
        (by decide +kernel) (by decide +kernel)), by decide +kernel⟩
  have hown : readRoute twoInterfaces 4242 ⟨some 0, firstReport⟩ =
      some ⟨some "192.0.2.254".toList, some "en0".toList, none⟩ := by decide +kernel
  refine ⟨t, hrun, hreturned, hown, ?_⟩
  intro hanswered
  obtain ⟨data, ⟨hmem, _⟩, hread⟩ := hanswered 0 _ hreturned
  have hdata : data = firstReport := by simpa [crossed] using hmem
  rw [hdata, hown] at hread
  exact absurd hread (by decide +kernel)

end IPScout
