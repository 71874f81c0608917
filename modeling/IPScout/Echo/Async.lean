import IPScout.Base.Dict
import IPScout.Base.Steps
import IPScout.Echo.Await

/-!
# The asynchronous transport

`AsyncPosixEchoTransport` sends every probe over one socket and keeps one waiter
for each, keyed by the probe's token.  What it does is a run of six actions: a
probe starts, a datagram is settled, a batch of queued errors is settled, a
probe's wait expires (it timed out, or its task was cancelled), a probe whose
send was refused unregisters, and a probe whose future is done resumes and
unregisters.

`set_result` on a done future raises, which is a settle with no next state
(`none`); every call of it is written to `answered`.  A settle changes nothing or
resolves one pending future (`settle_cases`, `settleDatagram_cases`), and the
invariant of a run follows from that (`Inv.resolve`, `Inv.step`).
-/

namespace IPScout

open Base

/-! ### Futures and waiters -/

inductive Future
  | pending
  | resolved (result : Option Arrival)
  | cancelled
  deriving DecidableEq

def Future.done : Future → Bool
  | pending => false
  | _ => true

/-- One outstanding probe: what identifies it, and where its answer goes. -/
structure Waiter where
  probe : Probe
  answer : Future
  deriving DecidableEq

/-- The waiters of a transport, and every call of `set_result` it has made. -/
structure AsyncTransport where
  waiters : Dict Token Waiter
  answered : List (Token × Option Arrival)

namespace AsyncTransport

def initial : AsyncTransport := ⟨.empty, []⟩

/-- The state in which the waiter's future holds the result. -/
def resolve (s : AsyncTransport) (token : Token) (w : Waiter) (r : Option Arrival) :
    AsyncTransport where
  waiters := s.waiters.set token { w with answer := .resolved r }
  answered := s.answered ++ [(token, r)]

/-- `waiter.answer.set_result(r)`; `none` is its `InvalidStateError`. -/
def setResult (s : AsyncTransport) (token : Token) (w : Waiter) (r : Option Arrival) :
    Option AsyncTransport := if w.answer.done then none else some (s.resolve token w r)

/-- `_settle`: resolve the one outstanding probe an error is about. -/
def settle (socket : EchoSocket) (s : AsyncTransport) (error : IcmpError) :
    Option AsyncTransport :=
  match s.waiters.entries.filter fun e => concerns error e.2.probe socket.ownDestination with
  | [(token, w)] => if w.answer.done then some s else s.setResult token w error.arrival
  | _ => some s

/-- `_settle_errors`: hand every queued error to the probe it is about. -/
def settleErrors (socket : EchoSocket) (s : AsyncTransport) (entries : List QueueEntry) :
    Option AsyncTransport :=
  ((drainErrors entries socket.family).getD []).foldlM (settle socket) s

/-- `_settle_datagram`: hand a received datagram to the probe it answers. -/
def settleDatagram (socket : EchoSocket) (s : AsyncTransport) (raw : Octets) (peer : Text)
    (finished : ℚ) : Option AsyncTransport :=
  match (parseEchoReply raw).bind fun parsed =>
      if isEchoReply parsed socket.family then parsed.token else none with
  | some token =>
    match s.waiters.get? token with
    -- a late reply, or another process's traffic
    | none => some s
    | some w =>
      if w.answer.done then some s else s.setResult token w (some ⟨finished, peer, false⟩)
  | none =>
    match timeExceededDatagram raw peer finished socket.family with
    | none => some s
    | some error => s.settle socket error

/-- `_waiters[token] = _Waiter(probe, create_future())`. -/
def register (s : AsyncTransport) (probe : Probe) : AsyncTransport :=
  { s with waiters := s.waiters.set probe.token ⟨probe, .pending⟩ }

/-- The future of a wait that timed out or was cancelled. -/
def cancel (s : AsyncTransport) (token : Token) (w : Waiter) : AsyncTransport :=
  { s with waiters := s.waiters.set token { w with answer := .cancelled } }

/-- `_waiters.pop(token, None)`. -/
def unregister (s : AsyncTransport) (token : Token) : AsyncTransport :=
  { s with waiters := s.waiters.pop token }

end AsyncTransport

open AsyncTransport

/-! ### Steps -/

inductive AsyncAction
  | start (probe : Probe)
  | datagram (raw : Octets) (peer : Text) (finished : ℚ)
  | errors (entries : List QueueEntry)
  | expire (token : Token)
  | refuse (token : Token)
  | resume (token : Token)

/-- One step of the transport. -/
inductive AsyncStep (socket : EchoSocket) :
    AsyncTransport → AsyncAction → AsyncTransport → Prop
  | start {s : AsyncTransport} {probe : Probe} :
      AsyncStep socket s (.start probe) (s.register probe)
  | datagram {s t : AsyncTransport} {raw : Octets} {peer : Text} {finished : ℚ} :
      s.settleDatagram socket raw peer finished = some t →
      AsyncStep socket s (.datagram raw peer finished) t
  | errors {s t : AsyncTransport} {entries : List QueueEntry} :
      s.settleErrors socket entries = some t → AsyncStep socket s (.errors entries) t
  | expire {s : AsyncTransport} {token : Token} {w : Waiter} :
      s.waiters.get? token = some w → w.answer = .pending →
      AsyncStep socket s (.expire token) (s.cancel token w)
  | refuse {s : AsyncTransport} {token : Token} {w : Waiter} :
      s.waiters.get? token = some w → w.answer = .pending →
      AsyncStep socket s (.refuse token) (s.unregister token)
  | resume {s : AsyncTransport} {token : Token} {w : Waiter} :
      s.waiters.get? token = some w → w.answer.done = true →
      AsyncStep socket s (.resume token) (s.unregister token)

def startedProbes (as : List AsyncAction) : List Probe :=
  as.filterMap fun
    | .start probe => some probe
    | _ => none

/-- The tokens of the probes a run has finished. -/
def finishedTokens (as : List AsyncAction) : List Token :=
  as.filterMap fun
    | .refuse token => some token
    | .resume token => some token
    | _ => none

/-- No two probes of a run share a token. -/
def FreshTokens (as : List AsyncAction) : Prop := ((startedProbes as).map Probe.token).Nodup

/-! ### What one settle does -/

/-- Nothing changes, or one pending future is resolved, and `P` holds of its token,
its waiter and the result. -/
def ResolvesAtMostOne (s t : AsyncTransport) (P : Token → Waiter → Option Arrival → Prop) : Prop :=
  t = s ∨ ∃ token w r, s.waiters.get? token = some w ∧ w.answer = .pending ∧ P token w r ∧
    t = s.resolve token w r

/-- The waiter is that of a probe the error concerns, and the result is the error's. -/
def ErrorFor (socket : EchoSocket) (error : IcmpError) (_ : Token) (w : Waiter)
    (r : Option Arrival) : Prop :=
  concerns error w.probe socket.ownDestination = true ∧ r = error.arrival

/-- The token is the one an echo reply carries, or the datagram is no echo reply
and its Time Exceeded concerns the waiter's probe. -/
def DatagramFor (socket : EchoSocket) (raw : Octets) (peer : Text) (finished : ℚ) (token : Token)
    (w : Waiter) (r : Option Arrival) : Prop :=
  (∃ parsed, parseEchoReply raw = some parsed ∧ isEchoReply parsed socket.family = true ∧
    parsed.token = some token ∧ r = some ⟨finished, peer, false⟩) ∨
  ((∀ parsed, parseEchoReply raw = some parsed → isEchoReply parsed socket.family = false) ∧
    ∃ error, timeExceededDatagram raw peer finished socket.family = some error ∧
      ErrorFor socket error token w r)

theorem Future.eq_pending {f : Future} (h : ¬ f.done = true) : f = .pending := by
  cases f with
  | pending => rfl
  | resolved r => exact absurd rfl h
  | cancelled => exact absurd rfl h

/-- `set_result` is called on a pending future or not at all. -/
theorem guarded_setResult {s : AsyncTransport} {token : Token} {w : Waiter} {r : Option Arrival}
    {P : Token → Waiter → Option Arrival → Prop} (hget : s.waiters.get? token = some w)
    (hP : P token w r) : ∃ t, (if w.answer.done then some s else s.setResult token w r) = some t ∧
      ResolvesAtMostOne s t P := by
  by_cases hdone : w.answer.done = true
  · exact ⟨s, if_pos hdone, Or.inl rfl⟩
  · refine ⟨s.resolve token w r, ?_, Or.inr ⟨token, w, r, hget, Future.eq_pending hdone, hP, rfl⟩⟩
    rw [if_neg hdone, setResult, if_neg hdone]

/-- **An error resolves at most one future, of a probe it concerns.** -/
theorem settle_cases (socket : EchoSocket) (s : AsyncTransport) (error : IcmpError) :
    ∃ t, s.settle socket error = some t ∧ ResolvesAtMostOne s t (ErrorFor socket error) := by
  rw [settle]
  split
  · next token w hnamed =>
    have hmem : (token, w) ∈ s.waiters.entries.filter
        (fun e => concerns error e.2.probe socket.ownDestination) := by
      rw [hnamed]
      exact List.mem_singleton_self _
    obtain ⟨hentry, hc⟩ := List.mem_filter.mp hmem
    exact guarded_setResult (Dict.get?_eq_some_iff.mpr hentry) ⟨hc, rfl⟩
  · exact ⟨s, rfl, Or.inl rfl⟩

/-- **A datagram resolves at most one future**: that of the token an echo reply
carries, or of a probe its Time Exceeded concerns. -/
theorem settleDatagram_cases (socket : EchoSocket) (s : AsyncTransport) (raw : Octets)
    (peer : Text) (finished : ℚ) : ∃ t, s.settleDatagram socket raw peer finished = some t ∧
      ResolvesAtMostOne s t (DatagramFor socket raw peer finished) := by
  rw [settleDatagram]
  split
  · next token htoken =>
    obtain ⟨parsed, hparsed, hreply⟩ := Option.bind_eq_some_iff.mp htoken
    split at hreply
    · next his =>
      split
      · exact ⟨s, rfl, Or.inl rfl⟩
      · next w hget =>
        exact guarded_setResult hget (Or.inl ⟨parsed, hparsed, his, hreply, rfl⟩)
    · simp at hreply
  · split
    · exact ⟨s, rfl, Or.inl rfl⟩
    · next error herror =>
      obtain ⟨t, hsettle, hone⟩ := settle_cases socket s error
      refine ⟨t, hsettle, ?_⟩
      rcases hone with rfl | ⟨token, w, r, hget, hpending, herr, rfl⟩
      · exact Or.inl rfl
      · refine Or.inr ⟨token, w, r, hget, hpending, Or.inr ⟨?_, error, herror, herr⟩, rfl⟩
        intro parsed hparsed
        by_contra his
        rw [Bool.not_eq_false] at his
        rw [timeExceededDatagram, quotedEchoRequest_of_isEchoReply hparsed his] at herror
        simp at herror

/-- Settling one error at a time, each resolving at most one future. -/
def SettleStep (socket : EchoSocket) (s : AsyncTransport) (error : IcmpError)
    (t : AsyncTransport) : Prop :=
  s.settle socket error = some t ∧ ResolvesAtMostOne s t (ErrorFor socket error)

theorem foldlM_settle (socket : EchoSocket) (errors : List IcmpError) (s : AsyncTransport) :
    ∃ t, errors.foldlM (settle socket) s = some t ∧ Steps (SettleStep socket) s errors t := by
  induction errors generalizing s with
  | nil => exact ⟨s, rfl, .nil s⟩
  | cons error rest ih =>
    obtain ⟨u, hu, hone⟩ := settle_cases socket s error
    obtain ⟨t, ht, hrun⟩ := ih u
    refine ⟨t, ?_, .cons ⟨hu, hone⟩ hrun⟩
    rw [List.foldlM_cons, hu]
    exact ht

/-- **A batch is settled error by error.** -/
theorem settleErrors_cases (socket : EchoSocket) (s : AsyncTransport) (entries : List QueueEntry) :
    ∃ t, s.settleErrors socket entries = some t ∧
      Steps (SettleStep socket) s ((drainErrors entries socket.family).getD []) t :=
  foldlM_settle socket _ s

/-! ### The invariant of a run -/

/-- What holds after the probes `ps` have started and the tokens `fs` finished. -/
structure Inv (ps : List Probe) (fs : List Token) (s : AsyncTransport) : Prop where
  own : ∀ {token w}, s.waiters.get? token = some w →
    w.probe.token = token ∧ w.probe ∈ ps ∧ token ∉ fs
  all : ∀ {p}, p ∈ ps → p.token ∉ fs → ∃ w, s.waiters.get? p.token = some w ∧ w.probe = p
  gone : ∀ {token}, token ∈ fs → token ∈ ps.map Probe.token
  once : (s.answered.map Prod.fst).Nodup
  log : ∀ {token w r}, s.waiters.get? token = some w →
    (w.answer = .resolved r ↔ (token, r) ∈ s.answered)
  from_started : ∀ {token r}, (token, r) ∈ s.answered → token ∈ ps.map Probe.token
  hop : ∀ {token a}, (token, some a) ∈ s.answered → a.ttlExpired = true →
    ∃ p ∈ ps, p.token = token ∧ p.hopLimited = true

namespace Inv

variable {ps : List Probe} {fs : List Token} {s : AsyncTransport}

theorem initial : Inv [] [] initial where
  own h := by simp [AsyncTransport.initial] at h
  all h := by simp at h
  gone h := by simp at h
  once := List.nodup_nil
  log h := by simp [AsyncTransport.initial] at h
  from_started h := by simp [AsyncTransport.initial] at h
  hop h := by simp [AsyncTransport.initial] at h

theorem notMem_answered (h : Inv ps fs s) {token : Token} {w : Waiter}
    (hget : s.waiters.get? token = some w) (hpending : w.answer = .pending) (r : Option Arrival) :
    (token, r) ∉ s.answered := by
  intro hmem
  rw [(h.log hget).mpr hmem] at hpending
  simp at hpending

theorem own_set (h : Inv ps fs s) {token : Token} {w : Waiter}
    (hget : s.waiters.get? token = some w) (f : Future) {k : Token} {v : Waiter}
    (hv : (s.waiters.set token { w with answer := f }).get? k = some v) :
    v.probe.token = k ∧ v.probe ∈ ps ∧ k ∉ fs := by
  by_cases hk : k = token
  · subst hk
    rw [Dict.get?_set_self, Option.some.injEq] at hv
    have hw := h.own hget
    subst hv
    exact hw
  · rw [Dict.get?_set_of_ne _ _ hk] at hv
    exact h.own hv

theorem all_set (h : Inv ps fs s) {token : Token} {w : Waiter}
    (hget : s.waiters.get? token = some w) (f : Future) {p : Probe} (hp : p ∈ ps)
    (hpf : p.token ∉ fs) :
    ∃ v, (s.waiters.set token { w with answer := f }).get? p.token = some v ∧ v.probe = p := by
  by_cases hk : p.token = token
  · obtain ⟨v, hv, hvp⟩ := h.all hp hpf
    rw [hk, hget, Option.some.injEq] at hv
    subst hv
    rw [hk]
    exact ⟨_, Dict.get?_set_self _ _ _, hvp⟩
  · rw [Dict.get?_set_of_ne _ _ hk]
    exact h.all hp hpf

/-- **Resolving a pending future keeps the invariant**, a router's report going only
to a probe that set a hop limit. -/
theorem resolve (h : Inv ps fs s) {token : Token} {w : Waiter} {r : Option Arrival}
    (hget : s.waiters.get? token = some w) (hpending : w.answer = .pending)
    (hhop : ∀ a, r = some a → a.ttlExpired = true → w.probe.hopLimited = true) :
    Inv ps fs (s.resolve token w r) := by
  obtain ⟨hown, hps, _⟩ := h.own hget
  have hnew := h.notMem_answered hget hpending
  refine ⟨h.own_set hget _, h.all_set hget _, h.gone, ?_, ?_, ?_, ?_⟩
  · rw [AsyncTransport.resolve, List.map_append, List.nodup_append]
    refine ⟨h.once, by simp, ?_⟩
    intro a ha b hb hab
    obtain ⟨⟨k, q⟩, hmem, hk⟩ := List.mem_map.mp ha
    have hb : b = token := by simpa using hb
    simp only at hk
    exact hnew q (by rw [← hb, ← hab, ← hk]; exact hmem)
  · intro k v q hv
    by_cases hk : k = token
    · subst hk
      simp only [AsyncTransport.resolve, Dict.get?_set_self, Option.some.injEq] at hv
      subst hv
      simp only [AsyncTransport.resolve, List.mem_append, List.mem_singleton, hnew q, false_or,
        Future.resolved.injEq, Prod.mk.injEq, true_and]
      exact eq_comm
    · rw [AsyncTransport.resolve, Dict.get?_set_of_ne _ _ hk] at hv
      rw [h.log hv, AsyncTransport.resolve, List.mem_append, List.mem_singleton, Prod.mk.injEq]
      simp [hk]
  · intro k q hmem
    rcases List.mem_append.mp hmem with hmem | hmem
    · exact h.from_started hmem
    · rw [List.mem_singleton, Prod.mk.injEq] at hmem
      rw [hmem.1]
      exact List.mem_map.mpr ⟨w.probe, hps, hown⟩
  · intro k a hmem ha
    rcases List.mem_append.mp hmem with hmem | hmem
    · exact h.hop hmem ha
    · rw [List.mem_singleton, Prod.mk.injEq] at hmem
      exact ⟨w.probe, hps, hown.trans hmem.1.symm, hhop a hmem.2.symm ha⟩

theorem resolvesAtMostOne (h : Inv ps fs s) {t : AsyncTransport}
    {P : Token → Waiter → Option Arrival → Prop} (hone : ResolvesAtMostOne s t P)
    (hhop : ∀ token w a, P token w (some a) → a.ttlExpired = true → w.probe.hopLimited = true) :
    Inv ps fs t := by
  rcases hone with rfl | ⟨token, w, r, hget, hpending, hP, rfl⟩
  · exact h
  · apply h.resolve hget hpending
    intro a ha hexp
    subst ha
    exact hhop token w a hP hexp

theorem settle (h : Inv ps fs s) {socket : EchoSocket} {error : IcmpError} {t : AsyncTransport}
    (hone : ResolvesAtMostOne s t (ErrorFor socket error)) : Inv ps fs t :=
  h.resolvesAtMostOne hone fun _ _ _ hP _ => hopLimited_of_concerns hP.1 hP.2.symm

theorem settleDatagram (h : Inv ps fs s) {socket : EchoSocket} {raw : Octets} {peer : Text}
    {finished : ℚ} {t : AsyncTransport}
    (hone : ResolvesAtMostOne s t (DatagramFor socket raw peer finished)) : Inv ps fs t := by
  apply h.resolvesAtMostOne hone
  intro token w a hP hexp
  rcases hP with ⟨parsed, _, _, _, ha⟩ | ⟨_, error, _, hc, ha⟩
  · rw [Option.some.inj ha] at hexp
    simp at hexp
  · exact hopLimited_of_concerns hc ha.symm

theorem settleErrors (h : Inv ps fs s) {socket : EchoSocket} {errors : List IcmpError}
    {t : AsyncTransport} (hrun : Steps (SettleStep socket) s errors t) : Inv ps fs t :=
  hrun.invariant h fun hinv hstep => hinv.settle hstep.2

theorem register (h : Inv ps fs s) {probe : Probe} (hfresh : probe.token ∉ ps.map Probe.token) :
    Inv (ps ++ [probe]) fs (s.register probe) := by
  have hsub : ∀ {token}, token ∈ ps.map Probe.token → token ∈ (ps ++ [probe]).map Probe.token := by
    intro token hmem
    rw [List.map_append]
    exact List.mem_append_left _ hmem
  refine ⟨?_, ?_, fun hmem => hsub (h.gone hmem), h.once, ?_,
    fun hmem => hsub (h.from_started hmem),
    ?_⟩
  · intro token w hget
    by_cases hk : token = probe.token
    · subst hk
      simp only [AsyncTransport.register, Dict.get?_set_self, Option.some.injEq] at hget
      subst hget
      exact ⟨rfl, by simp, fun hmem => hfresh (h.gone hmem)⟩
    · rw [AsyncTransport.register, Dict.get?_set_of_ne _ _ hk] at hget
      obtain ⟨hown, hps, hfs⟩ := h.own hget
      exact ⟨hown, List.mem_append_left _ hps, hfs⟩
  · intro p hp hpf
    rcases List.mem_append.mp hp with hp | hp
    · have hk : p.token ≠ probe.token := fun he => hfresh (List.mem_map.mpr ⟨p, hp, he⟩)
      rw [AsyncTransport.register, Dict.get?_set_of_ne _ _ hk]
      exact h.all hp hpf
    · rw [List.mem_singleton] at hp
      subst hp
      exact ⟨_, Dict.get?_set_self _ _ _, rfl⟩
  · intro token w r hget
    by_cases hk : token = probe.token
    · subst hk
      simp only [AsyncTransport.register, Dict.get?_set_self, Option.some.injEq] at hget
      subst hget
      simp only [reduceCtorEq, false_iff]
      exact fun hmem => hfresh (h.from_started hmem)
    · rw [AsyncTransport.register, Dict.get?_set_of_ne _ _ hk] at hget
      exact h.log hget
  · intro token a hmem ha
    obtain ⟨p, hp, hrest⟩ := h.hop hmem ha
    exact ⟨p, List.mem_append_left _ hp, hrest⟩

theorem cancel (h : Inv ps fs s) {token : Token} {w : Waiter}
    (hget : s.waiters.get? token = some w) (hpending : w.answer = .pending) :
    Inv ps fs (s.cancel token w) := by
  refine ⟨h.own_set hget _, h.all_set hget _, h.gone, h.once, ?_, h.from_started, h.hop⟩
  · intro k v r hv
    by_cases hk : k = token
    · subst hk
      simp only [AsyncTransport.cancel, Dict.get?_set_self, Option.some.injEq] at hv
      subst hv
      simp only [reduceCtorEq, false_iff]
      exact h.notMem_answered hget hpending r
    · rw [AsyncTransport.cancel, Dict.get?_set_of_ne _ _ hk] at hv
      exact h.log hv

theorem unregister (h : Inv ps fs s) {token : Token} {w : Waiter}
    (hget : s.waiters.get? token = some w) : Inv ps (fs ++ [token]) (s.unregister token) := by
  obtain ⟨hown, hps, _⟩ := h.own hget
  refine ⟨?_, ?_, ?_, h.once, ?_, h.from_started, h.hop⟩
  · intro k v hv
    obtain ⟨hk, hv⟩ := Dict.get?_pop.mp hv
    obtain ⟨hvown, hvps, hvfs⟩ := h.own hv
    refine ⟨hvown, hvps, ?_⟩
    simp [hk, hvfs]
  · intro p hp hpf
    simp only [List.mem_append, List.mem_singleton, not_or] at hpf
    rw [AsyncTransport.unregister, Dict.get?_pop_of_ne _ hpf.2]
    exact h.all hp hpf.1
  · intro k hk
    rcases List.mem_append.mp hk with hk | hk
    · exact h.gone hk
    · rw [List.mem_singleton] at hk
      rw [hk]
      exact List.mem_map.mpr ⟨w.probe, hps, hown⟩
  · intro k v r hv
    exact h.log (Dict.get?_pop.mp hv).2

end Inv

/-! ### Runs -/

theorem startedProbes_append (as bs : List AsyncAction) :
    startedProbes (as ++ bs) = startedProbes as ++ startedProbes bs := List.filterMap_append

theorem finishedTokens_append (as bs : List AsyncAction) :
    finishedTokens (as ++ bs) = finishedTokens as ++ finishedTokens bs := List.filterMap_append

theorem FreshTokens.prefix {as bs : List AsyncAction} (h : FreshTokens (as ++ bs)) :
    FreshTokens as := by
  rw [FreshTokens, startedProbes_append, List.map_append] at h
  exact (List.nodup_append.mp h).1

/-- **A step of a run with fresh tokens keeps the invariant.** -/
theorem Inv.step {socket : EchoSocket} {as : List AsyncAction} {s t : AsyncTransport}
    {a : AsyncAction} (h : Inv (startedProbes as) (finishedTokens as) s)
    (hstep : AsyncStep socket s a t) (hfresh : FreshTokens (as ++ [a])) :
    Inv (startedProbes (as ++ [a])) (finishedTokens (as ++ [a])) t := by
  rw [startedProbes_append, finishedTokens_append]
  cases hstep with
  | @start probe =>
    rw [FreshTokens, startedProbes_append, List.map_append, List.nodup_append] at hfresh
    have hnew : probe.token ∉ (startedProbes as).map Probe.token :=
      fun hmem => hfresh.2.2 _ hmem _ (List.mem_singleton_self _) rfl
    simpa [startedProbes, finishedTokens] using h.register hnew
  | @datagram _ raw peer finished hsettle =>
    obtain ⟨u, hu, hone⟩ := settleDatagram_cases socket s raw peer finished
    rw [hu, Option.some.injEq] at hsettle
    subst hsettle
    simpa [startedProbes, finishedTokens] using h.settleDatagram hone
  | @errors _ entries hsettle =>
    obtain ⟨u, hu, hrun⟩ := settleErrors_cases socket s entries
    rw [hu, Option.some.injEq] at hsettle
    subst hsettle
    simpa [startedProbes, finishedTokens] using h.settleErrors hrun
  | expire hget hpending => simpa [startedProbes, finishedTokens] using h.cancel hget hpending
  | refuse hget _ => simpa [startedProbes, finishedTokens] using h.unregister hget
  | resume hget _ => simpa [startedProbes, finishedTokens] using h.unregister hget

theorem Inv.run {socket : EchoSocket} {as bs : List AsyncAction} {s t : AsyncTransport}
    (h : Inv (startedProbes as) (finishedTokens as) s) (hrun : Steps (AsyncStep socket) s bs t)
    (hfresh : FreshTokens (as ++ bs)) :
    Inv (startedProbes (as ++ bs)) (finishedTokens (as ++ bs)) t := by
  refine hrun.trace (I := fun bs t => FreshTokens (as ++ bs) →
    Inv (startedProbes (as ++ bs)) (finishedTokens (as ++ bs)) t) ?_ ?_ hfresh
  · intro _
    rwa [List.append_nil]
  · intro bs t a u ih hstep hfresh
    rw [← List.append_assoc] at hfresh ⊢
    exact (ih hfresh.prefix).step hstep hfresh

/-- The calls of `set_result` for one token. -/
def AsyncTransport.answersTo (s : AsyncTransport) (token : Token) : List (Token × Option Arrival) :=
  s.answered.filter fun e => e.1 = token

theorem answersTo_resolvesAtMostOne {s t : AsyncTransport} {token : Token}
    {P : Token → Waiter → Option Arrival → Prop} (hone : ResolvesAtMostOne s t P)
    (hnone : s.waiters.get? token = none) : t.answersTo token = s.answersTo token := by
  rcases hone with rfl | ⟨k, w, r, hget, _, _, rfl⟩
  · rfl
  · have hk : k ≠ token := by
      rintro rfl
      rw [hnone] at hget
      simp at hget
    simp [AsyncTransport.answersTo, AsyncTransport.resolve, List.filter_append, hk]

theorem get?_resolvesAtMostOne {s t : AsyncTransport} {token : Token}
    {P : Token → Waiter → Option Arrival → Prop} (hone : ResolvesAtMostOne s t P)
    (hnone : s.waiters.get? token = none) : t.waiters.get? token = none := by
  rcases hone with rfl | ⟨k, w, r, hget, _, _, rfl⟩
  · exact hnone
  · have hk : token ≠ k := by
      rintro rfl
      rw [hnone] at hget
      simp at hget
    rw [AsyncTransport.resolve, Dict.get?_set_of_ne _ _ hk]
    exact hnone

/-- **A step changes nothing on behalf of a token with no waiter.** -/
theorem answersTo_step {socket : EchoSocket} {s t : AsyncTransport} {a : AsyncAction}
    {token : Token} (hstep : AsyncStep socket s a t) (hnone : s.waiters.get? token = none) :
    t.answersTo token = s.answersTo token := by
  cases hstep with
  | start => rfl
  | @datagram _ raw peer finished hsettle =>
    obtain ⟨u, hu, hone⟩ := settleDatagram_cases socket s raw peer finished
    rw [hu, Option.some.injEq] at hsettle
    subst hsettle
    exact answersTo_resolvesAtMostOne hone hnone
  | @errors _ entries hsettle =>
    obtain ⟨u, hu, hrun⟩ := settleErrors_cases socket s entries
    rw [hu, Option.some.injEq] at hsettle
    subst hsettle
    refine (hrun.invariant (I := fun v => v.waiters.get? token = none ∧
      v.answersTo token = s.answersTo token) ⟨hnone, rfl⟩ ?_).2
    intro v error v' hv hsettle
    exact ⟨get?_resolvesAtMostOne hsettle.2 hv.1,
      (answersTo_resolvesAtMostOne hsettle.2 hv.1).trans hv.2⟩
  | expire _ _ => rfl
  | refuse _ _ => rfl
  | resume _ _ => rfl

theorem Inv.get?_of_gone {ps : List Probe} {fs : List Token} {s : AsyncTransport}
    (h : Inv ps fs s) {token : Token} (hgone : token ∈ fs) : s.waiters.get? token = none := by
  cases hget : s.waiters.get? token with
  | none => rfl
  | some w => exact absurd hgone (h.own hget).2.2

/-- An echo reply for a token with no waiter is dropped. -/
theorem settleDatagram_of_late {socket : EchoSocket} {s : AsyncTransport} {raw : Octets}
    {peer : Text} {finished : ℚ} {parsed : ParsedReply} {token : Token}
    (hparsed : parseEchoReply raw = some parsed)
    (hreply : isEchoReply parsed socket.family = true) (htoken : parsed.token = some token)
    (hnone : s.waiters.get? token = none) :
    s.settleDatagram socket raw peer finished = some s := by
  rw [settleDatagram, hparsed, Option.bind_some, if_pos hreply, htoken]
  simp only [hnone]

/-- **Delivery in every run with fresh tokens.**  The waiters are the probes started
and not finished, under their own tokens.  No future is resolved twice, and no
settle raises.  A datagram resolves at most the future of the token it carries, or
of a probe its Time Exceeded concerns; each queued error at most that of a probe it
concerns; a router's report reaches only a probe with a hop limit.  After a probe
has finished nothing changes on its behalf. -/
theorem async_delivery (socket : EchoSocket) {as : List AsyncAction} {s : AsyncTransport}
    (hrun : Steps (AsyncStep socket) .initial as s) (hfresh : FreshTokens as) :
    (∀ token p, (∃ f, s.waiters.get? token = some ⟨p, f⟩) ↔
      p ∈ startedProbes as ∧ p.token = token ∧ token ∉ finishedTokens as) ∧
    (s.answered.map Prod.fst).Nodup ∧
    (∀ token w r, s.waiters.get? token = some w →
      (w.answer = .resolved r ↔ (token, r) ∈ s.answered)) ∧
    (∀ raw peer finished, ∃ t, s.settleDatagram socket raw peer finished = some t ∧
      ResolvesAtMostOne s t (DatagramFor socket raw peer finished)) ∧
    (∀ entries, ∃ t, s.settleErrors socket entries = some t ∧
      Steps (SettleStep socket) s ((drainErrors entries socket.family).getD []) t) ∧
    (∀ token a, (token, some a) ∈ s.answered → a.ttlExpired = true →
      ∃ p ∈ startedProbes as, p.token = token ∧ p.hopLimited = true) ∧
    (∀ token ∈ finishedTokens as, ∀ raw peer finished parsed, parseEchoReply raw = some parsed →
      isEchoReply parsed socket.family = true → parsed.token = some token →
      s.settleDatagram socket raw peer finished = some s) ∧
    (∀ bs t, Steps (AsyncStep socket) s bs t → FreshTokens (as ++ bs) →
      ∀ token ∈ finishedTokens as,
        t.waiters.get? token = none ∧ t.answersTo token = s.answersTo token) := by
  have hstart : Inv (startedProbes []) (finishedTokens []) .initial := Inv.initial
  have hinv : Inv (startedProbes as) (finishedTokens as) s := hstart.run hrun hfresh
  refine ⟨?_, hinv.once, fun _ _ _ hget => hinv.log hget, settleDatagram_cases socket s,
    settleErrors_cases socket s, fun _ _ => hinv.hop, ?_, ?_⟩
  · intro token p
    constructor
    · rintro ⟨f, hget⟩
      obtain ⟨hown, hps, hfs⟩ := hinv.own hget
      exact ⟨hps, hown, hfs⟩
    · rintro ⟨hps, rfl, hfs⟩
      obtain ⟨⟨q, f⟩, hget, rfl⟩ := hinv.all hps hfs
      exact ⟨f, hget⟩
  · intro token hgone raw peer finished parsed hparsed hreply htoken
    exact settleDatagram_of_late hparsed hreply htoken (hinv.get?_of_gone hgone)
  · intro bs t hbs hfresh' token hgone
    refine (hbs.trace (I := fun cs u => FreshTokens (as ++ cs) →
      Inv (startedProbes (as ++ cs)) (finishedTokens (as ++ cs)) u ∧
        u.answersTo token = s.answersTo token) ?_ ?_ hfresh').imp ?_ id
    · intro _
      rw [List.append_nil]
      exact ⟨hinv, rfl⟩
    · intro cs u a v ih hstep hfresh''
      rw [← List.append_assoc] at hfresh'' ⊢
      obtain ⟨hu, hsame⟩ := ih hfresh''.prefix
      have hnone : u.waiters.get? token = none :=
        hu.get?_of_gone (by rw [finishedTokens_append]; exact List.mem_append_left _ hgone)
      exact ⟨hu.step hstep hfresh'', (answersTo_step hstep hnone).trans hsame⟩
    · intro ht
      exact ht.get?_of_gone (by rw [finishedTokens_append]; exact List.mem_append_left _ hgone)

/-- A probe times out and unregisters; a reply to it that comes later is dropped. -/
theorem async_delivery_of_a_timeout :
    let socket : EchoSocket := ⟨.IPV4, none⟩
    let probe : Probe := ⟨7, ⟨[1, 2, 3, 4, 5, 6, 7, 8], rfl⟩, none, false⟩
    ∃ s, Steps (AsyncStep socket) .initial
        [.start probe, .expire probe.token, .resume probe.token] s ∧
      ∀ raw peer finished parsed, parseEchoReply raw = some parsed →
        isEchoReply parsed socket.family = true → parsed.token = some probe.token →
        s.settleDatagram socket raw peer finished = some s := by
  intro socket probe
  have hrun : Steps (AsyncStep socket) .initial
      [.start probe, .expire probe.token, .resume probe.token]
      (((AsyncTransport.initial.register probe).cancel probe.token ⟨probe, .pending⟩).unregister
        probe.token) :=
    .cons .start <| .cons (.expire (Dict.get?_set_self _ _ _) rfl) <|
      .single (.resume (Dict.get?_set_self _ _ _) rfl)
  obtain ⟨_, _, _, _, _, _, hlate, _⟩ := async_delivery socket hrun (List.nodup_singleton _)
  exact ⟨_, hrun, hlate probe.token (by decide)⟩

end IPScout
