import IPScout.Base.Steps
import IPScout.Errors

/-!
# The hop limit of a probe

Every probe of a POSIX transport goes out on the one socket, and the hop limit is an
option of that socket.  `_apply_ttl` sets it for a probe that asks for one and does
nothing for a plain probe, so a plain probe goes out with what the last probe before it
that asked has set.

From `_apply_ttl` to the last attempt of `_send` a probe does not wait, in either
transport, so it is one step.  Waits end in any order, and a synchronous run is one in
which no probe starts while another waits.  What goes out is each probe's own exactly
when no plain probe is sent under another hop limit than the system's (`sends_own_iff`).
-/

namespace IPScout

open Base

/-! ### Probes on one socket -/

/-- A call of `probe`. -/
structure ProbeCall where
  sequence : ℕ
  ttl : Option ℕ
  deriving DecidableEq

/-- What the kernel says to a send; a refusal is one for a queued error if the drain that
follows reads an entry. -/
inductive SendAnswer
  | sent
  | refused (drained : Bool)
  deriving DecidableEq

/-- The system's default hop limit, and the hop limits `setsockopt` takes. -/
structure HopKernel where
  systemDefault : ℕ
  accepts : ℕ → Bool

/-- A request as it went out: the call it is for, and the hop limit in force then. -/
structure SentRequest where
  call : ProbeCall
  hopLimit : ℕ
  deriving DecidableEq

/-- The socket of a transport, what has gone out on it, and the calls that wait. -/
structure HopSocket where
  hopLimit : ℕ
  sent : List SentRequest
  waiting : List ProbeCall

/-- `EINVAL`. -/
def invalidArgument : OSErr :=
  ⟨.OSError, some 22, none, some "Invalid argument".toList, "[Errno 22] Invalid argument".toList⟩

namespace HopSocket

def opened (kernel : HopKernel) : HopSocket := ⟨kernel.systemDefault, [], []⟩

def applyTtl (kernel : HopKernel) (s : HopSocket) (ttl : Option ℕ) : Except OSErr HopSocket :=
  match ttl with
  | none => .ok s
  | some n => if kernel.accepts n then .ok { s with hopLimit := n } else .error invalidArgument

/-- The attempts of `_send`. -/
def sendAttempts (s : HopSocket) (call : ProbeCall) : List SendAnswer → HopSocket
  | [] => s
  | .sent :: _ =>
    { s with sent := s.sent ++ [⟨call, s.hopLimit⟩], waiting := s.waiting ++ [call] }
  | .refused drained :: rest => if drained then s.sendAttempts call rest else s

/-- `_send`: a request is tried twice. -/
def send (s : HopSocket) (call : ProbeCall) (answers : List SendAnswer) : HopSocket :=
  s.sendAttempts call (answers.take 2)

/-- `probe` up to its wait; a `setsockopt` that raises leaves the socket as it was. -/
def probe (kernel : HopKernel) (s : HopSocket) (call : ProbeCall) (answers : List SendAnswer) :
    HopSocket :=
  match s.applyTtl kernel call.ttl with
  | .ok s => s.send call answers
  | .error _ => s

end HopSocket

inductive HopAction
  | probe (call : ProbeCall) (answers : List SendAnswer)
  /-- The wait of a call ends, with an answer or without one. -/
  | ended (call : ProbeCall)

/-- One step of a transport. -/
inductive HopStep (kernel : HopKernel) : HopSocket → HopAction → HopSocket → Prop
  | probe {s : HopSocket} {call : ProbeCall} {answers : List SendAnswer} :
      HopStep kernel s (.probe call answers) (s.probe kernel call answers)
  | ended {s : HopSocket} {call : ProbeCall} : call ∈ s.waiting →
      HopStep kernel s (.ended call) { s with waiting := s.waiting.erase call }

/-- No probe starts while another waits. -/
def OneAtATime (s : HopSocket) : HopAction → Prop
  | .probe _ _ => s.waiting = []
  | .ended _ => True

/-- A run of `AsyncPosixEchoTransport`: probes overlap in any way. -/
def AsyncProbes (kernel : HopKernel) : List HopAction → HopSocket → Prop :=
  Steps (HopStep kernel) (.opened kernel)

/-- A run of `PosixEchoTransport`. -/
def SyncProbes (kernel : HopKernel) : List HopAction → HopSocket → Prop :=
  Steps (guarded OneAtATime (HopStep kernel)) (.opened kernel)

/-! ### What goes out -/

/-- Whether one of the attempts of `_send` goes out. -/
def goesOut : List SendAnswer → Bool
  | [] => false
  | .sent :: _ => true
  | .refused drained :: rest => drained && goesOut rest

/-- Whether a call's hop limit is one the kernel takes. -/
def HopKernel.takes (kernel : HopKernel) (ttl : Option ℕ) : Bool := ttl.all kernel.accepts

/-- What a step puts on the wire, under the hop limit of its own call. -/
def ownRequest (kernel : HopKernel) : HopAction → List SentRequest
  | .probe call answers =>
    if kernel.takes call.ttl && goesOut (answers.take 2) then
      [⟨call, call.ttl.getD kernel.systemDefault⟩]
    else []
  | .ended _ => []

/-- Every request as its own call asks for it, whatever the other calls do. -/
def ownRequests (kernel : HopKernel) (as : List HopAction) : List SentRequest :=
  as.flatMap (ownRequest kernel)

def setBy (kernel : HopKernel) : HopAction → Option ℕ
  | .probe call _ => call.ttl.filter kernel.accepts
  | .ended _ => none

/-- The hop limit set last, if one was set. -/
def lastSet (kernel : HopKernel) (as : List HopAction) : Option ℕ :=
  as.reverse.findSome? (setBy kernel)

/-- A plain probe that goes out follows no other hop limit than the system's. -/
def PlainUnderDefault (kernel : HopKernel) (before : List HopAction) : HopAction → Prop
  | .probe call answers => call.ttl = none → goesOut (answers.take 2) = true →
      ∀ n, lastSet kernel before = some n → n = kernel.systemDefault
  | .ended _ => True

/-- Every plain probe of a run is sent under the system's hop limit. -/
def PlainsUnderDefault (kernel : HopKernel) (as : List HopAction) : Prop :=
  ∀ before a after, as = before ++ a :: after → PlainUnderDefault kernel before a

/-! ### One step -/

theorem sendAttempts_eq (s : HopSocket) (call : ProbeCall) (answers : List SendAnswer) :
    (s.sendAttempts call answers).hopLimit = s.hopLimit ∧
      (s.sendAttempts call answers).sent =
        s.sent ++ if goesOut answers then [⟨call, s.hopLimit⟩] else [] := by
  induction answers with
  | nil => simp [HopSocket.sendAttempts, goesOut]
  | cons answer rest ih =>
    cases answer with
    | sent => simp [HopSocket.sendAttempts, goesOut]
    | refused drained =>
      cases drained with
      | true => simpa [HopSocket.sendAttempts, goesOut] using ih
      | false => simp [HopSocket.sendAttempts, goesOut]

/-- What a step puts on the wire, under the hop limit in force. -/
def putOut (kernel : HopKernel) (hopLimit : ℕ) : HopAction → List SentRequest
  | .probe call answers =>
    if kernel.takes call.ttl && goesOut (answers.take 2) then [⟨call, call.ttl.getD hopLimit⟩]
    else []
  | .ended _ => []

/-- **What a step does**: it sets the hop limit its call asks for, if the kernel takes it,
and puts the request out under the one then in force. -/
theorem step_eq {kernel : HopKernel} {s t : HopSocket} {a : HopAction}
    (hstep : HopStep kernel s a t) :
    t.hopLimit = (setBy kernel a).getD s.hopLimit ∧
      t.sent = s.sent ++ putOut kernel s.hopLimit a := by
  cases hstep with
  | @probe call answers =>
    rw [HopSocket.probe, putOut, setBy, HopKernel.takes]
    cases httl : call.ttl with
    | none => simpa [HopSocket.applyTtl, HopSocket.send] using sendAttempts_eq s call _
    | some n =>
      by_cases hn : kernel.accepts n = true
      · have := sendAttempts_eq { s with hopLimit := n } call (answers.take 2)
        simpa [HopSocket.applyTtl, HopSocket.send, hn, Option.filter] using this
      · simp [HopSocket.applyTtl, hn, Option.filter]
  | ended => simp [setBy, putOut]

/-- A step puts out its own request exactly when it is no plain probe under another hop
limit than the system's. -/
theorem putOut_eq_iff (kernel : HopKernel) (before : List HopAction) (a : HopAction) :
    putOut kernel ((lastSet kernel before).getD kernel.systemDefault) a = ownRequest kernel a ↔
      PlainUnderDefault kernel before a := by
  cases a with
  | ended call => simp [putOut, ownRequest, PlainUnderDefault]
  | probe call answers =>
    rw [putOut, ownRequest, PlainUnderDefault]
    cases httl : call.ttl with
    | some n => simp
    | none =>
      by_cases hout : goesOut (answers.take 2) = true
      · cases hlast : lastSet kernel before with
        | none => simp
        | some n => simp [hout, HopKernel.takes]
      · simp [hout]

theorem length_putOut (kernel : HopKernel) (hopLimit : ℕ) (a : HopAction) :
    (putOut kernel hopLimit a).length = (ownRequest kernel a).length := by
  cases a with
  | ended call => rfl
  | probe call answers =>
    rw [putOut, ownRequest]
    split <;> rfl

/-! ### A run -/

theorem lastSet_append (kernel : HopKernel) (as : List HopAction) (a : HopAction) :
    lastSet kernel (as ++ [a]) = (setBy kernel a).or (lastSet kernel as) := by
  rw [lastSet, List.reverse_append, List.reverse_singleton, List.singleton_append,
    List.findSome?_cons]
  cases setBy kernel a <;> rfl

theorem plainsUnderDefault_append (kernel : HopKernel) (as : List HopAction) (a : HopAction) :
    PlainsUnderDefault kernel (as ++ [a]) ↔
      PlainsUnderDefault kernel as ∧ PlainUnderDefault kernel as a := by
  constructor
  · intro h
    refine ⟨?_, h as a [] rfl⟩
    intro before b after has
    exact h before b (after ++ [a]) (by rw [has, List.append_assoc, List.cons_append])
  · rintro ⟨h, ha⟩ before b after has
    rcases List.eq_nil_or_concat after with rfl | ⟨rest, c, rfl⟩
    · obtain ⟨rfl, hb⟩ := List.append_inj' has rfl
      rwa [← List.singleton_inj.mp hb]
    · have has : as ++ [a] = (before ++ b :: rest) ++ [c] := by
        rw [has, List.append_assoc, List.cons_append, List.concat_eq_append]
      exact h before b rest (List.append_inj' has rfl).1

/-- What a run of probes has come to. -/
structure HopInv (kernel : HopKernel) (as : List HopAction) (s : HopSocket) : Prop where
  inForce : s.hopLimit = (lastSet kernel as).getD kernel.systemDefault
  length : s.sent.length = (ownRequests kernel as).length
  own : s.sent = ownRequests kernel as ↔ PlainsUnderDefault kernel as

theorem HopInv.step {kernel : HopKernel} {as : List HopAction} {s t : HopSocket} {a : HopAction}
    (h : HopInv kernel as s) (hstep : HopStep kernel s a t) : HopInv kernel (as ++ [a]) t := by
  obtain ⟨hlimit, hsent⟩ := step_eq hstep
  have hown : ownRequests kernel (as ++ [a]) = ownRequests kernel as ++ ownRequest kernel a := by
    rw [ownRequests, List.flatMap_append, List.flatMap_singleton]
    rfl
  refine ⟨?_, ?_, ?_⟩
  · rw [hlimit, h.inForce, lastSet_append]
    cases setBy kernel a <;> rfl
  · rw [hsent, hown, List.length_append, List.length_append, h.length, length_putOut]
  · rw [hsent, hown, plainsUnderDefault_append, ← h.own, ← putOut_eq_iff, ← h.inForce]
    constructor
    · intro heq
      exact List.append_inj heq h.length
    · rintro ⟨hbefore, hnow⟩
      rw [hbefore, hnow]

theorem HopInv.run {kernel : HopKernel} {as : List HopAction} {s : HopSocket}
    (h : AsyncProbes kernel as s) : HopInv kernel as s := by
  refine h.trace ⟨rfl, rfl, iff_of_true rfl ?_⟩ fun h hstep => h.step hstep
  intro before a after hsplit
  simp at hsplit

/-- **Every request goes out under the hop limit its own probe asks for exactly when no
plain probe is sent under another than the system's**, in a run of either transport. -/
theorem sends_own_iff (kernel : HopKernel) :
    (∀ as s, AsyncProbes kernel as s →
      (s.sent = ownRequests kernel as ↔ PlainsUnderDefault kernel as)) ∧
    ∀ as s, SyncProbes kernel as s →
      (s.sent = ownRequests kernel as ↔ PlainsUnderDefault kernel as) :=
  ⟨fun _ _ h => (HopInv.run h).own, fun _ _ h => (HopInv.run (Steps.of_guarded h)).own⟩

/-- A plain probe after one with hop limit 1 goes out with hop limit 1. -/
theorem plain_probe_under_an_earlier_limit :
    let kernel : HopKernel := ⟨64, fun n => decide (1 ≤ n ∧ n ≤ 255)⟩
    ¬ ∀ as s, SyncProbes kernel as s → s.sent = ownRequests kernel as := by
  intro kernel hall
  have hrun : SyncProbes kernel
      [.probe ⟨1, some 1⟩ [.sent], .ended ⟨1, some 1⟩, .probe ⟨2, none⟩ [.sent]] _ :=
    .cons ⟨rfl, .probe⟩ (.cons ⟨trivial, .ended (by decide)⟩ (.single ⟨show _ = _ by decide, .probe⟩))
  exact absurd (hall _ _ hrun) (by decide)

end IPScout
