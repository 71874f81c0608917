import Mathlib.Data.Set.Function
import IPScout.Base.Octets
import IPScout.Base.Steps
import IPScout.Errors

/-!
# A capture and its close

`receive` and `close` of the three captures: the packet socket of `dhcp_linux.py`,
the raw socket of `dhcp_windows.py` and the BPF device of `dhcp_macos.py`.  One
thread receives, any number of threads close, and a run takes one step of one thread
after another.  What the kernel answers to a wait or a read is free at every moment,
also after the close: a descriptor's number may have been given away again.

`close` sets `_closed` before anything else, and each of the guarded calls looks at it
before an `OSError` goes out, so nothing they raise comes out of a closed capture.  Two
steps are outside the guard, and with them the promise fails: `settimeout` on a socket
that has been released, and taking a pending frame that a close has cleared away.
-/

namespace IPScout

open Base Base.Octets

/-! ### One read of a BPF device -/

/-- `_BPF_HDR.size`, of `=iiIIH`. -/
def BPF_HDR_SIZE : ℕ := 18

/-- `iter_bpf_frames` from one position on. -/
def iterBpfFramesFrom (buffer : Octets) : ℕ → ℕ → List Octets
  | 0, _ => []
  | fuel + 1, position =>
    if position + BPF_HDR_SIZE ≤ buffer.length then
      let caplen := littleEndian (slice buffer (position + 8) (position + 12))
      let hdrlen := littleEndian (slice buffer (position + 16) (position + 18))
      if hdrlen < BPF_HDR_SIZE ∨ caplen = 0 then []
      else if position + hdrlen + caplen > buffer.length then []
      else
        slice buffer (position + hdrlen) (position + hdrlen + caplen) ::
          -- BPF_WORDALIGN
          iterBpfFramesFrom buffer fuel (position + (hdrlen + caplen + 3) / 4 * 4)
    else []

/-- `iter_bpf_frames`: each record is longer than its header, so the octets of a read
are fuel enough. -/
def iterBpfFrames (buffer : Octets) : List Octets := iterBpfFramesFrom buffer buffer.length 0

/-- **The walk over a read never ends for want of fuel.** -/
theorem iterBpfFramesFrom_eq (buffer : Octets) {m n position : ℕ}
    (hm : buffer.length ≤ position + m) (hn : buffer.length ≤ position + n) :
    iterBpfFramesFrom buffer m position = iterBpfFramesFrom buffer n position := by
  induction m generalizing n position with
  | zero =>
    cases n with
    | zero => rfl
    | succ n =>
      rw [iterBpfFramesFrom, iterBpfFramesFrom, if_neg]
      rw [BPF_HDR_SIZE]
      omega
  | succ m ih =>
    cases n with
    | zero =>
      rw [iterBpfFramesFrom, iterBpfFramesFrom, if_neg]
      rw [BPF_HDR_SIZE]
      omega
    | succ n =>
      rw [iterBpfFramesFrom, iterBpfFramesFrom]
      split
      · dsimp only
        split
        · rfl
        · next hrecord =>
          split
          · rfl
          · rw [BPF_HDR_SIZE, not_or, not_lt] at hrecord
            rw [ih (n := n) (by omega) (by omega)]
      · rfl

/-! ### States -/

/-- The captures, by what they read from. -/
inductive Backend
  /-- `PacketSocketCapture`. -/
  | packetSocket
  /-- `RawSocketCapture`. -/
  | rawSocket (promiscuous : Bool)
  /-- `BpfCapture`. -/
  | bpf
  deriving DecidableEq

/-- Where the receiving thread is in `receive`. -/
inductive Receiver
  | idle
  /-- Before `settimeout`. -/
  | settingTimeout
  /-- In `recv`. -/
  | receiving
  /-- Before the first `if self._pending`. -/
  | checking
  /-- Before `popleft`. -/
  | taking
  /-- In `select`. -/
  | selecting
  /-- In `os.read`. -/
  | reading
  /-- Before the frames of a read are queued. -/
  | queueing (chunk : Octets)
  /-- Before the last `if self._pending`. -/
  | rechecking
  /-- Before `if self._closed`. -/
  | guarding (e : OSErr)
  | returning (frame : Option Octets)
  | raising (e : PyError)
  deriving DecidableEq

/-- Where a thread is in `close`. -/
inductive Closer
  | idle
  /-- Before `_closed` is set. -/
  | marking
  /-- Before `_pending.clear()`. -/
  | clearing
  /-- Before the `ioctl` that turns promiscuous mode off. -/
  | quieting
  /-- Before the socket or the descriptor is closed. -/
  | releasing
  | finished
  deriving DecidableEq

/-- What the threads share of a capture, and where each of them is. -/
structure Capture where
  closed : Bool
  released : Bool
  pending : List Octets
  receiver : Receiver
  closer : ℕ → Closer

namespace Capture

def initial : Capture := ⟨false, false, [], .idle, fun _ => .idle⟩

/-- The state in which a call of `close` has reached another place. -/
def setCloser (s : Capture) (i : ℕ) (c : Closer) : Capture :=
  { s with closer := Function.update s.closer i c }

end Capture

/-- `EBADF`. -/
def badDescriptor : OSErr :=
  ⟨.OSError, some 9, none, some "Bad file descriptor".toList,
    "[Errno 9] Bad file descriptor".toList⟩

/-- What `settimeout` raises on a closed socket. -/
def Backend.notASocket : Backend → PyError
  | rawSocket _ => .os ⟨.OSError, some 10038, some 10038,
      some "An operation was attempted on something that is not a socket".toList,
      "[WinError 10038] An operation was attempted on something that is not a socket".toList⟩
  | _ => .os badDescriptor

/-- What `popleft` raises on an empty deque. -/
def emptyDeque : PyError := .index [say "pop from an empty deque"]

/-! ### Steps -/

inductive CaptureAction
  /-- A call of `receive`. -/
  | receive
  | settimeout
  | recv (outcome : Except OSErr Octets)
  /-- An `if self._pending`. -/
  | check
  | take
  | select (outcome : Except OSErr Bool)
  | read (outcome : Except OSErr Octets)
  | queue
  /-- `if self._closed`. -/
  | guard
  | returned (frame : Option Octets)
  | raised (e : PyError)
  /-- A call of `close`. -/
  | close (i : ℕ)
  | mark (i : ℕ)
  | clear (i : ℕ)
  | quiet (i : ℕ)
  | release (i : ℕ)
  | closed (i : ℕ)

/-- Where `receive` begins. -/
def Backend.entry : Backend → Receiver
  | bpf => .checking
  | _ => .settingTimeout

/-- What `close` does after `_closed` is set. -/
def Backend.afterMark : Backend → Closer
  | packetSocket => .releasing
  | rawSocket promiscuous => if promiscuous then .quieting else .releasing
  | bpf => .clearing

/-- One step of a capture. -/
inductive CaptureStep (b : Backend) : Capture → CaptureAction → Capture → Prop
  | receive {s : Capture} : s.receiver = .idle →
      CaptureStep b s .receive { s with receiver := b.entry }
  | settimeout {s : Capture} : s.receiver = .settingTimeout →
      CaptureStep b s .settimeout
        { s with receiver := if s.released then .raising b.notASocket else .receiving }
  | recv {s : Capture} {outcome : Except OSErr Octets} : s.receiver = .receiving →
      CaptureStep b s (.recv outcome)
        { s with receiver := match outcome with
            | .ok frame => .returning (some frame)
            | .error e => if e.cls = .TimeoutError then .returning none else .guarding e }
  | check {s : Capture} : s.receiver = .checking →
      CaptureStep b s .check
        { s with receiver := if s.pending.isEmpty then .selecting else .taking }
  | recheck {s : Capture} : s.receiver = .rechecking →
      CaptureStep b s .check
        { s with receiver := if s.pending.isEmpty then .returning none else .taking }
  | take {s : Capture} : s.receiver = .taking →
      CaptureStep b s .take
        { s with
          receiver := match s.pending with
            | [] => .raising emptyDeque
            | frame :: _ => .returning (some frame)
          pending := s.pending.tail }
  | select {s : Capture} {outcome : Except OSErr Bool} : s.receiver = .selecting →
      CaptureStep b s (.select outcome)
        { s with receiver := match outcome with
            | .ok readable => if readable then .reading else .returning none
            | .error e => .guarding e }
  | read {s : Capture} {outcome : Except OSErr Octets} : s.receiver = .reading →
      CaptureStep b s (.read outcome)
        { s with receiver := match outcome with
            | .ok chunk => .queueing chunk
            | .error e => .guarding e }
  | queue {s : Capture} {chunk : Octets} : s.receiver = .queueing chunk →
      CaptureStep b s .queue
        { s with receiver := .rechecking, pending := s.pending ++ iterBpfFrames chunk }
  | guard {s : Capture} {e : OSErr} : s.receiver = .guarding e →
      CaptureStep b s .guard
        { s with receiver := if s.closed then .returning none else .raising (.os e) }
  | returned {s : Capture} {frame : Option Octets} : s.receiver = .returning frame →
      CaptureStep b s (.returned frame) { s with receiver := .idle }
  | raised {s : Capture} {e : PyError} : s.receiver = .raising e →
      CaptureStep b s (.raised e) { s with receiver := .idle }
  | close {s : Capture} {i : ℕ} : s.closer i = .idle →
      CaptureStep b s (.close i) (s.setCloser i .marking)
  | mark {s : Capture} {i : ℕ} : s.closer i = .marking →
      CaptureStep b s (.mark i) { s.setCloser i b.afterMark with closed := true }
  | clear {s : Capture} {i : ℕ} : s.closer i = .clearing →
      CaptureStep b s (.clear i) { s.setCloser i .releasing with pending := [] }
  -- an `OSError` of the two calls that follow is suppressed
  | quiet {s : Capture} {i : ℕ} : s.closer i = .quieting →
      CaptureStep b s (.quiet i) (s.setCloser i .releasing)
  | release {s : Capture} {i : ℕ} : s.closer i = .releasing →
      CaptureStep b s (.release i) { s.setCloser i .finished with released := true }
  | closed {s : Capture} {i : ℕ} : s.closer i = .finished →
      CaptureStep b s (.closed i) (s.setCloser i .idle)

/-! ### What a step can raise -/

variable {b : Backend}

/-- **Where an exception of `receive` comes from**: a `settimeout` on a released socket,
a take from an empty deque, or an `OSError` met before the close. -/
theorem raising_of_step {s t : Capture} {a : CaptureAction} {e : PyError}
    (hstep : CaptureStep b s a t) (h : t.receiver = .raising e) :
    s.receiver = .raising e ∨ (a = .settimeout ∧ s.released = true) ∨
      (s.receiver = .taking ∧ s.pending = []) ∨ (a = .guard ∧ s.closed = false) := by
  cases hstep with
  | receive => cases b <;> simp [Backend.entry] at h
  | settimeout =>
    dsimp only at h
    split at h
    · next hreleased => exact Or.inr (Or.inl ⟨rfl, hreleased⟩)
    · simp at h
  | @recv outcome _ =>
    cases outcome with
    | ok frame => simp at h
    | error e =>
      dsimp only at h
      split at h <;> simp at h
  | check | recheck =>
    dsimp only at h
    split at h <;> simp at h
  | take htaking =>
    cases hpending : s.pending with
    | nil => exact Or.inr (Or.inr (Or.inl ⟨htaking, rfl⟩))
    | cons frame rest =>
      rw [hpending] at h
      simp at h
  | @select outcome _ =>
    cases outcome with
    | ok readable => cases readable <;> simp at h
    | error e => simp at h
  | @read outcome _ => cases outcome <;> simp at h
  | queue | returned | raised => simp at h
  | guard =>
    dsimp only at h
    split at h
    · simp at h
    · next hopen => exact Or.inr (Or.inr (Or.inr ⟨rfl, by simpa using hopen⟩))
  | close | mark | clear | quiet | release | closed => exact Or.inl h

/-- How a thread comes to take a pending frame, and who may come between. -/
theorem taking_of_step {s t : Capture} {a : CaptureAction} (hstep : CaptureStep b s a t)
    (h : t.receiver = .taking) :
    t.pending ≠ [] ∨ (s.receiver = .taking ∧ (t.pending = s.pending ∨ ∃ i, a = .clear i)) := by
  cases hstep with
  | receive => cases b <;> simp [Backend.entry] at h
  | settimeout | guard =>
    dsimp only at h
    split at h <;> simp at h
  | @recv outcome _ =>
    cases outcome with
    | ok frame => simp at h
    | error e =>
      dsimp only at h
      split at h <;> simp at h
  | check | recheck =>
    dsimp only at h
    split at h
    · simp at h
    · next hstocked => exact Or.inl (by simpa using hstocked)
  | take =>
    dsimp only at h
    split at h <;> simp at h
  | @select outcome _ =>
    cases outcome with
    | ok readable => cases readable <;> simp at h
    | error e => simp at h
  | @read outcome _ => cases outcome <;> simp at h
  | queue | returned | raised => simp at h
  | close | mark | quiet | release | closed => exact Or.inr ⟨h, Or.inl rfl⟩
  | clear => exact Or.inr ⟨h, Or.inr ⟨_, rfl⟩⟩

/-- `_closed` stays set. -/
theorem closed_of_step {s t : Capture} {a : CaptureAction} (hstep : CaptureStep b s a t)
    (h : s.closed = true) : t.closed = true := by
  cases hstep with
  | mark => rfl
  | receive | settimeout | recv | check | recheck | take | select | read | queue | guard
  | returned | raised | close | clear | quiet | release | closed => exact h

/-- Past its first step a `close` has set `_closed`, and so has whoever released the
socket. -/
structure Capture.Marked (s : Capture) : Prop where
  released : s.released = true → s.closed = true
  closer : ∀ i c, s.closer i = c → c ≠ .idle → c ≠ .marking → s.closed = true

theorem Capture.Marked.setCloser {s : Capture} (h : s.Marked) (i : ℕ) {c : Closer}
    (hc : c ≠ .idle → c ≠ .marking → s.closed = true) : (s.setCloser i c).Marked := by
  refine ⟨h.released, ?_⟩
  intro j d
  show Function.update s.closer i c j = d → _
  by_cases hji : j = i
  · subst hji
    rw [Function.update_self]
    rintro rfl
    exact hc
  · rw [Function.update_of_ne hji]
    exact h.closer j d

theorem Capture.Marked.step {s t : Capture} {a : CaptureAction} (h : s.Marked)
    (hstep : CaptureStep b s a t) : t.Marked := by
  cases hstep with
  | receive | settimeout | recv | check | recheck | take | select | read | queue | guard
  | returned | raised => exact ⟨h.released, h.closer⟩
  | close => exact h.setCloser _ fun _ hmarking => absurd rfl hmarking
  | mark => exact ⟨fun _ => rfl, fun _ _ _ _ _ => rfl⟩
  | clear hclearing =>
    obtain ⟨hreleased, hcloser⟩ := h.setCloser _ fun _ _ =>
      h.closer _ _ hclearing (by decide) (by decide)
    exact ⟨hreleased, hcloser⟩
  | quiet hquieting =>
    exact h.setCloser _ fun _ _ => h.closer _ _ hquieting (by decide) (by decide)
  | release hreleasing =>
    have hclosed := h.closer _ _ hreleasing (by decide) (by decide)
    exact ⟨fun _ => hclosed, fun _ _ _ _ _ => hclosed⟩
  | closed => exact h.setCloser _ fun hidle => absurd rfl hidle

/-! ### A timely close -/

/-- No socket is released between the call and its `settimeout`, and no pending frame
is cleared away between the look and the take. -/
def Timely (s : Capture) : CaptureAction → Prop
  | .settimeout => s.released = false
  | .clear _ => s.receiver ≠ .taking
  | _ => True

/-- No exception is on its way out of `receive`. -/
def Capture.Calm (s : Capture) : Prop := ∀ e, s.receiver ≠ .raising e

/-- A frame that is about to be taken is there. -/
def Capture.Stocked (s : Capture) : Prop := s.receiver = .taking → s.pending ≠ []

theorem Capture.Stocked.step {s t : Capture} {a : CaptureAction} (h : s.Stocked)
    (hstep : guarded Timely (CaptureStep b) s a t) : t.Stocked := by
  intro htaking
  rcases taking_of_step hstep.2 htaking with hstocked | ⟨hwas, hsame | ⟨i, rfl⟩⟩
  · exact hstocked
  · rw [hsame]
    exact h hwas
  · exact absurd hwas hstep.1

/-- **A timely step of a closed capture raises nothing.** -/
theorem Capture.Calm.step {s t : Capture} {a : CaptureAction} (h : s.Calm)
    (hclosed : s.closed = true) (hstocked : s.Stocked)
    (hstep : guarded Timely (CaptureStep b) s a t) : t.Calm := by
  intro e hraising
  rcases raising_of_step hstep.2 hraising with hwas | ⟨rfl, hreleased⟩ | ⟨htaking, hempty⟩ |
    ⟨_, hopen⟩
  · exact h e hwas
  · have hheld : s.released = false := hstep.1
    rw [hreleased] at hheld
    simp at hheld
  · exact hstocked htaking hempty
  · rw [hclosed] at hopen
    simp at hopen

theorem Capture.Calm.ne_raised {s t : Capture} {a : CaptureAction} (h : s.Calm)
    (hstep : CaptureStep b s a t) (e : PyError) : a ≠ .raised e := by
  rintro rfl
  cases hstep with
  | raised hraising => exact h e hraising

/-- What holds once `close` has been called, of a run whose closes are timely. -/
structure Capture.Quiet (s : Capture) : Prop where
  closed : s.closed = true
  stocked : s.Stocked
  calm : s.Calm

theorem Capture.Quiet.step {s t : Capture} {a : CaptureAction} (h : s.Quiet)
    (hstep : guarded Timely (CaptureStep b) s a t) : t.Quiet where
  closed := closed_of_step hstep.2 h.closed
  stocked := h.stocked.step hstep
  calm := h.calm.step h.closed h.stocked hstep

theorem stocked_of_run {as : List CaptureAction} {s : Capture}
    (h : Steps (guarded Timely (CaptureStep b)) .initial as s) : s.Stocked := by
  refine h.invariant ?_ fun hs hstep => hs.step hstep
  intro htaking
  simp [Capture.initial] at htaking

theorem marked_of_run {as : List CaptureAction} {s : Capture}
    (h : Steps (CaptureStep b) .initial as s) : s.Marked := by
  refine h.invariant ?_ fun hs hstep => hs.step hstep
  exact ⟨by simp [Capture.initial], by simp [Capture.initial]⟩

/-- **Once `close` has been called a timely `receive` raises nothing.** -/
theorem receive_after_close {as bs : List CaptureAction} {s t : Capture}
    (has : Steps (guarded Timely (CaptureStep b)) .initial as s) (hclosed : s.closed = true)
    (hcalm : s.Calm) (hbs : Steps (guarded Timely (CaptureStep b)) s bs t) :
    ∀ e, .raised e ∉ bs := by
  have hall := hbs.trace (I := fun bs t => t.Quiet ∧ ∀ e, CaptureAction.raised e ∉ bs)
    ⟨⟨hclosed, stocked_of_run has, hcalm⟩, by simp⟩ ?_
  · exact hall.2
  · intro cs u a v hu hstep
    refine ⟨hu.1.step hstep, ?_⟩
    intro e hmem
    rcases List.mem_append.mp hmem with hmem | hmem
    · exact hu.2 e hmem
    · exact hu.1.calm.ne_raised hstep.2 e (List.mem_singleton.mp hmem).symm

/-- **A step that is not timely makes `receive` raise**, on a capture that has been
closed. -/
theorem untimely_raises {as : List CaptureAction} {s t : Capture} {a : CaptureAction}
    (has : Steps (CaptureStep b) .initial as s) (hstep : CaptureStep b s a t)
    (ha : ¬ Timely s a) :
    s.closed = true ∧ s.Calm ∧ ∃ bs e u, Steps (CaptureStep b) t (bs ++ [.raised e]) u := by
  have hmarked := marked_of_run has
  cases hstep with
  | receive | recv | check | recheck | take | select | read | queue | guard | returned | raised
  | close | mark | quiet | release | closed => exact absurd trivial ha
  | settimeout hsetting =>
    have hreleased : s.released = true := by simpa [Timely] using ha
    refine ⟨hmarked.released hreleased, fun e => by simp [hsetting], [], b.notASocket, _,
      .single (.raised ?_)⟩
    rw [hreleased]
    rfl
  | @clear i hclearing =>
    have htaking : s.receiver = .taking := by simpa [Timely] using ha
    have hclosed := hmarked.closer i _ hclearing (by decide) (by decide)
    exact ⟨hclosed, fun e => by simp [htaking], [.take], emptyDeque, _,
      .cons (.take htaking) (.single (.raised rfl))⟩

end IPScout
