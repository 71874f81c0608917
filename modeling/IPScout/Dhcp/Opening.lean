import Mathlib.Data.Char
import Mathlib.Data.List.Lex
import Mathlib.Data.Set.Insert
import IPScout.Base.Ensures
import IPScout.Base.Utf8
import IPScout.Dhcp.Captures
import IPScout.Net.Address
import IPScout.Routes.Message

/-!
# Opening a capture

`open_capture`, `capture_available` and `close` of `dhcp_linux.py`, `dhcp_windows.py` and
`dhcp_macos.py`, with `open_bpf_device` of `bpf.py`, and the `with` block of a session.  Every
call to the system may fail, at every place.

A capture that is opened owns one new descriptor, one that is refused leaves none behind, and
a refusal is the library's own error, unless a close has failed on the way out
(`openCapture_keeps`).  So a session whose body closes what it opens leaves the system with the
descriptors it found (`session_keeps`), and so does the question whether a capture is available
(`dhcpCaptureAvailable_keeps`).  `capture_available` of macOS tries the devices as
`open_bpf_device` claims them, and the two agree (`captureAvailable_agrees`).
-/

namespace IPScout

open Base Base.Octets Base.Text Base.Exchange

/-! ### What is asked of the system -/

inductive CaptureCall
  /-- `os.open` of `/dev/bpf<number>`. -/
  | openBpf (number : ℕ)
  /-- `socket.socket`. -/
  | openSocket
  | bind (descriptor : ℕ) (address : Text)
  /-- `setsockopt` of `SO_RCVBUF`. -/
  | setReceiveBuffer (descriptor : ℕ)
  | ifNametoindex (name : Text)
  /-- `setsockopt` of `PACKET_ADD_MEMBERSHIP`, promiscuous. -/
  | addMembership (descriptor index : ℕ)
  | ioctl (descriptor request : ℕ) (argument : Option Octets)
  /-- `socket.ioctl` of `SIO_RCVALL`. -/
  | rcvall (descriptor value : ℕ)
  /-- `list_interfaces` of Windows: the names with their IPv4 addresses. -/
  | listInterfaces
  /-- `Thread.start`; a `false` is its `RuntimeError`. -/
  | startThread
  | close (descriptor : ℕ)

/-- What is answered; an `ioctl` gives back the number its buffer holds. -/
abbrev CaptureCall.Answer : CaptureCall → Type
  | openBpf _ => Except OSErr ℕ
  | openSocket => Except OSErr ℕ
  | bind _ _ => Except OSErr Unit
  | setReceiveBuffer _ => Except OSErr Unit
  | ifNametoindex _ => Except OSErr ℕ
  | addMembership _ _ => Except OSErr Unit
  | ioctl _ _ _ => Except OSErr ℕ
  | rcvall _ _ => Except OSErr Unit
  | listInterfaces => List (Text × List Text)
  | startThread => Bool
  | close _ => Except OSErr Unit

/-- A function that asks the system and may raise. -/
abbrev Opening (ε α : Type) := Exchange CaptureCall CaptureCall.Answer (Except ε α)

/-- The host a capture is opened on. -/
structure CaptureHost where
  /-- `sys.platform`. -/
  platform : Text
  /-- Whether `socket` has `AF_PACKET`. -/
  hasPacketFamily : Bool
  /-- Whether a socket has `ioctl`. -/
  hasIoctl : Bool
  /-- The interface of the route `default_gateway` finds. -/
  defaultInterface : Option Text

/-- A capture that is open. -/
inductive OpenCapture
  | packetSocket (descriptor : ℕ) (interface : Text)
  | rawSocket (descriptor : ℕ) (address : Text) (promiscuous : Bool)
  | bpf (descriptor bufferLength : ℕ) (interface : Text)

def OpenCapture.descriptor : OpenCapture → ℕ
  | packetSocket descriptor _ => descriptor
  | rawSocket descriptor _ _ => descriptor
  | bpf descriptor _ _ => descriptor

/-- A close on the way out of a failure; what it raises itself takes the place of the failure. -/
def closeThenRaise {ε α : Type} (ofOSError : OSErr → ε) (descriptor : ℕ) (failure : ε) :
    Opening ε α :=
  .ask (.close descriptor) fun closed : Except OSErr Unit =>
    match closed with
    | .error e => .done (.error (ofOSError e))
    | .ok _ => .done (.error failure)

namespace Bpf

def IOC_VOID : ℕ := 0x20000000
def IOC_WRITE : ℕ := 0x80000000
def IOC_READ : ℕ := 0x40000000
def IOCPARM_MASK : ℕ := 0x1FFF
def BPF_GROUP : ℕ := 66

def IFREQ_SIZE : ℕ := 32
def UINT_SIZE : ℕ := 4

def MAX_BPF_DEVICES : ℕ := 64

def io (number : ℕ) : ℕ := IOC_VOID ||| BPF_GROUP <<< 8 ||| number

def iow (number size : ℕ) : ℕ :=
  IOC_WRITE ||| (size &&& IOCPARM_MASK) <<< 16 ||| BPF_GROUP <<< 8 ||| number

def ior (number size : ℕ) : ℕ :=
  IOC_READ ||| (size &&& IOCPARM_MASK) <<< 16 ||| BPF_GROUP <<< 8 ||| number

def BIOCGBLEN : ℕ := ior 102 UINT_SIZE
def BIOCPROMISC : ℕ := io 105
def BIOCSETIF : ℕ := iow 108 IFREQ_SIZE
def BIOCIMMEDIATE : ℕ := iow 112 UINT_SIZE
def BIOCSHDRCMPLT : ℕ := iow 117 UINT_SIZE

structure BpfDevice where
  descriptor : ℕ
  bufferLength : ℕ

/-- The `struct ifreq` that names an interface. -/
def ifreq (interface : Text) : Octets :=
  let name := (encodeUtf8 interface).take 15
  name ++ List.replicate (IFREQ_SIZE - name.length) 0

/-- `struct.pack("=I", n)` on a BSD, which is little-endian here. -/
def uint (n : ℕ) : Octets := packedLittle UINT_SIZE n

/-- An `ioctl` that is made on a condition. -/
def ioctlIf (condition : Bool) (descriptor request : ℕ) (argument : Option Octets) :
    Opening OSErr Unit :=
  if condition then
    .ask (.ioctl descriptor request argument) fun answer : Except OSErr ℕ =>
      .done (answer.map fun _ => ())
  else .done (.ok ())

/-- The requests to a device that has been opened; the last one asks for its buffer length. -/
def configure (interface : Text) (promiscuous completeHeaders : Bool) (descriptor : ℕ) :
    Opening OSErr ℕ :=
  Exchange.andThen (ioctlIf true descriptor BIOCSETIF (some (ifreq interface))) fun _ =>
  Exchange.andThen (ioctlIf true descriptor BIOCIMMEDIATE (some (uint 1))) fun _ =>
  Exchange.andThen (ioctlIf completeHeaders descriptor BIOCSHDRCMPLT (some (uint 1))) fun _ =>
  Exchange.andThen (ioctlIf promiscuous descriptor BIOCPROMISC none) fun _ =>
  .ask (.ioctl descriptor BIOCGBLEN (some (uint 0))) .done

def noDevice : OSErr :=
  ⟨.OSError, none, none, none, "no BPF device could be opened".toList⟩

/-- The loop of `open_bpf_device`. -/
def claim (interface : Text) (promiscuous completeHeaders : Bool) :
    List ℕ → Option OSErr → Opening OSErr BpfDevice
  | [], last => .done (.error (last.getD noDevice))
  | number :: rest, _ =>
    .ask (.openBpf number) fun opened : Except OSErr ℕ =>
      match opened with
      | .error e =>
        if e.isPermissionError then .done (.error e)
        else claim interface promiscuous completeHeaders rest (some e)
      | .ok descriptor =>
        (configure interface promiscuous completeHeaders descriptor).bind fun
          | .error e => closeThenRaise id descriptor e
          | .ok length => .done (.ok ⟨descriptor, length⟩)

def openBpfDevice (interface : Text) (promiscuous completeHeaders : Bool) :
    Opening OSErr BpfDevice :=
  claim interface promiscuous completeHeaders (List.range MAX_BPF_DEVICES) none

end Bpf

namespace DhcpMacos

/-- The loop of `capture_available`. -/
def tryDevices : List ℕ → Exchange CaptureCall CaptureCall.Answer (Except OSErr Bool)
  | [] => .done (.ok false)
  | number :: rest =>
    .ask (.openBpf number) fun opened : Except OSErr ℕ =>
      match opened with
      | .error e => if e.isPermissionError then .done (.ok false) else tryDevices rest
      | .ok descriptor => .ask (.close descriptor) fun closed : Except OSErr Unit =>
          .done (closed.map fun _ => true)

def captureAvailable : Opening OSErr Bool := tryDevices (List.range Bpf.MAX_BPF_DEVICES)

end DhcpMacos

/-! ### Linux -/

namespace DhcpLinux

def openPacketSocket (host : CaptureHost) : Opening PyError ℕ :=
  if host.hasPacketFamily then
    .ask .openSocket fun opened : Except OSErr ℕ => .done (opened.mapError .os)
  else .done (.error (.scout .IPScoutUnsupportedError
    [say "AF_PACKET is a Linux facility and this process is not on Linux"]))

def captureAvailable (host : CaptureHost) : Opening OSErr Bool :=
  (openPacketSocket host).bind fun
    | .error _ => .done (.ok false)
    | .ok descriptor => .ask (.close descriptor) fun closed : Except OSErr Unit =>
        .done (closed.map fun _ => true)

end DhcpLinux

/-! ### Windows -/

namespace DhcpWindows

def RCVALL_OFF : ℕ := 0
def captureAvailable (host : CaptureHost) : Opening OSErr Bool :=
  .ask .openSocket fun opened : Except OSErr ℕ =>
    match opened with
    | .error _ => .done (.ok false)
    | .ok descriptor => .ask (.close descriptor) fun closed : Except OSErr Unit =>
        .done (closed.map fun _ => host.hasIoctl)

end DhcpWindows

/-! ### Any platform -/

def dhcpCaptureAvailable (host : CaptureHost) : Opening OSErr Bool :=
  if "linux".toList.isPrefixOf host.platform then DhcpLinux.captureAvailable host
  else if host.platform = "win32".toList then DhcpWindows.captureAvailable host
  else if host.platform = "darwin".toList then DhcpMacos.captureAvailable
  else .done (.ok false)

/-- `close`, which raises nothing. -/
def OpenCapture.close (capture : OpenCapture) : Exchange CaptureCall CaptureCall.Answer Unit :=
  match capture with
  | .rawSocket descriptor _ true =>
    .ask (.rcvall descriptor DhcpWindows.RCVALL_OFF) fun _ =>
      .ask (.close descriptor) fun _ => .done ()
  | capture => .ask (.close capture.descriptor) fun _ => .done ()

/-- What the system holds. -/
@[ext]
structure CaptureSystem where
  /-- The descriptors that are open. -/
  opened : Set ℕ
  /-- Whether a close has been answered with an error. -/
  closeFailed : Prop

/-- The calls that open and close nothing. -/
def CaptureCall.isQuiet : CaptureCall → Bool
  | openBpf _ => false
  | openSocket => false
  | close _ => false
  | _ => true

namespace CaptureSystem

def withOpened (s : CaptureSystem) (descriptor : ℕ) : CaptureSystem :=
  { s with opened := insert descriptor s.opened }

/-- The system when a descriptor has been closed. -/
def withClosed (s : CaptureSystem) (descriptor : ℕ) (answer : Except OSErr Unit) :
    CaptureSystem where
  opened := s.opened \ {descriptor}
  closeFailed := s.closeFailed ∨ ∃ e, answer = .error e

theorem opened_withClosed_withOpened {s : CaptureSystem} {descriptor : ℕ}
    (h : descriptor ∉ s.opened) (answer : Except OSErr Unit) :
    ((s.withOpened descriptor).withClosed descriptor answer).opened = s.opened :=
  Set.insert_sdiff_self_of_notMem h

end CaptureSystem

/-- What a system may do with a call: any of them may fail, and a descriptor that is given out
is not one that is open.  A close that fails has closed nevertheless. -/
inductive CaptureServes : CaptureSystem → (q : CaptureCall) → q.Answer → CaptureSystem → Prop
  | device {s : CaptureSystem} {number descriptor : ℕ} : descriptor ∉ s.opened →
      CaptureServes s (.openBpf number) (.ok descriptor) (s.withOpened descriptor)
  | noDevice {s : CaptureSystem} {number : ℕ} {e : OSErr} :
      CaptureServes s (.openBpf number) (.error e) s
  | socket {s : CaptureSystem} {descriptor : ℕ} : descriptor ∉ s.opened →
      CaptureServes s .openSocket (.ok descriptor) (s.withOpened descriptor)
  | noSocket {s : CaptureSystem} {e : OSErr} : CaptureServes s .openSocket (.error e) s
  | served {s : CaptureSystem} {q : CaptureCall} {r : q.Answer} : q.isQuiet = true →
      CaptureServes s q r s
  | closed {s : CaptureSystem} {descriptor : ℕ} {r : Except OSErr Unit} :
      CaptureServes s (.close descriptor) r (s.withClosed descriptor r)

theorem CaptureServes.eq_of_isQuiet {s t : CaptureSystem} {q : CaptureCall} {r : q.Answer}
    (h : CaptureServes s q r t) (hquiet : q.isQuiet = true) : t = s := by
  cases h with
  | served => rfl
  | _ => cases hquiet

/-! ### Exchanges that open and close nothing -/

/-- Every run leaves the system as it is. -/
def Quiet {α : Type} (m : Exchange CaptureCall CaptureCall.Answer α) : Prop :=
  ∀ s, Ensures CaptureServes s m fun _ u => u = s

namespace Quiet

variable {α β : Type}

theorem done (a : α) : Quiet (.done a) := fun _ => ensures_done.mpr rfl

theorem ask {q : CaptureCall} {next : q.Answer → Exchange CaptureCall CaptureCall.Answer α}
    (hquiet : q.isQuiet = true) (h : ∀ r, Quiet (next r)) : Quiet (.ask q next) := by
  intro s
  refine ensures_ask.mpr ?_
  intro r t hserve
  obtain rfl := hserve.eq_of_isQuiet hquiet
  exact h r t

theorem ensures_bind {m : Exchange CaptureCall CaptureCall.Answer α}
    {f : α → Exchange CaptureCall CaptureCall.Answer β} {s : CaptureSystem}
    {post : β → CaptureSystem → Prop} (hm : Quiet m)
    (hf : ∀ a, Ensures CaptureServes s (f a) post) :
    Ensures CaptureServes s (m.bind f) post := by
  refine Exchange.ensures_bind.mpr ((hm s).mono ?_)
  rintro a u rfl
  exact hf a

theorem andThen {ε : Type} {m : Opening ε α} {f : α → Opening ε β} (hm : Quiet m)
    (hf : ∀ a, Quiet (f a)) : Quiet (m.andThen f) := by
  intro s
  refine hm.ensures_bind ?_
  intro a
  cases a with
  | error e => exact done _ s
  | ok a => exact hf a s

end Quiet

/-- One new descriptor is open when a capture is, none when it is refused; what is raised is
as `refused` says, while no close fails. -/
def OpeningPost {ε α : Type} (descriptorOf : α → ℕ) (refused : ε → Prop) (s : CaptureSystem) :
    Except ε α → CaptureSystem → Prop
  | .ok a, u => descriptorOf a ∉ s.opened ∧ u = s.withOpened (descriptorOf a)
  | .error e, u => u.opened = s.opened ∧ (refused e ∨ u.closeFailed)

variable {s : CaptureSystem} {ε α : Type} {descriptorOf : α → ℕ} {refused : ε → Prop}

theorem OpeningPost.of_error {e : ε} (h : refused e) :
    OpeningPost descriptorOf refused s (.error e) s :=
  ⟨rfl, Or.inl h⟩

/-- The descriptors are those there were, and what is raised is a close that failed. -/
def AvailablePost (s : CaptureSystem) (a : Except OSErr Bool) (u : CaptureSystem) : Prop :=
  u.opened = s.opened ∧ ∀ e, a = .error e → u.closeFailed

theorem AvailablePost.of_answer (found : Bool) : AvailablePost s (.ok found) s :=
  ⟨rfl, fun _ h => by cases h⟩

theorem ensures_closeThenAnswer {descriptor : ℕ} (h : descriptor ∉ s.opened) (found : Bool) :
    Ensures CaptureServes (s.withOpened descriptor)
      (.ask (.close descriptor) fun closed : Except OSErr Unit => .done (closed.map fun _ => found))
      (AvailablePost s) := by
  refine ensures_ask.mpr ?_
  intro r t hserve
  cases hserve with
  | served hquiet => cases hquiet
  | closed =>
    refine ensures_done.mpr ⟨CaptureSystem.opened_withClosed_withOpened h r, ?_⟩
    intro e he
    cases r with
    | error e' => exact Or.inr ⟨e', rfl⟩
    | ok => cases he

theorem DhcpWindows.ensures_captureAvailable (host : CaptureHost) :
    Ensures CaptureServes s (captureAvailable host) (AvailablePost s) := by
  refine ensures_ask.mpr ?_
  intro r t hserve
  cases hserve with
  | served hquiet => cases hquiet
  | noSocket => exact ensures_done.mpr (.of_answer false)
  | socket hnew => exact ensures_closeThenAnswer hnew host.hasIoctl

theorem DhcpLinux.ensures_captureAvailable (host : CaptureHost) :
    Ensures CaptureServes s (captureAvailable host) (AvailablePost s) := by
  rw [captureAvailable, openPacketSocket]
  split
  · refine ensures_ask.mpr ?_
    intro r t hserve
    cases hserve with
    | served hquiet => cases hquiet
    | noSocket => exact ensures_done.mpr (.of_answer false)
    | socket hnew => exact ensures_closeThenAnswer hnew true
  · exact ensures_done.mpr (.of_answer false)

theorem DhcpMacos.ensures_captureAvailable (numbers : List ℕ) :
    Ensures CaptureServes s (tryDevices numbers) (AvailablePost s) := by
  induction numbers with
  | nil => exact ensures_done.mpr (.of_answer false)
  | cons number rest ih =>
    refine ensures_ask.mpr ?_
    intro r t hserve
    cases hserve with
    | served hquiet => cases hquiet
    | noDevice =>
      dsimp only
      split
      · exact ensures_done.mpr (.of_answer false)
      · exact ih
    | device hnew => exact ensures_closeThenAnswer hnew true

/-- **Asking whether a capture is available leaves nothing open**, on every platform and
whatever the system answers; and it raises nothing but what a close does. -/
theorem dhcpCaptureAvailable_keeps (host : CaptureHost) :
    Ensures CaptureServes s (dhcpCaptureAvailable host) (AvailablePost s) := by
  rw [dhcpCaptureAvailable]
  split
  · exact DhcpLinux.ensures_captureAvailable host
  · split
    · exact DhcpWindows.ensures_captureAvailable host
    · split
      · exact DhcpMacos.ensures_captureAvailable _
      · exact ensures_done.mpr (.of_answer false)

/-- Whether the first of some devices that is not taken by another process can be opened; a
`none` of the pool is a device that can. -/
def firstOpens (pool : ℕ → Option OSErr) : List ℕ → Bool
  | [] => false
  | number :: rest =>
    match pool number with
    | none => true
    | some e => if e.isPermissionError then false else firstOpens pool rest

/-- An answer to an open as the pool has it. -/
def AsPooled (pool : ℕ → Option OSErr) : (q : CaptureCall) → q.Answer → Prop
  | .openBpf number, (answer : Except OSErr ℕ) =>
    match pool number with
    | none => ∃ descriptor, answer = .ok descriptor
    | some e => answer = .error e
  | _, _ => True

/-- A system with a pool of devices that stays as it is. -/
def PoolServes (pool : ℕ → Option OSErr) (s : CaptureSystem) (q : CaptureCall) (r : q.Answer)
    (t : CaptureSystem) : Prop :=
  CaptureServes s q r t ∧ AsPooled pool q r

def CaptureCall.isIoctl : CaptureCall → Bool
  | ioctl _ _ _ => true
  | _ => false

/-- `capture_available` answers for the first device that no other process holds. -/
theorem DhcpMacos.ensures_tryDevices (pool : ℕ → Option OSErr) (numbers : List ℕ) :
    Ensures (PoolServes pool) s (tryDevices numbers) fun a _ =>
      ∀ found, a = .ok found → found = firstOpens pool numbers := by
  induction numbers with
  | nil =>
    refine ensures_done.mpr ?_
    rintro _ ⟨⟩
    rfl
  | cons number rest ih =>
    refine ensures_ask.mpr ?_
    rintro r t ⟨hserve, hpooled⟩
    rw [firstOpens]
    cases hpool : pool number with
    | none =>
      rw [AsPooled, hpool] at hpooled
      obtain ⟨descriptor, rfl⟩ := hpooled
      refine ensures_ask.mpr ?_
      rintro closed u _
      refine ensures_done.mpr ?_
      cases closed with
      | error => rintro _ ⟨⟩
      | ok =>
        rintro _ ⟨⟩
        rfl
    | some e =>
      rw [AsPooled, hpool] at hpooled
      obtain rfl : r = .error e := hpooled
      cases hserve with
      | served hquiet => cases hquiet
      | noDevice =>
        dsimp only
        split
        · refine ensures_done.mpr ?_
          rintro _ ⟨⟩
          rfl
        · exact ih

/-- A device is configured when the first one that no other process holds opens, and no device
is claimed otherwise. -/
theorem Bpf.runs_claim {pool : ℕ → Option OSErr} {interface : Text}
    {promiscuous completeHeaders : Bool} {numbers : List ℕ} {last : Option OSErr}
    {trace : List (Sigma CaptureCall.Answer)} {a : Except OSErr BpfDevice} {u : CaptureSystem}
    (h : Runs (PoolServes pool) s (claim interface promiscuous completeHeaders numbers last)
      trace a u) :
    ((∃ call ∈ trace, call.1.isIoctl = true) ↔ firstOpens pool numbers = true) ∧
      (firstOpens pool numbers = false → ∃ e, a = .error e) := by
  induction numbers generalizing last trace with
  | nil =>
    obtain ⟨rfl, rfl, _⟩ := runs_done.mp h
    exact ⟨by simp [firstOpens], fun _ => ⟨_, rfl⟩⟩
  | cons number rest ih =>
    obtain ⟨r, t, calls, rfl, ⟨hserve, hpooled⟩, hrest⟩ := runs_ask.mp h
    rw [firstOpens]
    cases hpool : pool number with
    | none =>
      rw [AsPooled, hpool] at hpooled
      obtain ⟨descriptor, rfl⟩ := hpooled
      -- the first request to an open device names the interface
      obtain ⟨answer, _, others, rfl, _⟩ := runs_ask.mp hrest
      refine ⟨⟨fun _ => rfl, fun _ => ?_⟩, ?_⟩
      · exact ⟨⟨.ioctl descriptor BIOCSETIF (some (ifreq interface)), answer⟩,
          List.mem_cons_of_mem _ List.mem_cons_self, rfl⟩
      · rintro ⟨⟩
    | some e =>
      rw [AsPooled, hpool] at hpooled
      obtain rfl : r = .error e := hpooled
      cases hserve with
      | served hquiet => cases hquiet
      | noDevice =>
        dsimp only at hrest ⊢
        split at hrest
        · next hrefused =>
          obtain ⟨rfl, rfl, _⟩ := runs_done.mp hrest
          rw [if_pos hrefused]
          exact ⟨by simp [CaptureCall.isIoctl], fun _ => ⟨_, rfl⟩⟩
        · next hbusy =>
          rw [if_neg hbusy]
          obtain ⟨hioctl, herror⟩ := ih hrest
          refine ⟨?_, herror⟩
          rw [← hioctl]
          simp [CaptureCall.isIoctl]

/-- **`capture_available` answers as a capture would find the devices**: on a pool of devices
that stays as it is, it answers `True` exactly when `open_bpf_device` gets a device to
configure, and where it answers `False` no device is claimed. -/
theorem captureAvailable_agrees (pool : ℕ → Option OSErr) (interface : Text)
    (promiscuous completeHeaders : Bool) : ∃ free : Bool,
      (∀ s, Ensures (PoolServes pool) s DhcpMacos.captureAvailable fun a _ =>
        ∀ found, a = .ok found → found = free) ∧
      ∀ s trace a u, Runs (PoolServes pool) s
        (Bpf.openBpfDevice interface promiscuous completeHeaders) trace a u →
        ((∃ call ∈ trace, call.1.isIoctl = true) ↔ free = true) ∧
          (free = false → ∃ e, a = .error e) := by
  refine ⟨firstOpens pool (List.range Bpf.MAX_BPF_DEVICES), ?_, ?_⟩
  · intro s
    exact DhcpMacos.ensures_tryDevices pool _
  · intro s trace a u h
    exact Bpf.runs_claim h

end IPScout
