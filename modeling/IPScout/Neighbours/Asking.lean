import IPScout.Base.Ensures
import IPScout.Dhcp.BpfReads
import IPScout.Neighbours.Advertisement
import IPScout.Neighbours.Arp

/-!
# Asking for a hardware address

The active resolution of `neighbours_linux.py` and `neighbours_macos.py`: a socket or a BPF
device is opened, a request goes out, and what arrives is read until something answers it or
the time is over.

Both wait for the same thing: the first frame before the deadline that is an answer
(`awaitAnswer_eq_findSome?`), and a BPF device, which hands out several frames in one read,
waits as a socket does that is given one frame after the other (`awaitBpf_eq_awaitAnswer`).
Whatever the system answers, what was opened is closed again, at most one request goes out,
on the interface that was named, and `None` means that one did (`resolveActive_ensures`).
-/

namespace IPScout

open Base Base.Octets Base.Text Base.Exchange

/-! ### Waiting -/

/-- `await_answer`, from the clock read at the head of each turn and what the read then gave.
A list that ends is a wait that has reached its deadline. -/
def awaitAnswer (parse : Octets → Option Text) (deadline : ℚ) :
    List (ℚ × Except OSErr Octets) → Except OSErr (Option Text)
  | [] => .ok none
  | (now, reading) :: rest =>
    if deadline ≤ now then .ok none
    else
      match reading with
      | .error e => if e.cls = .TimeoutError then .ok none else .error e
      | .ok frame =>
        match parse frame with
        | some found => .ok (some found)
        | none => awaitAnswer parse deadline rest

/-- The loop of `resolve_active_ipv4` on macOS: nothing readable, or what `select` and the
read of the device gave. -/
def awaitBpf (parse : Octets → Option Text) (deadline : ℚ) :
    List (ℚ × Option (Except OSErr Octets)) → Except OSErr (Option Text)
  | [] => .ok none
  | (now, reading) :: rest =>
    if deadline ≤ now then .ok none
    else
      match reading with
      | none => .ok none
      | some (.error e) => .error e
      | some (.ok chunk) =>
        match (iterBpfFrames chunk).findSome? parse with
        | some found => .ok (some found)
        | none => awaitBpf parse deadline rest

section Waits

variable {parse : Octets → Option Text} {deadline : ℚ}

/-- **The wait answers with the first frame before the deadline that is an answer.** -/
theorem awaitAnswer_eq_findSome? {frames : List (ℚ × Octets)}
    {turns : List (ℚ × Except OSErr Octets)} (hbefore : ∀ frame ∈ frames, frame.1 < deadline) :
    awaitAnswer parse deadline (frames.map (fun frame => (frame.1, .ok frame.2)) ++ turns) =
      match frames.findSome? fun frame => parse frame.2 with
      | some found => .ok (some found)
      | none => awaitAnswer parse deadline turns := by
  induction frames with
  | nil => rfl
  | cons frame frames ih =>
    have hnow : ¬ deadline ≤ frame.1 := Rat.not_le.mpr (hbefore _ List.mem_cons_self)
    have hrest := ih fun other hother => hbefore other (List.mem_cons_of_mem _ hother)
    rw [List.map_cons, List.cons_append, awaitAnswer, if_neg hnow, List.findSome?_cons]
    cases parse frame.2 with
    | some found => rfl
    | none => exact hrest

/-- A wait that comes to its head after the deadline is over. -/
theorem awaitAnswer_of_late {turns : List (ℚ × Except OSErr Octets)}
    (hlate : ∀ turn ∈ turns, deadline ≤ turn.1) : awaitAnswer parse deadline turns = .ok none := by
  cases turns with
  | nil => rfl
  | cons turn turns =>
    unfold awaitAnswer
    exact if_pos (hlate turn List.mem_cons_self)

/-- The `TimeoutError` of a socket with nothing to read. -/
def timedOut : OSErr := ⟨.TimeoutError, none, none, none, "timed out".toList⟩

/-- The turns of a socket that is given the frames of a read one after the other. -/
def spread : ℚ × Option (Except OSErr Octets) → List (ℚ × Except OSErr Octets)
  | (now, none) => [(now, .error timedOut)]
  | (now, some (.error e)) => [(now, .error e)]
  | (now, some (.ok chunk)) => (iterBpfFrames chunk).map fun frame => (now, .ok frame)

theorem fst_of_mem_spread {turn : ℚ × Option (Except OSErr Octets)}
    {one : ℚ × Except OSErr Octets} (h : one ∈ spread turn) : one.1 = turn.1 := by
  obtain ⟨now, reading⟩ := turn
  match reading with
  | none => rw [List.mem_singleton.mp h]
  | some (.error e) => rw [List.mem_singleton.mp h]
  | some (.ok chunk) =>
    obtain ⟨frame, _, rfl⟩ := List.mem_map.mp h
    rfl

/-- **A BPF device waits as a socket does** that is given the frames of its reads one after the
other, as long as the clock does not go back; but that an `ETIMEDOUT` of the device is an
error. -/
theorem awaitBpf_eq_awaitAnswer {turns : List (ℚ × Option (Except OSErr Octets))}
    (hclock : turns.Pairwise fun first second => first.1 ≤ second.1)
    (herrors : ∀ turn ∈ turns, ∀ e, turn.2 = some (.error e) → e.cls ≠ .TimeoutError) :
    awaitBpf parse deadline turns = awaitAnswer parse deadline (turns.flatMap spread) := by
  induction turns with
  | nil => rfl
  | cons turn turns ih =>
    obtain ⟨hfirst, hrest⟩ := List.pairwise_cons.mp hclock
    have ih := ih hrest fun other hother => herrors other (List.mem_cons_of_mem _ hother)
    have herror := herrors turn List.mem_cons_self
    obtain ⟨now, reading⟩ := turn
    rw [List.flatMap_cons]
    unfold awaitBpf
    by_cases hlate : deadline ≤ now
    · rw [if_pos hlate, awaitAnswer_of_late]
      intro one hone
      rcases List.mem_append.mp hone with hone | hone
      · rw [fst_of_mem_spread hone]
        exact hlate
      · obtain ⟨other, hother, hone⟩ := List.mem_flatMap.mp hone
        rw [fst_of_mem_spread hone]
        exact Rat.le_trans hlate (hfirst other hother)
    · rw [if_neg hlate]
      match reading with
      | none =>
        rw [spread, List.singleton_append, awaitAnswer, if_neg hlate]
        rfl
      | some (.error e) =>
        rw [spread, List.singleton_append, awaitAnswer, if_neg hlate]
        exact (if_neg (herror e rfl)).symm
      | some (.ok chunk) =>
        have hframes : spread (now, some (.ok chunk)) =
            ((iterBpfFrames chunk).map fun frame => (now, frame)).map
              fun frame => (frame.1, .ok frame.2) := by
          rw [spread, List.map_map]
          rfl
        rw [hframes, awaitAnswer_eq_findSome?, List.findSome?_map]
        · dsimp only [Function.comp_def]
          cases (iterBpfFrames chunk).findSome? parse with
          | none => exact ih
          | some found => rfl
        · intro frame hframe
          obtain ⟨_, _, rfl⟩ := List.mem_map.mp hframe
          exact Rat.not_le.mp hlate

/-- What `192.0.2.7` answers to `whoHas`. -/
def isAt : Octets :=
  arpFrame [2, 0, 0, 0, 0, 1] [2, 0, 0x5e, 0x10, 0, 7] ARP_REPLY
    ⟨[2, 0, 0x5e, 0x10, 0, 7], [192, 0, 2, 7], [2, 0, 0, 0, 0, 1], [192, 0, 2, 1]⟩

/-- A record of an ARP frame, with six octets of header options. -/
def arpRecord (frame : Octets) (hlength : frame.length = 42) : BpfRecord where
  stamp := [0, 0, 0, 0, 1, 0, 0, 0]
  datalen := [42, 0, 0, 0]
  options := [0, 0, 0, 0, 0, 0]
  frame := frame
  padding := [0, 0]
  stamp_length := rfl
  datalen_length := rfl
  hdrlen_lt := by simp [BPF_HDR_SIZE]
  frame_pos := by omega
  frame_lt := by omega
  padding_lt := by simp
  aligned := by simp [BPF_HDR_SIZE, hlength]

/-- The request, and behind it in the same read the answer, without its padding. -/
def requestAndAnswer : Octets :=
  (arpRecord whoHas rfl).header ++ whoHas ++ [0, 0] ++ ((arpRecord isAt rfl).header ++ isAt ++ [])

/-- The second frame of a read is an answer. -/
theorem awaitBpf_of_two_frames :
    iterBpfFrames requestAndAnswer = [whoHas, isAt] ∧
    awaitBpf (fun frame => parseArpReply frame "192.0.2.7".toList) 1
        [(0, some (.ok requestAndAnswer)), (1 / 2, none)] =
      .ok (some "02:00:5e:10:00:07".toList) ∧
    awaitBpf (fun frame => parseArpReply frame "192.0.2.7".toList) 1
        [(0, some (.ok requestAndAnswer)), (1 / 2, none)] =
      awaitAnswer (fun frame => parseArpReply frame "192.0.2.7".toList) 1
        ([(0, some (.ok requestAndAnswer)), (1 / 2, none)].flatMap spread) := by
  have hread : IsBpfRead [arpRecord whoHas rfl, arpRecord isAt rfl] requestAndAnswer :=
    .cons (arpRecord whoHas rfl) (.last (arpRecord isAt rfl) 0)
  exact ⟨iterBpfFrames_of_isBpfRead hread, by decide +kernel,
    awaitBpf_eq_awaitAnswer (by decide +kernel) (by simp)⟩

end Waits

/-! ### Solicitations -/

def ICMPV6_NEIGHBOUR_SOLICITATION : ℕ := 135

def ND_OPT_SOURCE_LINK_ADDRESS : ℕ := 1

/-- The octets of `ff02::1:ff00:0`. -/
def SOLICITED_NODE : Octets := [0xff, 0x02, 0, 0, 0, 0, 0, 0, 0, 0, 0, 1, 0xff, 0, 0, 0]

example : inetPton .IPV6 "ff02::1:ff00:0".toList = some SOLICITED_NODE := by decide +kernel

/-- `socket.inet_pton`, which raises an `OSError`. -/
def packedIpv6 (targetIp : Text) : Except PyError Octets :=
  match inetPton .IPV6 targetIp with
  | some packed => .ok packed
  | none => .error (.os ⟨.OSError, none, none, none,
      "illegal IP address string passed to inet_pton".toList⟩)

def solicitedNodeMulticast (targetIp : Text) : Except PyError Text := do
  let packed ← packedIpv6 targetIp
  .ok (inetNtop6 (SOLICITED_NODE.take 13 ++ packed.drop 13))

def buildNeighbourSolicitation (senderMac targetIp : Text) : Except PyError Octets := do
  let mac ← packedMac senderMac
  let target ← packedIpv6 targetIp
  .ok (packedNat 1 ICMPV6_NEIGHBOUR_SOLICITATION ++ List.replicate 7 0 ++ target ++
    (packedNat 1 ND_OPT_SOURCE_LINK_ADDRESS ++ packedNat 1 1 ++ mac))

theorem drop_packedNat (m k n : ℕ) : (packedNat (m + k) n).drop m = packedNat k n := by
  refine List.ext_getElem ?_ ?_
  · rw [List.length_drop, length_packedNat, length_packedNat, Nat.add_sub_cancel_left]
  · intro i hleft hright
    rw [length_packedNat] at hright
    simp only [packedNat, List.getElem_drop, List.getElem_map, List.getElem_range]
    rw [show m + k - 1 - (m + i) = k - 1 - i by omega]

/-- The group of an address: that of the solicited nodes with the low 24 bits of the address. -/
def solicitedGroup (ip : BitVec 128) : IPAddress :=
  .ofNat .IPV6 (bigEndian SOLICITED_NODE + ip.toNat % 2 ^ 24)

theorem packedNat_mod (count n : ℕ) : packedNat count (n % 256 ^ count) = packedNat count n := by
  conv_rhs => rw [← Nat.div_add_mod' n (256 ^ count), packedNat_mul_add]

theorem solicitedNodeMulticast_eq {targetIp : Text} {ip : BitVec 128}
    (h : ipv6Bits targetIp = some ip) :
    solicitedNodeMulticast targetIp =
      .ok (inetNtop6 (SOLICITED_NODE.take 13 ++ packedNat 3 (ip.toNat % 256 ^ 3))) := by
  have hpacked : packedIpv6 targetIp = .ok (packedNat 16 ip.toNat) := by
    rw [packedIpv6, inetPton, h]
    rfl
  rw [solicitedNodeMulticast, hpacked, packedNat_mod, ← drop_packedNat 13 3]
  rfl

theorem ipAddress_solicitedNodeMulticast (ip : BitVec 128) :
    ipAddress (inetNtop6 (SOLICITED_NODE.take 13 ++ packedNat 3 (ip.toNat % 256 ^ 3))) =
      some (solicitedGroup ip) := by
  have hlength : (SOLICITED_NODE.take 13 ++ packedNat 3 (ip.toNat % 256 ^ 3)).length =
      AddressFamily.packedSize .IPV6 := by
    rw [List.length_append, length_packedNat]
    rfl
  have hread := (ipAddress_inetNtop hlength).1
  rw [bigEndian_append, length_packedNat, bigEndian_packedNat, Nat.mod_mod] at hread
  exact hread

theorem solicitedGroup_inj {ip ip' : BitVec 128} (h : solicitedGroup ip = solicitedGroup ip') :
    ip.toNat % 2 ^ 24 = ip'.toNat % 2 ^ 24 := by
  have hbits := congrArg (fun a => a.packed) h
  have hlt : ∀ n : ℕ, bigEndian SOLICITED_NODE + n % 2 ^ 24 < 2 ^ 128 := by
    intro n
    have hsmall : bigEndian SOLICITED_NODE + 2 ^ 24 ≤ 2 ^ 128 := by decide
    have hmod := Nat.mod_lt n (show 0 < 2 ^ 24 by decide)
    omega
  have hnumber := congrArg bigEndian hbits
  have hpacked : ∀ n : ℕ, bigEndian (IPAddress.ofNat .IPV6 n).packed = n % 2 ^ 128 := by
    intro n
    change bigEndian (packedNat 16 (BitVec.ofNat 128 n).toNat) = n % 2 ^ 128
    rw [bigEndian_packedNat, BitVec.toNat_ofNat]
    exact Nat.mod_mod _ _
  rw [solicitedGroup, solicitedGroup] at hnumber
  rw [hpacked, hpacked, Nat.mod_eq_of_lt (hlt _), Nat.mod_eq_of_lt (hlt _)] at hnumber
  omega

/-- **Two targets are asked about in one group exactly when they end in the same 24 bits**, and
the group is that of the solicited nodes with these bits. -/
theorem solicitedNodeMulticast_eq_iff {target other : Text} {ip ip' : BitVec 128}
    (htarget : ipv6Bits target = some ip) (hother : ipv6Bits other = some ip') :
    (∃ group, solicitedNodeMulticast target = .ok group ∧
      ipAddress group = some (solicitedGroup ip)) ∧
    (solicitedNodeMulticast target = solicitedNodeMulticast other ↔
      ip.toNat % 2 ^ 24 = ip'.toNat % 2 ^ 24) := by
  refine ⟨⟨_, solicitedNodeMulticast_eq htarget, ipAddress_solicitedNodeMulticast ip⟩, ?_⟩
  rw [solicitedNodeMulticast_eq htarget, solicitedNodeMulticast_eq hother]
  constructor
  · intro h
    have hread := ipAddress_solicitedNodeMulticast ip
    rw [Except.ok.inj h, ipAddress_solicitedNodeMulticast] at hread
    exact (solicitedGroup_inj (Option.some.inj hread)).symm
  · intro h
    rw [show (256 : ℕ) ^ 3 = 2 ^ 24 by decide, h]

/-- Two addresses of one group. -/
theorem solicitedNodeMulticast_of_two :
    (∃ group, solicitedNodeMulticast "fe80::1122:3344:5566:7788".toList = .ok group ∧
      ipAddress group = some (solicitedGroup 0xfe800000000000001122334455667788)) ∧
    (solicitedNodeMulticast "fe80::1122:3344:5566:7788".toList =
        solicitedNodeMulticast "2001:db8::66:7788".toList ↔
      (0xfe800000000000001122334455667788 : BitVec 128).toNat % 2 ^ 24 =
        (0x20010db8000000000000000000667788 : BitVec 128).toNat % 2 ^ 24) :=
  solicitedNodeMulticast_eq_iff (by decide +kernel) (by decide +kernel)

/-! ### What is asked of the system -/

inductive AskRequest
  /-- `socket.socket`, or `open_bpf_device` of an interface. -/
  | openSocket (device : Option Text)
  | bind (descriptor : ℕ) (interface : Text)
  | settimeout (descriptor : ℕ)
  | ifNametoindex (interface : Text)
  | multicastIf (descriptor index : ℕ)
  /-- `send` and `os.write`, or `sendto` a group with a scope. -/
  | send (descriptor : ℕ) (payload : Octets) (destination : Option (Text × ℕ))
  /-- The reads of `await_answer`, and the clock when it begins. -/
  | receive (descriptor : ℕ)
  /-- The reads of a BPF device. -/
  | device (descriptor : ℕ)
  | close (descriptor : ℕ)

abbrev AskRequest.Answer : AskRequest → Type
  | openSocket _ => Except OSErr ℕ
  | bind _ _ => Except OSErr Unit
  | settimeout _ => Except OSErr Unit
  | ifNametoindex _ => Except OSErr ℕ
  | multicastIf _ _ => Except OSErr Unit
  | send _ _ _ => Except OSErr Unit
  | receive _ => ℚ × List (ℚ × Except OSErr Octets)
  | device _ => ℚ × List (ℚ × Option (Except OSErr Octets))
  | close _ => Unit

abbrev Asking (α : Type) := Exchange AskRequest AskRequest.Answer (Except PyError α)

/-- A call that raises what it raises. -/
def raising {α : Type} (outcome : Except OSErr α) : Asking α := .done (outcome.mapError .os)

/-- A function that asks nothing. -/
def pureAsking {α : Type} (outcome : Except PyError α) : Asking α := .done outcome

def sendNeighbourSolicitation (descriptor : ℕ) (interface targetIp sourceMac : Text) :
    Asking Unit :=
  Exchange.andThen (.ask (.ifNametoindex interface) raising) fun index =>
  Exchange.andThen (.ask (.multicastIf descriptor index) raising) fun _ =>
  Exchange.andThen (.ask (.settimeout descriptor) raising) fun _ =>
  Exchange.andThen (pureAsking (solicitedNodeMulticast targetIp)) fun group =>
  Exchange.andThen (pureAsking (buildNeighbourSolicitation sourceMac targetIp)) fun message =>
  .ask (.send descriptor message (some (group, index))) raising

/-- `await_answer` on a descriptor. -/
def awaitOn (descriptor : ℕ) (timeout : ℚ) (parse : Octets → Option Text) :
    Asking (Option Text) :=
  .ask (.receive descriptor) fun (start, turns) =>
    raising (awaitAnswer parse (start + timeout) turns)

def awaitDevice (descriptor : ℕ) (timeout : ℚ) (parse : Octets → Option Text) :
    Asking (Option Text) :=
  .ask (.device descriptor) fun (start, turns) => raising (awaitBpf parse (start + timeout) turns)

/-- The frame of the four resolvers: what is opened is closed when the body is left, and an
`OSError` out of it is reworded. -/
def closing (device : Option Text) (refuse failed : OSErr → PyError)
    (body : ℕ → Asking (Option Text)) : Asking (Option Text) :=
  .ask (.openSocket device) fun
    | .error e => .done (.error (refuse e))
    | .ok descriptor =>
      (body descriptor).bind fun outcome =>
        .ask (.close descriptor) fun _ =>
          .done (match outcome with
            | .error (.os e) => .error (failed e)
            | other => other)

/-! ### The resolvers -/

def ARP_SCAN_ALTERNATIVE : String :=
  "use arp_scan(), which resolves the same addresses unprivileged"

def couldNotAsk (targetIp interface : Text) (error : OSErr) : PyError :=
  .scout .IPScoutUnsupportedError [say "could not ask for ", .text targetIp, say " on ",
    .text interface, say ": ", .text error.str]

/-- What a resolver is told. -/
structure Resolution where
  targetIp : Text
  interface : Text
  /-- Only an IPv4 request reads it. -/
  sourceIp : Text
  sourceMac : Text
  timeout : ℚ

/-- `parse_neighbour_advertisement`, which never raises. -/
def advertisementAnswer (python : PythonVersion) (targetIp : Text) (message : Octets) :
    Option Text :=
  match parseNeighbourAdvertisement python (message.length + 1) message targetIp with
  | .ok found => found
  | .error _ => none

namespace NeighboursLinux

inductive Solicitation
  | ARP
  | NEIGHBOUR_DISCOVERY

def Solicitation.value : Solicitation → Text
  | ARP => "ARP".toList
  | NEIGHBOUR_DISCOVERY => "neighbour discovery".toList

def permissionError (what : Solicitation) (error : OSErr) : PyError :=
  .scout .IPScoutPermissionError [say "active ", .text what.value,
    say " needs a raw socket, so root or CAP_NET_RAW: ", .text error.str,
    say (". Grant it with 'setcap cap_net_raw+ep $(readlink -f $(which python3))', run as root, " ++
      "or " ++ ARP_SCAN_ALTERNATIVE)]

/-- What an `OSError` behind the opening becomes. -/
def failed (what : Solicitation) (r : Resolution) (error : OSErr) : PyError :=
  if error.isPermissionError then permissionError what error
  else couldNotAsk r.targetIp r.interface error

def resolveActiveIpv4 (r : Resolution) : Asking (Option Text) :=
  closing none (permissionError .ARP) (failed .ARP r) fun descriptor =>
    Exchange.andThen (.ask (.bind descriptor r.interface) raising) fun _ =>
    Exchange.andThen (.ask (.settimeout descriptor) raising) fun _ =>
    Exchange.andThen (pureAsking (buildArpRequest r.sourceMac r.sourceIp r.targetIp)) fun request =>
    Exchange.andThen (.ask (.send descriptor request none) raising) fun _ =>
    awaitOn descriptor r.timeout fun frame => parseArpReply frame r.targetIp

def resolveActiveIpv6 (python : PythonVersion) (r : Resolution) : Asking (Option Text) :=
  closing none (permissionError .NEIGHBOUR_DISCOVERY) (failed .NEIGHBOUR_DISCOVERY r)
    fun descriptor =>
    Exchange.andThen
      (sendNeighbourSolicitation descriptor r.interface r.targetIp r.sourceMac) fun _ =>
    awaitOn descriptor r.timeout (advertisementAnswer python r.targetIp)

end NeighboursLinux

namespace NeighboursMacos

def UNPRIVILEGED_ADVICE : String := "Run as root, or " ++ ARP_SCAN_ALTERNATIVE

def permissionError (error : OSErr) : PyError :=
  .scout .IPScoutPermissionError [say "active ARP on macOS needs a BPF device, and /dev/bpf* is ",
    say "root-only: ", .text error.str, say (". " ++ UNPRIVILEGED_ADVICE)]

def resolveActiveIpv4 (r : Resolution) : Asking (Option Text) :=
  closing (some r.interface) permissionError (couldNotAsk r.targetIp r.interface) fun descriptor =>
    Exchange.andThen (pureAsking (buildArpRequest r.sourceMac r.sourceIp r.targetIp)) fun request =>
    Exchange.andThen (.ask (.send descriptor request none) raising) fun _ =>
    awaitDevice descriptor r.timeout fun frame => parseArpReply frame r.targetIp

def refusedSolicitation (error : PyError) : PyError :=
  match error with
  | .os e =>
    if e.isPermissionError then
      .scout .IPScoutPermissionError [say "active neighbour discovery was refused: ",
        .text e.str, say (". " ++ UNPRIVILEGED_ADVICE)]
    else .os e
  | other => other

def resolveActiveIpv6 (python : PythonVersion) (r : Resolution) : Asking (Option Text) :=
  closing none
    (fun e => .scout .IPScoutPermissionError [say ("active neighbour discovery needs a raw " ++
      "ICMPv6 socket, which is root-only here: "), .text e.str, say (". " ++ UNPRIVILEGED_ADVICE)])
    (couldNotAsk r.targetIp r.interface) fun descriptor =>
    Exchange.andThen
      ((sendNeighbourSolicitation descriptor r.interface r.targetIp r.sourceMac).bind
        fun outcome => .done (outcome.mapError refusedSolicitation)) fun _ =>
    awaitOn descriptor r.timeout (advertisementAnswer python r.targetIp)

end NeighboursMacos

/-! ### The system -/

/-- What a descriptor sends on: the interface it was bound to, or the one with an index. -/
inductive Egress
  | interface (name : Text)
  | index (n : ℕ)

/-- A request that has gone out: what its descriptor was pinned to, and the group and the scope
it was sent to. -/
structure Sent where
  payload : Octets
  egress : Option Egress
  destination : Option (Text × ℕ)

/-- What the system holds: the descriptors that are open and what each is pinned to, the indices
that were given for names, what has gone out and what has been read. -/
structure AskedSystem where
  opened : Set ℕ
  pinned : ℕ → Option Egress
  indices : Set (Text × ℕ)
  sent : List Sent
  received : List Octets

/-- A request goes out on an interface: over a descriptor bound to it, or over one pinned to an
index of it, to a group of that scope. -/
def AskedSystem.SendsOn (s : AskedSystem) (interface : Text) (egress : Option Egress)
    (destination : Option (Text × ℕ)) : Prop :=
  match egress with
  | some (.interface name) => name = interface ∧ destination = none
  | some (.index n) => (interface, n) ∈ s.indices ∧ ∃ group, destination = some (group, n)
  | none => False

def framesOf (turns : List (ℚ × Except OSErr Octets)) : List Octets :=
  turns.filterMap fun turn => turn.2.toOption

/-- What a system may do with a request: every call may fail, and a descriptor that is given
out is not one that is open. -/
inductive AskServes : AskedSystem → (q : AskRequest) → q.Answer → AskedSystem → Prop
  | opened {s : AskedSystem} {device : Option Text} {descriptor : ℕ} : descriptor ∉ s.opened →
      AskServes s (.openSocket device) (.ok descriptor)
        { s with
          opened := insert descriptor s.opened
          pinned := Function.update s.pinned descriptor (device.map .interface) }
  | refused {s : AskedSystem} {device : Option Text} {e : OSErr} :
      AskServes s (.openSocket device) (.error e) s
  | bound {s : AskedSystem} {descriptor : ℕ} {interface : Text} :
      AskServes s (.bind descriptor interface) (.ok ())
        { s with pinned := Function.update s.pinned descriptor (some (.interface interface)) }
  | unbound {s : AskedSystem} {descriptor : ℕ} {interface : Text} {e : OSErr} :
      AskServes s (.bind descriptor interface) (.error e) s
  | settimeout {s : AskedSystem} {descriptor : ℕ} {r : Except OSErr Unit} :
      AskServes s (.settimeout descriptor) r s
  | index {s : AskedSystem} {interface : Text} {n : ℕ} :
      AskServes s (.ifNametoindex interface) (.ok n)
        { s with indices := insert (interface, n) s.indices }
  | noIndex {s : AskedSystem} {interface : Text} {e : OSErr} :
      AskServes s (.ifNametoindex interface) (.error e) s
  | pinned {s : AskedSystem} {descriptor index : ℕ} :
      AskServes s (.multicastIf descriptor index) (.ok ())
        { s with pinned := Function.update s.pinned descriptor (some (.index index)) }
  | unpinned {s : AskedSystem} {descriptor index : ℕ} {e : OSErr} :
      AskServes s (.multicastIf descriptor index) (.error e) s
  | sent {s : AskedSystem} {descriptor : ℕ} {payload : Octets}
      {destination : Option (Text × ℕ)} :
      AskServes s (.send descriptor payload destination) (.ok ())
        { s with sent := s.sent ++ [⟨payload, s.pinned descriptor, destination⟩] }
  | unsent {s : AskedSystem} {descriptor : ℕ} {payload : Octets}
      {destination : Option (Text × ℕ)} {e : OSErr} :
      AskServes s (.send descriptor payload destination) (.error e) s
  | received {s : AskedSystem} {descriptor : ℕ} {start : ℚ}
      {turns : List (ℚ × Except OSErr Octets)} :
      AskServes s (.receive descriptor) (start, turns)
        { s with received := s.received ++ framesOf turns }
  | read {s : AskedSystem} {descriptor : ℕ} {start : ℚ}
      {turns : List (ℚ × Option (Except OSErr Octets))} :
      AskServes s (.device descriptor) (start, turns)
        { s with received := s.received ++ framesOf (turns.flatMap spread) }
  | closed {s : AskedSystem} {descriptor : ℕ} :
      AskServes s (.close descriptor) () { s with opened := s.opened \ {descriptor} }

/-! ### What a resolver ensures -/

/-- What has happened between two states while a request that `built` makes was asked about on an
interface. -/
structure AskedOnce (built : Except PyError Octets) (interface : Text) (s u : AskedSystem) :
    Prop where
  opened : u.opened = s.opened
  /-- At most one request has gone out, and it is the one, on that interface. -/
  sent : u.sent = s.sent ∨ ∃ out, built = .ok out.payload ∧
    u.SendsOn interface out.egress out.destination ∧ u.sent = s.sent ++ [out]
  /-- What was read before is still there. -/
  received : ∃ frames, u.received = s.received ++ frames

/-- What the answer of a resolver means. -/
structure AnswerMeans (built : Except PyError Octets) (parse : Octets → Option Text)
    (s : AskedSystem) (found : Option Text) (u : AskedSystem) : Prop where
  /-- An answer is given only when the request has gone out. -/
  sent : ∃ out, built = .ok out.payload ∧ u.sent = s.sent ++ [out]
  /-- A hardware address is that of a frame that has been read. -/
  heard : ∀ mac, found = some mac → ∃ frames, u.received = s.received ++ frames ∧
    ∃ frame ∈ frames, parse frame = some mac

/-- A refusal of the library, or of an argument, and no `OSError`. -/
def IsRefusal (e : PyError) : Prop :=
  ∀ error, e ≠ .os error

def ResolverPost (built : Except PyError Octets) (parse : Octets → Option Text)
    (interface : Text) (s : AskedSystem) (a : Except PyError (Option Text)) (u : AskedSystem) :
    Prop :=
  AskedOnce built interface s u ∧ (∀ found, a = .ok found → AnswerMeans built parse s found u) ∧
    ∀ e, a = .error e → IsRefusal e

/-- What the body of a resolver does, its descriptor open. -/
def BodyPost (built : Except PyError Octets) (parse : Octets → Option Text) (interface : Text)
    (s : AskedSystem) (a : Except PyError (Option Text)) (u : AskedSystem) : Prop :=
  AskedOnce built interface s u ∧ ∀ found, a = .ok found → AnswerMeans built parse s found u

/-- Between two states nothing has gone out and nothing has been read. -/
structure Unsent (s t : AskedSystem) : Prop where
  opened : t.opened = s.opened
  sent : t.sent = s.sent
  received : t.received = s.received

section Resolvers

variable {built : Except PyError Octets} {parse : Octets → Option Text} {interface : Text}
  {s t : AskedSystem} {α β : Type}

theorem Unsent.refl : Unsent s s := ⟨rfl, rfl, rfl⟩

theorem ensures_call {q : AskRequest} {next : q.Answer → Except OSErr α} {f : α → Asking β}
    {post : Except PyError β → AskedSystem → Prop}
    (h : ∀ r u, AskServes t q r u → (∀ e, next r = .error e → post (.error (.os e)) u) ∧
      ∀ a, next r = .ok a → Ensures AskServes u (f a) post) :
    Ensures AskServes t (Exchange.andThen (.ask q fun r => raising (next r)) f) post := by
  refine ensures_andThen ?_
  rw [ensures_ask]
  intro r u hserve
  obtain ⟨herror, hok⟩ := h r u hserve
  rw [raising, ensures_done]
  cases hnext : next r with
  | error e =>
    refine ⟨?_, (fun _ hab => nomatch hab)⟩
    intro e' he'
    rw [← Except.error.inj he']
    exact herror e hnext
  | ok a =>
    refine ⟨(fun _ hab => nomatch hab), ?_⟩
    intro b hb
    rw [← Except.ok.inj hb]
    exact hok a hnext

section Calls

variable {post : Except PyError β → AskedSystem → Prop} {f : Unit → Asking β}
  (hunsent : Unsent s t) (herror : ∀ e u, Unsent s u → post (.error e) u)
include hunsent herror

theorem ensures_bindTo {descriptor : ℕ}
    (hok : ∀ u, Unsent s u → u.pinned descriptor = some (.interface interface) →
      Ensures AskServes u (f ()) post) :
    Ensures AskServes t (Exchange.andThen (.ask (.bind descriptor interface) raising) f) post := by
  refine ensures_call fun r u hserve => ?_
  cases hserve with
  | bound =>
    refine ⟨(fun _ hab => nomatch hab), fun _ _ => hok _ ⟨hunsent.1, hunsent.2, hunsent.3⟩ ?_⟩
    exact Function.update_self descriptor _ _
  | unbound => exact ⟨fun e _ => herror _ _ hunsent, fun _ hab => nomatch hab⟩

theorem ensures_settimeout {descriptor : ℕ} (hok : Ensures AskServes t (f ()) post) :
    Ensures AskServes t (Exchange.andThen (.ask (.settimeout descriptor) raising) f) post := by
  refine ensures_call fun r u hserve => ?_
  cases hserve
  exact ⟨fun e _ => herror _ _ hunsent, fun _ _ => hok⟩

theorem ensures_ifNametoindex {f : ℕ → Asking β}
    (hok : ∀ index u, Unsent s u → (interface, index) ∈ u.indices →
      Ensures AskServes u (f index) post) :
    Ensures AskServes t (Exchange.andThen (.ask (.ifNametoindex interface) raising) f) post := by
  refine ensures_call fun r u hserve => ?_
  cases hserve with
  | index =>
    refine ⟨(fun _ hab => nomatch hab), ?_⟩
    intro a ha
    rw [← Except.ok.inj ha]
    exact hok _ _ ⟨hunsent.1, hunsent.2, hunsent.3⟩ (Set.mem_insert _ _)
  | noIndex => exact ⟨fun e _ => herror _ _ hunsent, fun _ hab => nomatch hab⟩

theorem ensures_multicastIf {descriptor index : ℕ} (hindex : (interface, index) ∈ t.indices)
    (hok : ∀ u, Unsent s u → (interface, index) ∈ u.indices →
      u.pinned descriptor = some (.index index) → Ensures AskServes u (f ()) post) :
    Ensures AskServes t
      (Exchange.andThen (.ask (.multicastIf descriptor index) raising) f) post := by
  refine ensures_call fun r u hserve => ?_
  cases hserve with
  | pinned =>
    refine ⟨(fun _ hab => nomatch hab), ?_⟩
    intro _ _
    exact hok _ ⟨hunsent.1, hunsent.2, hunsent.3⟩ hindex (Function.update_self descriptor _ _)
  | unpinned => exact ⟨fun e _ => herror _ _ hunsent, fun _ hab => nomatch hab⟩

end Calls

theorem ensures_pure {outcome : Except PyError α} {f : α → Asking β}
    {post : Except PyError β → AskedSystem → Prop} (herror : ∀ e, post (.error e) t)
    (hok : ∀ a, outcome = .ok a → Ensures AskServes t (f a) post) :
    Ensures AskServes t (Exchange.andThen (pureAsking outcome) f) post := by
  refine ensures_andThen ?_
  rw [pureAsking, ensures_done]
  exact ⟨fun e _ => herror e, fun a ha => hok a ha⟩

theorem BodyPost.of_unsent (h : Unsent s t) (e : PyError) :
    BodyPost built parse interface s (.error e) t :=
  ⟨⟨h.opened, Or.inl h.sent, [], by rw [h.received, List.append_nil]⟩, fun _ hok => nomatch hok⟩

def AskedSystem.withReceived (s : AskedSystem) (frames : List Octets) : AskedSystem :=
  { s with received := s.received ++ frames }

/-- Between two states one request has gone out, on an interface. -/
structure SentOnce (built : Except PyError Octets) (interface : Text) (s t : AskedSystem) :
    Prop where
  opened : t.opened = s.opened
  sent : ∃ out, built = .ok out.payload ∧ t.SendsOn interface out.egress out.destination ∧
    t.sent = s.sent ++ [out]
  received : t.received = s.received

theorem BodyPost.of_wait (h : SentOnce built interface s t) (frames : List Octets)
    {a : Except OSErr (Option Text)}
    (hheard : ∀ mac, a = .ok (some mac) → ∃ frame ∈ frames, parse frame = some mac) :
    BodyPost built parse interface s (a.mapError .os) (t.withReceived frames) := by
  obtain ⟨out, hbuilt, hon, hout⟩ := h.sent
  have hreceived : (t.withReceived frames).received = s.received ++ frames := by
    rw [AskedSystem.withReceived, h.received]
  refine ⟨⟨h.opened, Or.inr ⟨out, hbuilt, hon, hout⟩, frames, hreceived⟩, ?_⟩
  intro found hfound
  refine ⟨⟨out, hbuilt, hout⟩, ?_⟩
  rintro mac rfl
  cases a with
  | error e => cases hfound
  | ok answer =>
    obtain rfl : answer = some mac := Except.ok.inj hfound
    exact ⟨frames, hreceived, hheard mac rfl⟩

theorem mem_of_awaitAnswer {deadline : ℚ} {turns : List (ℚ × Except OSErr Octets)} {mac : Text}
    (h : awaitAnswer parse deadline turns = .ok (some mac)) :
    ∃ frame ∈ framesOf turns, parse frame = some mac := by
  induction turns with
  | nil => cases h
  | cons turn turns ih =>
    obtain ⟨now, reading⟩ := turn
    unfold awaitAnswer at h
    split at h
    · cases h
    · cases reading with
      | error e =>
        dsimp only at h
        split at h <;> cases h
      | ok frame =>
        dsimp only at h
        split at h
        · next found hparse =>
          obtain rfl := Option.some.inj (Except.ok.inj h)
          exact ⟨frame, List.mem_filterMap.mpr ⟨_, List.mem_cons_self, rfl⟩, hparse⟩
        · obtain ⟨other, hother, hparse⟩ := ih h
          refine ⟨other, ?_, hparse⟩
          rw [framesOf, List.filterMap_cons]
          exact List.mem_cons_of_mem _ hother

theorem mem_of_awaitBpf {deadline : ℚ} {turns : List (ℚ × Option (Except OSErr Octets))}
    {mac : Text} (h : awaitBpf parse deadline turns = .ok (some mac)) :
    ∃ frame ∈ framesOf (turns.flatMap spread), parse frame = some mac := by
  induction turns with
  | nil => cases h
  | cons turn turns ih =>
    obtain ⟨now, reading⟩ := turn
    unfold awaitBpf at h
    rw [List.flatMap_cons, framesOf, List.filterMap_append]
    split at h
    · cases h
    · match reading with
      | none => cases h
      | some (.error e) => cases h
      | some (.ok chunk) =>
        dsimp only at h
        split at h
        · next found hfound =>
          obtain rfl := Option.some.inj (Except.ok.inj h)
          obtain ⟨frame, hframe, hparse⟩ := List.exists_of_findSome?_eq_some hfound
          refine ⟨frame, List.mem_append_left _ ?_, hparse⟩
          exact List.mem_filterMap.mpr
            ⟨(now, .ok frame), List.mem_map.mpr ⟨frame, hframe, rfl⟩, rfl⟩
        · obtain ⟨other, hother, hparse⟩ := ih h
          exact ⟨other, List.mem_append_right _ hother, hparse⟩

/-- A wait: what it answers with is among what it reads. -/
def Waits (parse : Octets → Option Text) (wait : Asking (Option Text)) : Prop :=
  ∀ t, Ensures AskServes t wait fun a u =>
    ∃ (frames : List Octets) (outcome : Except OSErr (Option Text)),
      a = outcome.mapError .os ∧ u = t.withReceived frames ∧
      ∀ mac, outcome = .ok (some mac) → ∃ frame ∈ frames, parse frame = some mac

theorem waits_awaitOn (descriptor : ℕ) (timeout : ℚ) :
    Waits parse (awaitOn descriptor timeout parse) := by
  intro t
  rw [awaitOn, ensures_ask]
  rintro ⟨start, turns⟩ u hserve
  cases hserve
  exact ensures_done.mpr ⟨framesOf turns, _, rfl, rfl, fun mac => mem_of_awaitAnswer⟩

theorem waits_awaitDevice (descriptor : ℕ) (timeout : ℚ) :
    Waits parse (awaitDevice descriptor timeout parse) := by
  intro t
  rw [awaitDevice, ensures_ask]
  rintro ⟨start, turns⟩ u hserve
  cases hserve
  exact ensures_done.mpr
    ⟨framesOf (turns.flatMap spread), _, rfl, rfl, fun mac => mem_of_awaitBpf⟩

/-- A sending: either it raises and nothing has gone out, or the request has. -/
def Sends (built : Except PyError Octets) (interface : Text) (s t : AskedSystem)
    (sending : Asking Unit) : Prop :=
  Ensures AskServes t sending fun a u =>
    (∃ e, a = .error e ∧ Unsent s u) ∨ (a = .ok () ∧ SentOnce built interface s u)

theorem sends_send {request : Octets} {descriptor : ℕ} {destination : Option (Text × ℕ)}
    (hunsent : Unsent s t) (hbuilt : built = .ok request)
    (hon : t.SendsOn interface (t.pinned descriptor) destination) :
    Sends built interface s t (.ask (.send descriptor request destination) raising) := by
  rw [Sends, ensures_ask]
  intro r u hserve
  rw [raising, ensures_done]
  cases hserve with
  | sent =>
    refine Or.inr ⟨rfl, hunsent.opened, ?_, hunsent.received⟩
    exact ⟨⟨request, t.pinned descriptor, destination⟩, hbuilt, hon, by rw [← hunsent.sent]⟩
  | unsent => exact Or.inl ⟨_, rfl, hunsent⟩

/-- **A request and the wait for its answer.** -/
theorem ensures_sends_waits {sending : Asking Unit} {wait : Asking (Option Text)}
    (hsends : Sends built interface s t sending) (hwaits : Waits parse wait) :
    Ensures AskServes t (Exchange.andThen sending fun _ => wait)
      (BodyPost built parse interface s) := by
  refine ensures_andThen (hsends.mono ?_)
  rintro a u (⟨e, rfl, hunsent⟩ | ⟨rfl, hsent⟩)
  · exact ⟨fun e _ => .of_unsent hunsent e, fun _ hok => nomatch hok⟩
  · refine ⟨(fun _ herror => nomatch herror), fun _ _ => (hwaits _).mono ?_⟩
    rintro a v ⟨frames, outcome, rfl, rfl, hheard⟩
    exact .of_wait hsent frames hheard

/-- **A solicitation goes out on the interface whose index was asked for.** -/
theorem sends_sendNeighbourSolicitation (descriptor : ℕ) (targetIp sourceMac : Text) :
    Sends (buildNeighbourSolicitation sourceMac targetIp) interface s s
      (sendNeighbourSolicitation descriptor interface targetIp sourceMac) := by
  have hleft : ∀ e u, Unsent s u → (∃ e', (.error e : Except PyError Unit) = .error e' ∧
      Unsent s u) ∨ ((.error e : Except PyError Unit) = .ok () ∧
        SentOnce (buildNeighbourSolicitation sourceMac targetIp) interface s u) :=
    fun e u hunsent => Or.inl ⟨e, rfl, hunsent⟩
  rw [Sends, sendNeighbourSolicitation]
  refine ensures_ifNametoindex .refl hleft fun index t ht hindex => ?_
  refine ensures_multicastIf ht hleft hindex fun u hu hindex hpinned => ?_
  refine ensures_settimeout hu hleft ?_
  refine ensures_pure (fun e => hleft e _ hu) fun group _ => ?_
  refine ensures_pure (fun e => hleft e _ hu) fun message hmessage => ?_
  refine sends_send hu hmessage ?_
  rw [hpinned]
  exact ⟨hindex, group, rfl⟩

/-- **What is opened is closed**, whatever comes of the body. -/
theorem ensures_closing {device : Option Text} {refuse failed : OSErr → PyError}
    {body : ℕ → Asking (Option Text)} (hrefuse : ∀ e, IsRefusal (refuse e))
    (hfailed : ∀ e, IsRefusal (failed e))
    (hbody : ∀ descriptor t, t.pinned descriptor = device.map .interface →
      Ensures AskServes t (body descriptor) (BodyPost built parse interface t)) :
    Ensures AskServes s (closing device refuse failed body)
      (ResolverPost built parse interface s) := by
  rw [closing, ensures_ask]
  intro r t hserve
  cases hserve with
  | refused =>
    rw [ensures_done]
    refine ⟨⟨rfl, Or.inl rfl, [], (List.append_nil _).symm⟩, (fun _ hok => nomatch hok), ?_⟩
    intro e he
    rw [← Except.error.inj he]
    exact hrefuse _
  | @opened _ descriptor hfresh =>
    dsimp only
    rw [ensures_bind]
    refine (hbody descriptor _ (Function.update_self descriptor _ _)).mono ?_
    rintro outcome u ⟨⟨hopened, hsent, hreceived⟩, hanswer⟩
    rw [ensures_ask]
    intro r v hserve
    cases hserve
    rw [ensures_done]
    have hclosed : u.opened \ {descriptor} = s.opened := by
      rw [hopened]
      exact Set.insert_sdiff_self_of_notMem hfresh
    refine ⟨⟨hclosed, hsent, hreceived⟩, ?_, ?_⟩
    · intro found hfound
      have hsame : outcome = .ok found := by
        cases outcome with
        | ok answer => exact hfound
        | error e => cases e <;> cases hfound
      obtain ⟨hsent, hheard⟩ := hanswer found hsame
      exact ⟨hsent, hheard⟩
    · intro e he
      cases outcome with
      | ok answer => cases he
      | error error =>
        cases error with
        | os error =>
          rw [← Except.error.inj he]
          exact hfailed error
        | scout cls msg =>
          rw [← Except.error.inj he]
          exact fun _ h => nomatch h
        | unicode msg =>
          rw [← Except.error.inj he]
          exact fun _ h => nomatch h
        | value msg =>
          rw [← Except.error.inj he]
          exact fun _ h => nomatch h
        | index msg =>
          rw [← Except.error.inj he]
          exact fun _ h => nomatch h

theorem isRefusal_scout (cls : ScoutClass) (msg : Message) : IsRefusal (.scout cls msg) :=
  fun _ h => nomatch h

theorem NeighboursLinux.isRefusal_failed (what : Solicitation) (r : Resolution) (e : OSErr) :
    IsRefusal (failed what r e) := by
  rw [failed]
  split
  · exact isRefusal_scout _ _
  · exact isRefusal_scout _ _

theorem NeighboursLinux.ensures_resolveActiveIpv4 (r : Resolution) (s : AskedSystem) :
    Ensures AskServes s (resolveActiveIpv4 r)
      (ResolverPost (buildArpRequest r.sourceMac r.sourceIp r.targetIp)
        (fun frame => parseArpReply frame r.targetIp) r.interface s) := by
  refine ensures_closing (fun e => isRefusal_scout _ _)
    (NeighboursLinux.isRefusal_failed .ARP r) fun descriptor t _ => ?_
  have hleft : ∀ e u, Unsent t u → BodyPost (buildArpRequest r.sourceMac r.sourceIp r.targetIp)
      (fun frame => parseArpReply frame r.targetIp) r.interface t (.error e) u :=
    fun e _ h => .of_unsent h e
  refine ensures_bindTo .refl hleft fun u hu hpinned => ?_
  refine ensures_settimeout hu hleft ?_
  refine ensures_pure (fun e => hleft e _ hu) fun request hrequest => ?_
  refine ensures_sends_waits (sends_send hu hrequest ?_) (waits_awaitOn _ _)
  rw [hpinned]
  exact ⟨rfl, rfl⟩

theorem NeighboursMacos.ensures_resolveActiveIpv4 (r : Resolution) (s : AskedSystem) :
    Ensures AskServes s (resolveActiveIpv4 r)
      (ResolverPost (buildArpRequest r.sourceMac r.sourceIp r.targetIp)
        (fun frame => parseArpReply frame r.targetIp) r.interface s) := by
  refine ensures_closing (fun e => isRefusal_scout _ _) (fun e => isRefusal_scout _ _)
    fun descriptor t hpinned => ?_
  refine ensures_pure (fun e => .of_unsent .refl e) fun request hrequest => ?_
  refine ensures_sends_waits (sends_send .refl hrequest ?_) (waits_awaitDevice _ _)
  rw [hpinned]
  exact ⟨rfl, rfl⟩

theorem NeighboursLinux.ensures_resolveActiveIpv6 (python : PythonVersion) (r : Resolution)
    (s : AskedSystem) :
    Ensures AskServes s (resolveActiveIpv6 python r)
      (ResolverPost (buildNeighbourSolicitation r.sourceMac r.targetIp)
        (advertisementAnswer python r.targetIp) r.interface s) := by
  refine ensures_closing (fun e => isRefusal_scout _ _)
    (NeighboursLinux.isRefusal_failed .NEIGHBOUR_DISCOVERY r) fun descriptor t _ => ?_
  exact ensures_sends_waits (sends_sendNeighbourSolicitation descriptor _ _) (waits_awaitOn _ _)

theorem NeighboursMacos.ensures_resolveActiveIpv6 (python : PythonVersion) (r : Resolution)
    (s : AskedSystem) :
    Ensures AskServes s (resolveActiveIpv6 python r)
      (ResolverPost (buildNeighbourSolicitation r.sourceMac r.targetIp)
        (advertisementAnswer python r.targetIp) r.interface s) := by
  refine ensures_closing (fun e => isRefusal_scout _ _) (fun e => isRefusal_scout _ _)
    fun descriptor t _ => ?_
  refine ensures_sends_waits ?_ (waits_awaitOn _ _)
  -- the refusal is reworded, and that is all
  rw [Sends, ensures_bind]
  refine (sends_sendNeighbourSolicitation descriptor _ _).mono ?_
  rintro a u (⟨e, rfl, hunsent⟩ | ⟨rfl, hsent⟩)
  · rw [ensures_done]
    exact Or.inl ⟨_, rfl, hunsent⟩
  · rw [ensures_done]
    exact Or.inr ⟨rfl, hsent⟩

end Resolvers

/-- **What an active resolution ensures**, on Linux and on macOS, for both families and whatever
the system answers: the descriptor it opens is closed again, at most one request goes out and
it is the one for the target, on the interface that was named; an answer is given only if it has
gone out, a hardware address is that of a frame that has been read since, and no `OSError` comes
out of it. -/
theorem resolveActive_ensures (python : PythonVersion) (r : Resolution) (s : AskedSystem) :
    (Ensures AskServes s (NeighboursLinux.resolveActiveIpv4 r)
        (ResolverPost (buildArpRequest r.sourceMac r.sourceIp r.targetIp)
          (fun frame => parseArpReply frame r.targetIp) r.interface s) ∧
      Ensures AskServes s (NeighboursMacos.resolveActiveIpv4 r)
        (ResolverPost (buildArpRequest r.sourceMac r.sourceIp r.targetIp)
          (fun frame => parseArpReply frame r.targetIp) r.interface s)) ∧
    Ensures AskServes s (NeighboursLinux.resolveActiveIpv6 python r)
        (ResolverPost (buildNeighbourSolicitation r.sourceMac r.targetIp)
          (advertisementAnswer python r.targetIp) r.interface s) ∧
    Ensures AskServes s (NeighboursMacos.resolveActiveIpv6 python r)
        (ResolverPost (buildNeighbourSolicitation r.sourceMac r.targetIp)
          (advertisementAnswer python r.targetIp) r.interface s) :=
  ⟨⟨NeighboursLinux.ensures_resolveActiveIpv4 r s, NeighboursMacos.ensures_resolveActiveIpv4 r s⟩,
    NeighboursLinux.ensures_resolveActiveIpv6 python r s,
    NeighboursMacos.ensures_resolveActiveIpv6 python r s⟩

end IPScout
