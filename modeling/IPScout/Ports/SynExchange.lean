import Mathlib.Data.Finset.Basic
import Mathlib.Data.Finset.Dedup
import IPScout.Base.Dict
import IPScout.Ports.TcpSyn

/-!
# One capture for all ports

`_syn_exchange`: a SYN goes to every port, and one loop reads every packet the raw
socket delivers until each port has answered or the deadline has passed.  A packet is
read once and names its own port.

What the loop makes of the packets is what asking each port makes of them: the first
packet that answers it, and nothing else, decides a port (`synExchange_spec`).
-/

namespace IPScout

open Base

/-! ### The exchange -/

/-- One pass of the loop: the clock before it, and what `recv` returns if it does not
raise. -/
structure Reception where
  moment : ℚ
  packet : Option Octets

/-- What the loop does with a packet, and with the ports that have not answered. -/
def credit (sourcePort : UInt16) (host : Text) (found : Dict UInt16 PortState)
    (outstanding : Finset UInt16) (packet : Octets) : Dict UInt16 PortState × Finset UInt16 :=
  match readReply packet sourcePort (some host) with
  | none => (found, outstanding)
  | some answer =>
    if answer.port ∈ outstanding then
      (found.set answer.port answer.state, outstanding.erase answer.port)
    else (found, outstanding)

/-- The loop of `_syn_exchange`. -/
def collectReplies (deadline : ℚ) (sourcePort : UInt16) (host : Text) :
    Dict UInt16 PortState → Finset UInt16 → List Reception → Dict UInt16 PortState
  | found, _, [] => found
  | found, outstanding, reception :: rest =>
    if outstanding = ∅ ∨ deadline ≤ reception.moment then found
    else
      match reception.packet with
      | none => found
      | some packet =>
        let (found, outstanding) := credit sourcePort host found outstanding packet
        collectReplies deadline sourcePort host found outstanding rest

/-- `dict.fromkeys(ports, PortState.FILTERED)`. -/
def allFiltered (ports : List UInt16) : Dict UInt16 PortState :=
  Dict.ofPairs (ports.map fun port => (port, .FILTERED))

/-- `_syn_exchange`; a SYN that cannot be sent is left unsent. -/
def synExchange (sourceIp host : Text) (ports : List UInt16) (sourcePort : UInt16)
    (deadline : ℚ) (receptions : List Reception) : Except PyError (Dict UInt16 PortState) := do
  let _ ← ports.mapM fun port => buildSyn sourceIp host sourcePort port 0
  .ok (collectReplies deadline sourcePort host (allFiltered ports) ports.toFinset receptions)

/-! ### What is heard -/

/-- The packets received before the deadline, whoever they are from. -/
def heard (deadline : ℚ) : List Reception → List Octets
  | [] => []
  | reception :: rest =>
    if deadline ≤ reception.moment then []
    else
      match reception.packet with
      | none => []
      | some packet => packet :: heard deadline rest

/-- What asking one port of every packet gives: the first that answers it. -/
def firstAnswer (sourcePort : UInt16) (host : Text) (packets : List Octets) (port : UInt16) :
    Option PortState :=
  packets.findSome? fun packet => parseTcpReply packet sourcePort port (some host)

theorem firstAnswer_cons (sourcePort : UInt16) (host : Text) (packet : Octets)
    (packets : List Octets) (port : UInt16) :
    firstAnswer sourcePort host (packet :: packets) port =
      (parseTcpReply packet sourcePort port (some host)).or
        (firstAnswer sourcePort host packets port) := by
  rw [firstAnswer, List.findSome?_cons]
  cases parseTcpReply packet sourcePort port (some host) with
  | none => rfl
  | some state => rfl

theorem heard_isPrefix (deadline : ℚ) (receptions more : List Reception) :
    heard deadline receptions <+: heard deadline (receptions ++ more) := by
  induction receptions with
  | nil => exact List.nil_prefix
  | cons reception rest ih =>
    rw [List.cons_append, heard, heard]
    split
    · exact List.prefix_rfl
    · split
      · exact List.prefix_rfl
      · exact (List.prefix_cons_inj _).mpr ih

theorem firstAnswer_of_prefix {sourcePort port : UInt16} {host : Text}
    {packets others : List Octets} (h : packets <+: others) {state : PortState}
    (hstate : firstAnswer sourcePort host packets port = some state) :
    firstAnswer sourcePort host others port = some state := by
  obtain ⟨rest, rfl⟩ := h
  rw [firstAnswer] at hstate ⊢
  rw [List.findSome?_append, hstate, Option.some_or]

/-! ### One packet -/

variable {sourcePort : UInt16} {host : Text} {found : Dict UInt16 PortState}
  {outstanding : Finset UInt16}

theorem keys_credit (hkeys : ∀ port ∈ outstanding, port ∈ found.keys) (packet : Octets) :
    (credit sourcePort host found outstanding packet).1.keys = found.keys := by
  rw [credit]
  split
  · rfl
  · next answer _ =>
    split
    · next hmem => exact Dict.keys_set_of_mem (hkeys _ hmem)
    · rfl

theorem outstanding_credit_subset (packet : Octets) :
    (credit sourcePort host found outstanding packet).2 ⊆ outstanding := by
  rw [credit]
  split
  · exact Finset.Subset.refl _
  · split
    · exact Finset.erase_subset _ _
    · exact Finset.Subset.refl _

/-- **A packet decides the port it answers, if that is outstanding, and no other.** -/
theorem get?_credit (packet : Octets) (port : UInt16) :
    (credit sourcePort host found outstanding packet).1.get? port =
        (if port ∈ outstanding then
          (parseTcpReply packet sourcePort port (some host)).or (found.get? port)
        else found.get? port) ∧
      (port ∈ (credit sourcePort host found outstanding packet).2 ↔
        port ∈ outstanding ∧ parseTcpReply packet sourcePort port (some host) = none) := by
  rw [credit, parseTcpReply]
  cases readReply packet sourcePort (some host) with
  | none => simp
  | some answer =>
    dsimp only
    by_cases hport : answer.port = port
    · subst hport
      by_cases hmem : answer.port ∈ outstanding
      · simp [hmem]
      · simp [hmem]
    · by_cases hmem : answer.port ∈ outstanding
      · simp [hmem, hport, Dict.get?_set_of_ne found answer.state (Ne.symm hport), Ne.symm hport]
      · simp [hmem, hport]

/-! ### The whole loop -/

theorem keys_collectReplies (deadline : ℚ) (receptions : List Reception)
    (hkeys : ∀ port ∈ outstanding, port ∈ found.keys) :
    (collectReplies deadline sourcePort host found outstanding receptions).keys = found.keys := by
  induction receptions generalizing found outstanding with
  | nil => rfl
  | cons reception rest ih =>
    rw [collectReplies]
    split
    · rfl
    · split
      · rfl
      · next packet _ =>
        have hcredit : (credit sourcePort host found outstanding packet).1.keys = found.keys :=
          keys_credit hkeys packet
        dsimp only
        rw [ih, hcredit]
        intro port hport
        rw [hcredit]
        exact hkeys port (outstanding_credit_subset packet hport)

/-- **The loop gives every outstanding port its first answer**, and leaves the others as they
are. -/
theorem get?_collectReplies (deadline : ℚ) (receptions : List Reception) (port : UInt16) :
    (collectReplies deadline sourcePort host found outstanding receptions).get? port =
      if port ∈ outstanding then
        (firstAnswer sourcePort host (heard deadline receptions) port).or (found.get? port)
      else found.get? port := by
  induction receptions generalizing found outstanding with
  | nil => simp [collectReplies, heard, firstAnswer]
  | cons reception rest ih =>
    rw [collectReplies, heard]
    by_cases hover : deadline ≤ reception.moment
    · simp [hover, firstAnswer]
    · by_cases hnone : outstanding = ∅
      · -- nothing is outstanding, so nothing more can be decided
        simp [hnone]
      · rw [if_neg (by simp [hnone, hover]), if_neg hover]
        cases hpacket : reception.packet with
        | none => simp [firstAnswer]
        | some packet =>
          obtain ⟨hget, hmem⟩ := @get?_credit sourcePort host found outstanding packet port
          dsimp only
          rw [ih, hget, firstAnswer_cons]
          by_cases hport : port ∈ outstanding
          · rw [if_pos hport, if_pos hport]
            cases hanswer : parseTcpReply packet sourcePort port (some host) with
            | none =>
              rw [if_pos (hmem.mpr ⟨hport, hanswer⟩), Option.none_or, Option.none_or]
            | some state =>
              rw [if_neg, Option.some_or, Option.some_or, Option.some_or]
              rw [hmem, hanswer]
              simp
          · rw [if_neg hport, if_neg hport, if_neg]
            rw [hmem]
            exact fun h => hport h.1

theorem get?_allFiltered {ports : List UInt16} {port : UInt16} (h : port ∈ ports) :
    (allFiltered ports).get? port = some .FILTERED := by
  induction ports using List.reverseRecOn with
  | nil => simp at h
  | append_singleton ports last ih =>
    rw [allFiltered, List.map_append, List.map_singleton, Dict.ofPairs_append]
    by_cases hlast : port = last
    · rw [hlast, Dict.get?_set_self]
    · rw [Dict.get?_set_of_ne _ _ hlast]
      rw [List.mem_append, List.mem_singleton] at h
      exact ih (h.resolve_right hlast)

theorem keys_allFiltered (ports : List UInt16) : (allFiltered ports).keys = ports.eraseDups := by
  rw [allFiltered, Dict.keys_ofPairs, List.map_map]
  exact congrArg List.eraseDups (List.map_id ports)

theorem exists_mapM_buildSyn {sourceIp : Text} {source target : IPAddress}
    (hsource : requireAddress sourceIp .IPV4 = .ok source)
    (htarget : requireAddress host .IPV4 = .ok target) (ports : List UInt16) :
    ∃ packets, ports.mapM (fun port => buildSyn sourceIp host sourcePort port 0) =
      .ok packets := by
  induction ports with
  | nil => exact ⟨[], rfl⟩
  | cons port ports ih =>
    obtain ⟨packets, hpackets⟩ := ih
    rw [List.mapM_cons, buildSyn_eq hsource htarget, hpackets]
    exact ⟨_, rfl⟩

theorem synExchange_eq {sourceIp : Text} {source target : IPAddress}
    (hsource : requireAddress sourceIp .IPV4 = .ok source)
    (htarget : requireAddress host .IPV4 = .ok target) (ports : List UInt16) (deadline : ℚ)
    (receptions : List Reception) :
    synExchange sourceIp host ports sourcePort deadline receptions =
      .ok (collectReplies deadline sourcePort host (allFiltered ports) ports.toFinset
        receptions) := by
  obtain ⟨packets, hpackets⟩ : ∃ packets,
      ports.mapM (fun port => buildSyn sourceIp host sourcePort port 0) = .ok packets :=
    exists_mapM_buildSyn hsource htarget ports
  rw [synExchange, hpackets]
  rfl

/-- **The fold over the packets agrees with asking port by port**: the ports are the ones asked
for, and each has the state of the first packet before the deadline that answers it, or is
filtered if none does.  Packets that come after the loop has ended early are among these, and
make no difference; what comes later adds no port and changes none that has answered. -/
theorem synExchange_spec {sourceIp : Text} {source target : IPAddress}
    (hsource : requireAddress sourceIp .IPV4 = .ok source)
    (htarget : requireAddress host .IPV4 = .ok target) (ports : List UInt16)
    (sourcePort : UInt16) (deadline : ℚ) (receptions : List Reception) :
    ∃ found, synExchange sourceIp host ports sourcePort deadline receptions = .ok found ∧
      found.keys = ports.eraseDups ∧
      (∀ port ∈ ports, found.get? port = some
        ((firstAnswer sourcePort host (heard deadline receptions) port).getD .FILTERED)) ∧
      ∀ more, ∃ later,
        synExchange sourceIp host ports sourcePort deadline (receptions ++ more) = .ok later ∧
        later.keys = found.keys ∧
        ∀ port ∈ ports, ∀ state,
          firstAnswer sourcePort host (heard deadline receptions) port = some state →
          later.get? port = found.get? port := by
  have hstart : ∀ port ∈ ports.toFinset, port ∈ (allFiltered ports).keys := by
    intro port hport
    rw [keys_allFiltered, List.mem_eraseDups]
    exact List.mem_toFinset.mp hport
  have hkeys : ∀ receptions, (collectReplies deadline sourcePort host (allFiltered ports)
      ports.toFinset receptions).keys = ports.eraseDups := by
    intro receptions
    rw [keys_collectReplies deadline receptions hstart, keys_allFiltered]
  have hget : ∀ receptions, ∀ port ∈ ports, (collectReplies deadline sourcePort host
      (allFiltered ports) ports.toFinset receptions).get? port = some
        ((firstAnswer sourcePort host (heard deadline receptions) port).getD .FILTERED) := by
    intro receptions port hport
    rw [get?_collectReplies, if_pos (List.mem_toFinset.mpr hport), get?_allFiltered hport]
    cases firstAnswer sourcePort host (heard deadline receptions) port with
    | none => rfl
    | some state => rfl
  refine ⟨_, synExchange_eq hsource htarget ports deadline receptions, hkeys receptions,
    hget receptions, ?_⟩
  intro more
  refine ⟨_, synExchange_eq hsource htarget ports deadline (receptions ++ more), ?_, ?_⟩
  · rw [hkeys, hkeys]
  · intro port hport state hanswered
    rw [hget receptions port hport, hget (receptions ++ more) port hport, hanswered,
      firstAnswer_of_prefix (heard_isPrefix deadline receptions more) hanswered]

/-- A packet from `192.0.2.7` with one word of options: a TCP header from a port to port 40000,
with some flags. -/
def replyWithOptions (port flags : UInt8) : Octets :=
  [0x46, 0, 0, 44, 0, 0, 0, 0, 64, 6, 0, 0, 192, 0, 2, 7, 192, 0, 2, 1, 1, 1, 1, 0] ++
    [0, port, 0x9c, 0x40, 0, 0, 0, 0, 0, 0, 0, 1, 0x50, flags, 0xff, 0xff, 0, 0, 0, 0]

/-- Port 22 acknowledges and then resets, and port 80 is silent. -/
theorem synExchange_spec_of_a_contradiction :
    ∃ found, synExchange "192.0.2.1".toList "192.0.2.7".toList [22, 80] 40000 1
        [⟨0, some (replyWithOptions 25 0x12)⟩, ⟨0, some (replyWithOptions 22 0x12)⟩,
          ⟨1 / 2, some (replyWithOptions 22 0x04)⟩] = .ok found ∧
      found.keys = [22, 80] ∧ found.get? 22 = some .OPEN ∧ found.get? 80 = some .FILTERED := by
  obtain ⟨found, hfound, hkeys, hstates, _⟩ := synExchange_spec
    (show requireAddress "192.0.2.1".toList .IPV4 = .ok (.v4 0xc0000201) by decide +kernel)
    (show requireAddress "192.0.2.7".toList .IPV4 = .ok (.v4 0xc0000207) by decide +kernel)
    [22, 80] 40000 1 [⟨0, some (replyWithOptions 25 0x12)⟩,
      ⟨0, some (replyWithOptions 22 0x12)⟩, ⟨1 / 2, some (replyWithOptions 22 0x04)⟩]
  refine ⟨found, hfound, hkeys.trans (by decide), ?_, ?_⟩
  · rw [hstates 22 (by simp)]
    decide +kernel
  · rw [hstates 80 (by simp)]
    decide +kernel

end IPScout
