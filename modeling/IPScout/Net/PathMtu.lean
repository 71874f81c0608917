import IPScout.Base.Bisect
import IPScout.Echo.Packet

/-!
# The path MTU of the BSDs

`_bsd_mtu`: there is no option to ask for the path MTU, so the size is narrowed by
bisection over datagrams that may not be fragmented, and the kernel's `EMSGSIZE` says
that one is too large.

What a send does is a parameter: the `k`th one may fail although its datagram fits,
with the error an earlier datagram left on the connected socket (`OnAPathOf`).  Every
failure counts as too large here, so the size reported is right exactly when no send
on the way to it fails that should not (`bsdMtu_right_iff`).
-/

namespace IPScout

open Base Base.Text

def DISCARD_PORT : ℕ := 9

def MIN_MTU : ℕ := 68

def MAX_MTU : ℕ := 9000

def IPV4_UDP_OVERHEAD : ℕ := IPV4_MIN_HEADER_SIZE + UDP_HEADER_SIZE

/-- The number of "message too long" on macOS and the BSDs. -/
def EMSGSIZE : ℤ := 40

/-- An IPv4 datagram socket: what becomes of opening it, of `IP_DONTFRAG`, of connecting
it, of its sends in their order and of closing it. -/
structure DatagramSocket where
  opening : Except OSErr Unit
  dontFragment : Except OSErr Unit
  connect : Text → ℕ → Except OSErr Unit
  send : ℕ → Octets → Except OSErr Unit
  close : Except OSErr Unit

/-- `fits`: whether the `k`th send takes a payload of a size. -/
def sendFits (send : ℕ → Octets → Except OSErr Unit) (k payload : ℕ) : Bool :=
  match send k (List.replicate payload 0) with
  | .error _ => false
  | .ok () => true

/-- The probes of `_bsd_mtu`: the smallest size first, then the bisection. -/
def probeMtu (send : ℕ → Octets → Except OSErr Unit) : Option ℕ :=
  let low := MIN_MTU - IPV4_UDP_OVERHEAD
  let high := MAX_MTU - IPV4_UDP_OVERHEAD
  if sendFits send 0 low then some (bisect (sendFits send) 1 low high + IPV4_UDP_OVERHEAD)
  else none

def bsdMtu (sock : DatagramSocket) (address : Text) : Except PyError (Option ℕ) :=
  match sock.opening with
  | .error exc =>
    .error (.scout .IPScoutPermissionError
      [say "path MTU discovery could not open a socket: ", .text exc.str])
  | .ok () =>
    match sock.dontFragment with
    | .error _ =>
      -- closed outside every clause
      match sock.close with
      | .error exc => .error (.os exc)
      | .ok () => .ok none
    | .ok () =>
      match sock.connect address DISCARD_PORT with
      | .error _ => .ok none
      | .ok () => .ok (probeMtu sock.send)

/-- The sends of a path with an MTU: larger packets are refused as too large, and the
others are sent or fail for another reason. -/
structure OnAPathOf (mtu : ℕ) (send : ℕ → Octets → Except OSErr Unit) : Prop where
  tooLarge : ∀ k payload, mtu < payload.length + IPV4_UDP_OVERHEAD →
    ∃ e, send k payload = .error e ∧ e.errno = some EMSGSIZE
  notTooLarge : ∀ k payload, payload.length + IPV4_UDP_OVERHEAD ≤ mtu →
    send k payload = .ok () ∨ ∃ e, send k payload = .error e ∧ e.errno ≠ some EMSGSIZE

/-- Whether the socket lets `_bsd_mtu` probe. -/
def DatagramSocket.probes (sock : DatagramSocket) (address : Text) : Prop :=
  sock.opening = .ok () ∧ sock.dontFragment = .ok () ∧ sock.connect address DISCARD_PORT = .ok ()

/-- The payloads tried after the first, on the way to a path's MTU. -/
def payloadsToward (mtu : ℕ) : List ℕ :=
  middles (mtu - IPV4_UDP_OVERHEAD) (MIN_MTU - IPV4_UDP_OVERHEAD) (MAX_MTU - IPV4_UDP_OVERHEAD)

/-- No send on the way to a path's MTU fails whose packet the path takes. -/
def NothingElseFails (mtu : ℕ) (send : ℕ → Octets → Except OSErr Unit) : Prop :=
  ∀ j payload, (payloadsToward mtu)[j]? = some payload → payload + IPV4_UDP_OVERHEAD ≤ mtu →
    send (1 + j) (List.replicate payload 0) = .ok ()

/-! ### What the probes find -/

theorem sendFits_eq_true {send : ℕ → Octets → Except OSErr Unit} {k payload : ℕ} :
    sendFits send k payload = true ↔ send k (List.replicate payload 0) = .ok () := by
  rw [sendFits]
  split
  · next e h => simp [h]
  · next h => simp [h]

/-- **The probes find the MTU exactly when nothing else fails on the way to it.** -/
theorem probeMtu_right_iff {mtu : ℕ} {send : ℕ → Octets → Except OSErr Unit}
    (hlow : MIN_MTU ≤ mtu) (hhigh : mtu ≤ MAX_MTU) (hpath : OnAPathOf mtu send) :
    (∀ size, probeMtu send = some size → size = mtu) ↔
      (send 0 (List.replicate (MIN_MTU - IPV4_UDP_OVERHEAD) 0) = .ok () →
        NothingElseFails mtu send) := by
  have h28 : IPV4_UDP_OVERHEAD = 28 := rfl
  have h68 : MIN_MTU = 68 := rfl
  have hfail : ∀ k n, mtu - IPV4_UDP_OVERHEAD < n → sendFits send k n = false := by
    intro k n hn
    obtain ⟨e, he, _⟩ := hpath.tooLarge k (List.replicate n 0) (by
      rw [List.length_replicate]
      omega)
    rw [sendFits, he]
  have hsearch := bisect_eq_iff hfail (k := 1)
    (show MIN_MTU - IPV4_UDP_OVERHEAD ≤ mtu - IPV4_UDP_OVERHEAD by omega)
    (show mtu - IPV4_UDP_OVERHEAD ≤ MAX_MTU - IPV4_UDP_OVERHEAD by omega)
  rw [probeMtu, ← sendFits_eq_true]
  by_cases hfirst : sendFits send 0 (MIN_MTU - IPV4_UDP_OVERHEAD) = true
  · rw [if_pos hfirst]
    constructor
    · intro hright _ j payload hj hle
      have hend := hright _ rfl
      exact sendFits_eq_true.mp (hsearch.mp (by omega) j payload hj (by omega))
    · intro hnothing size hsize
      obtain rfl := Option.some.inj hsize
      have hend := hsearch.mpr (fun j payload hj hle =>
        sendFits_eq_true.mpr (hnothing hfirst j payload hj (by omega)))
      omega
  · rw [if_neg hfirst]
    constructor
    · intro _ hok
      exact absurd hok hfirst
    · intro _ size hsize
      simp at hsize

/-- **The BSD probe reports the right size or none exactly when nothing else fails on the
way to it**, unless it does not come to probing or the smallest packet is not sent. -/
theorem bsdMtu_right_iff {mtu : ℕ} (hlow : MIN_MTU ≤ mtu) (hhigh : mtu ≤ MAX_MTU)
    (sock : DatagramSocket) (hpath : OnAPathOf mtu sock.send) (address : Text) :
    (∀ size, bsdMtu sock address = .ok (some size) → size = mtu) ↔
      (sock.probes address →
        sock.send 0 (List.replicate (MIN_MTU - IPV4_UDP_OVERHEAD) 0) = .ok () →
        NothingElseFails mtu sock.send) := by
  rw [bsdMtu, DatagramSocket.probes, ← probeMtu_right_iff hlow hhigh hpath]
  cases sock.opening with
  | error exc => simp
  | ok _ =>
    cases sock.dontFragment with
    | error exc =>
      dsimp only
      split
      · simp
      · simp
    | ok _ =>
      cases sock.connect address DISCARD_PORT with
      | error exc => simp
      | ok _ => simp

/-! ### A refusal left behind -/

/-- A path of an MTU on which some sends, of packets it takes, meet the refusal of an
earlier datagram. -/
def sendsOnAPath (mtu : ℕ) (refused : ℕ → Bool) (k : ℕ) (payload : Octets) :
    Except OSErr Unit :=
  if mtu < payload.length + IPV4_UDP_OVERHEAD then
    .error ⟨.OSError, some EMSGSIZE, none, none, "Message too long".toList⟩
  else if refused k then
    -- `ECONNREFUSED`
    .error ⟨.ConnectionRefusedError, some 61, none, none, "Connection refused".toList⟩
  else .ok ()

theorem onAPathOf_sendsOnAPath (mtu : ℕ) (refused : ℕ → Bool) :
    OnAPathOf mtu (sendsOnAPath mtu refused) where
  tooLarge := by
    intro k payload h
    exact ⟨_, if_pos h, rfl⟩
  notTooLarge := by
    intro k payload h
    rw [sendsOnAPath, if_neg (Nat.not_lt_of_le h)]
    by_cases hk : refused k = true
    · rw [if_pos hk]
      exact Or.inr ⟨_, rfl, by decide⟩
    · rw [if_neg hk]
      exact Or.inl rfl

theorem sendFits_sendsOnAPath (mtu : ℕ) (refused : ℕ → Bool) :
    sendFits (sendsOnAPath mtu refused) =
      fun k payload => decide (payload + IPV4_UDP_OVERHEAD ≤ mtu) && !refused k := by
  funext k payload
  rw [sendFits, sendsOnAPath, List.length_replicate]
  by_cases hlarge : mtu < payload + IPV4_UDP_OVERHEAD
  · rw [if_pos hlarge]
    simp [Nat.not_le_of_lt hlarge]
  · rw [if_neg hlarge]
    cases refused k with
    | true => simp
    | false => simp [Nat.le_of_not_lt hlarge]

/-- A socket that comes to probing, on a path of 1500 octets. -/
def socketOnAPath (refused : ℕ → Bool) : DatagramSocket :=
  ⟨.ok (), .ok (), fun _ _ => .ok (), sendsOnAPath 1500 refused, .ok ()⟩

/-- Where nothing else fails, no other size is reported. -/
theorem bsdMtu_right_of_no_refusal : OnAPathOf 1500 (socketOnAPath fun _ => false).send ∧
    ∀ size, bsdMtu (socketOnAPath fun _ => false) "192.0.2.1".toList = .ok (some size) →
      size = 1500 := by
  refine ⟨onAPathOf_sendsOnAPath 1500 fun _ => false, ?_⟩
  apply (bsdMtu_right_iff (by decide) (by decide) (socketOnAPath fun _ => false)
    (onAPathOf_sendsOnAPath 1500 fun _ => false) "192.0.2.1".toList).mpr
  intro _ _ j payload _ hle
  rw [← sendFits_eq_true]
  show sendFits (sendsOnAPath 1500 fun _ => false) _ _ = true
  rw [sendFits_sendsOnAPath]
  simp [hle]

/-- **A refusal left by an earlier probe makes a size too large that is not**: the third
send after the first is of 1184 octets, and 1183 are reported. -/
theorem bsdMtu_wrong_of_a_refusal : OnAPathOf 1500 (socketOnAPath (· == 3)).send ∧
    bsdMtu (socketOnAPath (· == 3)) "192.0.2.1".toList = .ok (some 1183) := by
  refine ⟨onAPathOf_sendsOnAPath 1500 (· == 3), ?_⟩
  show Except.ok (probeMtu (sendsOnAPath 1500 (· == 3))) = _
  rw [probeMtu, sendFits_sendsOnAPath]
  simp [bisect, middle, MIN_MTU, MAX_MTU, IPV4_UDP_OVERHEAD, IPV4_MIN_HEADER_SIZE,
    UDP_HEADER_SIZE]

end IPScout
