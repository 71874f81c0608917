import IPScout.Net.PathMtu
import IPScout.Echo.Ping
import Mathlib.Data.Nat.Find

/-!
# The two searches for the path MTU

`_windows_mtu` asks `IcmpSendEcho` with the don't-fragment flag, `_bsd_mtu` sends datagrams.
Both narrow the size of a payload, each under its own headers, and a search under any
headers is one over the sizes of packets (`searchMtu_eq`).

Where the sizes that pass are downward closed, the search finds the largest of them
(`largestPassing_searchMtu`).  Whatever the tests say, it ends after fifteen of them at
most, and a size it returns is one that was seen to pass (`observed_searchMtu`).
-/

namespace IPScout

open Base Base.Octets Base.Text

/-! ### The Windows probe -/

def IPV4_ICMP_OVERHEAD : ℕ := IPV4_MIN_HEADER_SIZE + HEADER_SIZE

/-- `ctypes.c_void_p(-1).value`. -/
def INVALID_HANDLE_VALUE : ℕ := 2 ^ 64 - 1

/-- The hop limit of an echo whose caller asks for none. -/
def WINDOWS_DEFAULT_TTL : ℕ := 128

/-- Don't fragment, in the options of an echo. -/
def IP_FLAG_DF : ℕ := 0x02

def PROBE_TIMEOUT_MS : ℕ := 2000

def ICMP_ECHO_REPLY_SIZE : ℕ := 40

def ICMP_REPLY_HEADROOM : ℕ := 64

/-- `reply_buffer_size(ICMP_ECHO_REPLY, payload_size)`. -/
def replyBufferSize (payloadSize : ℕ) : ℕ :=
  ICMP_ECHO_REPLY_SIZE + payloadSize + ICMP_REPLY_HEADROOM

/-- The arguments of `IcmpSendEcho`. -/
structure SendEchoCall where
  handle : ℕ
  destination : ℕ
  request : Octets
  ttl : ℕ
  flags : ℕ
  replySize : ℕ
  timeoutMs : ℕ

/-- What `IcmpSendEcho` leaves: its count, the `Status` of the reply, the last error. -/
structure SendEchoResult where
  count : ℕ
  replyStatus : ℕ
  lastError : ℕ

/-- `iphlpapi.dll`: the handle of `IcmpCreateFile`, and the echoes in their order. -/
structure IcmpLibrary where
  createFile : Option ℕ
  sendEcho : ℕ → SendEchoCall → SendEchoResult

def echoStatus (result : SendEchoResult) : Option IpStatus :=
  IpStatus.parse (if result.count ≠ 0 then result.replyStatus else result.lastError)

/-- `fits_unfragmented`: only "packet too big" says that a size does not fit. -/
def fitsUnfragmented (status : Option IpStatus) : Bool := status != some .PACKET_TOO_BIG

/-- `fits`: whether the `k`th echo takes a payload of a size. -/
def echoFits (library : IcmpLibrary) (handle destination : ℕ) (k payload : ℕ) : Bool :=
  fitsUnfragmented (echoStatus (library.sendEcho k
    { handle, destination, request := List.replicate payload 0, ttl := WINDOWS_DEFAULT_TTL,
      flags := IP_FLAG_DF, replySize := replyBufferSize payload,
      timeoutMs := PROBE_TIMEOUT_MS }))

/-! ### The search -/

/-- The smallest size first, then the bisection; `fits` is asked about payloads. -/
def searchMtu (overhead : ℕ) (fits : ℕ → ℕ → Bool) : Option ℕ :=
  let low := MIN_MTU - overhead
  let high := MAX_MTU - overhead
  if fits 0 low then some (bisect fits 1 low high + overhead) else none

def windowsMtu (library : Option IcmpLibrary) (address : Text) : Except PyError (Option ℕ) :=
  match inetPton .IPV4 address with
  | none =>
    .error (.os ⟨.OSError, none, none, none,
      "illegal IP address string passed to inet_pton".toList⟩)
  | some packed =>
    -- `packed_to_ipv4`
    let destination := littleEndian packed
    match library with
    | none => .ok none
    | some library =>
      match library.createFile with
      | none => .ok none
      | some handle =>
        if handle = INVALID_HANDLE_VALUE then .ok none
        else .ok (searchMtu IPV4_ICMP_OVERHEAD (echoFits library handle destination))

/-- The probes of `_bsd_mtu` are such a search. -/
theorem probeMtu_eq (send : ℕ → Octets → Except OSErr Unit) :
    probeMtu send = searchMtu IPV4_UDP_OVERHEAD (sendFits send) :=
  rfl

/-! ### Sizes that pass -/

/-- The tests say which sizes of packets pass, each time the same. -/
def TestsAs (overhead : ℕ) (fits : ℕ → ℕ → Bool) (passes : ℕ → Bool) : Prop :=
  ∀ k payload, MIN_MTU ≤ payload + overhead → payload + overhead ≤ MAX_MTU →
    fits k payload = passes (payload + overhead)

/-- With a size every smaller one passes. -/
def DownwardClosed (passes : ℕ → Bool) : Prop :=
  ∀ s t, MIN_MTU ≤ s → s ≤ t → t ≤ MAX_MTU → passes t = true → passes s = true

/-- The largest size that passes, and none if the smallest does not. -/
def LargestPassing (passes : ℕ → Bool) (result : Option ℕ) : Prop :=
  (result = none ↔ passes MIN_MTU = false) ∧
    ∀ size, result = some size → MIN_MTU ≤ size ∧ size ≤ MAX_MTU ∧ passes size = true ∧
      ∀ s, size < s → s ≤ MAX_MTU → passes s = false

variable {overhead : ℕ} {fits : ℕ → ℕ → Bool} {passes : ℕ → Bool}

/-- **Under any headers the search is one over the sizes of packets.** -/
theorem searchMtu_eq (hoverhead : overhead ≤ MIN_MTU) (h : TestsAs overhead fits passes) :
    searchMtu overhead fits =
      if passes MIN_MTU then some (bisect (fun _ size => passes size) 1 MIN_MTU MAX_MTU)
      else none := by
  have h68 : MIN_MTU = 68 := rfl
  have h9000 : MAX_MTU = 9000 := rfl
  have hlow : MIN_MTU - overhead + overhead = MIN_MTU := by omega
  have hhigh : MAX_MTU - overhead + overhead = MAX_MTU := by omega
  have hfirst : fits 0 (MIN_MTU - overhead) = passes MIN_MTU := by
    rw [h 0 _ (by omega) (by omega), hlow]
  have hsame : bisect fits 1 (MIN_MTU - overhead) (MAX_MTU - overhead) =
      bisect (fun _ payload => passes (payload + overhead)) 1 (MIN_MTU - overhead)
        (MAX_MTU - overhead) :=
    bisect_congr (fun k n hn hle => h k n (by omega) (by omega))
  have hsizes := @bisect_add (fun _ size => passes size) overhead 1 (MIN_MTU - overhead)
    (MAX_MTU - overhead)
  rw [hlow, hhigh] at hsizes
  rw [searchMtu, hfirst, hsame, hsizes]

/-- **The search finds the largest size that passes.** -/
theorem largestPassing_searchMtu (hoverhead : overhead ≤ MIN_MTU)
    (h : TestsAs overhead fits passes) (hclosed : DownwardClosed passes) :
    LargestPassing passes (searchMtu overhead fits) := by
  have hbounds : MIN_MTU ≤ MAX_MTU := by decide
  rw [searchMtu_eq hoverhead h]
  by_cases hfirst : passes MIN_MTU = true
  · rw [if_pos hfirst]
    have hlow := Nat.le_findGreatest (P := fun size => passes size = true) hbounds hfirst
    have hhigh := Nat.findGreatest_le (P := fun size => passes size = true) MAX_MTU
    have hlargest := Nat.findGreatest_spec (P := fun size => passes size = true) hbounds hfirst
    have hnone := fun s => Nat.findGreatest_is_greatest
      (P := fun size => passes size = true) (n := MAX_MTU) (k := s)
    generalize Nat.findGreatest (fun size => passes size = true) MAX_MTU = largest at *
    have hend : bisect (fun _ size => passes size) 1 MIN_MTU MAX_MTU = largest := by
      apply bisect_eq_of_threshold hlow hhigh
      intro _ n hn hle
      constructor
      · intro hpass
        by_contra hmore
        exact hnone n (Nat.lt_of_not_le hmore) hle hpass
      · intro hless
        exact hclosed n largest (Nat.le_of_lt hn) hless hhigh hlargest
    rw [hend]
    refine ⟨by simp [hfirst], ?_⟩
    intro size hsize
    obtain rfl := Option.some.inj hsize
    refine ⟨hlow, hhigh, hlargest, ?_⟩
    intro s hs hle
    exact Bool.eq_false_iff.mpr (hnone s hs hle)
  · rw [if_neg hfirst]
    refine ⟨by simpa using hfirst, ?_⟩
    intro size hsize
    simp at hsize

/-! ### Whatever the tests say -/

/-- The sizes of packets that are tried, and what the tests say. -/
def sizesTried (overhead : ℕ) (fits : ℕ → ℕ → Bool) : List (ℕ × Bool) :=
  let low := MIN_MTU - overhead
  let high := MAX_MTU - overhead
  ((low, fits 0 low) :: if fits 0 low then tests fits 1 low high else []).map
    fun x => (x.1 + overhead, x.2)

/-- Few sizes are tried, all of them between the bounds, and what is returned is one that was
seen to pass. -/
def Observed (overhead : ℕ) (fits : ℕ → ℕ → Bool) (result : Option ℕ) : Prop :=
  (sizesTried overhead fits).length ≤ 15 ∧
    (∀ x ∈ sizesTried overhead fits, MIN_MTU ≤ x.1 ∧ x.1 ≤ MAX_MTU) ∧
    ∀ size, result = some size →
      MIN_MTU ≤ size ∧ size ≤ MAX_MTU ∧ (size, true) ∈ sizesTried overhead fits

/-- **Whatever the tests say, the search returns a size that was seen to pass.** -/
theorem observed_searchMtu (hoverhead : overhead ≤ MIN_MTU) (fits : ℕ → ℕ → Bool) :
    Observed overhead fits (searchMtu overhead fits) := by
  have h68 : MIN_MTU = 68 := rfl
  have h9000 : MAX_MTU = 9000 := rfl
  have hbounds : ∀ x ∈ sizesTried overhead fits, MIN_MTU ≤ x.1 ∧ x.1 ≤ MAX_MTU := by
    intro x hx
    rw [sizesTried, List.mem_map] at hx
    obtain ⟨y, hy, rfl⟩ := hx
    rw [List.mem_cons] at hy
    rcases hy with rfl | hy
    · dsimp only
      omega
    · by_cases hfirst : fits 0 (MIN_MTU - overhead) = true
      · rw [if_pos hfirst] at hy
        have := tests_mem hy
        dsimp only
        omega
      · rw [if_neg hfirst] at hy
        simp at hy
  refine ⟨?_, hbounds, ?_⟩
  · rw [sizesTried, List.length_map, List.length_cons]
    by_cases hfirst : fits 0 (MIN_MTU - overhead) = true
    · rw [if_pos hfirst]
      have := @length_tests fits 1 (MIN_MTU - overhead) (MAX_MTU - overhead) 14
        (by rw [show 2 ^ 14 = 16384 from rfl]; omega)
      omega
    · rw [if_neg hfirst, List.length_nil]
      decide
  · intro size hsize
    have hmem : (size, true) ∈ sizesTried overhead fits := by
      rw [searchMtu] at hsize
      split at hsize
      · next hfirst =>
        obtain rfl := Option.some.inj hsize
        rw [sizesTried, if_pos hfirst, List.mem_map]
        rcases @bisect_tested fits 1 (MIN_MTU - overhead) (MAX_MTU - overhead) with hend | hmem
        · exact ⟨(MIN_MTU - overhead, fits 0 (MIN_MTU - overhead)), List.mem_cons_self,
            by rw [hend, hfirst]⟩
        · exact ⟨_, List.mem_cons_of_mem _ hmem, rfl⟩
      · simp at hsize
    exact ⟨(hbounds _ hmem).1, (hbounds _ hmem).2, hmem⟩

/-! ### Both copies -/

theorem windowsMtu_eq {library : IcmpLibrary} {address : Text} {packed : Octets} {handle : ℕ}
    (haddress : inetPton .IPV4 address = some packed) (hfile : library.createFile = some handle)
    (hhandle : handle ≠ INVALID_HANDLE_VALUE) :
    windowsMtu (some library) address =
      .ok (searchMtu IPV4_ICMP_OVERHEAD (echoFits library handle (littleEndian packed))) := by
  rw [windowsMtu, haddress]
  dsimp only
  rw [hfile]
  dsimp only
  rw [if_neg hhandle]

theorem bsdMtu_eq {sock : DatagramSocket} {address : Text} (h : sock.probes address) :
    bsdMtu sock address = .ok (searchMtu IPV4_UDP_OVERHEAD (sendFits sock.send)) := by
  rw [bsdMtu, h.1]
  dsimp only
  rw [h.2.1]
  dsimp only
  rw [h.2.2]
  dsimp only
  rw [probeMtu_eq]

/-- **Both searches find the largest size that passes** where the sizes that pass are downward
closed; whatever their tests say, they return a size that was seen to pass; and where their
tests say the same of packets, they return the same. -/
theorem mtuSearch_spec {library : IcmpLibrary} {sock : DatagramSocket} {address : Text}
    {packed : Octets} {handle : ℕ} (haddress : inetPton .IPV4 address = some packed)
    (hfile : library.createFile = some handle) (hhandle : handle ≠ INVALID_HANDLE_VALUE)
    (hsock : sock.probes address) :
    (∀ passes, DownwardClosed passes →
      (TestsAs IPV4_ICMP_OVERHEAD (echoFits library handle (littleEndian packed)) passes →
        ∃ result, windowsMtu (some library) address = .ok result ∧
          LargestPassing passes result) ∧
      (TestsAs IPV4_UDP_OVERHEAD (sendFits sock.send) passes →
        ∃ result, bsdMtu sock address = .ok result ∧ LargestPassing passes result)) ∧
    (∃ result, windowsMtu (some library) address = .ok result ∧
      Observed IPV4_ICMP_OVERHEAD (echoFits library handle (littleEndian packed)) result) ∧
    (∃ result, bsdMtu sock address = .ok result ∧
      Observed IPV4_UDP_OVERHEAD (sendFits sock.send) result) ∧
    ∀ passes, TestsAs IPV4_ICMP_OVERHEAD (echoFits library handle (littleEndian packed)) passes →
      TestsAs IPV4_UDP_OVERHEAD (sendFits sock.send) passes →
      windowsMtu (some library) address = bsdMtu sock address := by
  have hicmp : IPV4_ICMP_OVERHEAD ≤ MIN_MTU := by decide
  have hudp : IPV4_UDP_OVERHEAD ≤ MIN_MTU := by decide
  rw [windowsMtu_eq haddress hfile hhandle, bsdMtu_eq hsock]
  refine ⟨?_, ⟨_, rfl, observed_searchMtu hicmp _⟩, ⟨_, rfl, observed_searchMtu hudp _⟩, ?_⟩
  · intro passes hclosed
    exact ⟨fun h => ⟨_, rfl, largestPassing_searchMtu hicmp h hclosed⟩,
      fun h => ⟨_, rfl, largestPassing_searchMtu hudp h hclosed⟩⟩
  · intro passes hw hb
    rw [searchMtu_eq hicmp hw, searchMtu_eq hudp hb]

/-- A library on a path of 1500 octets: larger packets are answered with "packet too big". -/
def libraryOnAPath : IcmpLibrary where
  createFile := some 1
  sendEcho _ call :=
    if 1500 < call.request.length + IPV4_ICMP_OVERHEAD then ⟨1, 11009, 0⟩ else ⟨1, 0, 0⟩

/-- On a path of 1500 octets both return the same. -/
theorem mtuSearch_same_of_1500 :
    windowsMtu (some libraryOnAPath) "192.0.2.1".toList =
      bsdMtu (socketOnAPath fun _ => false) "192.0.2.1".toList := by
  have haddress : inetPton .IPV4 "192.0.2.1".toList = some [192, 0, 2, 1] := by decide
  have hfile : libraryOnAPath.createFile = some 1 := rfl
  have hsock : (socketOnAPath fun _ => false).probes "192.0.2.1".toList := ⟨rfl, rfl, rfl⟩
  apply (mtuSearch_spec haddress hfile (by decide) hsock).2.2.2 (fun size => decide (size ≤ 1500))
  · intro k payload _ _
    rw [echoFits, libraryOnAPath]
    dsimp only
    rw [List.length_replicate]
    by_cases hlarge : 1500 < payload + IPV4_ICMP_OVERHEAD
    · rw [if_pos hlarge, decide_eq_false (Nat.not_le_of_lt hlarge)]
      decide
    · rw [if_neg hlarge, decide_eq_true (Nat.le_of_not_lt hlarge)]
      decide
  · intro k payload _ _
    show sendFits (sendsOnAPath 1500 fun _ => false) _ _ = _
    rw [sendFits_sendsOnAPath]
    simp

end IPScout
