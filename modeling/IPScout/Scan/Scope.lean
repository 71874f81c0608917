import IPScout.Base.Outcome
import IPScout.Net.Network

/-!
# What a sweep covers

`SweepScope` of `models.py` and the plans of `scan.py`.  The candidates are taken in
the order given, each covered while the budget has room for all of it and skipped once
it has not; that the covered networks fit the budget is a field of the scope.
-/

namespace IPScout

open Base

/-! ### Scopes -/

/-- Which networks a sweep covers, and which it leaves out. -/
structure SweepScope where
  limit : ℕ
  networks : List IPNetwork
  skipped : List IPNetwork
  limit_ge : 1 ≤ limit
  fits : (networks.map IPNetwork.numAddresses).sum ≤ limit

/-- A candidate of `from_networks`. -/
inductive Candidate
  | text (t : Text)
  | network (n : IPNetwork)

def Candidate.read : Candidate → Except PyError IPNetwork
  | network n => .ok n
  | text t =>
    match ipNetwork t with
    | some n => .ok n
    | none => .error (.value [.quoted t, say " does not appear to be an IPv4 or IPv6 network"])

/-- What is covered while there is `room` for all of it, and what is skipped. -/
def divide {α : Type} (size : α → ℕ) : ℤ → List α → List α × List α
  | _, [] => ([], [])
  | room, x :: rest =>
    if size x ≤ room then
      let (covered, skipped) := divide size (room - size x) rest
      (x :: covered, skipped)
    else
      let (covered, skipped) := divide size room rest
      (covered, x :: skipped)

/-- **What is covered fits the room there was.** -/
theorem sum_divide_le {α : Type} (size : α → ℕ) (room : ℤ) (l : List α) (h : 0 ≤ room) :
    (((divide size room l).1.map size).sum : ℤ) ≤ room := by
  induction l generalizing room with
  | nil => simpa [divide] using h
  | cons x rest ih =>
    rw [divide]
    split
    · next hroom =>
      have hrest := ih (room - size x) (by omega)
      rw [List.map_cons, List.sum_cons]
      omega
    · exact ih room h

def SweepScope.fromNetworks (candidates : List Candidate) (limit : ℤ) :
    Except PyError SweepScope := do
  let networks ← candidates.mapM Candidate.read
  if h : 1 ≤ limit then
    .ok
      { limit := limit.toNat
        networks := (divide IPNetwork.numAddresses limit networks).1
        skipped := (divide IPNetwork.numAddresses limit networks).2
        limit_ge := by omega
        fits := by
          have := sum_divide_le IPNetwork.numAddresses limit networks (by omega)
          omega }
  else .error (.value [say "limit: Input should be greater than or equal to 1"])

theorem SweepScope.exists_fromNetworks {candidates : List Candidate} {networks : List IPNetwork}
    {limit : ℤ} (hread : candidates.mapM Candidate.read = .ok networks) (hlimit : 1 ≤ limit) :
    ∃ scope, fromNetworks candidates limit = .ok scope ∧
      scope.networks = (divide IPNetwork.numAddresses limit networks).1 ∧
      scope.skipped = (divide IPNetwork.numAddresses limit networks).2 ∧ scope.limit = limit := by
  rw [fromNetworks, hread]
  show ∃ scope, (if h : 1 ≤ limit then _ else _) = Except.ok scope ∧ _
  rw [dif_pos hlimit]
  exact ⟨_, rfl, rfl, rfl, Int.toNat_of_nonneg (by omega)⟩

/-! ### Plans -/

def MAX_SWEEP_HOSTS : ℤ := 4096

def POINT_TO_POINT_PREFIX : ℕ := 31

/-- `InterfaceAddress`: its literal, and a prefix that fits it. -/
structure InterfaceAddress where
  address : IPAddress
  prefixLen : ℕ
  fits : prefixLen ≤ address.maxPrefixlen

/-- What a default sweep reads of an `Interface`. -/
structure SweepInterface where
  isLoopback : Bool
  ipv4 : List InterfaceAddress

/-- The networks of an interface that a sweep has business with. -/
def SweepInterface.networks (interface : SweepInterface) : List IPNetwork :=
  if interface.isLoopback then []
  else interface.ipv4.filterMap fun entry =>
    match interfaceNetwork entry.address entry.prefixLen entry.fits with
    | .v4 n => if n.prefixlen ≥ POINT_TO_POINT_PREFIX then none else some (.v4 n)
    | .v6 _ => none

def localNetworks (interfaces : List SweepInterface) : List IPNetwork :=
  (interfaces.flatMap SweepInterface.networks).eraseDups

/-- What `scan.py` asks of its host. -/
structure SweepHost where
  localInterfaces : Except PyError (List SweepInterface)
  /-- `ping_many`, with so many probes in flight; its result is not looked at. -/
  pingMany : List Text → ℤ → Except PyError Unit

/-- `_limit`. -/
def requireLimit (limit : ℤ) : Except PyError ℤ :=
  if 1 ≤ limit then .ok limit
  else .error (.value [say ("sweep refused its arguments: limit: " ++
    "Input should be greater than or equal to 1")])

/-- `_targets`. -/
def sweepTargets (host : SweepHost) : Option Text → Except PyError (List Candidate)
  | some network => .ok [.text network]
  | none => do
    let interfaces ← host.localInterfaces
    .ok ((localNetworks interfaces).map .network)

def sweepScope (host : SweepHost) (network : Option Text) (limit : ℤ) :
    Except PyError SweepScope := do
  let targets ← sweepTargets host network
  let limit ← requireLimit limit
  SweepScope.fromNetworks targets limit

def plan (host : SweepHost) (network : Option Text) :
    Option SweepScope → Except PyError SweepScope
  | none => sweepScope host network MAX_SWEEP_HOSTS
  | some scope =>
    match network with
    | some _ => .error (.value [say ("network and scope are mutually exclusive; " ++
        "a scope already names the networks to sweep")])
    | none => .ok scope

end IPScout
