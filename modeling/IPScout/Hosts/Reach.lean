import IPScout.Echo.Ping
import IPScout.Hosts.Deadline
import IPScout.Net.Resolve

/-!
# Reaching a host

A worker of a many-host read resolves its host in a thread and then opens a
connection or a datagram endpoint, both under one deadline.  Opening looks the
address text up once more, so it raises what a lookup raises.

What the world does to one host is a `HostWorld`.  Whatever it does, reaching the
host ends with an `IPScoutError`, an `OSError`, or a `UnicodeError` that one of
the two lookups raised (`reach_error`).
-/

namespace IPScout

open Base

abbrev Port := { n : Nat // MIN_PORT ≤ n ∧ n ≤ MAX_PORT }

/-- What the world does to one host: the resolver, whether its answer comes before
the deadline, and how opening ends (`none`: the deadline comes first). -/
structure HostWorld (κ : Type) where
  getaddrinfo : Getaddrinfo
  resolvesInTime : Bool
  opens : ResolvedTarget → Port → Option (Except LookupError κ)

variable {κ : Type}

namespace HostWorld

/-- `asyncio.to_thread(resolve_one, host, family=family)`. -/
def resolving (env : Interfaces) (world : HostWorld κ) (host : Text)
    (family : Option AddressFamily) : Awaited ResolvedTarget :=
  if world.resolvesInTime then .ended (resolveOne env world.getaddrinfo host family) else .expired

/-- `asyncio.open_connection(...)` and `loop.create_datagram_endpoint(...)`. -/
def opening (world : HostWorld κ) (target : ResolvedTarget) (port : Port) : Awaited κ :=
  match world.opens target port with
  | none => .expired
  | some (.ok connection) => .ended (.ok connection)
  | some (.error e) => .ended (.error e.raised)

def reach (env : Interfaces) (world : HostWorld κ) (host : Text) (port : Port)
    (family : Option AddressFamily) : Except PyError κ :=
  match within (world.resolving env host family) with
  | .error e => .error e
  | .ok target => within (world.opening target port)

/-- A lookup of the host raises a `UnicodeError` before the deadline: the one of
`resolve_one`, or the one made on opening. -/
def RaisesUnicode (env : Interfaces) (world : HostWorld κ) (host : Text) (port : Port)
    (family : Option AddressFamily) (msg : Message) : Prop :=
  world.resolvesInTime = true ∧
    (Untranslated world.getaddrinfo host family (.unicode msg) ∨
      ∃ target, resolveOne env world.getaddrinfo host family = .ok target ∧
        world.opens target port = some (.error (.unicode msg)))

end HostWorld

open HostWorld

theorem isIPScoutError_of_isResolutionError {e : PyError} (h : e.isResolutionError = true) :
    e.isIPScoutError = true := by
  cases e with
  | scout cls msg => rfl
  | os e => simp [PyError.isResolutionError] at h
  | unicode msg => simp [PyError.isResolutionError] at h
  | value msg => simp [PyError.isResolutionError] at h
  | index msg => simp [PyError.isResolutionError] at h

theorem within_error {α : Type} {a : Awaited α} {e : PyError} (h : within a = .error e) :
    e = deadlinePassed ∨ a = .ended (.error e) := by
  cases a with
  | expired => exact Or.inl (Except.error.inj h).symm
  | ended r =>
    cases r with
    | ok x => simp [within] at h
    | error f =>
      rw [within] at h
      split at h
      · exact Or.inl (Except.error.inj h).symm
      · exact Or.inr (by rw [Except.error.inj h])

theorem within_ok {α : Type} {a : Awaited α} {x : α} (h : within a = .ok x) :
    a = .ended (.ok x) := by
  cases a with
  | expired => simp [within] at h
  | ended r =>
    cases r with
    | ok y => rw [Except.ok.inj h]
    | error f =>
      rw [within] at h
      split at h <;> simp at h

/-- A resolution that ended is that of `resolve_one`, before the deadline. -/
theorem resolving_ended {env : Interfaces} {world : HostWorld κ} {host : Text}
    {family : Option AddressFamily} {r : Except PyError ResolvedTarget}
    (h : world.resolving env host family = .ended r) :
    world.resolvesInTime = true ∧ resolveOne env world.getaddrinfo host family = r := by
  rw [resolving] at h
  split at h
  · next hin => exact ⟨hin, Awaited.ended.inj h⟩
  · simp at h

theorem opening_raised {world : HostWorld κ} {target : ResolvedTarget} {port : Port} {e : PyError}
    (h : world.opening target port = .ended (.error e)) :
    ∃ f, world.opens target port = some (.error f) ∧ e = f.raised := by
  rw [opening] at h
  split at h
  · simp at h
  · simp at h
  · next f hf => exact ⟨f, hf, (Except.error.inj (Awaited.ended.inj h)).symm⟩

/-- **A host is not reached for a reason of the library's, an error of the system, or
a text no lookup can encode.** -/
theorem reach_error {env : Interfaces} {world : HostWorld κ} {host : Text} {port : Port}
    {family : Option AddressFamily} {e : PyError}
    (h : world.reach env host port family = .error e) :
    e.isIPScoutError = true ∨ e.isOSError = true ∨
      ∃ msg, e = .unicode msg ∧ world.RaisesUnicode env host port family msg := by
  rw [reach] at h
  cases hresolve : within (world.resolving env host family) with
  | error f =>
    rw [hresolve] at h
    obtain rfl := Except.error.inj h
    rcases within_error hresolve with rfl | hended
    · exact Or.inr (Or.inl rfl)
    · obtain ⟨hin, hraised⟩ := resolving_ended hended
      rcases resolveOne_error hraised with hres | ⟨g, hg, rfl⟩
      · exact Or.inl (isIPScoutError_of_isResolutionError hres)
      · cases g with
        | os e => exact Or.inr (Or.inl rfl)
        | unicode msg => exact Or.inr (Or.inr ⟨msg, rfl, hin, Or.inl hg⟩)
  | ok target =>
    rw [hresolve] at h
    dsimp only at h
    obtain ⟨hin, hok⟩ := resolving_ended (within_ok hresolve)
    rcases within_error h with rfl | hended
    · exact Or.inr (Or.inl rfl)
    · obtain ⟨g, hg, rfl⟩ := opening_raised hended
      cases g with
      | os e => exact Or.inr (Or.inl rfl)
      | unicode msg => exact Or.inr (Or.inr ⟨msg, rfl, hin, Or.inr ⟨target, hok, hg⟩⟩)

theorem reach_of_raisesUnicode {env : Interfaces} {world : HostWorld κ} {host : Text} {port : Port}
    {family : Option AddressFamily} {msg : Message}
    (h : world.RaisesUnicode env host port family msg) :
    world.reach env host port family = .error (.unicode msg) := by
  obtain ⟨hin, h⟩ := h
  rw [reach, resolving, if_pos hin]
  rcases h with huntranslated | ⟨target, hresolve, hopens⟩
  · rw [resolveOne_of_untranslated env huntranslated, within_ended_error rfl]
    rfl
  · rw [hresolve]
    show within (world.opening target port) = _
    rw [opening, hopens]
    exact within_ended_error rfl

/-- **A worker whose conversations never raise, and that catches what is of the
library and what is of the system, raises exactly the `UnicodeError` of a lookup.** -/
theorem raises_iff_of_reach {ρ : Type} {env : Interfaces} {world : HostWorld κ} {host : Text}
    {port : Port} {family : Option AddressFamily} {work : Except PyError ρ}
    {notReached : PyError → Except PyError ρ}
    (hok : ∀ connection, world.reach env host port family = .ok connection → ∃ r, work = .ok r)
    (herror : ∀ e, world.reach env host port family = .error e → work = notReached e)
    (hcaught : ∀ e, e.isIPScoutError = true ∨ e.isOSError = true → ∃ r, notReached e = .ok r)
    (hraised : ∀ msg, notReached (.unicode msg) = .error (.unicode msg)) (e : PyError) :
    work = .error e ↔ ∃ msg, e = .unicode msg ∧ world.RaisesUnicode env host port family msg := by
  constructor
  · intro h
    have hnone : ¬ ∃ r, work = .ok r := by
      rintro ⟨r, hr⟩
      rw [h] at hr
      simp at hr
    cases hreach : world.reach env host port family with
    | ok connection => exact absurd (hok connection hreach) hnone
    | error f =>
      have hwork := herror f hreach
      rw [hwork] at h hnone
      rcases reach_error hreach with hf | hf | ⟨msg, rfl, hraises⟩
      · exact absurd (hcaught f (Or.inl hf)) hnone
      · exact absurd (hcaught f (Or.inr hf)) hnone
      · rw [hraised msg] at h
        exact ⟨msg, (Except.error.inj h).symm, hraises⟩
  · rintro ⟨msg, rfl, hraises⟩
    rw [herror _ (reach_of_raisesUnicode hraises), hraised msg]

end IPScout
