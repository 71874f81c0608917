import IPScout.Net.Interfaces

/-!
# Resolving a target

`resolve` and `resolve_one` of `resolve.py`.  The resolver of the platform is a
parameter.  It answers a lookup with any list of results, or raises an `OSError`,
`gaierror` among them, or the `UnicodeError` of a text it cannot encode.

Everything refused before the resolver is asked is an `IPScoutResolutionError`,
and so is what is refused after it has answered.  Of the resolver's own errors
only `gaierror` is translated (`Untranslated`), and that is the whole story
(`resolve_raises_iff`, `resolveOne_raises_iff`).
-/

namespace IPScout

open Base Base.Text

/-! ### The resolver -/

/-- What a lookup raises. -/
inductive LookupError
  | os (e : OSErr)
  | unicode (msg : Message)
  deriving DecidableEq

namespace LookupError

def raised : LookupError → PyError
  | os e => .os e
  | unicode msg => .unicode msg

/-- `except socket.gaierror`. -/
def isGaierror : LookupError → Bool
  | os e => e.cls == .gaierror
  | unicode _ => false

end LookupError

/-- An `AF_INET` result. -/
structure InetInfo where
  address : Text
  literal : (ipv4Address address).isSome

/-- An `AF_INET6` result: an address without a zone, and the scope beside it. -/
structure Inet6Info where
  address : Text
  scopeId : Nat
  literal : ∃ ip, ipv6Address address = some ⟨ip, none⟩

/-- One result of `getaddrinfo`. -/
inductive AddrInfo
  | inet (info : InetInfo)
  | inet6 (info : Inet6Info)
  /-- A result of a family that was not asked for. -/
  | other

/-- `socket.getaddrinfo`; no family is `AF_UNSPEC`. -/
abbrev Getaddrinfo := Text → Option AddressFamily → Except LookupError (List AddrInfo)

/-! ### Results -/

structure ResolvedTarget where
  address : Text
  family : AddressFamily
  deriving DecidableEq

/-- `_with_zone` of an IPv6 result: the zone as it was written, or the scope the
resolver reported. -/
def Inet6Info.withZone (env : Interfaces) (info : Inet6Info) : Option Text → Text
  | some writtenZone => info.address ++ '%' :: writtenZone
  | none =>
    if info.scopeId = 0 then info.address
    else
      match interfaceName env info.scopeId with
      | some name =>
        if name = [] then info.address ++ '%' :: decimal info.scopeId
        else info.address ++ '%' :: name
      | none => info.address ++ '%' :: decimal info.scopeId

/-- `_with_zone` of an IPv4 result. -/
def InetInfo.withZone (info : InetInfo) : Option Text → Text
  | some writtenZone => info.address ++ '%' :: writtenZone
  | none => info.address

def resolvedTargets (env : Interfaces) (infos : List AddrInfo) (writtenZone : Option Text) :
    List ResolvedTarget :=
  infos.filterMap fun
    | .inet info => some ⟨info.withZone writtenZone, .IPV4⟩
    | .inet6 info => some ⟨info.withZone env writtenZone, .IPV6⟩
    | .other => none

/-- `_dedupe`: the items whose address is not among those seen. -/
def dedupe (seen : List Text) : List ResolvedTarget → List ResolvedTarget
  | [] => []
  | item :: rest =>
    if item.address ∈ seen then dedupe seen rest
    else item :: dedupe (item.address :: seen) rest

/-! ### Refusals -/

def BLANK_TARGET_MESSAGE : Message := [say "target must not be empty"]

/-- `family_of`: the family of a literal. -/
def familyOf (address : Text) : Option AddressFamily := (ipAddress address).map IPAddress.family

/-- `IPScoutResolutionError(msg)`. -/
def unresolved (msg : Message) : PyError := .scout .IPScoutResolutionError msg

def noAddressOfFamily (target : Text) (family : AddressFamily) : PyError :=
  unresolved [.quoted target, say " has no ", .text family.value, say " address"]

def refuseAMalformedZone (target : Text) : Except PyError Unit :=
  if '%' ∉ target then .ok ()
  else
    match (splitZone target).zone with
    | none => .error (unresolved [.quoted target,
        say " ends with % but names no interface: write one after it, or drop the %"])
    | some zone =>
      if '%' ∈ zone then
        .error (unresolved [.quoted target, say (" names more than one interface: an address " ++
          "carries one zone, written once after a single %")])
      else
        match familyOf (splitZone target).address with
        | some .IPV4 => .error (unresolved [.quoted target,
            say (" is an IPv4 address with a zone: " ++
            "an interface belongs to an IPv6 link-local address and to nothing else")])
        | none => .error (unresolved [.quoted target, say " puts a zone on ",
            .quoted (splitZone target).address,
            say ", which is not an address literal: an interface can only be written after one"])
        | some .IPV6 =>
          match ipAddress target with
          | some _ => .ok ()
          | none => .error (unresolved [.quoted zone, say " is not a usable interface name in ",
              .quoted target, say ": ", .quoted target,
              say " does not appear to be an IPv4 or IPv6 address"])

/-- What `_resolve` refuses before it asks the resolver. -/
def refuseBeforeLookup (target : Text) (family : Option AddressFamily) : Except PyError Unit :=
  if isBlankTarget target then .error (unresolved BLANK_TARGET_MESSAGE)
  else
    match family, familyOf target with
    | some family, some literal =>
      -- the resolvers disagree about a literal of the other family
      if literal ≠ family then .error (noAddressOfFamily target family)
      else refuseAMalformedZone target
    | _, _ => refuseAMalformedZone target

/-- `exc.strerror or exc`. -/
def OSErr.reason (e : OSErr) : Message :=
  match e.strerror with
  | some (c :: rest) => [.text (c :: rest)]
  | _ => [.text e.str]

/-- What `_resolve` raises for an error of the lookup; only `gaierror` is translated. -/
def lookupFailed (target : Text) (family : Option AddressFamily) : LookupError → PyError
  | .unicode msg => .unicode msg
  | .os e =>
    if e.cls ≠ .gaierror then .os e
    else
      match family with
      | none => unresolved ([say "cannot resolve ", .quoted target, say ": "] ++ e.reason)
      | some family =>
        if (familyOf target).isSome then noAddressOfFamily target family
        else unresolved ([say "cannot resolve ", .quoted target, say " to an ",
          .text family.value, say " address: "] ++ e.reason)

/-- `_resolve`: each address a target resolves to; there is at least one. -/
def resolveTargets (env : Interfaces) (getaddrinfo : Getaddrinfo) (target : Text)
    (family : Option AddressFamily) : Except PyError { l : List ResolvedTarget // l ≠ [] } :=
  match refuseBeforeLookup target family with
  | .error e => .error e
  | .ok () =>
    match getaddrinfo (splitZone target).address family with
    | .error e => .error (lookupFailed target family e)
    | .ok infos =>
      let addresses := dedupe [] (resolvedTargets env infos (splitZone target).zone)
      if h : addresses = [] then
        .error (unresolved [.quoted target, say " resolved to no usable address"])
      else .ok ⟨addresses, h⟩

def resolve (env : Interfaces) (getaddrinfo : Getaddrinfo) (target : Text)
    (family : Option AddressFamily) : Except PyError (List Text) :=
  (resolveTargets env getaddrinfo target family).map fun resolved =>
    resolved.val.map ResolvedTarget.address

def refuseALinkLocalAddressWithNoZone (python : PythonVersion) (target : Text)
    (resolved : ResolvedTarget) : Except PyError Unit :=
  if resolved.family ≠ .IPV6 then .ok ()
  else
    let bare := splitZone resolved.address
    if bare.zone ≠ none then .ok ()
    else
      match ipv6Address bare.address with
      | none => .error (.value [.quoted bare.address])
      | some a =>
        if needsZone python (.v6 a) then
          .error (unresolved [.quoted target, say (" is a link-local address, which needs the " ++
            "interface to send on: write it as "), .text bare.address, say "%<interface>"])
        else .ok ()

/-- `resolve_one`: the single address a probe should use. -/
def resolveOne (env : Interfaces) (getaddrinfo : Getaddrinfo) (target : Text)
    (family : Option AddressFamily) : Except PyError ResolvedTarget :=
  match resolveTargets env getaddrinfo target family with
  | .error e => .error e
  | .ok resolved =>
    let first := resolved.val.head resolved.property
    match refuseALinkLocalAddressWithNoZone env.python target first with
    | .error e => .error e
    | .ok () => .ok first

/-! ### What a refusal is -/

theorem isResolutionError_of_refuseAMalformedZone {target : Text} {e : PyError}
    (h : refuseAMalformedZone target = .error e) : e.isResolutionError = true := by
  rw [refuseAMalformedZone] at h
  split at h
  · simp at h
  · split at h
    · rw [← Except.error.inj h]
      rfl
    · split at h
      · rw [← Except.error.inj h]
        rfl
      · split at h
        · rw [← Except.error.inj h]
          rfl
        · rw [← Except.error.inj h]
          rfl
        · split at h
          · simp at h
          · rw [← Except.error.inj h]
            rfl

/-- **What is refused before the lookup is an `IPScoutResolutionError`.** -/
theorem isResolutionError_of_refuseBeforeLookup {target : Text} {family : Option AddressFamily}
    {e : PyError} (h : refuseBeforeLookup target family = .error e) :
    e.isResolutionError = true := by
  unfold refuseBeforeLookup at h
  split at h
  · rw [← Except.error.inj h]
    rfl
  · split at h
    · split at h
      · rw [← Except.error.inj h]
        rfl
      · exact isResolutionError_of_refuseAMalformedZone h
    · exact isResolutionError_of_refuseAMalformedZone h

theorem isResolutionError_lookupFailed (target : Text) (family : Option AddressFamily)
    (e : LookupError) : (lookupFailed target family e).isResolutionError = e.isGaierror := by
  cases e with
  | unicode msg => rfl
  | os e =>
    unfold lookupFailed
    dsimp only
    by_cases hcls : e.cls = .gaierror
    · rw [if_neg (not_not.mpr hcls), LookupError.isGaierror, hcls]
      cases family with
      | none => rfl
      | some family =>
        dsimp only
        split <;> rfl
    · rw [if_pos hcls, LookupError.isGaierror, beq_eq_false_iff_ne.mpr hcls]
      rfl

theorem lookupFailed_of_not_isGaierror {target : Text} {family : Option AddressFamily}
    {e : LookupError} (h : e.isGaierror = false) : lookupFailed target family e = e.raised := by
  cases e with
  | unicode msg => rfl
  | os e =>
    rw [LookupError.isGaierror, beq_eq_false_iff_ne] at h
    unfold lookupFailed
    dsimp only
    rw [if_pos h]
    rfl

/-! ### What the results are -/

/-- An IPv6 result that names no zone is a literal as it stands. -/
def Bare (item : ResolvedTarget) : Prop :=
  item.family = .IPV6 → (splitZone item.address).zone = none →
    ∃ a, ipv6Address (splitZone item.address).address = some a

theorem percent_notMem_of_ipv6Address {t : Text} {ip : BitVec 128}
    (h : ipv6Address t = some ⟨ip, none⟩) : '%' ∉ t := by
  obtain ⟨_, ⟨hpct, _⟩ | ⟨_, _, _, _, _, _, _, hscope⟩⟩ := ipv6Address_cases h
  · exact hpct
  · simp at hscope

theorem zone_splitZone_append {address zone : Text} (haddress : '%' ∉ address) (hzone : zone ≠ []) :
    (splitZone (address ++ '%' :: zone)).zone = some zone := by
  rw [splitZone_append haddress hzone]

/-- A `%` with nothing after it names no zone. -/
theorem zone_splitZone_ne_nil (t : Text) : (splitZone t).zone ≠ some [] := by
  rw [splitZone]
  dsimp only
  split
  · next h =>
    intro hnil
    exact h.2 (Option.some.inj hnil)
  · simp

theorem bare_inet6 (env : Interfaces) (info : Inet6Info) {zone : Option Text}
    (hzone : zone ≠ some []) : Bare ⟨info.withZone env zone, .IPV6⟩ := by
  intro _ hnone
  obtain ⟨ip, hip⟩ := info.literal
  have hpct : '%' ∉ info.address := percent_notMem_of_ipv6Address hip
  -- text with a zone behind it has that zone
  have hzoned : ∀ z : Text, z ≠ [] →
      (splitZone (info.address ++ '%' :: z)).zone = none → False := by
    intro z hz hn
    rw [zone_splitZone_append hpct hz] at hn
    simp at hn
  have hplain : ∃ a, ipv6Address (splitZone info.address).address = some a := by
    rw [splitZone_of_notMem hpct]
    exact ⟨_, hip⟩
  cases zone with
  | some z =>
    have hz : z ≠ [] := fun he => hzone (by rw [he])
    exact absurd hnone fun hn => hzoned z hz hn
  | none =>
    simp only [Inet6Info.withZone] at hnone ⊢
    split at hnone
    · next h0 => rwa [if_pos h0]
    · split at hnone
      · split at hnone
        · exact absurd hnone fun hn => hzoned _ (decimal_ne_nil _) hn
        · next hname => exact absurd hnone fun hn => hzoned _ hname hn
      · exact absurd hnone fun hn => hzoned _ (decimal_ne_nil _) hn

theorem bare_of_mem_resolvedTargets {env : Interfaces} {infos : List AddrInfo}
    {zone : Option Text} (hzone : zone ≠ some []) {item : ResolvedTarget}
    (h : item ∈ resolvedTargets env infos zone) : Bare item := by
  obtain ⟨info, _, hinfo⟩ := List.mem_filterMap.mp h
  cases info with
  | inet info =>
    rw [← Option.some.inj hinfo]
    intro h6
    simp at h6
  | inet6 info =>
    rw [← Option.some.inj hinfo]
    exact bare_inet6 env info hzone
  | other => simp at hinfo

theorem mem_of_mem_dedupe {seen : List Text} {items : List ResolvedTarget} {item : ResolvedTarget}
    (h : item ∈ dedupe seen items) : item ∈ items := by
  induction items generalizing seen with
  | nil => exact h
  | cons first rest ih =>
    rw [dedupe] at h
    split at h
    · exact List.mem_cons_of_mem _ (ih h)
    · rcases List.mem_cons.mp h with rfl | h
      · exact List.mem_cons_self
      · exact List.mem_cons_of_mem _ (ih h)

theorem bare_of_resolveTargets {env : Interfaces} {getaddrinfo : Getaddrinfo} {target : Text}
    {family : Option AddressFamily} {resolved : { l : List ResolvedTarget // l ≠ [] }}
    (h : resolveTargets env getaddrinfo target family = .ok resolved) :
    ∀ item ∈ resolved.val, Bare item := by
  intro item hitem
  unfold resolveTargets at h
  split at h
  · simp at h
  · split at h
    · simp at h
    · dsimp only at h
      split at h
      · simp at h
      · rw [← Except.ok.inj h] at hitem
        exact bare_of_mem_resolvedTargets (zone_splitZone_ne_nil target) (mem_of_mem_dedupe hitem)

theorem isResolutionError_of_refuseALinkLocal {python : PythonVersion} {target : Text}
    {resolved : ResolvedTarget} {e : PyError} (hbare : Bare resolved)
    (h : refuseALinkLocalAddressWithNoZone python target resolved = .error e) :
    e.isResolutionError = true := by
  unfold refuseALinkLocalAddressWithNoZone at h
  split at h
  · simp at h
  · next h6 =>
    dsimp only at h
    split at h
    · simp at h
    · next hzone =>
      obtain ⟨a, ha⟩ := hbare (not_not.mp h6) (not_not.mp hzone)
      rw [ha] at h
      dsimp only at h
      split at h
      · rw [← Except.error.inj h]
        rfl
      · simp at h

/-! ### What is raised -/

/-- The lookup is made, and raises what is not translated. -/
def Untranslated (getaddrinfo : Getaddrinfo) (target : Text) (family : Option AddressFamily)
    (e : LookupError) : Prop :=
  refuseBeforeLookup target family = .ok () ∧
    getaddrinfo (splitZone target).address family = .error e ∧ e.isGaierror = false

theorem LookupError.isResolutionError_raised (e : LookupError) :
    e.raised.isResolutionError = false := by
  cases e <;> rfl

/-- **`_resolve` raises an `IPScoutResolutionError` or what the lookup raised.** -/
theorem resolveTargets_error {env : Interfaces} {getaddrinfo : Getaddrinfo} {target : Text}
    {family : Option AddressFamily} {e : PyError}
    (h : resolveTargets env getaddrinfo target family = .error e) :
    e.isResolutionError = true ∨ ∃ f, Untranslated getaddrinfo target family f ∧ e = f.raised := by
  unfold resolveTargets at h
  split at h
  · next hrefused =>
    rw [← Except.error.inj h]
    exact Or.inl (isResolutionError_of_refuseBeforeLookup hrefused)
  · next hasked =>
    split at h
    · next f hf =>
      rw [← Except.error.inj h]
      by_cases hgai : f.isGaierror = true
      · left
        rw [isResolutionError_lookupFailed, hgai]
      · rw [Bool.not_eq_true] at hgai
        exact Or.inr ⟨f, ⟨hasked, hf, hgai⟩, lookupFailed_of_not_isGaierror hgai⟩
    · dsimp only at h
      split at h
      · rw [← Except.error.inj h]
        exact Or.inl rfl
      · simp at h

theorem resolveTargets_of_untranslated (env : Interfaces) {getaddrinfo : Getaddrinfo}
    {target : Text} {family : Option AddressFamily} {e : LookupError}
    (h : Untranslated getaddrinfo target family e) :
    resolveTargets env getaddrinfo target family = .error e.raised := by
  obtain ⟨hasked, hlookup, hgai⟩ := h
  rw [resolveTargets, hasked]
  dsimp only
  rw [hlookup]
  dsimp only
  rw [lookupFailed_of_not_isGaierror hgai]

theorem resolveOne_error {env : Interfaces} {getaddrinfo : Getaddrinfo} {target : Text}
    {family : Option AddressFamily} {e : PyError}
    (h : resolveOne env getaddrinfo target family = .error e) :
    e.isResolutionError = true ∨ ∃ f, Untranslated getaddrinfo target family f ∧ e = f.raised := by
  rw [resolveOne] at h
  cases hresolve : resolveTargets env getaddrinfo target family with
  | error f =>
    rw [hresolve] at h
    rw [← Except.error.inj h]
    exact resolveTargets_error hresolve
  | ok resolved =>
    rw [hresolve] at h
    dsimp only at h
    split at h
    · next hrefused =>
      rw [← Except.error.inj h]
      exact Or.inl (isResolutionError_of_refuseALinkLocal
        (bare_of_resolveTargets hresolve _ (List.head_mem _)) hrefused)
    · simp at h

theorem resolveOne_of_untranslated (env : Interfaces) {getaddrinfo : Getaddrinfo}
    {target : Text} {family : Option AddressFamily} {e : LookupError}
    (h : Untranslated getaddrinfo target family e) :
    resolveOne env getaddrinfo target family = .error e.raised := by
  rw [resolveOne, resolveTargets_of_untranslated env h]

/-- **`resolve` raises nothing but `IPScoutResolutionError` exactly when its lookup
raises nothing but `gaierror`.** -/
theorem resolve_raises_iff (env : Interfaces) (getaddrinfo : Getaddrinfo) (target : Text)
    (family : Option AddressFamily) :
    (∀ e, resolve env getaddrinfo target family = .error e → e.isResolutionError = true) ↔
      ¬ ∃ e, Untranslated getaddrinfo target family e := by
  constructor
  · rintro h ⟨e, he⟩
    have hraised := h e.raised (by rw [resolve, resolveTargets_of_untranslated env he]; rfl)
    rw [e.isResolutionError_raised] at hraised
    simp at hraised
  · intro h e he
    rw [resolve] at he
    cases hresolve : resolveTargets env getaddrinfo target family with
    | ok resolved =>
      rw [hresolve] at he
      simp [Except.map] at he
    | error f =>
      rw [hresolve] at he
      rw [← Except.error.inj he]
      rcases resolveTargets_error hresolve with hres | ⟨g, hg, _⟩
      · exact hres
      · exact absurd ⟨g, hg⟩ h

/-- **The same of `resolve_one`.** -/
theorem resolveOne_raises_iff (env : Interfaces) (getaddrinfo : Getaddrinfo) (target : Text)
    (family : Option AddressFamily) :
    (∀ e, resolveOne env getaddrinfo target family = .error e → e.isResolutionError = true) ↔
      ¬ ∃ e, Untranslated getaddrinfo target family e := by
  constructor
  · rintro h ⟨e, he⟩
    have hraised := h e.raised (resolveOne_of_untranslated env he)
    rw [e.isResolutionError_raised] at hraised
    simp at hraised
  · intro h e he
    rcases resolveOne_error he with hres | ⟨g, hg, _⟩
    · exact hres
    · exact absurd ⟨g, hg⟩ h

end IPScout
