import IPScout.Net.Hextets
import IPScout.Net.Resolve

/-!
# Literals as targets

`resolve_one` checks the zone of a target twice: the text as it was written, before the
resolver is asked, and the address it resolved to, after.  A resolver answers a literal
with the literal's own address.

Both checks accept a literal unless it is an IPv6 link-local address written without a
zone (`zoneChecksAccept_iff`).
-/

namespace IPScout

open Base Base.Text

def AddrInfo.IsLiteral (a : IPAddress) : AddrInfo → Prop
  | .inet info => ipAddress info.address = some a
  | .inet6 info => ipAddress info.address = some a ∧ info.scopeId = 0
  | .other => False

/-- Neither zone check of `resolve_one` raises for a target, where the resolver answers
the address it was asked for. -/
def ZoneChecksAccept (env : Interfaces) (target : Text) : Prop :=
  refuseAMalformedZone target = .ok () ∧
    ∀ a infos, ipAddress (splitZone target).address = some a →
      (∀ info ∈ infos, info.IsLiteral a) →
      ∀ resolved ∈ resolvedTargets env infos (splitZone target).zone,
        refuseALinkLocalAddressWithNoZone env.python target resolved = .ok ()

/-- A literal with a `%` is an IPv6 address with a zone. -/
theorem zone_of_pct_mem {t : Text} {a : IPAddress} (h : ipAddress t = some a) (hpct : '%' ∈ t) :
    ∃ ip zone, a = .v6 ⟨ip, some zone⟩ ∧ '%' ∉ zone := by
  cases a with
  | v4 ip => exact absurd hpct (percent_notMem_of_ipv4Address (ipv4Address_of_ipAddress h))
  | v6 a =>
    obtain ⟨ip, scope⟩ := a
    obtain ⟨_, ⟨hno, _⟩ | ⟨_, zone, _, _, _, hzone, _, rfl⟩⟩ :=
      ipv6Address_cases (ipv6Address_of_ipAddress h).2
    · exact absurd hpct hno
    · exact ⟨ip, zone, rfl, hzone⟩

theorem refuseAMalformedZone_of_ipAddress {t : Text} {a : IPAddress} (h : ipAddress t = some a) :
    refuseAMalformedZone t = .ok () := by
  by_cases hpct : '%' ∈ t
  · obtain ⟨ip, zone, rfl, hzone⟩ := zone_of_pct_mem h hpct
    obtain ⟨hbare, hsplit⟩ := splitZone_of_ipAddress h
    have hfamily : familyOf (splitZone t).address = some .IPV6 := by
      rw [familyOf, hbare]
      rfl
    rw [refuseAMalformedZone, if_neg (not_not.mpr hpct), hsplit, IPAddress.zone]
    dsimp only
    rw [if_neg hzone, hfamily, h]
  · rw [refuseAMalformedZone, if_pos hpct]

theorem needsZone_bare (python : PythonVersion) (a : IPAddress) :
    needsZone python a.bare = needsZone python a := by
  cases a <;> rfl

theorem exists_v6_of_needsZone {python : PythonVersion} {a : IPAddress}
    (h : needsZone python a = true) :
    ∃ ip scope, a = .v6 ⟨ip, scope⟩ := by
  cases a with
  | v4 ip => simp [needsZone, IPAddress.version, IPAddress.family, AddressFamily.ipVersion] at h
  | v6 a => exact ⟨a.ip, a.scopeId, rfl⟩

theorem exists_bare_text (ip : BitVec 128) : ∃ text, '%' ∉ text ∧
    ipv6Address text = some ⟨ip, none⟩ ∧ ipAddress text = some (.v6 ⟨ip, none⟩) := by
  have hpct : '%' ∉ ipv6Text ip := notMem_ipv6Text (by decide) (by decide) ip
  have hslash : '/' ∉ ipv6Text ip := notMem_ipv6Text (by decide) (by decide) ip
  exact ⟨ipv6Text ip, hpct, ipv6Address_of_ipv6Bits (ipv6Bits_ipv6Text ip) hpct hslash,
    ipAddress_text (.v6 ⟨ip, none⟩) (by simp [IPAddress.zone])⟩

theorem ipAddress_of_ipv6Address {text : Text} {ip : BitVec 128}
    (h : ipv6Address text = some ⟨ip, none⟩) : ipAddress text = some (.v6 ⟨ip, none⟩) := by
  obtain ⟨_, ⟨_, hbits, _⟩ | ⟨_, _, _, _, _, _, _, hscope⟩⟩ := ipv6Address_cases h
  · rw [ipAddress_eq_of_colon (colon_mem_of_ipv6Bits hbits), h]
    rfl
  · simp at hscope

theorem refuseALinkLocal_of_bare {python : PythonVersion} {target text : Text}
    {a : IPv6Address} (hpct : '%' ∉ text) (htext : ipv6Address text = some a) :
    refuseALinkLocalAddressWithNoZone python target ⟨text, .IPV6⟩ = .ok () ↔
      needsZone python (.v6 a) = false := by
  have hsplit := splitZone_of_notMem hpct
  unfold refuseALinkLocalAddressWithNoZone
  dsimp only
  rw [hsplit, if_neg (not_not.mpr rfl)]
  dsimp only
  rw [if_neg (not_not.mpr rfl), htext]
  dsimp only
  by_cases hneeds : needsZone python (.v6 a) = true
  · rw [if_pos hneeds, hneeds]
    simp
  · rw [if_neg hneeds]
    simpa using hneeds

theorem not_zoneChecksAccept {env : Interfaces} {t : Text} {a : IPAddress}
    (h : ipAddress t = some a) (hneeds : needsZone env.python a = true) (hnone : a.zone = none) :
    ¬ ZoneChecksAccept env t := by
  obtain ⟨hbare, hzone⟩ := splitZone_of_ipAddress h
  obtain ⟨ip, scope, rfl⟩ := exists_v6_of_needsZone hneeds
  cases hnone
  intro haccept
  obtain ⟨text, hpct, htext, hread⟩ := exists_bare_text ip
  have hliteral : AddrInfo.IsLiteral (.v6 ⟨ip, none⟩) (.inet6 ⟨text, 0, ip, htext⟩) := ⟨hread, rfl⟩
  have hmem : (⟨text, .IPV6⟩ : ResolvedTarget) ∈
      resolvedTargets env [.inet6 ⟨text, 0, ip, htext⟩] (splitZone t).zone := by
    rw [hzone]
    exact List.mem_singleton_self _
  have hrefused := haccept.2 (.v6 ⟨ip, none⟩) _ hbare
    (fun info hinfo => by rw [List.mem_singleton.mp hinfo]; exact hliteral) _ hmem
  rw [refuseALinkLocal_of_bare hpct htext, hneeds] at hrefused
  simp at hrefused

theorem refuseALinkLocal_of_literal {env : Interfaces} {t : Text} {a : IPAddress}
    (h : ipAddress t = some a) (hneeds : needsZone env.python a = true → a.zone.isSome = true)
    {infos : List AddrInfo} (hinfos : ∀ info ∈ infos, info.IsLiteral a.bare)
    {resolved : ResolvedTarget} (hresolved : resolved ∈ resolvedTargets env infos a.zone) :
    refuseALinkLocalAddressWithNoZone env.python t resolved = .ok () := by
  obtain ⟨info, hinfo, hmade⟩ := List.mem_filterMap.mp hresolved
  have hliteral := hinfos info hinfo
  cases info with
  | inet info =>
    rw [← Option.some.inj hmade, refuseALinkLocalAddressWithNoZone]
    rfl
  | other => simp at hmade
  | inet6 info =>
    obtain ⟨hread, hscope⟩ := hliteral
    rw [← Option.some.inj hmade]
    obtain ⟨ip, hip⟩ := info.literal
    have hpct : '%' ∉ info.address := percent_notMem_of_ipv6Address hip
    cases hzone : a.zone with
    | some zone =>
      have hne : zone ≠ [] := by
        rintro rfl
        exact zone_splitZone_ne_nil t ((splitZone_of_ipAddress h).2.trans hzone)
      have hsplit := zone_splitZone_append hpct hne
      unfold refuseALinkLocalAddressWithNoZone
      dsimp only [Inet6Info.withZone]
      rw [if_neg (not_not.mpr rfl), hsplit, if_pos (by simp)]
    | none =>
      have hsame := ipAddress_of_ipv6Address hip
      rw [hread, Option.some_inj] at hsame
      have hfree : needsZone env.python (.v6 ⟨ip, none⟩) = false := by
        rw [← hsame, needsZone_bare, ← Bool.not_eq_true]
        intro hnot
        have hsome := hneeds hnot
        rw [hzone] at hsome
        simp at hsome
      have hplain : info.withZone env none = info.address := by
        rw [Inet6Info.withZone, if_pos hscope]
      rw [hplain]
      exact (refuseALinkLocal_of_bare hpct hip).mpr hfree

/-- **A literal passes the zone checks unless it lacks the zone it needs.** -/
theorem zoneChecksAccept_iff {env : Interfaces} {t : Text} {a : IPAddress}
    (h : ipAddress t = some a) :
    ZoneChecksAccept env t ↔ (needsZone env.python a = true → a.zone.isSome = true) := by
  obtain ⟨hbare, hzone⟩ := splitZone_of_ipAddress h
  constructor
  · intro haccept hneeds
    rw [Option.isSome_iff_ne_none]
    intro hnone
    exact not_zoneChecksAccept h hneeds hnone haccept
  · intro hneeds
    refine ⟨refuseAMalformedZone_of_ipAddress h, ?_⟩
    intro b infos hb hinfos resolved hresolved
    rw [hbare, Option.some_inj] at hb
    rw [← hb] at hinfos
    rw [hzone] at hresolved
    exact refuseALinkLocal_of_literal h hneeds hinfos hresolved

end IPScout
