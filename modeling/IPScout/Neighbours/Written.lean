import IPScout.Neighbours.Remove
import IPScout.Net.MacForms

/-!
# What a static entry leaves, and its removal

What a `set_neighbour` that returns has done to the table: the entry is there, static and
with the hardware address it was given, and no other address is touched
(`setNeighbour_writes`).  An honest kernel confirms what it has accepted
(`setNeighbour_confirmed`), and `remove_neighbour` takes out what `set_neighbour` has put in
(`setNeighbour_removeNeighbour`).

On macOS the routing socket deletes by address alone, so a delete is sent only for an address
that the dump read just before lists (`macos_deletes_listed`), whatever the kernel answers.
-/

namespace IPScout

open Base Base.Text Base.Exchange

/-! ### Writing -/

/-- What a backend that returns has written. -/
structure Wrote (platform : Platform) (t : NeighbourTable) (ip : Text) (index : ℕ) (mac : Octets)
    (u : NeighbourTable) : Prop where
  entry : u ip index = some ⟨mac, true⟩
  frame : ∀ other, other ≠ ip → u other = t other
  /-- The routing socket of macOS holds one entry of an address. -/
  others : ∀ other, other ≠ index →
    u ip other = t ip other ∨ platform = .MACOS ∧ u ip other = none

section Writes

variable {platform : Platform} {t u : NeighbourTable} {ip : Text} {index : ℕ} {mac : Octets}
  {host : StationHost}

theorem NeighbourTable.write_self (entry : TableEntry) :
    t.write ip index entry ip index = some entry :=
  if_pos ⟨rfl, rfl⟩

theorem NeighbourTable.write_of_index_ne {other : ℕ} (h : other ≠ index) (entry : TableEntry) :
    t.write ip index entry ip other = t ip other :=
  if_neg fun hsame => h hsame.2

theorem NeighbourTable.write_of_ne {other : Text} (h : other ≠ ip) (entry : TableEntry) :
    t.write ip index entry other = t other := by
  funext index'
  exact if_neg fun hsame => h hsame.1

theorem Wrote.of_erased (h : ErasedFrom t ip u)
    (hothers : ∀ other, other ≠ index → u ip other = t ip other ∨ platform = .MACOS) :
    Wrote platform t ip index mac (u.write ip index ⟨mac, true⟩) := by
  refine ⟨NeighbourTable.write_self _, ?_, ?_⟩
  · intro other hother
    rw [NeighbourTable.write_of_ne hother, h.of_ne hother]
  · intro other hother
    rw [NeighbourTable.write_of_index_ne hother]
    rcases h ip other with hsame | ⟨_, hgone⟩
    · exact Or.inl hsame
    · rcases hothers other hother with hsame | hmacos
      · exact Or.inl hsame
      · exact Or.inr ⟨hmacos, hgone⟩

theorem Wrote.of_write : Wrote platform t ip index mac (t.write ip index ⟨mac, true⟩) :=
  .of_erased (.refl t ip) fun _ _ => Or.inl rfl

theorem LinuxBackend.ensures_setStaticNeighbour :
    Ensures KernelServes t (setStaticNeighbour host ip mac index) fun a u =>
      a = .ok () → Wrote .LINUX t ip index mac u := by
  rw [setStaticNeighbour]
  split
  · rw [ensures_ask]
    intro error u hserve
    rw [ensures_done]
    cases hserve with
    | acknowledged => exact fun _ => .of_write
    | refused herror =>
      intro hok
      rw [raiseForAck, if_neg herror] at hok
      split at hok <;> cases hok
    | unanswered =>
      intro hok
      cases hok
    | lost =>
      intro hok
      cases hok
  · rw [ensures_done]
    intro hok
    cases hok

theorem MacosBackend.ensures_addNeighbour {start : NeighbourTable} (h : ErasedFrom start ip t) :
    Ensures KernelServes t (addNeighbour host ip mac index) fun a u =>
      a = .ok () → Wrote .MACOS start ip index mac u := by
  rw [addNeighbour, ensures_ask]
  intro status u hserve
  rw [ensures_done]
  cases hserve with
  | succeeded => exact fun _ => .of_erased h fun _ _ => Or.inr rfl
  | failed hstatus =>
    intro hok
    rw [raiseForRouteErrno, if_neg hstatus] at hok
    split at hok <;> cases hok

theorem MacosBackend.ensures_setStaticNeighbour :
    Ensures KernelServes t (setStaticNeighbour host ip mac index) fun a u =>
      a = .ok () → Wrote .MACOS t ip index mac u := by
  rw [setStaticNeighbour, ensures_ask]
  intro listed u hserve
  cases hserve
  cases listed with
  | error e =>
    rw [ensures_done]
    exact fun hok => nomatch hok
  | ok entries =>
    dsimp only
    split
    · rw [ensures_ask]
      intro status u hserve
      split
      · rw [ensures_done]
        exact fun hok => nomatch hok
      · cases hserve with
        | succeeded => exact ensures_addNeighbour (.erase t ip none)
        | failed => exact ensures_addNeighbour (.refl t ip)
    · exact ensures_addNeighbour (.refl t ip)

theorem WindowsBackend.eq_zero_of_raiseForStatus {action : NeighbourChange} {status : ℕ}
    (h : raiseForStatus action status = .ok ()) : status = 0 := by
  by_contra hstatus
  rw [raiseForStatus, if_neg hstatus] at h
  split at h <;> cases h

theorem WindowsBackend.ensures_create {start : NeighbourTable} (h : ErasedFrom start ip t)
    (hothers : ∀ other, other ≠ index → t ip other = start ip other) :
    Ensures KernelServes t (.ask (.call (.add ip index mac)) fun status =>
        .done (raiseForStatus .ADD status) : NeighbourBackend (Except PyError Unit))
      fun a u => a = .ok () → Wrote .WINDOWS start ip index mac u := by
  rw [ensures_ask]
  intro status u hserve
  rw [ensures_done]
  cases hserve with
  | succeeded => exact fun _ => .of_erased h fun other hother => Or.inl (hothers other hother)
  | failed hstatus => exact fun hok => absurd (eq_zero_of_raiseForStatus hok) hstatus

theorem WindowsBackend.ensures_setStaticNeighbour :
    Ensures KernelServes t (setStaticNeighbour ip mac index) fun a u =>
      a = .ok () → Wrote .WINDOWS t ip index mac u := by
  rw [setStaticNeighbour, ensures_ask]
  intro status u hserve
  split
  · next hexists =>
    have hsame : u = t := by
      cases hserve with
      | succeeded => cases hexists
      | failed => rfl
    subst hsame
    rw [ensures_ask]
    intro deleted v hserve
    split
    · rw [ensures_done]
      exact fun hok => nomatch hok
    · cases hserve with
      | succeeded =>
        refine ensures_create (.erase u ip _) fun other hother => if_neg ?_
        rintro ⟨_, hnone | hindex⟩
        · cases hnone
        · exact hother (Option.some.inj hindex).symm
      | failed => exact ensures_create (.refl u ip) fun _ _ => rfl
  · rw [ensures_done]
    intro hok
    have hzero := eq_zero_of_raiseForStatus hok
    cases hserve with
    | succeeded => exact .of_write
    | failed hstatus => exact absurd hzero hstatus

/-- **What a write that returns has written**, on any of the three. -/
theorem ensures_writeNeighbour :
    Ensures KernelServes t (writeNeighbour platform host ip mac index) fun a u =>
      a = .ok () → Wrote platform t ip index mac u := by
  cases platform with
  | LINUX => exact LinuxBackend.ensures_setStaticNeighbour
  | MACOS => exact MacosBackend.ensures_setStaticNeighbour
  | WINDOWS => exact WindowsBackend.ensures_setStaticNeighbour

end Writes

/-! ### Reading back -/

/-- The entry `set_neighbour` answers with. -/
structure Confirms (env : Interfaces) (e : StationEntry) (entry : Neighbour) : Prop where
  ip : entry.ip = e.target
  mac : entry.mac.map Subtype.val = some e.station
  index : entry.interface.bind env.ifNametoindex = some e.index

theorem confirms_of_confirmed {env : Interfaces} {e : StationEntry} {entries : List Neighbour}
    {entry : Neighbour} (h : confirmed env e.target e.station e.index entries = some entry) :
    Confirms env e entry := by
  rw [confirmed] at h
  have hfound := List.find?_some h
  obtain ⟨hip, hmac, hindex⟩ := of_decide_eq_true hfound
  exact ⟨hip, hmac, hindex⟩

theorem ensures_readBack {host : StationHost} {e : StationEntry} {t : NeighbourTable} :
    Ensures KernelServes t (readBack host e) fun a u =>
      u = t ∧ ∀ entry, a = .ok entry → Confirms host.interfaces e entry := by
  rw [readBack, ensures_ask]
  intro listed u hserve
  cases hserve
  cases listed with
  | error error =>
    rw [ensures_done]
    exact ⟨rfl, fun _ hok => nomatch hok⟩
  | ok entries =>
    dsimp only
    split
    · next found hfound =>
      rw [ensures_done]
      refine ⟨rfl, ?_⟩
      intro entry hentry
      rw [← Except.ok.inj hentry]
      exact confirms_of_confirmed hfound
    · rw [ensures_done]
      exact ⟨rfl, fun _ hok => nomatch hok⟩

/-- **What a `set_neighbour` that returns has done**: the address has a static entry with the
hardware address asked for, the entry it answers with says so, and no other address has
changed; nor has another interface, but that macOS keeps one entry of an address. -/
theorem setNeighbour_writes {platform : Platform} {host : StationHost} {ip mac : Text}
    {interface : Option Text} {t t' : NeighbourTable} {trace : NeighbourTrace} {entry : Neighbour}
    (h : Runs KernelServes t (setNeighbour platform host ip mac interface) trace (.ok entry) t') :
    ∃ e, stationEntry host ip mac interface = .ok e ∧
      Wrote platform t e.target e.index e.packed t' ∧ Confirms host.interfaces e entry := by
  rw [setNeighbour] at h
  split at h
  · obtain ⟨_, hok, _⟩ := runs_done.mp h
    cases hok
  · next e he =>
    obtain ⟨first, second, a, u, _, hfirst, hsecond⟩ := runs_bind.mp h
    cases a with
    | error error =>
      obtain ⟨_, hok, _⟩ := runs_done.mp hsecond
      cases hok
    | ok =>
      obtain ⟨rfl, hconfirms⟩ := ensures_readBack second _ t' hsecond
      exact ⟨e, he, ensures_writeNeighbour first _ t' hfirst rfl, hconfirms entry rfl⟩

/-- An entry as a dump lists it that has taken the place of the learned one. -/
def staticNeighbour : Neighbour :=
  { learnedNeighbour with mac := some ⟨"00:00:5e:00:53:07".toList, by decide +kernel⟩ }

/-- On Linux one request replaces a learned entry. -/
theorem setNeighbour_writes_over_learned :
    ∃ e, stationEntry stationHost "192.0.2.7".toList "00:00:5e:00:53:07".toList
        (some "en0".toList) = .ok e ∧
      Wrote .LINUX learnedTable e.target e.index e.packed (learnedTable.write "192.0.2.7".toList 4
        ⟨[0, 0, 0x5e, 0, 0x53, 7], true⟩) ∧
      Confirms stationHost.interfaces e staticNeighbour := by
  have hrun : Runs KernelServes learnedTable (setNeighbour .LINUX stationHost
      "192.0.2.7".toList "00:00:5e:00:53:07".toList (some "en0".toList))
      ([⟨.exchange (.replace "192.0.2.7".toList 4 [0, 0, 0x5e, 0, 0x53, 7]), some 0⟩] ++
        [⟨.listNeighbours, .ok [staticNeighbour]⟩]) (.ok staticNeighbour)
      (learnedTable.write "192.0.2.7".toList 4 ⟨[0, 0, 0x5e, 0, 0x53, 7], true⟩) := by
    rw [setNeighbour, stationEntry_stationHost]
    refine runs_bind.mpr ⟨_, _, .ok (), _, rfl, ?_, .ask .listed .done⟩
    exact .ask .acknowledged .done
  exact setNeighbour_writes hrun

/-! ### There and back -/

theorem formatMac_of_stationMac {mac station : Text} {packed : Octets}
    (hstation : stationMac mac = .ok station) (hpacked : packedMac station = .ok packed) :
    formatMac packed = some station := by
  obtain ⟨normalised, hform, h⟩ := bind_eq_ok.mp hstation
  obtain ⟨raw, hraw, h⟩ := bind_eq_ok.mp h
  rw [requireMac] at hform
  split at hform
  · next canonical hcanonical =>
    rw [Except.ok.inj hform] at hcanonical
    obtain ⟨octets, hwrites, rfl⟩ := normaliseMac_eq_some_iff.mp hcanonical
    rw [packedMac_eq_ok (writesMac_intercalate hwrites.1)] at hraw
    obtain rfl := Except.ok.inj hraw
    split at h
    · cases h
    · next hzero =>
      split at h
      · cases h
      · obtain rfl := Except.ok.inj h
        rw [packedMac_eq_ok (writesMac_intercalate hwrites.1)] at hpacked
        obtain rfl := Except.ok.inj hpacked
        refine formatMac_eq_some_iff.mpr ⟨hwrites.1, ?_, rfl⟩
        simpa using hzero
  · cases hform

/-- What the checks of `set_neighbour` let through. -/
structure Checked (host : StationHost) (ip : Text) (interface : Option Text) (e : StationEntry) :
    Prop where
  target : ipv4StationAddress ip = .ok e.target
  addressed : Addressed host interface e.index
  mac : formatMac e.packed = some e.station

theorem checked_of_stationEntry {host : StationHost} {ip mac : Text} {interface : Option Text}
    {e : StationEntry} (h : stationEntry host ip mac interface = .ok e) :
    Checked host ip interface e := by
  obtain ⟨target, htarget, h⟩ := bind_eq_ok.mp h
  obtain ⟨station, hstation, h⟩ := bind_eq_ok.mp h
  obtain ⟨interfaces, hinterfaces, h⟩ := bind_eq_ok.mp h
  cases interface with
  | none =>
    obtain ⟨index, _, h⟩ := bind_eq_ok.mp h
    obtain ⟨packed, hpacked, h⟩ := bind_eq_ok.mp h
    obtain rfl := Except.ok.inj h
    exact ⟨htarget, (fun _ hname => nomatch hname), formatMac_of_stationMac hstation hpacked⟩
  | some name =>
    obtain ⟨index, hindex, h⟩ := bind_eq_ok.mp h
    obtain ⟨packed, hpacked, h⟩ := bind_eq_ok.mp h
    obtain rfl := Except.ok.inj h
    refine ⟨htarget, ?_, formatMac_of_stationMac hstation hpacked⟩
    intro other hother
    rw [← Option.some.inj hother, hinterfaces]
    exact hindex

/-- **`remove_neighbour` takes out what `set_neighbour` has put in**: it answers `True`, the
address has no entry on that interface any more, and every other address is as it was before
the two calls; so are the interfaces the removal does not name, but on macOS. -/
theorem setNeighbour_removeNeighbour {platform : Platform} {host : StationHost} {ip mac : Text}
    {interface removed : Option Text} (hremoved : removed = interface ∨ removed = none)
    {t u t' : NeighbourTable} {first second : NeighbourTrace} {entry : Neighbour} {b : Bool}
    (hset : Runs (HonestServes platform host.interfaces) t
      (setNeighbour platform host ip mac interface) first (.ok entry) u)
    (hremove : Runs (HonestServes platform host.interfaces) u
      (removeNeighbour platform host ip removed) second (.ok b) t') :
    b = true ∧ ∃ e, stationEntry host ip mac interface = .ok e ∧ t' e.target e.index = none ∧
      (∀ other, other ≠ e.target → t' other = t other) ∧
      (platform ≠ .MACOS → ∀ index, ¬ Addressed host removed index →
        t' e.target index = t e.target index) := by
  obtain ⟨e, he, hwrote, _⟩ := setNeighbour_writes (hset.of_le HonestServes.kernelServes)
  obtain ⟨htarget, haddressed, hmac⟩ := checked_of_stationEntry he
  obtain ⟨target, htarget', ⟨hanswer, herased, hgone⟩, hothers⟩ := removeNeighbour_erases hremove
  rw [htarget] at htarget'
  obtain rfl := Except.ok.inj htarget'
  have hnamed : Addressed host removed e.index := by
    rcases hremoved with rfl | rfl
    · exact haddressed
    · exact fun _ hname => nomatch hname
  have hnone : t' e.target e.index = none := by
    rcases herased e.target e.index with hsame | ⟨_, hnone⟩
    · rw [hwrote.entry] at hsame
      have hlost := hgone e.index _ hnamed hsame
      rw [hmac] at hlost
      cases hlost
    · exact hnone
  refine ⟨hanswer.mpr ?_, e, he, hnone, ?_, ?_⟩
  · rintro rfl
    rw [hwrote.entry] at hnone
    cases hnone
  · intro other hother
    rw [herased.of_ne hother, hwrote.frame other hother]
  · intro hplatform index hindex
    have hne : index ≠ e.index := by
      rintro rfl
      exact hindex hnamed
    rw [hothers hplatform index hindex]
    exact (hwrote.others index hne).resolve_right fun hmacos => hplatform hmacos.1

/-! ### An entry put in and taken out -/

/-- The table with the static entry in the place of the learned one. -/
def staticTable : NeighbourTable :=
  (learnedTable.erase "192.0.2.7".toList none).write "192.0.2.7".toList 4
    ⟨[0, 0, 0x5e, 0, 0x53, 7], true⟩

theorem listsTable_singleton {t : NeighbourTable} {e : Neighbour} (entry : TableEntry)
    (hfamily : e.family = .IPV4) (hinterface : e.interface = some "en0".toList)
    (hmac : e.mac.map Subtype.val = formatMac entry.mac)
    (htable : ∀ ip index held, t ip index = some held → ip = e.ip ∧ index = 4 ∧ held = entry) :
    ListsTable stationHost.interfaces t [e] := by
  intro ip index held mac hheld hread
  obtain ⟨rfl, rfl, rfl⟩ := htable ip index held hheld
  exact ⟨e, List.mem_singleton_self e, hfamily, rfl, by rw [hmac, hread], "en0".toList, hinterface,
    rfl, rfl⟩

theorem learnedTable_eq_some {ip : Text} {index : ℕ} {held : TableEntry}
    (h : learnedTable ip index = some held) :
    ip = "192.0.2.7".toList ∧ index = 4 ∧ held = ⟨[2, 0, 0, 0, 0, 9], false⟩ := by
  rw [learnedTable, Option.ite_none_right_eq_some] at h
  exact ⟨h.1.1, h.1.2, (Option.some.inj h.2).symm⟩

theorem listsTable_learnedTable :
    ListsTable stationHost.interfaces learnedTable [learnedNeighbour] :=
  listsTable_singleton ⟨[2, 0, 0, 0, 0, 9], false⟩ rfl rfl (by decide +kernel) fun _ _ _ =>
    learnedTable_eq_some

theorem listsTable_staticTable :
    ListsTable stationHost.interfaces staticTable [staticNeighbour] := by
  refine listsTable_singleton ⟨[0, 0, 0x5e, 0, 0x53, 7], true⟩ rfl rfl (by decide +kernel) ?_
  intro ip index held hheld
  rw [staticTable, NeighbourTable.write] at hheld
  split at hheld
  · next hsame => exact ⟨hsame.1, hsame.2, (Option.some.inj hheld).symm⟩
  · next hother =>
    have hlearned := (ErasedFrom.erase learnedTable "192.0.2.7".toList none).eq_some hheld
    obtain ⟨rfl, rfl, _⟩ := learnedTable_eq_some hlearned
    exact absurd ⟨rfl, rfl⟩ hother

theorem runs_setNeighbour_stationHost : Runs (HonestServes .MACOS stationHost.interfaces)
    learnedTable (setNeighbour .MACOS stationHost "192.0.2.7".toList "00:00:5e:00:53:07".toList
      (some "en0".toList))
    ([⟨.listNeighbours, .ok [learnedNeighbour]⟩,
      ⟨.call (.delete "192.0.2.7".toList none), (0 : ℕ)⟩,
      ⟨.call (.add "192.0.2.7".toList 4 [0, 0, 0x5e, 0, 0x53, 7]), (0 : ℕ)⟩] ++
      [⟨.listNeighbours, .ok [staticNeighbour]⟩]) (.ok staticNeighbour) staticTable := by
  rw [setNeighbour, stationEntry_stationHost]
  have hfinds : (TableChange.delete "192.0.2.7".toList none).Finds learnedTable :=
    ⟨4, Or.inl rfl, by decide⟩
  refine runs_bind.mpr ⟨_, _, .ok (), staticTable, rfl, ?_, ?_⟩
  · exact .ask (.listed listsTable_learnedTable) (.ask (.succeeded hfinds)
      (.ask (.succeeded trivial) .done))
  · exact .ask (.listed listsTable_staticTable) .done

theorem runs_removeNeighbour_stationHost : Runs (HonestServes .MACOS stationHost.interfaces)
    staticTable (removeNeighbour .MACOS stationHost "192.0.2.7".toList none)
    (⟨.listNeighbours, .ok [staticNeighbour]⟩ ::
      ([⟨.listNeighbours, .ok [staticNeighbour]⟩,
        ⟨.call (.delete "192.0.2.7".toList none), (0 : ℕ)⟩] ++ []))
    (.ok true) (staticTable.erase "192.0.2.7".toList none) := by
  have htarget : ipv4StationAddress "192.0.2.7".toList = .ok "192.0.2.7".toList := by
    decide +kernel
  have hfinds : (TableChange.delete "192.0.2.7".toList none).Finds staticTable :=
    ⟨4, Or.inl rfl, by decide⟩
  have hindices : listedIndices stationHost.interfaces "192.0.2.7".toList [staticNeighbour] = [4] :=
    by decide +kernel
  rw [removeNeighbour, htarget]
  refine .ask (.listed listsTable_staticTable) ?_
  dsimp only
  rw [hindices]
  refine runs_bind.mpr ⟨_, [], .ok true, _, rfl, ?_, .done⟩
  exact .ask (.listed listsTable_staticTable) (.ask (.succeeded hfinds) .done)

/-- The learned entry does not come back. -/
theorem setNeighbour_removeNeighbour_over_learned : ∃ first second,
    Runs (HonestServes .MACOS stationHost.interfaces) learnedTable
      (setNeighbour .MACOS stationHost "192.0.2.7".toList "00:00:5e:00:53:07".toList
        (some "en0".toList)) first (.ok staticNeighbour) staticTable ∧
    Runs (HonestServes .MACOS stationHost.interfaces) staticTable
      (removeNeighbour .MACOS stationHost "192.0.2.7".toList none) second (.ok true)
      (staticTable.erase "192.0.2.7".toList none) ∧
    ∃ e, stationEntry stationHost "192.0.2.7".toList "00:00:5e:00:53:07".toList
        (some "en0".toList) = .ok e ∧
      staticTable.erase "192.0.2.7".toList none e.target e.index = none ∧
      ∀ other, other ≠ e.target →
        staticTable.erase "192.0.2.7".toList none other = learnedTable other := by
  obtain ⟨_, e, he, hnone, hothers, _⟩ := setNeighbour_removeNeighbour (Or.inr rfl)
    runs_setNeighbour_stationHost runs_removeNeighbour_stationHost
  exact ⟨_, _, runs_setNeighbour_stationHost, runs_removeNeighbour_stationHost, e, he, hnone,
    hothers⟩

/-! ### Confirming -/

section Confirming

variable {platform : Platform} {host : StationHost} {ip : Text} {mac : Octets} {index : ℕ}
  {t u : NeighbourTable} {trace : NeighbourTrace} {a : Except PyError Unit}
  {entries : List Neighbour}

/-- A trace that ends with a request other than the dump, or with one that failed. -/
def EndsOtherwise (trace : NeighbourTrace) : Prop :=
  ∀ entries, trace.getLast? ≠ some ⟨.listNeighbours, .ok entries⟩

theorem EndsOtherwise.nil : EndsOtherwise [] := by
  intro entries h
  cases h

theorem EndsOtherwise.exchange (change : TableChange) (answer : Option ℕ) :
    EndsOtherwise [⟨.exchange change, answer⟩] := by
  intro entries h
  cases h

theorem EndsOtherwise.call (change : TableChange) (status : ℕ) :
    EndsOtherwise [⟨.call change, status⟩] := by
  intro entries h
  cases h

theorem EndsOtherwise.cons (x : Sigma NeighbourRequest.Answer) (hne : trace ≠ [])
    (h : EndsOtherwise trace) : EndsOtherwise (x :: trace) := by
  intro entries
  rw [List.getLast?_cons_of_ne_nil hne]
  exact h entries

theorem LinuxBackend.endsOtherwise
    (h : Runs KernelServes t (setStaticNeighbour host ip mac index) trace a u) :
    EndsOtherwise trace := by
  rw [setStaticNeighbour] at h
  split at h
  · obtain ⟨answer, _, rest, rfl, _, hrest⟩ := runs_ask.mp h
    obtain ⟨rfl, _, _⟩ := runs_done.mp hrest
    exact .exchange _ answer
  · obtain ⟨rfl, _, _⟩ := runs_done.mp h
    exact .nil

theorem MacosBackend.endsOtherwise
    (h : Runs KernelServes t (setStaticNeighbour host ip mac index) trace a u) :
    EndsOtherwise trace := by
  obtain ⟨listed, _, rest, rfl, _, hrest⟩ := runs_ask.mp h
  cases listed with
  | error e =>
    obtain ⟨rfl, _, _⟩ := runs_done.mp hrest
    intro entries hlast
    cases hlast
  | ok entries =>
    dsimp only at hrest
    split at hrest
    · obtain ⟨(deleted : ℕ), _, rest, rfl, _, hrest⟩ := runs_ask.mp hrest
      split at hrest
      · obtain ⟨rfl, _, _⟩ := runs_done.mp hrest
        exact .cons _ (by simp) (.call _ deleted)
      · obtain ⟨status, rfl⟩ := runs_addNeighbour hrest
        exact .cons _ (by simp) (.cons _ (by simp) (.call _ status))
    · obtain ⟨status, rfl⟩ := runs_addNeighbour hrest
      exact .cons _ (by simp) (.call _ status)

theorem WindowsBackend.endsOtherwise
    (h : Runs KernelServes t (setStaticNeighbour ip mac index) trace a u) :
    EndsOtherwise trace := by
  obtain ⟨(status : ℕ), _, rest, rfl, _, hrest⟩ := runs_ask.mp h
  split at hrest
  · obtain ⟨(deleted : ℕ), _, rest, rfl, _, hrest⟩ := runs_ask.mp hrest
    split at hrest
    · obtain ⟨rfl, _, _⟩ := runs_done.mp hrest
      exact .cons _ (by simp) (.call _ deleted)
    · obtain ⟨(again : ℕ), _, rest, rfl, _, hrest⟩ := runs_ask.mp hrest
      obtain ⟨rfl, _, _⟩ := runs_done.mp hrest
      exact .cons _ (by simp) (.cons _ (by simp) (.call _ again))
  · obtain ⟨rfl, _, _⟩ := runs_done.mp hrest
    exact .call _ status

theorem endsOtherwise_of_writeNeighbour
    (h : Runs KernelServes t (writeNeighbour platform host ip mac index) trace a u) :
    EndsOtherwise trace := by
  cases platform with
  | LINUX => exact LinuxBackend.endsOtherwise h
  | MACOS => exact MacosBackend.endsOtherwise h
  | WINDOWS => exact WindowsBackend.endsOtherwise h

theorem exists_confirmed {env : Interfaces} {e : StationEntry}
    (hlists : ListsTable env t entries) (hentry : t e.target e.index = some ⟨e.packed, true⟩)
    (hmac : formatMac e.packed = some e.station) :
    ∃ entry, confirmed env e.target e.station e.index
      (entries.filter fun entry => entry.family = .IPV4) = some entry := by
  obtain ⟨found, hfound, hfamily, hip, hstation, name, hinterface, _, hindex⟩ :=
    hlists e.target e.index _ e.station hentry hmac
  rw [confirmed, ← Option.isSome_iff_exists, List.find?_isSome]
  refine ⟨found, ?_, ?_⟩
  · simp [hfound, hfamily]
  · simp [hip, hstation, hinterface, hindex]

/-- **An honest kernel confirms what it has accepted**: a `set_neighbour` whose last request is
a dump that was answered returns the entry. -/
theorem setNeighbour_confirmed {mac : Text} {interface : Option Text}
    {a : Except PyError Neighbour} (h : Runs (HonestServes platform host.interfaces) t
      (setNeighbour platform host ip mac interface) trace a u)
    (hlast : trace.getLast? = some ⟨.listNeighbours, .ok entries⟩) :
    ∃ entry, a = .ok entry := by
  rw [setNeighbour] at h
  split at h
  · obtain ⟨rfl, _, _⟩ := runs_done.mp h
    cases hlast
  · next e he =>
    obtain ⟨first, second, outcome, v, rfl, hfirst, hsecond⟩ := runs_bind.mp h
    have hwide := hfirst.of_le HonestServes.kernelServes
    cases outcome with
    | error error =>
      obtain ⟨rfl, _, _⟩ := runs_done.mp hsecond
      rw [List.append_nil] at hlast
      exact absurd hlast (endsOtherwise_of_writeNeighbour hwide entries)
    | ok =>
      obtain ⟨listed, w, rest, rfl, hserve, hrest⟩ := runs_ask.mp hsecond
      have hwrote := ensures_writeNeighbour first _ v hwide rfl
      cases hserve with
      | unlisted =>
        obtain ⟨rfl, _, _⟩ := runs_done.mp hrest
        rw [List.getLast?_append] at hlast
        cases hlast
      | listed hlists =>
        obtain ⟨entry, hentry⟩ :=
          exists_confirmed hlists hwrote.entry (checked_of_stationEntry he).mac
        dsimp only at hrest
        rw [hentry] at hrest
        obtain ⟨_, rfl, _⟩ := runs_done.mp hrest
        exact ⟨entry, rfl⟩

end Confirming

/-- The dump after the add confirms it: the call whose last request it is returns an entry. -/
theorem setNeighbour_confirmed_over_learned : ∃ trace u entry,
    trace.getLast? = some ⟨.listNeighbours, .ok [staticNeighbour]⟩ ∧
    Runs (HonestServes .MACOS stationHost.interfaces) learnedTable
      (setNeighbour .MACOS stationHost "192.0.2.7".toList "00:00:5e:00:53:07".toList
        (some "en0".toList)) trace (.ok entry) u := by
  obtain ⟨entry, hentry⟩ := setNeighbour_confirmed runs_setNeighbour_stationHost rfl
  exact ⟨_, staticTable, entry, rfl, hentry ▸ runs_setNeighbour_stationHost⟩

/-! ### What macOS deletes -/

/-- The address a request deletes the entry of. -/
def deletedAddress : Sigma NeighbourRequest.Answer → Option Text
  | ⟨.call (.delete ip _), _⟩ => some ip
  | ⟨.exchange (.delete ip _), _⟩ => some ip
  | _ => none

/-- A dump that lists an address. -/
def Lists (ip : Text) (x : Sigma NeighbourRequest.Answer) : Prop :=
  ∃ entries, x = ⟨.listNeighbours, .ok entries⟩ ∧ ∃ e ∈ entries, e.ip = ip

/-- Every delete follows at once on a dump that lists its address. -/
inductive ListedFirst : NeighbourTrace → Prop
  | nil : ListedFirst []
  | other {x : Sigma NeighbourRequest.Answer} {rest : NeighbourTrace} :
      deletedAddress x = none → ListedFirst rest → ListedFirst (x :: rest)
  | delete {x y : Sigma NeighbourRequest.Answer} {rest : NeighbourTrace} {ip : Text} :
      Lists ip x → deletedAddress y = some ip → ListedFirst rest → ListedFirst (x :: y :: rest)

theorem ListedFirst.append {first second : NeighbourTrace} (hfirst : ListedFirst first)
    (hsecond : ListedFirst second) : ListedFirst (first ++ second) := by
  induction hfirst with
  | nil => exact hsecond
  | other hx _ ih => exact .other hx ih
  | delete hx hy _ ih => exact .delete hx hy ih

theorem exists_of_listsNeighbour {env : Interfaces} {entries : List Neighbour} {ip : Text}
    {on : Option ℕ} (h : MacosBackend.listsNeighbour env entries ip on = true) :
    ∃ e ∈ entries, e.ip = ip := by
  rw [MacosBackend.listsNeighbour.eq_def] at h
  split at h
  · obtain ⟨e, he, hip⟩ := List.any_eq_true.mp h
    exact ⟨e, he, by simpa using hip⟩
  · split at h
    · cases h
    · obtain ⟨e, he, hip⟩ := List.any_eq_true.mp h
      rw [Bool.and_eq_true, beq_iff_eq] at hip
      exact ⟨e, he, hip.1⟩

section MacosDeletes

variable {host : StationHost} {ip : Text} {mac : Octets} {index : ℕ} {t u : NeighbourTable}
  {trace : NeighbourTrace}

theorem MacosBackend.listedFirst_addNeighbour {a : Except PyError Unit}
    (h : Runs KernelServes t (addNeighbour host ip mac index) trace a u) : ListedFirst trace := by
  obtain ⟨status, rfl⟩ := runs_addNeighbour h
  exact .other rfl .nil

theorem MacosBackend.listedFirst_setStaticNeighbour {a : Except PyError Unit}
    (h : Runs KernelServes t (setStaticNeighbour host ip mac index) trace a u) :
    ListedFirst trace := by
  obtain ⟨listed, _, rest, rfl, _, hrest⟩ := runs_ask.mp h
  cases listed with
  | error e =>
    obtain ⟨rfl, _, _⟩ := runs_done.mp hrest
    exact .other rfl .nil
  | ok entries =>
    dsimp only at hrest
    split at hrest
    · next hlisted =>
      have hlists := exists_of_listsNeighbour hlisted
      obtain ⟨deleted, _, rest, rfl, _, hrest⟩ := runs_ask.mp hrest
      refine .delete ⟨entries, rfl, hlists⟩ rfl ?_
      split at hrest
      · obtain ⟨rfl, _, _⟩ := runs_done.mp hrest
        exact .nil
      · exact listedFirst_addNeighbour hrest
    · exact .other rfl (listedFirst_addNeighbour hrest)

theorem MacosBackend.listedFirst_removeStaticNeighbour {a : Except PyError Bool}
    (h : Runs KernelServes t (removeStaticNeighbour host ip index) trace a u) :
    ListedFirst trace := by
  obtain ⟨listed, _, rest, rfl, _, hrest⟩ := runs_ask.mp h
  cases listed with
  | error e =>
    obtain ⟨rfl, _, _⟩ := runs_done.mp hrest
    exact .other rfl .nil
  | ok entries =>
    dsimp only at hrest
    split at hrest
    · next hlisted =>
      obtain ⟨deleted, _, rest, rfl, _, hrest⟩ := runs_ask.mp hrest
      obtain ⟨rfl, _, _⟩ := runs_done.mp hrest
      exact .delete ⟨entries, rfl, exists_of_listsNeighbour hlisted⟩ rfl .nil
    · obtain ⟨rfl, _, _⟩ := runs_done.mp hrest
      exact .other rfl .nil

theorem listedFirst_deleteAll (indices : List ℕ) {removed : Bool} {a : Except PyError Bool}
    (h : Runs KernelServes t (deleteAll .MACOS host ip indices removed) trace a u) :
    ListedFirst trace := by
  induction indices generalizing removed t trace with
  | nil =>
    obtain ⟨rfl, _, _⟩ := runs_done.mp h
    exact .nil
  | cons index rest ih =>
    obtain ⟨first, second, outcome, v, rfl, hfirst, hsecond⟩ := runs_bind.mp h
    refine (MacosBackend.listedFirst_removeStaticNeighbour hfirst).append ?_
    cases outcome with
    | error error =>
      obtain ⟨rfl, _, _⟩ := runs_done.mp hsecond
      exact .nil
    | ok deleted => exact ih hsecond

theorem listedFirst_setNeighbour {mac : Text} {interface : Option Text}
    {a : Except PyError Neighbour}
    (h : Runs KernelServes t (setNeighbour .MACOS host ip mac interface) trace a u) :
    ListedFirst trace := by
  rw [setNeighbour] at h
  split at h
  · obtain ⟨rfl, _, _⟩ := runs_done.mp h
    exact .nil
  · obtain ⟨first, second, outcome, v, rfl, hfirst, hsecond⟩ := runs_bind.mp h
    refine (MacosBackend.listedFirst_setStaticNeighbour hfirst).append ?_
    cases outcome with
    | error error =>
      obtain ⟨rfl, _, _⟩ := runs_done.mp hsecond
      exact .nil
    | ok =>
      obtain ⟨listed, _, rest, rfl, _, hrest⟩ := runs_ask.mp hsecond
      have hrest : rest = [] := by
        split at hrest
        · exact (runs_done.mp hrest).1
        · split at hrest <;> exact (runs_done.mp hrest).1
      rw [hrest]
      exact .other rfl .nil

theorem listedFirst_removeNeighbour {interface : Option Text} {a : Except PyError Bool}
    (h : Runs KernelServes t (removeNeighbour .MACOS host ip interface) trace a u) :
    ListedFirst trace := by
  rw [removeNeighbour] at h
  split at h
  · obtain ⟨rfl, _, _⟩ := runs_done.mp h
    exact .nil
  · split at h
    · split at h
      · obtain ⟨rfl, _, _⟩ := runs_done.mp h
        exact .nil
      · exact MacosBackend.listedFirst_removeStaticNeighbour h
    · obtain ⟨listed, _, rest, rfl, _, hrest⟩ := runs_ask.mp h
      refine .other rfl ?_
      split at hrest
      · obtain ⟨rfl, _, _⟩ := runs_done.mp hrest
        exact .nil
      · exact listedFirst_deleteAll _ hrest

end MacosDeletes

/-- **On macOS no entry is deleted that the dump has not just listed**, so no host route that is
not a neighbour goes: neither `set_neighbour` nor `remove_neighbour` sends such a delete,
whatever the kernel answers. -/
theorem macos_deletes_listed {host : StationHost} {ip mac : Text} {interface : Option Text}
    {t u : NeighbourTable} {trace : NeighbourTrace} :
    (∀ a, Runs KernelServes t (setNeighbour .MACOS host ip mac interface) trace a u →
      ListedFirst trace) ∧
    ∀ a, Runs KernelServes t (removeNeighbour .MACOS host ip interface) trace a u →
      ListedFirst trace :=
  ⟨fun _ => listedFirst_setNeighbour, fun _ => listedFirst_removeNeighbour⟩

end IPScout
