import IPScout.Base.Ensures
import IPScout.Neighbours.Static

/-!
# Removing a neighbour entry

`remove_neighbour` of `static_neighbours.py` with its three backends, on the kernel of
`Neighbours/Static.lean`.

A kernel is honest when a delete it accepts found an entry, when it answers with the number
for "no such entry" only where there is none, and when its dump lists every entry with a
hardware address.  On such a kernel `remove_neighbour` answers `True` exactly when the table
has changed (`removeNeighbour_erases`), and it takes out what `set_neighbour` has put in
(`setNeighbour_removeNeighbour`).  On macOS no delete is sent for an address that the dump
does not list (`macos_deletes_listed`), whatever the kernel answers.
-/

namespace IPScout

open Base Base.Text Base.Exchange

/-! ### The backends -/

namespace LinuxBackend

def ENOENT : ℕ := 2

def removedFromAck (host : StationHost) (error : Option ℕ) : Except PyError Bool :=
  if error = some ENOENT then .ok false
  else do
    raiseForAck host .REMOVE error
    .ok true

def removeStaticNeighbour (host : StationHost) (ip : Text) (ifindex : ℕ) :
    NeighbourBackend (Except PyError Bool) :=
  if host.hasNetlink then
    .ask (.exchange (.delete ip (some ifindex))) fun error => .done (removedFromAck host error)
  else .done (.error (.scout .IPScoutUnsupportedError
    [say "no netlink socket on this host, so the neighbour table cannot be changed"]))

end LinuxBackend

namespace MacosBackend

def removeStaticNeighbour (host : StationHost) (ip : Text) (ifindex : ℕ) :
    NeighbourBackend (Except PyError Bool) :=
  .ask .listNeighbours fun listed =>
    match listed with
    | .error e => .done (.error e)
    | .ok entries =>
      if listsNeighbour host.interfaces entries ip (some ifindex) then
        .ask (.call (.delete ip none)) fun error => .done (removedFromRouteErrno host error)
      else .done (.ok false)

end MacosBackend

namespace WindowsBackend

def removeStaticNeighbour (ip : Text) (ifindex : ℕ) : NeighbourBackend (Except PyError Bool) :=
  .ask (.call (.delete ip (some ifindex))) fun status => .done (removedFromStatus status)

end WindowsBackend

/-! ### Removing an entry -/

/-- `_delete`. -/
def deleteNeighbour (platform : Platform) (host : StationHost) (ip : Text) (index : ℕ) :
    NeighbourBackend (Except PyError Bool) :=
  match platform with
  | .WINDOWS => WindowsBackend.removeStaticNeighbour ip index
  | .MACOS => MacosBackend.removeStaticNeighbour host ip index
  | .LINUX => LinuxBackend.removeStaticNeighbour host ip index

/-- The deletes of `remove_neighbour`, one after the other. -/
def deleteAll (platform : Platform) (host : StationHost) (ip : Text) :
    List ℕ → Bool → NeighbourBackend (Except PyError Bool)
  | [], removed => .done (.ok removed)
  | index :: rest, removed =>
    (deleteNeighbour platform host ip index).bind fun
      | .error error => .done (.error error)
      | .ok deleted => deleteAll platform host ip rest (deleted || removed)

/-- The interfaces the cache lists an address on, each one once. -/
def listedIndices (env : Interfaces) (target : Text) (entries : List Neighbour) : List ℕ :=
  (Dict.fromKeys (((entries.filter fun entry => entry.family = .IPV4).filter
    fun entry => entry.ip = target).filterMap
      fun entry => entry.interface.bind env.ifNametoindex)).keys

def removeNeighbour (platform : Platform) (host : StationHost) (ip : Text)
    (interface : Option Text) : NeighbourBackend (Except PyError Bool) :=
  match ipv4StationAddress ip with
  | .error error => .done (.error error)
  | .ok target =>
    match interface with
    | some name =>
      match host.localInterfaces.bind (interfaceIndex host.interfaces name) with
      | .error error => .done (.error error)
      | .ok index => deleteNeighbour platform host target index
    | none =>
      .ask .listNeighbours fun listed =>
        match listed with
        | .error error => .done (.error error)
        | .ok entries =>
          deleteAll platform host target (listedIndices host.interfaces target entries) false

/-! ### Honest kernels -/

/-- The number a kernel refuses the delete of an entry it has not got with. -/
def Platform.notFound : Platform → ℕ
  | LINUX => LinuxBackend.ENOENT
  | MACOS => MacosBackend.ESRCH
  | WINDOWS => WindowsBackend.ERROR_NOT_FOUND

def TableChange.Finds (t : NeighbourTable) : TableChange → Prop
  | .delete ip on => ∃ index, (on = none ∨ on = some index) ∧ t ip index ≠ none
  | _ => True

def TableChange.Misses (t : NeighbourTable) : TableChange → Prop
  | .delete ip on => ∀ index, (on = none ∨ on = some index) → t ip index = none
  | _ => True

/-- A dump that lists every entry with a hardware address, under the name of its interface. -/
def ListsTable (env : Interfaces) (t : NeighbourTable) (entries : List Neighbour) : Prop :=
  ∀ ip index entry mac, t ip index = some entry → formatMac entry.mac = some mac →
    ∃ e ∈ entries, e.family = .IPV4 ∧ e.ip = ip ∧ e.mac.map Subtype.val = some mac ∧
      ∃ name, e.interface = some name ∧ interfaceName env index = some name ∧
        env.ifNametoindex name = some index

/-- What an honest kernel may do with a request. -/
inductive HonestServes (platform : Platform) (env : Interfaces) :
    NeighbourTable → (q : NeighbourRequest) → q.Answer → NeighbourTable → Prop
  | acknowledged {t : NeighbourTable} {change : TableChange} : change.Finds t →
      HonestServes platform env t (.exchange change) (some 0) (t.apply change)
  | refused {t : NeighbourTable} {change : TableChange} {error : ℕ} : error ≠ 0 →
      (error = platform.notFound → change.Misses t) →
      HonestServes platform env t (.exchange change) (some error) t
  | unanswered {t : NeighbourTable} {change : TableChange} :
      HonestServes platform env t (.exchange change) none t
  | lost {t : NeighbourTable} {change : TableChange} :
      HonestServes platform env t (.exchange change) none (t.apply change)
  | succeeded {t : NeighbourTable} {change : TableChange} : change.Finds t →
      HonestServes platform env t (.call change) (0 : ℕ) (t.apply change)
  | failed {t : NeighbourTable} {change : TableChange} {status : ℕ} : status ≠ 0 →
      (status = platform.notFound → change.Misses t) →
      HonestServes platform env t (.call change) status t
  | listed {t : NeighbourTable} {entries : List Neighbour} : ListsTable env t entries →
      HonestServes platform env t .listNeighbours (.ok entries) t
  | unlisted {t : NeighbourTable} {error : PyError} :
      HonestServes platform env t .listNeighbours (.error error) t

theorem HonestServes.kernelServes {platform : Platform} {env : Interfaces} {t t' : NeighbourTable}
    {q : NeighbourRequest} {r : q.Answer} (h : HonestServes platform env t q r t') :
    KernelServes t q r t' := by
  cases h with
  | acknowledged => exact .acknowledged
  | refused herror => exact .refused herror
  | unanswered => exact .unanswered
  | lost => exact .lost
  | succeeded => exact .succeeded
  | failed hstatus => exact .failed hstatus
  | listed => exact .listed
  | unlisted => exact .listed

/-! ### Tables that have lost entries -/

/-- Entries of one address are gone, and nothing else has changed. -/
def ErasedFrom (t : NeighbourTable) (ip : Text) (u : NeighbourTable) : Prop :=
  ∀ other index, u other index = t other index ∨ other = ip ∧ u other index = none

namespace ErasedFrom

theorem refl (t : NeighbourTable) (ip : Text) : ErasedFrom t ip t :=
  fun _ _ => Or.inl rfl

theorem erase (t : NeighbourTable) (ip : Text) (on : Option ℕ) :
    ErasedFrom t ip (t.erase ip on) := by
  intro other index
  by_cases h : other = ip ∧ (on = none ∨ on = some index)
  · exact Or.inr ⟨h.1, if_pos h⟩
  · exact Or.inl (if_neg h)

theorem trans {t u v : NeighbourTable} {ip : Text} (hu : ErasedFrom t ip u)
    (hv : ErasedFrom u ip v) : ErasedFrom t ip v := by
  intro other index
  rcases hv other index with hsame | hgone
  · rw [hsame]
    exact hu other index
  · exact Or.inr hgone

theorem eq_none {t u : NeighbourTable} {ip : Text} (h : ErasedFrom t ip u) {other : Text}
    {index : ℕ} (hnone : t other index = none) : u other index = none := by
  rcases h other index with hsame | ⟨_, hgone⟩
  · rw [hsame, hnone]
  · exact hgone

theorem eq_some {t u : NeighbourTable} {ip : Text} (h : ErasedFrom t ip u) {other : Text}
    {index : ℕ} {entry : TableEntry} (hsome : u other index = some entry) :
    t other index = some entry := by
  rcases h other index with hsame | ⟨_, hgone⟩
  · rw [← hsame, hsome]
  · rw [hgone] at hsome
    cases hsome

/-- **What has changed once does not change back.** -/
theorem ne_of_ne {t u v : NeighbourTable} {ip : Text} (hu : ErasedFrom t ip u)
    (hv : ErasedFrom u ip v) (hne : u ≠ t ∨ v ≠ u) : v ≠ t := by
  rintro rfl
  have hsame : u = v := by
    funext other index
    rcases hu other index with hsame | ⟨_, hgone⟩
    · exact hsame
    · rw [hgone, hv.eq_none hgone]
  subst hsame
  exact hne.elim (fun h => h rfl) fun h => h rfl

theorem of_ne {t u : NeighbourTable} {ip other : Text} (h : ErasedFrom t ip u)
    (hother : other ≠ ip) : u other = t other := by
  funext index
  exact (h other index).resolve_right fun hgone => hother hgone.1

end ErasedFrom

/-- A delete that finds an entry changes the table. -/
theorem TableChange.Finds.erase_ne {t : NeighbourTable} {ip : Text} {on : Option ℕ}
    (h : (TableChange.delete ip on).Finds t) : t.erase ip on ≠ t := by
  obtain ⟨index, hon, hfound⟩ := h
  intro hsame
  rw [← hsame] at hfound
  exact hfound (if_pos ⟨rfl, hon⟩)

/-! ### One delete -/

/-- What a `_delete` that answers `b` has done. -/
structure Deleted (platform : Platform) (t : NeighbourTable) (ip : Text) (index : ℕ) (b : Bool)
    (u : NeighbourTable) : Prop where
  answer : b = true ↔ u ≠ t
  /-- No entry with a hardware address is left. -/
  gone : ∀ entry, u ip index = some entry → formatMac entry.mac = none
  /-- The routing socket of macOS names no interface. -/
  others : platform ≠ .MACOS → ∀ other, other ≠ index → u ip other = t ip other

/-- What every `_delete` does. -/
def DeletePost (platform : Platform) (t : NeighbourTable) (ip : Text) (index : ℕ)
    (a : Except PyError Bool) (u : NeighbourTable) : Prop :=
  ErasedFrom t ip u ∧ ∀ b, a = .ok b → Deleted platform t ip index b u

section Deletes

variable {platform : Platform} {t : NeighbourTable} {ip : Text} {index : ℕ}

theorem DeletePost.of_error {error : PyError} {u : NeighbourTable} (h : ErasedFrom t ip u) :
    DeletePost platform t ip index (.error error) u :=
  ⟨h, by intro b hb; cases hb⟩

theorem DeletePost.missed (h : ∀ entry, t ip index = some entry → formatMac entry.mac = none) :
    DeletePost platform t ip index (.ok false) t := by
  refine ⟨.refl t ip, ?_⟩
  intro b hb
  rw [← Except.ok.inj hb]
  exact ⟨by simp, h, fun _ _ _ => rfl⟩

theorem DeletePost.erased {on : Option ℕ} (hfinds : (TableChange.delete ip on).Finds t)
    (hon : on = some index ∨ on = none ∧ platform = .MACOS) :
    DeletePost platform t ip index (.ok true) (t.erase ip on) := by
  refine ⟨.erase t ip on, ?_⟩
  intro b hb
  rw [← Except.ok.inj hb]
  refine ⟨by simpa using hfinds.erase_ne, ?_, ?_⟩
  · intro entry hentry
    have hgone : t.erase ip on ip index = none := by
      rcases hon with rfl | ⟨rfl, _⟩
      · exact NeighbourTable.erase_some t ip index
      · exact NeighbourTable.erase_none t ip index
    rw [hgone] at hentry
    cases hentry
  · intro hplatform other hother
    rcases hon with rfl | ⟨_, hmacos⟩
    · refine if_neg ?_
      rintro ⟨_, hnone | hsame⟩
      · cases hnone
      · exact hother (Option.some.inj hsame).symm
    · exact absurd hmacos hplatform

/-- A delete that is refused: either there is no entry, or the refusal is raised. -/
theorem DeletePost.refused {on : Option ℕ} {status : ℕ} {a : Except PyError Bool}
    (hmisses : status = platform.notFound → (TableChange.delete ip on).Misses t)
    (hon : on = none ∨ on = some index)
    (hanswer : if status = platform.notFound then a = .ok false else ∃ e, a = .error e) :
    DeletePost platform t ip index a t := by
  by_cases hnone : status = platform.notFound
  · rw [if_pos hnone] at hanswer
    rw [hanswer]
    refine .missed fun entry hentry => ?_
    rw [hmisses hnone index hon] at hentry
    cases hentry
  · rw [if_neg hnone] at hanswer
    obtain ⟨e, rfl⟩ := hanswer
    exact .of_error (.refl t ip)

variable {host : StationHost}

theorem LinuxBackend.removedFromAck_of_ne {error : ℕ} (h : error ≠ 0) :
    if error = ENOENT then removedFromAck host (some error) = .ok false
    else ∃ e, removedFromAck host (some error) = .error e := by
  split
  · next hnone => rw [removedFromAck, if_pos (by rw [hnone])]
  · next hnone =>
    rw [removedFromAck, if_neg (by simpa using hnone), raiseForAck, if_neg h]
    split
    · exact ⟨_, rfl⟩
    · exact ⟨_, rfl⟩

theorem LinuxBackend.ensures_removeStaticNeighbour :
    Ensures (HonestServes .LINUX host.interfaces) t (removeStaticNeighbour host ip index)
      (DeletePost .LINUX t ip index) := by
  rw [removeStaticNeighbour]
  split
  · rw [ensures_ask]
    intro error u hserve
    rw [ensures_done]
    cases hserve with
    | acknowledged hfinds => exact .erased hfinds (Or.inl rfl)
    | refused herror hmisses =>
      exact .refused hmisses (Or.inr rfl) (removedFromAck_of_ne herror)
    | unanswered => exact .of_error (.refl t ip)
    | lost => exact .of_error (.erase t ip _)
  · rw [ensures_done]
    exact .of_error (.refl t ip)

/-- What is not listed on an interface has no hardware address there. -/
theorem gone_of_not_listsNeighbour {env : Interfaces} {entries : List Neighbour}
    (hlists : ListsTable env t entries)
    (h : ¬ MacosBackend.listsNeighbour env entries ip (some index) = true) :
    ∀ entry, t ip index = some entry → formatMac entry.mac = none := by
  intro entry hentry
  cases hmac : formatMac entry.mac with
  | none => rfl
  | some mac =>
    obtain ⟨e, he, _, hip, _, name, hinterface, hname, _⟩ :=
      hlists ip index entry mac hentry hmac
    refine absurd ?_ h
    rw [MacosBackend.listsNeighbour, hname]
    exact List.any_eq_true.mpr ⟨e, he, by simp [hip, hinterface]⟩

theorem MacosBackend.removedFromRouteErrno_of_ne {error : ℕ} (h : error ≠ 0) :
    if error = ESRCH then removedFromRouteErrno host error = .ok false
    else ∃ e, removedFromRouteErrno host error = .error e := by
  split
  · next hnone => rw [removedFromRouteErrno, if_pos hnone]
  · next hnone =>
    rw [removedFromRouteErrno, if_neg hnone, raiseForRouteErrno, if_neg h]
    split
    · exact ⟨_, rfl⟩
    · exact ⟨_, rfl⟩

theorem MacosBackend.ensures_removeStaticNeighbour :
    Ensures (HonestServes .MACOS host.interfaces) t (removeStaticNeighbour host ip index)
      (DeletePost .MACOS t ip index) := by
  rw [removeStaticNeighbour, ensures_ask]
  intro listed u hserve
  cases hserve with
  | unlisted =>
    rw [ensures_done]
    exact .of_error (.refl t ip)
  | listed hlists =>
    dsimp only
    split
    · rw [ensures_ask]
      intro status u hserve
      rw [ensures_done]
      cases hserve with
      | succeeded hfinds => exact .erased hfinds (Or.inr ⟨rfl, rfl⟩)
      | failed hstatus hmisses =>
        exact .refused hmisses (Or.inl rfl) (removedFromRouteErrno_of_ne hstatus)
    · next hnot =>
      rw [ensures_done]
      exact .missed (gone_of_not_listsNeighbour hlists hnot)

theorem WindowsBackend.removedFromStatus_of_ne {status : ℕ} (h : status ≠ 0) :
    if status = ERROR_NOT_FOUND then removedFromStatus status = .ok false
    else ∃ e, removedFromStatus status = .error e := by
  split
  · next hnone => rw [removedFromStatus, if_pos hnone]
  · next hnone =>
    rw [removedFromStatus, if_neg hnone, raiseForStatus, if_neg h]
    split
    · exact ⟨_, rfl⟩
    · exact ⟨_, rfl⟩

theorem WindowsBackend.ensures_removeStaticNeighbour {env : Interfaces} :
    Ensures (HonestServes .WINDOWS env) t (removeStaticNeighbour ip index)
      (DeletePost .WINDOWS t ip index) := by
  rw [removeStaticNeighbour, ensures_ask]
  intro status u hserve
  rw [ensures_done]
  cases hserve with
  | succeeded hfinds => exact .erased hfinds (Or.inl rfl)
  | failed hstatus hmisses =>
    exact .refused hmisses (Or.inr rfl) (removedFromStatus_of_ne hstatus)

/-- **What one delete does**, on any of the three. -/
theorem ensures_deleteNeighbour :
    Ensures (HonestServes platform host.interfaces) t (deleteNeighbour platform host ip index)
      (DeletePost platform t ip index) := by
  cases platform with
  | LINUX => exact LinuxBackend.ensures_removeStaticNeighbour
  | MACOS => exact MacosBackend.ensures_removeStaticNeighbour
  | WINDOWS => exact WindowsBackend.ensures_removeStaticNeighbour

end Deletes

/-! ### Every delete of a call -/

/-- What the deletes of a call have done since the table was `t`. -/
structure Removed (t : NeighbourTable) (ip : Text) (named : ℕ → Prop) (b : Bool)
    (u : NeighbourTable) : Prop where
  answer : b = true ↔ u ≠ t
  erased : ErasedFrom t ip u
  gone : ∀ index entry, named index → u ip index = some entry → formatMac entry.mac = none

theorem Removed.delete {platform : Platform} {t u v : NeighbourTable} {ip : Text}
    {named : ℕ → Prop} {removed deleted : Bool} {index : ℕ} (hu : Removed t ip named removed u)
    (hv : ErasedFrom u ip v) (h : Deleted platform u ip index deleted v) :
    Removed t ip (fun other => other = index ∨ named other) (deleted || removed) v := by
  refine ⟨?_, hu.erased.trans hv, ?_⟩
  · rw [Bool.or_eq_true, h.answer, hu.answer]
    constructor
    · intro hne
      exact hu.erased.ne_of_ne hv hne.symm
    · intro hne
      by_contra hsame
      rw [not_or, not_not, not_not] at hsame
      exact hne (hsame.1.trans hsame.2)
  · rintro other entry (rfl | hnamed) hentry
    · exact h.gone entry hentry
    · exact hu.gone other entry hnamed (hv.eq_some hentry)

theorem ensures_deleteAll {platform : Platform} {host : StationHost} {ip : Text}
    {t : NeighbourTable} (indices : List ℕ) {u : NeighbourTable} {named : ℕ → Prop}
    {removed : Bool} (h : Removed t ip named removed u) :
    Ensures (HonestServes platform host.interfaces) u
      (deleteAll platform host ip indices removed) fun a v =>
        ∀ b, a = .ok b → Removed t ip (fun index => index ∈ indices ∨ named index) b v := by
  induction indices generalizing u named removed with
  | nil =>
    rw [deleteAll, ensures_done]
    intro b hb
    rw [← Except.ok.inj hb]
    exact ⟨h.answer, h.erased, fun index entry hnamed => h.gone index entry (by simpa using hnamed)⟩
  | cons index rest ih =>
    rw [deleteAll, ensures_bind]
    refine ensures_deleteNeighbour.mono ?_
    rintro (error | deleted) v ⟨hv, hdeleted⟩
    · rw [ensures_done]
      intro b hb
      cases hb
    · refine (ih (h.delete hv (hdeleted deleted rfl))).mono ?_
      intro a w hw b hb
      obtain ⟨hanswer, herased, hgone⟩ := hw b hb
      refine ⟨hanswer, herased, ?_⟩
      intro other entry hother
      refine hgone other entry ?_
      rw [List.mem_cons] at hother
      rcases hother with (hindex | hrest) | hnamed
      · exact Or.inr (Or.inl hindex)
      · exact Or.inl hrest
      · exact Or.inr (Or.inr hnamed)

/-- The interfaces a call of `remove_neighbour` is about. -/
def Addressed (host : StationHost) (interface : Option Text) (index : ℕ) : Prop :=
  ∀ name, interface = some name →
    host.localInterfaces.bind (interfaceIndex host.interfaces name) = .ok index

theorem mem_listedIndices {env : Interfaces} {t : NeighbourTable} {entries : List Neighbour}
    (hlists : ListsTable env t entries) {ip mac : Text} {index : ℕ} {entry : TableEntry}
    (hentry : t ip index = some entry) (hmac : formatMac entry.mac = some mac) :
    index ∈ listedIndices env ip entries := by
  obtain ⟨e, he, hfamily, hip, _, name, hinterface, _, hindex⟩ :=
    hlists ip index entry mac hentry hmac
  rw [listedIndices, Dict.keys_fromKeys, List.mem_eraseDups, List.mem_filterMap]
  refine ⟨e, ?_, by rw [hinterface, Option.bind_some, hindex]⟩
  simp [he, hfamily, hip]

/-- **`remove_neighbour` takes out the entries it is asked about and no others**: it answers
`True` exactly when the table has changed, no entry of the address with a hardware address is
left on an interface the call names, and all that is lost are entries of that address; but on
macOS, they are on the interfaces the call names. -/
theorem removeNeighbour_erases {platform : Platform} {host : StationHost} {ip : Text}
    {interface : Option Text} {t t' : NeighbourTable} {trace : NeighbourTrace} {b : Bool}
    (h : Runs (HonestServes platform host.interfaces) t
      (removeNeighbour platform host ip interface) trace (.ok b) t') :
    ∃ target, ipv4StationAddress ip = .ok target ∧
      Removed t target (Addressed host interface) b t' ∧
      (platform ≠ .MACOS → ∀ index, ¬ Addressed host interface index →
        t' target index = t target index) := by
  rw [removeNeighbour] at h
  split at h
  · obtain ⟨_, hb, _⟩ := runs_done.mp h
    cases hb
  · next target htarget =>
    refine ⟨target, htarget, ?_⟩
    split at h
    · next name =>
      split at h
      · obtain ⟨_, hb, _⟩ := runs_done.mp h
        cases hb
      · next index hindex =>
        obtain ⟨herased, hdeleted⟩ := ensures_deleteNeighbour trace _ t' h
        obtain ⟨hanswer, hgone, hothers⟩ := hdeleted b rfl
        have haddressed : ∀ {other}, Addressed host (some name) other ↔ other = index := by
          intro other
          constructor
          · intro hother
            have hsame := hother name rfl
            rw [hindex] at hsame
            exact (Except.ok.inj hsame).symm
          · rintro rfl other hother
            rw [← Option.some.inj hother, hindex]
        refine ⟨⟨hanswer, herased, ?_⟩, ?_⟩
        · intro other entry hother
          rw [haddressed.mp hother]
          exact hgone entry
        · intro hplatform other hother
          exact hothers hplatform other fun hsame => hother (haddressed.mpr hsame)
    · obtain ⟨listed, u, rest, rfl, hserve, hrest⟩ := runs_ask.mp h
      cases hserve with
      | unlisted =>
        obtain ⟨_, hb, _⟩ := runs_done.mp hrest
        cases hb
      | listed hlists =>
        have hstart : Removed t target (fun _ => False) false t :=
          ⟨by simp, .refl t target, fun _ _ hnamed => hnamed.elim⟩
        obtain ⟨hanswer, herased, hgone⟩ := ensures_deleteAll _ hstart rest _ t' hrest b rfl
        refine ⟨⟨hanswer, herased, ?_⟩, fun _ index hnot => absurd (by simp [Addressed]) hnot⟩
        intro index entry _ hentry
        cases hmac : formatMac entry.mac with
        | none => rfl
        | some mac =>
          have hlisted := mem_listedIndices hlists (herased.eq_some hentry) hmac
          rw [hgone index entry (Or.inl hlisted) hentry] at hmac
          cases hmac

/-- The learned entry goes from the interface named. -/
theorem removeNeighbour_erases_learned :
    ∃ target, ipv4StationAddress "192.0.2.7".toList = .ok target ∧
      Removed learnedTable target (Addressed stationHost (some "en0".toList)) true
        (learnedTable.erase "192.0.2.7".toList (some 4)) ∧
      (Platform.LINUX ≠ .MACOS → ∀ index, ¬ Addressed stationHost (some "en0".toList) index →
        learnedTable.erase "192.0.2.7".toList (some 4) target index =
          learnedTable target index) := by
  have htarget : ipv4StationAddress "192.0.2.7".toList = .ok "192.0.2.7".toList := by
    decide +kernel
  have hindex : stationHost.localInterfaces.bind
      (interfaceIndex stationHost.interfaces "en0".toList) = .ok 4 := by decide +kernel
  have hrun : Runs (HonestServes .LINUX stationHost.interfaces) learnedTable
      (removeNeighbour .LINUX stationHost "192.0.2.7".toList (some "en0".toList))
      [⟨.exchange (.delete "192.0.2.7".toList (some 4)), some 0⟩] (.ok true)
      (learnedTable.erase "192.0.2.7".toList (some 4)) := by
    rw [removeNeighbour, htarget]
    dsimp only
    rw [hindex]
    exact .ask (.acknowledged ⟨4, Or.inr rfl, by decide⟩) .done
  exact removeNeighbour_erases hrun

end IPScout
