import IPScout.Base.Dict
import IPScout.Dhcp.Recorded
import IPScout.Dhcp.Replies

/-!
# Iterating over offers

Any number of iterators of `offers()` run over one session.  Each holds an index of
its own into the record of addresses and looks at the record under the condition;
between two looks the reader, `stop()` and the other iterators do as they like.

The record only grows, and what an iterator has yielded is what stands before its
index.  So it yields a prefix of the record, and when it ends, on a record that it
has come to the end of after the finished flag was set, it has yielded all of it
(`offers_spec`).
-/

namespace IPScout

open Base Base.Octets

/-! ### Iterators -/

/-- Where an iterator of `offers()` is. -/
inductive OfferPlace
  /-- Not asked for yet. -/
  | unborn
  /-- Created, or stopped at a `yield`. -/
  | suspended
  /-- Before the next look at the record, or waiting under the condition. -/
  | looking
  /-- Before the `yield` of an address. -/
  | yielding (address : Text)
  /-- Before `_reraise_any_failure`. -/
  | ending
  | ended
  | raised (error : PyError)
  deriving DecidableEq

/-- An iterator: its index, its place, and what it has yielded so far. -/
structure Offering where
  index : ℕ
  place : OfferPlace
  yielded : List Text

/-- Whether an iterator has found the end of the record. -/
def Offering.atEnd (o : Offering) : Prop :=
  o.place = .ending ∨ o.place = .ended ∨ ∃ e, o.place = .raised e

/-- A session and the iterators over it. -/
structure Watched where
  session : Session
  offering : ℕ → Offering

namespace Watched

/-- A session not entered yet, and no iterator. -/
def initial : Watched := ⟨.initial, fun _ => ⟨0, .unborn, []⟩⟩

/-- The state in which an iterator has become another. -/
def setOffering (s : Watched) (i : ℕ) (o : Offering) : Watched :=
  { s with offering := Function.update s.offering i o }

end Watched

/-- One look of an iterator under the condition. -/
def Offering.look (s : Session) (o : Offering) : Offering :=
  match s.found[o.index]? with
  | some address => { o with index := o.index + 1, place := .yielding address }
  | none => if s.finished then { o with index := o.index + 1, place := .ending } else o

inductive OfferAction
  | session (a : SessionAction)
  | offers (i : ℕ)
  /-- The consumer asks for the next address. -/
  | next (i : ℕ)
  | look (i : ℕ)
  | yield (i : ℕ) (address : Text)
  | conclude (i : ℕ)
  | raise (i : ℕ) (error : PyError)

/-- One step of a session or of an iterator over it. -/
inductive OfferStep (w : Watch) : Watched → OfferAction → Watched → Prop
  | session {s : Watched} {a : SessionAction} {t : Session} : SessionStep w s.session a t →
      OfferStep w s (.session a) { s with session := t }
  | offers {s : Watched} {i : ℕ} : (s.offering i).place = .unborn →
      OfferStep w s (.offers i) (s.setOffering i ⟨0, .suspended, []⟩)
  | next {s : Watched} {i : ℕ} : (s.offering i).place = .suspended →
      OfferStep w s (.next i) (s.setOffering i { s.offering i with place := .looking })
  | look {s : Watched} {i : ℕ} : (s.offering i).place = .looking →
      OfferStep w s (.look i) (s.setOffering i ((s.offering i).look s.session))
  | yield {s : Watched} {i : ℕ} {address : Text} : (s.offering i).place = .yielding address →
      OfferStep w s (.yield i address) (s.setOffering i
        { s.offering i with
          place := .suspended
          yielded := (s.offering i).yielded ++ [address] })
  | conclude {s : Watched} {i : ℕ} : (s.offering i).place = .ending →
      s.session.failure = none →
      OfferStep w s (.conclude i) (s.setOffering i { s.offering i with place := .ended })
  | raise {s : Watched} {i : ℕ} {e : PyError} : (s.offering i).place = .ending →
      s.session.failure = some e →
      OfferStep w s (.raise i (captureStopped w e))
        (s.setOffering i { s.offering i with place := .raised (captureStopped w e) })

/-! ### The record -/

variable {w : Watch}

theorem found_prefix_of_step {s t : Session} {a : SessionAction} (h : SessionStep w s a t) :
    s.found <+: t.found ∧ (s.finished = true → t.finished = true) := by
  cases h with
  | tick | enter | refuse | look | time | receive | die | absorbRaises | fail | call | test
  | record | check | raise | answer | stop | join | close => exact ⟨List.prefix_rfl, id⟩
  | finish | stopped => exact ⟨List.prefix_rfl, fun _ => rfl⟩
  | absorb _ habsorb =>
    rw [Session.absorb] at habsorb
    split at habsorb
    · simp at habsorb
    · rw [← Except.ok.inj habsorb]
      exact ⟨List.prefix_rfl, id⟩
    · split at habsorb
      · rw [← Except.ok.inj habsorb]
        exact ⟨List.prefix_rfl, id⟩
      · rw [← Except.ok.inj habsorb, Session.recordAddress]
        split
        · exact ⟨List.prefix_rfl, id⟩
        · exact ⟨List.prefix_append _ _, id⟩

/-- What the frame being absorbed offers to the machine watched for. -/
def offeredBy (w : Watch) (frame : Octets) : List Text :=
  match DhcpReply.fromFrame frame with
  | .ok (some reply) => if reply.clientMac ≠ w.mac.val then [] else [reply.offeredIp]
  | _ => []

def Session.pending (w : Watch) (s : Session) : List Text :=
  match s.reader with
  | .absorbing frame => offeredBy w frame
  | _ => []

/-- What the frames of a run offer, in the order they were received. -/
def offeredIn (w : Watch) (as : List SessionAction) : List Text :=
  as.flatMap fun
    | .receive (some frame) => offeredBy w frame
    | _ => []

/-- The record is what was offered, each address once and in the order first seen, but
for the frame being absorbed. -/
structure Records (w : Watch) (as : List SessionAction) (s : Session) : Prop where
  seen : ∀ x, x ∈ s.seen ↔ x ∈ s.found
  unstarted : s.entered = false → s.reader = .unstarted
  found : ∃ done, offeredIn w as = done ++ s.pending w ∧ s.found = done.eraseDups

theorem absorb_of_fromFrame {s t : Session} {frame : Octets} (h : s.absorb w frame = .ok t) :
    (offeredBy w frame = [] ∧ t = s) ∨
      ∃ address, offeredBy w frame = [address] ∧ t = s.recordAddress address := by
  rw [Session.absorb] at h
  rw [offeredBy]
  split at h
  · simp at h
  · next hnone =>
    rw [hnone]
    exact Or.inl ⟨rfl, (Except.ok.inj h).symm⟩
  · next reply hreply =>
    rw [hreply]
    dsimp only
    split at h
    · next hother =>
      rw [if_pos hother]
      exact Or.inl ⟨rfl, (Except.ok.inj h).symm⟩
    · next hmine =>
      rw [if_neg hmine]
      exact Or.inr ⟨_, rfl, (Except.ok.inj h).symm⟩

theorem absorb_ne_error (s : Session) (frame : Octets) (e : PyError) :
    s.absorb w frame ≠ .error e := by
  obtain ⟨result, hok, _⟩ := fromFrame_cases frame
  intro h
  rw [Session.absorb, hok] at h
  cases result with
  | none => simp at h
  | some reply =>
    dsimp only at h
    split at h
    · simp at h
    · simp at h

theorem offeredIn_concat (as : List SessionAction) (a : SessionAction) :
    offeredIn w (as ++ [a]) = offeredIn w as ++ offeredIn w [a] := by
  rw [offeredIn, List.flatMap_append]
  rfl

/-- A step that leaves the record and what is pending alone keeps what the record
is. -/
theorem Records.of_eq {as : List SessionAction} {s t : Session} {a : SessionAction}
    (h : Records w as s) (ha : offeredIn w [a] = []) (hseen : t.seen = s.seen)
    (hfound : t.found = s.found) (hpending : t.pending w = s.pending w)
    (hunstarted : t.entered = false → t.reader = .unstarted) : Records w (as ++ [a]) t := by
  obtain ⟨done, hdone, hrecord⟩ := h.found
  refine ⟨?_, hunstarted, done, ?_, ?_⟩
  · rw [hseen, hfound]
    exact h.seen
  · rw [offeredIn_concat, ha, List.append_nil, hpending]
    exact hdone
  · rw [hfound]
    exact hrecord

theorem pending_eq_nil {s : Session} (h : ∀ frame, s.reader ≠ .absorbing frame) :
    s.pending w = [] := by
  rw [Session.pending]
  split
  · next frame hframe => exact absurd hframe (h frame)
  · rfl

/-- A started reader has been entered, and keeps the record as it moves on. -/
theorem Records.of_moves {as : List SessionAction} {s t : Session} {a : SessionAction}
    (h : Records w as s) (ha : offeredIn w [a] = []) (hseen : t.seen = s.seen)
    (hfound : t.found = s.found) (hentered : t.entered = s.entered)
    (hstarted : s.reader ≠ .unstarted) (hs : ∀ frame, s.reader ≠ .absorbing frame)
    (ht : ∀ frame, t.reader ≠ .absorbing frame) : Records w (as ++ [a]) t := by
  refine h.of_eq ha hseen hfound ?_ ?_
  · rw [pending_eq_nil hs, pending_eq_nil ht]
  · intro hnot
    rw [hentered] at hnot
    exact absurd (h.unstarted hnot) hstarted

/-- `_found` and `_seen` go together as an address is recorded. -/
theorem record_of_recordAddress {s : Session} {done : List Text}
    (hseen : ∀ x, x ∈ s.seen ↔ x ∈ s.found) (hfound : s.found = done.eraseDups)
    (address : Text) :
    (∀ x, x ∈ (s.recordAddress address).seen ↔ x ∈ (s.recordAddress address).found) ∧
      (s.recordAddress address).found = (done ++ [address]).eraseDups := by
  have hmem : address ∈ s.seen ↔ address ∈ done := by
    rw [hseen, hfound]
    exact List.mem_eraseDups
  rw [eraseDups_concat, Session.recordAddress]
  by_cases h : address ∈ s.seen
  · rw [if_pos h, if_pos (hmem.mp h)]
    exact ⟨hseen, hfound⟩
  · rw [if_neg h, if_neg (hmem.not.mp h), ← hfound]
    refine ⟨?_, rfl⟩
    intro x
    simp [hseen, or_comm]

theorem recordAddress_entered (s : Session) (address : Text) :
    (s.recordAddress address).entered = s.entered := by
  obtain ⟨found, seen, lastSeen, h⟩ := recordAddress_eq s address
  rw [h]

theorem Records.absorbed {as : List SessionAction} {s u : Session} {frame : Octets}
    (h : Records w as s) (habsorbing : s.reader = .absorbing frame)
    (habsorb : s.absorb w frame = .ok u) :
    Records w (as ++ [.absorb]) { u with reader := .looping } := by
  obtain ⟨done, hdone, hfound⟩ := h.found
  have hpending : s.pending w = offeredBy w frame := by
    rw [Session.pending, habsorbing]
  rw [hpending] at hdone
  have hall : offeredIn w (as ++ [.absorb]) = done ++ offeredBy w frame := by
    rw [offeredIn_concat, hdone]
    exact List.append_nil _
  have hstarted : s.entered = false → False := by
    intro hnot
    have hunstarted := h.unstarted hnot
    rw [habsorbing] at hunstarted
    simp at hunstarted
  have hlooping : ∀ v : Session, { v with reader := .looping }.pending w = [] :=
    fun v => pending_eq_nil (by simp)
  rcases absorb_of_fromFrame habsorb with ⟨hnone, hu⟩ | ⟨address, hone, hu⟩
  · refine ⟨?_, ?_, done, ?_, ?_⟩
    · rw [hu]
      exact h.seen
    · rw [hu]
      exact fun hnot => (hstarted hnot).elim
    · rw [hall, hnone, hlooping]
    · rw [hu]
      exact hfound
  · obtain ⟨hseen, hrecord⟩ := record_of_recordAddress h.seen hfound address
    refine ⟨?_, ?_, done ++ [address], ?_, ?_⟩
    · rw [hu]
      exact hseen
    · rw [hu, recordAddress_entered s address]
      exact fun hnot => (hstarted hnot).elim
    · rw [hall, hone, hlooping, List.append_nil]
    · rw [hu]
      exact hrecord

/-- **What the record is, step by step.** -/
theorem Records.step {as : List SessionAction} {s t : Session} {a : SessionAction}
    (h : Records w as s) (hstep : SessionStep w s a t) : Records w (as ++ [a]) t := by
  cases hstep with
  | tick | call | test | record | check | raise | answer | stop | join | close | stopped =>
    exact h.of_eq rfl rfl rfl rfl h.unstarted
  | enter hentered =>
    refine h.of_eq rfl rfl rfl ?_ (by simp)
    rw [Session.pending, Session.pending, h.unstarted hentered]
  | refuse hentered => exact h.of_eq rfl rfl rfl rfl fun _ => h.unstarted hentered
  | look hlooping =>
    exact h.of_moves rfl rfl rfl rfl (by simp [hlooping]) (by simp [hlooping])
      fun _ => by dsimp only; split <;> simp
  | time htiming =>
    exact h.of_moves rfl rfl rfl rfl (by simp [htiming]) (by simp [htiming])
      fun _ => by dsimp only; split <;> simp
  | die hreceiving =>
    exact h.of_moves rfl rfl rfl rfl (by simp [hreceiving]) (by simp [hreceiving]) (by simp)
  | fail hfailing =>
    exact h.of_moves rfl rfl rfl rfl (by simp [hfailing]) (by simp [hfailing]) (by simp)
  | finish hfinishing =>
    exact h.of_moves rfl rfl rfl rfl (by simp [hfinishing]) (by simp [hfinishing]) (by simp)
  | @receive frame hreceiving =>
    cases frame with
    | none =>
      exact h.of_moves rfl rfl rfl rfl (by simp [hreceiving]) (by simp [hreceiving]) (by simp)
    | some frame =>
      obtain ⟨done, hdone, hfound⟩ := h.found
      rw [pending_eq_nil (by simp [hreceiving]), List.append_nil] at hdone
      refine ⟨h.seen, ?_, done, ?_, hfound⟩
      · intro hentered
        have := h.unstarted hentered
        rw [hreceiving] at this
        simp at this
      · rw [offeredIn_concat, hdone]
        congr 1
        exact List.append_nil _
  | absorbRaises _ hraises => exact absurd hraises (absorb_ne_error s _ _)
  | absorb habsorbing habsorb => exact h.absorbed habsorbing habsorb

/-- **The record of every run**: what the frames received so far offer, each address
once and in the order first seen, but for the frame being absorbed. -/
theorem records_of_run {as : List SessionAction} {s : Session}
    (h : Steps (SessionStep w) .initial as s) : Records w as s := by
  refine h.trace (I := Records w) ⟨by simp [Session.initial], fun _ => rfl, [], rfl, rfl⟩ ?_
  intro as t a u hrecords hstep
  exact hrecords.step hstep

/-! ### The iterators -/

/-- What an iterator has read of the record, with the address it is about to yield. -/
def Offering.taken (o : Offering) : List Text :=
  match o.place with
  | .yielding address => o.yielded ++ [address]
  | _ => o.yielded

/-- An iterator has read what stands before its index, and ends only on a finished
session. -/
structure Offering.Follows (s : Session) (o : Offering) : Prop where
  taken : o.taken <+: s.found
  index : ¬ o.atEnd → o.index = o.taken.length
  finished : o.atEnd → s.finished = true

namespace Offering.Follows

theorem yielded {s : Session} {o : Offering} (h : o.Follows s) : o.yielded <+: s.found := by
  have htaken := h.taken
  rw [Offering.taken] at htaken
  split at htaken
  · exact (List.prefix_append _ _).trans htaken
  · exact htaken

theorem session {s t : Session} {o : Offering} (h : o.Follows s) (hfound : s.found <+: t.found)
    (hfinished : s.finished = true → t.finished = true) : o.Follows t where
  taken := h.taken.trans hfound
  index := h.index
  finished hend := hfinished (h.finished hend)

theorem next {s : Session} {o : Offering} (h : o.Follows s) (hplace : o.place = .suspended) :
    { o with place := .looking }.Follows s := by
  have hnot : ¬ o.atEnd := by simp [Offering.atEnd, hplace]
  have hindex := h.index hnot
  have htaken := h.taken
  rw [Offering.taken, hplace] at hindex htaken
  exact ⟨htaken, fun _ => hindex, fun hend => by simp [Offering.atEnd] at hend⟩

/-- **A look reads the next address of the record, or finds the end of it.** -/
theorem look {s : Session} {o : Offering} (h : o.Follows s) (hplace : o.place = .looking) :
    (o.look s).Follows s := by
  have hnot : ¬ o.atEnd := by simp [Offering.atEnd, hplace]
  have hindex := h.index hnot
  have htaken := h.taken
  rw [Offering.taken, hplace] at hindex htaken
  dsimp only at hindex htaken
  rw [Offering.look]
  cases hget : s.found[o.index]? with
  | some address =>
    refine ⟨?_, fun _ => ?_, fun hend => by simp [Offering.atEnd] at hend⟩
    · show o.yielded ++ [address] <+: s.found
      obtain ⟨rest, hrest⟩ := htaken
      rw [← hrest, hindex, List.getElem?_append_right le_rfl, Nat.sub_self] at hget
      cases rest with
      | nil => simp at hget
      | cons first rest =>
        rw [List.getElem?_cons_zero, Option.some_inj] at hget
        subst hget
        exact ⟨rest, by rw [← hrest, List.append_assoc, List.singleton_append]⟩
    · show o.index + 1 = (o.yielded ++ [address]).length
      rw [List.length_append, ← hindex]
      rfl
  | none =>
    by_cases hfinished : s.finished = true
    · rw [if_pos hfinished]
      exact ⟨htaken, fun hnot => absurd (Or.inl rfl) hnot, fun _ => hfinished⟩
    · rw [if_neg hfinished]
      exact h

/-- **What an iterator has yielded when it comes to the end is the whole record.** -/
theorem eq_found_of_look {s : Session} {o : Offering} (h : o.Follows s)
    (hplace : o.place = .looking) (hend : (o.look s).atEnd) : (o.look s).yielded = s.found := by
  have hnot : ¬ o.atEnd := by simp [Offering.atEnd, hplace]
  have hindex := h.index hnot
  rw [Offering.taken, hplace] at hindex
  dsimp only at hindex
  rw [Offering.look] at hend ⊢
  cases hget : s.found[o.index]? with
  | some address =>
    rw [hget] at hend
    simp [Offering.atEnd] at hend
  | none =>
    rw [hget] at hend
    dsimp only at hend ⊢
    have hall : s.found.length ≤ o.yielded.length := by
      rw [← hindex]
      exact List.getElem?_eq_none_iff.mp hget
    have hyielded : o.yielded = s.found := h.yielded.eq_of_length_le hall
    by_cases hfinished : s.finished = true
    · rw [if_pos hfinished]
      exact hyielded
    · rw [if_neg hfinished] at hend
      exact absurd hend hnot

theorem yield {s : Session} {o : Offering} {address : Text} (h : o.Follows s)
    (hplace : o.place = .yielding address) :
    { o with place := .suspended, yielded := o.yielded ++ [address] }.Follows s := by
  have hnot : ¬ o.atEnd := by simp [Offering.atEnd, hplace]
  have hindex := h.index hnot
  have htaken := h.taken
  rw [Offering.taken, hplace] at hindex htaken
  exact ⟨htaken, fun _ => hindex, fun hend => by simp [Offering.atEnd] at hend⟩

/-- An iterator that has found the end of the record reads no more of it. -/
theorem conclude {s : Session} {o : Offering} (h : o.Follows s) (hplace : o.place = .ending)
    {place : OfferPlace} (hend : { o with place := place }.atEnd) :
    { o with place := place }.Follows s := by
  have htaken : { o with place := place }.taken = o.yielded := by
    rcases hend with hend | hend | ⟨e, hend⟩
    all_goals
      dsimp only at hend
      subst hend
      rfl
  refine ⟨?_, fun hnot => absurd hend hnot, fun _ => h.finished (Or.inl hplace)⟩
  rw [htaken]
  exact h.yielded

end Offering.Follows

/-! ### Runs -/

theorem offering_setOffering_self (s : Watched) (i : ℕ) (o : Offering) :
    (s.setOffering i o).offering i = o := by
  rw [Watched.setOffering]
  exact Function.update_self i o s.offering

theorem offering_setOffering_of_ne (s : Watched) {i j : ℕ} (o : Offering) (h : j ≠ i) :
    (s.setOffering i o).offering j = s.offering j := by
  rw [Watched.setOffering]
  exact Function.update_of_ne h o s.offering

def Watched.Following (s : Watched) : Prop := ∀ i, (s.offering i).Follows s.session

theorem Watched.Following.setOffering {s : Watched} (h : s.Following) {i : ℕ} {o : Offering}
    (ho : o.Follows s.session) : (s.setOffering i o).Following := by
  intro j
  by_cases hji : j = i
  · subst hji
    rw [offering_setOffering_self]
    exact ho
  · rw [offering_setOffering_of_ne s o hji]
    exact h j

/-- **Whatever takes a step, every iterator follows the record.** -/
theorem Watched.Following.step {s t : Watched} {a : OfferAction} (h : s.Following)
    (hstep : OfferStep w s a t) : t.Following := by
  cases hstep with
  | session hsession =>
    obtain ⟨hfound, hfinished⟩ := found_prefix_of_step hsession
    exact fun i => (h i).session hfound hfinished
  | offers =>
    apply h.setOffering
    exact ⟨List.nil_prefix, fun _ => rfl, fun hend => by simp [Offering.atEnd] at hend⟩
  | next hplace => exact h.setOffering ((h _).next hplace)
  | look hplace => exact h.setOffering ((h _).look hplace)
  | yield hplace => exact h.setOffering ((h _).yield hplace)
  | conclude hplace _ => exact h.setOffering ((h _).conclude hplace (Or.inr (Or.inl rfl)))
  | raise hplace _ => exact h.setOffering ((h _).conclude hplace (Or.inr (Or.inr ⟨_, rfl⟩)))

theorem following_of_run {as : List OfferAction} {s : Watched}
    (h : Steps (OfferStep w) .initial as s) : s.Following := by
  refine h.invariant ?_ fun hs hstep => hs.step hstep
  intro i
  refine ⟨List.prefix_rfl, fun _ => rfl, ?_⟩
  intro hend
  simp [Watched.initial, Offering.atEnd] at hend

/-- What was recorded so far has been yielded by every iterator that has ended. -/
def Watched.Exhausted (record : List Text) (s : Watched) : Prop :=
  record <+: s.session.found ∧ ∀ i, (s.offering i).atEnd → record <+: (s.offering i).yielded

theorem Watched.Exhausted.setOffering {record : List Text} {s : Watched} (h : s.Exhausted record)
    {i : ℕ} {o : Offering} (ho : o.atEnd → record <+: o.yielded) :
    (s.setOffering i o).Exhausted record := by
  refine ⟨h.1, ?_⟩
  intro j
  by_cases hji : j = i
  · subst hji
    rw [offering_setOffering_self]
    exact ho
  · rw [offering_setOffering_of_ne s o hji]
    exact h.2 j

theorem Watched.Exhausted.step {record : List Text} {s t : Watched} {a : OfferAction}
    (h : s.Exhausted record) (hs : s.Following) (hstep : OfferStep w s a t) :
    t.Exhausted record := by
  cases hstep with
  | session hsession => exact ⟨h.1.trans (found_prefix_of_step hsession).1, h.2⟩
  | offers | next | yield =>
    apply h.setOffering
    intro hend
    simp [Offering.atEnd] at hend
  | look hplace =>
    apply h.setOffering
    intro hend
    rw [(hs _).eq_found_of_look hplace hend]
    exact h.1
  | conclude hplace _ | raise hplace _ =>
    apply h.setOffering
    exact fun _ => h.2 _ (Or.inl hplace)

/-- The steps of the session among those of a run. -/
def sessionActions (as : List OfferAction) : List SessionAction :=
  as.filterMap fun
    | .session a => some a
    | _ => none

/-- A run with iterators is a run of the session alone: they consume nothing. -/
theorem session_of_run {as : List OfferAction} {s : Watched}
    (h : Steps (OfferStep w) .initial as s) :
    Steps (SessionStep w) .initial (sessionActions as) s.session := by
  refine h.trace (I := fun as s => Steps (SessionStep w) .initial (sessionActions as) s.session)
    (.nil _) ?_
  intro as s a t hrun hstep
  rw [sessionActions, List.filterMap_append]
  cases hstep with
  | session hsession => exact .snoc hrun hsession
  | offers | next | look | yield | conclude | raise =>
    rw [show List.filterMap _ [_] = [] from rfl, List.append_nil]
    exact hrun

/-- **Every iterator of `offers` yields a prefix of the record, and all of it before it
ends.**  The record is what the frames received so far offer, each address once and in
the order first seen, but for the frame being absorbed; an iterator ends on a finished
session only, and by then has yielded what was recorded while it was unfinished. -/
theorem offers_spec (w : Watch) {as : List OfferAction} {t : Watched}
    (h : Steps (OfferStep w) .initial as t) :
    (∃ done, offeredIn w (sessionActions as) = done ++ t.session.pending w ∧
        t.session.found = done.eraseDups) ∧
      t.session.found.Nodup ∧
      (∀ i, (t.offering i).yielded <+: t.session.found) ∧
      (∀ i, (t.offering i).atEnd → t.session.finished = true) ∧
      ∀ before rest s, as = before ++ rest → Steps (OfferStep w) .initial before s →
        Steps (OfferStep w) s rest t → s.session.finished = false →
        ∀ i, (t.offering i).atEnd → s.session.found <+: (t.offering i).yielded := by
  have hfollowing := following_of_run h
  obtain ⟨done, hdone, hfound⟩ := (records_of_run (session_of_run h)).found
  refine ⟨⟨done, hdone, hfound⟩, ?_, fun i => (hfollowing i).yielded,
    fun i => (hfollowing i).finished, ?_⟩
  · rw [hfound]
    exact nodup_eraseDups done
  · intro before rest s _ hbefore hrest hunfinished
    have hstart : s.Following ∧ s.Exhausted s.session.found := by
      refine ⟨following_of_run hbefore, List.prefix_rfl, ?_⟩
      intro i hend
      have hfinished := (following_of_run hbefore i).finished hend
      rw [hunfinished] at hfinished
      simp at hfinished
    have hall := hrest.invariant (I := fun u => u.Following ∧ u.Exhausted s.session.found)
      hstart fun hu hstep => ⟨hu.1.step hstep, hu.2.step hu.1 hstep⟩
    exact hall.2.2

/-- A second iterator replays what a first has yielded; it is still at it when the
session is stopped, and the first has ended. -/
theorem offers_spec_of_a_replay :
    let address := "192.0.2.50".toList
    ∃ t, Steps (OfferStep defaultWatch) .initial
      [.session .enter, .session .look, .session .time, .offers 0, .next 0, .look 0,
        .session (.receive (some (offer 0))), .session .absorb, .look 0, .yield 0 address, .next 0,
        .session (.stop 0), .session (.join 0), .session (.close 0), .session (.stopped 0),
        .offers 1, .next 1, .look 1, .yield 1 address, .look 0, .conclude 0] t ∧
      t.session.found.Nodup ∧ (t.offering 0).yielded <+: t.session.found ∧
        (t.offering 1).yielded = [address] ∧ (t.offering 0).place = .ended ∧
        t.session.finished = true := by
  intro address
  obtain ⟨t, hrun, hreplayed, hended⟩ : ∃ t, Steps (OfferStep defaultWatch) .initial
      [.session .enter, .session .look, .session .time, .offers 0, .next 0, .look 0,
        .session (.receive (some (offer 0))), .session .absorb, .look 0, .yield 0 address, .next 0,
        .session (.stop 0), .session (.join 0), .session (.close 0), .session (.stopped 0),
        .offers 1, .next 1, .look 1, .yield 1 address, .look 0, .conclude 0] t ∧
      (t.offering 1).yielded = [address] ∧ (t.offering 0).place = .ended :=
    ⟨_, .cons (.session (.enter rfl)) <| .cons (.session (.look rfl)) <|
      .cons (.session (.time rfl)) <| .cons (.offers rfl) <| .cons (.next rfl) <|
      .cons (.look rfl) <| .cons (.session (.receive (by decide +kernel))) <|
      .cons (.session (.absorb rfl (absorb_offer _))) <|
      .cons (.look (by decide +kernel)) <| .cons (.yield (by decide +kernel)) <|
      .cons (.next (by decide +kernel)) <| .cons (.session (.stop (by decide +kernel))) <|
      .cons (.session (.join (by decide +kernel))) <|
      .cons (.session (.close (by decide +kernel))) <|
      .cons (.session (.stopped (by decide +kernel))) <|
      .cons (.offers (by decide +kernel)) <| .cons (.next (by decide +kernel)) <|
      .cons (.look (by decide +kernel)) <| .cons (.yield (by decide +kernel)) <|
      .cons (.look (by decide +kernel)) <|
      .single (.conclude (by decide +kernel) (by decide +kernel)),
      by decide +kernel, by decide +kernel⟩
  obtain ⟨_, hnodup, hprefix, hfinished, _⟩ := offers_spec defaultWatch hrun
  exact ⟨t, hrun, hnodup, hprefix 0, hreplayed, hended, hfinished 0 (Or.inr (Or.inl hended))⟩

end IPScout
