import IPScout.Dhcp.Offers

/-!
# The record and the list of a capture

The addresses offered to one machine are gathered twice.  `offers_from_frames` of
`bootp.py` folds `merge_offers` over the frames of a capture; `_absorb` of a session
takes them one at a time and keeps a list, the set of it and the moment of the last
address.

Absorbing a frame is one step of the fold (`absorb_agrees`), so the two agree on every
sequence of frames (`record_eq_offersFromFrames`).
-/

namespace IPScout

open Base Base.Octets

/-! ### The batch form -/

/-- The loop of `merge_offers`, with the set of what is merged already. -/
def mergeFrom : List Text → Finset Text → List Text → List Text
  | merged, _, [] => merged
  | merged, seen, address :: rest =>
    if address ∈ seen then mergeFrom merged seen rest
    else mergeFrom (merged ++ [address]) (insert address seen) rest

def mergeOffers (existing new : List Text) : List Text := mergeFrom existing existing.toFinset new

/-- Whether a reply is of a type that is asked for; one with no type is of none. -/
def isOfType (messageTypes : Option (Finset DhcpMessageType)) (reply : DhcpReply) : Bool :=
  match messageTypes, reply.messageType with
  | none, _ => true
  | some _, none => false
  | some types, some type => type ∈ types

/-- One pass of the loop of `offers_from_frames`. -/
def offerOf (wanted : Text) (messageTypes : Option (Finset DhcpMessageType))
    (found : List Text) (frame : Octets) : Except PyError (List Text) :=
  match DhcpReply.fromFrame frame with
  | .error e => .error e
  | .ok none => .ok found
  | .ok (some reply) =>
    if reply.clientMac ≠ wanted then .ok found
    else if isOfType messageTypes reply = false then .ok found
    else .ok (mergeOffers found [reply.offeredIp])

/-- The loop of `offers_from_frames`. -/
def offersFrom (wanted : Text) (messageTypes : Option (Finset DhcpMessageType)) :
    List Text → List Octets → Except PyError (List Text)
  | found, [] => .ok found
  | found, frame :: frames =>
    match offerOf wanted messageTypes found frame with
    | .error e => .error e
    | .ok found => offersFrom wanted messageTypes found frames

def offersFromFrames (frames : List Octets) (mac : Text)
    (messageTypes : Option (Finset DhcpMessageType)) : Except PyError (List Text) :=
  match requireMac mac with
  | .error e => .error e
  | .ok wanted => offersFrom wanted messageTypes [] frames

/-! ### The incremental form -/

/-- A session whose frames are absorbed one after another, each at a moment of its own. -/
def Session.feed (w : Watch) : Session → List (ℚ × Octets) → Except PyError Session
  | s, [] => .ok s
  | s, (moment, frame) :: rest =>
    match { s with now := moment }.absorb w frame with
    | .error e => .error e
    | .ok t => t.feed w rest

theorem feed_append {w : Watch} {s t : Session} {before : List (ℚ × Octets)}
    (h : s.feed w before = .ok t) (after : List (ℚ × Octets)) :
    s.feed w (before ++ after) = t.feed w after := by
  induction before generalizing s with
  | nil =>
    obtain rfl := Except.ok.inj h
    rfl
  | cons frame before ih =>
    obtain ⟨moment, frame⟩ := frame
    rw [List.cons_append]
    simp only [Session.feed] at h ⊢
    cases hstep : { s with now := moment }.absorb w frame with
    | error e =>
      rw [hstep] at h
      simp at h
    | ok u =>
      rw [hstep] at h
      exact ih h

/-! ### The two agree -/

theorem mergeOffers_singleton (found : List Text) (address : Text) :
    mergeOffers found [address] = if address ∈ found then found else found ++ [address] := by
  simp only [mergeOffers, mergeFrom, List.mem_toFinset]

/-- **Absorbing a frame is one step of the fold**: the set stays that of the list, and the
clock is read exactly when the list grows. -/
theorem absorb_agrees {w : Watch} {s : Session} (hseen : s.seen = s.found.toFinset)
    (frame : Octets) : ∃ t, s.absorb w frame = .ok t ∧
      offerOf w.mac.val none s.found frame = .ok t.found ∧ t.seen = t.found.toFinset ∧
      t.lastSeen = if t.found = s.found then s.lastSeen else some s.now := by
  obtain ⟨result, hok, _⟩ := fromFrame_cases frame
  rw [Session.absorb, offerOf, hok]
  cases result with
  | none => exact ⟨s, rfl, rfl, hseen, (if_pos rfl).symm⟩
  | some reply =>
    dsimp only
    by_cases hother : reply.clientMac ≠ w.mac.val
    · rw [if_pos hother, if_pos hother]
      exact ⟨s, rfl, rfl, hseen, (if_pos rfl).symm⟩
    · rw [if_neg hother, if_neg hother, if_neg (by simp [isOfType]), mergeOffers_singleton,
        Session.recordAddress, hseen]
      simp only [List.mem_toFinset]
      by_cases hmem : reply.offeredIp ∈ s.found
      · rw [if_pos hmem, if_pos hmem]
        exact ⟨s, rfl, rfl, hseen, (if_pos rfl).symm⟩
      · rw [if_neg hmem, if_neg hmem]
        refine ⟨_, rfl, rfl, ?_, ?_⟩
        · ext x
          simp only [Finset.mem_insert, List.mem_toFinset, List.mem_append, List.mem_singleton]
          exact or_comm
        · rw [if_neg]
          intro hsame
          simpa using congrArg List.length hsame

/-- **A session that is fed computes the fold.** -/
theorem feed_agrees {w : Watch} (frames : List (ℚ × Octets)) {s : Session}
    (hseen : s.seen = s.found.toFinset) : ∃ t, s.feed w frames = .ok t ∧
      offersFrom w.mac.val none s.found (frames.map Prod.snd) = .ok t.found ∧
      t.seen = t.found.toFinset := by
  induction frames generalizing s with
  | nil => exact ⟨s, rfl, rfl, hseen⟩
  | cons frame rest ih =>
    obtain ⟨moment, frame⟩ := frame
    obtain ⟨t, habsorb, hfold, htseen, _⟩ :=
      absorb_agrees (w := w) (s := { s with now := moment }) hseen frame
    obtain ⟨u, hfeed, hrest, huseen⟩ := ih htseen
    refine ⟨u, ?_, ?_, huseen⟩
    · simp only [Session.feed, habsorb, hfeed]
    · simp only [List.map_cons, offersFrom, hfold, hrest]

theorem isMac_of_requireMac {mac wanted : Text} (h : requireMac mac = .ok wanted) :
    isMac wanted = true := by
  rw [requireMac] at h
  split at h
  · next canonical hcanonical =>
    obtain ⟨raw, ⟨hlength, _⟩, rfl⟩ := normaliseMac_eq_some_iff.mp hcanonical
    rw [← Except.ok.inj h]
    exact isMac_intercalate hlength
  · simp at h

/-- **The record of a session is the list of its frames**: for every address that is read a
session watches for, and whatever is captured, absorbing the frames leaves the list that
`offers_from_frames` computes and the set of it, and at every frame the moment of the last
address moves exactly when the list grows. -/
theorem record_eq_offersFromFrames {mac wanted : Text} (hmac : requireMac mac = .ok wanted) :
    isMac wanted = true ∧ ∀ w : Watch, w.mac.val = wanted → ∀ frames : List (ℚ × Octets),
      ∃ s, Session.initial.feed w frames = .ok s ∧
        offersFromFrames (frames.map Prod.snd) mac none = .ok s.found ∧
        s.seen = s.found.toFinset ∧
        ∀ before moment frame after, frames = before ++ (moment, frame) :: after →
          ∃ r t, Session.initial.feed w before = .ok r ∧
            Session.initial.feed w (before ++ [(moment, frame)]) = .ok t ∧
            t.lastSeen = if t.found = r.found then r.lastSeen else some moment := by
  refine ⟨isMac_of_requireMac hmac, ?_⟩
  rintro w rfl frames
  have hfresh : Session.initial.seen = Session.initial.found.toFinset := rfl
  obtain ⟨s, hfeed, hfold, hseen⟩ := feed_agrees (w := w) frames hfresh
  refine ⟨s, hfeed, ?_, hseen, ?_⟩
  · rw [offersFromFrames, hmac]
    exact hfold
  · intro before moment frame after _
    obtain ⟨r, hbefore, _, hrseen⟩ := feed_agrees (w := w) before hfresh
    obtain ⟨t, habsorb, _, _, hlast⟩ :=
      absorb_agrees (w := w) (s := { r with now := moment }) hrseen frame
    refine ⟨r, t, hbefore, ?_, hlast⟩
    rw [feed_append hbefore]
    simp only [Session.feed, habsorb]

/-- An address in capitals, and the same offer twice. -/
theorem record_eq_offersFromFrames_of_a_retransmission :
    ∃ s, Session.initial.feed defaultWatch [(1, offer 0), (3, offer 0)] = .ok s ∧
      offersFromFrames [offer 0, offer 0] "02-00-5E-10-00-00".toList none = .ok s.found := by
  obtain ⟨s, hfeed, hfold, _⟩ := (record_eq_offersFromFrames
    (show requireMac "02-00-5E-10-00-00".toList = .ok "02:00:5e:10:00:00".toList by
      decide +kernel)).2 defaultWatch rfl [(1, offer 0), (3, offer 0)]
  exact ⟨s, hfeed, hfold⟩

end IPScout
