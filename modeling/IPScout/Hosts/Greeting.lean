import IPScout.Hosts.Stream

/-!
# What a greeting says

A `Banner` of an open connection is GREETED or SILENT.  `_converse` decides it from
what `_read_line` leaves, and that is what was handed over before the first newline: a
peer whose first octet is a newline has sent something and leaves nothing.

So the state tells what arrived exactly when the first octet, if there is one, is no
newline and is handed over in time (`tells_iff`).
-/

namespace IPScout

open Base Base.Octets

/-- An open connection with a stream, read for a line of at most `cap` octets. -/
def Stream.connection (stream : Stream) (cap : ℕ) (drain waitClosed : Option OSErr) : Connection :=
  ⟨stream.reads cap, drain, waitClosed⟩

/-- The state tells whether anything arrived, and so does the farewell. -/
structure TellsWhatArrived (settings : BannerSettings) (stream : Stream) (b : Banner) : Prop where
  greeted : b.state = .GREETED ↔ stream.arrived ≠ []
  not_silent : stream.arrived ≠ [] → b.state ≠ .SILENT
  farewell :
    farewellTo settings (readLine settings.maxLineBytes [] (stream.reads settings.maxLineBytes)) =
      if stream.arrived = [] then none else settings.farewell

/-! ### What is read -/

theorem prefix_readLine (cap : ℕ) (received : Octets) (events : List ReadEvent) :
    received <+: readLine cap received events := by
  induction events generalizing received with
  | nil => exact List.prefix_rfl
  | cons event rest ih =>
    unfold readLine
    split
    · exact List.prefix_rfl
    · cases event with
      | failed e => exact List.prefix_rfl
      | chunk b =>
        dsimp only
        split
        · exact List.prefix_rfl
        · split
          · exact List.prefix_append _ _
          · exact (List.prefix_append received b).trans (ih _)

/-- **Nothing is left of a line exactly when nothing arrived or a newline came first.** -/
theorem readLine_eq_nil_iff {cap : ℕ} (hcap : 1 ≤ cap) (events : List ReadEvent) :
    readLine cap [] events = [] ↔
      arrived events = [] ∨ (arrived events).head? = some 0x0a := by
  cases events with
  | nil => simp [readLine, arrived]
  | cons event rest =>
    unfold readLine
    rw [if_neg (by rw [List.length_nil]; omega)]
    cases event with
    | failed e => simp [arrived]
    | chunk b =>
      dsimp only
      cases b with
      | nil => simp [arrived]
      | cons first b =>
        have hfirst : arrived (.chunk (first :: b) :: rest) = first :: (b ++ arrived rest) := by
          rw [arrived, if_neg (List.cons_ne_nil _ _), List.cons_append]
        rw [if_neg (List.cons_ne_nil _ _), hfirst, List.head?_cons, List.nil_append]
        by_cases hnewline : first = 0x0a
        · rw [if_pos (by rw [hnewline]; exact List.mem_cons_self), hnewline]
          simp
        · have hleft : readLine cap (first :: b) rest ≠ [] := by
            obtain ⟨more, hmore⟩ := prefix_readLine cap (first :: b) rest
            rw [← hmore]
            simp
          split
          · simp [hnewline]
          · simp [hnewline, hleft]

/-! ### The state -/

theorem Banner.state_of_make {host : Text} {port : Port} {state : BannerState} {line : Option Text}
    {error : Option Message} {b : Banner} (h : Banner.make host port state line error = .ok b) :
    b.state = state := by
  rw [Banner.make] at h
  split at h
  · split at h
    · split at h
      · rw [← Except.ok.inj h]
      · simp at h
    · simp at h
  · simp at h

theorem converse_state {host : Text} {connection : Connection} {settings : BannerSettings}
    {b : Banner} (h : converse host connection settings = .ok b) :
    b.state = if readLine settings.maxLineBytes [] connection.reads = [] then .SILENT
      else .GREETED := by
  have hgoodbye : sayGoodbye connection = .ok () := suppressOSError_eq _
  have hclose : close connection = .ok () := suppressOSError_eq _
  rw [converse] at h
  simp only [hgoodbye, hclose, bind, Except.bind, ite_self] at h
  split at h
  · next hraw => rw [if_pos hraw, Banner.state_of_make h]
  · next hraw => rw [if_neg hraw, Banner.state_of_make h]

/-- **Nothing is left of a line exactly when nothing arrived, a newline came first, or what
arrived was not handed over in time.** -/
theorem readLine_reads_eq_nil_iff {cap : ℕ} (hcap : 1 ≤ cap) (stream : Stream) :
    readLine cap [] (stream.reads cap) = [] ↔ stream.arrived = [] ∨
      stream.arrived.head? = some 0x0a ∨ ¬ stream.InTime := by
  rw [readLine_eq_nil_iff hcap]
  by_cases hintime : stream.InTime
  · rw [← List.head?_eq_none_iff, hintime.head?_arrived_reads hcap, List.head?_eq_none_iff]
    simp [hintime]
  · simp [Stream.arrived_reads_of_late hintime hcap, hintime]

/-- **The state of a banner tells what arrived exactly when the first octet that arrived, if
one did, is no newline and is handed over in time.** -/
theorem tells_iff (host : Text) (stream : Stream) (drain waitClosed : Option OSErr)
    (settings : BannerSettings) :
    ∃ b, converse host (stream.connection settings.maxLineBytes drain waitClosed) settings = .ok b ∧
      (∀ env world, world.reach env host settings.port settings.family =
          .ok (stream.connection settings.maxLineBytes drain waitClosed) →
        grabOne env settings host world = .ok b) ∧
      (TellsWhatArrived settings stream b ↔
        stream.arrived.head? ≠ some 0x0a ∧ stream.InTime) := by
  obtain ⟨b, hb⟩ := converse_ok host (stream.connection settings.maxLineBytes drain waitClosed)
    settings
  refine ⟨b, hb, fun env world hreach => by rw [grabOne, hreach]; exact hb, ?_⟩
  have hstate := converse_state hb
  rw [Stream.connection] at hstate
  have hleft := readLine_reads_eq_nil_iff settings.line_bytes stream
  by_cases hsilent : stream.arrived = []
  · have hintime : stream.InTime := by
      by_contra hlate
      exact (Stream.arrived_reads_of_late hlate settings.line_bytes).2 hsilent
    have hnil := hleft.mpr (.inl hsilent)
    rw [if_pos hnil] at hstate
    refine iff_of_true ⟨?_, ?_, ?_⟩ ⟨by simp [hsilent], hintime⟩
    · simp [hstate, hsilent]
    · simp [hsilent]
    · simp [farewellTo, hnil, hsilent]
  · by_cases hnil : readLine settings.maxLineBytes [] (stream.reads settings.maxLineBytes) = []
    · rw [if_pos hnil] at hstate
      refine iff_of_false (fun h => h.not_silent hsilent hstate) ?_
      rintro ⟨hfirst, hintime⟩
      rcases hleft.mp hnil with harrived | hnewline | hlate
      · exact hsilent harrived
      · exact hfirst hnewline
      · exact hlate hintime
    · rw [if_neg hnil] at hstate
      have hcame := mt hleft.mpr hnil
      rw [not_or, not_or, not_not] at hcame
      refine iff_of_true ⟨?_, ?_, ?_⟩ hcame.2
      · simp [hstate, hsilent]
      · simp [hstate]
      · simp [farewellTo, hnil, hsilent]

/-- A peer that sends an empty line before its greeting is SILENT, and gets no farewell. -/
theorem silent_after_an_empty_line :
    let settings : BannerSettings :=
      ⟨⟨25, by decide⟩, 3, 512, some "QUIT\r\n".toUTF8.data.toList, 64, none, by decide +kernel,
        by decide, by decide, by decide⟩
    let stream : Stream :=
      ⟨[.turn, .data "\n220 ready\r\n".toUTF8.data.toList, .turn, .eof, .turn], by
        simp [StreamEvent.Before]⟩
    ¬ ∀ b, converse "192.0.2.9".toList (stream.connection settings.maxLineBytes none none)
        settings = .ok b →
      TellsWhatArrived settings stream b := by
  intro settings stream hall
  obtain ⟨b, hb⟩ := converse_ok "192.0.2.9".toList
    (stream.connection settings.maxLineBytes none none) settings
  refine (hall b hb).not_silent (by decide) ?_
  rw [converse_state hb, if_pos (by decide)]

end IPScout
