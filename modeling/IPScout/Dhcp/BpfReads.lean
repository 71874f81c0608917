import IPScout.Dhcp.Captures
import IPScout.Routes.Message

/-!
# What a BPF capture hands out

A read of a BPF device is one record after another: a header, whose length the kernel
chooses, a frame, and padding up to the next multiple of four octets, which the last
record may lack.  `iter_bpf_frames` finds the frames of such a read, all of them and in
order (`iterBpfFrames_of_isBpfRead`), and of any octets it finds pieces of them only.

`BpfCapture.receive` returns the frames of all reads in the order of the reads, and it
reads when there is nothing left of the reads before (`bpf_hands_out_once`).
-/

namespace IPScout

open Base Base.Octets

/-! ### Records -/

/-- One record of a read: its time stamp, the length the frame had, what the header holds
past its fixed part, the frame that was captured, and the padding behind it. -/
structure BpfRecord where
  stamp : Octets
  datalen : Octets
  options : Octets
  frame : Octets
  padding : Octets
  stamp_length : stamp.length = 8
  datalen_length : datalen.length = 4
  hdrlen_lt : BPF_HDR_SIZE + options.length < 2 ^ 16
  frame_pos : 0 < frame.length
  frame_lt : frame.length < 2 ^ 32
  padding_lt : padding.length < 4
  aligned : 4 ∣ BPF_HDR_SIZE + options.length + frame.length + padding.length

namespace BpfRecord

/-- `bh_hdrlen`. -/
def hdrlen (r : BpfRecord) : ℕ := BPF_HDR_SIZE + r.options.length

/-- The header: `bh_tstamp`, `bh_caplen`, `bh_datalen`, `bh_hdrlen` and whatever follows. -/
def header (r : BpfRecord) : Octets :=
  r.stamp ++ (packedLittle 4 r.frame.length ++ (r.datalen ++
    (packedLittle 2 r.hdrlen ++ r.options)))

theorem length_header (r : BpfRecord) : r.header.length = r.hdrlen := by
  rw [header, hdrlen, BPF_HDR_SIZE]
  simp only [List.length_append, length_packedLittle, r.stamp_length, r.datalen_length]
  omega

end BpfRecord

/-- The octets of a read: its records, the last one with its padding or only a part of it. -/
inductive IsBpfRead : List BpfRecord → Octets → Prop
  | nil : IsBpfRead [] []
  | last (r : BpfRecord) (n : ℕ) : IsBpfRead [r] (r.header ++ r.frame ++ r.padding.take n)
  | cons (r : BpfRecord) {rs : List BpfRecord} {chunk : Octets} : IsBpfRead rs chunk →
      IsBpfRead (r :: rs) (r.header ++ r.frame ++ r.padding ++ chunk)

/-! ### The walk over a read -/

theorem iterBpfFramesFrom_append (before buffer : Octets) (fuel position : ℕ) :
    iterBpfFramesFrom (before ++ buffer) fuel (before.length + position) =
      iterBpfFramesFrom buffer fuel position := by
  induction fuel generalizing position with
  | zero => rfl
  | succ fuel ih =>
    rw [iterBpfFramesFrom, iterBpfFramesFrom]
    simp only [Nat.add_assoc, slice_append_add, ih, List.length_append, Nat.add_le_add_iff_left,
      gt_iff_lt, Nat.add_lt_add_iff_left]

theorem iterBpfFrames_eq {buffer : Octets} {fuel : ℕ} (h : buffer.length ≤ fuel) :
    iterBpfFramesFrom buffer fuel 0 = iterBpfFrames buffer :=
  iterBpfFramesFrom_eq buffer (by omega) (by omega)

theorem BpfRecord.caplen_eq (r : BpfRecord) (rest : Octets) :
    littleEndian (slice (r.header ++ rest) 8 12) = r.frame.length := by
  have hslice : slice (r.header ++ rest) 8 12 = packedLittle 4 r.frame.length := by
    rw [header, List.append_assoc, List.append_assoc]
    exact slice_append_append r.stamp_length (by rw [length_packedLittle])
  rw [hslice, littleEndian_packedLittle]
  exact Nat.mod_eq_of_lt r.frame_lt

theorem BpfRecord.hdrlen_eq (r : BpfRecord) (rest : Octets) :
    littleEndian (slice (r.header ++ rest) 16 18) = r.hdrlen := by
  have hbefore : (r.stamp ++ (packedLittle 4 r.frame.length ++ r.datalen)).length = 16 := by
    simp only [List.length_append, length_packedLittle, r.stamp_length, r.datalen_length]
  have hslice : slice (r.header ++ rest) 16 18 = packedLittle 2 r.hdrlen := by
    have hheader : r.header ++ rest = (r.stamp ++ (packedLittle 4 r.frame.length ++ r.datalen)) ++
        (packedLittle 2 r.hdrlen ++ (r.options ++ rest)) := by
      simp only [header, List.append_assoc]
    rw [hheader]
    exact slice_append_append hbefore (by rw [length_packedLittle])
  rw [hslice, littleEndian_packedLittle]
  exact Nat.mod_eq_of_lt r.hdrlen_lt

/-- **A record at the front is found**, and the walk goes on behind its padding. -/
theorem iterBpfFrames_record (r : BpfRecord) (rest : Octets) :
    iterBpfFrames (r.header ++ (r.frame ++ rest)) = r.frame ::
      iterBpfFramesFrom (r.header ++ (r.frame ++ rest)) (r.header ++ (r.frame ++ rest)).length
        (r.header ++ r.frame ++ r.padding).length := by
  have hlength : (r.header ++ (r.frame ++ rest)).length =
      r.hdrlen + (r.frame.length + rest.length) := by
    rw [List.length_append, List.length_append, r.length_header]
  have hhdrlen : r.hdrlen = BPF_HDR_SIZE + r.options.length := rfl
  have hpos := r.frame_pos
  have hnext : 0 + (r.hdrlen + r.frame.length + 3) / 4 * 4 =
      (r.header ++ r.frame ++ r.padding).length := by
    have haligned := r.aligned
    have hpadding := r.padding_lt
    rw [List.length_append, List.length_append, r.length_header]
    omega
  have hframe : slice (r.header ++ (r.frame ++ rest)) (0 + r.hdrlen)
      (0 + r.hdrlen + r.frame.length) = r.frame :=
    slice_append_append (by rw [r.length_header, Nat.zero_add]) rfl
  rw [← iterBpfFrames_eq (Nat.le_succ _), iterBpfFramesFrom, if_pos (by omega)]
  simp only [Nat.zero_add] at *
  simp only [r.caplen_eq, r.hdrlen_eq]
  rw [if_neg (by omega), if_neg (by omega), hframe, hnext]

theorem iterBpfFramesFrom_of_length_le {buffer : Octets} {position : ℕ}
    (h : buffer.length ≤ position) (fuel : ℕ) :
    iterBpfFramesFrom buffer fuel position = [] := by
  cases fuel with
  | zero => rfl
  | succ fuel =>
    rw [iterBpfFramesFrom, if_neg]
    rw [BPF_HDR_SIZE]
    omega

/-- **The frames of a read are those of its records**, in order. -/
theorem iterBpfFrames_of_isBpfRead {rs : List BpfRecord} {chunk : Octets}
    (h : IsBpfRead rs chunk) : iterBpfFrames chunk = rs.map BpfRecord.frame := by
  induction h with
  | nil => rfl
  | last r n =>
    -- with its padding or without, the read ends before the next record would begin
    have hend : (r.header ++ (r.frame ++ r.padding.take n)).length ≤
        (r.header ++ r.frame ++ r.padding).length := by
      simp only [List.length_append, List.length_take]
      omega
    rw [List.append_assoc, iterBpfFrames_record, iterBpfFramesFrom_of_length_le hend]
    rfl
  | @cons r rs chunk _ ih =>
    have hbuffer : r.header ++ (r.frame ++ (r.padding ++ chunk)) =
        (r.header ++ r.frame ++ r.padding) ++ chunk := by simp only [List.append_assoc]
    have hfuel : chunk.length ≤ ((r.header ++ r.frame ++ r.padding) ++ chunk).length := by
      rw [List.length_append]
      exact Nat.le_add_left _ _
    rw [← hbuffer, iterBpfFrames_record, hbuffer,
      ← Nat.add_zero (r.header ++ r.frame ++ r.padding).length, iterBpfFramesFrom_append,
      iterBpfFrames_eq hfuel, ih, List.map_cons]

/-- A piece of a buffer. -/
def IsPiece (buffer frame : Octets) : Prop :=
  ∃ lo hi, lo < hi ∧ hi ≤ buffer.length ∧ frame = slice buffer lo hi

theorem isPiece_of_mem {buffer frame : Octets} {fuel position : ℕ}
    (h : frame ∈ iterBpfFramesFrom buffer fuel position) : IsPiece buffer frame := by
  induction fuel generalizing position with
  | zero => simp [iterBpfFramesFrom] at h
  | succ fuel ih =>
    rw [iterBpfFramesFrom] at h
    split at h
    · dsimp only at h
      split at h
      · simp at h
      · next hrecord =>
        split at h
        · simp at h
        · rcases List.mem_cons.mp h with rfl | hrest
          · exact ⟨_, _, by omega, by omega, rfl⟩
          · exact ih hrest
    · simp at h

/-! ### What a run has read and returned -/

def chunksRead (as : List CaptureAction) : List Octets :=
  as.filterMap fun
    | .read (.ok chunk) => some chunk
    | _ => none

def framesReturned (as : List CaptureAction) : List Octets :=
  as.filterMap fun
    | .returned frame => frame
    | _ => none

/-- A call of `close`. -/
def CaptureAction.isClose : CaptureAction → Bool
  | .close _ => true
  | _ => false

/-- No step of a run calls `close`. -/
def StaysOpen (_ : Capture) (a : CaptureAction) : Prop := a.isClose = false

/-- The frame a call is about to return. -/
def Receiver.inHand : Receiver → List Octets
  | .returning (some frame) => [frame]
  | _ => []

/-- The frames of a read that are not queued yet. -/
def Receiver.unqueued : Receiver → List Octets
  | .queueing chunk => iterBpfFrames chunk
  | _ => []

/-- Where a call is only when no frame is left. -/
def Receiver.isDry : Receiver → Bool
  | .selecting | .reading | .queueing _ | .guarding _ | .raising _ | .returning none => true
  | _ => false

/-- Where a call of a socket's `receive` is. -/
def Receiver.isSocket : Receiver → Bool
  | .settingTimeout | .receiving => true
  | _ => false

/-- **What a BPF capture keeps account of**: what it has returned, and what it still holds, is
what it has read. -/
structure Capture.HandsOut (as : List CaptureAction) (s : Capture) : Prop where
  closers : ∀ i, s.closer i = .idle
  device : s.receiver.isSocket = false
  dry : s.receiver.isDry = true → s.pending = []
  stocked : s.Stocked
  account : framesReturned as ++ (s.receiver.inHand ++ s.pending ++ s.receiver.unqueued) =
    (chunksRead as).flatMap iterBpfFrames

theorem chunksRead_append (as bs : List CaptureAction) :
    chunksRead (as ++ bs) = chunksRead as ++ chunksRead bs := List.filterMap_append

theorem framesReturned_append (as bs : List CaptureAction) :
    framesReturned (as ++ bs) = framesReturned as ++ framesReturned bs := List.filterMap_append

namespace Capture.HandsOut

variable {as : List CaptureAction} {s t : Capture} {a : CaptureAction}

theorem initial : Capture.HandsOut [] .initial where
  closers _ := rfl
  device := rfl
  dry _ := rfl
  stocked h := by simp [Capture.initial] at h
  account := rfl

/-- A step that reads and returns nothing keeps account if what is held stays the same. -/
theorem of_held {receiver : Receiver} (h : s.HandsOut as) (hchunks : chunksRead [a] = [])
    (hframes : framesReturned [a] = []) (hdevice : receiver.isSocket = false)
    (hdry : receiver.isDry = true → s.pending = [])
    (hstocked : receiver = .taking → s.pending ≠ [])
    (hheld : receiver.inHand ++ s.pending ++ receiver.unqueued =
      s.receiver.inHand ++ s.pending ++ s.receiver.unqueued) :
    Capture.HandsOut (as ++ [a]) { s with receiver := receiver } where
  closers := h.closers
  device := hdevice
  dry := hdry
  stocked := hstocked
  account := by
    rw [framesReturned_append, chunksRead_append, hchunks, hframes, List.append_nil,
      List.append_nil, ← h.account, ← hheld]

/-- A look at the queue keeps account: what is next takes from it or finds it empty. -/
theorem of_look {next : Receiver} (h : s.HandsOut as)
    (hhere : s.receiver.inHand ++ s.pending ++ s.receiver.unqueued = s.pending)
    (hdevice : next.isSocket = false) (htaking : next ≠ .taking)
    (hnext : next.inHand ++ next.unqueued = []) :
    Capture.HandsOut (as ++ [.check])
      { s with receiver := if s.pending.isEmpty then next else .taking } := by
  by_cases hempty : s.pending.isEmpty = true
  · have hnil := List.isEmpty_iff.mp hempty
    rw [if_pos hempty]
    exact h.of_held rfl rfl hdevice (fun _ => hnil) (fun hat => absurd hat htaking)
      (by rw [hhere, hnil, List.append_nil, hnext])
  · rw [if_neg hempty]
    exact h.of_held rfl rfl rfl (by simp [Receiver.isDry])
      (fun _ hnil => hempty (List.isEmpty_iff.mpr hnil)) (by rw [hhere]; exact List.append_nil _)

/-- **Every step of an open capture keeps account.** -/
theorem step (h : s.HandsOut as) (hstep : guarded StaysOpen (CaptureStep .bpf) s a t) :
    t.HandsOut (as ++ [a]) := by
  obtain ⟨hopen, hstep⟩ := hstep
  cases hstep with
  | receive hidle =>
    exact h.of_held rfl rfl rfl (by simp [Backend.entry, Receiver.isDry])
      (by simp [Backend.entry]) (by rw [hidle]; rfl)
  | settimeout hsetting =>
    have hdevice := h.device
    rw [hsetting] at hdevice
    simp [Receiver.isSocket] at hdevice
  | recv hreceiving =>
    have hdevice := h.device
    rw [hreceiving] at hdevice
    simp [Receiver.isSocket] at hdevice
  | check hchecking => exact h.of_look (by rw [hchecking]; exact List.append_nil _) rfl (by simp) rfl
  | recheck hrechecking =>
    exact h.of_look (by rw [hrechecking]; exact List.append_nil _) rfl (by simp) rfl
  | take htaking =>
    obtain ⟨frame, rest, hpending⟩ := List.exists_cons_of_ne_nil (h.stocked htaking)
    have haccount := h.account
    rw [htaking, hpending] at haccount
    rw [hpending]
    refine ⟨h.closers, rfl, by simp [Receiver.isDry], by simp [Stocked], ?_⟩
    rw [framesReturned_append, chunksRead_append]
    simpa [framesReturned, chunksRead, Receiver.inHand, Receiver.unqueued] using haccount
  | @select outcome hselecting =>
    have hempty : s.pending = [] := h.dry (by rw [hselecting]; rfl)
    have hheld : s.receiver.inHand ++ s.pending ++ s.receiver.unqueued = [] := by
      rw [hselecting, hempty]
      rfl
    cases outcome with
    | error e =>
      exact h.of_held rfl rfl rfl (fun _ => hempty) (by simp) (by rw [hheld, hempty]; rfl)
    | ok readable =>
      cases readable with
      | true =>
        exact h.of_held rfl rfl rfl (fun _ => hempty) (by simp) (by rw [hheld, hempty]; rfl)
      | false =>
        exact h.of_held rfl rfl rfl (fun _ => hempty) (by simp) (by rw [hheld, hempty]; rfl)
  | @read outcome hreading =>
    have hempty : s.pending = [] := h.dry (by rw [hreading]; rfl)
    have haccount := h.account
    rw [hreading, hempty] at haccount
    cases outcome with
    | error e =>
      exact h.of_held rfl rfl rfl (fun _ => hempty) (by simp) (by rw [hreading, hempty]; rfl)
    | ok chunk =>
      -- all that was read before is returned, and the new frames are queued next
      refine ⟨h.closers, rfl, fun _ => hempty, by simp [Stocked], ?_⟩
      rw [framesReturned_append, chunksRead_append, List.flatMap_append, ← haccount, hempty]
      simp [framesReturned, chunksRead, Receiver.inHand, Receiver.unqueued]
  | @queue chunk hqueueing =>
    have haccount := h.account
    rw [hqueueing] at haccount
    refine ⟨h.closers, rfl, by simp [Receiver.isDry], by simp [Stocked], ?_⟩
    rw [framesReturned_append, chunksRead_append]
    simpa [framesReturned, chunksRead, Receiver.inHand, Receiver.unqueued] using haccount
  | @guard e hguarding =>
    have hempty : s.pending = [] := h.dry (by rw [hguarding]; rfl)
    by_cases hclosed : s.closed = true
    · rw [if_pos hclosed]
      exact h.of_held rfl rfl rfl (fun _ => hempty) (by simp) (by rw [hguarding]; rfl)
    · rw [if_neg hclosed]
      exact h.of_held rfl rfl rfl (fun _ => hempty) (by simp) (by rw [hguarding]; rfl)
  | @returned frame hreturning =>
    have haccount := h.account
    rw [hreturning] at haccount
    refine ⟨h.closers, rfl, by simp [Receiver.isDry], by simp [Stocked], ?_⟩
    rw [framesReturned_append, chunksRead_append]
    cases frame with
    | none => simpa [framesReturned, chunksRead, Receiver.inHand, Receiver.unqueued] using haccount
    | some frame =>
      simpa [framesReturned, chunksRead, Receiver.inHand, Receiver.unqueued] using haccount
  | raised hraising =>
    exact h.of_held rfl rfl rfl (by simp [Receiver.isDry]) (by simp) (by rw [hraising]; rfl)
  | close => simp [StaysOpen, CaptureAction.isClose] at hopen
  | mark hmarking | clear hmarking | quiet hmarking | release hmarking | closed hmarking =>
    rw [h.closers] at hmarking
    simp at hmarking

theorem of_run (h : Steps (guarded StaysOpen (CaptureStep .bpf)) .initial as s) :
    s.HandsOut as :=
  h.trace (I := fun as s => s.HandsOut as) initial fun hs hstep => hs.step hstep

/-- Where no frame is left, all that was read has been returned. -/
theorem framesReturned_of_dry (h : s.HandsOut as) (hdry : s.receiver.isDry = true)
    (hunqueued : s.receiver.unqueued = []) :
    framesReturned as = (chunksRead as).flatMap iterBpfFrames := by
  have hinHand : s.receiver.inHand = [] := by
    cases hreceiver : s.receiver with
    | returning frame =>
      cases frame with
      | none => rfl
      | some frame =>
        rw [hreceiver] at hdry
        simp [Receiver.isDry] at hdry
    | _ => rfl
  rw [← h.account, h.dry hdry, hinHand, hunqueued, List.append_nil, List.append_nil,
    List.append_nil]

end Capture.HandsOut

/-! ### What is handed out -/

/-- Calls of `receive` that return frames without a look at the device. -/
def handOut (frames : List Octets) : List CaptureAction :=
  frames.flatMap fun frame => [.receive, .check, .take, .returned (some frame)]

theorem framesReturned_handOut (frames : List Octets) :
    framesReturned (handOut frames) = frames := by
  induction frames with
  | nil => rfl
  | cons frame frames ih =>
    rw [handOut, List.flatMap_cons, framesReturned_append, ← handOut, ih]
    rfl

/-- **Pending frames come out of the next calls**, one a call. -/
theorem steps_handOut {s : Capture} (hidle : s.receiver = .idle) :
    Steps (guarded StaysOpen (CaptureStep .bpf)) s (handOut s.pending)
      { s with pending := [] } := by
  obtain ⟨closed, released, pending, receiver, closer⟩ := s
  obtain rfl : receiver = .idle := hidle
  induction pending with
  | nil => exact .nil _
  | cons frame pending ih =>
    exact .cons ⟨rfl, .receive rfl⟩ (.cons ⟨rfl, .check rfl⟩ (.cons ⟨rfl, .take rfl⟩
      (.cons ⟨rfl, .returned rfl⟩ ih)))

theorem flatMap_iterBpfFrames {reads : List (List BpfRecord)} {chunks : List Octets}
    (h : List.Forall₂ IsBpfRead reads chunks) :
    chunks.flatMap iterBpfFrames = reads.flatten.map BpfRecord.frame := by
  induction h with
  | nil => rfl
  | cons hread _ ih =>
    rw [List.flatMap_cons, ih, iterBpfFrames_of_isBpfRead hread, List.flatten_cons, List.map_append]

/-- A step that a call takes only when no frame is left: to wait for the device, to read from
it, and to return without a frame. -/
def CaptureAction.isDry : CaptureAction → Bool
  | .select _ | .read _ | .returned none => true
  | _ => false

/-- **A BPF capture hands out every frame once and in order**, and goes back to the device when
it has handed out all there were. -/
theorem bpf_hands_out_once {as : List CaptureAction} {s : Capture}
    (h : Steps (guarded StaysOpen (CaptureStep .bpf)) .initial as s)
    {reads : List (List BpfRecord)} (hreads : List.Forall₂ IsBpfRead reads (chunksRead as)) :
    framesReturned as <+: reads.flatten.map BpfRecord.frame ∧
    (s.receiver = .idle →
      framesReturned (as ++ handOut s.pending) = reads.flatten.map BpfRecord.frame ∧
      Steps (guarded StaysOpen (CaptureStep .bpf)) s (handOut s.pending)
        { s with pending := [] }) ∧
    (∀ before a after, as = before ++ a :: after → a.isDry = true →
      framesReturned before =
        (reads.take (chunksRead before).length).flatten.map BpfRecord.frame) ∧
    ∀ buffer,
      (∀ fuel, buffer.length ≤ fuel →
        iterBpfFramesFrom buffer fuel 0 = iterBpfFrames buffer) ∧
      ∀ frame ∈ iterBpfFrames buffer, IsPiece buffer frame := by
  have hkeeps := Capture.HandsOut.of_run h
  have hframes := flatMap_iterBpfFrames hreads
  refine ⟨?_, ?_, ?_, fun buffer => ⟨fun _ => iterBpfFrames_eq, fun _ => isPiece_of_mem⟩⟩
  · rw [← hframes, ← hkeeps.account]
    exact List.prefix_append _ _
  · intro hidle
    have haccount := hkeeps.account
    rw [hidle] at haccount
    refine ⟨?_, steps_handOut hidle⟩
    rw [framesReturned_append, framesReturned_handOut, ← hframes, ← haccount]
    exact congrArg _ (List.append_nil _).symm
  · rintro before a after rfl hdry
    obtain ⟨t, hbefore, hrest⟩ := h.exists_of_append
    obtain ⟨u, ⟨_, hstep⟩, _⟩ := hrest.exists_of_cons
    have hreadsBefore : List.Forall₂ IsBpfRead (reads.take (chunksRead before).length)
        (chunksRead before) := by
      have htake := List.forall₂_take (chunksRead before).length hreads
      rwa [chunksRead_append, List.take_left] at htake
    rw [← flatMap_iterBpfFrames hreadsBefore]
    have ht := Capture.HandsOut.of_run hbefore
    cases hstep with
    | select hat | read hat =>
      exact ht.framesReturned_of_dry (by rw [hat]; rfl) (by rw [hat]; rfl)
    | @returned frame hat =>
      cases frame with
      | none => exact ht.framesReturned_of_dry (by rw [hat]; rfl) (by rw [hat]; rfl)
      | some frame => simp [CaptureAction.isDry] at hdry
    | _ => simp [CaptureAction.isDry] at hdry

/-- A record of three octets, with two octets of header options. -/
def shortRecord : BpfRecord where
  stamp := List.replicate 8 0
  datalen := [3, 0, 0, 0]
  options := [0, 0]
  frame := [0xa, 0xb, 0xc]
  padding := [0]
  stamp_length := rfl
  datalen_length := rfl
  hdrlen_lt := by simp [BPF_HDR_SIZE]
  frame_pos := by simp
  frame_lt := by simp
  padding_lt := by simp
  aligned := by simp [BPF_HDR_SIZE]

/-- A read of two records, the last one without its padding. -/
def twoRecords : Octets :=
  shortRecord.header ++ shortRecord.frame ++ shortRecord.padding ++
    (shortRecord.header ++ shortRecord.frame ++ shortRecord.padding.take 0)

/-- One frame of the read is returned, and the other one comes out of the next call. -/
theorem bpf_hands_out_once_of_two_records : ∃ as s,
    Steps (guarded StaysOpen (CaptureStep .bpf)) .initial as s ∧
    framesReturned as = [[0xa, 0xb, 0xc]] ∧
    framesReturned (as ++ handOut s.pending) = [[0xa, 0xb, 0xc], [0xa, 0xb, 0xc]] := by
  have hread : IsBpfRead [shortRecord, shortRecord] twoRecords :=
    .cons shortRecord (.last shortRecord 0)
  have hrun : Steps (guarded StaysOpen (CaptureStep .bpf)) .initial
      [.receive, .check, .select (.ok true), .read (.ok twoRecords), .queue, .check, .take,
        .returned (some [0xa, 0xb, 0xc])]
      ⟨false, false, [[0xa, 0xb, 0xc]], .idle, fun _ => .idle⟩ :=
    .cons ⟨rfl, .receive rfl⟩ (.cons ⟨rfl, .check rfl⟩ (.cons ⟨rfl, .select rfl⟩
      (.cons ⟨rfl, .read rfl⟩ (.cons ⟨rfl, .queue rfl⟩ (.cons ⟨rfl, .recheck rfl⟩
        (.cons ⟨rfl, .take rfl⟩ (.single ⟨rfl, .returned rfl⟩)))))))
  exact ⟨_, _, hrun, rfl, ((bpf_hands_out_once hrun (.cons hread .nil)).2.1 rfl).1⟩

end IPScout
