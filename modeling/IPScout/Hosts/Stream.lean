import IPScout.Hosts.Banner

/-!
# Where the octets wait

`_read_line` reads from an `asyncio.StreamReader`.  What the peer sends is fed to the reader's
buffer as it arrives, and `read` hands it over when the event loop gives the task its turn.
A stored exception is raised before the buffer is looked at, and a read that is due after the
deadline is not made at all, so octets can arrive and never be handed over.

They are handed over exactly when the task has a turn after the first of them, and no
exception is stored in between unless the task waits already (`Stream.InTime`,
`head?_arrived_reads`, `arrived_reads_of_late`).
-/

namespace IPScout

open Base Base.Octets

/-! ### The reader -/

/-- What happens on a connection before the deadline. -/
inductive StreamEvent
  | data (b : Octets)
  | eof
  | exception (e : OSErr)
  /-- The event loop gives the task in `_read_line` its turn. -/
  | turn

/-- Nothing is fed behind the end of a stream. -/
def StreamEvent.Before (first later : StreamEvent) : Prop :=
  match first, later with
  | .eof, .data _ => False
  | .exception _, .data _ => False
  | _, _ => True

/-- What happens on a connection until the deadline. -/
structure Stream where
  events : List StreamEvent
  ordered : events.Pairwise StreamEvent.Before

/-- Where the task in `read` stands: it has not called, it waits for data, what woke it was
data or the end, or it was an exception. -/
inductive ReadWaiter
  | idle
  | waiting
  | woken
  | raised (e : OSErr)

structure StreamReader where
  buffer : Octets
  eof : Bool
  exception : Option OSErr
  waiter : ReadWaiter

namespace StreamReader

/-- `StreamReader()`. -/
def new : StreamReader := ⟨[], false, none, .idle⟩

/-- `_wakeup_waiter`. -/
def wakeup (r : StreamReader) : StreamReader :=
  match r.waiter with
  | .waiting => { r with waiter := .woken }
  | _ => r

def feedData (r : StreamReader) (b : Octets) : StreamReader :=
  if b = [] then r else wakeup { r with buffer := r.buffer ++ b }

def feedEof (r : StreamReader) : StreamReader := wakeup { r with eof := true }

def setException (r : StreamReader) (e : OSErr) : StreamReader :=
  match r.waiter with
  | .waiting => { r with exception := some e, waiter := .raised e }
  | _ => { r with exception := some e }

def after (r : StreamReader) : StreamEvent → StreamReader
  | .data b => r.feedData b
  | .eof => r.feedEof
  | .exception e => r.setException e
  | .turn => r

/-- The end of `read`: up to `n` octets of the buffer. -/
def take (r : StreamReader) (n : ℕ) : Option ReadEvent × StreamReader :=
  (some (.chunk (r.buffer.take n)), { r with buffer := r.buffer.drop n, waiter := .idle })

/-- One turn in `read(n)`: how it ends, if it does. -/
def read (r : StreamReader) (n : ℕ) : Option ReadEvent × StreamReader :=
  match r.waiter with
  | .waiting => (none, r)
  | .raised e => (some (.failed e), { r with waiter := .idle })
  | .woken => r.take n
  | .idle =>
    match r.exception with
    | some e => (some (.failed e), r)
    | none =>
      if r.buffer = [] ∧ r.eof = false then (none, { r with waiter := .waiting }) else r.take n

end StreamReader

/-- How the reads of `_read_line` end, where `received` octets of `cap` have been received.
What is still read for at the deadline is not read. -/
def readsOf (cap : ℕ) : ℕ → StreamReader → List StreamEvent → List ReadEvent
  | _, _, [] => []
  | received, r, .turn :: rest =>
    match r.read (cap - received) with
    | (none, r') => readsOf cap received r' rest
    | (some (.failed e), _) => [.failed e]
    | (some (.chunk b), r') =>
      if b = [] then [.chunk b] else .chunk b :: readsOf cap (received + b.length) r' rest
  | received, r, event :: rest => readsOf cap received (r.after event) rest

def Stream.arrived (s : Stream) : Octets :=
  s.events.flatMap fun
    | .data b => b
    | _ => []

/-- The octets that reads hand over before the close, a failed read or the deadline. -/
def arrived : List ReadEvent → Octets
  | [] => []
  | .failed _ :: _ => []
  | .chunk b :: rest => if b = [] then [] else b ++ arrived rest

def Stream.reads (s : Stream) (cap : ℕ) : List ReadEvent := readsOf cap 0 .new s.events

/-- The task has a turn after the first octets arrived, and an exception in between finds it
waiting already. -/
def Stream.InTime (s : Stream) : Prop :=
  ∀ pre b post, s.events = pre ++ .data b :: post → b ≠ [] → (∀ c, .data c ∈ pre → c = []) →
    ∃ before later, post = before ++ .turn :: later ∧ .turn ∉ before ∧
      (.turn ∈ pre ∨ ∀ e, .exception e ∉ before)

/-! ### Until the first octets -/

theorem readsOf_cons {event : StreamEvent} (h : event ≠ .turn) (cap received : ℕ)
    (r : StreamReader) (rest : List StreamEvent) :
    readsOf cap received r (event :: rest) = readsOf cap received (r.after event) rest := by
  cases event with
  | turn => exact absurd rfl h
  | data b => rfl
  | eof => rfl
  | exception e => rfl

/-- A reader with nothing in its buffer, in the middle of a wait or before it. -/
def emptyReader (waits : Bool) : StreamReader :=
  ⟨[], false, none, if waits then .waiting else .idle⟩

theorem read_emptyReader (waits : Bool) (n : ℕ) :
    (emptyReader waits).read n = (none, emptyReader true) := by
  cases waits <;> rfl

/-- **Before the first octets the task waits from its first turn on.** -/
theorem readsOf_emptyReader (cap : ℕ) {pre : List StreamEvent} (rest : List StreamEvent)
    (hends : .eof ∉ pre ∧ ∀ e, .exception e ∉ pre) (hempty : ∀ c, .data c ∈ pre → c = [])
    (waits : Bool) : ∃ waits', (waits' = true ↔ waits = true ∨ .turn ∈ pre) ∧
      readsOf cap 0 (emptyReader waits) (pre ++ rest) =
        readsOf cap 0 (emptyReader waits') rest := by
  induction pre generalizing waits with
  | nil => exact ⟨waits, by simp, rfl⟩
  | cons event pre ih =>
    have hends' : .eof ∉ pre ∧ ∀ e, .exception e ∉ pre :=
      ⟨fun h => hends.1 (List.mem_cons_of_mem _ h),
        fun e h => hends.2 e (List.mem_cons_of_mem _ h)⟩
    have hempty' : ∀ c, .data c ∈ pre → c = [] := fun c h => hempty c (List.mem_cons_of_mem _ h)
    cases event with
    | eof => exact absurd List.mem_cons_self hends.1
    | exception e => exact absurd List.mem_cons_self (hends.2 e)
    | data c =>
      obtain ⟨waits', hwaits', hread⟩ := ih hends' hempty' waits
      obtain rfl := hempty c List.mem_cons_self
      refine ⟨waits', ?_, ?_⟩
      · rw [hwaits']
        simp
      · rw [List.cons_append, readsOf_cons (by simp)]
        exact hread
    | turn =>
      obtain ⟨waits', hwaits', hread⟩ := ih hends' hempty' true
      refine ⟨waits', ?_, ?_⟩
      · rw [hwaits']
        simp
      · rw [List.cons_append, readsOf, read_emptyReader]
        exact hread

/-! ### From the first octets to the next turn -/

/-- A reader with octets in its buffer, woken by them or not yet asked for them. -/
structure Holds (first : UInt8) (woken : Bool) (raises : Prop) (r : StreamReader) : Prop where
  head : r.buffer.head? = some first
  waiter : r.waiter = if woken then .woken else .idle
  exception : r.exception ≠ none ↔ raises

theorem wakeup_of_holds {first : UInt8} {woken : Bool} {raises : Prop} {r : StreamReader}
    (h : Holds first woken raises r) : r.wakeup = r := by
  have hwaiter := h.waiter
  cases woken <;> simp_all [StreamReader.wakeup]

/-- **What else arrives stays behind the first octets**, and only an exception is kept. -/
theorem Holds.after {first : UInt8} {woken : Bool} {raises : Prop} {r : StreamReader}
    (h : Holds first woken raises r) (event : StreamEvent) :
    Holds first woken (raises ∨ ∃ e, event = .exception e) (r.after event) := by
  cases event with
  | turn =>
    rw [StreamReader.after]
    exact ⟨h.head, h.waiter, by simpa using h.exception⟩
  | eof =>
    have hheld : Holds first woken raises { r with eof := true } := ⟨h.head, h.waiter, h.exception⟩
    rw [StreamReader.after, StreamReader.feedEof, wakeup_of_holds hheld]
    exact ⟨h.head, h.waiter, by simpa using h.exception⟩
  | data b =>
    have hhead : (r.buffer ++ b).head? = some first := by
      rw [List.head?_append, h.head, Option.some_or]
    have hheld : Holds first woken raises { r with buffer := r.buffer ++ b } :=
      ⟨hhead, h.waiter, h.exception⟩
    rw [StreamReader.after, StreamReader.feedData]
    split
    · exact ⟨h.head, h.waiter, by simpa using h.exception⟩
    · rw [wakeup_of_holds hheld]
      exact ⟨hhead, h.waiter, by simpa using h.exception⟩
  | exception e =>
    have hstored : r.setException e = { r with exception := some e } := by
      have hwaiter := h.waiter
      cases woken <;> simp_all [StreamReader.setException]
    rw [StreamReader.after, hstored]
    exact ⟨h.head, h.waiter, by simp⟩

theorem readsOf_of_holds (cap : ℕ) {first : UInt8} {woken : Bool} {raises : Prop}
    {before : List StreamEvent} (hbefore : .turn ∉ before) {r : StreamReader}
    (h : Holds first woken raises r) : ∃ r',
      Holds first woken (raises ∨ ∃ e, .exception e ∈ before) r' ∧
        ∀ rest, readsOf cap 0 r (before ++ rest) = readsOf cap 0 r' rest := by
  induction before generalizing r raises with
  | nil => exact ⟨r, ⟨h.head, h.waiter, by simpa using h.exception⟩, fun rest => rfl⟩
  | cons event before ih =>
    rw [List.mem_cons, not_or] at hbefore
    obtain ⟨r', hr', hread⟩ := ih hbefore.2 (h.after event)
    refine ⟨r', ⟨hr'.head, hr'.waiter, ?_⟩, ?_⟩
    · rw [hr'.exception]
      simp [or_assoc, exists_or, eq_comm]
    · intro rest
      rw [List.cons_append, readsOf_cons (Ne.symm hbefore.1), hread]

/-- **At its turn the task takes the first octets**, unless it calls `read` only then and an
exception is stored. -/
theorem Holds.read {first : UInt8} {woken : Bool} {raises : Prop} {r : StreamReader}
    (h : Holds first woken raises r) {n : ℕ} (hn : 0 < n) :
    (woken = true ∨ ¬ raises → ∃ b r', r.read n = (some (.chunk b), r') ∧ b.head? = some first) ∧
    (¬ (woken = true ∨ ¬ raises) → ∃ e r', r.read n = (some (.failed e), r')) := by
  have hwaiter := h.waiter
  have htake : ∃ b r', r.take n = (some (.chunk b), r') ∧ b.head? = some first := by
    refine ⟨_, _, rfl, ?_⟩
    rw [List.head?_take, if_neg (by omega), h.head]
  cases woken with
  | true =>
    refine ⟨fun _ => ?_, fun hlate => absurd (.inl rfl) hlate⟩
    rw [StreamReader.read, hwaiter]
    exact htake
  | false =>
    rw [StreamReader.read, show r.waiter = .idle from hwaiter]
    dsimp only
    cases hexception : r.exception with
    | some e =>
      have hraises : raises := h.exception.mp (by simp [hexception])
      exact ⟨fun htaken => by simp [hraises] at htaken, fun _ => ⟨e, _, rfl⟩⟩
    | none =>
      have hnot : ¬ raises := fun hraises => h.exception.mpr hraises hexception
      have hbuffer : r.buffer ≠ [] := by
        intro hnil
        have := h.head
        simp [hnil] at this
      refine ⟨fun _ => ?_, fun hlate => absurd (.inr hnot) hlate⟩
      rw [if_neg (fun hboth => hbuffer hboth.1)]
      exact htake

/-! ### What is handed over -/

theorem exists_first {events : List StreamEvent}
    (h : ∃ b, .data b ∈ events ∧ b ≠ []) : ∃ pre b post,
      events = pre ++ .data b :: post ∧ b ≠ [] ∧ ∀ c, .data c ∈ pre → c = [] := by
  induction events with
  | nil => simp at h
  | cons event events ih =>
    by_cases hevent : ∃ b, event = .data b ∧ b ≠ []
    · obtain ⟨b, rfl, hb⟩ := hevent
      exact ⟨[], b, events, rfl, hb, by simp⟩
    · obtain ⟨b, hmem, hb⟩ := h
      rcases List.mem_cons.mp hmem with hfirst | hrest
      · exact absurd ⟨b, hfirst.symm, hb⟩ hevent
      · obtain ⟨pre, c, post, rfl, hc, hpre⟩ := ih ⟨b, hrest, hb⟩
        refine ⟨event :: pre, c, post, rfl, hc, ?_⟩
        intro x hx
        rcases List.mem_cons.mp hx with hfirst | hin
        · by_contra hne
          exact hevent ⟨x, hfirst.symm, hne⟩
        · exact hpre x hin

theorem exists_turn {events : List StreamEvent} (h : .turn ∈ events) : ∃ before later,
    events = before ++ .turn :: later ∧ .turn ∉ before := by
  induction events with
  | nil => simp at h
  | cons event events ih =>
    by_cases hevent : .turn = event
    · exact ⟨[], events, by rw [← hevent, List.nil_append], List.not_mem_nil⟩
    · obtain ⟨before, later, rfl, hbefore⟩ := ih ((List.mem_cons.mp h).resolve_left hevent)
      refine ⟨event :: before, later, rfl, ?_⟩
      rw [List.mem_cons, not_or]
      exact ⟨hevent, hbefore⟩

theorem Stream.arrived_eq_nil_iff (s : Stream) :
    s.arrived = [] ↔ ∀ b, .data b ∈ s.events → b = [] := by
  rw [Stream.arrived, List.flatMap_eq_nil_iff]
  constructor
  · intro h b hb
    exact h _ hb
  · intro h event hevent
    cases event with
    | data b => exact h b hevent
    | eof => rfl
    | exception e => rfl
    | turn => rfl

theorem Stream.head?_arrived {s : Stream} {pre post : List StreamEvent} {b : Octets}
    (hevents : s.events = pre ++ .data b :: post) (hb : b ≠ [])
    (hpre : ∀ c, .data c ∈ pre → c = []) : s.arrived.head? = b.head? := by
  have hnil : pre.flatMap (fun
      | .data b => b
      | _ => []) = ([] : Octets) := by
    rw [List.flatMap_eq_nil_iff]
    intro event hevent
    cases event with
    | data c => exact hpre c hevent
    | eof => rfl
    | exception e => rfl
    | turn => rfl
  rw [Stream.arrived, hevents, List.flatMap_append, hnil, List.nil_append, List.flatMap_cons,
    List.head?_append_of_ne_nil _ hb]

theorem buffer_wakeup (r : StreamReader) : r.wakeup.buffer = r.buffer := by
  rw [StreamReader.wakeup]
  split <;> rfl

theorem read_of_empty {r : StreamReader} (hr : r.buffer = []) (n : ℕ) :
    (∃ r', r.read n = (none, r') ∧ r'.buffer = []) ∨
      (∃ e r', r.read n = (some (.failed e), r')) ∨ ∃ r', r.read n = (some (.chunk []), r') := by
  have htake : r.take n = (some (.chunk []), { r with buffer := [], waiter := .idle }) := by
    rw [StreamReader.take, hr, List.take_nil, List.drop_nil]
  rw [StreamReader.read]
  split
  · exact .inl ⟨r, rfl, hr⟩
  · exact .inr (.inl ⟨_, _, rfl⟩)
  · exact .inr (.inr ⟨_, htake⟩)
  · split
    · exact .inr (.inl ⟨_, _, rfl⟩)
    · split
      · exact .inl ⟨_, rfl, hr⟩
      · exact .inr (.inr ⟨_, htake⟩)

/-- **Where nothing arrives nothing is handed over.** -/
theorem arrived_readsOf_of_empty {cap received : ℕ} {events : List StreamEvent}
    (h : ∀ b, .data b ∈ events → b = []) {r : StreamReader} (hr : r.buffer = []) :
    arrived (readsOf cap received r events) = [] := by
  induction events generalizing r with
  | nil => rfl
  | cons event events ih =>
    have h' : ∀ b, .data b ∈ events → b = [] := fun b hb => h b (List.mem_cons_of_mem _ hb)
    cases event with
    | data b =>
      obtain rfl := h b List.mem_cons_self
      exact ih h' hr
    | eof => exact ih h' ((buffer_wakeup _).trans hr)
    | exception e =>
      refine ih h' ?_
      rw [StreamReader.after, StreamReader.setException]
      split <;> exact hr
    | turn =>
      rw [readsOf]
      rcases read_of_empty hr (cap - received) with ⟨r', hread, hr'⟩ | ⟨e, r', hread⟩ | ⟨r', hread⟩
      · rw [hread]
        exact ih h' hr'
      · rw [hread]
        rfl
      · rw [hread]
        rfl

theorem Stream.reads_of_first {s : Stream} {pre post : List StreamEvent} {b : Octets}
    (hevents : s.events = pre ++ .data b :: post) (hb : b ≠ [])
    (hpre : ∀ c, .data c ∈ pre → c = []) (cap : ℕ) : ∃ first woken r,
      b.head? = some first ∧ (woken = true ↔ .turn ∈ pre) ∧ Holds first woken False r ∧
        s.reads cap = readsOf cap 0 r post := by
  have hordered := s.ordered
  rw [hevents, List.pairwise_append] at hordered
  have hends : .eof ∉ pre ∧ ∀ e, .exception e ∉ pre :=
    ⟨fun h => hordered.2.2 _ h _ List.mem_cons_self,
      fun e h => hordered.2.2 _ h _ List.mem_cons_self⟩
  obtain ⟨waits, hwaits, hread⟩ := readsOf_emptyReader cap (.data b :: post) hends hpre
    false
  obtain ⟨first, more, rfl⟩ := List.exists_cons_of_ne_nil hb
  refine ⟨first, waits, (emptyReader waits).feedData (first :: more), rfl, by simpa using hwaits,
    ?_, ?_⟩
  · rw [StreamReader.feedData, if_neg hb]
    cases waits <;> exact ⟨rfl, rfl, by simp [emptyReader, StreamReader.wakeup]⟩
  · rw [Stream.reads, hevents]
    exact hread

/-- **Octets that are handed over in time are handed over from the first on.** -/
theorem Stream.InTime.head?_arrived_reads {s : Stream} (h : s.InTime) {cap : ℕ} (hcap : 1 ≤ cap) :
    (IPScout.arrived (s.reads cap)).head? = s.arrived.head? := by
  by_cases hnil : s.arrived = []
  · rw [hnil, Stream.reads,
      arrived_readsOf_of_empty (s.arrived_eq_nil_iff.mp hnil) (r := .new) rfl]
  · rw [s.arrived_eq_nil_iff] at hnil
    push Not at hnil
    obtain ⟨pre, b, post, hevents, hb, hpre⟩ := exists_first hnil
    obtain ⟨before, later, rfl, hbefore, hdone⟩ := h pre b post hevents hb hpre
    obtain ⟨first, woken, r, hfirst, hwoken, hholds, hreads⟩ := s.reads_of_first hevents hb hpre cap
    obtain ⟨r', hr', hread⟩ := readsOf_of_holds cap hbefore hholds
    have htaken : woken = true ∨ ¬ (False ∨ ∃ e, .exception e ∈ before) := by
      rcases hdone with hturn | hnone
      · exact .inl (hwoken.mpr hturn)
      · right
        rintro (hfalse | ⟨e, he⟩)
        · exact hfalse
        · exact hnone e he
    obtain ⟨c, r'', hc, hhead⟩ := (hr'.read (n := cap - 0) (by omega)).1 htaken
    have hne : c ≠ [] := by
      rintro rfl
      simp at hhead
    rw [hreads, hread, readsOf, hc, s.head?_arrived hevents hb hpre, hfirst]
    dsimp only
    rw [if_neg hne, IPScout.arrived, if_neg hne, List.head?_append_of_ne_nil _ hne, hhead]

/-- **Octets that are not are never handed over.** -/
theorem Stream.arrived_reads_of_late {s : Stream} (h : ¬ s.InTime) {cap : ℕ} (hcap : 1 ≤ cap) :
    IPScout.arrived (s.reads cap) = [] ∧ s.arrived ≠ [] := by
  rw [Stream.InTime] at h
  push Not at h
  obtain ⟨pre, b, post, hevents, hb, hpre, hlate⟩ := h
  have hsome : s.arrived ≠ [] := by
    intro hnil
    refine hb (s.arrived_eq_nil_iff.mp hnil b ?_)
    rw [hevents]
    exact List.mem_append_right _ List.mem_cons_self
  obtain ⟨first, woken, r, hfirst, hwoken, hholds, hreads⟩ := s.reads_of_first hevents hb hpre cap
  refine ⟨?_, hsome⟩
  rw [hreads]
  by_cases hturn : .turn ∈ post
  · obtain ⟨before, later, rfl, hbefore⟩ := exists_turn hturn
    obtain ⟨hpreturn, e, he⟩ := hlate before later rfl hbefore
    obtain ⟨r', hr', hread⟩ := readsOf_of_holds cap hbefore hholds
    have hnot : ¬ (woken = true ∨ ¬ (False ∨ ∃ e, .exception e ∈ before)) := by
      rintro (hw | hnone)
      · exact hpreturn (hwoken.mp hw)
      · exact hnone (.inr ⟨e, he⟩)
    obtain ⟨raised, r'', hraised⟩ := (hr'.read (n := cap - 0) (by omega)).2 hnot
    rw [hread, readsOf, hraised]
    rfl
  · -- the deadline comes first
    obtain ⟨r', _, hread⟩ := readsOf_of_holds cap hturn hholds
    have hend := hread []
    rw [List.append_nil] at hend
    rw [hend]
    rfl

end IPScout
