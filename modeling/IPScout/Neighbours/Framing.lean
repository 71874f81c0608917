import IPScout.Neighbours.Netlink

/-!
# Netlink framing, both ways

What `build_message` and `build_attribute` write, one after another, is what
`iter_messages` and `iter_attributes` read, and a buffer that is cut somewhere reads as
the first of them (`iterMessages_build`, `iterAttributes_build`).  On octets that nobody
built the two walks end, and what they find lies inside the buffer
(`walksInside_recordsFrom`).
-/

namespace IPScout

open Base Base.Octets

/-! ### What is built -/

/-- The arguments of `build_message`. -/
structure NetlinkMessage where
  messageType : ℕ
  flags : ℕ
  body : Octets
  sequence : ℕ

namespace NetlinkMessage

def build (order : ByteOrder) (m : NetlinkMessage) : Option Octets :=
  buildMessage order m.messageType m.flags m.body m.sequence

/-- The fields of the header are wide enough. -/
def Fits (m : NetlinkMessage) : Prop :=
  16 + m.body.length < 256 ^ 4 ∧ m.messageType < 256 ^ 2 ∧ m.flags < 256 ^ 2 ∧
    m.sequence < 256 ^ 4

/-- The messages that fit are those that are built; any other is a `struct.error`. -/
theorem exists_build_iff {order : ByteOrder} {m : NetlinkMessage} :
    (∃ message, m.build order = some message) ↔ m.Fits :=
  exists_buildMessage_iff

end NetlinkMessage

/-- The arguments of `build_attribute`. -/
structure NetlinkAttribute where
  attributeType : ℕ
  value : Octets

namespace NetlinkAttribute

def build (order : ByteOrder) (a : NetlinkAttribute) : Option Octets :=
  buildAttribute order a.attributeType a.value

def Fits (a : NetlinkAttribute) : Prop :=
  4 + a.value.length < 256 ^ 2 ∧ a.attributeType < 256 ^ 2

end NetlinkAttribute

theorem exists_records {α β : Type} {f : RecordFormat} (build : α → Option Octets)
    (pad : Octets → Octets) (read : Record f → β) (fields : α → β) {l : List α}
    (h : ∀ a ∈ l, ∃ octets r, build a = some octets ∧ r.octets = pad octets ∧
      read r = fields a) :
    ∃ (chunks : List Octets) (rs : List (Record f)), l.mapM build = some chunks ∧
      rs.flatMap Record.octets = chunks.flatMap pad ∧ rs.map read = l.map fields := by
  induction l with
  | nil => exact ⟨[], [], rfl, rfl, rfl⟩
  | cons a l ih =>
    obtain ⟨octets, r, hbuild, hoctets, hread⟩ := h a List.mem_cons_self
    obtain ⟨chunks, rs, hchunks, hrest, hfields⟩ := ih fun b hb => h b (List.mem_cons_of_mem _ hb)
    refine ⟨octets :: chunks, r :: rs, ?_, ?_, ?_⟩
    · rw [List.mapM_cons, hbuild, hchunks]
      rfl
    · rw [List.flatMap_cons, List.flatMap_cons, hoctets, hrest]
    · rw [List.map_cons, List.map_cons, hread, hfields]

/-! ### Buffers that are cut -/

theorem iterMessages_take_isPrefix (order : ByteOrder) (data : Octets) (n : ℕ) :
    iterMessages order (data.take n) <+: iterMessages order data := by
  have hlength : (data.take n).length ≤ data.length := List.length_take_le' n data
  rw [iterMessages, iterMessages,
    recordsFrom_eq (data.take n) (n := data.length) (by omega) (by omega)]
  exact (recordsFrom_take_isPrefix data n data.length 0).map _

theorem iterAttributes_take_isPrefix (order : ByteOrder) (payload : Octets) (n offset : ℕ) :
    iterAttributes order (payload.take n) offset <+: iterAttributes order payload offset := by
  have hlength : (payload.take n).length ≤ payload.length := List.length_take_le' n payload
  rw [iterAttributes, iterAttributes,
    recordsFrom_eq (payload.take n) (n := payload.length) (by omega) (by omega)]
  exact (recordsFrom_take_isPrefix payload n payload.length offset).map _

/-! ### Round trips -/

/-- **Messages that are built are read back**, whole or in part. -/
theorem iterMessages_build (order : ByteOrder) {ms : List NetlinkMessage}
    (h : ∀ m ∈ ms, m.Fits) :
    ∃ chunks, ms.mapM (NetlinkMessage.build order) = some chunks ∧
      iterMessages order (chunks.flatMap paddedMessage) =
        ms.map (fun m => (m.messageType, m.body)) ∧
      ∀ n, iterMessages order ((chunks.flatMap paddedMessage).take n) <+:
        ms.map (fun m => (m.messageType, m.body)) := by
  have hrecords : ∀ m ∈ ms, ∃ (octets : Octets) (r : Record (NLMSGHDR order)),
      m.build order = some octets ∧ r.octets = paddedMessage octets ∧
      (nlmsgType order r.header, r.value) = (m.messageType, m.body) := by
    intro m hm
    obtain ⟨message, hmessage⟩ := NetlinkMessage.exists_build_iff.mpr (h m hm)
    obtain ⟨r, _, hoctets, hkind, hvalue⟩ := exists_record_of_buildMessage hmessage
    exact ⟨message, r, hmessage, hoctets, by rw [hkind, hvalue]⟩
  obtain ⟨chunks, rs, hchunks, hoctets, hfields⟩ := exists_records
    (NetlinkMessage.build order) paddedMessage
    (fun r : Record (NLMSGHDR order) => (nlmsgType order r.header, r.value))
    (fun m => (m.messageType, m.body)) hrecords
  have hread := iterMessages_of_isBuffer (isBuffer_flatMap rs)
  rw [hoctets, hfields] at hread
  refine ⟨chunks, hchunks, hread, ?_⟩
  intro n
  rw [← hread]
  exact iterMessages_take_isPrefix order _ n

/-- **Attributes that are built are read back** behind a body's fixed part, whole or in part. -/
theorem iterAttributes_build (order : ByteOrder) (fixed : Octets)
    {attributes : List NetlinkAttribute} (h : ∀ a ∈ attributes, a.Fits) :
    ∃ chunks, attributes.mapM (NetlinkAttribute.build order) = some chunks ∧
      iterAttributes order (fixed ++ chunks.flatten) fixed.length =
        attributes.map (fun a => (a.attributeType, a.value)) ∧
      ∀ n, iterAttributes order ((fixed ++ chunks.flatten).take n) fixed.length <+:
        attributes.map (fun a => (a.attributeType, a.value)) := by
  have hrecords : ∀ a ∈ attributes, ∃ (octets : Octets) (r : Record (RTATTR order)),
      a.build order = some octets ∧ r.octets = id octets ∧
      (rtattrType order r.header, r.value) = (a.attributeType, a.value) := by
    intro a ha
    obtain ⟨octets, hbuild, _⟩ := exists_buildAttribute order a.attributeType a.value
      (h a ha).1 (h a ha).2
    obtain ⟨r, hoctets, hkind, hvalue⟩ := exists_record_of_buildAttribute hbuild
    exact ⟨octets, r, hbuild, hoctets, by rw [hkind, hvalue]⟩
  obtain ⟨chunks, rs, hchunks, hoctets, hfields⟩ := exists_records
    (NetlinkAttribute.build order) id
    (fun r : Record (RTATTR order) => (rtattrType order r.header, r.value))
    (fun a => (a.attributeType, a.value)) hrecords
  have hread := iterAttributes_of_isBuffer (isBuffer_flatMap rs) fixed
  rw [hoctets, hfields, List.flatMap_id] at hread
  refine ⟨chunks, hchunks, hread, ?_⟩
  intro n
  rw [← hread]
  exact iterAttributes_take_isPrefix order _ n fixed.length

/-! ### Messages that are read -/

theorem fits_of_mem_iterMessages {order : ByteOrder} {data : Octets} {message : ℕ × Octets}
    (h : message ∈ iterMessages order data) :
    NetlinkMessage.Fits ⟨message.1, 0, message.2, 0⟩ := by
  obtain ⟨⟨header, payload⟩, hmem, rfl⟩ := List.mem_map.mp h
  obtain ⟨hlength, start, hinside, hheader, -⟩ := liesIn_of_mem_recordsFrom hmem
  have hsize : (slice header 0 4).length ≤ 4 ∧ (slice header 4 6).length ≤ 2 := by
    rw [length_slice, length_slice]
    omega
  have hlt : order.read (slice header 0 4) < 256 ^ 4 :=
    (order.read_lt _).trans_le (Nat.pow_le_pow_right (by decide) hsize.1)
  have hkind : order.read (slice header 4 6) < 256 ^ 2 :=
    (order.read_lt _).trans_le (Nat.pow_le_pow_right (by decide) hsize.2)
  exact ⟨hlength.symm.trans_lt hlt, hkind, by dsimp only; decide, by dsimp only; decide⟩

/-- **Messages that are read one by one are also read of one chunk.** -/
theorem exists_iterMessages_eq (order : ByteOrder) {messages : List (ℕ × Octets)}
    (h : ∀ m ∈ messages, ∃ data, m ∈ iterMessages order data) :
    ∃ data, iterMessages order data = messages := by
  have hfits : ∀ m ∈ messages.map fun m => (⟨m.1, 0, m.2, 0⟩ : NetlinkMessage), m.Fits := by
    intro m hm
    obtain ⟨message, hmessage, rfl⟩ := List.mem_map.mp hm
    obtain ⟨data, hdata⟩ := h message hmessage
    exact fits_of_mem_iterMessages hdata
  obtain ⟨chunks, -, hread, -⟩ := iterMessages_build order hfits
  refine ⟨chunks.flatMap paddedMessage, ?_⟩
  rw [hread, List.map_map]
  exact List.map_id messages

/-! ### Any octets -/

/-- What a walk over a buffer finds: each from a record inside it, whose type its header
says, and so few that every header fits; and more steps find no more. -/
def WalksInside (f : RecordFormat) (kind : Octets → ℕ) (data : Octets) (offset : ℕ)
    (found : List (ℕ × Octets)) : Prop :=
  (∀ item ∈ found, ∃ header, LiesIn f data (header, item.2) ∧ item.1 = kind header) ∧
    found.length * f.size ≤ data.length - offset ∧
    ∀ fuel, data.length ≤ offset + fuel →
      (recordsFrom f data fuel offset).map (fun r => (kind r.1, r.2)) = found

/-- **A walk ends inside its buffer.** -/
theorem walksInside_recordsFrom (f : RecordFormat) (kind : Octets → ℕ) (data : Octets)
    (offset : ℕ) : WalksInside f kind data offset
      ((recordsFrom f data data.length offset).map fun r => (kind r.1, r.2)) := by
  refine ⟨?_, ?_, ?_⟩
  · intro item hitem
    obtain ⟨⟨header, value⟩, hmem, rfl⟩ := List.mem_map.mp hitem
    exact ⟨header, liesIn_of_mem_recordsFrom hmem, rfl⟩
  · rw [List.length_map]
    exact length_recordsFrom_le data data.length offset
  · intro fuel hfuel
    rw [recordsFrom_eq data hfuel (Nat.le_add_left _ _)]

/-- **Framing holds**: what is built is read back, all of it and in order; a buffer that is
cut anywhere reads as the first messages or attributes and nothing else; and on any octets
both walks end and find only what lies inside. -/
theorem netlink_framing (order : ByteOrder) :
    (∀ m : NetlinkMessage, (∃ message, m.build order = some message) ↔ m.Fits) ∧
    (∀ ms : List NetlinkMessage, (∀ m ∈ ms, m.Fits) →
      ∃ chunks, ms.mapM (NetlinkMessage.build order) = some chunks ∧
        iterMessages order (chunks.flatMap paddedMessage) =
          ms.map (fun m => (m.messageType, m.body)) ∧
        ∀ n, iterMessages order ((chunks.flatMap paddedMessage).take n) <+:
          ms.map (fun m => (m.messageType, m.body))) ∧
    (∀ (fixed : Octets) (attributes : List NetlinkAttribute), (∀ a ∈ attributes, a.Fits) →
      ∃ chunks, attributes.mapM (NetlinkAttribute.build order) = some chunks ∧
        iterAttributes order (fixed ++ chunks.flatten) fixed.length =
          attributes.map (fun a => (a.attributeType, a.value)) ∧
        ∀ n, iterAttributes order ((fixed ++ chunks.flatten).take n) fixed.length <+:
          attributes.map (fun a => (a.attributeType, a.value))) ∧
    ∀ data : Octets,
      WalksInside (NLMSGHDR order) (nlmsgType order) data 0 (iterMessages order data) ∧
      ∀ offset, WalksInside (RTATTR order) (rtattrType order) data offset
        (iterAttributes order data offset) := by
  refine ⟨?_, ?_, ?_, ?_⟩
  · intro m
    exact NetlinkMessage.exists_build_iff
  · intro ms h
    exact iterMessages_build order h
  · intro fixed attributes h
    exact iterAttributes_build order fixed h
  · intro data
    refine ⟨walksInside_recordsFrom (NLMSGHDR order) (nlmsgType order) data 0, ?_⟩
    intro offset
    exact walksInside_recordsFrom (RTATTR order) (rtattrType order) data offset

end IPScout
