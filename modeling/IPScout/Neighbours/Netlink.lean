import IPScout.Base.Records
import IPScout.Routes.Message
import Mathlib.Algebra.Ring.Int.Defs

/-!
# Netlink messages

`netlink.py`: a chunk read from a netlink socket is a list of messages, and a message
body ends in a list of attributes.  Both are aligned records, a header that begins with the
length and goes on with a type, so one walk serves both; a host writes the fields in its
own order of octets.

What `build_message` and `build_attribute` write are such records
(`exists_record_of_buildMessage`, `exists_record_of_buildAttribute`).
-/

namespace IPScout

open Base Base.Octets

/-! ### Fields -/

/-- The order of the octets in a field of the host. -/
inductive ByteOrder
  | little
  | big
  deriving DecidableEq

namespace ByteOrder

def read : ByteOrder → Octets → ℕ
  | little => littleEndian
  | big => bigEndian

/-- The field of `count` octets that holds a number, as far as it is wide enough. -/
def pack : ByteOrder → ℕ → ℕ → Octets
  | little => packedLittle
  | big => packedNat

/-- An unsigned field as `struct` packs it; `none` is its `struct.error`. -/
def field (order : ByteOrder) (count n : ℕ) : Option Octets :=
  if n < 256 ^ count then some (order.pack count n) else none

def signedField (order : ByteOrder) (i : ℤ) : Option Octets :=
  if -2 ^ 31 ≤ i ∧ i < 2 ^ 31 then some (order.pack 4 (BitVec.ofInt 32 i).toNat) else none

theorem length_pack (order : ByteOrder) (count n : ℕ) : (order.pack count n).length = count := by
  cases order with
  | little => exact length_packedLittle count n
  | big => exact length_packedNat count n

theorem read_pack (order : ByteOrder) {count n : ℕ} (h : n < 256 ^ count) :
    order.read (order.pack count n) = n := by
  cases order with
  | little => exact (littleEndian_packedLittle count n).trans (Nat.mod_eq_of_lt h)
  | big => exact (bigEndian_packedNat count n).trans (Nat.mod_eq_of_lt h)

theorem read_lt (order : ByteOrder) (b : Octets) : order.read b < 256 ^ b.length := by
  cases order with
  | little =>
    have hlt := bigEndian_lt b.reverse
    rwa [List.length_reverse] at hlt
  | big => exact bigEndian_lt b

theorem field_eq_some {order : ByteOrder} {count n : ℕ} {octets : Octets}
    (h : order.field count n = some octets) : n < 256 ^ count ∧ octets = order.pack count n := by
  rw [field] at h
  split at h
  · next hlt => exact ⟨hlt, (Option.some.inj h).symm⟩
  · simp at h

theorem field_of_lt (order : ByteOrder) {count n : ℕ} (h : n < 256 ^ count) :
    order.field count n = some (order.pack count n) := if_pos h

end ByteOrder

/-! ### Messages and attributes -/

/-- `struct nlmsghdr`: length, type, flags, sequence, port id. -/
def NLMSGHDR (order : ByteOrder) : RecordFormat where
  size := 16
  lengthOf header := order.read (slice header 0 4)
  size_pos := by decide

/-- `struct rtattr`: length, type. -/
def RTATTR (order : ByteOrder) : RecordFormat where
  size := 4
  lengthOf header := order.read (slice header 0 2)
  size_pos := by omega

def nlmsgType (order : ByteOrder) (header : Octets) : ℕ := order.read (slice header 4 6)

def rtattrType (order : ByteOrder) (header : Octets) : ℕ := order.read (slice header 2 4)

def iterMessages (order : ByteOrder) (data : Octets) : List (ℕ × Octets) :=
  (recordsFrom (NLMSGHDR order) data data.length 0).map
    fun (header, payload) => (nlmsgType order header, payload)

def iterAttributes (order : ByteOrder) (payload : Octets) (offset : ℕ) : List (ℕ × Octets) :=
  (recordsFrom (RTATTR order) payload payload.length offset).map
    fun (header, value) => (rtattrType order header, value)

def buildMessage (order : ByteOrder) (messageType flags : ℕ) (body : Octets) (sequence : ℕ) :
    Option Octets := do
  let length ← order.field 4 ((NLMSGHDR order).size + body.length)
  let kind ← order.field 2 messageType
  let flags ← order.field 2 flags
  let sequence ← order.field 4 sequence
  let pid ← order.field 4 0
  some (length ++ (kind ++ (flags ++ (sequence ++ pid))) ++ body)

/-- A message as it stands before another one, padded to the alignment. -/
def paddedMessage (message : Octets) : Octets :=
  message ++ List.replicate (aligned message.length - message.length) 0

def buildAttribute (order : ByteOrder) (attributeType : ℕ) (value : Octets) : Option Octets := do
  let length := (RTATTR order).size + value.length
  let field ← order.field 2 length
  let kind ← order.field 2 attributeType
  some (field ++ kind ++ (value ++ List.replicate (aligned length - length) 0))

/-! ### What is found -/

theorem iterMessages_of_isBuffer {order : ByteOrder} {ms : List (Record (NLMSGHDR order))}
    {data : Octets} (h : IsBuffer ms data) :
    iterMessages order data = ms.map fun m => (nlmsgType order m.header, m.value) := by
  have hfound := recordsFrom_of_isBuffer h [] le_rfl
  rw [List.nil_append, List.length_nil] at hfound
  rw [iterMessages, hfound, List.map_map]
  rfl

theorem iterAttributes_of_isBuffer {order : ByteOrder} {attributes : List (Record (RTATTR order))}
    {data : Octets} (h : IsBuffer attributes data) (fixed : Octets) :
    iterAttributes order (fixed ++ data) fixed.length =
      attributes.map fun a => (rtattrType order a.header, a.value) := by
  rw [iterAttributes, recordsFrom_of_isBuffer h fixed
    (by rw [List.length_append]; exact Nat.le_add_left _ _), List.map_map]
  rfl

/-! ### What is written -/

theorem slice_header {length kind : Octets} {n m : ℕ} (hlength : length.length = n)
    (hkind : n + kind.length = m) (rest : Octets) :
    slice (length ++ (kind ++ rest)) 0 n = length ∧ slice (length ++ (kind ++ rest)) n m = kind := by
  constructor
  · exact slice_append_zero hlength _
  · exact slice_append_append hlength hkind

/-- **A message that is built is a record** of its type, with its body. -/
theorem exists_record_of_buildMessage {order : ByteOrder} {kind flags sequence : ℕ}
    {body message : Octets} (h : buildMessage order kind flags body sequence = some message) :
    ∃ m : Record (NLMSGHDR order), IsBuffer [m] message ∧ m.octets = paddedMessage message ∧
      nlmsgType order m.header = kind ∧ m.value = body := by
  simp only [buildMessage, Option.bind_eq_bind, Option.bind_eq_some_iff, Option.some.injEq] at h
  obtain ⟨_, hlength, _, hkind, _, hflags, _, hsequence, _, hpid, rfl⟩ := h
  obtain ⟨hfits, rfl⟩ := ByteOrder.field_eq_some hlength
  obtain ⟨hfits', rfl⟩ := ByteOrder.field_eq_some hkind
  obtain ⟨-, rfl⟩ := ByteOrder.field_eq_some hflags
  obtain ⟨-, rfl⟩ := ByteOrder.field_eq_some hsequence
  obtain ⟨-, rfl⟩ := ByteOrder.field_eq_some hpid
  obtain ⟨hslice, hslice'⟩ := slice_header
    (order.length_pack 4 ((NLMSGHDR order).size + body.length))
    (congrArg (4 + ·) (order.length_pack 2 kind))
    (order.pack 2 flags ++ (order.pack 4 sequence ++ order.pack 4 0))
  generalize hheader : order.pack 4 ((NLMSGHDR order).size + body.length) ++
    (order.pack 2 kind ++ (order.pack 2 flags ++ (order.pack 4 sequence ++ order.pack 4 0))) =
      header at hslice hslice' ⊢
  have hheaderLength : header.length = (NLMSGHDR order).size := by
    rw [← hheader]
    simp only [List.length_append, ByteOrder.length_pack]
    rfl
  have hlengthOf : (NLMSGHDR order).lengthOf header = (NLMSGHDR order).size + body.length :=
    (congrArg order.read hslice).trans (order.read_pack hfits)
  have hbuffer := IsBuffer.last (.ofValue header body hheaderLength hlengthOf) 0
  rw [List.take_zero, List.append_nil] at hbuffer
  refine ⟨_, hbuffer, ?_, (congrArg order.read hslice').trans (order.read_pack hfits'), rfl⟩
  rw [paddedMessage, List.length_append, hheaderLength, List.append_assoc]
  rfl

theorem iterMessages_buildMessage {order : ByteOrder} {kind flags sequence : ℕ}
    {body message : Octets} (h : buildMessage order kind flags body sequence = some message) :
    iterMessages order message = [(kind, body)] := by
  obtain ⟨m, hbuffer, _, hkind, hvalue⟩ := exists_record_of_buildMessage h
  rw [iterMessages_of_isBuffer hbuffer, List.map_singleton, hkind, hvalue]

theorem exists_buildMessage_iff {order : ByteOrder} {kind flags sequence : ℕ} {body : Octets} :
    (∃ message, buildMessage order kind flags body sequence = some message) ↔
      (NLMSGHDR order).size + body.length < 256 ^ 4 ∧ kind < 256 ^ 2 ∧ flags < 256 ^ 2 ∧
        sequence < 256 ^ 4 := by
  constructor
  · rintro ⟨message, h⟩
    simp only [buildMessage, Option.bind_eq_bind, Option.bind_eq_some_iff] at h
    obtain ⟨_, hlength, _, hkind, _, hflags, _, hsequence, _⟩ := h
    exact ⟨(ByteOrder.field_eq_some hlength).1, (ByteOrder.field_eq_some hkind).1,
      (ByteOrder.field_eq_some hflags).1, (ByteOrder.field_eq_some hsequence).1⟩
  · rintro ⟨hlength, hkind, hflags, hsequence⟩
    rw [buildMessage, order.field_of_lt hlength, order.field_of_lt hkind, order.field_of_lt hflags,
      order.field_of_lt hsequence, order.field_of_lt (show 0 < 256 ^ 4 by decide)]
    exact ⟨_, rfl⟩

/-- **An attribute that is built is a record** of its type, with its value. -/
theorem exists_record_of_buildAttribute {order : ByteOrder} {kind : ℕ} {value octets : Octets}
    (h : buildAttribute order kind value = some octets) :
    ∃ a : Record (RTATTR order), a.octets = octets ∧ rtattrType order a.header = kind ∧
      a.value = value := by
  simp only [buildAttribute, Option.bind_eq_bind, Option.bind_eq_some_iff,
    Option.some.injEq] at h
  obtain ⟨_, hlength, _, hkind, rfl⟩ := h
  obtain ⟨hfits, rfl⟩ := ByteOrder.field_eq_some hlength
  obtain ⟨hfits', rfl⟩ := ByteOrder.field_eq_some hkind
  obtain ⟨hslice, hslice'⟩ := slice_header
    (order.length_pack 2 ((RTATTR order).size + value.length))
    (congrArg (2 + ·) (order.length_pack 2 kind)) []
  rw [List.append_nil] at hslice hslice'
  have hheaderLength : (order.pack 2 ((RTATTR order).size + value.length) ++
      order.pack 2 kind).length = (RTATTR order).size := by
    rw [List.length_append, ByteOrder.length_pack, ByteOrder.length_pack]
    rfl
  exact ⟨.ofValue _ value hheaderLength ((congrArg order.read hslice).trans
    (order.read_pack hfits)), rfl, (congrArg order.read hslice').trans (order.read_pack hfits'),
    rfl⟩

theorem exists_buildAttribute (order : ByteOrder) (kind : ℕ) (value : Octets)
    (hvalue : 4 + value.length < 256 ^ 2) (hkind : kind < 256 ^ 2) :
    ∃ octets, buildAttribute order kind value = some octets ∧
      octets.length = aligned (4 + value.length) := by
  have hlength : (RTATTR order).size + value.length < 256 ^ 2 := hvalue
  simp only [buildAttribute, order.field_of_lt hlength, order.field_of_lt hkind]
  refine ⟨_, rfl, ?_⟩
  have hle := le_aligned (4 + value.length)
  simp only [List.length_append, List.length_replicate, ByteOrder.length_pack, RTATTR]
  omega

end IPScout
