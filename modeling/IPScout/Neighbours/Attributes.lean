import IPScout.Neighbours.Dump

/-!
# Attributes that do not decode

`_read_address_attributes` keeps the last destination that is an address.  Of the hardware
addresses it keeps what the last one decodes to, so one that does not decode erases those
before it: what is read is the last of each kind that decodes if and only if no hardware
address is erased (`readAddressAttributes_right_iff`).
-/

namespace IPScout

open Base Base.Octets Base.Text

/-! ### The last that decodes -/

section Last

variable {α β : Type} (decode : α → Option β)

/-- What the last value that decodes is decoded to. -/
def lastDecoded (values : List α) : Option β := (values.filterMap decode).getLast?

theorem lastDecoded_concat (values : List α) (a : α) :
    lastDecoded decode (values ++ [a]) = (decode a).or (lastDecoded decode values) := by
  rw [lastDecoded, lastDecoded, List.filterMap_append]
  cases h : decode a with
  | none => simp [h]
  | some b => simp [h]

/-- A loop that overwrites only what decodes keeps the last value that does. -/
theorem foldl_or_eq_lastDecoded (values : List α) (start : Option β) :
    values.foldl (fun kept a => (decode a).or kept) start =
      (lastDecoded decode values).or start := by
  induction values using List.reverseRecOn with
  | nil => rfl
  | append_singleton values a ih =>
    rw [List.foldl_append, List.foldl_cons, List.foldl_nil, ih, lastDecoded_concat,
      Option.or_assoc]

/-- **A loop that overwrites always is right exactly when the last value decodes**, or
none does. -/
theorem foldl_eq_lastDecoded_iff (values : List α) :
    values.foldl (fun _ a => decode a) none = lastDecoded decode values ↔
      (∀ a, values.getLast? = some a → decode a ≠ none) ∨ ∀ a ∈ values, decode a = none := by
  have hnone : lastDecoded decode values = none ↔ ∀ a ∈ values, decode a = none := by
    rw [lastDecoded, List.getLast?_eq_none_iff, List.filterMap_eq_nil_iff]
  induction values using List.reverseRecOn with
  | nil => simp [lastDecoded]
  | append_singleton values a _ =>
    rw [List.foldl_append, List.foldl_cons, List.foldl_nil, List.getLast?_concat]
    cases hdecode : decode a with
    | none =>
      rw [eq_comm, hnone]
      constructor
      · intro hall
        exact Or.inr hall
      · rintro (hlast | hall)
        · exact absurd hdecode (hlast a rfl)
        · exact hall
    | some b =>
      rw [lastDecoded_concat, hdecode]
      refine iff_of_true rfl (Or.inl ?_)
      intro a' ha'
      rw [← Option.some.inj ha', hdecode]
      simp

end Last

/-! ### The attributes of an entry -/

/-- The text of a destination, where it has the length of an address of the family. -/
def destinationText (family : AddressFamily) (value : Octets) : Option Text :=
  if value.length = family.packedSize then some (inetNtop family value) else none

/-- What an entry's attributes are to be read as: of each kind the last that decodes. -/
def decodedAddresses (family : AddressFamily) (attributes : List (ℕ × Octets)) :
    EntryAddresses where
  ip := lastDecoded (destinationText family) (valuesOf NDA_DST attributes)
  mac := lastDecoded formatMac (valuesOf NDA_LLADDR attributes)

/-- The last hardware address decodes, or none does. -/
def LastLinkDecodes (attributes : List (ℕ × Octets)) : Prop :=
  (∀ value, (valuesOf NDA_LLADDR attributes).getLast? = some value → formatMac value ≠ none) ∨
    ∀ value ∈ valuesOf NDA_LLADDR attributes, formatMac value = none

/-- **The destination read is the last that is an address.** -/
theorem readAddressAttributes_ip (order : ByteOrder) (payload : Octets)
    (family : AddressFamily) : (readAddressAttributes order payload family).ip =
      (decodedAddresses family (iterAttributes order payload NDMSG_SIZE)).ip := by
  have hkeep : (fun (ip : Option Text) (value : Octets) =>
      if value.length = family.packedSize then some (inetNtop family value) else ip) =
      fun ip value => (destinationText family value).or ip := by
    funext ip value
    rw [destinationText]
    split <;> rfl
  rw [readAddressAttributes, foldl_read_ip, hkeep, foldl_or_eq_lastDecoded, Option.or_none]
  rfl

/-- **What is read is the last of each kind that decodes exactly when the last hardware
address decodes**, or none does. -/
theorem readAddressAttributes_right_iff (order : ByteOrder) (payload : Octets)
    (family : AddressFamily) :
    readAddressAttributes order payload family =
        decodedAddresses family (iterAttributes order payload NDMSG_SIZE) ↔
      LastLinkDecodes (iterAttributes order payload NDMSG_SIZE) := by
  rw [EntryAddresses.ext_iff, readAddressAttributes_ip]
  rw [readAddressAttributes, foldl_read_mac, LastLinkDecodes, ← foldl_eq_lastDecoded_iff]
  exact ⟨fun h => h.2, fun h => ⟨rfl, h⟩⟩

/-- An entry with the hardware address `02:00:5e:10:00:01` and then one of zeros. -/
def erasingPayload : Octets :=
  List.replicate 12 0 ++ [10, 0, 2, 0, 0x02, 0x00, 0x5e, 0x10, 0x00, 0x01, 0, 0] ++
    [10, 0, 2, 0, 0, 0, 0, 0, 0, 0, 0, 0]

/-- **A hardware address that does not decode erases one that did.** -/
theorem erasingPayload_erases :
    (decodedAddresses .IPV4 (iterAttributes .little erasingPayload NDMSG_SIZE)).mac =
        some "02:00:5e:10:00:01".toList ∧
      (readAddressAttributes .little erasingPayload .IPV4).mac = none := by
  refine ⟨?_, ?_⟩
  · decide
  · decide

end IPScout
