import IPScout.Dhcp.Replies

/-!
# The option block

The options of a DHCP message are pads, or a code, a length and so many octets; an `END`
closes them.  `_message_type` walks a block by these lengths to the first option 53 that
is not empty (`messageType_optionBlock`).  A body that is cut somewhere names the same type
or none (`messageType_take`).
-/

namespace IPScout

open Base Base.Octets

/-! ### Blocks -/

/-- An option with data: neither a pad nor the end of the block. -/
structure DhcpOption where
  code : UInt8
  data : Octets
  code_ne : code ≠ 0 ∧ code ≠ 255
  length_lt : data.length < 256

/-- One item of a block: an option, or a pad. -/
def itemOctets : Option DhcpOption → Octets
  | none => [0]
  | some o => o.code :: UInt8.ofNat o.data.length :: o.data

/-- A block: its items, `END`, and whatever follows. -/
def optionBlock (items : List (Option DhcpOption)) (rest : Octets) : Octets :=
  items.flatMap itemOctets ++ 255 :: rest

/-- An option that names a message type, or may: option 53 with data. -/
def DhcpOption.isType (o : DhcpOption) : Bool := o.code = 53 ∧ o.data ≠ []

theorem DhcpOption.isType_iff {o : DhcpOption} : o.isType = true ↔ o.code = 53 ∧ o.data ≠ [] :=
  decide_eq_true_iff

/-- What the first such option of a block names. -/
def typeNamed (items : List (Option DhcpOption)) : Option DhcpMessageType :=
  ((items.filterMap id).find? DhcpOption.isType).bind fun o => knownMessageType (o.data.getD 0 0)

/-! ### The walk over a block -/

theorem walkOptions_pad (rest : Octets) : walkOptions 0 (0 :: rest) = walkOptions 0 rest := by
  cases rest with
  | nil => rfl
  | cons x rest => rfl

theorem walkOptions_end (rest : Octets) : walkOptions 0 (255 :: rest) = none := by
  cases rest with
  | nil => rfl
  | cons x rest => rfl

/-- **An option is the type's, or the walk passes over it.** -/
theorem walkOptions_option (o : DhcpOption) (rest : Octets) :
    walkOptions 0 (itemOctets (some o) ++ rest) =
      if o.isType then knownMessageType (o.data.getD 0 0) else walkOptions 0 rest := by
  obtain ⟨code, data, ⟨hpad, hend⟩, hlength⟩ := o
  have hsize : (UInt8.ofNat data.length).toNat = data.length := by
    rw [UInt8.toNat_ofNat', Nat.mod_eq_of_lt (by simpa using hlength)]
  show walkOptions 0 (code :: UInt8.ofNat data.length :: (data ++ rest)) = _
  rw [walkOptions, if_neg hend, if_neg hpad, hsize,
    if_neg (show ¬ (data ++ rest).length < data.length by rw [List.length_append]; omega)]
  by_cases htype : code = 53 ∧ data ≠ []
  · have hpos : 1 ≤ data.length := List.length_pos_iff.mpr htype.2
    rw [if_pos ⟨htype.1, hpos⟩, if_pos (DhcpOption.isType_iff.mpr htype),
      List.getD_append _ _ _ _ hpos]
  · have hshort : ¬ (code = 53 ∧ 1 ≤ data.length) := by
      rintro ⟨hcode, hpos⟩
      exact htype ⟨hcode, List.length_pos_iff.mp hpos⟩
    rw [if_neg hshort, if_neg (fun h => htype (DhcpOption.isType_iff.mp h)),
      walkOptions_skip, List.drop_left]

/-- **The walk over a block finds the first option 53 that is not empty.** -/
theorem walkOptions_optionBlock (items : List (Option DhcpOption)) (rest : Octets) :
    walkOptions 0 (optionBlock items rest) = typeNamed items := by
  induction items with
  | nil => exact walkOptions_end rest
  | cons item items ih =>
    rw [optionBlock, List.flatMap_cons, List.append_assoc, ← optionBlock]
    cases item with
    | none =>
      rw [itemOctets, List.singleton_append, walkOptions_pad, ih]
      rfl
    | some o =>
      rw [walkOptions_option, ih, typeNamed, typeNamed]
      rw [show (some o :: items).filterMap id = o :: items.filterMap id from rfl, List.find?_cons]
      cases o.isType with
      | true => rfl
      | false => rfl

/-! ### Blocks that are cut -/

theorem walkOptions_singleton (code : UInt8) : walkOptions 0 [code] = none := by
  rw [walkOptions]
  split
  · rfl
  · rfl

theorem walkOptions_take_of_lt (code length : UInt8) (data : Octets) {n : ℕ} (h : n < 2) :
    walkOptions 0 ((code :: length :: data).take n) = none := by
  cases n with
  | zero => rfl
  | succ n =>
    obtain rfl : n = 0 := by omega
    rw [List.take_succ_cons, List.take_zero, walkOptions_singleton]

/-- **Octets that are cut name the same type or none.**  By induction along the walk: a cut
inside an option makes it too short, and any other cut leaves the rest of the walk a
shorter one. -/
theorem walkOptions_take (skip : ℕ) (data : Octets) (n : ℕ) :
    walkOptions skip (data.take n) = walkOptions skip data ∨
      walkOptions skip (data.take n) = none := by
  induction skip, data using walkOptions.induct generalizing n with
  | case1 skip =>
    rw [List.take_nil]
    exact Or.inl rfl
  | case2 skip x rest ih =>
    cases n with
    | zero => exact Or.inr rfl
    | succ n => exact ih n
  | case3 =>
    cases n with
    | zero => exact Or.inr rfl
    | succ n => exact Or.inl (by rw [List.take_succ_cons, List.take_nil])
  | case4 code _ =>
    cases n with
    | zero => exact Or.inr rfl
    | succ n => exact Or.inl (by rw [List.take_succ_cons, List.take_nil])
  | case5 length data =>
    cases n with
    | zero => exact Or.inr rfl
    | succ n =>
      rw [List.take_succ_cons, walkOptions_end]
      exact Or.inr rfl
  | case6 length data _ ih =>
    cases n with
    | zero => exact Or.inr rfl
    | succ n =>
      rw [List.take_succ_cons, walkOptions_pad, walkOptions_pad]
      exact ih n
  | case7 code length data hend hpad hshort =>
    rcases Nat.lt_or_ge n 2 with hn | hn
    · exact Or.inr (walkOptions_take_of_lt code length data hn)
    · obtain ⟨n, rfl⟩ := Nat.exists_eq_add_of_le' hn
      have hlength := List.length_take_le n data
      rw [List.take_succ_cons, List.take_succ_cons, walkOptions, if_neg hend, if_neg hpad,
        if_pos (by rw [List.length_take]; omega)]
      exact Or.inr rfl
  | case8 code length data hend hpad hfits htype =>
    rcases Nat.lt_or_ge n 2 with hn | hn
    · exact Or.inr (walkOptions_take_of_lt code length data hn)
    · obtain ⟨n, rfl⟩ := Nat.exists_eq_add_of_le' hn
      rw [List.take_succ_cons, List.take_succ_cons, walkOptions, walkOptions, if_neg hend,
        if_neg hpad, if_neg hend, if_neg hpad, if_neg hfits, if_pos htype]
      by_cases hcut : (data.take n).length < length.toNat
      · rw [if_pos hcut]
        exact Or.inr rfl
      · rw [List.length_take] at hcut
        have hn : 0 < n := by omega
        rw [if_neg (by rw [List.length_take]; exact hcut), if_pos htype,
          List.getD_eq_getElem?_getD, List.getElem?_take_of_lt hn, ← List.getD_eq_getElem?_getD]
        exact Or.inl rfl
  | case9 code length data hend hpad hfits htype ih =>
    rcases Nat.lt_or_ge n 2 with hn | hn
    · exact Or.inr (walkOptions_take_of_lt code length data hn)
    · obtain ⟨n, rfl⟩ := Nat.exists_eq_add_of_le' hn
      rw [List.take_succ_cons, List.take_succ_cons, walkOptions, walkOptions, if_neg hend,
        if_neg hpad, if_neg hend, if_neg hpad, if_neg hfits, if_neg htype]
      by_cases hcut : (data.take n).length < length.toNat
      · rw [if_pos hcut]
        exact Or.inr rfl
      · rw [if_neg hcut, if_neg htype]
        exact ih n

/-- **A body that is cut names the same message type or none.** -/
theorem messageType_take (body : Octets) (n : ℕ) :
    messageType (body.take n) = messageType body ∨ messageType (body.take n) = none := by
  rw [messageType]
  by_cases hcookie : (body.take n).length < cookieEnd ∨
      slice (body.take n) BOOTP_FIXED_SIZE cookieEnd ≠ MAGIC_COOKIE
  · rw [if_pos hcookie]
    exact Or.inr rfl
  · rw [if_neg hcookie, messageType]
    rw [not_or, not_lt, not_not, List.length_take] at hcookie
    obtain ⟨hlength, hmagic⟩ := hcookie
    rw [slice_take (by omega)] at hmagic
    rw [if_neg (by rw [not_or, not_lt, not_not]; exact ⟨by omega, hmagic⟩), List.drop_take]
    exact walkOptions_take 0 (body.drop cookieEnd) (n - cookieEnd)

/-! ### Bodies -/

/-- A DHCP message: the fixed header, the cookie, and a block of options. -/
def dhcpBody (header : Octets) (items : List (Option DhcpOption)) (rest : Octets) : Octets :=
  header ++ MAGIC_COOKIE ++ optionBlock items rest

/-- **A whole body names what its first option 53 with data says.** -/
theorem messageType_dhcpBody {header : Octets} (h : header.length = BOOTP_FIXED_SIZE)
    (items : List (Option DhcpOption)) (rest : Octets) :
    messageType (dhcpBody header items rest) = typeNamed items := by
  have hfront : (header ++ MAGIC_COOKIE).length = cookieEnd := by
    rw [List.length_append, h, cookieEnd]
  have hmagic : slice (dhcpBody header items rest) BOOTP_FIXED_SIZE cookieEnd = MAGIC_COOKIE := by
    rw [dhcpBody, List.append_assoc]
    exact slice_append_append h rfl
  rw [messageType, hmagic, if_neg]
  · rw [dhcpBody, ← hfront, List.drop_left]
    exact walkOptions_optionBlock items rest
  · rw [not_or, not_not, dhcpBody, List.length_append, hfront]
    exact ⟨by omega, rfl⟩

/-- **The message type of a body**: of the first option 53 that is not empty, whatever the
other items are; a cut leaves that or nothing; and on any octets the walk ends. -/
theorem message_type_spec :
    (∀ (header : Octets) (items : List (Option DhcpOption)) (rest : Octets),
      header.length = BOOTP_FIXED_SIZE →
      messageType (dhcpBody header items rest) = typeNamed items ∧
      ∀ n, messageType ((dhcpBody header items rest).take n) = typeNamed items ∨
        messageType ((dhcpBody header items rest).take n) = none) ∧
    ∀ (body : Octets) (fuel : ℕ), body.length < fuel →
      messageTypeAt fuel body = .ok (messageType body) := by
  refine ⟨?_, ?_⟩
  · intro header items rest h
    have hwhole := messageType_dhcpBody h items rest
    refine ⟨hwhole, ?_⟩
    intro n
    rw [← hwhole]
    exact messageType_take _ n
  · intro body fuel h
    exact messageTypeAt_eq h

end IPScout
