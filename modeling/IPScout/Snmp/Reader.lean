import IPScout.Snmp.Messages

/-!
# The reader by positions

`_Reader` of `snmpber.py` keeps the data and a position in it, and reads `data[i]`
where the models of `Ber.lean` take octets off a list.  Here every index is one that
can miss: `octetAt` raises the `IndexError` of the language, and the loop over the
bindings, which ends when the position is the length of the data, runs on fuel.

`parseAt_eq` says that neither ever shows: with fuel for every octet, a message read
by positions is the one `parseMessage` reads, and what is raised is its `BerError`.
-/

namespace IPScout.Ber

open Base Base.Octets Base.Text

/-- What ends a read: a `BerError` and its text, an `IndexError`, or no more fuel. -/
inductive ReadError
  | berError (text : Message)
  | indexError
  | outOfFuel

structure Reader where
  data : Octets
  position : Nat

/-- `sequence[i]`. -/
def itemAt {α : Type} (items : List α) (i : Nat) : Except ReadError α :=
  match items[i]? with
  | some x => .ok x
  | none => .error .indexError

namespace Reader

def atEnd (r : Reader) : Bool := r.position == r.data.length

/-- `_long_length`: the length, and where the content starts. -/
def longLengthAt (r : Reader) (octets start : Nat) : Except ReadError (Nat × Nat) :=
  if octets = 0 then .error (.berError [say "indefinite length, which SNMP never sends"])
  else if MAX_LENGTH_OCTETS < octets then
    .error (.berError [say "length field of ", .text (decimal octets), say " octets"])
  else if r.data.length < start + octets then
    .error (.berError [say "length field runs past the end"])
  else .ok (bigEndian (slice r.data start (start + octets)), start + octets)

/-- The length of an element, and where its content starts. -/
def lengthAt (r : Reader) (size : UInt8) (start : Nat) : Except ReadError (Nat × Nat) :=
  if size.toNat < LONG_FORM then .ok (size.toNat, start)
  else r.longLengthAt (size.toNat - LONG_FORM) start

/-- `next`: an element's tag and content, and the reader after it. -/
def next (r : Reader) : Except ReadError (UInt8 × Octets × Reader) :=
  if r.data.length < r.position + 2 then
    .error (.berError [say "element header runs past the end"])
  else do
    let tag ← itemAt r.data r.position
    let size ← itemAt r.data (r.position + 1)
    let (size, start) ← r.lengthAt size (r.position + 2)
    if r.data.length < start + size then
      .error (.berError [say "element runs past the end of its parent"])
    else .ok (tag, slice r.data start (start + size), ⟨r.data, start + size⟩)

/-- `expect`. -/
def expectTag (r : Reader) (tag : UInt8) (what : String) : Except ReadError (Octets × Reader) :=
  if r.atEnd then .error (.berError [say (what ++ ": missing")])
  else do
    let (found, body, r) ← r.next
    if found ≠ tag then
      .error (.berError [say (what ++ ": expected tag 0x"), .text (hexOctet tag), say ", found 0x",
        .text (hexOctet found)])
    else .ok (body, r)

def integer (r : Reader) (what : String) : Except ReadError (ℤ × Reader) := do
  let (body, r) ← r.expectTag INTEGER what
  if ¬ (1 ≤ body.length ∧ body.length ≤ MAX_INTEGER_OCTETS) then
    .error (.berError [say (what ++ ": an INTEGER of "), .text (decimal body.length),
      say " octets"])
  else .ok (signedBigEndian body, r)

/-- `finish`. -/
def finished (r : Reader) (what : String) : Except ReadError Unit :=
  if r.atEnd then .ok () else .error (.berError [say ("bytes after the " ++ what)])

end Reader

/-- `decode_oid`: the last octet is `body[-1]`, the first number `numbers[0]`. -/
def decodeOidAt (body : Octets) : Except ReadError Text :=
  if body = [] then .error (.berError [say "empty object identifier"])
  else do
    let last ← itemAt body (body.length - 1)
    if LONG_FORM ≤ last.toNat then
      .error (.berError [say "object identifier ends inside a sub-identifier"])
    else
      let numbers ← (subIdentifiers [] 0 true body).mapError .berError
      let first ← itemAt numbers 0
      let head := min (first / ARCS_PER_ROOT) LAST_ROOT_ARC
      .ok (['.'].intercalate
        ((head :: (first - ARCS_PER_ROOT * head) :: numbers.drop 1).map decimal))

def bindingAt (body : Octets) : Except ReadError VarBind := do
  let (name, r) ← (Reader.mk body 0).expectTag OBJECT_IDENTIFIER "variable binding name"
  let oid ← decodeOidAt name
  let (tag, value, r) ← r.next
  if r.atEnd = false then
    .error (.berError [say "a variable binding holds more than a name and a value"])
  else .ok ⟨oid, tag, value⟩

/-- `_bindings`: the loop, so many turns at most. -/
def bindingsAt : Nat → Reader → Except ReadError (List VarBind)
  | 0, _ => .error .outOfFuel
  | fuel + 1, r =>
    if r.atEnd then .ok []
    else do
      let (first, r) ← r.expectTag SEQUENCE "variable binding"
      let bind ← bindingAt first
      let more ← bindingsAt fuel r
      .ok (bind :: more)

def pduAt (fuel : Nat) (body : Octets) : Except ReadError (ℤ × ℤ × ℤ × List VarBind) := do
  let (requestId, r) ← (Reader.mk body 0).integer "request id"
  let (errorStatus, r) ← r.integer "error status"
  let (errorIndex, r) ← r.integer "error index"
  let (list, r) ← r.expectTag SEQUENCE "variable bindings"
  let found ← bindingsAt fuel ⟨list, 0⟩
  r.finished "variable bindings"
  .ok (requestId, errorStatus, errorIndex, found)

/-- `parse_message`. -/
def parseAt (fuel : Nat) (data : Octets) : Except ReadError SnmpMessage := do
  let (message, r) ← (Reader.mk data 0).expectTag SEQUENCE "message"
  r.finished "message"
  let (version, r) ← (Reader.mk message 0).integer "version"
  let (community, r) ← r.expectTag OCTET_STRING "community"
  if r.atEnd then .error (.berError [say "pdu: missing"])
  else
    let (tag, body, r) ← r.next
    r.finished "pdu"
    let (requestId, errorStatus, errorIndex, found) ← pduAt fuel body
    .ok ⟨version, community, tag, requestId, errorStatus, errorIndex, found⟩

/-! ### Positions inside the data -/

/-- A reader inside its data has so much left. -/
def Reader.Left (r : Reader) (rest : Octets) : Prop :=
  r.position ≤ r.data.length ∧ r.data.drop r.position = rest

namespace Reader

theorem left_start (data : Octets) : (Reader.mk data 0).Left data := ⟨Nat.zero_le _, rfl⟩

theorem atEnd_iff {r : Reader} {rest : Octets} (h : r.Left rest) :
    r.atEnd = true ↔ rest = [] := by
  obtain ⟨hinside, rfl⟩ := h
  rw [atEnd, beq_iff_eq, List.drop_eq_nil_iff]
  omega

theorem itemAt_of_left {r : Reader} {rest : Octets} (h : r.Left rest) {i : Nat}
    {x : UInt8} (hx : rest[i]? = some x) : itemAt r.data (r.position + i) = .ok x := by
  obtain ⟨_, rfl⟩ := h
  rw [List.getElem?_drop] at hx
  rw [itemAt, hx]

theorem slice_eq_take_drop (data : Octets) (start size : Nat) :
    slice data start (start + size) = (data.drop start).take size := by
  rw [slice, List.drop_take, Nat.add_sub_cancel_left]

/-- A length read by positions is the one taken off the list. -/
theorem lengthAt_refines {r : Reader} {size : UInt8} {start : Nat} {rest : Octets}
    (hstart : start ≤ r.data.length) (hrest : r.data.drop start = rest) :
    Refines .berError (fun (a : Nat × Nat) (b : Nat × Octets) => a.1 = b.1 ∧
      a.2 ≤ r.data.length ∧ r.data.drop a.2 = b.2) (r.lengthAt size start)
      (elementLength size rest) := by
  have hlength : rest.length = r.data.length - start := by rw [← hrest, List.length_drop]
  rw [lengthAt, elementLength]
  split
  · exact .ok ⟨rfl, hstart, hrest⟩
  · rw [longLengthAt, longLength]
    split
    · exact .error _
    · split
      · exact .error _
      · by_cases hlen : rest.length < size.toNat - LONG_FORM
        · rw [if_pos (show r.data.length < start + (size.toNat - LONG_FORM) by omega),
            if_pos hlen]
          exact .error _
        · rw [if_neg (show ¬ r.data.length < start + (size.toNat - LONG_FORM) by omega),
            if_neg hlen]
          refine .ok ⟨?_, ?_, ?_⟩
          · rw [slice_eq_take_drop, hrest]
          · show start + (size.toNat - LONG_FORM) ≤ r.data.length
            omega
          · show r.data.drop (start + (size.toNat - LONG_FORM)) = _
            rw [← List.drop_drop, hrest]

/-- An element read by positions is the one taken off the list, and an index never
misses. -/
theorem next_refines {r : Reader} {rest : Octets} (h : r.Left rest) :
    Refines .berError (fun (a : UInt8 × Octets × Reader) (b : Element) => a.1 = b.tag ∧
      a.2.1 = b.body ∧ a.2.2.Left b.rest) r.next (nextElement rest) := by
  have hlength : rest.length = r.data.length - r.position := by rw [← h.2, List.length_drop]
  have hinside := h.1
  rw [next]
  rcases rest with _ | ⟨tag, _ | ⟨size, rest⟩⟩
  · rw [List.length_nil] at hlength
    rw [if_pos (by omega)]
    exact .error _
  · rw [List.length_singleton] at hlength
    rw [if_pos (by omega)]
    exact .error _
  · rw [List.length_cons, List.length_cons] at hlength
    have htag : itemAt r.data r.position = .ok tag := itemAt_of_left h (i := 0) rfl
    have hsize : itemAt r.data (r.position + 1) = .ok size := itemAt_of_left h rfl
    have hdrop : r.data.drop (r.position + 2) = rest := by
      rw [← List.drop_drop, h.2]
      rfl
    have hread := @lengthAt_refines r size (r.position + 2) rest (by omega) hdrop
    rw [if_neg (by omega), htag, hsize, nextElement]
    show Refines _ _ (r.lengthAt size (r.position + 2) >>= _) _
    revert hread
    generalize r.lengthAt size (r.position + 2) = x
    generalize elementLength size rest = y
    intro hread
    cases hread with
    | error e => exact .error e
    | @ok a b hab =>
      obtain ⟨n, start⟩ := a
      obtain ⟨n', after⟩ := b
      obtain ⟨hn, hstart, hafter⟩ := hab
      dsimp only at hn hstart hafter
      subst hn
      have hlen : after.length = r.data.length - start := by rw [← hafter, List.length_drop]
      show Refines _ _ (if r.data.length < start + n then _ else _)
        (if after.length < n then _ else _)
      by_cases hlt : after.length < n
      · rw [if_pos hlt, if_pos (by omega)]
        exact .error _
      · rw [if_neg hlt, if_neg (by omega)]
        refine .ok ⟨rfl, ?_, ?_, ?_⟩
        · rw [slice_eq_take_drop, hafter]
        · show start + n ≤ r.data.length
          omega
        · show r.data.drop (start + n) = after.drop n
          rw [← List.drop_drop, hafter]

theorem expectTag_refines {r : Reader} {rest : Octets} (h : r.Left rest) (tag : UInt8)
    (what : String) :
    Refines .berError (fun (a : Octets × Reader) (b : Octets × Octets) => a.1 = b.1 ∧ a.2.Left b.2)
      (r.expectTag tag what) (expect tag what rest) := by
  rw [expectTag, expect]
  by_cases hrest : rest = []
  · rw [if_pos ((atEnd_iff h).mpr hrest), if_pos hrest]
    exact .error _
  · rw [if_neg (fun hend => hrest ((atEnd_iff h).mp hend)), if_neg hrest]
    have hread := next_refines h
    revert hread
    generalize r.next = x
    generalize nextElement rest = y
    intro hread
    cases hread with
    | error e => exact .error e
    | @ok a b hab =>
      obtain ⟨found, body, left⟩ := a
      obtain ⟨htag, hbody, hleft⟩ := hab
      dsimp only at htag hbody hleft
      show Refines _ _ (if found ≠ tag then _ else _) (if b.tag ≠ tag then _ else _)
      rw [htag]
      split
      · exact .error _
      · exact .ok ⟨hbody, hleft⟩

theorem integer_refines {r : Reader} {rest : Octets} (h : r.Left rest) (what : String) :
    Refines .berError (fun (a : ℤ × Reader) (b : ℤ × Octets) => a.1 = b.1 ∧ a.2.Left b.2)
      (r.integer what) (expectInteger what rest) := by
  have hread := expectTag_refines h INTEGER what
  rw [integer, expectInteger]
  revert hread
  generalize r.expectTag INTEGER what = x
  generalize expect INTEGER what rest = y
  intro hread
  cases hread with
  | error e => exact .error e
  | @ok a b hab =>
    obtain ⟨body, left⟩ := a
    obtain ⟨body', rest'⟩ := b
    obtain ⟨hbody, hleft⟩ := hab
    dsimp only at hbody hleft
    subst hbody
    show Refines _ _ (if _ then _ else _) (if _ then _ else _)
    split
    · exact .error _
    · exact .ok ⟨rfl, hleft⟩

theorem finished_refines {r : Reader} {rest : Octets} (h : r.Left rest) (what : String) :
    Refines .berError (fun _ _ => True) (r.finished what) (finish what rest) := by
  rw [finished, finish]
  by_cases hrest : rest = []
  · rw [if_pos ((atEnd_iff h).mpr hrest), if_pos hrest]
    exact .ok trivial
  · rw [if_neg (fun hend => hrest ((atEnd_iff h).mp hend)), if_neg hrest]
    exact .error _

end Reader

/-! ### Messages by positions -/

theorem subIdentifiers_ne_nil {body : Octets} {last : UInt8} (hlast : body.getLast? = some last)
    (hend : last.toNat < LONG_FORM) : subIdentifiers [] 0 true body ≠ .ok [] := by
  intro h
  have hends : ∀ x, body.getLast? = some x → x.toNat < LONG_FORM := by
    intro x hx
    rw [hlast] at hx
    rwa [← Option.some.inj hx]
  obtain ⟨_, _, more, hmore, hoctets⟩ := subIdentifiers_ok h (by simp) ⟨by simp, by simp⟩ hends
    (fun _ => rfl)
  rw [List.nil_append] at hmore
  rw [← hmore, base128From_zero, List.nil_append, List.flatMap_nil] at hoctets
  rw [hoctets] at hlast
  simp at hlast

/-- The two indexes of `decode_oid` never miss. -/
theorem decodeOidAt_refines (body : Octets) :
    Refines .berError Eq (decodeOidAt body) (decodeOid body) := by
  unfold decodeOid
  rw [decodeOidAt]
  cases hlast : body.getLast? with
  | none =>
    rw [if_pos (List.getLast?_eq_none_iff.mp hlast)]
    exact .error _
  | some last =>
    have hne : body ≠ [] := by
      rintro rfl
      simp at hlast
    have hitem : itemAt body (body.length - 1) = .ok last := by
      rw [List.getLast?_eq_getElem?] at hlast
      rw [itemAt, hlast]
    rw [if_neg hne, hitem]
    show Refines _ _ (if LONG_FORM ≤ last.toNat then _ else _) _
    dsimp only
    by_cases hend : LONG_FORM ≤ last.toNat
    · rw [if_pos hend, if_pos hend]
      exact .error _
    · rw [if_neg hend, if_neg hend]
      have hsome := subIdentifiers_ne_nil hlast (Nat.not_le.mp hend)
      revert hsome
      generalize subIdentifiers [] 0 true body = found
      intro hsome
      rcases found with e | _ | ⟨first, numbers⟩
      · exact .error e
      · exact absurd rfl hsome
      · exact .ok rfl

theorem bindingAt_refines (body : Octets) :
    Refines .berError Eq (bindingAt body) (binding body) := by
  have hname := Reader.expectTag_refines (Reader.left_start body) OBJECT_IDENTIFIER
    "variable binding name"
  rw [bindingAt, binding]
  revert hname
  generalize (Reader.mk body 0).expectTag OBJECT_IDENTIFIER "variable binding name" = x
  generalize expect OBJECT_IDENTIFIER "variable binding name" body = y
  intro hname
  cases hname with
  | error e => exact .error e
  | @ok a b hab =>
    obtain ⟨name, r⟩ := a
    obtain ⟨name', rest⟩ := b
    obtain ⟨hsame, hleft⟩ := hab
    dsimp only at hsame hleft
    subst hsame
    have hoid := decodeOidAt_refines name
    show Refines _ _ (decodeOidAt name >>= _) _
    dsimp only
    revert hoid
    generalize decodeOidAt name = x
    generalize decodeOid name = y
    intro hoid
    cases hoid with
    | error e => exact .error e
    | @ok oid oid' hoid =>
      subst hoid
      have hvalue := Reader.next_refines hleft
      show Refines _ _ (r.next >>= _) _
      dsimp only
      revert hvalue
      generalize r.next = x
      generalize nextElement rest = y
      intro hvalue
      cases hvalue with
      | error e => exact .error e
      | @ok a b hab =>
        obtain ⟨tag, value, r'⟩ := a
        obtain ⟨htag, hbody, hleft'⟩ := hab
        dsimp only at htag hbody hleft'
        show Refines _ _ (if r'.atEnd = false then _ else _) (if b.rest ≠ [] then _ else _)
        by_cases hend : b.rest = []
        · rw [if_neg (by simp [(Reader.atEnd_iff hleft').mpr hend]), if_neg (not_not.mpr hend),
            htag, hbody]
          exact .ok rfl
        · have hmore : r'.atEnd = false := by
            rw [← Bool.not_eq_true]
            exact fun h => hend ((Reader.atEnd_iff hleft').mp h)
          rw [if_pos hmore, if_pos hend]
          exact .error _

theorem bindings_of_error {body : Octets} {e : Message} (hbody : body ≠ [])
    (h : expect SEQUENCE "variable binding" body = .error e) : bindings body = .error e := by
  rw [bindings, if_neg hbody]
  split
  · next herror =>
    rw [h] at herror
    rw [Except.error.inj herror]
  · next hok =>
    rw [h] at hok
    simp at hok

/-- **The loop ends**: each turn takes an element, so an octet of fuel for each octet
is enough. -/
theorem bindingsAt_refines {fuel : Nat} : ∀ {r : Reader} {rest : Octets}, r.Left rest →
    rest.length < fuel → Refines .berError Eq (bindingsAt fuel r) (bindings rest) := by
  induction fuel with
  | zero =>
    intro r rest _ hfuel
    omega
  | succ fuel ih =>
    intro r rest hleft hfuel
    rw [bindingsAt]
    by_cases hrest : rest = []
    · rw [if_pos ((Reader.atEnd_iff hleft).mpr hrest), hrest, bindings_nil]
      exact .ok rfl
    · rw [if_neg (fun hend => hrest ((Reader.atEnd_iff hleft).mp hend))]
      have hread := Reader.expectTag_refines hleft SEQUENCE "variable binding"
      revert hread
      generalize r.expectTag SEQUENCE "variable binding" = x
      generalize hy : expect SEQUENCE "variable binding" rest = y
      intro hread
      cases hread with
      | error e =>
        rw [bindings_of_error hrest hy]
        exact .error e
      | @ok a b hab =>
        obtain ⟨first, r'⟩ := a
        obtain ⟨first', rest'⟩ := b
        obtain ⟨hfirst, hleft'⟩ := hab
        dsimp only at hfirst hleft'
        subst hfirst
        have hshorter := length_expect hy
        have hbind := bindingAt_refines first
        rw [bindings_of_expect hy]
        show Refines _ _ (bindingAt first >>= _) _
        revert hbind
        generalize bindingAt first = x
        generalize binding first = y
        intro hbind
        cases hbind with
        | error e => exact .error e
        | @ok bind bind' hbind =>
          subst hbind
          have hmore := ih hleft' (by omega)
          show Refines _ _ (bindingsAt fuel r' >>= _) _
          revert hmore
          generalize bindingsAt fuel r' = x
          generalize bindings rest' = y
          intro hmore
          cases hmore with
          | error e => exact .error e
          | ok h => exact .ok (congrArg _ h)

theorem pduAt_refines {fuel : Nat} {body : Octets} (h : body.length < fuel) :
    Refines .berError Eq (pduAt fuel body) (pdu body) := by
  rw [pduAt, pdu]
  refine (Reader.integer_refines (Reader.left_start body) _).bind ?_
  rintro ⟨request, r⟩ ⟨request', rest⟩ - hfirst ⟨hrequest, hleft⟩
  dsimp only at hrequest hleft ⊢
  subst hrequest
  refine (Reader.integer_refines hleft _).bind ?_
  rintro ⟨status, r⟩ ⟨status', rest⟩ - hsecond ⟨hstatus, hleft⟩
  dsimp only at hstatus hleft ⊢
  subst hstatus
  refine (Reader.integer_refines hleft _).bind ?_
  rintro ⟨index, r⟩ ⟨index', rest⟩ - hthird ⟨hindex, hleft⟩
  dsimp only at hindex hleft ⊢
  subst hindex
  refine (Reader.expectTag_refines hleft _ _).bind ?_
  rintro ⟨list, r⟩ ⟨list', rest⟩ - hlast ⟨hlist, hleft⟩
  dsimp only at hlist hleft ⊢
  subst hlist
  -- the list is a part of the PDU, so the fuel lasts
  have hfuel : list.length < fuel := by
    have hfirst := (expectInteger_ok hfirst).2
    have hsecond := (expectInteger_ok hsecond).2
    have hthird := (expectInteger_ok hthird).2
    have hlast := (nextElement_ok (nextElement_of_expect hlast)).2.1
    have := length_le_length_tlv SEQUENCE list
    dsimp only at hlast
    omega
  refine (bindingsAt_refines (Reader.left_start list) hfuel).bind ?_
  rintro found found' - - rfl
  refine (Reader.finished_refines hleft _).bind ?_
  intro _ _ _ _ _
  exact .ok rfl

/-- **Positions and lists read the same message.** -/
theorem parseAt_refines {fuel : Nat} {data : Octets} (h : data.length < fuel) :
    Refines .berError Eq (parseAt fuel data) (parseMessage data) := by
  rw [parseAt, parseMessage]
  refine (Reader.expectTag_refines (Reader.left_start data) _ _).bind ?_
  rintro ⟨message, r⟩ ⟨message', rest⟩ - houter ⟨hmessage, hleft⟩
  dsimp only at hmessage hleft ⊢
  subst hmessage
  refine (Reader.finished_refines hleft _).bind ?_
  intro _ _ _ _ _
  refine (Reader.integer_refines (Reader.left_start message) _).bind ?_
  rintro ⟨version, r⟩ ⟨version', rest⟩ - hfirst ⟨hversion, hleft⟩
  dsimp only at hversion hleft ⊢
  subst hversion
  refine (Reader.expectTag_refines hleft _ _).bind ?_
  rintro ⟨community, r⟩ ⟨community', rest⟩ - hsecond ⟨hcommunity, hleft⟩
  dsimp only at hcommunity hleft ⊢
  subst hcommunity
  by_cases hrest : rest = []
  · rw [if_pos ((Reader.atEnd_iff hleft).mpr hrest), if_pos hrest]
    exact .error _
  · rw [if_neg (fun hend => hrest ((Reader.atEnd_iff hleft).mp hend)), if_neg hrest]
    refine (Reader.next_refines hleft).bind ?_
    rintro ⟨tag, body, r⟩ element - helement ⟨htag, hbody, hleft⟩
    dsimp only at htag hbody hleft ⊢
    refine (Reader.finished_refines hleft _).bind ?_
    intro _ _ _ _ _
    have hfuel : body.length < fuel := by
      have houter := (nextElement_ok (nextElement_of_expect houter)).2.1
      have hmessage := length_le_length_tlv SEQUENCE message
      have hfirst := (expectInteger_ok hfirst).2
      have hsecond := (nextElement_ok (nextElement_of_expect hsecond)).2.1
      have helement := (nextElement_ok helement).2.1
      have := length_le_length_tlv element.tag element.body
      dsimp only at houter hsecond
      rw [hbody]
      omega
    rw [← hbody]
    refine (pduAt_refines hfuel).bind ?_
    rintro ⟨request, status, index, found⟩ _ - - rfl
    rw [htag]
    exact .ok rfl

/-- **With fuel for every octet, a message read by positions is the one `parseMessage`
reads**: no index misses, and the loop over the bindings ends. -/
theorem parseAt_eq {fuel : Nat} {data : Octets} (h : data.length < fuel) :
    parseAt fuel data = (parseMessage data).mapError .berError :=
  (parseAt_refines h).eq_mapError

/-- **Whatever arrives is a message or a `BerError`**: with fuel for every octet the
loop ends and no index misses; a message with anything after it is refused; and a
message that is read can be written, and reads back as the same one. -/
theorem parse_total (data : Octets) :
    (∀ fuel, data.length < fuel →
      (∃ m, parseMessage data = .ok m ∧ parseAt fuel data = .ok m) ∨
        ∃ text, parseMessage data = .error text ∧
          parseAt fuel data = .error (.berError text)) ∧
    (∀ more m m', parseMessage data = .ok m → parseMessage (data ++ more) = .ok m' →
      more = []) ∧
    ∀ m, parseMessage data = .ok m →
      ∃ out, encodeMessage m = .ok out ∧ parseMessage out = .ok m := by
  refine ⟨?_, ?_, ?_⟩
  · intro fuel hfuel
    have heq := parseAt_eq hfuel
    cases hparse : parseMessage data with
    | ok m =>
      rw [hparse] at heq
      exact Or.inl ⟨m, rfl, heq⟩
    | error text =>
      rw [hparse] at heq
      exact Or.inr ⟨text, rfl, heq⟩
  · intro more m m' h h'
    exact eq_nil_of_parseMessage h h'
  · intro m h
    exact parseMessage_again h

end IPScout.Ber
