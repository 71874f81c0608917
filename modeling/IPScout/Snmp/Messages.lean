import IPScout.Base.Outcome
import IPScout.Snmp.Identifiers

/-!
# Messages read back

`parse_message` undoes `encode_message` on every message whose integers have at most
five octets and whose identifiers can be written (`parseMessage_of_encodeMessage`).
The proof goes level by level, from a binding to the message, and each level reads
back whatever follows it.

A message that is read is one that can be written, and no level of it is written
longer than it came (`encodeMessage_of_parseMessage`).  So a message that is read,
written and read again is the same message, however it was padded on the way in.
-/

namespace IPScout.Ber

open Base Base.Octets Base.Text

/-! ### Bindings -/

/-- The content of a binding whose identifier has the octets `oid`. -/
def bindingContent (oid : Octets) (bind : VarBind) : Octets :=
  tlv OBJECT_IDENTIFIER oid ++ tlv bind.tag bind.value

theorem bindingElement_eq_ok {bind : VarBind} {element : Octets} :
    bindingElement bind = .ok element ↔
      ∃ oid, encodeOid bind.oid = .ok oid ∧ element = tlv SEQUENCE (bindingContent oid bind) := by
  rw [bindingElement, bind_eq_ok]
  constructor
  · rintro ⟨oid, hoid, h⟩
    exact ⟨oid, hoid, (Except.ok.inj h).symm⟩
  · rintro ⟨oid, hoid, rfl⟩
    exact ⟨oid, hoid, rfl⟩

theorem binding_bindingContent {bind : VarBind} {oid : Octets} (hoid : encodeOid bind.oid = .ok oid)
    (hzero : hasNoLeadingZeros bind.oid = true)
    (hlength : (bindingContent oid bind).length < 2 ^ 32) :
    binding (bindingContent oid bind) = .ok bind := by
  have hsum : (bindingContent oid bind).length
      = (tlv OBJECT_IDENTIFIER oid).length + (tlv bind.tag bind.value).length :=
    List.length_append
  have hname := length_le_length_tlv OBJECT_IDENTIFIER oid
  have hvalue := length_le_length_tlv bind.tag bind.value
  have hread : nextElement (tlv bind.tag bind.value) = .ok ⟨bind.tag, bind.value, []⟩ := by
    have := nextElement_tlv bind.tag (show bind.value.length < 2 ^ 32 by omega) []
    rwa [List.append_nil] at this
  rw [binding, bindingContent, expect_tlv _ _ (by omega)]
  dsimp only
  rw [decodeOid_of_encodeOid hoid hzero]
  dsimp only
  rw [hread]
  dsimp only
  rw [if_neg (by simp)]

theorem bindings_nil : bindings [] = .ok [] := by
  rw [bindings, if_pos rfl]

theorem bindings_of_expect {body first rest : Octets}
    (h : expect SEQUENCE "variable binding" body = .ok (first, rest)) :
    bindings body = match binding first with
      | .error e => .error e
      | .ok bind => (bindings rest).map (bind :: ·) := by
  have hne : body ≠ [] := by
    rintro rfl
    simp [expect] at h
  rw [bindings, if_neg hne]
  split
  · next herror =>
    rw [h] at herror
    simp at herror
  · next first' rest' hok =>
    rw [h] at hok
    simp only [Except.ok.injEq, Prod.mk.injEq] at hok
    obtain ⟨rfl, rfl⟩ := hok
    rfl

/-- **The bindings of a message read back**, one after the other. -/
theorem bindings_flatten {binds : List VarBind} {elements : List Octets}
    (h : binds.mapM bindingElement = .ok elements)
    (hzero : ∀ bind ∈ binds, hasNoLeadingZeros bind.oid = true)
    (hlength : elements.flatten.length < 2 ^ 32) : bindings elements.flatten = .ok binds := by
  induction binds generalizing elements with
  | nil =>
    rw [mapM_nil_eq_ok.mp h]
    exact bindings_nil
  | cons bind binds ih =>
    obtain ⟨element, rest, helement, hrest, rfl⟩ := mapM_cons_eq_ok.mp h
    obtain ⟨oid, hoid, rfl⟩ := bindingElement_eq_ok.mp helement
    rw [List.flatten_cons, List.length_append] at hlength
    have hcontent := length_le_length_tlv SEQUENCE (bindingContent oid bind)
    have hread := expect_tlv SEQUENCE "variable binding"
      (show (bindingContent oid bind).length < 2 ^ 32 by omega) rest.flatten
    rw [List.flatten_cons, bindings_of_expect hread,
      binding_bindingContent hoid (hzero bind List.mem_cons_self) (by omega)]
    dsimp only
    rw [ih hrest (fun b hb => hzero b (List.mem_cons_of_mem _ hb)) (by omega)]
    rfl

/-! ### The PDU and the message -/

/-- A message that reads back: its integers have at most five octets, and its
identifiers are written without leading zeros. -/
structure Plain (m : SnmpMessage) : Prop where
  version : fitsOctets 5 m.version
  requestId : fitsOctets 5 m.requestId
  errorStatus : fitsOctets 5 m.errorStatus
  errorIndex : fitsOctets 5 m.errorIndex
  oids : ∀ bind ∈ m.bindings, hasNoLeadingZeros bind.oid = true

/-- The content of the PDU of a message with these binding elements. -/
def pduContent (m : SnmpMessage) (elements : List Octets) : Octets :=
  integerElement m.requestId ++ (integerElement m.errorStatus ++ (integerElement m.errorIndex ++
    tlv SEQUENCE elements.flatten))

/-- The content of a message with these binding elements. -/
def messageContent (m : SnmpMessage) (elements : List Octets) : Octets :=
  integerElement m.version ++ (tlv OCTET_STRING m.community ++
    tlv m.pduTag (pduContent m elements))

theorem encodeMessage_eq_ok {m : SnmpMessage} {out : Octets} :
    encodeMessage m = .ok out ↔
      ∃ elements, m.bindings.mapM bindingElement = .ok elements ∧
        out = tlv SEQUENCE (messageContent m elements) := by
  rw [encodeMessage, bind_eq_ok]
  constructor
  · rintro ⟨elements, helements, h⟩
    exact ⟨elements, helements, (Except.ok.inj h).symm⟩
  · rintro ⟨elements, helements, rfl⟩
    exact ⟨elements, helements, rfl⟩

theorem pdu_pduContent {m : SnmpMessage} (h : Plain m) {elements : List Octets}
    (helements : m.bindings.mapM bindingElement = .ok elements)
    (hlength : (pduContent m elements).length < 2 ^ 32) :
    pdu (pduContent m elements)
      = .ok (m.requestId, m.errorStatus, m.errorIndex, m.bindings) := by
  have hflat : elements.flatten.length < 2 ^ 32 := by
    have := length_le_length_tlv SEQUENCE elements.flatten
    rw [pduContent, List.length_append, List.length_append, List.length_append] at hlength
    omega
  have hlist : expect SEQUENCE "variable bindings" (tlv SEQUENCE elements.flatten)
      = .ok (elements.flatten, []) := by
    have := expect_tlv SEQUENCE "variable bindings" hflat []
    rwa [List.append_nil] at this
  rw [pdu, pduContent]
  refine bind_eq_ok.mpr ⟨_, expectInteger_integerElement _ h.requestId _, ?_⟩
  refine bind_eq_ok.mpr ⟨_, expectInteger_integerElement _ h.errorStatus _, ?_⟩
  refine bind_eq_ok.mpr ⟨_, expectInteger_integerElement _ h.errorIndex _, ?_⟩
  refine bind_eq_ok.mpr ⟨_, hlist, ?_⟩
  refine bind_eq_ok.mpr ⟨_, bindings_flatten helements h.oids hflat, ?_⟩
  exact bind_eq_ok.mpr ⟨(), if_pos rfl, rfl⟩

/-- **A message that is written reads back.** -/
theorem parseMessage_messageContent {m : SnmpMessage} (h : Plain m) {elements : List Octets}
    (helements : m.bindings.mapM bindingElement = .ok elements)
    (hlength : (messageContent m elements).length < 2 ^ 32) :
    parseMessage (tlv SEQUENCE (messageContent m elements)) = .ok m := by
  have hsum : (messageContent m elements).length = (integerElement m.version).length +
      ((tlv OCTET_STRING m.community).length +
        (tlv m.pduTag (pduContent m elements)).length) := by
    rw [messageContent, List.length_append, List.length_append]
  have hcommunity := length_le_length_tlv OCTET_STRING m.community
  have hpdu := length_le_length_tlv m.pduTag (pduContent m elements)
  have houter : expect SEQUENCE "message" (tlv SEQUENCE (messageContent m elements))
      = .ok (messageContent m elements, []) := by
    have := expect_tlv SEQUENCE "message" hlength []
    rwa [List.append_nil] at this
  have helement : nextElement (tlv m.pduTag (pduContent m elements))
      = .ok ⟨m.pduTag, pduContent m elements, []⟩ := by
    have := nextElement_tlv m.pduTag (show (pduContent m elements).length < 2 ^ 32 by omega) []
    rwa [List.append_nil] at this
  rw [parseMessage]
  refine bind_eq_ok.mpr ⟨_, houter, ?_⟩
  refine bind_eq_ok.mpr ⟨(), if_pos rfl, ?_⟩
  refine bind_eq_ok.mpr ⟨_, expectInteger_integerElement _ h.version _, ?_⟩
  refine bind_eq_ok.mpr ⟨_, expect_tlv _ _ (by omega) _, ?_⟩
  dsimp only
  rw [if_neg (by rw [tlv]; simp)]
  refine bind_eq_ok.mpr ⟨_, helement, ?_⟩
  refine bind_eq_ok.mpr ⟨(), if_pos rfl, ?_⟩
  exact bind_eq_ok.mpr ⟨_, pdu_pduContent h helements (by omega), rfl⟩

/-- **`parse_message` undoes `encode_message`**, with any number of bindings, any
octets in them, and a length of any width at every level. -/
theorem parseMessage_encodeMessage (m : SnmpMessage)
    (hintegers : ∀ n ∈ [m.version, m.requestId, m.errorStatus, m.errorIndex],
      -2 ^ 39 ≤ n ∧ n < 2 ^ 39)
    (hoids : ∀ bind ∈ m.bindings,
      (∃ oid, encodeOid bind.oid = .ok oid) ∧ hasNoLeadingZeros bind.oid = true)
    (hlengths : ∀ content, encodeMessage m = .ok (tlv SEQUENCE content) →
      content.length < 2 ^ 32) :
    ∃ out, encodeMessage m = .ok out ∧ parseMessage out = .ok m := by
  have hplain : Plain m := by
    refine ⟨?_, ?_, ?_, ?_, fun bind hbind => (hoids bind hbind).2⟩
    · exact hintegers m.version (by simp)
    · exact hintegers m.requestId (by simp)
    · exact hintegers m.errorStatus (by simp)
    · exact hintegers m.errorIndex (by simp)
  have hwritten : ∀ bind ∈ m.bindings, ∃ element, bindingElement bind = .ok element := by
    intro bind hbind
    obtain ⟨oid, hoid⟩ := (hoids bind hbind).1
    exact ⟨_, bindingElement_eq_ok.mpr ⟨oid, hoid, rfl⟩⟩
  obtain ⟨elements, helements⟩ := mapM_ok hwritten
  have hout : encodeMessage m = .ok (tlv SEQUENCE (messageContent m elements)) :=
    encodeMessage_eq_ok.mpr ⟨elements, helements, rfl⟩
  exact ⟨_, hout, parseMessage_messageContent hplain helements (hlengths _ hout)⟩

/-- A message with a negative id, a community in the long form and a wide arc. -/
theorem parseMessage_encodeMessage_wide :
    let m : SnmpMessage := ⟨1, List.replicate 200 0x61, GET_RESPONSE, -129, 0, 2 ^ 39 - 1,
      [⟨"2.999.3".toList, OCTET_STRING, [0x30, 0x80]⟩]⟩
    ∃ out, encodeMessage m = .ok out ∧ parseMessage out = .ok m := by
  refine parseMessage_encodeMessage _ ?_ ?_ ?_
  · decide
  · intro bind hbind
    rw [List.mem_singleton.mp hbind]
    exact ⟨⟨_, rfl⟩, by decide⟩
  · intro content hcontent
    have hlength : (encodeMessage ⟨1, List.replicate 200 0x61, GET_RESPONSE, -129, 0, 2 ^ 39 - 1,
        [⟨"2.999.3".toList, OCTET_STRING, [0x30, 0x80]⟩]⟩).toOption.map List.length
        = some 238 := by decide +kernel
    rw [hcontent] at hlength
    have htotal := Option.some.inj hlength
    have := length_le_length_tlv SEQUENCE content
    omega

/-! ### What is read can be written -/

theorem finish_eq_ok {what : String} {data : Octets} {u : Unit} :
    finish what data = .ok u ↔ data = [] := by
  rw [finish]
  split
  · next h => simp [h]
  · next h => simp [h]

theorem binding_ok {body : Octets} {bind : VarBind} (h : binding body = .ok bind) :
    hasNoLeadingZeros bind.oid = true ∧ ∃ oid, encodeOid bind.oid = .ok oid ∧
      (bindingContent oid bind).length ≤ body.length := by
  rw [binding] at h
  split at h
  · simp at h
  · next name rest hname =>
    split at h
    · simp at h
    · next dotted hdotted =>
      split at h
      · simp at h
      · next value hvalue =>
        split at h
        · simp at h
        · have hbind := (Except.ok.inj h).symm
          subst hbind
          obtain ⟨hoid, hzero⟩ := encodeOid_of_decodeOid hdotted
          refine ⟨hzero, name, hoid, ?_⟩
          have hfirst := (nextElement_ok (nextElement_of_expect hname)).2.1
          have hsecond := (nextElement_ok hvalue).2.1
          dsimp only at hfirst hsecond
          show (tlv OBJECT_IDENTIFIER name ++ tlv value.tag value.body).length ≤ _
          rw [List.length_append]
          omega

theorem bindings_eq_ok {body : Octets} {binds : List VarBind} (h : bindings body = .ok binds) :
    (body = [] ∧ binds = []) ∨
      ∃ first rest bind more, expect SEQUENCE "variable binding" body = .ok (first, rest) ∧
        binding first = .ok bind ∧ bindings rest = .ok more ∧ binds = bind :: more := by
  by_cases hbody : body = []
  · subst hbody
    rw [bindings_nil] at h
    exact Or.inl ⟨rfl, (Except.ok.inj h).symm⟩
  · right
    cases hexpect : expect SEQUENCE "variable binding" body with
    | error e =>
      rw [bindings, if_neg hbody] at h
      split at h
      · simp at h
      · next hok =>
        rw [hexpect] at hok
        simp at hok
    | ok found =>
      obtain ⟨first, rest⟩ := found
      rw [bindings_of_expect hexpect] at h
      split at h
      · simp at h
      · next bind hbind =>
        cases hmore : bindings rest with
        | error e =>
          rw [hmore] at h
          simp [Except.map] at h
        | ok more =>
          rw [hmore] at h
          exact ⟨first, rest, bind, more, rfl, hbind, hmore, (Except.ok.inj h).symm⟩

/-- **Bindings that are read can be written**, and no longer than they came. -/
theorem bindings_ok {body : Octets} {binds : List VarBind} (h : bindings body = .ok binds) :
    (∀ bind ∈ binds, hasNoLeadingZeros bind.oid = true) ∧
      ∃ elements, binds.mapM bindingElement = .ok elements ∧
        elements.flatten.length ≤ body.length := by
  induction hn : body.length using Nat.strongRecOn generalizing body binds with
  | ind n ih =>
    rcases bindings_eq_ok h with ⟨rfl, rfl⟩ | ⟨first, rest, bind, more, hexpect, hbind, hmore, rfl⟩
    · exact ⟨by simp, [], rfl, by simp⟩
    · have hrest := length_expect hexpect
      obtain ⟨hzero, elements, helements, hlength⟩ := ih rest.length (by omega) hmore rfl
      obtain ⟨hbindzero, oid, hoid, hcontent⟩ := binding_ok hbind
      have helement : bindingElement bind = .ok (tlv SEQUENCE (bindingContent oid bind)) :=
        bindingElement_eq_ok.mpr ⟨oid, hoid, rfl⟩
      refine ⟨?_, _, mapM_cons_eq_ok.mpr ⟨_, elements, helement, helements, rfl⟩, ?_⟩
      · intro b hb
        rcases List.mem_cons.mp hb with rfl | hb
        · exact hbindzero
        · exact hzero b hb
      · have htaken := (nextElement_ok (nextElement_of_expect hexpect)).2.1
        have hmono : (tlv SEQUENCE (bindingContent oid bind)).length
            ≤ (tlv SEQUENCE first).length := length_tlv_mono hcontent
        dsimp only at htaken
        rw [List.flatten_cons, List.length_append]
        omega

theorem pdu_ok {m : SnmpMessage} {body : Octets}
    (h : pdu body = .ok (m.requestId, m.errorStatus, m.errorIndex, m.bindings)) :
    (fitsOctets 5 m.requestId ∧ fitsOctets 5 m.errorStatus ∧ fitsOctets 5 m.errorIndex ∧
      ∀ bind ∈ m.bindings, hasNoLeadingZeros bind.oid = true) ∧
      ∃ elements, m.bindings.mapM bindingElement = .ok elements ∧
        (pduContent m elements).length ≤ body.length := by
  rw [pdu] at h
  obtain ⟨⟨request, left⟩, hrequest, h⟩ := bind_eq_ok.mp h
  obtain ⟨⟨status, left'⟩, hstatus, h⟩ := bind_eq_ok.mp h
  obtain ⟨⟨index, left''⟩, hindex, h⟩ := bind_eq_ok.mp h
  obtain ⟨⟨list, rest⟩, hlist, h⟩ := bind_eq_ok.mp h
  obtain ⟨binds, hbinds, h⟩ := bind_eq_ok.mp h
  obtain ⟨_, _, h⟩ := bind_eq_ok.mp h
  have h := Except.ok.inj h
  simp only [Prod.mk.injEq] at h
  obtain ⟨rfl, rfl, rfl, rfl⟩ := h
  obtain ⟨hzero, elements, helements, hflat⟩ := bindings_ok hbinds
  obtain ⟨hrequest, hrequestLength⟩ := expectInteger_ok hrequest
  obtain ⟨hstatus, hstatusLength⟩ := expectInteger_ok hstatus
  obtain ⟨hindex, hindexLength⟩ := expectInteger_ok hindex
  have hlist := (nextElement_ok (nextElement_of_expect hlist)).2.1
  have hwritten : (tlv SEQUENCE elements.flatten).length ≤ (tlv SEQUENCE list).length :=
    length_tlv_mono hflat
  dsimp only at hlist
  refine ⟨⟨hrequest, hstatus, hindex, hzero⟩, elements, helements, ?_⟩
  rw [pduContent, List.length_append, List.length_append, List.length_append]
  omega

/-- **A message that is read is plain, can be written, and no longer than it came.** -/
theorem parseMessage_ok {data : Octets} {m : SnmpMessage} (h : parseMessage data = .ok m) :
    Plain m ∧ ∃ content elements, nextElement data = .ok ⟨SEQUENCE, content, []⟩ ∧
      m.bindings.mapM bindingElement = .ok elements ∧
      (messageContent m elements).length ≤ content.length := by
  rw [parseMessage] at h
  obtain ⟨⟨content, after⟩, houter, h⟩ := bind_eq_ok.mp h
  obtain ⟨_, hafter, h⟩ := bind_eq_ok.mp h
  rw [finish_eq_ok.mp hafter] at houter
  obtain ⟨⟨version, message⟩, hversion, h⟩ := bind_eq_ok.mp h
  obtain ⟨⟨community, message'⟩, hcommunity, h⟩ := bind_eq_ok.mp h
  dsimp only at h
  split at h
  · simp at h
  · obtain ⟨element, helement, h⟩ := bind_eq_ok.mp h
    obtain ⟨_, _, h⟩ := bind_eq_ok.mp h
    obtain ⟨⟨request, status, index, binds⟩, hpdu, h⟩ := bind_eq_ok.mp h
    have hm := (Except.ok.inj h).symm
    dsimp only at hm
    have hfields : (request, status, index, binds)
        = (m.requestId, m.errorStatus, m.errorIndex, m.bindings) := by rw [hm]
    rw [hfields] at hpdu
    obtain ⟨⟨hrequest, hstatus, hindex, hzero⟩, elements, helements, hlength⟩ := pdu_ok hpdu
    obtain ⟨hfits, hversionLength⟩ := expectInteger_ok hversion
    have hcommunityLength := (nextElement_ok (nextElement_of_expect hcommunity)).2.1
    have hpduLength := (nextElement_ok helement).2.1
    have hwritten : (tlv element.tag (pduContent m elements)).length
        ≤ (tlv element.tag element.body).length := length_tlv_mono hlength
    have hplain : Plain m := ⟨by rw [hm]; exact hfits, hrequest, hstatus, hindex, hzero⟩
    refine ⟨hplain, content, elements, nextElement_of_expect houter, helements, ?_⟩
    have hcontent : messageContent m elements = integerElement version ++
        (tlv OCTET_STRING community ++ tlv element.tag (pduContent m elements)) := by
      rw [messageContent, show m.version = version by rw [hm],
        show m.community = community by rw [hm], show m.pduTag = element.tag by rw [hm]]
    dsimp only at hcommunityLength
    rw [hcontent, List.length_append, List.length_append]
    omega

/-- **A message that is read, written and read again is the same message.** -/
theorem parseMessage_again {data : Octets} {m : SnmpMessage} (h : parseMessage data = .ok m) :
    ∃ out, encodeMessage m = .ok out ∧ parseMessage out = .ok m := by
  obtain ⟨hplain, content, elements, helement, helements, hlength⟩ := parseMessage_ok h
  have hcontent := (nextElement_ok helement).1
  exact ⟨_, encodeMessage_eq_ok.mpr ⟨elements, helements, rfl⟩,
    parseMessage_messageContent hplain helements (Nat.lt_of_le_of_lt hlength hcontent)⟩

/-- **No message continues another**: with anything after it, a message is refused. -/
theorem eq_nil_of_parseMessage {data more : Octets} {m m' : SnmpMessage}
    (h : parseMessage data = .ok m) (h' : parseMessage (data ++ more) = .ok m') : more = [] := by
  obtain ⟨_, content, _, helement, _⟩ := parseMessage_ok h
  obtain ⟨_, content', _, helement', _⟩ := parseMessage_ok h'
  rw [(nextElement_ok helement).2.2 more] at helement'
  have := congrArg Element.rest (Except.ok.inj helement')
  exact this

end IPScout.Ber
