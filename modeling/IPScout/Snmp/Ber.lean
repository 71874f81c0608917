import Mathlib.Algebra.Ring.Int.Defs
import Mathlib.Data.Nat.Size
import IPScout.Net.Mac
import IPScout.Net.Address

/-!
# SNMP messages in BER

`snmpber.py`: the octets of one message, and a message taken apart by structure.
A reader takes one element after another off the front of what is left, and every
element ends inside its parent; `bindings` ends because an element is never empty
(`length_rest_lt`).

The error of a reader is the text of its `BerError`, and that of an encoder the
text of its `ValueError`.
-/

namespace IPScout

open Base Base.Octets Base.Text

/-! ### Tags and bounds -/

def INTEGER : UInt8 := 0x02

def OCTET_STRING : UInt8 := 0x04

def NULL : UInt8 := 0x05

def OBJECT_IDENTIFIER : UInt8 := 0x06

def SEQUENCE : UInt8 := 0x30

def TIMETICKS : UInt8 := 0x43

def GET_REQUEST : UInt8 := 0xa0

def GET_RESPONSE : UInt8 := 0xa2

/-- `NO_SUCH_OBJECT`, `NO_SUCH_INSTANCE` and `END_OF_MIB_VIEW`. -/
def EXCEPTION_TAGS : List UInt8 := [0x80, 0x81, 0x82]

/-- A length octet at or above this is the long form. -/
def LONG_FORM : Nat := 0x80

def MAX_LENGTH_OCTETS : Nat := 4

def MAX_INTEGER_OCTETS : Nat := 5

def ARCS_PER_ROOT : Nat := 40

def LAST_ROOT_ARC : Nat := 2

def MAX_ARCS : Nat := 128

def MAX_ARC : Nat := 2 ^ 32 - 1

/-- The first sub-identifier carries two arcs. -/
def MAX_FIRST_SUB_IDENTIFIER : Nat := ARCS_PER_ROOT * LAST_ROOT_ARC + MAX_ARC

/-- One variable binding: an object identifier and the value element after it. -/
structure VarBind where
  oid : Text
  tag : UInt8
  value : Octets
  deriving DecidableEq

/-- An SNMPv1 or v2c message with one PDU. -/
structure SnmpMessage where
  version : ℤ
  community : Octets
  pduTag : UInt8
  requestId : ℤ
  errorStatus : ℤ
  errorIndex : ℤ
  bindings : List VarBind
  deriving DecidableEq

namespace Ber

/-! ### Writing -/

/-- `_length`: short form, or the octets of the long form counted in the first. -/
def lengthField (size : Nat) : Octets :=
  if size < LONG_FORM then [UInt8.ofNat size]
  else
    let octets := packedNat ((Nat.size size + 7) / 8) size
    UInt8.ofNat (LONG_FORM + octets.length) :: octets

def tlv (tag : UInt8) (body : Octets) : Octets := tag :: (lengthField body.length ++ body)

/-- `_integer`: the minimal two's complement form. -/
def integerElement (value : ℤ) : Octets :=
  let magnitude := if value < 0 then (-value - 1).toNat else value.toNat
  let count := Nat.size magnitude / 8 + 1
  tlv INTEGER (packedNat count (value % 256 ^ count).toNat)

/-- The octets of a sub-identifier before its last one, put in front of `acc`. -/
def base128From (number : Nat) (acc : Octets) : Octets :=
  if number = 0 then acc
  else base128From (number / 128) (UInt8.ofNat (LONG_FORM + number % 128) :: acc)

def base128 (number : Nat) : Octets :=
  base128From (number / 128) [UInt8.ofNat (number % 128)]

def isArcText (t : Text) : Bool := 1 ≤ t.length && t.length ≤ 10 && t.all Char.isDigit

/-- `encode_oid`: the content octets of an identifier written as dotted text. -/
def encodeOid (dotted : Text) : Except Message Octets :=
  let refused : Message := [say "not an object identifier: ", .quoted dotted]
  if (dotted.splitOn '.').all isArcText = false then .error refused
  else
    match (dotted.splitOn '.').map decimalValue with
    | first :: second :: rest =>
      let arcs := first :: second :: rest
      if MAX_ARCS < arcs.length ∨ arcs.any (MAX_ARC < ·) ∨ LAST_ROOT_ARC < first ∨
          (first < LAST_ROOT_ARC ∧ ARCS_PER_ROOT ≤ second) then .error refused
      else .ok (base128 (ARCS_PER_ROOT * first + second) ++ rest.flatMap base128)
    | _ => .error refused

def bindingElement (bind : VarBind) : Except Message Octets := do
  let oid ← encodeOid bind.oid
  .ok (tlv SEQUENCE (tlv OBJECT_IDENTIFIER oid ++ tlv bind.tag bind.value))

def encodeMessage (message : SnmpMessage) : Except Message Octets := do
  let bindings ← message.bindings.mapM bindingElement
  let pdu := tlv message.pduTag (integerElement message.requestId ++
    (integerElement message.errorStatus ++ (integerElement message.errorIndex ++
      tlv SEQUENCE bindings.flatten)))
  .ok (tlv SEQUENCE (integerElement message.version ++
    (tlv OCTET_STRING message.community ++ pdu)))

/-- A GetRequest asking for `oids`, each bound to NULL. -/
def encodeGetRequest (version : ℤ) (community : Octets) (requestId : ℤ) (oids : List Text) :
    Except Message Octets :=
  encodeMessage ⟨version, community, GET_REQUEST, requestId, 0, 0,
    oids.map fun oid => ⟨oid, NULL, []⟩⟩

/-! ### Reading elements -/

/-- An element taken off the front: its tag, its content, and what follows. -/
structure Element where
  tag : UInt8
  body : Octets
  rest : Octets

/-- `_long_length`: a length of so many octets, and what follows it. -/
def longLength (octets : Nat) (rest : Octets) : Except Message (Nat × Octets) :=
  if octets = 0 then .error [say "indefinite length, which SNMP never sends"]
  else if MAX_LENGTH_OCTETS < octets then
    .error [say "length field of ", .text (decimal octets), say " octets"]
  else if rest.length < octets then .error [say "length field runs past the end"]
  else .ok (bigEndian (rest.take octets), rest.drop octets)

/-- The length of an element from its first length octet on. -/
def elementLength (size : UInt8) (rest : Octets) : Except Message (Nat × Octets) :=
  if size.toNat < LONG_FORM then .ok (size.toNat, rest)
  else longLength (size.toNat - LONG_FORM) rest

/-- `_Reader.next`. -/
def nextElement : Octets → Except Message Element
  | tag :: size :: rest =>
    match elementLength size rest with
    | .error e => .error e
    | .ok (size, rest) =>
      if rest.length < size then .error [say "element runs past the end of its parent"]
      else .ok ⟨tag, rest.take size, rest.drop size⟩
  | _ => .error [say "element header runs past the end"]

/-- `_Reader.expect`: the content of the next element, which must carry `tag`, and
what follows it. -/
def expect (tag : UInt8) (what : String) (data : Octets) : Except Message (Octets × Octets) :=
  if data = [] then .error [say (what ++ ": missing")]
  else
    match nextElement data with
    | .error e => .error e
    | .ok element =>
      if element.tag ≠ tag then
        .error [say (what ++ ": expected tag 0x"), .text (hexOctet tag), say ", found 0x",
          .text (hexOctet element.tag)]
      else .ok (element.body, element.rest)

/-- `int.from_bytes(b, "big", signed=True)`. -/
def signedBigEndian (b : Octets) : ℤ :=
  if 256 ^ b.length ≤ 2 * bigEndian b then (bigEndian b : ℤ) - 256 ^ b.length else bigEndian b

/-- `_Reader.integer`. -/
def expectInteger (what : String) (data : Octets) : Except Message (ℤ × Octets) :=
  match expect INTEGER what data with
  | .error e => .error e
  | .ok (body, rest) =>
    if ¬ (1 ≤ body.length ∧ body.length ≤ MAX_INTEGER_OCTETS) then
      .error [say (what ++ ": an INTEGER of "), .text (decimal body.length), say " octets"]
    else .ok (signedBigEndian body, rest)

def finish (what : String) (data : Octets) : Except Message Unit :=
  if data = [] then .ok () else .error [say ("bytes after the " ++ what)]

/-! ### Reading identifiers -/

/-- `_sub_identifiers` from one octet on: the numbers read, the one being read, and
whether an octet starts one. -/
def subIdentifiers (numbers : List Nat) (current : Nat) (starting : Bool) :
    Octets → Except Message (List Nat)
  | [] =>
    if MAX_ARCS < numbers.length + 1 then
      .error [say "object identifier of ", .text (decimal (numbers.length + 1)),
        say " arcs, more than ", .text (decimal MAX_ARCS)]
    else .ok numbers
  | octet :: rest =>
    if starting ∧ octet.toNat = LONG_FORM then
      .error [say "object identifier sub-identifier has a leading 0x80"]
    else
      let current := current * 128 + octet.toNat % 128
      if (if numbers = [] then MAX_FIRST_SUB_IDENTIFIER else MAX_ARC) < current then
        .error [say "object identifier arc exceeds 2**32-1"]
      else if octet.toNat < LONG_FORM then subIdentifiers (numbers ++ [current]) 0 true rest
      else subIdentifiers numbers current false rest

/-- `decode_oid`: the dotted text of an identifier's content octets. -/
def decodeOid (body : Octets) : Except Message Text :=
  match body.getLast? with
  | none => .error [say "empty object identifier"]
  | some last =>
    if LONG_FORM ≤ last.toNat then .error [say "object identifier ends inside a sub-identifier"]
    else
      match subIdentifiers [] 0 true body with
      | .error e => .error e
      -- the last octet ends a number
      | .ok [] => .error []
      | .ok (first :: rest) =>
        let head := min (first / ARCS_PER_ROOT) LAST_ROOT_ARC
        .ok (['.'].intercalate ((head :: (first - ARCS_PER_ROOT * head) :: rest).map decimal))

/-! ### Reading messages -/

/-- One binding of the list: what it says. -/
def binding (body : Octets) : Except Message VarBind :=
  match expect OBJECT_IDENTIFIER "variable binding name" body with
  | .error e => .error e
  | .ok (name, rest) =>
    match decodeOid name with
    | .error e => .error e
    | .ok oid =>
      match nextElement rest with
      | .error e => .error e
      | .ok value =>
        if value.rest ≠ [] then .error [say "a variable binding holds more than a name and a value"]
        else .ok ⟨oid, value.tag, value.body⟩

theorem length_elementLength {size : UInt8} {rest after : Octets} {n : Nat}
    (h : elementLength size rest = .ok (n, after)) : after.length ≤ rest.length := by
  rw [elementLength] at h
  split at h
  · simp only [Except.ok.injEq, Prod.mk.injEq] at h
    rw [h.2]
  · rw [longLength] at h
    split at h
    · simp at h
    · split at h
      · simp at h
      · split at h
        · simp at h
        · simp only [Except.ok.injEq, Prod.mk.injEq] at h
          rw [← h.2, List.length_drop]
          omega

theorem length_nextElement {data : Octets} {element : Element}
    (h : nextElement data = .ok element) : element.rest.length < data.length := by
  rw [nextElement.eq_def] at h
  split at h
  · next tag size rest =>
    split at h
    · simp at h
    · next n after hlength =>
      have := length_elementLength hlength
      split at h
      · simp at h
      · rw [← Except.ok.inj h, List.length_drop, List.length_cons, List.length_cons]
        omega
  · simp at h

theorem length_expect {tag : UInt8} {what : String} {data body rest : Octets}
    (h : expect tag what data = .ok (body, rest)) : rest.length < data.length := by
  rw [expect] at h
  split at h
  · simp at h
  · split at h
    · simp at h
    · next element helement =>
      split at h
      · simp at h
      · simp only [Except.ok.injEq, Prod.mk.injEq] at h
        rw [← h.2]
        exact length_nextElement helement

def bindings (body : Octets) : Except Message (List VarBind) :=
  if body = [] then .ok []
  else
    match h : expect SEQUENCE "variable binding" body with
    | .error e => .error e
    | .ok (first, rest) =>
      have : rest.length < body.length := length_expect h
      match binding first with
      | .error e => .error e
      | .ok bind => (bindings rest).map (bind :: ·)
termination_by body.length

/-- The PDU of a message: its three integers and its bindings. -/
def pdu (body : Octets) : Except Message (ℤ × ℤ × ℤ × List VarBind) := do
  let (requestId, body) ← expectInteger "request id" body
  let (errorStatus, body) ← expectInteger "error status" body
  let (errorIndex, body) ← expectInteger "error index" body
  let (list, body) ← expect SEQUENCE "variable bindings" body
  let found ← bindings list
  finish "variable bindings" body
  .ok (requestId, errorStatus, errorIndex, found)

/-- `parse_message`: an SNMP message taken apart element by element. -/
def parseMessage (data : Octets) : Except Message SnmpMessage := do
  let (message, after) ← expect SEQUENCE "message" data
  finish "message" after
  let (version, message) ← expectInteger "version" message
  let (community, message) ← expect OCTET_STRING "community" message
  if message = [] then .error [say "pdu: missing"]
  else
    let element ← nextElement message
    finish "pdu" element.rest
    let (requestId, errorStatus, errorIndex, found) ← pdu element.body
    .ok ⟨version, community, element.tag, requestId, errorStatus, errorIndex, found⟩

end Ber

end IPScout
