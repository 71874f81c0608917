import IPScout.Base.Dict
import IPScout.Base.Integers
import IPScout.Base.Lines
import IPScout.Base.Pattern
import IPScout.Base.Utf8
import IPScout.Net.Address

/-!
# What a DHCP client stored

systemd-networkd writes a flat list of `KEY=value` lines, and the ISC client appends one
`lease { ... }` block for each lease it gets.  The two parsers keep the address literals of
what they find and drop the rest; of the blocks, the last one for the interface counts.

A file is read from its end, up to a bound, and what is left of the record the bound cuts
into is dropped up to the next word `lease`.
-/

namespace IPScout

open Base Base.Text

/-- An address literal of either family. -/
structure Literal where
  text : Text
  literal : ∃ a, parseAddress text = .ok a
  deriving DecidableEq

/-- What the OS's own DHCP client recorded about a lease. -/
structure LeaseInfo where
  dhcpServer : Option Literal
  router : Option Literal
  dnsServers : List Literal
  domain : Option Text
  obtained : Option Text
  expires : Option Text
  deriving DecidableEq

/-- `LeaseInfo()`. -/
def LeaseInfo.unset : LeaseInfo := ⟨none, none, [], none, none, none⟩

namespace Leases

/-! ### Values -/

/-- What holds of all characters of a text is decided one by one. -/
scoped instance (priority := 2000) decidableForallMem (t : Text) (p : Char → Prop)
    [DecidablePred p] : Decidable (∀ c ∈ t, p c) := List.decidableBAll p t

def address : Option Text → Option Literal
  | none => none
  | some value =>
    match h : parseAddress value with
    | .error _ => none
    | .ok a => some ⟨value, a, h⟩

def addresses (value : Text) : List Literal :=
  (Text.words (value.map fun c => if c = ',' then ' ' else c)).filterMap fun piece =>
    address (some piece)

/-- `value or None`. -/
def orNone (value : Option Text) : Option Text := value.filter (· ≠ [])

theorem address_text (l : Literal) : address (some l.text) = some l := by
  obtain ⟨text, a, ha⟩ := l
  rw [address]
  split
  · next e he =>
    rw [ha] at he
    simp at he
  · rfl

theorem text_of_address {value : Text} {l : Literal} (h : address (some value) = some l) :
    l.text = value := by
  rw [address] at h
  split at h
  · simp at h
  · rw [← Option.some.inj h]

/-! ### systemd-networkd -/

def readLine (values : Dict Text Text) (line : Text) : Dict Text Text :=
  let (key, separator, value) := partition '=' line
  if separator ≠ [] then values.set (upper (strip key)) (strip value) else values

def parseNetworkdLease (text : Text) : LeaseInfo :=
  let values := (splitLines text).foldl readLine Dict.empty
  { dhcpServer := address (values.get? "SERVER_ADDRESS".toList)
    router := address (values.get? "ROUTER".toList)
    dnsServers := addresses ((values.get? "DNS".toList).getD [])
    domain := orNone (values.get? "DOMAINNAME".toList)
    obtained := orNone (values.get? "T1".toList)
    expires := orNone (values.get? "LIFETIME".toList) }

/-! ### The ISC client -/

/-- `lease\s*\{(.*?)\}`, over line ends too. -/
def LEASE_BLOCK : Pattern :=
  [.skip (literal "lease".toList ++ [.greedy 0 isSpace, .one (· == '\x7b')]),
    .group [.lazily fun _ => true], .skip [.one (· == '\x7d')]]

/-- `[a-z0-9-]`. -/
def isOptionLetter (c : Char) : Bool := c.isLower || c.isDigit || c == '-'

/-- `option\s+([a-z0-9-]+)\s+([^;]+);`. -/
def OPTION : Pattern :=
  [.skip (literal "option".toList ++ [.greedy 1 isSpace]), .group [.greedy 1 isOptionLetter],
    .skip [.greedy 1 isSpace], .group [.greedy 1 (· != ';')], .skip [.one (· == ';')]]

/-- `interface\s+"([^"]+)"`. -/
def INTERFACE : Pattern :=
  [.skip (literal "interface".toList ++ [.greedy 1 isSpace, .one (· == '"')]),
    .group [.greedy 1 (· != '"')], .skip [.one (· == '"')]]

section Times

variable (table : DigitTable)

/-- The pattern of a time after a word: `renew\s+\d+\s+([0-9/]+\s+[0-9:]+);`. -/
def timeAfter (word : String) : Pattern :=
  [.skip (literal word.toList ++ [.greedy 1 isSpace,
      .greedy 1 fun c => (table.decimalDigit c).isSome, .greedy 1 isSpace]),
    .group [.greedy 1 fun c => c.isDigit || c == '/', .greedy 1 isSpace,
      .greedy 1 fun c => c.isDigit || c == ':'],
    .skip [.one (· == ';')]]

def RENEW : Pattern := timeAfter table "renew"

def EXPIRE : Pattern := timeAfter table "expire"

end Times

/-- `_LEASE_BLOCK.findall(text)`. -/
def blocksOf (text : Text) : List Text := (findall LEASE_BLOCK text).filterMap List.head?

/-- What the only group of a pattern captures, at its first match. -/
def firstGroup (p : Pattern) (text : Text) : Option Text :=
  (search p text).bind fun m => m.1.head?

/-- The options of a block, each with its value stripped. -/
def optionsOf (block : Text) : Dict Text Text :=
  Dict.ofPairs ((findall OPTION block).filterMap fun groups =>
    match groups with
    | [key, value] => some (key, strip value)
    | _ => none)

/-- `value.strip('"')`. -/
def stripQuotes (value : Text) : Text :=
  ((value.dropWhile (· == '"')).reverse.dropWhile (· == '"')).reverse

/-- A block is for the interface asked for, unless it names another. -/
def isFor (interface : Option Text) (block : Text) : Bool :=
  match interface, firstGroup INTERFACE block with
  | some asked, some name => name == asked
  | _, _ => true

section Blocks

variable (table : DigitTable)

def leaseOf (block : Text) : LeaseInfo :=
  let options := optionsOf block
  { dhcpServer := address (options.get? "dhcp-server-identifier".toList)
    router := (addresses ((options.get? "routers".toList).getD [])).head?
    dnsServers := addresses ((options.get? "domain-name-servers".toList).getD [])
    domain := orNone (some (stripQuotes ((options.get? "domain-name".toList).getD [])))
    obtained := firstGroup (RENEW table) block
    expires := firstGroup (EXPIRE table) block }

/-- One turn of the loop over the blocks. -/
def newer (interface : Option Text) (latest : LeaseInfo) (block : Text) : LeaseInfo :=
  if isFor interface block then leaseOf table block else latest

def parseDhclientLease (text : Text) (interface : Option Text) : LeaseInfo :=
  (blocksOf text).foldl (newer table interface) LeaseInfo.unset

end Blocks

/-! ### Files -/

def MAX_LEASE_BYTES : ℕ := 256 * 1024

/-- `read_lease_text`, of a file's contents, or of `none` when the file cannot be read. -/
def readLeaseText : Option Octets → Option Text
  | none => none
  | some contents =>
    let size := contents.length
    let start := if MAX_LEASE_BYTES < size then size - MAX_LEASE_BYTES else 0
    let raw := (contents.drop start).take MAX_LEASE_BYTES
    let text := decodeUtf8 raw
    if MAX_LEASE_BYTES < size then
      match find "lease".toList text with
      | some start => some (text.drop start)
      | none => some []
    else some text

end Leases

end IPScout
