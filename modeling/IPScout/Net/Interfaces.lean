import IPScout.Base.Dict
import IPScout.Net.Address

/-!
# Interfaces and zones

A zone names the interface an address belongs to, by index or by name.  The
host's interface tables are a parameter: what `if_nametoindex`, `if_indextoname`
and `if_nameindex` answer, and the names and indices `local_interfaces()`
reports.

`zoneIndex` and `interfaceName` are those of `resolve.py`; `zoneInterface` is
`_zone` of `neighbours.py`, which tries the reported name when the other
spelling is unknown.
-/

namespace IPScout

open Base Base.Text

/-- One interface of `local_interfaces()`: its name and its index. -/
structure LocalInterface where
  name : Text
  index : Option Nat

/-- The host's interface tables, and the Python that runs on it.  A `none` of the first two is the
`OSError` or `ValueError` of an interface that is not there. -/
structure Interfaces where
  ifNametoindex : Text → Option Nat
  ifIndextoname : Nat → Option Text
  ifNameindex : List (Nat × Text)
  localInterfaces : List LocalInterface
  python : PythonVersion

def noInterfaces : Interfaces where
  ifNametoindex _ := none
  ifIndextoname _ := none
  ifNameindex := []
  localInterfaces := []
  python := .since313

/-- A sockaddr carries the scope as an unsigned 32-bit field. -/
def MAX_INTERFACE_INDEX : Nat := 2 ^ 32 - 1

def isInterfaceIndexDigits (zone : Text) : Bool :=
  1 ≤ zone.length && zone.length ≤ 10 && zone.all Char.isDigit

/-- The name of the interface with an index. -/
def interfaceName (env : Interfaces) (index : Nat) : Option Text :=
  if ¬ (1 ≤ index ∧ index ≤ MAX_INTERFACE_INDEX) then none
  else if index = MAX_INTERFACE_INDEX then (Dict.ofPairs env.ifNameindex).get? index
  else env.ifIndextoname index

/-- The interface index a zone names, by name or by number. -/
def zoneIndex (env : Interfaces) (zone : Text) : Except PyError Nat :=
  if isInterfaceIndexDigits zone then
    if decimalValue zone ≤ MAX_INTERFACE_INDEX then .ok (decimalValue zone)
    else .error (.scout .IPScoutResolutionError [say "zone ", .quoted zone,
      say " is past the largest interface index (", .text (decimal MAX_INTERFACE_INDEX),
      say "): use an index or a name this host has"])
  else
    match env.ifNametoindex zone with
    | some index => .ok index
    | none => .error (.scout .IPScoutResolutionError [say "no interface named ", .quoted zone,
        say " to send on: name one this host has, or use its index"])

/-- An interface a zone names. -/
structure ZoneInterface where
  interfaceIndex : Nat
  name : Text

/-- The index of the interface reported under a name; an index of 0 is none. -/
def reportedIndex (env : Interfaces) (name : Text) : Option Nat :=
  env.localInterfaces.findSome? fun entry =>
    if entry.name = name then entry.index.filter (· ≠ 0) else none

/-- `_zone`: the interface a zone names, by index or by either name. -/
def zoneInterface (env : Interfaces) (zone : Text) : Except PyError ZoneInterface := do
  let index ←
    match zoneIndex env zone with
    | .ok index => .ok index
    | .error e =>
      match reportedIndex env zone with
      | some index => .ok index
      | none => .error e
  match interfaceName env index with
  | some name => .ok ⟨index, name⟩
  | none => .error (.scout .IPScoutResolutionError [say "no interface with index ",
      .text (decimal index), say " to send on: name one this host has, or use its index"])

end IPScout
