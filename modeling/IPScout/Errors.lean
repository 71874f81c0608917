import Mathlib.Data.Rat.Init
import IPScout.Base.Text

/-!
# What a call raises

The exceptions the modelled functions raise or meet, told apart as far as an
`except` clause can tell them apart: the library's own hierarchy
(`IPScoutError` and its subclasses), `OSError` with the subclasses and numbers
the code asks about, `UnicodeError`, every other `ValueError`, a model's refusal
included, and `IndexError`.

An error text is kept as the pieces of its format string.  A piece written
`{x!r}` is `Piece.quoted x`, and one written `{x:g}` is `Piece.general x`: how
`repr` and `format` render them is not decided here, and they are never empty.
-/

namespace IPScout

open Base

/-- A piece of an error text. -/
inductive Piece
  | text (t : Text)
  | quoted (t : Text)
  | general (x : ℚ)
  deriving DecidableEq

abbrev Message := List Piece

/-- A piece of an error text as it is written. -/
def say (s : String) : Piece := .text s.toList

def Message.isEmpty (m : Message) : Bool := m.all fun
  | .text t => t == []
  | .quoted _ => false
  | .general _ => false

theorem Message.isEmpty_say_cons {s : String} (h : s ≠ "") (rest : List Piece) :
    Message.isEmpty (say s :: rest) = false := by
  have : s.toList ≠ [] := fun he => h (String.toList_eq_nil_iff.mp he)
  simp [Message.isEmpty, say, this]

/-- The subclasses of `OSError` that some clause names. -/
inductive OSErrorClass
  | OSError
  | TimeoutError
  | ConnectionRefusedError
  | ConnectionResetError
  | gaierror
  deriving DecidableEq

def OSErrorClass.name : OSErrorClass → Text
  | OSError => "OSError".toList
  | TimeoutError => "TimeoutError".toList
  | ConnectionRefusedError => "ConnectionRefusedError".toList
  | ConnectionResetError => "ConnectionResetError".toList
  | gaierror => "gaierror".toList

/-- An `OSError`: its class, its numbers and its text. -/
structure OSErr where
  cls : OSErrorClass
  errno : Option Int
  winerror : Option Int
  strerror : Option Text
  str : Text
  deriving DecidableEq

/-- `PermissionError`. -/
def OSErr.isPermissionError (e : OSErr) : Bool :=
  e.errno == some 1 || e.errno == some 13

/-- The classes under `IPScoutError`. -/
inductive ScoutClass
  | IPScoutError
  | IPScoutPermissionError
  | IPScoutResolutionError
  | IPScoutSweepTooWideError
  | IPScoutSweepIncompleteError
  | IPScoutUnsupportedError
  deriving DecidableEq

def ScoutClass.name : ScoutClass → Text
  | IPScoutError => "IPScoutError".toList
  | IPScoutPermissionError => "IPScoutPermissionError".toList
  | IPScoutResolutionError => "IPScoutResolutionError".toList
  | IPScoutSweepTooWideError => "IPScoutSweepTooWideError".toList
  | IPScoutSweepIncompleteError => "IPScoutSweepIncompleteError".toList
  | IPScoutUnsupportedError => "IPScoutUnsupportedError".toList

/-- An exception. -/
inductive PyError
  | scout (cls : ScoutClass) (msg : Message)
  | os (e : OSErr)
  | unicode (msg : Message)
  | value (msg : Message)
  | index (msg : Message)
  deriving DecidableEq

namespace PyError

/-- `except IPScoutError`. -/
def isIPScoutError : PyError → Bool
  | scout _ _ => true
  | _ => false

/-- `except OSError`. -/
def isOSError : PyError → Bool
  | os _ => true
  | _ => false

/-- `except TimeoutError`. -/
def isTimeoutError : PyError → Bool
  | os e => e.cls == .TimeoutError
  | _ => false

/-- An `IPScoutResolutionError`. -/
def isResolutionError : PyError → Bool
  | scout cls _ => cls == .IPScoutResolutionError
  | _ => false

/-- `str(exc)`. -/
def str : PyError → Message
  | scout _ msg => msg
  | os e => [.text e.str]
  | unicode msg => msg
  | value msg => msg
  | index msg => msg

/-- `type(exc).__name__`. -/
def className : PyError → Text
  | scout cls _ => cls.name
  | os e => e.cls.name
  | unicode _ => "UnicodeError".toList
  | value _ => "ValueError".toList
  | index _ => "IndexError".toList

/-- `failure_reason`: the exception's own words, or its class when it has none. -/
def failureReason (e : PyError) : Message := if e.str.isEmpty then [.text e.className] else e.str

/-- **A failure always names a reason.** -/
theorem failureReason_ne_empty (e : PyError) : e.failureReason.isEmpty = false := by
  rw [failureReason]
  split
  · cases e with
    | scout cls msg => cases cls <;> rfl
    | os e => obtain ⟨cls, _, _, _, _⟩ := e; cases cls <;> rfl
    | unicode msg => rfl
    | value msg => rfl
    | index msg => rfl
  · next h => simpa using h

end PyError

end IPScout
