import IPScout.Errors

/-!
# Deadlines and refusals

`within` of `deadline.py` and `is_refusal` of `sockerr.py`.  Whether a deadline
comes before what is awaited ends is the environment's choice (`Awaited`).
-/

namespace IPScout

open Base

/-- How an await under a deadline ends. -/
inductive Awaited (α : Type)
  | expired
  | ended (result : Except PyError α)

/-- The `TimeoutError` of a deadline that has passed. -/
def deadlinePassed : PyError := .os ⟨.TimeoutError, none, none, none, []⟩

/-- `within(deadline, awaitable)`; a timeout of the awaitable's own is one of the
deadline's. -/
def within {α : Type} : Awaited α → Except PyError α
  | .expired => .error deadlinePassed
  | .ended (.ok a) => .ok a
  | .ended (.error e) => if e.isTimeoutError then .error deadlinePassed else .error e

/-- What is no `OSError` comes through as it is. -/
theorem within_ended_error {α : Type} {e : PyError} (h : e.isOSError = false) :
    within (.ended (.error e) : Awaited α) = .error e := by
  cases e with
  | os e => simp [PyError.isOSError] at h
  | scout cls msg => rfl
  | unicode msg => rfl
  | value msg => rfl
  | index msg => rfl

/-- `errno.ECONNREFUSED` of Linux. -/
def ECONNREFUSED : Int := 111

def WSAECONNREFUSED : Int := 10061

def ERROR_CONNECTION_REFUSED : Int := 1225

def REFUSAL_CODES : List Int := [ECONNREFUSED, WSAECONNREFUSED, ERROR_CONNECTION_REFUSED]

/-- Whether an error means the target actively refused. -/
def isRefusal (e : OSErr) : Bool :=
  e.cls == .ConnectionRefusedError || e.errno.any (· ∈ REFUSAL_CODES) ||
    e.winerror.any (· ∈ REFUSAL_CODES)

end IPScout
