/-! # What can go wrong

Errors are causes; their wording is in one function each. A `Fault` is what the user of a cache can
see. It keeps the error that caused it, if there is one.
-/

namespace TrackedSettings

/-- Why a slot could not be read or written. -/
inductive SlotError where
  | closed
  /-- The board has `length` slots, and `index` is not one of them. -/
  | outOfBounds (index length : Nat)
  /-- Only the view that owns a board may write to it. -/
  | readOnly
deriving DecidableEq, Repr, Inhabited

def SlotError.message : SlotError → String
  | closed => "generation array handle is closed"
  | outOfBounds index length =>
      s!"generation slot {index} is out of bounds (array length {length})"
  | readOnly => "generation array handle is read-only"

/-- Why a store did not answer. -/
inductive StoreError where
  /-- The store could not be reached, or broke off. -/
  | unavailable (text : String)
  /-- The store does not know this kind of call. -/
  | unsupported (call : String)
deriving DecidableEq, Repr, Inhabited

def StoreError.message : StoreError → String
  | unavailable text => s!"remote store unavailable: {text}"
  | unsupported call => "operation '" ++ call ++ "' is not supported by the store"

/-- An error together with the errors that caused it. -/
inductive Fault where
  | slot (error : SlotError)
  | store (error : StoreError)
  | denied (key : String)
  /-- No store was found behind `uri`. -/
  | unresolved (uri : String) (cause : Fault)
  | remote (cause : Fault)
deriving DecidableEq, Repr, Inhabited

namespace Fault

/-- The wording of a fault, which ends with that of its cause. -/
def message : Fault → String
  | slot error => error.message
  | store error => error.message
  | denied key => "reading '" ++ key ++ "' requires a grant the caller doesn't hold"
  | unresolved uri cause => "failed to resolve remote store '" ++ uri ++ "': " ++ cause.message
  | remote cause => "remote store call failed: " ++ cause.message

def cause? : Fault → Option Fault
  | unresolved _ cause => some cause
  | remote cause => some cause
  | slot _ | store _ | denied _ => none

end Fault

end TrackedSettings
