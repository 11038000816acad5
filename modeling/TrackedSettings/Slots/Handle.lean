import TrackedSettings.Shared

/-! # Handles and grants

A store lets a reader watch a slot by a grant: a handle on the board, the slot's index, and the
generation that the slot held. The handle says who closes the view in it.
-/

namespace TrackedSettings

/-- A view together with the duty to close it. -/
inductive Handle where
  /-- The holder's own view, which the holder closes. -/
  | owned (view : View)
  /-- The store's own view, which a reader never closes. -/
  | borrowed (view : View)
deriving DecidableEq, Repr, Inhabited

namespace Handle

def view : Handle → View
  | owned v => v
  | borrowed v => v

/-- The holder closes the view. -/
def isOwned : Handle → Bool
  | owned _ => true
  | borrowed _ => false

/-- Close the view if that is the holder's duty. -/
def release (h : Handle) (s : Shared) : Shared :=
  match h with
  | owned v => s.close v
  | borrowed _ => s.note .trace "Leaving borrowed generation array open"

end Handle

/-- Leave to watch a slot, and the generation that was in it. -/
structure Grant where
  handle : Handle
  index : Nat
  generation : Int64
deriving DecidableEq, Repr, Inhabited

end TrackedSettings
