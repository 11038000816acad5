/-! # Callers

A cache serves one user and knows where it runs: it is told so when it is made, and never asks its
surroundings.
-/

namespace TrackedSettings

/-- Users are known by number. -/
abbrev UserId := UInt32

/-- Who reads, and from where. -/
structure Caller where
  user : UserId := 0
  /-- The cache lives in the process of the store itself, where copies would be pointless. -/
  atStore : Bool := false
  /-- The caller holds the grant that restricted keys ask for. -/
  granted : Bool := false
deriving DecidableEq, Repr, Inhabited

namespace Caller

/-- A caller in a process of its own, without the grant. -/
def client (user : UserId) : Caller := { user }

/-- A caller in the store's process, which holds the grant. -/
def storeHost (user : UserId) : Caller := { user, atStore := true, granted := true }

def withGrant (c : Caller) : Caller := { c with granted := true }

end Caller

end TrackedSettings
