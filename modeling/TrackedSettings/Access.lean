import Std.Data.ExtTreeMap
import TrackedSettings.Caller

/-! # Read policies

A fixed table says which keys may be read by anyone and which ask for a grant. Keys that it does not
name are unrestricted.
-/

namespace TrackedSettings

inductive Policy where
  | unrestricted
  | restricted
deriving DecidableEq, Repr, Inhabited

/-- The policy of each key that has one of its own. -/
abbrev AccessTable := Std.ExtTreeMap String Policy

namespace AccessTable

/-- The table in which exactly `keys` are restricted. -/
def restricting (keys : List String) : AccessTable :=
  keys.foldl (fun table key => table.insert key .restricted) ∅

def policy (table : AccessTable) (key : String) : Policy :=
  table[key]?.getD .unrestricted

def readable (table : AccessTable) (key : String) (caller : Caller) : Bool :=
  match table.policy key with
  | .unrestricted => true
  | .restricted => caller.granted

end AccessTable

end TrackedSettings
