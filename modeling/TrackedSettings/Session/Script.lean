import TrackedSettings.Cache.Operation
import TrackedSettings.Slots.Act
import TrackedSettings.Store.Flaky

/-! # Scripts

A script is what somebody does with a deployment, step by step. A hook is a piece of script put
aside for a moment that comes up inside another step: when an observer is told something, or
between the moment when a store has its answer and the moment when the cache gets it.
-/

namespace TrackedSettings

inductive Moment where
  | hit
  | fetch
  | stale
  | trackerError
  | remoteError
  | get
  | query
  | list
deriving DecidableEq, Repr, Inhabited

def Event.moment : Event → Moment
  | hit _ => .hit
  | fetch _ => .fetch
  | stale _ => .stale
  | trackerError .. => .trackerError
  | remoteError .. => .remoteError

/-- The moment at which a store has the answer to a read. -/
def StoreCall.moment? : StoreCall → Option Moment
  | get .. => some .get
  | query .. => some .query
  | list .. => some .list
  | canList | put .. | putAll .. | delete .. | reset .. => none

inductive CacheAct where
  | value (key : String) (user : UserId)
  | listing (stem : String) (names : List String)
  | named (stem name : String)
  | put (key : String) (value : Value) (user : UserId)
  | putAll (stem : String) (values : Entries) (user : UserId)
  | delete (key : String) (user : UserId)
  | reset (stem : Option String) (user : UserId)
  | copy (key : String)
  | isTracked (topic : Topic)
  /-- Drop all copies and trackers, and forget the store. -/
  | clear
  /-- Drop the copy of a topic, and keep its tracker. -/
  | forget (topic : Topic)
  | profile
  | readable (key : String)
  /-- Find the store on behalf of a caller, the cache's own by default. -/
  | provider (caller : Option Caller)
  | unresolve
  /-- What the cache's observer has recorded. -/
  | heard

/-- New positions for some of a flaky store's switches. -/
structure SwitchChange where
  fastPath : Option FastPath := none
  queryFails : Option Bool := none
  canList : Option Bool := none
  listFails : Option Bool := none
  touches : Option Bool := none
  tracking : Option Bool := none
deriving DecidableEq, Repr, Inhabited

def SwitchChange.apply (c : SwitchChange) (s : Switches) : Switches where
  fastPath := c.fastPath.getD s.fastPath
  queryFails := c.queryFails.getD s.queryFails
  canList := c.canList.getD s.canList
  listFails := c.listFails.getD s.listFails
  touches := c.touches.getD s.touches
  tracking := c.tracking.getD s.tracking

inductive AuthorityAct where
  | call (call : StoreCall)
  | value (key : String)
  | generation (topic : Topic)
  /-- What the store was set up with. -/
  | setup

inductive FlakyAct where
  | switch (change : SwitchChange)
  | counts
  | breakHandedOut

inductive ReplayAct where
  /-- An act on the view that owns one of the store's boards. -/
  | board (number : Nat) (act : ViewAct)
  /-- The puts that the store has accepted. -/
  | stored

/-- What can be done with a store behind the back of all caches. -/
inductive StoreAct where
  | call (call : StoreCall)
  /-- An act on the authoritative store behind. -/
  | behind (act : AuthorityAct)
  | flaky (act : FlakyAct)
  | replay (act : ReplayAct)

inductive Instruction where
  | onCache (cache : Nat) (act : CacheAct)
  | onStore (store : StoreId) (act : StoreAct)
  /-- The state of every handle that stores have given out. -/
  | handles
  | onHandle (number : Nat) (act : HandleAct)
  /-- Put steps aside for the next time that a moment comes up. -/
  | hook (moment : Moment) (steps : List Instruction)

abbrev Script := List Instruction

mutual

def Instruction.hookCount : Instruction → Nat
  | .hook _ steps => scriptHookCount steps + 1
  | .onCache .. | .onStore .. | .handles | .onHandle .. => 0

def scriptHookCount : List Instruction → Nat
  | [] => 0
  | i :: rest => i.hookCount + scriptHookCount rest

end

end TrackedSettings
