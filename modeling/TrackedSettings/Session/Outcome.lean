import TrackedSettings.Cache.Basic
import TrackedSettings.Session.Script

/-! # What a session shows

Each step of a script has an outcome. What happens inside it leaves marks: what observers were told,
the calls to stores and resolvers, and the outcomes of the steps of hooks.
-/

namespace TrackedSettings

structure Profile where
  cache : Cache
  resolved : Bool
deriving Inhabited

structure HandleState where
  owned : Bool
  index : Nat
  closed : Bool
deriving DecidableEq, Repr, Inhabited

inductive Outcome where
  | done
  /-- The step names something that is not there. -/
  | inapplicable
  | flag (b : Bool)
  | value (v : Value)
  | copy (c : Option Value)
  | entries (t : Entries)
  | read (result : Except Fault Value)
  | written (result : Except Fault Unit)
  | deleted (result : Except Fault Bool)
  | found (result : Except Fault StoreId)
  | profile (p : Profile)
  | heard (events : Array Event)
  /-- A store's reply, and the number of the handle that came with it. -/
  | replied (call : StoreCall) (reply : call.Reply) (handle : Nat)
  | generation (g : Option Int64)
  | setup (capacity : Nat) (transfer : Transfer) (defaults : Std.ExtTreeMap String String)
  | switches (s : Switches)
  | counts (f : Flaky)
  | slot (answer : SlotAnswer)
  | stored (puts : List (String × Value × UserId))
  | handles (states : List HandleState)

/-- A trace of what happened inside a step. -/
inductive Mark where
  /-- An observer was told something, when the topic was tracked or not and had a copy or not. -/
  | observed (cache : Nat) (event : Event) (tracked : Bool) (copy : Option Value)
  | called (store : StoreId) (call : StoreCall)
  | resolving (uri : String) (caller : Caller)
  | nested (moment : Moment) (outcome : Outcome)

end TrackedSettings
