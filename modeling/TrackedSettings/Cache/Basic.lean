import TrackedSettings.Access
import TrackedSettings.Cache.Operation

/-! # Caches

A cache is set up with a name, the URI of its store, the caller that it serves and the read policies
that it enforces; none of these change. What does change is in its workspace. This module holds what
all its operations need: notes under its name, and the store, which is looked for the first time it
is needed.
-/

namespace TrackedSettings

structure Cache where
  /-- For notes only. -/
  name : Option String := none
  uri : String
  caller : Caller := {}
  access : AccessTable := ∅
deriving Inhabited

namespace Cache

open Operation

def label (c : Cache) : String :=
  c.name.getD "<anon>"

def jot (c : Cache) (level : Level) (text : String) (w : Workspace) : Workspace :=
  w.note level s!"[{c.label}] {text}"

def note (c : Cache) (level : Level) (text : String) : Operation Unit :=
  change (c.jot level text)

/-- Copies of single values are kept for the cache's own user, and never next to the store. -/
def keepsFor (c : Cache) (user : UserId) : Bool :=
  user == c.caller.user && !c.caller.atStore

/-- Note that a read could not reach the store, and tell the observer. -/
def remoteError (c : Cache) (topic : Topic) (fault : Fault) : Operation Unit := do
  c.note .warn s!"Remote read of {topic.describe} failed: {fault.message}"
  notify (.remoteError topic fault)

/-- The store: the one found before, or else the one that the resolver finds now. A failure is not
remembered. -/
def provider (c : Cache) (caller : Caller) : Operation (Except Fault StoreId) := do
  match ← locked fun w => (w.store, w) with
  | some store => return .ok store
  | none =>
      change (·.note .debug ("Resolving remote store '" ++ c.uri ++ "'"))
      match ← ask (.resolve c.uri caller) with
      | .ok store =>
          change fun w => { w with store := some store }
          return .ok store
      | .error e => return .error (.unresolved c.uri (.store e))

end Cache

end TrackedSettings
