import TrackedSettings.Cache.Basic
import TrackedSettings.Store.Flaky
import TrackedSettings.Store.Replay

/-! # Caches and stores together

A deployment is any number of caches, the stores that they can find, and what all of them share.
Stores in front of the same authoritative store show the same settings.
-/

namespace TrackedSettings

/-- One store, as caches know it. -/
inductive Store where
  /-- The authoritative store of that number itself. -/
  | plain (authority : Nat)
  | flaky (front : Flaky) (authority : Nat)
  | replay (r : Replay)
deriving Inhabited

/-- What finds the store behind a cache's URI. -/
inductive Resolver where
  /-- It was known from the start. -/
  | fixed (store : StoreId)
  /-- Each attempt has its own outcome, and the last outcome stays. -/
  | planned (next : Except StoreError StoreId) (later : List (Except StoreError StoreId))
deriving Inhabited

def Resolver.resolve : Resolver → Except StoreError StoreId × Resolver
  | fixed store => (.ok store, fixed store)
  | planned next [] => (next, planned next [])
  | planned next (second :: later) => (next, planned second later)

/-- A cache with its copies and its way to the store. -/
structure Seat where
  cache : Cache
  resolver : Resolver
  copies : Copies := {}
  store : Option StoreId := none
deriving Inhabited

/-- Authoritative stores, the stores before them, and caches, each known by its place. -/
structure Deployment where
  shared : Shared := {}
  authorities : Array Authority := #[]
  stores : Array Store := #[]
  seats : Array Seat := #[]
deriving Inhabited

/-- The reply to a call that reaches no store. -/
def StoreCall.unreached (e : StoreError) : (call : StoreCall) → call.Reply
  | get .. | query .. | list .. | put .. | putAll .. | delete .. | reset .. => .error e
  | canList => false

namespace Deployment

/-- What the cache in seat `i` works on. -/
def workspace (dep : Deployment) (i : Nat) : Workspace :=
  match dep.seats[i]? with
  | some seat => { copies := seat.copies, store := seat.store, shared := dep.shared }
  | none => { shared := dep.shared }

/-- Take back the workspace of the cache in seat `i`. -/
def putBack (dep : Deployment) (i : Nat) (w : Workspace) : Deployment :=
  { dep with
    shared := w.shared
    seats := dep.seats.modify i fun seat => { seat with copies := w.copies, store := w.store } }

/-- A step on the workspace of the cache in seat `i`. -/
def change (dep : Deployment) (i : Nat) (step : Workspace → Workspace) : Deployment :=
  dep.putBack i (step (dep.workspace i))

def authority? (dep : Deployment) (store : StoreId) : Option Nat :=
  match dep.stores[store]? with
  | some (.plain a) | some (.flaky _ a) => some a
  | some (.replay _) | none => none

def callAuthority (dep : Deployment) (a : Nat) (call : StoreCall) : call.Reply × Deployment :=
  match dep.authorities[a]? with
  | none => (call.unreached (.unavailable "no such store"), dep)
  | some authority =>
      let (reply, authority, shared) := authority.answer call dep.shared
      (reply, { dep with shared, authorities := dep.authorities.setIfInBounds a authority })

def callStore (dep : Deployment) (store : StoreId) (call : StoreCall) : call.Reply × Deployment :=
  match dep.stores[store]? with
  | none => (call.unreached (.unavailable "no such store"), dep)
  | some (.plain a) => dep.callAuthority a call
  | some (.flaky front a) =>
      match dep.authorities[a]? with
      | none => (call.unreached (.unavailable "no such store"), dep)
      | some authority =>
          let (reply, front, authority, shared) := front.answer call authority dep.shared
          (reply,
            { dep with
              shared
              authorities := dep.authorities.setIfInBounds a authority
              stores := dep.stores.setIfInBounds store (.flaky front a) })
  | some (.replay r) =>
      let (reply, r, shared) := r.answer call dep.shared
      (reply, { dep with shared, stores := dep.stores.setIfInBounds store (.replay r) })

/-- The resolver of the cache in seat `i` looks for the store. -/
def resolve (dep : Deployment) (i : Nat) : Except StoreError StoreId × Deployment :=
  match dep.seats[i]? with
  | none => (.error (.unavailable "no such cache"), dep)
  | some seat =>
      let (outcome, resolver) := seat.resolver.resolve
      (outcome, { dep with seats := dep.seats.setIfInBounds i { seat with resolver } })

end Deployment

end TrackedSettings
