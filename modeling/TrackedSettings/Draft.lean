import TrackedSettings.Deployment

/-! # Setting a deployment up

Caches and stores are made from drafts. A draft may leave out what has a default; a draft that lacks
what has none cannot be built.
-/

namespace TrackedSettings

inductive BuildError where
  | missing (field : String)
deriving DecidableEq, Repr, Inhabited

def BuildError.message : BuildError → String
  | missing field => "Field '" ++ field ++ "' is not set"

/-- A store's URI and what finds the store behind it. -/
structure Link where
  uri : String
  resolver : Resolver
deriving Inhabited

/-- What a cache is made from. It needs a link. -/
structure CacheDraft where
  name : Option String := none
  link : Option Link := none
  caller : Caller := {}
  access : AccessTable := ∅
deriving Inhabited

/-- A cache without copies that has not looked for its store. -/
def CacheDraft.build (d : CacheDraft) : Except BuildError Seat :=
  match d.link with
  | none => .error (.missing "store")
  | some link =>
      .ok
        { cache := { name := d.name, uri := link.uri, caller := d.caller, access := d.access }
          resolver := link.resolver }

/-- What an authoritative store is made from. -/
structure AuthorityDraft where
  capacity : Nat := Registry.defaultCapacity
  transfer : Transfer := .duplicate
  defaults : Std.ExtTreeMap String String := ∅
deriving Inhabited

def AuthorityDraft.build (d : AuthorityDraft) (s : Shared) : Authority × Shared :=
  Authority.create d.capacity d.transfer d.defaults s

/-- What a flaky front is made from. It needs a store behind it. -/
structure FlakyDraft where
  backend : Option AuthorityDraft := none
  switches : Switches := {}
deriving Inhabited

/-- What a replaying store is made from: its boards and its answers. -/
structure ReplayDraft where
  boards : List (List Int64) := []
  canList : Bool := true
  gets : List (Except StoreError (Option (Value × Option Offer))) := []
  queries : List (Except StoreError Value) := []
  lists : List (Except StoreError (Option (Entries × Option Offer))) := []
  puts : List (Except StoreError Unit) := []
  deletes : List (Except StoreError Bool) := []
  resets : List (Except StoreError Unit) := []
deriving Inhabited

inductive StoreDraft where
  | plain (backend : AuthorityDraft)
  | flaky (front : FlakyDraft)
  | replay (r : ReplayDraft)
deriving Inhabited

/-- Boards that hold the given generations, and the views that own them. -/
def buildBoards (boards : List (List Int64)) (m : Slots) : Array View × Slots :=
  boards.foldl (fun (views, m) generations =>
    let (view, m) := m.create generations.length
    (views.push view, { m with boards := m.boards.setIfInBounds view.board generations.toArray }))
    (#[], m)

namespace Deployment

/-- Add an authoritative store, and say which place it has. -/
def addAuthority (dep : Deployment) (d : AuthorityDraft) : Nat × Deployment :=
  let (authority, shared) := d.build dep.shared
  (dep.authorities.size, { dep with shared, authorities := dep.authorities.push authority })

/-- Add a store. One that needs an authoritative store gets one of its own. -/
def addStore (dep : Deployment) (d : StoreDraft) : Except BuildError Deployment :=
  match d with
  | .plain backend =>
      let (a, dep) := dep.addAuthority backend
      .ok { dep with stores := dep.stores.push (.plain a) }
  | .flaky { backend := none, .. } => .error (.missing "backend")
  | .flaky { backend := some backend, switches } =>
      let (a, dep) := dep.addAuthority backend
      .ok { dep with stores := dep.stores.push (.flaky { switches } a) }
  | .replay d =>
      let (boards, slots) := buildBoards d.boards dep.shared.slots
      let r : Replay :=
        { number := dep.stores.size, boards, canList := d.canList, gets := d.gets
          queries := d.queries, lists := d.lists, puts := d.puts, deletes := d.deletes
          resets := d.resets }
      .ok { dep with shared := { dep.shared with slots }, stores := dep.stores.push (.replay r) }

def addCache (dep : Deployment) (d : CacheDraft) : Except BuildError Deployment := do
  let seat ← d.build
  return { dep with seats := dep.seats.push seat }

/-- A deployment with the given stores and caches, each known by its place. -/
def build (stores : List StoreDraft) (caches : List CacheDraft) : Except BuildError Deployment := do
  let dep ← stores.foldlM addStore {}
  caches.foldlM addCache dep

end Deployment

end TrackedSettings
