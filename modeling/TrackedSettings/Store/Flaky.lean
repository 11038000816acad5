import TrackedSettings.Store.Authority

/-! # A store that misbehaves on request

A front before an authoritative store. It counts the reads, remembers the views that it handed out,
and can be told to refuse calls, to fail, to keep its grants to itself, or to put a key again right
after reading it, as if another client had come between. Writes pass through.
-/

namespace TrackedSettings

/-- What a flaky store does with the fast read. -/
inductive FastPath where
  | enabled
  /-- It does not know the call. -/
  | unsupported
  | failing
deriving DecidableEq, Repr, Inhabited

structure Switches where
  fastPath : FastPath := .enabled
  queryFails : Bool := false
  canList : Bool := true
  listFails : Bool := false
  /-- Put a key's value again after each read of it. -/
  touches : Bool := false
  tracking : Bool := true
deriving DecidableEq, Repr, Inhabited

/-- The switches of a front, and what it has counted and remembered. -/
structure Flaky where
  switches : Switches := {}
  gets : Nat := 0
  queries : Nat := 0
  lists : Nat := 0
  /-- Reads that asked for a grant. -/
  trackedRequests : Nat := 0
  /-- The views in the grants that were let through, the latest first. -/
  handedOut : List View := []
deriving DecidableEq, Repr, Inhabited

namespace Flaky

def reads (f : Flaky) : Nat :=
  f.gets + f.queries + f.lists

/-- Count a request that asks for a grant. -/
def countRequest (f : Flaky) (request : ReadRequest) : Flaky :=
  if request.tracked then { f with trackedRequests := f.trackedRequests + 1 } else f

/-- Let a grant through, and remember its view. -/
def pass (f : Flaky) (grant : Option Grant) : Option Grant × Flaky :=
  match grant with
  | some g =>
      if f.switches.tracking then (some g, { f with handedOut := g.handle.view :: f.handedOut })
      else (none, f)
  | none => (none, f)

/-- Put the value of a key again. A key without an entry gets one. -/
def touch (f : Flaky) (key : String) (a : Authority) (s : Shared) : Authority × Shared :=
  if f.switches.touches then a.put key (a.value key) s else (a, s)

/-- The fast read, as the switches have it. -/
def get (f : Flaky) (key : String) (request : ReadRequest) (a : Authority) (s : Shared) :
    Except StoreError (Option Reading) × Flaky × Authority × Shared :=
  let f := { f with gets := f.gets + 1 }.countRequest request
  match f.switches.fastPath with
  | .enabled =>
      let (reading, a, s) := a.get key request s
      let (a, s) := f.touch key a s
      let (grant, f) := f.pass reading.grant
      (.ok (some { reading with grant }), f, a, s)
  | .unsupported => (.ok none, f, a, s)
  | .failing => (.error (.unavailable ("get '" ++ key ++ "'")), f, a, s)

/-- The plain read, as the switches have it. -/
def query (f : Flaky) (key : String) (a : Authority) (s : Shared) :
    Except StoreError Value × Flaky × Authority × Shared :=
  let f := { f with queries := f.queries + 1 }
  if f.switches.queryFails then (.error (.unavailable ("query '" ++ key ++ "'")), f, a, s)
  else (.ok (a.value key), f, f.touch key a s)

/-- A listing, as the switches have it. -/
def list (f : Flaky) (stem : String) (request : ReadRequest) (a : Authority) (s : Shared) :
    Except StoreError (Option Listing) × Flaky × Authority × Shared :=
  let f := { f with lists := f.lists + 1 }.countRequest request
  if !f.switches.canList then (.error (.unsupported "list"), f, a, s)
  else if f.switches.listFails then (.error (.unavailable ("list '" ++ stem ++ "'")), f, a, s)
  else
    let (listing, a, s) := a.list stem request s
    let (grant, f) := f.pass listing.grant
    (.ok (some { listing with grant }), f, a, s)

/-- Answer a call on behalf of the store behind. -/
def answer (f : Flaky) (call : StoreCall) (a : Authority) (s : Shared) :
    call.Reply × Flaky × Authority × Shared :=
  match call with
  | .get key request => f.get key request a s
  | .query key _ => f.query key a s
  | .canList => (f.switches.canList, f, a, s)
  | .list stem request => f.list stem request a s
  | .put .. | .putAll .. | .delete .. | .reset .. =>
      let (reply, a, s) := a.answer _ s
      (reply, f, a, s)

/-- Close every view that was handed out, as if the boards had gone away. -/
def breakHandedOut (f : Flaky) (s : Shared) : Shared :=
  f.handedOut.foldl (fun s v => s.close v) s

end Flaky

end TrackedSettings
