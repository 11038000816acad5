import TrackedSettings.Store.Call

/-! # A store that replays answers

It has a queue of answers for each kind of call and gives them out in order; with nothing left to
say, it is unavailable. It owns boards that its grants can be for, so that a grant can be late,
wrong, or shared with another.
-/

namespace TrackedSettings

/-- A grant to be made when the answer is given. -/
structure Offer where
  board : Nat
  index : Nat
  generation : Int64
  /-- The reader closes the view. -/
  owned : Bool := true
  /-- The view is a new one, not the store's own. -/
  duplicate : Bool := true
deriving DecidableEq, Repr, Inhabited

/-- The answers still to be given, and the boards that grants can be for. -/
structure Replay where
  /-- The number that failures name the store by. -/
  number : Nat
  boards : Array View := #[]
  canList : Bool := true
  gets : List (Except StoreError (Option (Value × Option Offer))) := []
  queries : List (Except StoreError Value) := []
  lists : List (Except StoreError (Option (Entries × Option Offer))) := []
  puts : List (Except StoreError Unit) := []
  deletes : List (Except StoreError Bool) := []
  resets : List (Except StoreError Unit) := []
  /-- The puts that succeeded, the latest first. -/
  stored : List (String × Value × UserId) := []
deriving Inhabited

namespace Replay

/-- The next answer of a queue, and the rest of it. -/
def next {α : Type} (r : Replay) (name : String) :
    List (Except StoreError α) → Except StoreError α × List (Except StoreError α)
  | [] => (.error (.unavailable s!"{name} queue {r.number} is empty"), [])
  | answer :: rest => (answer, rest)

def grant (r : Replay) (offer : Option Offer) (s : Shared) : Option Grant × Shared :=
  match offer with
  | none => (none, s)
  | some o =>
      match r.boards[o.board]? with
      | none => (none, s)
      | some own =>
          let (view, slots) := if o.duplicate then s.slots.duplicate own else (own, s.slots)
          let handle := if o.owned then .owned view else .borrowed view
          (some { handle, index := o.index, generation := o.generation }, { s with slots })

/-- Take the next put's answer, and remember the put if it succeeds. -/
def put (user : UserId) (key : String) (value : Value) (r : Replay) :
    Except StoreError Unit × Replay :=
  match r.next "put" r.puts with
  | (.ok (), puts) => (.ok (), { r with puts, stored := (key, value, user) :: r.stored })
  | (.error e, puts) => (.error e, { r with puts })

def answer (r : Replay) (call : StoreCall) (s : Shared) : call.Reply × Replay × Shared :=
  match call with
  | .get _ _ =>
      match r.next "get" r.gets with
      | (.ok (some (value, offer)), gets) =>
          let (grant, s) := r.grant offer s
          (.ok (some { value, grant }), { r with gets }, s)
      | (.ok none, gets) => (.ok none, { r with gets }, s)
      | (.error e, gets) => (.error e, { r with gets }, s)
  | .query _ _ =>
      let (value, queries) := r.next "query" r.queries
      (value, { r with queries }, s)
  | .canList => (r.canList, r, s)
  | .list _ _ =>
      match r.next "list" r.lists with
      | (.ok (some (entries, offer)), lists) =>
          let (grant, s) := r.grant offer s
          (.ok (some { entries, grant }), { r with lists }, s)
      | (.ok none, lists) => (.ok none, { r with lists }, s)
      | (.error e, lists) => (.error e, { r with lists }, s)
  | .put key value user =>
      let (reply, r) := r.put user key value
      (reply, r, s)
  | .putAll stem values user =>
      let (reply, r) := putEach (put user) stem values.toList r
      (reply, r, s)
  | .delete _ _ =>
      let (reply, deletes) := r.next "delete" r.deletes
      (reply, { r with deletes }, s)
  | .reset _ _ =>
      let (reply, resets) := r.next "reset" r.resets
      (reply, { r with resets }, s)

/-- The puts that succeeded, in the order of key, value and user; no value comes first. -/
def storedInOrder (r : Replay) : List (String × Value × UserId) :=
  let rank (p : String × Value × UserId) : String × Bool × String × UserId :=
    (p.1, p.2.1.isSome, p.2.1.getD "", p.2.2)
  let le (p q : String × Bool × String × UserId) : Bool :=
    (compare p.1 q.1).then ((compare p.2.1 q.2.1).then
      ((compare p.2.2.1 q.2.2.1).then (compare p.2.2.2 q.2.2.2))) != .gt
  r.stored.mergeSort fun p q => le (rank p) (rank q)

end Replay

end TrackedSettings
