import TrackedSettings.Slots.Handle

/-! # Acts on views and handles

What somebody who holds a view or a handle can do with it, as data, and the answer to each act.
-/

namespace TrackedSettings

inductive SlotAnswer where
  | done
  | flag (b : Bool)
  | count (n : Nat)
  /-- The generation that was read, or that came of an increment. -/
  | generation (result : Except SlotError Int64)
  | written (result : Except SlotError Unit)

inductive ViewAct where
  | set (index : Nat) (generation : Int64)
  | increment (index : Nat)
  | read (index : Nat)
  | close
  | isClosed
  | isEmpty
  | isOwner
  | length
deriving DecidableEq, Repr, Inhabited

/-- Carry out an act. An increment answers with the generation that a read then finds. -/
def ViewAct.perform (act : ViewAct) (v : View) (s : Shared) : SlotAnswer × Shared :=
  match act with
  | set index generation =>
      match s.slots.set v index generation with
      | .ok slots => (.written (.ok ()), { s with slots })
      | .error e => (.written (.error e), s)
  | increment index =>
      match s.slots.increment v index with
      | .ok slots => (.generation (slots.read v index), { s with slots })
      | .error e => (.generation (.error e), s)
  | read index => (.generation (s.slots.read v index), s)
  | close => (.done, s.close v)
  | isClosed => (.flag (s.slots.isClosed v), s)
  | isEmpty => (.flag (s.slots.length v == 0), s)
  | isOwner => (.flag v.owner, s)
  | length => (.count (s.slots.length v), s)

inductive HandleAct where
  /-- Read a slot, by its index or else the one that the holder watches. -/
  | read (index : Option Nat)
  | release
  /-- Close the view in the handle, whosever it is. -/
  | close
  | isClosed
  | isOwned
deriving DecidableEq, Repr, Inhabited

/-- Carry out an act; `own` is the slot that the holder of the handle watches. -/
def HandleAct.perform (act : HandleAct) (h : Handle) (own : Nat) (s : Shared) :
    SlotAnswer × Shared :=
  match act with
  | read index => (.generation (s.slots.read h.view (index.getD own)), s)
  | release => (.done, h.release s)
  | close => (.done, s.close h.view)
  | isClosed => (.flag (s.slots.isClosed h.view), s)
  | isOwned => (.flag h.isOwned, s)

end TrackedSettings
