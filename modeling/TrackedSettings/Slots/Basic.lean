import TrackedSettings.Error

/-! # Shared boards of slots

A board is a fixed row of 64-bit counters shared by those who watch it. It is reached through views.
The view that came with the board owns it and may write; a duplicate shares the slots and only
reads. Each view is open until it is closed, on its own and for good. Counters wrap around, since
readers only compare them for equality.
-/

namespace TrackedSettings

/-- One way to reach a board. Views are told apart by their serial number. -/
structure View where
  serial : Nat
  board : Nat
  owner : Bool
deriving DecidableEq, Repr, Inhabited

/-- All boards, and which of the views on them were closed. -/
structure Slots where
  boards : Array (Array Int64) := #[]
  /-- How many views were issued; their serial numbers are the numbers below. -/
  issued : Nat := 0
  closed : List Nat := []
deriving DecidableEq, Repr, Inhabited

namespace Slots

/-- The slots of the board that `v` is on. -/
def row (m : Slots) (v : View) : Array Int64 :=
  m.boards[v.board]?.getD #[]

def length (m : Slots) (v : View) : Nat :=
  (m.row v).size

def isClosed (m : Slots) (v : View) : Bool :=
  m.closed.contains v.serial

/-- A new board of `length` slots, all zero, and the view that owns it. -/
def create (m : Slots) (length : Nat) : View × Slots :=
  ({ serial := m.issued, board := m.boards.size, owner := true },
    { m with boards := m.boards.push (.replicate length 0), issued := m.issued + 1 })

/-- Another view on the board of `v`, open and for reading only. -/
def duplicate (m : Slots) (v : View) : View × Slots :=
  ({ serial := m.issued, board := v.board, owner := false }, { m with issued := m.issued + 1 })

def read (m : Slots) (v : View) (index : Nat) : Except SlotError Int64 :=
  if m.isClosed v then .error .closed
  else
    match (m.row v)[index]? with
    | some generation => .ok generation
    | none => .error (.outOfBounds index (m.length v))

/-- Replace a slot by `f` of it. That the view may not write is found before anything else. -/
def modify (m : Slots) (v : View) (index : Nat) (f : Int64 → Int64) : Except SlotError Slots :=
  if v.owner then
    match m.read v index with
    | .ok _ => .ok { m with boards := m.boards.modify v.board (·.modify index f) }
    | .error e => .error e
  else .error .readOnly

def set (m : Slots) (v : View) (index : Nat) (generation : Int64) : Except SlotError Slots :=
  m.modify v index fun _ => generation

/-- Add one to a slot, wrapping around. -/
def increment (m : Slots) (v : View) (index : Nat) : Except SlotError Slots :=
  m.modify v index (· + 1)

def close (m : Slots) (v : View) : Slots :=
  if m.isClosed v then m else { m with closed := v.serial :: m.closed }

/-! ## What each operation does to what is read -/

@[simp] theorem row_duplicate (m : Slots) (v u : View) : (m.duplicate v).2.row u = m.row u := rfl

@[simp] theorem isClosed_duplicate (m : Slots) (v u : View) :
    (m.duplicate v).2.isClosed u = m.isClosed u := rfl

@[simp] theorem row_close (m : Slots) (v u : View) : (m.close v).row u = m.row u := by
  unfold close
  split <;> rfl

/-- Closing a view closes that view alone. -/
theorem isClosed_close (m : Slots) (v u : View) :
    (m.close v).isClosed u = (u.serial == v.serial || m.isClosed u) := by
  unfold close
  split
  · next h =>
    by_cases same : u.serial = v.serial
    · simp_all [isClosed]
    · simp [same]
  · simp only [isClosed, List.contains_cons]

/-- Closing a view again does nothing. -/
@[simp] theorem close_close (m : Slots) (v : View) : (m.close v).close v = m.close v := by
  have closed : (m.close v).isClosed v = true := by simp [isClosed_close]
  simp [close.eq_def (m.close v) v, closed]

@[simp] theorem isClosed_create (m : Slots) (length : Nat) (u : View) :
    (m.create length).2.isClosed u = m.isClosed u := rfl

/-- Writing fails for the same reason as reading, once the view may write. -/
theorem modify_eq_error_iff (m : Slots) (v : View) (index : Nat) (f : Int64 → Int64)
    (e : SlotError) :
    m.modify v index f = .error e ↔
      v.owner = false ∧ e = .readOnly ∨ v.owner = true ∧ m.read v index = .error e := by
  unfold modify
  cases v.owner <;> cases m.read v index <;> simp [eq_comm]

/-- A write leaves every view as open or closed as it was. -/
theorem isClosed_modify {m m' : Slots} {v : View} {index : Nat} {f : Int64 → Int64}
    (h : m.modify v index f = .ok m') (u : View) : m'.isClosed u = m.isClosed u := by
  unfold modify at h
  split at h
  · split at h
    · cases h; rfl
    · simp at h
  · simp at h

end Slots

end TrackedSettings
