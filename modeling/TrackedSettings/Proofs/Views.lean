import TrackedSettings.Proofs.Bumps
import TrackedSettings.Slots.Act

/-! # Many views on a board

A program makes boards, duplicates views, and reads, writes and closes through them, in any order.
What each view answers can be told from the steps of the program alone: the views on one board share
its slots, a slot holds what the board's owner made of it last, and each view is open until it is
closed itself.
-/

namespace TrackedSettings

/-! ## Writing through a view -/

/-- The act was refused, for whatever reason. -/
def SlotAnswer.failed : SlotAnswer → Bool
  | generation (.error _) | written (.error _) => true
  | generation (.ok _) | written (.ok _) | done | flag _ | count _ => false

/-- What an act makes of a slot, if it may write. -/
def ViewAct.writes (index : Nat) (generation : Int64) : ViewAct → Int64
  | set i value => if i = index then value else generation
  | increment i => if i = index then generation + 1 else generation
  | read _ | close | isClosed | isEmpty | isOwner | length => generation

namespace Slots

variable {m m' : Slots} {v : View} {i : Nat} {f : Int64 → Int64}

theorem modify_eq_ok_iff :
    m.modify v i f = .ok m' ↔ v.owner = true ∧ (∃ generation, m.read v i = .ok generation) ∧
      m' = { m with boards := m.boards.modify v.board (·.modify i f) } := by
  unfold modify
  cases v.owner <;> cases m.read v i <;> simp [eq_comm]

/-- A view that could write but did not has no such slot. -/
theorem getElem?_row_of_modify_error {e : SlotError} (failed : m.modify v i f = .error e)
    (owns : v.owner = true) (isOpen : m.isClosed v = false) : (m.row v)[i]? = none := by
  have unread := (modify_eq_error_iff m v i f e).mp failed
  cases found : (m.row v)[i]? with
  | none => rfl
  | some generation =>
      have read := read_eq_ok_iff.mpr ⟨isOpen, found⟩
      simp [owns, read] at unread

/-- What is there after an attempt to write. -/
def attempted (m : Slots) : Except SlotError Slots → Slots
  | .ok m' => m'
  | .error _ => m

/-- An attempt to write changes slots only. -/
theorem attempted_keeps (m : Slots) (v : View) (i : Nat) (f : Int64 → Int64) :
    (m.attempted (m.modify v i f)).closed = m.closed ∧
      (m.attempted (m.modify v i f)).issued = m.issued ∧
        (m.attempted (m.modify v i f)).boards.size = m.boards.size := by
  cases written : m.modify v i f with
  | error e => exact ⟨rfl, rfl, rfl⟩
  | ok m' =>
      obtain ⟨-, -, rfl⟩ := modify_eq_ok_iff.mp written
      simp [attempted]

/-- An attempt to write changes at most one slot of one board. -/
theorem row_attempted (m : Slots) (v u : View) (i index : Nat) (f : Int64 → Int64) :
    ((m.attempted (m.modify v i f)).row u)[index]? =
      (m.row u)[index]?.map fun generation =>
        if u.board = v.board ∧ v.owner = true ∧ m.isClosed v = false then
          if i = index then f generation else generation
        else generation := by
  by_cases mayWrite : u.board = v.board ∧ v.owner = true ∧ m.isClosed v = false
  · obtain ⟨same, owns, isOpen⟩ := mayWrite
    rw [row_eq_of_board _ same, row_eq_of_board _ same]
    cases written : m.modify v i f with
    | error e =>
        have absent := getElem?_row_of_modify_error written owns isOpen
        by_cases here : i = index <;> simp_all [attempted]
    | ok m' =>
        obtain ⟨-, -, rfl⟩ := modify_eq_ok_iff.mp written
        rw [attempted, row_modified, Array.getElem?_modify]
        by_cases here : i = index <;> simp [same, owns, isOpen, here]
  · have still : (m.attempted (m.modify v i f)).row u = m.row u := by
      cases written : m.modify v i f with
      | error e => rfl
      | ok m' =>
          obtain ⟨owns, ⟨generation, read⟩, rfl⟩ := modify_eq_ok_iff.mp written
          have isOpen := (read_eq_ok_iff.mp read).1
          have apart : v.board ≠ u.board := fun same => mayWrite ⟨same.symm, owns, isOpen⟩
          simp [attempted, row, Array.getElem?_modify, apart]
    simp [still, mayWrite]

end Slots

namespace ViewAct

theorem slots_set (v : View) (s : Shared) (i : Nat) (value : Int64) :
    ((set i value).perform v s).2.slots = s.slots.attempted (s.slots.modify v i fun _ => value) := by
  simp only [perform, Slots.set]
  cases s.slots.modify v i fun _ => value <;> rfl

theorem slots_increment (v : View) (s : Shared) (i : Nat) :
    ((increment i).perform v s).2.slots = s.slots.attempted (s.slots.modify v i (· + 1)) := by
  simp only [perform, Slots.increment]
  cases s.slots.modify v i (· + 1) <;> rfl

/-- An act makes of each slot what it writes, if its view owns the board and is open. -/
theorem row_perform (act : ViewAct) (v u : View) (s : Shared) (index : Nat) :
    ((act.perform v s).2.slots.row u)[index]? =
      (s.slots.row u)[index]?.map fun generation =>
        if u.board = v.board ∧ v.owner = true ∧ s.slots.isClosed v = false then
          act.writes index generation
        else generation := by
  cases act with
  | set i value => rw [slots_set, Slots.row_attempted]; rfl
  | increment i => rw [slots_increment, Slots.row_attempted]; rfl
  | close => simp [perform, Shared.close, writes]
  | read | isClosed | isEmpty | isOwner | length => simp [perform, writes]

/-- No act issues a view or makes a board. -/
theorem issued_perform (act : ViewAct) (v : View) (s : Shared) :
    (act.perform v s).2.slots.issued = s.slots.issued ∧
      (act.perform v s).2.slots.boards.size = s.slots.boards.size := by
  cases act with
  | set i value => rw [slots_set]; exact (s.slots.attempted_keeps v i _).2
  | increment i => rw [slots_increment]; exact (s.slots.attempted_keeps v i _).2
  | close => simp only [perform, Shared.close, Slots.close]; split <;> exact ⟨rfl, rfl⟩
  | read | isClosed | isEmpty | isOwner | length => exact ⟨rfl, rfl⟩

/-- Only closing closes, and it closes its own view only. -/
theorem isClosed_perform (act : ViewAct) (v u : View) (s : Shared) :
    (act.perform v s).2.slots.isClosed u =
      (u.serial == v.serial && act == .close || s.slots.isClosed u) := by
  cases act with
  | set i value => simp [slots_set, Slots.isClosed, s.slots.attempted_keeps]
  | increment i => simp [slots_increment, Slots.isClosed, s.slots.attempted_keeps]
  | close => simp [perform, Shared.close, Slots.isClosed_close]
  | read | isClosed | isEmpty | isOwner | length => simp [perform]

theorem answer_set (v : View) (s : Shared) (i : Nat) (value : Int64) :
    ((set i value).perform v s).1 =
      .written (if v.owner then (s.slots.read v i).map fun _ => () else .error .readOnly) := by
  simp only [perform, Slots.set, Slots.modify]
  cases v.owner <;> cases s.slots.read v i <;> rfl

/-- An increment answers with one more than a read has found. -/
theorem answer_increment (v : View) (s : Shared) (i : Nat) :
    ((increment i).perform v s).1 =
      .generation (if v.owner then (s.slots.read v i).map (· + 1) else .error .readOnly) := by
  simp only [perform, Slots.increment]
  cases written : s.slots.modify v i (· + 1) with
  | error e =>
      rcases (Slots.modify_eq_error_iff ..).mp written with ⟨owns, rfl⟩ | ⟨owns, read⟩
      · simp [owns]
      · simp [owns, read, Except.map]
  | ok m' =>
      obtain ⟨owns, ⟨generation, read⟩, -⟩ := Slots.modify_eq_ok_iff.mp written
      have row := s.slots.row_attempted v v i i (· + 1)
      obtain ⟨isOpen, held⟩ := Slots.read_eq_ok_iff.mp read
      rw [written, Slots.attempted] at row
      have after : m'.read v i = .ok (generation + 1) := by
        rw [Slots.read_eq_ok_iff, Slots.isClosed_modify written, row, held]
        simp [owns, isOpen]
      simp [owns, read, after, Except.map]

/-- An act that fails changes nothing. -/
theorem perform_of_failed {act : ViewAct} {v : View} {s : Shared}
    (failed : (act.perform v s).1.failed = true) : (act.perform v s).2 = s := by
  cases act with
  | set i value =>
      simp only [perform] at failed ⊢
      cases written : s.slots.set v i value with
      | error e => rfl
      | ok m' => simp [written, SlotAnswer.failed] at failed
  | increment i =>
      cases written : s.slots.increment v i with
      | error e => simp only [perform, written]
      | ok m' =>
          obtain ⟨owns, ⟨generation, read⟩, -⟩ := Slots.modify_eq_ok_iff.mp written
          simp [answer_increment, owns, read, Except.map, SlotAnswer.failed] at failed
  | close => simp [perform, SlotAnswer.failed] at failed
  | read | isClosed | isEmpty | isOwner | length => rfl

end ViewAct

/-! ## Programs -/

/-- One step of a program. Views are named by the order in which they were issued. -/
inductive BoardStep where
  /-- Make a board. The view that comes with it owns it. -/
  | create (length : Nat)
  | duplicate (view : Nat)
  | act (view : Nat) (act : ViewAct)
deriving DecidableEq, Repr, Inhabited

/-- The steps of a program so far, the latest first. -/
abbrev BoardProgram := List BoardStep

/-- The views that a program was issued, in order, and the boards that they are on. -/
structure Workbench where
  views : List View := []
  shared : Shared := {}

namespace Workbench

/-- Carry out a step. Only an act has an answer, and a step on a view that was not issued does
nothing. -/
def step (b : Workbench) : BoardStep → Option SlotAnswer × Workbench
  | .create length =>
      let (view, slots) := b.shared.slots.create length
      (none, { views := b.views ++ [view], shared := { b.shared with slots } })
  | .duplicate n =>
      match b.views[n]? with
      | none => (none, b)
      | some v =>
          let (view, slots) := b.shared.slots.duplicate v
          (none, { views := b.views ++ [view], shared := { b.shared with slots } })
  | .act n act =>
      match b.views[n]? with
      | none => (none, b)
      | some v =>
          let (answer, shared) := act.perform v b.shared
          (some answer, { b with shared })

/-- What is there after a program. -/
def after : BoardProgram → Workbench
  | [] => {}
  | step :: past => ((after past).step step).2

/-- What an act on view `n` answers after a program. -/
def answer (past : BoardProgram) (n : Nat) (act : ViewAct) : Option SlotAnswer :=
  ((after past).step (.act n act)).1

end Workbench

/-! ## What the steps tell -/

/-- Where a view comes from. Boards are known by the order in which they were made. -/
structure Origin where
  board : Nat
  owner : Bool
deriving DecidableEq, Repr, Inhabited

namespace BoardProgram

/-- The lengths of the boards that were made. -/
def lengths : BoardProgram → List Nat
  | [] => []
  | .create length :: past => lengths past ++ [length]
  | .duplicate _ :: past | .act .. :: past => lengths past

def lengthOf (past : BoardProgram) (board : Nat) : Nat :=
  (lengths past)[board]?.getD 0

theorem lengthOf_create (length : Nat) (past : BoardProgram) (board : Nat) :
    lengthOf (.create length :: past) board =
      if board = (lengths past).length then length else lengthOf past board := by
  rw [lengthOf, lengths, lengthOf]
  grind

@[simp] theorem lengthOf_act (view : Nat) (act : ViewAct) (past : BoardProgram) (board : Nat) :
    lengthOf (.act view act :: past) board = lengthOf past board := rfl

/-- Where each view comes from. -/
def origins : BoardProgram → List Origin
  | [] => []
  | .create _ :: past => origins past ++ [{ board := (lengths past).length, owner := true }]
  | .duplicate n :: past =>
      origins past ++ ((origins past)[n]?.map fun o => { o with owner := false }).toList
  | .act .. :: past => origins past

/-- Whether view `n` was closed after it was issued. -/
def wasClosed : BoardProgram → Nat → Bool
  | [], _ => false
  | .act view act :: past, n =>
      n == view && act == .close && decide (n < (origins past).length) || wasClosed past n
  | .create _ :: past, n | .duplicate _ :: past, n => wasClosed past n

/-- What a slot holds: what the view that owns the board, while it was open, made of it last. -/
def held : BoardProgram → (board index : Nat) → Int64
  | [], _, _ => 0
  | .act view act :: past, board, index =>
      if (origins past)[view]? = some { board, owner := true } ∧ wasClosed past view = false then
        act.writes index (held past board index)
      else held past board index
  | .create _ :: past, board, index | .duplicate _ :: past, board, index => held past board index

/-- What view `n` on `board` finds in a slot. That it was closed comes before the bounds. -/
def finds (past : BoardProgram) (n board index : Nat) : Except SlotError Int64 :=
  if wasClosed past n then .error .closed
  else if index < lengthOf past board then .ok (held past board index)
  else .error (.outOfBounds index (lengthOf past board))

/-- What an act on view `n` is to answer. That the view may not write comes before anything else. -/
def expected (past : BoardProgram) (n : Nat) (o : Origin) : ViewAct → SlotAnswer
  | .set index _ =>
      .written (if o.owner then (finds past n o.board index).map fun _ => () else .error .readOnly)
  | .increment index =>
      .generation (if o.owner then (finds past n o.board index).map (· + 1) else .error .readOnly)
  | .read index => .generation (finds past n o.board index)
  | .close => .done
  | .isClosed => .flag (wasClosed past n)
  | .isEmpty => .flag (lengthOf past o.board == 0)
  | .isOwner => .flag o.owner
  | .length => .count (lengthOf past o.board)

/-- Views `n` and `m` are on the same board. -/
def Together (past : BoardProgram) (n m : Nat) : Prop :=
  ∃ o u, (origins past)[n]? = some o ∧ (origins past)[m]? = some u ∧ o.board = u.board

variable {past : BoardProgram}

theorem board_of_mem_origins {o : Origin} (member : o ∈ origins past) :
    o.board < (lengths past).length := by
  induction past generalizing o with
  | nil => simp [origins] at member
  | cons step past ih =>
      cases step with
      | create length =>
          simp only [origins, List.mem_append, List.mem_singleton] at member
          simp only [lengths, List.length_append, List.length_singleton]
          rcases member with old | rfl
          · exact Nat.lt_succ_of_lt (ih old)
          · exact Nat.lt_succ_self _
      | duplicate n =>
          simp only [origins, List.mem_append, Option.mem_toList, Option.map_eq_some_iff] at member
          rcases member with old | ⟨source, found, rfl⟩
          · exact ih old
          · exact ih (o := source) (List.mem_of_getElem? found)
      | act view act => exact ih member

theorem issued_of_wasClosed {n : Nat} (closed : wasClosed past n = true) :
    n < (origins past).length := by
  induction past with
  | nil => simp [wasClosed] at closed
  | cons step past ih =>
      cases step with
      | create | duplicate =>
          have := ih closed
          simp only [origins, List.length_append]
          omega
      | act view act =>
          simp only [wasClosed, Bool.or_eq_true, Bool.and_eq_true, decide_eq_true_eq] at closed
          rcases closed with ⟨-, issued⟩ | closed
          · exact issued
          · exact ih closed

/-- Nothing was written to a board that is still to be made. -/
theorem held_of_new {board : Nat} (new : (lengths past).length ≤ board) (index : Nat) :
    held past board index = 0 := by
  induction past with
  | nil => rfl
  | cons step past ih =>
      cases step with
      | create length =>
          simp only [lengths, List.length_append] at new
          exact ih (by omega)
      | duplicate view => exact ih new
      | act view act =>
          have new : (lengths past).length ≤ board := new
          rw [held, if_neg, ih new]
          rintro ⟨owns, -⟩
          exact Nat.not_lt.mpr new (board_of_mem_origins (List.mem_of_getElem? owns))

/-- A view that was issued stays what it is. -/
theorem getElem?_origins_append {n : Nat} (issued : n < (origins past).length)
    (more : BoardProgram) : (origins (more ++ past))[n]? = (origins past)[n]? := by
  induction more with
  | nil => rfl
  | cons step more ih =>
      have still : n < (origins (more ++ past)).length :=
        (List.getElem?_eq_some_iff.mp (ih.trans (List.getElem?_eq_getElem issued))).1
      cases step with
      | create | duplicate => rw [List.cons_append, origins, List.getElem?_append_left still, ih]
      | act => exact ih

/-- A view that was closed stays closed. -/
theorem wasClosed_append {n : Nat} (closed : wasClosed past n = true) (more : BoardProgram) :
    wasClosed (more ++ past) n = true := by
  induction more with
  | nil => exact closed
  | cons step more ih => cases step <;> simp [wasClosed, ih]

theorem finds_eq_ok_iff {n board index : Nat} {generation : Int64} :
    finds past n board index = .ok generation ↔ wasClosed past n = false ∧
      index < lengthOf past board ∧ held past board index = generation := by
  unfold finds
  cases wasClosed past n <;> by_cases inside : index < lengthOf past board <;> simp [inside]

/-- What the owner makes of a slot is what every open view on the board then finds. -/
theorem finds_write {view n board index : Nat} {generation : Int64} {act : ViewAct}
    (owns : (origins past)[view]? = some { board, owner := true }) (keeps : act ≠ .close)
    (found : finds past view board index = .ok generation) (isOpen : wasClosed past n = false) :
    finds (.act view act :: past) n board index = .ok (act.writes index generation) := by
  obtain ⟨writable, inside, rfl⟩ := finds_eq_ok_iff.mp found
  rw [finds_eq_ok_iff]
  refine ⟨by simp [wasClosed, keeps, isOpen], inside, ?_⟩
  rw [held, if_pos ⟨owns, writable⟩]

/-- Closing a view makes no difference to any other. -/
theorem expected_close {n m : Nat} (other : m ≠ n) (o : Origin) (act : ViewAct) :
    expected (.act n .close :: past) m o act = expected past m o act := by
  have closed : wasClosed (.act n .close :: past) m = wasClosed past m := by
    simp [wasClosed, other]
  have slots : ∀ board index, held (.act n .close :: past) board index = held past board index := by
    simp [held, ViewAct.writes]
  have finds : ∀ board index,
      finds (.act n .close :: past) m board index = finds past m board index := by
    simp [BoardProgram.finds, closed, slots]
  cases act <;> simp [expected, finds, closed]

end BoardProgram

/-! ## The state is as the steps tell -/

namespace Workbench

open BoardProgram

/-- The view that the steps tell of. -/
def viewOf (n : Nat) (o : Origin) : View :=
  { serial := n, board := o.board, owner := o.owner }

/-- What is there is what the steps tell. -/
structure Mirrors (past : BoardProgram) (b : Workbench) : Prop where
  views : b.views = (origins past).mapIdx viewOf
  issued : b.shared.slots.issued = (origins past).length
  closed : ∀ n, b.shared.slots.closed.contains n = wasClosed past n
  boards : b.shared.slots.boards.size = (lengths past).length
  row : ∀ board index, (b.shared.slots.boards[board]?.getD #[])[index]? =
    if index < lengthOf past board then some (held past board index) else none

namespace Mirrors

variable {past : BoardProgram} {b : Workbench}

theorem getElem?_views (mirrors : Mirrors past b) (n : Nat) :
    b.views[n]? = (origins past)[n]?.map (viewOf n) := by
  rw [mirrors.views, List.getElem?_mapIdx]

theorem isClosed (mirrors : Mirrors past b) (v : View) :
    b.shared.slots.isClosed v = wasClosed past v.serial :=
  mirrors.closed v.serial

theorem isClosed_viewOf (mirrors : Mirrors past b) (n : Nat) (o : Origin) :
    b.shared.slots.isClosed (viewOf n o) = wasClosed past n :=
  mirrors.closed n

theorem length (mirrors : Mirrors past b) (n : Nat) (o : Origin) :
    b.shared.slots.length (viewOf n o) = lengthOf past o.board := by
  have row := mirrors.row o.board
  have outside : ∀ i, (b.shared.slots.row (viewOf n o)).size ≤ i ↔ lengthOf past o.board ≤ i := by
    intro i
    rw [← Array.getElem?_eq_none_iff, ← Nat.not_lt]
    have := row i
    unfold Slots.row viewOf
    grind
  have below := outside (lengthOf past o.board)
  have above := outside (b.shared.slots.row (viewOf n o)).size
  rw [Slots.length]
  omega

/-- A view finds in a slot what the steps tell. -/
theorem read (mirrors : Mirrors past b) (n : Nat) (o : Origin) (index : Nat) :
    b.shared.slots.read (viewOf n o) index = finds past n o.board index := by
  have row := mirrors.row o.board index
  unfold Slots.read finds
  rw [mirrors.isClosed_viewOf, mirrors.length]
  have same : b.shared.slots.row (viewOf n o) = b.shared.slots.boards[o.board]?.getD #[] := rfl
  rw [same, row]
  split
  · rfl
  · split <;> simp_all

theorem create (mirrors : Mirrors past b) (length : Nat) :
    Mirrors (.create length :: past) (b.step (.create length)).2 where
  views := by simp [step, Slots.create, origins, mirrors.views, mirrors.issued, mirrors.boards,
    List.mapIdx_append, viewOf]
  issued := by simp [step, Slots.create, origins, mirrors.issued]
  closed := mirrors.closed
  boards := by simp [step, Slots.create, lengths, mirrors.boards]
  row board index := by
    have pushed : (b.step (.create length)).2.shared.slots.boards[board]?.getD #[] =
        if board = (lengths past).length then .replicate length 0
        else b.shared.slots.boards[board]?.getD #[] := by
      simp only [step, Slots.create, Array.getElem?_push, mirrors.boards]
      split <;> rfl
    rw [pushed, lengthOf_create, held]
    split
    · next new => simp [Array.getElem?_replicate, held_of_new (Nat.le_of_eq new.symm)]
    · exact mirrors.row board index

theorem duplicate (mirrors : Mirrors past b) (n : Nat) :
    Mirrors (.duplicate n :: past) (b.step (.duplicate n)).2 := by
  have source := mirrors.getElem?_views n
  cases found : (origins past)[n]? with
  | none =>
      have still : (b.step (.duplicate n)).2 = b := by simp [step, source, found]
      rw [still]
      refine ⟨?_, ?_, mirrors.closed, mirrors.boards, mirrors.row⟩
      · simp [origins, found, mirrors.views]
      · simp [origins, found, mirrors.issued]
  | some o =>
      rw [found, Option.map_some] at source
      have made : (b.step (.duplicate n)).2 =
          { views := b.views ++ [viewOf (origins past).length { o with owner := false }]
            shared := { b.shared with slots :=
              { b.shared.slots with issued := b.shared.slots.issued + 1 } } } := by
        simp [step, source, Slots.duplicate, viewOf, mirrors.issued]
      rw [made]
      refine ⟨?_, ?_, mirrors.closed, mirrors.boards, mirrors.row⟩
      · simp [origins, found, mirrors.views, List.mapIdx_append]
      · simp [origins, found, mirrors.issued]

theorem act (mirrors : Mirrors past b) (n : Nat) (act : ViewAct) :
    Mirrors (.act n act :: past) (b.step (.act n act)).2 := by
  have source := mirrors.getElem?_views n
  cases found : (origins past)[n]? with
  | none =>
      have still : (b.step (.act n act)).2 = b := by simp [step, source, found]
      have outside : (origins past).length ≤ n := List.getElem?_eq_none_iff.mp found
      rw [still]
      refine ⟨mirrors.views, mirrors.issued, ?_, mirrors.boards, ?_⟩
      · intro m
        rw [wasClosed, mirrors.closed]
        grind
      · intro board index
        have unwritten : held (.act n act :: past) board index = held past board index := by
          simp [held, found]
        rw [unwritten, lengthOf_act]
        exact mirrors.row board index
  | some o =>
      rw [found, Option.map_some] at source
      let v := viewOf n o
      have performed : (b.step (.act n act)).2 = { b with shared := (act.perform v b.shared).2 } := by
        simp [step, source, v]
      rw [performed]
      have inside : n < (origins past).length := (List.getElem?_eq_some_iff.mp found).1
      obtain ⟨issued, boards⟩ := act.issued_perform v b.shared
      refine ⟨mirrors.views, issued.trans mirrors.issued, ?_, boards.trans mirrors.boards, ?_⟩
      · intro m
        have closed := act.isClosed_perform v { v with serial := m } b.shared
        rw [mirrors.isClosed] at closed
        refine closed.trans ?_
        have serial : v.serial = n := rfl
        rw [wasClosed, serial]
        grind
      · intro board index
        have row := act.row_perform v { v with board } b.shared index
        have old : (b.shared.slots.row { v with board })[index]? = _ := mirrors.row board index
        rw [old, mirrors.isClosed_viewOf] at row
        refine row.trans ?_
        have owns : some o = some { board, owner := true } ↔ board = v.board ∧ v.owner = true := by
          obtain ⟨board', owner⟩ := o
          simp [v, viewOf, eq_comm]
        simp only [held, found, owns, lengthOf_act, and_assoc]
        by_cases known : index < lengthOf past board <;> simp [known]

theorem step (mirrors : Mirrors past b) (step : BoardStep) :
    Mirrors (step :: past) (b.step step).2 := by
  cases step with
  | create length => exact mirrors.create length
  | duplicate n => exact mirrors.duplicate n
  | act n act => exact mirrors.act n act

/-- An act answers what the steps tell. -/
theorem answer_perform (mirrors : Mirrors past b) (n : Nat) (o : Origin) (act : ViewAct) :
    (act.perform (viewOf n o) b.shared).1 = expected past n o act := by
  cases act with
  | set i value => rw [ViewAct.answer_set, mirrors.read]; rfl
  | increment i => rw [ViewAct.answer_increment, mirrors.read]; rfl
  | read i => simp only [ViewAct.perform, mirrors.read, expected]
  | isClosed => simp only [ViewAct.perform, mirrors.isClosed_viewOf, expected]
  | isEmpty | length => simp only [ViewAct.perform, mirrors.length, expected]
  | close | isOwner => rfl

end Mirrors

theorem mirrors_after (past : BoardProgram) : Mirrors past (after past) := by
  induction past with
  | nil => exact ⟨rfl, rfl, fun _ => rfl, rfl, fun board index => by simp [after, lengthOf, lengths]⟩
  | cons step past ih => exact ih.step step

theorem answer_eq (past : BoardProgram) (n : Nat) (act : ViewAct) :
    answer past n act = (origins past)[n]?.map fun o => expected past n o act := by
  have mirrors := mirrors_after past
  rw [answer, step, mirrors.getElem?_views]
  cases (origins past)[n]? with
  | none => rfl
  | some o => exact congrArg some (mirrors.answer_perform n o act)

/-- After a program, views behave as its steps tell. -/
structure AsTold (past : BoardProgram) : Prop where
  answers : ∀ n act, answer past n act = (origins past)[n]?.map fun o => expected past n o act
  /-- What the owner has put is what every open view on the board finds. -/
  finds_set : ∀ n m index value, Together past n m → wasClosed past m = false →
    answer past n (.set index value) = some (.written (.ok ())) →
      answer (.act n (.set index value) :: past) m (.read index) = some (.generation (.ok value))
  finds_increment : ∀ n m index generation, Together past n m → wasClosed past m = false →
    answer past n (.increment index) = some (.generation (.ok generation)) →
      answer (.act n (.increment index) :: past) m (.read index) =
        some (.generation (.ok generation))
  failed : ∀ n act a, answer past n act = some a → a.failed = true →
    after (.act n act :: past) = after past
  /-- A duplicate is open at first, even that of a closed view. -/
  fresh : ∀ n, answer (.duplicate n :: past) (origins past).length .isClosed =
    (origins past)[n]?.map fun _ => .flag false
  /-- Closing is for good, whatever comes after it. -/
  closed : ∀ n, n < (origins past).length → ∀ (more : BoardProgram) index,
    answer (more ++ .act n .close :: past) n (.read index) = some (.generation (.error .closed))
  again : ∀ n, after (.act n .close :: .act n .close :: past) = after (.act n .close :: past)
  others : ∀ n m, m ≠ n → ∀ act, answer (.act n .close :: past) m act = answer past m act

variable {past : BoardProgram} {n m : Nat}

/-- The owner writes to a slot, and another view on the board reads it. -/
theorem answer_read_of_write {o u : Origin} (act : ViewAct) {index : Nat} {generation : Int64}
    (source : (origins past)[n]? = some o) (reader : (origins past)[m]? = some u)
    (same : o.board = u.board) (owns : o.owner = true) (keeps : act ≠ .close)
    (found : finds past n o.board index = .ok generation) (isOpen : wasClosed past m = false) :
    answer (.act n act :: past) m (.read index) =
      some (.generation (.ok (act.writes index generation))) := by
  have owner : (origins past)[n]? = some { board := o.board, owner := true } := by
    rw [source, ← owns]
  have reads := finds_write owner keeps found isOpen
  rw [same] at reads
  rw [answer_eq, origins, reader, Option.map_some, expected, reads]

theorem answer_of_close (issued : n < (origins past).length) (more : BoardProgram) (index : Nat) :
    answer (more ++ .act n .close :: past) n (.read index) =
      some (.generation (.error .closed)) := by
  have closed : wasClosed (.act n .close :: past) n = true := by simp [wasClosed, issued]
  have issued : n < (origins (.act n .close :: past)).length := issued
  rw [answer_eq, getElem?_origins_append issued, List.getElem?_eq_getElem issued, Option.map_some,
    expected, finds, wasClosed_append closed, if_pos rfl]

theorem after_act (past : BoardProgram) (n : Nat) (act : ViewAct) :
    after (.act n act :: past) = match (origins past)[n]? with
      | none => after past
      | some o =>
          { after past with shared := (act.perform (viewOf n o) (after past).shared).2 } := by
  rw [after, step, (mirrors_after past).getElem?_views]
  cases (origins past)[n]? <;> rfl

/-- Whatever a program has done to boards and views, each view answers what the steps of the program
tell: the open views on a board find what its owner wrote last, an act that fails changes nothing, and
closing is for good and for one view only. -/
theorem views_answer_as_told (past : BoardProgram) : AsTold past where
  answers := answer_eq past
  finds_set := by
    rintro n m index value ⟨o, u, source, reader, same⟩ isOpen answered
    rw [answer_eq, source] at answered
    simp only [Option.map_some, expected, Option.some.injEq, SlotAnswer.written.injEq] at answered
    cases owns : o.owner with
    | false => simp [owns] at answered
    | true =>
        cases found : finds past n o.board index with
        | error e => simp [owns, found, Except.map] at answered
        | ok generation =>
            have reads := answer_read_of_write (.set index value) source reader same owns
              (by simp) found isOpen
            simpa [ViewAct.writes] using reads
  finds_increment := by
    rintro n m index generation ⟨o, u, source, reader, same⟩ isOpen answered
    rw [answer_eq, source] at answered
    simp only [Option.map_some, expected, Option.some.injEq, SlotAnswer.generation.injEq] at answered
    cases owns : o.owner with
    | false => simp [owns] at answered
    | true =>
        cases found : finds past n o.board index with
        | error e => simp [owns, found, Except.map] at answered
        | ok before =>
            have reads := answer_read_of_write (.increment index) source reader same owns
              (by simp) found isOpen
            simp only [owns, found, Except.map, ↓reduceIte, Except.ok.injEq] at answered
            simpa [ViewAct.writes, answered] using reads
  failed := by
    intro n act a answered failed
    have mirrors := mirrors_after past
    rw [after_act]
    cases source : (origins past)[n]? with
    | none => rfl
    | some o =>
        rw [answer_eq, source, Option.map_some, Option.some.injEq,
          ← mirrors.answer_perform] at answered
        rw [← answered] at failed
        simp only [ViewAct.perform_of_failed failed]
  fresh := by
    intro n
    have unclosed : wasClosed past (origins past).length = false := by
      rw [Bool.eq_false_iff]
      exact fun closed => Nat.lt_irrefl _ (issued_of_wasClosed closed)
    rw [answer_eq, origins]
    cases (origins past)[n]? <;> simp [expected, wasClosed, unclosed]
  closed n issued more index := answer_of_close issued more index
  again := by
    intro n
    rw [after_act, after_act, origins]
    cases (origins past)[n]? with
    | none => rfl
    | some o => simp [ViewAct.perform, Shared.close]
  others := by
    intro n m other act
    rw [answer_eq, answer_eq, origins]
    cases (origins past)[m]? with
    | none => rfl
    | some o => exact congrArg some (expected_close other o act)

/-- Two boards. The first has a duplicate of a duplicate that was closed before, and its last slot goes
over the top; the second is out of reach of all that. -/
example :
    let past : BoardProgram :=
      [.act 0 (.increment 1), .act 0 (.set 1 Int64.maxValue), .duplicate 1, .act 1 .close,
        .create 1, .duplicate 0, .create 2]
    Workbench.answer past 3 (.read 1) = some (.generation (.ok Int64.minValue)) ∧
      Workbench.answer past 1 (.read 5) = some (.generation (.error .closed)) ∧
      Workbench.answer past 1 (.set 5 0) = some (.written (.error .readOnly)) ∧
      Workbench.answer past 2 (.read 1) = some (.generation (.error (.outOfBounds 1 1))) := by
  exact ⟨rfl, rfl, rfl, rfl⟩

end Workbench

end TrackedSettings
