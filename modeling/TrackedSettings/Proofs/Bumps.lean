import TrackedSettings.Store.Authority

/-! # How far changes move slots

A bump moves the slot of every topic that covers the changed key on by one, and no other slot. What
a list of changes does to a slot is therefore a number: how many of the changed keys the slot's topic
covers. Nothing moves once the store's own view is closed.
-/

namespace TrackedSettings

namespace Slots

theorem read_eq_ok_iff {m : Slots} {v : View} {index : Nat} {generation : Int64} :
    m.read v index = .ok generation ↔
      m.isClosed v = false ∧ (m.row v)[index]? = some generation := by
  unfold read
  cases m.isClosed v <;> cases (m.row v)[index]? <;> simp

theorem row_eq_of_board {u v : View} (m : Slots) (same : u.board = v.board) : m.row u = m.row v := by
  rw [row, row, same]

theorem row_modified (m : Slots) (v : View) (index : Nat) (f : Int64 → Int64) :
    row { m with boards := m.boards.modify v.board (·.modify index f) } v =
      (m.row v).modify index f := by
  unfold row
  rw [Array.getElem?_modify, if_pos rfl]
  cases m.boards[v.board]? <;> simp

/-- Slots that move on stay as many as they were. -/
theorem size_of_row {v : View} {turns : Nat → Nat} {m m' : Slots}
    (row : ∀ i, (m'.row v)[i]? = (m.row v)[i]?.map (· + Int64.ofNat (turns i))) :
    (m'.row v).size = (m.row v).size := by
  have outside : ∀ i, (m'.row v).size ≤ i ↔ (m.row v).size ≤ i := by
    intro i
    rw [← Array.getElem?_eq_none_iff, ← Array.getElem?_eq_none_iff, row, Option.map_eq_none_iff]
  have below := outside (m.row v).size
  have above := outside (m'.row v).size
  omega

/-- Each slot `i` of the board of `v` has moved on `turns i` times, and no view was closed or
issued. -/
structure Turned (v : View) (turns : Nat → Nat) (m m' : Slots) : Prop where
  row : ∀ i, (m'.row v)[i]? = (m.row v)[i]?.map (· + Int64.ofNat (turns i))
  isClosed : ∀ u, m'.isClosed u = m.isClosed u
  issued : m'.issued = m.issued

namespace Turned

variable {v : View} {f g : Nat → Nat} {m m' m'' : Slots}

theorem refl (v : View) (m : Slots) : Turned v (fun _ => 0) m m where
  row i := by simp
  isClosed _ := rfl
  issued := rfl

theorem trans (first : Turned v f m m') (second : Turned v g m' m'') :
    Turned v (fun i => f i + g i) m m'' where
  row i := by
    rw [second.row, first.row, Option.map_map]
    congr 1
    funext generation
    simp [Int64.add_assoc]
  isClosed u := (second.isClosed u).trans (first.isClosed u)
  issued := second.issued.trans first.issued

theorem congr (turned : Turned v f m m') (same : ∀ i, f i = g i) : Turned v g m m' := by
  rwa [← funext same]

theorem size (turned : Turned v f m m') : (m'.row v).size = (m.row v).size :=
  size_of_row turned.row

end Turned

end Slots

namespace Registry

/-- How often changes of `keys`, in any order, move slot `index` on. -/
def turns (r : Registry) (m : Slots) (index : Nat) (keys : List String) : Nat :=
  if m.isClosed r.backing then 0
  else keys.countP fun key => r.topics[index]?.any (·.covers key)

theorem turns_nil (r : Registry) (m : Slots) (index : Nat) : r.turns m index [] = 0 := by
  simp [turns]

theorem turns_le (r : Registry) (m : Slots) (index : Nat) (keys : List String) :
    r.turns m index keys ≤ keys.length := by
  unfold turns
  split
  · exact Nat.zero_le _
  · exact List.countP_le_length

theorem turns_append (r : Registry) (m : Slots) (index : Nat) (keys more : List String) :
    r.turns m index (keys ++ more) = r.turns m index keys + r.turns m index more := by
  unfold turns
  split
  · rfl
  · exact List.countP_append

/-- Advancing a slot moves this slot, if the store can still write. -/
theorem advance_turned {r : Registry} (owner : r.backing.owner = true) (s : Shared) (topic : Topic)
    (index : Nat) :
    Slots.Turned r.backing
      (fun i => if !s.slots.isClosed r.backing && index == i then 1 else 0)
      s.slots (r.advance s topic index).slots := by
  unfold advance Slots.increment Slots.modify
  rw [if_pos owner]
  cases read : s.slots.read r.backing index with
  | error e =>
      -- The slot cannot be read, so either the view is closed or there is no such slot.
      refine ⟨fun i => ?_, fun _ => rfl, rfl⟩
      have none : !s.slots.isClosed r.backing && index == i → (s.slots.row r.backing)[i]? = none := by
        intro this
        rw [Bool.and_eq_true, Bool.not_eq_true', beq_iff_eq] at this
        obtain ⟨isOpen, rfl⟩ := this
        unfold Slots.read at read
        simp only [isOpen, Bool.false_eq_true, ↓reduceIte] at read
        split at read
        · cases read
        · assumption
      simp only [Shared.note_slots]
      split
      · next this => rw [none this]; rfl
      · simp
  | ok generation =>
      rw [Slots.read_eq_ok_iff] at read
      refine ⟨fun i => ?_, fun _ => rfl, rfl⟩
      simp only [Slots.row_modified, read.1, Bool.not_false, Bool.true_and, beq_iff_eq]
      rw [Array.getElem?_modify]
      by_cases same : index = i
      · simp [same]
      · simp [same]

theorem fold_turned {r : Registry} (owner : r.backing.owner = true) (key : String)
    (places : List (Topic × Nat)) (s : Shared) :
    Slots.Turned r.backing
      (fun i => if s.slots.isClosed r.backing then 0
        else places.countP fun place => place.2 == i && place.1.covers key)
      s.slots
      (places.foldl (fun s place => if place.1.covers key then r.advance s place.1 place.2 else s)
        s).slots := by
  induction places generalizing s with
  | nil => simpa using Slots.Turned.refl r.backing s.slots
  | cons place rest ih =>
      rw [List.foldl_cons]
      by_cases covers : place.1.covers key = true
      · rw [if_pos covers]
        have first := advance_turned owner s place.1 place.2
        apply (first.trans (ih (r.advance s place.1 place.2))).congr
        intro i
        rw [first.isClosed]
        cases s.slots.isClosed r.backing
        · simp [covers, List.countP_cons, Nat.add_comm]
        · rfl
      · rw [if_neg covers]
        apply (ih s).congr
        intro i
        simp [covers]

theorem countP_zipIdx (topics : List Topic) (key : String) (start index : Nat) :
    ((topics.zipIdx start).countP fun place => place.2 == start + index && place.1.covers key) =
      if topics[index]?.any (·.covers key) then 1 else 0 := by
  induction topics generalizing start index with
  | nil => simp
  | cons topic rest ih =>
      rw [List.zipIdx_cons, List.countP_cons]
      cases index with
      | zero =>
          have later : (rest.zipIdx (start + 1)).countP
              (fun place => place.2 == start + 0 && place.1.covers key) = 0 := by
            rw [List.countP_eq_zero]
            intro place member
            have := List.le_snd_of_mem_zipIdx member
            simp
            omega
          rw [later]
          simp
      | succ index =>
          have shifted := ih (start + 1) index
          rw [Nat.add_right_comm, Nat.add_assoc] at shifted
          simp [shifted]

/-- The change of one key moves a slot on once if the slot's topic covers the key. -/
theorem turns_singleton (r : Registry) (m : Slots) (index : Nat) (key : String) :
    (if m.isClosed r.backing then 0
      else r.topics.zipIdx.countP fun place => place.2 == index && place.1.covers key) =
      r.turns m index [key] := by
  have counted := countP_zipIdx r.topics key 0 index
  rw [Nat.zero_add] at counted
  rw [turns, counted, List.countP_singleton]

/-- A bump moves the slots of the topics that cover the key. -/
theorem bump_turned {r : Registry} (owner : r.backing.owner = true) (key : String) (s : Shared) :
    Slots.Turned r.backing (fun i => r.turns s.slots i [key]) s.slots (r.bump key s).slots :=
  (fold_turned owner key r.topics.zipIdx s).congr fun i => r.turns_singleton s.slots i key

theorem bumps_turned {r : Registry} (owner : r.backing.owner = true) (changes : List Change)
    (s : Shared) :
    Slots.Turned r.backing (fun i => r.turns s.slots i (changes.map Change.key)) s.slots
      (changes.foldl (fun s c => r.bump c.key s) s).slots := by
  induction changes generalizing s with
  | nil => simpa [turns_nil] using Slots.Turned.refl r.backing s.slots
  | cons change rest ih =>
      have first := bump_turned owner change.key s
      apply (first.trans (ih (r.bump change.key s))).congr
      intro i
      have same : r.turns (r.bump change.key s).slots i (rest.map Change.key) =
          r.turns s.slots i (rest.map Change.key) := by
        simp [turns, first.isClosed]
      rw [same, ← turns_append]
      rfl

end Registry

end TrackedSettings
