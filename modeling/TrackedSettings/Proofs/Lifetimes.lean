import TrackedSettings.Proofs.Generations

/-! # A store at any time of its life

A store is made with its defaults and then answers calls. Others see its board through the views that
it hands out: they read it and close views, even the store's own, but they never write to it. Whatever
has happened, the store can still tell how far a list of changes moves the generation of each topic,
unless nobody can read its board any more.
-/

namespace TrackedSettings

/-! ## Generations of a registry -/

namespace Slots

theorem toOption_read (m : Slots) (v : View) (index : Nat) :
    (m.read v index).toOption = if m.isClosed v then none else (m.row v)[index]? := by
  unfold read
  cases m.isClosed v <;> cases (m.row v)[index]? <;> rfl

end Slots

namespace Registry

variable {r : Registry} {m m' : Slots}

/-- When `keys` have changed, each topic's generation has moved on by the number of those that the
topic covers. A topic without a generation has none afterwards. -/
theorem generation?_turned {keys : List String}
    (turned : Slots.Turned r.backing (fun i => r.turns m i keys) m m') (topic : Topic) :
    r.generation? m' topic =
      (r.generation? m topic).map (· + Int64.ofNat (keys.countP topic.covers)) := by
  unfold generation?
  cases slot : r.index? topic with
  | none => rfl
  | some index =>
      have place := topic_of_index? slot
      simp only [Option.bind_some, Slots.toOption_read, turned.isClosed, turned.row]
      cases isClosed : m.isClosed r.backing with
      | true => rfl
      | false => simp [turns, isClosed, place]

/-- A topic that has a slot has a generation, while the board can be read. -/
theorem Sound.isSome_generation? (sound : r.Sound m) {topic : Topic}
    (tracked : (r.index? topic).isSome) (isOpen : m.isClosed r.backing = false) :
    (r.generation? m topic).isSome := by
  obtain ⟨index, slot⟩ := Option.isSome_iff_exists.mp tracked
  have taken := (List.getElem?_eq_some_iff.mp (topic_of_index? slot)).1
  have inside : index < (m.row r.backing).size := Nat.lt_of_lt_of_le taken sound.room
  simp [generation?, slot, Slots.toOption_read, isOpen, inside]

end Registry

/-! ## Stores -/

namespace Authority

/-- A store as it can be at some time. Between the calls others may have done with the boards what
they like, but they have not written to the store's own. -/
inductive Reached : Authority → Shared → Prop where
  | created (capacity : Nat) (transfer : Transfer) (defaults : Std.ExtTreeMap String String)
      (s : Shared) :
      Reached (create capacity transfer defaults s).1 (create capacity transfer defaults s).2
  | answered {a : Authority} {s : Shared} (reached : Reached a s) (call : StoreCall) :
      Reached (a.answer call s).2.1 (a.answer call s).2.2
  | aside {a : Authority} {s : Shared} (reached : Reached a s) (t : Shared)
      (row : t.slots.row a.registry.backing = s.slots.row a.registry.backing)
      (issued : s.slots.issued ≤ t.slots.issued) : Reached a t

theorem Reached.sound {a : Authority} {s : Shared} (reached : a.Reached s) :
    a.registry.Sound s.slots := by
  induction reached with
  | created => exact create_sound ..
  | answered reached call ih => exact (answer_moved ih call).sound
  | aside reached t row issued ih =>
      exact ⟨ih.owner, ih.distinct, by simpa only [Slots.length, row] using ih.room, by
        have := ih.issued
        omega⟩

/-- A list of changes moves the generation of a topic on by the number of those that it covers. -/
theorem generation?_write {a : Authority} (owner : a.registry.backing.owner = true)
    (changes : List Change) (s : Shared) (topic : Topic) :
    (a.write changes s).1.generation? (a.write changes s).2.slots topic =
      (a.generation? s.slots topic).map
        (· + Int64.ofNat ((changes.map Change.key).countP topic.covers)) :=
  Registry.generation?_turned (Registry.bumps_turned owner changes s) topic

/-- The same store, at the same generations. -/
def Alike (x y : Authority × Shared) : Prop :=
  x.1 = y.1 ∧ ∀ topic, x.1.generation? x.2.slots topic = y.1.generation? y.2.slots topic

/-- What becomes of a store when `keys` change, one after the other. -/
structure Advanced (a : Authority) (s : Shared) (keys : List String) (a' : Authority) (s' : Shared) :
    Prop where
  /-- Nothing else of the store has changed. -/
  rest : a' = { a with entries := a'.entries }
  generations : ∀ topic, a'.generation? s'.slots topic =
    (a.generation? s.slots topic).map (· + Int64.ofNat (keys.countP topic.covers))
  /-- Each topic that has a slot has a generation, unless the store's view is closed. -/
  tracked : ∀ topic, (a.registry.index? topic).isSome →
    s.slots.isClosed a.registry.backing = false → (a.generation? s.slots topic).isSome

/-- A list of changes advances a store by the keys that it changes, in any order. -/
theorem Reached.write_advanced {a : Authority} {s : Shared} (reached : a.Reached s)
    {changes : List Change} {keys : List String} (order : (changes.map Change.key).Perm keys) :
    a.Advanced s keys (a.write changes s).1 (a.write changes s).2 where
  rest := rfl
  generations topic := by rw [generation?_write reached.sound.owner, order.countP_eq]
  tracked _ := reached.sound.isSome_generation?

end Authority

end TrackedSettings
