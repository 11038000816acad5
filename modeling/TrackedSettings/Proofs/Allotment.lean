import TrackedSettings.Proofs.Batches

/-! # One slot for each topic

A registry gives slots to topics in the order in which they are first asked for. While its board is
open, it grants every topic that has a slot already or finds room, and a grant can be followed from
then on: what the handle reads counts the changes that the topic covers. No slot is given twice, none
is taken back, and none is moved by a change that its topic does not cover.
-/

namespace TrackedSettings

/-- Only views that were issued are closed. -/
def Slots.Known (m : Slots) : Prop :=
  ∀ v, m.isClosed v = true → v.serial < m.issued

/-! ## Grants -/

namespace Registry

variable {r : Registry} {s : Shared}

/-- Looking for a topic's slot leaves the boards alone. -/
theorem slots_of_allot (r : Registry) (s : Shared) (topic : Topic) :
    (r.allot topic s).2.2.slots = s.slots ∧ (r.allot topic s).2.1.backing = r.backing := by
  unfold allot
  cases r.index? topic with
  | some index => exact ⟨rfl, rfl⟩
  | none => dsimp only; split <;> exact ⟨rfl, rfl⟩

/-- What a grant hands out: a new view for readers that get one of their own, and else the registry's
view. -/
def lends (r : Registry) (m : Slots) : Transfer → Handle
  | .duplicate => .owned { serial := m.issued, board := r.backing.board, owner := false }
  | .reference => .borrowed r.backing

/-- A grant issues the view that it hands out, if that is a new one, and changes nothing else. -/
theorem handle_of_track (topic : Topic) (transfer : Transfer) {g : Grant}
    (granted : (r.track topic transfer s).1 = some g) :
    g.handle = r.lends s.slots transfer ∧ (r.track topic transfer s).2.2.slots =
      { s.slots with issued := s.slots.issued + if transfer = .duplicate then 1 else 0 } := by
  obtain ⟨slots, backing⟩ := slots_of_allot r s topic
  unfold track at granted ⊢
  generalize r.allot topic s = allotted at slots backing granted ⊢
  obtain ⟨index, r', s'⟩ := allotted
  dsimp only at slots backing
  cases index with
  | none => cases granted
  | some index =>
      simp only [grant, slots, backing] at granted ⊢
      cases read : s.slots.read r.backing index with
      | error e => simp [read] at granted
      | ok generation =>
          cases transfer <;> simp only [read, Option.some.injEq] at granted ⊢ <;>
            simp [← granted, Slots.duplicate, slots, lends]

/-- Where no grant is given, no view is issued either. -/
theorem slots_of_track_eq_none {topic : Topic} {transfer : Transfer}
    (nothing : (r.track topic transfer s).1 = none) :
    (r.track topic transfer s).2.2.slots = s.slots := by
  obtain ⟨slots, backing⟩ := slots_of_allot r s topic
  unfold track at nothing ⊢
  generalize r.allot topic s = allotted at slots backing nothing ⊢
  obtain ⟨index, r', s'⟩ := allotted
  cases index with
  | none => exact slots
  | some index =>
      simp only [grant] at nothing ⊢
      cases read : s'.slots.read r'.backing index with
      | error e => simpa [read] using slots
      | ok generation => cases transfer <;> simp [read] at nothing

/-- A view that a grant brings to a reader of its own is a new one, and the only one. -/
theorem serial_of_track (topic : Topic) (transfer : Transfer) {g : Grant} {v : View}
    (granted : (r.track topic transfer s).1 = some g) (owned : g.handle = .owned v) :
    v.serial = s.slots.issued ∧ (r.track topic transfer s).2.2.slots.issued = s.slots.issued + 1 := by
  obtain ⟨handle, slots⟩ := handle_of_track topic transfer granted
  rw [owned] at handle
  cases transfer with
  | duplicate =>
      cases handle
      simp [slots]
  | reference => cases handle

theorem grant_isSome (isOpen : s.slots.isClosed r.backing = false) {index : Nat}
    (inside : index < s.slots.length r.backing) (transfer : Transfer) :
    (r.grant index transfer s).1.isSome = true := by
  have read : s.slots.read r.backing index = .ok (s.slots.row r.backing)[index] :=
    Slots.read_eq_ok_iff.mpr ⟨isOpen, Array.getElem?_eq_getElem inside⟩
  unfold grant
  rw [read]
  cases transfer <;> rfl

/-- A topic is tracked unless others have the whole board. -/
theorem full_of_track (sound : r.Sound s.slots) (isOpen : s.slots.isClosed r.backing = false)
    (topic : Topic) (transfer : Transfer) (nothing : (r.track topic transfer s).1 = none) :
    (r.track topic transfer s).2.1.index? topic = none ∧
      (r.track topic transfer s).2.1.topics.length = s.slots.length r.backing := by
  unfold track allot at nothing ⊢
  cases slot : r.index? topic with
  | some index =>
      have inside : index < s.slots.length r.backing :=
        Nat.lt_of_lt_of_le (List.idxOf?_eq_some_iff.mp slot).1 sound.room
      have granted := grant_isSome isOpen inside transfer
      simp only [slot] at nothing
      rw [nothing] at granted
      cases granted
  | none =>
      by_cases room : r.tracked < r.capacity s.slots
      · have granted := grant_isSome (r := { r with topics := r.topics ++ [topic] }) isOpen room
          transfer
        simp only [slot, room, ↓reduceIte] at nothing
        rw [nothing] at granted
        cases granted
      · simp only [room, ↓reduceIte]
        exact ⟨slot, Nat.le_antisymm sound.room (Nat.not_lt.mp room)⟩

/-- A grant that has just been given is for the topic's slot, and tells what is in it. -/
theorem current_of_track (sound : r.Sound s.slots) (isOpen : s.slots.isClosed r.backing = false)
    (known : s.slots.Known) (topic : Topic) (transfer : Transfer) {g : Grant}
    (granted : (r.track topic transfer s).1 = some g) :
    let (_, r', s') := r.track topic transfer s
    r'.index? topic = some g.index ∧ g.handle.view.board = r'.backing.board ∧
      s'.slots.isClosed g.handle.view = false ∧
        (s'.slots.row r'.backing)[g.index]? = some g.generation := by
  have tracked := track_tracked sound topic transfer
  have serial : ∀ v, g.handle = .owned v → v.serial = s.slots.issued :=
    fun v owned => (serial_of_track topic transfer granted owned).1
  generalize r.track topic transfer s = result at tracked granted
  obtain ⟨grant, r', s'⟩ := result
  subst granted
  obtain ⟨slot, read, lent⟩ := tracked.granted g rfl
  obtain ⟨-, held⟩ := Slots.read_eq_ok_iff.mp read
  refine ⟨slot, by rw [tracked.backing, lent.board], ?_, ?_⟩
  · rw [tracked.isClosed]
    cases handle : g.handle with
    | borrowed v =>
        rw [handle] at lent
        rw [Handle.view, lent.2]
        exact isOpen
    | owned v =>
        rw [Bool.eq_false_iff]
        intro shut
        have below := known v shut
        have new := serial v handle
        omega
  · rw [tracked.backing, Slots.row, tracked.boards]
    exact held

/-- A topic that has no slot gets the next one, if there is room. -/
theorem registry_of_track (topic : Topic) (transfer : Transfer) :
    (r.track topic transfer s).2.1 =
      if r.index? topic = none ∧ r.tracked < r.capacity s.slots then
        { r with topics := r.topics ++ [topic] }
      else r := by
  unfold track allot
  cases r.index? topic with
  | some index => simp
  | none => by_cases room : r.tracked < r.capacity s.slots <;> simp [room]

theorem index?_append (r : Registry) (topic other : Topic) :
    index? { r with topics := r.topics ++ [topic] } other =
      (r.index? other).or (if topic = other then some r.tracked else none) := by
  simp only [index?, List.idxOf?, List.findIdx?_append, tracked]
  by_cases same : topic = other <;> simp [same, List.findIdx?_cons]

/-- Asking for one topic gives no slot to another, and a topic that has a slot keeps it. -/
theorem index?_of_track (topic : Topic) {other : Topic}
    (old : other ≠ topic ∨ (r.index? other).isSome) (transfer : Transfer) :
    (r.track topic transfer s).2.1.index? other = r.index? other := by
  rw [registry_of_track]
  split
  · rw [index?_append]
    cases slot : r.index? other <;> grind
  · rfl

/-- While the board is open, a topic that is granted no slot takes none. -/
theorem registry_of_track_eq_none (sound : r.Sound s.slots)
    (isOpen : s.slots.isClosed r.backing = false) {topic : Topic} {transfer : Transfer}
    (nothing : (r.track topic transfer s).1 = none) : (r.track topic transfer s).2.1 = r := by
  have lacks := (full_of_track sound isOpen topic transfer nothing).1
  rw [registry_of_track] at lacks ⊢
  split at lacks
  · simp [index?_append] at lacks
  · next unchanged => rw [if_neg unchanged]

/-- While the board is open, a topic is granted a slot if it has one or there is room. -/
theorem isSome_track_iff (sound : r.Sound s.slots) (isOpen : s.slots.isClosed r.backing = false)
    (topic : Topic) (transfer : Transfer) :
    (r.track topic transfer s).1.isSome ↔
      (r.index? topic).isSome ∨ r.tracked < r.capacity s.slots := by
  cases granted : (r.track topic transfer s).1 with
  | none =>
      have same := registry_of_track_eq_none sound isOpen granted
      obtain ⟨lacks, full⟩ := full_of_track sound isOpen topic transfer granted
      rw [same] at lacks full
      simp [lacks, tracked, capacity, full]
  | some g =>
      have slot : (r.track topic transfer s).2.1.index? topic = some g.index :=
        ((track_tracked sound topic transfer).granted g granted).1
      rw [registry_of_track] at slot
      split at slot
      · next room => simp [room.2]
      · simp [slot]

/-- Asking for a topic moves no generation that there is, and makes none but the topic's own. -/
theorem generation?_of_track (sound : r.Sound s.slots) (topic : Topic) {other : Topic}
    (old : other ≠ topic ∨ (r.index? other).isSome) (transfer : Transfer) :
    (r.track topic transfer s).2.1.generation? (r.track topic transfer s).2.2.slots other =
      r.generation? s.slots other := by
  have tracked := track_tracked sound topic transfer
  have slot := index?_of_track (r := r) (s := s) topic old transfer
  generalize r.track topic transfer s = result at tracked slot
  obtain ⟨grant, r', s'⟩ := result
  simp only [generation?, slot, Slots.toOption_read, tracked.isClosed, tracked.backing, Slots.row,
    tracked.boards]

/-! ## Runs -/

/-- A registry is asked for slots and told of changes, and a bump may visit the slots in any order.
In between, others may do with the boards what they like, but they do not write to the registry's
own. The keys are those that changed, the latest first. -/
inductive Run (r : Registry) (s : Shared) : List String → Registry → Shared → Prop where
  | rest : Run r s [] r s
  | tracked {keys : List String} {r' : Registry} {s' : Shared} (run : Run r s keys r' s')
      (topic : Topic) (transfer : Transfer) :
      Run r s keys (r'.track topic transfer s').2.1 (r'.track topic transfer s').2.2
  | bumped {keys : List String} {r' : Registry} {s' : Shared} (run : Run r s keys r' s')
      (key : String) {places : List (Topic × Nat)} (order : places.Perm r'.topics.zipIdx) :
      Run r s (key :: keys) r' (r'.bumpAlong places key s')
  | aside {keys : List String} {r' : Registry} {s' : Shared} (run : Run r s keys r' s') (t : Shared)
      (row : t.slots.row r'.backing = s'.slots.row r'.backing)
      (closed : ∀ v, s'.slots.isClosed v = true → t.slots.isClosed v = true)
      (issued : s'.slots.issued ≤ t.slots.issued) (known : t.slots.Known) : Run r s keys r' t

/-- What a run keeps, and how far it has moved the slots. -/
structure Led (r : Registry) (m : Slots) (keys : List String) (r' : Registry) (m' : Slots) :
    Prop where
  backing : r'.backing = r.backing
  topics : r.topics <+: r'.topics
  sound : r'.Sound m'
  known : m'.Known
  capacity : r'.capacity m' = r.capacity m
  /-- What is closed stays closed. -/
  closed : ∀ v, m'.isClosed v = false → m.isClosed v = false
  row : m'.isClosed r.backing = false → ∀ topic index, r.index? topic = some index →
    (m'.row r.backing)[index]? =
      (m.row r.backing)[index]?.map (· + Int64.ofNat (keys.countP topic.covers))

namespace Led

variable {keys : List String} {r' : Registry} {s' : Shared}

theorem refl (sound : r.Sound s.slots) (known : s.slots.Known) : Led r s.slots [] r s.slots where
  backing := rfl
  topics := List.prefix_refl _
  sound := sound
  known := known
  capacity := rfl
  closed _ isOpen := isOpen
  row := by simp

theorem track (led : Led r s.slots keys r' s'.slots) (topic : Topic) (transfer : Transfer) :
    Led r s.slots keys (r'.track topic transfer s').2.1 (r'.track topic transfer s').2.2.slots := by
  have tracked := track_tracked led.sound topic transfer
  generalize r'.track topic transfer s' = result at tracked
  obtain ⟨grant, r'', s''⟩ := result
  have row : ∀ v, s''.slots.row v = s'.slots.row v := fun v => by simp [Slots.row, tracked.boards]
  refine ⟨tracked.backing.trans led.backing, led.topics.trans tracked.topics, tracked.sound,
    ?_, ?_, ?_, ?_⟩
  · intro v closed
    rw [tracked.isClosed] at closed
    exact Nat.lt_of_lt_of_le (led.known v closed) tracked.issued
  · rw [← led.capacity]
    simp only [Registry.capacity, Slots.length, row, tracked.backing]
  · intro v isOpen
    rw [tracked.isClosed] at isOpen
    exact led.closed v isOpen
  · intro isOpen
    rw [tracked.isClosed] at isOpen
    rw [row]
    exact led.row isOpen

theorem bump (led : Led r s.slots keys r' s'.slots) (key : String) {places : List (Topic × Nat)}
    (order : places.Perm r'.topics.zipIdx) :
    Led r s.slots (key :: keys) r' (r'.bumpAlong places key s').slots := by
  have turned := bumpAlong_turned led.sound.owner order key s'
  refine ⟨led.backing, led.topics, ?_, ?_, ?_, ?_, ?_⟩
  · exact ⟨led.sound.owner, led.sound.distinct, by
      simpa only [Slots.length, turned.size] using led.sound.room, by
      simpa only [turned.issued] using led.sound.issued⟩
  · intro v closed
    rw [turned.isClosed] at closed
    rw [turned.issued]
    exact led.known v closed
  · rw [← led.capacity, Registry.capacity, Registry.capacity, Slots.length, Slots.length,
      turned.size]
  · intro v isOpen
    rw [turned.isClosed] at isOpen
    exact led.closed v isOpen
  · intro isOpen topic index slot
    rw [turned.isClosed] at isOpen
    have slot' := index?_of_prefix led.topics slot
    have place := topic_of_index? slot'
    have moved := turned.row index
    rw [led.backing, led.row isOpen topic index slot, Option.map_map] at moved
    rw [moved, List.countP_cons]
    congr 1
    funext generation
    simp [turns, led.backing, isOpen, place, Int64.ofNat_add, Int64.add_assoc]

theorem aside (led : Led r s.slots keys r' s'.slots) (t : Shared)
    (row : t.slots.row r'.backing = s'.slots.row r'.backing)
    (closed : ∀ v, s'.slots.isClosed v = true → t.slots.isClosed v = true)
    (issued : s'.slots.issued ≤ t.slots.issued) (known : t.slots.Known) :
    Led r s.slots keys r' t.slots := by
  have still : ∀ v, t.slots.isClosed v = false → s'.slots.isClosed v = false := by
    intro v isOpen
    have := closed v
    grind
  refine ⟨led.backing, led.topics, ?_, known, ?_, fun v isOpen => led.closed v (still v isOpen), ?_⟩
  · exact ⟨led.sound.owner, led.sound.distinct, by
      simpa only [Slots.length, row] using led.sound.room, Nat.lt_of_lt_of_le led.sound.issued issued⟩
  · rw [← led.capacity, Registry.capacity, Registry.capacity, Slots.length, Slots.length, row]
  · intro isOpen
    rw [led.backing] at row
    rw [row]
    exact led.row (still _ isOpen)

end Led

theorem Run.led {keys : List String} {r' : Registry} {s' : Shared} (run : Run r s keys r' s')
    (sound : r.Sound s.slots) (known : s.slots.Known) : Led r s.slots keys r' s'.slots := by
  induction run with
  | rest => exact .refl sound known
  | tracked run topic transfer ih => exact ih.track topic transfer
  | bumped run key order ih => exact ih.bump key order
  | aside run t row closed issued known ih => exact ih.aside t row closed issued known

/-! ## What always holds -/

/-- A grant that was given while the board was open, and what was there before and after. -/
structure Granted (r : Registry) (s : Shared) (topic : Topic) (transfer : Transfer) (g : Grant)
    (r' : Registry) (s' : Shared) : Prop where
  slot : r'.index? topic = some g.index
  generation : r'.generation? s'.slots topic = some g.generation
  handle : g.handle = r.lends s.slots transfer
  isOpen : s'.slots.isClosed g.handle.view = false
  /-- As long as its view is open, and the registry's, the handle reads every change. -/
  follows : ∀ keys r'' s'', Run r' s' keys r'' s'' → s''.slots.isClosed r.backing = false →
    s''.slots.isClosed g.handle.view = false →
      s''.slots.read g.handle.view g.index =
        .ok (g.generation + Int64.ofNat (keys.countP topic.covers))

theorem granted_of_track (sound : r.Sound s.slots) (known : s.slots.Known)
    (isOpen : s.slots.isClosed r.backing = false) {topic : Topic} {transfer : Transfer} {g : Grant}
    (granted : (r.track topic transfer s).1 = some g) :
    Granted r s topic transfer g (r.track topic transfer s).2.1 (r.track topic transfer s).2.2 := by
  have led := (Led.refl sound known).track topic transfer
  have current := current_of_track sound isOpen known topic transfer granted
  have handle := (handle_of_track topic transfer granted).1
  have still : (r.track topic transfer s).2.2.slots.isClosed r.backing = s.slots.isClosed r.backing :=
    (track_tracked sound topic transfer).isClosed r.backing
  generalize r.track topic transfer s = result at led current still
  obtain ⟨grant, r', s'⟩ := result
  obtain ⟨slot, board, viewOpen, held⟩ := current
  have isOpen' : s'.slots.isClosed r'.backing = false := by
    rw [led.backing]
    exact still.trans isOpen
  refine ⟨slot, ?_, handle, viewOpen, ?_⟩
  · simp [generation?, slot, Slots.toOption_read, isOpen', held]
  · intro keys r'' s'' run backingOpen handleOpen
    have later := run.led led.sound led.known
    have row := later.row (by rwa [led.backing]) topic g.index slot
    rw [Slots.read_eq_ok_iff, Slots.row_eq_of_board _ board, row, held]
    exact ⟨handleOpen, rfl⟩

/-- What holds of a registry on a board of `size` slots whenever it is looked at. -/
structure Keeps (size : Nat) (r : Registry) (s : Shared) : Prop where
  /-- Each of the slots that are taken is that of one topic. -/
  taken : ∀ index, index < r.tracked ↔ ∃ topic, r.index? topic = some index
  apart : ∀ topic other index, r.index? topic = some index → r.index? other = some index →
    topic = other
  room : r.tracked ≤ size
  capacity : r.capacity s.slots = size
  stable : ∀ keys r' s', Run r s keys r' s' → ∀ topic index, r.index? topic = some index →
    r'.index? topic = some index
  grants : s.slots.isClosed r.backing = false → ∀ topic transfer,
    ((r.track topic transfer s).1.isSome ↔ (r.index? topic).isSome ∨ r.tracked < size)
  granted : s.slots.isClosed r.backing = false → ∀ topic transfer g,
    (r.track topic transfer s).1 = some g →
      Granted r s topic transfer g (r.track topic transfer s).2.1 (r.track topic transfer s).2.2
  refused : s.slots.isClosed r.backing = false → ∀ topic transfer,
    (r.track topic transfer s).1 = none →
      (r.track topic transfer s).2.1 = r ∧ (r.track topic transfer s).2.2.slots = s.slots
  others : ∀ topic transfer other, other ≠ topic ∨ (r.index? other).isSome →
    (r.track topic transfer s).2.1.generation? (r.track topic transfer s).2.2.slots other =
      r.generation? s.slots other
  bumps : ∀ key topic, r.generation? (r.bump key s).slots topic =
    (r.generation? s.slots topic).map fun generation =>
      if topic.covers key then generation + 1 else generation
  anyOrder : ∀ key places, places.Perm r.topics.zipIdx → ∀ topic,
    r.generation? (r.bumpAlong places key s).slots topic = r.generation? (r.bump key s).slots topic

theorem sound_create (capacity : Nat) (s : Shared) :
    (create capacity s).1.Sound (create capacity s).2.slots where
  owner := rfl
  distinct := List.nodup_nil
  room := Nat.zero_le _
  issued := Nat.lt_succ_self _

theorem known_create {s : Shared} (known : s.slots.Known) (capacity : Nat) :
    (create capacity s).2.slots.Known := fun v closed => Nat.lt_succ_of_lt (known v closed)

theorem capacity_create (capacity : Nat) (s : Shared) :
    (create capacity s).1.capacity (create capacity s).2.slots = capacity := by
  simp [create, Registry.capacity, Slots.length, Slots.row, Slots.create]

/-- A topic's slot is its place among the topics. -/
theorem Sound.index?_eq_some_iff {m : Slots} (sound : r.Sound m) {topic : Topic} {index : Nat} :
    r.index? topic = some index ↔ r.topics[index]? = some topic := by
  refine ⟨topic_of_index?, fun place => ?_⟩
  obtain ⟨inside, same⟩ := List.getElem?_eq_some_iff.mp place
  refine List.idxOf?_eq_some_iff.mpr ⟨inside, same, fun j before found => ?_⟩
  exact List.pairwise_iff_getElem.mp sound.distinct j index _ inside before (found.trans same.symm)

/-- Whatever a registry has been asked for and told since it was made, its topics have the first slots
of the board, one each, and keep them. While the board is open, a topic is granted a slot just when it
has one or there is room, and a handle once granted reads every change that the topic covers. -/
theorem slots_unique_and_stable {capacity : Nat} {start : Shared} (known : start.slots.Known)
    {keys : List String} {r : Registry} {s : Shared}
    (run : Run (create capacity start).1 (create capacity start).2 keys r s) :
    Keeps capacity r s := by
  have led := run.led (sound_create capacity start) (known_create known capacity)
  have sound := led.sound
  have size := led.capacity.trans (capacity_create capacity start)
  have bumpAlong : ∀ key places, places.Perm r.topics.zipIdx → ∀ topic,
      r.generation? (r.bumpAlong places key s).slots topic =
        (r.generation? s.slots topic).map (· + Int64.ofNat ([key].countP topic.covers)) :=
    fun key places order => generation?_turned (bumpAlong_turned sound.owner order key s)
  refine ⟨?_, ?_, ?_, size, ?_, ?_, ?_, ?_, ?_, ?_, ?_⟩
  · intro index
    simp only [sound.index?_eq_some_iff, tracked, List.getElem?_eq_some_iff]
    grind
  · intro topic other index slot slot'
    rw [sound.index?_eq_some_iff] at slot slot'
    grind
  · rw [← size]
    exact sound.room
  · intro keys' r' s' later topic index slot
    exact index?_of_prefix (later.led sound led.known).topics slot
  · intro isOpen topic transfer
    rw [isSome_track_iff sound isOpen, size]
  · exact fun isOpen topic transfer g => granted_of_track sound led.known isOpen
  · intro isOpen topic transfer nothing
    exact ⟨registry_of_track_eq_none sound isOpen nothing, slots_of_track_eq_none nothing⟩
  · exact fun topic transfer other old => generation?_of_track sound topic old transfer
  · intro key topic
    rw [bump_eq_bumpAlong, bumpAlong key _ (List.Perm.refl _), List.countP_singleton]
    cases topic.covers key <;> simp
  · intro key places order topic
    rw [bump_eq_bumpAlong, bumpAlong key _ order, bumpAlong key _ (List.Perm.refl _)]

/-- A board with two slots. The volume has the first and the brightness the second, which is visited
first when the volume changes. The next topic gets no slot, and the volume is granted its own again. -/
theorem slots_unique_and_stable_on_two_slots :
    let (r, s) := create 2 {}
    let volume := r.track (.key "volume") .duplicate s
    let brightness := volume.2.1.track (.key "brightness") .reference volume.2.2
    let r' := brightness.2.1
    let s' := r'.bumpAlong [(.key "brightness", 1), (.key "volume", 0)] "volume" brightness.2.2
    let refused := r'.track (.under "audio/") .duplicate s'
    let again := refused.2.1.track (.key "volume") .duplicate refused.2.2
    Slots.Known {} ∧ Keeps 2 again.2.1 again.2.2 ∧
      r'.generation? s'.slots (.key "volume") = some 1 ∧
      r'.generation? s'.slots (.key "brightness") = some 0 ∧
      refused.1 = none ∧ refused.2.1 = r' ∧
      again.1.map (fun g => (g.index, g.generation)) = some (0, 1) ∧
      again.2.1.index? (.key "brightness") = some 1 := by
  have known : Slots.Known {} := by
    intro v closed
    cases closed
  have tracked : Run (create 2 {}).1 (create 2 {}).2 [] _ _ :=
    (Run.rest.tracked (.key "volume") .duplicate).tracked (.key "brightness") .reference
  have order : [(Topic.key "brightness", 1), (.key "volume", 0)].Perm
      [(.key "volume", 0), (.key "brightness", 1)] := .swap ..
  have moved := tracked.bumped "volume" order
  have run := (moved.tracked (.under "audio/") .duplicate).tracked (.key "volume") .duplicate
  exact ⟨known, slots_unique_and_stable known run, by decide, by decide, by decide, by decide,
    by decide, by decide⟩

end Registry

end TrackedSettings
