import TrackedSettings.Proofs.Acts
import TrackedSettings.Proofs.Fronts
import TrackedSettings.Proofs.Generations

/-! # The course of a deployment over one store

Any number of caches read and write one authoritative store, directly or through fronts. A course is
such a deployment with its past: how often each slot has moved on, and what the settings were at every
moment. What ties copies to settings is said in terms of these: a grant for a slot that has not moved
since, on a board that was not closed, vouches for a copy that is still right.
-/

namespace TrackedSettings

/-- The only authoritative store. -/
def Deployment.sole (dep : Deployment) : Authority :=
  dep.authorities[0]?.getD default

/-- The store is the authoritative one or a front of it. A front has not handed out the store's own
view, unless this is how the store lends its board. -/
def Deployment.Fronts (dep : Deployment) : Store → Prop
  | .plain a => a = 0
  | .flaky front a => a = 0 ∧ (dep.sole.transfer = .duplicate →
      ∀ v ∈ front.handedOut, v.serial ≠ dep.sole.registry.backing.serial)
  | .replay _ => False

/-- A deployment with its past. -/
structure Course where
  deployment : Deployment
  turns : Nat → Nat
  /-- The settings at every moment so far, the present moment last. -/
  past : List Entries

namespace Course

def authority (x : Course) : Authority :=
  x.deployment.sole

def slots (x : Course) : Slots :=
  x.deployment.shared.slots

def backing (x : Course) : View :=
  x.authority.registry.backing

/-! ## Grants and copies -/

/-- The grant is for the topic's slot, and tells a generation that the slot has held. -/
structure Granted (x : Course) (topic : Topic) (g : Grant) : Prop where
  slot : x.authority.registry.index? topic = some g.index
  counted : ∃ n, n ≤ x.turns g.index ∧ g.generation = Int64.ofNat n
  lent : g.handle.Lent x.authority.transfer x.backing

/-- If the slot still holds the generation of the grant, the copy is right. -/
def Vouched (x : Course) (g : Grant) (copy : Copy) : Prop :=
  g.generation = Int64.ofNat (x.turns g.index) → x.slots.isClosed x.backing = false →
    copy.Holds x.authority.entries

/-- Slots hold the numbers of their turns, copies belong to grants, and the settings are the last of
the past. -/
structure Sound (x : Course) : Prop where
  sole : x.deployment.authorities = #[x.authority]
  registry : x.authority.registry.Sound x.slots
  isOpen : x.authority.transfer = .duplicate → x.slots.isClosed x.backing = false
  counted : ∀ i generation, (x.slots.row x.backing)[i]? = some generation →
    generation = Int64.ofNat (x.turns i)
  few : ∀ i, x.turns i < 2 ^ 64
  stores : ∀ (id : Nat) (store : Store), x.deployment.stores[id]? = some store →
    x.deployment.Fronts store
  kept : ∀ i, (x.deployment.workspace i).copies.Kept x.Granted x.Vouched False
  now : x.past.getLast? = some x.authority.entries

/-- One course goes on to another. What a topic covers is the same in both if its slot did not move
and the board was not closed. -/
structure Later (x x' : Course) : Prop where
  seats : x'.deployment.seats.size = x.deployment.seats.size
  backing : x'.backing = x.backing
  transfer : x'.authority.transfer = x.authority.transfer
  topics : x.authority.registry.topics <+: x'.authority.registry.topics
  turns : ∀ i, x.turns i ≤ x'.turns i
  closed : ∀ v, x.slots.isClosed v = true → x'.slots.isClosed v = true
  past : x.past <+: x'.past
  still : ∀ topic index, x.authority.registry.index? topic = some index →
    x'.turns index = x.turns index → x'.slots.isClosed x.backing = false →
      ∀ key, topic.covers key = true → x'.authority.entries[key]? = x.authority.entries[key]?

variable {x x' x'' : Course} {topic : Topic} {g : Grant} {copy : Copy}

theorem Later.refl (x : Course) : x.Later x where
  seats := rfl
  backing := rfl
  transfer := rfl
  topics := List.prefix_refl _
  turns _ := Nat.le_refl _
  closed _ closed := closed
  past := List.prefix_refl _
  still _ _ _ _ _ _ _ := rfl

theorem Later.isOpen (later : x.Later x') {v : View} (isOpen : x'.slots.isClosed v = false) :
    x.slots.isClosed v = false := by
  cases before : x.slots.isClosed v with
  | false => rfl
  | true =>
      rw [later.closed v before] at isOpen
      cases isOpen

theorem Later.trans (first : x.Later x') (second : x'.Later x'') : x.Later x'' where
  seats := second.seats.trans first.seats
  backing := second.backing.trans first.backing
  transfer := second.transfer.trans first.transfer
  topics := first.topics.trans second.topics
  turns i := Nat.le_trans (first.turns i) (second.turns i)
  closed v closed := second.closed v (first.closed v closed)
  past := first.past.trans second.past
  still topic index slot same isOpen key covers := by
    have lower := first.turns index
    have upper := second.turns index
    have slot' := Registry.index?_of_prefix first.topics slot
    have earlier := first.still topic index slot (by omega) (second.isOpen isOpen) key covers
    rw [← first.backing] at isOpen
    have later := second.still topic index slot' (by omega) isOpen key covers
    exact later.trans earlier

theorem Granted.later (granted : x.Granted topic g) (later : x.Later x') : x'.Granted topic g where
  slot := Registry.index?_of_prefix later.topics granted.slot
  counted := by
    obtain ⟨n, most, same⟩ := granted.counted
    exact ⟨n, Nat.le_trans most (later.turns g.index), same⟩
  lent := by
    rw [later.transfer, later.backing]
    exact granted.lent

/-- A grant for the present generation was never for another: the counter has not come round. -/
theorem Granted.turns_eq (granted : x.Granted topic g) (later : x.Later x')
    (few : ∀ i, x'.turns i < 2 ^ 64) (present : g.generation = Int64.ofNat (x'.turns g.index)) :
    x'.turns g.index = x.turns g.index ∧ g.generation = Int64.ofNat (x.turns g.index) := by
  obtain ⟨n, most, same⟩ := granted.counted
  have lower := later.turns g.index
  have bound := few g.index
  rw [same] at present
  have equal := eq_of_ofNat_eq_ofNat (by omega) bound present
  have unmoved : x'.turns g.index = x.turns g.index := by omega
  exact ⟨unmoved, by rw [same, equal, unmoved]⟩

theorem Vouched.later (vouched : x.Vouched g copy) (granted : x.Granted copy.topic g)
    (later : x.Later x') (few : ∀ i, x'.turns i < 2 ^ 64) : x'.Vouched g copy := by
  intro present isOpen
  obtain ⟨unmoved, present⟩ := granted.turns_eq later few present
  rw [later.backing] at isOpen
  exact (vouched present (later.isOpen isOpen)).congr
    (later.still copy.topic g.index granted.slot unmoved isOpen)

/-- The copy was right at a moment of the second course that is not before the first. -/
def Seen (x : Course) (copy : Copy) (x' : Course) : Prop :=
  ∃ t e, x.past.length ≤ t + 1 ∧ x'.past[t]? = some e ∧ copy.Holds e

theorem Seen.later (seen : x.Seen copy x') (later : x'.Later x'') : x.Seen copy x'' := by
  obtain ⟨t, e, recent, was, holds⟩ := seen
  obtain ⟨rest, longer⟩ := later.past
  refine ⟨t, e, recent, ?_, holds⟩
  rw [← longer, List.getElem?_append_left (List.getElem?_eq_some_iff.mp was).1]
  exact was

theorem Seen.earlier (seen : x'.Seen copy x'') (later : x.Later x') : x.Seen copy x'' := by
  obtain ⟨t, e, recent, was, holds⟩ := seen
  exact ⟨t, e, Nat.le_trans later.past.length_le recent, was, holds⟩

theorem Sound.seen (sound : x.Sound) (holds : copy.Holds x.authority.entries) : x.Seen copy x := by
  have now := sound.now
  rw [List.getLast?_eq_getElem?] at now
  exact ⟨x.past.length - 1, _, by omega, now, holds⟩

def Footed (x : Course) (topic : Topic) (generation : Int64) : Prop :=
  ∃ index n, x.authority.registry.index? topic = some index ∧ n ≤ x.turns index ∧
    generation = Int64.ofNat n

/-- A lent view that can be read shows the slot as it is, and then the store's own view is open. -/
theorem Sound.present_of_read (sound : x.Sound) (granted : x.Granted topic g)
    (read : x.slots.read g.handle.view g.index = .ok g.generation) :
    g.generation = Int64.ofNat (x.turns g.index) ∧ x.slots.isClosed x.backing = false := by
  obtain ⟨isOpen, held⟩ := Slots.read_eq_ok_iff.mp read
  rw [Slots.row_eq_of_board _ granted.lent.board] at held
  refine ⟨sound.counted _ _ held, ?_⟩
  have lent := granted.lent
  cases handle : g.handle with
  | owned v =>
      rw [handle] at lent
      exact sound.isOpen lent.1
  | borrowed v =>
      rw [handle] at lent isOpen
      rw [← lent.2]
      exact isOpen

/-! ## A cache in its seat -/

/-- Whatever a cache puts back, if it keeps only what is vouched for and closes only what it was
lent. -/
theorem Sound.putBack {i : Nat} {w : Workspace} (sound : x.Sound)
    (inside : i < x.deployment.seats.size) (kept : w.copies.Kept x.Granted x.Vouched False)
    (released : x.slots.Released (fun v => ∃ topic g, x.Granted topic g ∧ g.handle = .owned v)
      w.shared.slots) :
    let y : Course := { x with deployment := x.deployment.putBack i w }
    y.Sound ∧ x.Later y := by
  intro y
  have later : x.Later y :=
    { Later.refl x with
      seats := Array.size_modify
      closed := released.stays
      still := fun _ _ _ _ _ _ _ => rfl }
  refine ⟨?_, later⟩
  exact
    { sole := sound.sole
      registry := ⟨sound.registry.owner, sound.registry.distinct, by
        rw [Slots.length, slots]
        exact (released.row x.backing).symm ▸ sound.registry.room, by
        rw [slots]
        exact released.issued ▸ sound.registry.issued⟩
      isOpen := by
        intro duplicates
        -- The lent views are none of the store's own.
        cases closed : y.slots.isClosed y.backing with
        | false => rfl
        | true =>
            rcases released.mine y.backing closed with before | ⟨u, ⟨topic, g, granted, owned⟩, same⟩
            · have isOpen := sound.isOpen duplicates
              change x.slots.isClosed x.backing = true at before
              rw [isOpen] at before
              cases before
            · have lent := granted.lent
              rw [owned] at lent
              exact absurd same lent.2.2
      counted := by
        intro j generation held
        change (w.shared.slots.row x.backing)[j]? = some generation at held
        rw [released.row] at held
        exact sound.counted j generation held
      few := sound.few
      stores := sound.stores
      kept := by
        intro j
        by_cases here : j = i
        · subst here
          change ((x.deployment.putBack j w).workspace j).copies.Kept _ _ _
          rw [Deployment.workspace_putBack inside]
          exact kept.mono (fun topic g granted => ⟨granted.later later, fun copy own vouched =>
            vouched.later (own ▸ granted) later sound.few⟩) id
        · change ((x.deployment.putBack i w).workspace j).copies.Kept _ _ _
          rw [Deployment.copies_putBack_of_ne here]
          exact (sound.kept j).mono (fun topic g granted => ⟨granted.later later,
            fun copy own vouched => vouched.later (own ▸ granted) later sound.few⟩) id
      now := sound.now }

/-- The cache in seat `i` shares its world with all that goes on in the deployment. -/
def terms (i : Nat) : Terms Course where
  workspace x := x.deployment.workspace i
  putBack w x := { x with deployment := x.deployment.putBack i w }
  sound x := x.Sound ∧ i < x.deployment.seats.size
  later := Later
  granted := Granted
  vouched := Vouched
  full _ := False
  footed := Footed
  seen := Seen
  due _ _ := True
  later_refl := Later.refl
  later_trans := Later.trans
  workspace_putBack w sound := Deployment.workspace_putBack sound.2 w
  putBack_workspace x := by rw [Deployment.putBack_workspace]
  putBack_putBack w w' x := by rw [Deployment.putBack_putBack]
  kept sound := sound.1.kept i
  settle := by
    intro x w sound kept released
    rw [Deployment.shared_workspace] at released
    obtain ⟨sound', later⟩ := sound.1.putBack sound.2 kept released
    exact ⟨⟨sound', by rw [later.seats]; exact sound.2⟩, later⟩
  footed_of_read := by
    intro x topic g _ granted _
    obtain ⟨n, most, same⟩ := granted.counted
    exact ⟨g.index, n, granted.slot, most, same⟩
  footed_later := by
    intro x x' topic generation _ _ later footed
    obtain ⟨index, n, slot, most, same⟩ := footed
    exact ⟨index, n, Registry.index?_of_prefix later.topics slot,
      Nat.le_trans most (later.turns index), same⟩
  seen_of_read := by
    intro x g copy sound granted vouched read
    rw [Deployment.shared_workspace] at read
    obtain ⟨present, isOpen⟩ := sound.1.present_of_read granted read
    exact sound.1.seen (vouched present isOpen)
  seen_later later seen := seen.later later
  seen_earlier later seen := seen.earlier later
  due_hit _ _ _ := trivial
  due_stale _ _ := trivial
  due_trackerError _ _ := trivial
  due_fetch _ := trivial
  due_remoteError _ := trivial
  due_resolve _ := trivial
  due_store _ := trivial

/-! ## What a store has brought -/

/-- A copy that was brought by a call made in course `x`, and the grant that came with it. -/
structure Fetched (x : Course) (copy : Copy) (grant : Option Grant) (x' : Course) : Prop where
  seen : x.Seen copy x'
  /-- If the slot did not move since the call, the copy is right. -/
  fresh : ∀ index, x.authority.registry.index? copy.topic = some index →
    x'.turns index = x.turns index → x'.slots.isClosed x.backing = false →
      copy.Holds x'.authority.entries
  granted : ∀ g, grant = some g → x'.Granted copy.topic g ∧ x'.Vouched g copy

theorem Fetched.later {grant : Option Grant} (fetched : x.Fetched copy grant x')
    (before : x.Later x') (later : x'.Later x'') (few : ∀ i, x''.turns i < 2 ^ 64) :
    x.Fetched copy grant x'' where
  seen := fetched.seen.later later
  fresh index slot same isOpen := by
    have lower := before.turns index
    have upper := later.turns index
    have slot' := Registry.index?_of_prefix before.topics slot
    have holds := fetched.fresh index slot (by omega) (later.isOpen isOpen)
    rw [← before.backing] at isOpen
    exact holds.congr (later.still copy.topic index slot' (by omega) isOpen)
  granted g same := by
    obtain ⟨granted, vouched⟩ := fetched.granted g same
    exact ⟨granted.later later, vouched.later granted later few⟩

theorem Fetched.earlier {grant : Option Grant} (fetched : x'.Fetched copy grant x'')
    (before : x.Later x') (later : x'.Later x'') : x.Fetched copy grant x'' where
  seen := fetched.seen.earlier before
  fresh index slot same isOpen := by
    have lower := before.turns index
    have upper := later.turns index
    have slot' := Registry.index?_of_prefix before.topics slot
    rw [← before.backing] at isOpen
    exact fetched.fresh index slot' (by omega) isOpen
  granted := fetched.granted

theorem Fetched.brought {grant : Option Grant} (fetched : x.Fetched copy grant x')
    (later : x.Later x') (few : ∀ i, x'.turns i < 2 ^ 64) (i : Nat) :
    (terms i).Brought x copy grant x' where
  seen := fetched.seen
  granted := fetched.granted
  backed := by
    intro generation g held granted same present isOpen
    obtain ⟨index, n, slot, most, footed⟩ := held
    have slot' := Registry.index?_of_prefix later.topics slot
    have known := granted.slot
    rw [slot'] at known
    injection known with known
    -- The footing is for the present generation, so the slot has not moved since the call.
    rw [same, footed, ← known] at present
    have lower := later.turns index
    have bound := few index
    have equal := eq_of_ofNat_eq_ofNat (by omega) bound present
    rw [later.backing] at isOpen
    exact fetched.fresh index slot (by omega) isOpen

end Course

end TrackedSettings
