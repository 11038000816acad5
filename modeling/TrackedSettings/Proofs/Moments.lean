import TrackedSettings.Proofs.Course

/-! # From one moment to the next

What others do between two moments of a course is a move of the store, a change to a front's
switches, or the closing of what a front has handed out. A course stays sound over all of them, and
what a store replies is known to have been right.
-/

namespace TrackedSettings

/-- What the caches keep is in their seats. -/
theorem Deployment.copies_of_seats {dep dep' : Deployment} (same : dep'.seats = dep.seats) (i : Nat) :
    (dep'.workspace i).copies = (dep.workspace i).copies := by
  unfold workspace
  rw [same]
  cases dep.seats[i]? <;> rfl

namespace Course

theorem sole_of_authorities {dep : Deployment} {a : Authority} (only : dep.authorities = #[a]) :
    dep.sole = a := by
  rw [Deployment.sole, only]
  rfl

/-- What a front may hand out depends on how the store lends its board, and on nothing else. -/
theorem fronts_congr {dep dep' : Deployment} {st : Store} (fronts : dep.Fronts st)
    (transfer : dep'.sole.transfer = dep.sole.transfer)
    (backing : dep'.sole.registry.backing = dep.sole.registry.backing) : dep'.Fronts st := by
  cases st with
  | plain a => exact fronts
  | replay r => exact fronts
  | flaky front a =>
      refine ⟨fronts.1, ?_⟩
      rw [transfer, backing]
      exact fronts.2

variable {x x' : Course} {dep : Deployment} {more : Nat → Nat}

/-- The course one moment later, when slots have moved on so many times more. -/
def next (x : Course) (dep : Deployment) (more : Nat → Nat) : Course where
  deployment := dep
  turns i := x.turns i + more i
  past := x.past ++ [dep.sole.entries]

/-- What others can do to a deployment between two moments. -/
structure Moves (x : Course) (dep : Deployment) (more : Nat → Nat) : Prop where
  sole : dep.authorities = #[dep.sole]
  backing : dep.sole.registry.backing = x.backing
  transfer : dep.sole.transfer = x.authority.transfer
  topics : x.authority.registry.topics <+: dep.sole.registry.topics
  registry : dep.sole.registry.Sound dep.shared.slots
  row : ∀ i, (dep.shared.slots.row x.backing)[i]? =
    (x.slots.row x.backing)[i]?.map (· + Int64.ofNat (more i))
  closed : ∀ v, x.slots.isClosed v = true → dep.shared.slots.isClosed v = true
  isOpen : x.authority.transfer = .duplicate → dep.shared.slots.isClosed x.backing = false
  still : ∀ topic index, dep.sole.registry.index? topic = some index → more index = 0 →
    x.slots.isClosed x.backing = false →
      ∀ key, topic.covers key = true → dep.sole.entries[key]? = x.authority.entries[key]?
  stores : ∀ (id : Nat) (store : Store), dep.stores[id]? = some store → dep.Fronts store
  copies : ∀ i, (dep.workspace i).copies = (x.deployment.workspace i).copies
  seats : dep.seats.size = x.deployment.seats.size

theorem Moves.later (moves : x.Moves dep more) : x.Later (x.next dep more) where
  seats := moves.seats
  backing := moves.backing
  transfer := moves.transfer
  topics := moves.topics
  turns i := Nat.le_add_right _ _
  closed := moves.closed
  past := List.prefix_append _ _
  still topic index slot same isOpen key covers := by
    have unmoved : x.turns index + more index = x.turns index := same
    refine moves.still topic index (Registry.index?_of_prefix moves.topics slot) (by omega) ?_ key
      covers
    cases before : x.slots.isClosed x.backing with
    | false => rfl
    | true =>
        have after : dep.shared.slots.isClosed x.backing = false := isOpen
        rw [moves.closed _ before] at after
        cases after

theorem Moves.sound (moves : x.Moves dep more) (sound : x.Sound)
    (few : ∀ i, (x.next dep more).turns i < 2 ^ 64) : (x.next dep more).Sound where
  sole := moves.sole
  registry := moves.registry
  isOpen duplicates := by
    have same : (x.next dep more).backing = x.backing := moves.backing
    rw [same]
    apply moves.isOpen
    rw [← moves.transfer]
    exact duplicates
  counted i generation held := by
    have same : (x.next dep more).backing = x.backing := moves.backing
    rw [same] at held
    have row := moves.row i
    change (dep.shared.slots.row x.backing)[i]? = some generation at held
    rw [held, eq_comm, Option.map_eq_some_iff] at row
    obtain ⟨before, was, rfl⟩ := row
    rw [sound.counted i before was, ← Int64.ofNat_add]
    rfl
  few := few
  stores := moves.stores
  kept i := by
    have kept := sound.kept i
    change (dep.workspace i).copies.Kept _ _ _
    rw [moves.copies]
    exact kept.mono (fun topic g granted => ⟨granted.later moves.later, fun copy own vouched =>
      vouched.later (own ▸ granted) moves.later few⟩) id
  now := by simp [next, authority]

/-- The store was left alone, and no views were closed but some that are not its own, unless it
lends its own. -/
theorem Sound.moves_aside {mine : View → Prop} (sound : x.Sound)
    (authorities : dep.authorities = x.deployment.authorities)
    (released : x.slots.Released mine dep.shared.slots)
    (spares : x.authority.transfer = .duplicate → ∀ u, mine u → u.serial ≠ x.backing.serial)
    (stores : ∀ (id : Nat) (store : Store), dep.stores[id]? = some store →
      x.deployment.Fronts store)
    (copies : ∀ i, (dep.workspace i).copies = (x.deployment.workspace i).copies)
    (seats : dep.seats.size = x.deployment.seats.size) : x.Moves dep fun _ => 0 := by
  have sole : dep.sole = x.authority := by
    rw [Deployment.sole, authorities]
    rfl
  have transfer : dep.sole.transfer = x.authority.transfer := by rw [sole]
  have backing : dep.sole.registry.backing = x.backing := by
    rw [sole]
    rfl
  refine
    { sole := by rw [authorities, sole]; exact sound.sole
      backing := backing
      transfer := transfer
      topics := sole ▸ List.prefix_refl _
      registry := ?_
      row := fun i => by simp [released.row, slots]
      closed := released.stays
      isOpen := ?_
      still := fun _ _ _ _ _ _ _ => by rw [sole]
      stores := fun id store held => fronts_congr (stores id store held) transfer backing
      copies := copies
      seats := seats }
  · rw [sole]
    refine ⟨sound.registry.owner, sound.registry.distinct, ?_, ?_⟩
    · rw [Slots.length, released.row]
      exact sound.registry.room
    · rw [released.issued]
      exact sound.registry.issued
  · intro duplicates
    cases after : dep.shared.slots.isClosed x.backing with
    | false => rfl
    | true =>
        rcases released.mine _ after with before | ⟨u, named, same⟩
        · rw [sound.isOpen duplicates] at before
          cases before
        · exact absurd same (spares duplicates u named)

theorem Sound.moves_refl (sound : x.Sound) : x.Moves x.deployment fun _ => 0 :=
  sound.moves_aside rfl (.refl (fun _ => False) _) (fun _ _ impossible => impossible.elim)
    sound.stores (fun _ => rfl) rfl

theorem Sound.moves_resolve (sound : x.Sound) (i : Nat) :
    x.Moves (x.deployment.resolve i).2 fun _ => 0 := by
  unfold Deployment.resolve
  cases known : x.deployment.seats[i]? with
  | none => exact sound.moves_refl
  | some seat =>
      refine sound.moves_aside rfl (.refl (fun _ => False) _)
        (fun _ _ impossible => impossible.elim) sound.stores ?_ Array.size_setIfInBounds
      intro j
      simp only [Deployment.workspace, Array.getElem?_setIfInBounds]
      by_cases here : i = j
      · subst here
        rw [if_pos rfl, if_pos (Array.getElem?_eq_some_iff.mp known).1, known]
      · rw [if_neg here]

theorem Sound.moves_collect (sound : x.Sound) :
    x.Moves { x.deployment with shared := { x.deployment.shared with journal := #[] } }
      fun _ => 0 :=
  sound.moves_aside rfl (.refl (fun _ => False) _) (fun _ _ impossible => impossible.elim)
    sound.stores (Deployment.copies_of_seats rfl) rfl

theorem Sound.moves_switch (sound : x.Sound) {store : StoreId} {front : Flaky} {a : Nat}
    (known : x.deployment.stores[store]? = some (.flaky front a)) (switches : Switches) :
    x.Moves { x.deployment with
      stores := x.deployment.stores.setIfInBounds store (.flaky { front with switches } a) }
      fun _ => 0 := by
  refine sound.moves_aside rfl (.refl (fun _ => False) _)
    (fun _ _ impossible => impossible.elim) ?_ (Deployment.copies_of_seats rfl) rfl
  intro id st held
  rw [Array.getElem?_setIfInBounds] at held
  split at held
  · split at held
    · cases held
      have fronts := sound.stores store _ known
      exact fronts
    · cases held
  · exact sound.stores id st held

/-- What a front has handed out is closed, and nothing else. -/
theorem breakHandedOut_released (f : Flaky) (s : Shared) :
    s.slots.Released (· ∈ f.handedOut) (f.breakHandedOut s).slots := by
  have folded : ∀ (views : List View) (s : Shared), (∀ v ∈ views, v ∈ f.handedOut) →
      s.slots.Released (· ∈ f.handedOut) (views.foldl (fun s v => s.close v) s).slots := by
    intro views
    induction views with
    | nil =>
        intro s _
        exact .refl _ _
    | cons v rest ih =>
        intro s handed
        rw [List.foldl_cons]
        refine Slots.Released.trans (((Handle.owned v).release_released s).mono ?_) (ih _ ?_)
        · rintro u ⟨⟩
          exact handed v List.mem_cons_self
        · intro u member
          exact handed u (List.mem_cons_of_mem _ member)
  exact folded f.handedOut s fun _ member => member

theorem Sound.moves_break (sound : x.Sound) {store : StoreId} {front : Flaky} {a : Nat}
    (known : x.deployment.stores[store]? = some (.flaky front a)) :
    x.Moves { x.deployment with shared := front.breakHandedOut x.deployment.shared }
      fun _ => 0 := by
  have fronts := sound.stores store _ known
  exact sound.moves_aside rfl (breakHandedOut_released front x.deployment.shared)
    (fun duplicates u member => fronts.2 duplicates u member) sound.stores
    (Deployment.copies_of_seats rfl) rfl

/-! ## Calls to a store -/

section Calls

variable {keys : List String} {answer : Answer}

theorem Sound.moves_of_serves (sound : x.Sound)
    (serves : x.authority.Serves x.slots keys answer dep.sole dep.shared.slots)
    (sole : dep.authorities = #[dep.sole]) (seats : dep.seats = x.deployment.seats)
    (stores : ∀ (id : Nat) (store : Store), dep.stores[id]? = some store → dep.Fronts store) :
    x.Moves dep fun i => dep.sole.registry.turns x.slots i keys where
  sole := sole
  backing := serves.moved.backing
  transfer := serves.moved.transfer
  topics := serves.moved.topics
  registry := serves.moved.sound
  row := serves.moved.turned
  closed v closed := by rw [serves.moved.isClosed]; exact closed
  isOpen duplicates := by rw [serves.moved.isClosed]; exact sound.isOpen duplicates
  still topic index slot none isOpen key covers :=
    serves.moved.untouched_of_turns_eq_zero slot isOpen none covers
  stores := stores
  copies := Deployment.copies_of_seats seats
  seats := by rw [seats]

/-- What the store brought was right when it was asked. -/
theorem Sound.fetched_of_serves (sound : x.Sound)
    (serves : x.authority.Serves x.slots keys answer dep.sole dep.shared.slots)
    (moves : x.Moves dep more) (few : ∀ i, (x.next dep more).turns i < 2 ^ 64) {copy : Copy}
    {grant : Option Grant} (brings : answer.brings = some (copy, grant)) :
    x.Fetched copy grant (x.next dep more) := by
  have holds := serves.holds copy grant brings
  have later := moves.later
  refine ⟨(sound.seen holds).later later, ?_, ?_⟩
  · intro index slot same isOpen
    exact holds.congr (later.still copy.topic index slot same isOpen)
  · intro g given
    subst given
    obtain ⟨slot, read, lent⟩ := serves.grants copy g brings
    have held := (Slots.read_eq_ok_iff.mp read).2
    rw [serves.moved.backing] at held
    have counted := sound.counted g.index g.generation held
    refine ⟨⟨slot, ⟨x.turns g.index, Nat.le_add_right _ _, counted⟩, lent⟩, ?_⟩
    intro present isOpen
    have upper := few g.index
    have lower : x.turns g.index ≤ (x.next dep more).turns g.index := later.turns g.index
    rw [counted] at present
    have equal := eq_of_ofNat_eq_ofNat (by omega) upper present
    have unmoved : x.turns g.index + more g.index = x.turns g.index := equal.symm
    apply holds.congr
    refine moves.still copy.topic g.index slot (by omega) (later.isOpen ?_)
    rwa [later.backing] at isOpen

end Calls

end Course

/-- The changes that a call to a store makes to the settings. -/
def Deployment.changes (dep : Deployment) (store : StoreId) (call : StoreCall) : List Change :=
  match dep.stores[store]? with
  | some (.plain _) => dep.sole.changes call
  | some (.flaky front _) => front.changes dep.sole call
  | some (.replay _) | none => []

/-- A call that reaches no store brings nothing. -/
theorem StoreCall.brings_unreached (store : StoreId) (call : StoreCall) (e : StoreError) :
    Answer.brings ⟨.store store call, call.unreached e⟩ = none := by
  cases call <;> rfl

namespace Course

variable {x : Course}

/-- A store that hands out duplicates does not lend its own view. -/
theorem serial_ne_of_grants {a : Authority} {m : Slots} {topic : Topic} {g : Grant}
    (grants : a.Grants m topic g) (duplicates : a.transfer = .duplicate) :
    g.handle.view.serial ≠ a.registry.backing.serial := by
  have lent := grants.2.2
  cases handle : g.handle with
  | owned v =>
      rw [handle] at lent
      exact lent.2.2
  | borrowed v =>
      rw [handle, Handle.Lent, duplicates] at lent
      cases lent.1

theorem Sound.authority_at_zero (sound : x.Sound) :
    x.deployment.authorities[0]? = some x.authority := by
  rw [sound.sole]
  rfl

theorem Sound.replaced (sound : x.Sound) (a : Authority) :
    x.deployment.authorities.setIfInBounds 0 a = #[a] := by
  rw [sound.sole]
  rfl

/-- Behind every store is the one authoritative store. -/
theorem Sound.authority_eq_zero (sound : x.Sound) {store : StoreId} {a : Nat}
    (behind : x.deployment.authority? store = some a) : a = 0 := by
  unfold Deployment.authority? at behind
  cases known : x.deployment.stores[store]? with
  | none =>
      rw [known] at behind
      cases behind
  | some st =>
      rw [known] at behind
      have fronts := sound.stores store st known
      cases st with
      | plain a =>
          cases behind
          exact fronts
      | flaky front a =>
          cases behind
          exact fronts.1
      | replay r => exact fronts.elim

theorem Sound.callAuthority_serves (sound : x.Sound) (store : StoreId) (call : StoreCall) :
    let (reply, dep) := x.deployment.callAuthority 0 call
    x.authority.Serves x.slots ((x.authority.changes call).map Change.key)
        ⟨.store store call, reply⟩ dep.sole dep.shared.slots ∧
      dep.authorities = #[dep.sole] ∧ dep.seats = x.deployment.seats ∧
      ∀ (id : Nat) (store : Store), dep.stores[id]? = some store → dep.Fronts store := by
  have serves := Authority.answer_serves (s := x.deployment.shared) sound.registry store call
  simp only [Deployment.callAuthority, sound.authority_at_zero]
  generalize x.authority.answer call x.deployment.shared = result at serves ⊢
  obtain ⟨reply, a', shared⟩ := result
  let dep : Deployment :=
    { x.deployment with
      shared, authorities := x.deployment.authorities.setIfInBounds 0 a' }
  have sole : dep.sole = a' := sole_of_authorities (sound.replaced a')
  refine ⟨?_, ?_, trivial, ?_⟩
  · change x.authority.Serves x.slots _ _ dep.sole shared.slots
    rw [sole]
    exact serves
  · change x.deployment.authorities.setIfInBounds 0 a' = #[dep.sole]
    rw [sole]
    exact sound.replaced a'
  · intro id st held
    change dep.Fronts st
    apply fronts_congr (sound.stores id st held)
    · rw [sole]
      exact serves.moved.transfer
    · rw [sole]
      exact serves.moved.backing

/-- A front is called, and it goes to the store as it likes. -/
theorem Sound.callFlaky_serves (sound : x.Sound) {store : StoreId} {front : Flaky}
    (known : x.deployment.stores[store]? = some (.flaky front 0)) (call : StoreCall) :
    let (reply, dep) := x.deployment.callStore store call
    x.authority.Serves x.slots ((x.deployment.changes store call).map Change.key)
        ⟨.store store call, reply⟩ dep.sole dep.shared.slots ∧
      dep.authorities = #[dep.sole] ∧ dep.seats = x.deployment.seats ∧
      ∀ (id : Nat) (store : Store), dep.stores[id]? = some store → dep.Fronts store := by
  have fronts := sound.stores store _ known
  have served := front.answer_serves (s := x.deployment.shared) sound.registry store call
  simp only [Deployment.callStore, Deployment.changes, known, sound.authority_at_zero]
  generalize front.answer call x.authority x.deployment.shared = result at served ⊢
  obtain ⟨reply, front', a', shared⟩ := result
  obtain ⟨serves, handed⟩ := served
  let dep : Deployment :=
    { x.deployment with
      shared, authorities := x.deployment.authorities.setIfInBounds 0 a'
      stores := x.deployment.stores.setIfInBounds store (.flaky front' 0) }
  have sole : dep.sole = a' := sole_of_authorities (sound.replaced a')
  have transfer : dep.sole.transfer = x.authority.transfer := by
    rw [sole]
    exact serves.moved.transfer
  have backing : dep.sole.registry.backing = x.backing := by
    rw [sole]
    exact serves.moved.backing
  refine ⟨?_, ?_, trivial, ?_⟩
  · change x.authority.Serves x.slots _ _ dep.sole shared.slots
    rw [sole]
    exact serves
  · change x.deployment.authorities.setIfInBounds 0 a' = #[dep.sole]
    rw [sole]
    exact sound.replaced a'
  · intro id st held
    change dep.Fronts st
    rw [Array.getElem?_setIfInBounds] at held
    split at held
    · split at held
      · cases held
        refine ⟨rfl, ?_⟩
        intro duplicates v member
        rcases handed v member with old | ⟨topic, g, grants, rfl⟩
        · rw [backing]
          exact fronts.2 (transfer ▸ duplicates) v old
        · rw [sole] at duplicates ⊢
          exact serial_ne_of_grants grants duplicates
      · cases held
    · exact fronts_congr (sound.stores id st held) transfer backing

theorem Sound.callStore_serves (sound : x.Sound) (store : StoreId) (call : StoreCall) :
    let (reply, dep) := x.deployment.callStore store call
    x.authority.Serves x.slots ((x.deployment.changes store call).map Change.key)
        ⟨.store store call, reply⟩ dep.sole dep.shared.slots ∧
      dep.authorities = #[dep.sole] ∧ dep.seats = x.deployment.seats ∧
      ∀ (id : Nat) (store : Store), dep.stores[id]? = some store → dep.Fronts store := by
  cases known : x.deployment.stores[store]? with
  | none =>
      simp only [Deployment.callStore, Deployment.changes, known]
      refine ⟨?_, sound.sole, trivial, sound.stores⟩
      exact (Authority.moved_refl sound.registry).serves (StoreCall.brings_unreached _ _ _)
  | some st =>
      have fronts := sound.stores store st known
      cases st with
      | replay r => exact fronts.elim
      | plain a =>
          have only : a = 0 := fronts
          subst only
          simp only [Deployment.callStore, Deployment.changes, known]
          exact sound.callAuthority_serves store call
      | flaky front a =>
          have only : a = 0 := fronts.1
          subst only
          exact sound.callFlaky_serves known call

end Course

end TrackedSettings
