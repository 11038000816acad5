import TrackedSettings.Proofs.Allotment
import TrackedSettings.Proofs.Conduct
import TrackedSettings.Proofs.Reports

/-! # A cache alone with its store

When nobody else comes between, what an operation does follows from the workspace and from the store
that it reads. A read of a topic is then either answered from the copy, and no call is made, or it asks
the store once, and after that the topic has a copy under a tracker that has seen the latest
generation, if there is a slot for it at all.
-/

namespace TrackedSettings

open Operation

/-- A workspace, the store that is read, and the calls made to the store. -/
@[ext]
structure Solo where
  workspace : Workspace
  authority : Authority
  calls : List StoreCall

namespace Solo

/-- The resolver finds store `st`. The stores with numbers below `size` are all the same one, and
there are no others. -/
def host (size : Nat) (st : StoreId) : Host Solo where
  workspace s := s.workspace
  putBack w s := { s with workspace := w }
  answer call s :=
    match call with
    | .notify _ => ((), s)
    | .resolve .. => (.ok st, s)
    | .store id call =>
        let calls := s.calls ++ (Outcall.store id call).counted
        if id < size then
          let (reply, authority, shared) := s.authority.answer call s.workspace.shared
          (reply, { workspace := { s.workspace with shared }, authority, calls })
        else (call.unreached (.unavailable "no such store"), { s with calls })

variable {α β : Type} {size : Nat} {st : StoreId} {s s' s'' : Solo}

theorem run_andThen (p : Progress α) (next : α → Operation β) (s : Solo) :
    (p.andThen next).run (host size st) s =
      (next (p.run (host size st) s).1).run (host size st) (p.run (host size st) s).2 := by
  induction p generalizing s with
  | finished a w =>
      change (next a w).run (host size st) s = (next a w).run (host size st) { s with workspace := w }
      cases next a w <;> rfl
  | waiting call w resume ih => exact ih _ _ _

@[simp] theorem run_bind (op : Operation α) (next : α → Operation β) (s : Solo) :
    (op >>= next).run (host size st) s =
      (next (op.run (host size st) s).1).run (host size st) (op.run (host size st) s).2 :=
  run_andThen (op s.workspace) next s

@[simp] theorem run_pure (a : α) (s : Solo) :
    (pure a : Operation α).run (host size st) s = (a, s) := rfl

@[simp] theorem run_change (step : Workspace → Workspace) (s : Solo) :
    (change step).run (host size st) s = ((), { s with workspace := step s.workspace }) := rfl

@[simp] theorem run_locked (step : Workspace → α × Workspace) (s : Solo) :
    (locked step).run (host size st) s =
      ((step s.workspace).1, { s with workspace := (step s.workspace).2 }) := rfl

@[simp] theorem run_notify (event : Event) (s : Solo) :
    (notify event).run (host size st) s = ((), s) := rfl

@[simp] theorem run_resolve (uri : String) (caller : Caller) (s : Solo) :
    (ask (.resolve uri caller)).run (host size st) s = (.ok st, s) := rfl

/-- The store answers the calls that are made to it. -/
theorem run_call (inside : st < size) (call : StoreCall) (s : Solo) :
    (ask (.store st call)).run (host size st) s =
      ((s.authority.answer call s.workspace.shared).1,
        { workspace := { s.workspace with
            shared := (s.authority.answer call s.workspace.shared).2.2 }
          authority := (s.authority.answer call s.workspace.shared).2.1
          calls := s.calls ++ (Outcall.store st call).counted }) :=
  if_pos inside

@[simp] theorem run_map (f : α → β) (op : Operation α) (s : Solo) :
    (f <$> op).run (host size st) s =
      (f (op.run (host size st) s).1, (op.run (host size st) s).2) :=
  Operation.run_map (host size st) f op s

end Solo

/-! ## Trackers and copies -/

namespace Workspace

variable {w : Workspace} {topic : Topic} {t : Tracker}

/-- The topic has a copy, and its tracker has seen the slot as it was `n` bumps ago. -/
structure Settled (w : Workspace) (a : Authority) (topic : Topic) (n : Nat) (t : Tracker) : Prop where
  tracker : w.copies.trackers[topic]? = some t
  copy : (w.copies.find? topic).isSome
  alive : t.destroyed = false
  slot : a.registry.index? topic = some t.index
  board : t.handle.view.board = a.registry.backing.board
  isOpen : w.shared.slots.isClosed t.handle.view = false
  generation : (w.shared.slots.row a.registry.backing)[t.index]? =
    some (t.generation + Int64.ofNat n)

theorem Settled.look {a : Authority} {n : Nat} (settled : w.Settled a topic n t) :
    t.look w.shared.slots = .ok (t.generation + Int64.ofNat n) := by
  have held := settled.generation
  rw [← Slots.row_eq_of_board _ settled.board] at held
  rw [Tracker.look, settled.alive]
  exact Slots.read_eq_ok_iff.mpr ⟨settled.isOpen, held⟩

theorem validate_current (current : w.Current topic t) :
    w.validate topic = (.current t.generation, w) := by
  simp [validate, Tracker.check, current.1, current.2]

theorem consult_current {α : Type} (current : w.Current topic t) (look : Copies → Option α) :
    w.consult topic look = ((.current t.generation, look w.copies), w) := by
  rw [consult, validate_current current]

theorem consult_gone {α : Type} (gone : w.Gone topic) (look : Copies → Option α) :
    w.consult topic look = ((.absent, none), w) := by
  simp [consult, validate, gone.1]

theorem consult_moved {α : Type} {generation : Int64} (tracked : w.copies.trackers[topic]? = some t)
    (read : t.look w.shared.slots = .ok generation) (moved : generation ≠ t.generation)
    (look : Copies → Option α) :
    ∃ w', w.consult topic look = ((.moved, none), w') ∧ w'.store = w.store ∧
      w.Sets topic none none (fun _ => False) w' := by
  simp only [consult, validate, tracked, Tracker.check, read, moved, ↓reduceIte]
  refine ⟨_, rfl, ?_, w.evict_sets topic rfl⟩
  cases topic <;> exact store_dropTracker _ _

theorem dropTracker_gone (gone : w.Gone topic) : w.dropTracker topic = w := by
  rw [dropTracker, gone.1]

/-- Where nothing is kept, a current tracker comes in place together with the copy. -/
theorem saveUnder_gone {copy : Copy} {save : Workspace → Workspace} (saves : Saves save copy)
    {t : Tracker} (own : t.topic = copy.topic) (gone : w.Gone copy.topic)
    (read : t.look w.shared.slots = .ok t.generation) :
    ∃ w', w.saveUnder t save = (.current t.generation, w') ∧
      w'.copies.trackers[copy.topic]? = some t ∧ w'.copies.find? copy.topic = some copy ∧
        w'.shared.slots = w.shared.slots := by
  have put := w.replace_put t
  have slots : (w.replace t).shared.slots = w.shared.slots := by
    rw [replace, own, dropTracker_gone gone]
  have current : (w.replace t).Current t.topic t := ⟨put.tracker, by rw [slots]; exact read⟩
  obtain ⟨saved, same⟩ := saves (w.replace t)
  rw [own] at put current
  refine ⟨save (w.replace t), ?_, ?_, saved.copy, same.trans slots⟩
  · rw [saveUnder, install_eq, own, validate_current current]
  · rw [saved.tracker, put.tracker]

end Workspace

/-! ## Reads -/

namespace Solo

variable {size : Nat} {st : StoreId} {s s' s'' : Solo} {topic : Topic}

/-- The store is in order, and whatever the workspace closes of `topic` is not the store's own. -/
structure Ready (st : StoreId) (topic : Topic) (s : Solo) : Prop where
  registry : s.authority.registry.Sound s.workspace.shared.slots
  isOpen : s.workspace.shared.slots.isClosed s.authority.registry.backing = false
  closed : ∀ v, s.workspace.shared.slots.isClosed v = true →
    v.serial < s.workspace.shared.slots.issued
  held : ∀ t v, s.workspace.copies.trackers[topic]? = some t → t.handle = .owned v →
    v.serial ≠ s.authority.registry.backing.serial ∧ v.serial < s.workspace.shared.slots.issued
  found : s.workspace.store = none ∨ s.workspace.store = some st

/-- Nothing has happened but that notes were made, or the store was found. -/
structure Quiet (st : StoreId) (s s' : Solo) : Prop where
  copies : s'.workspace.copies = s.workspace.copies
  slots : s'.workspace.shared.slots = s.workspace.shared.slots
  store : s'.workspace.store = s.workspace.store ∨ s'.workspace.store = some st
  authority : s'.authority = s.authority
  calls : s'.calls = s.calls

theorem Ready.quiet (ready : s.Ready st topic) (quiet : s.Quiet st s') : s'.Ready st topic := by
  obtain ⟨copies, slots, store, authority, -⟩ := quiet
  refine ⟨?_, ?_, ?_, ?_, ?_⟩
  · rw [authority, slots]; exact ready.registry
  · rw [authority, slots]; exact ready.isOpen
  · rw [slots]; exact ready.closed
  · rw [copies, authority, slots]; exact ready.held
  · rcases store with same | found
    · rw [same]; exact ready.found
    · exact Or.inr found

theorem Quiet.trans (first : s.Quiet st s') (second : s'.Quiet st s'') : s.Quiet st s'' where
  copies := second.copies.trans first.copies
  slots := second.slots.trans first.slots
  store := by
    rcases second.store with same | found
    · rw [same]
      exact first.store
    · exact Or.inr found
  authority := second.authority.trans first.authority
  calls := second.calls.trans first.calls

theorem Quiet.gone (quiet : s.Quiet st s') (gone : s.workspace.Gone topic) :
    s'.workspace.Gone topic := by
  rw [Workspace.Gone, quiet.copies]
  exact gone

theorem Quiet.settled (quiet : s.Quiet st s') {n : Nat} {t : Tracker}
    (settled : s.workspace.Settled s.authority topic n t) :
    s'.workspace.Settled s'.authority topic n t := by
  obtain ⟨tracker, copy, alive, slot, board, isOpen, generation⟩ := settled
  rw [← quiet.copies] at tracker copy
  rw [← quiet.authority] at slot board generation
  rw [← quiet.slots] at isOpen generation
  exact ⟨tracker, copy, alive, slot, board, isOpen, generation⟩

/-- The store was asked by `call` once. Now the topic has a copy under a tracker that is current, or
it has no slot since there is none left. -/
structure Paid (topic : Topic) (call : StoreCall) (s s' : Solo) : Prop where
  calls : s'.calls = s.calls ++ [call]
  kept : s'.authority.registry.index? topic ≠ none →
    ∃ t, s'.workspace.Settled s'.authority topic 0 t
  full : s'.authority.registry.index? topic = none → s'.workspace.Gone topic ∧
    s'.authority.registry.topics.length =
      s'.workspace.shared.slots.length s'.authority.registry.backing

theorem note_quiet (c : Cache) (level : Level) (text : String) (s : Solo) :
    s.Quiet st ((c.note level text).run (host size st) s).2 :=
  ⟨rfl, rfl, Or.inl rfl, rfl, rfl⟩

theorem provider_quiet (c : Cache) (caller : Caller)
    (found : s.workspace.store = none ∨ s.workspace.store = some st) :
    ∃ s', (c.provider caller).run (host size st) s = (.ok st, s') ∧ s.Quiet st s' := by
  unfold Cache.provider
  rcases found with unknown | known
  · refine ⟨_, by simp only [run_bind, run_locked, unknown, run_change]; rfl, ?_⟩
    exact ⟨rfl, rfl, Or.inr rfl, rfl, rfl⟩
  · refine ⟨_, by simp only [run_bind, run_locked, known, run_pure]; rfl, ?_⟩
    exact ⟨rfl, rfl, Or.inl rfl, rfl, rfl⟩

/-- A read that finds nothing kept has no footing. -/
theorem standing_gone {α : Type} (c : Cache) (look : Copies → Option α)
    (gone : s.workspace.Gone topic) :
    (c.standing true topic look).run (host size st) s = (.pending .untracked, s) := by
  simp [Cache.standing, Workspace.consult_gone gone, Cache.report]

theorem standing_current {α : Type} (c : Cache) (look : Copies → Option α) {t : Tracker} {data : α}
    (current : s.workspace.Current topic t) (kept : look s.workspace.copies = some data) :
    (c.standing true topic look).run (host size st) s = (.answered data, s) := by
  simp [Cache.standing, Workspace.consult_current current, Cache.report, kept]

/-- The topic is dropped, and the store's own view is not among those that are closed. -/
theorem Ready.dropped (ready : s.Ready st topic) {w : Workspace}
    (sets : s.workspace.Sets topic none none (fun _ => False) w)
    (store : w.store = s.workspace.store) : Ready st topic { s with workspace := w } := by
  obtain ⟨sound, isOpen, closed, held, found⟩ := ready
  have mine : ∀ v, w.shared.slots.isClosed v = true → s.workspace.shared.slots.isClosed v = true ∨
      ∃ t u, s.workspace.copies.trackers[topic]? = some t ∧ t.handle = .owned u ∧
        u.serial = v.serial := by
    intro v shut
    rcases sets.slots.mine v shut with before | ⟨u, impossible | ⟨t, tracked, owned⟩, same⟩
    · exact Or.inl before
    · exact impossible.elim
    · exact Or.inr ⟨t, u, tracked, owned, same⟩
  have row := sets.slots.row s.authority.registry.backing
  have issued := sets.slots.issued
  refine ⟨⟨sound.owner, sound.distinct, ?_, ?_⟩, ?_, ?_, ?_, ?_⟩
  · rw [Slots.length, row]
    exact sound.room
  · rw [issued]
    exact sound.issued
  · rw [Bool.eq_false_iff]
    intro shut
    rcases mine _ shut with before | ⟨t, u, tracked, owned, same⟩
    · rw [isOpen] at before
      cases before
    · exact (held t u tracked owned).1 same
  · intro v shut
    rw [issued]
    rcases mine v shut with before | ⟨t, u, tracked, owned, same⟩
    · exact closed v before
    · rw [← same]
      exact (held t u tracked owned).2
  · intro t v tracked
    rw [sets.copies.tracker] at tracked
    cases tracked
  · rw [store]
    exact found

/-- A read that finds the slot moved drops what was kept, and has no footing. -/
theorem standing_moved {α : Type} (c : Cache) (look : Copies → Option α) {t : Tracker}
    {generation : Int64} (ready : s.Ready st topic)
    (tracked : s.workspace.copies.trackers[topic]? = some t)
    (read : t.look s.workspace.shared.slots = .ok generation) (moved : generation ≠ t.generation) :
    ∃ s', (c.standing true topic look).run (host size st) s = (.pending .untracked, s') ∧
      s'.Ready st topic ∧ s'.workspace.Gone topic ∧ s'.calls = s.calls := by
  obtain ⟨w, consulted, store, sets⟩ := Workspace.consult_moved tracked read moved look
  let told : Solo :=
    ((c.note .debug s!"STALE({topic.describe})").run (host size st) { s with workspace := w }).2
  have run : (c.standing true topic look).run (host size st) s = (.pending .untracked, told) := by
    simp [Cache.standing, consulted, Cache.report, told]
  have quiet : Quiet st { s with workspace := w } told := note_quiet c _ _ _
  refine ⟨told, run, (ready.dropped sets store).quiet quiet, ?_, quiet.calls⟩
  exact sets.gone

/-- What came with a grant that is current is kept where nothing was. -/
theorem receive_settled (c : Cache) {copy : Copy} {save : Workspace → Workspace}
    (saves : Workspace.Saves save copy) (gone : s.workspace.Gone copy.topic) {g : Grant}
    (slot : s.authority.registry.index? copy.topic = some g.index)
    (board : g.handle.view.board = s.authority.registry.backing.board)
    (isOpen : s.workspace.shared.slots.isClosed g.handle.view = false)
    (held : (s.workspace.shared.slots.row s.authority.registry.backing)[g.index]? = some g.generation) :
    ∃ w, (c.receive copy.topic .untracked (some g) save).run (host size st) s =
        ((), { s with workspace := w }) ∧
      w.Settled s.authority copy.topic 0 (.ofGrant copy.topic g) := by
  have read : (Tracker.ofGrant copy.topic g).look s.workspace.shared.slots = .ok g.generation := by
    have row := Slots.row_eq_of_board s.workspace.shared.slots board
    exact Slots.read_eq_ok_iff.mpr ⟨isOpen, (congrArg (·[g.index]?) row).trans held⟩
  obtain ⟨w, saved, tracker, kept, slots⟩ :=
    s.workspace.saveUnder_gone saves (t := .ofGrant copy.topic g) rfl gone read
  have unmoved : g.generation + Int64.ofNat 0 = g.generation := by simp
  refine ⟨w, by simp [Cache.receive, Cache.saveGranted, saved], ?_⟩
  refine ⟨tracker, by rw [kept]; rfl, rfl, slot, board, ?_, ?_⟩
  · rw [slots]
    exact isOpen
  · rw [slots]
    exact held.trans (congrArg some unmoved.symm)

/-- What came with an answer is kept, if a grant came with it. If none did, no slot was left. -/
theorem receive_paid (c : Cache) {copy : Copy} {save : Workspace → Workspace}
    (saves : Workspace.Saves save copy) (ready : s.Ready st copy.topic)
    (gone : s.workspace.Gone copy.topic) (user : UserId) (call : StoreCall) :
    let (grant, authority, shared) :=
      s.authority.track copy.topic { user, tracked := true } s.workspace.shared
    let asked : Solo :=
      { workspace := { s.workspace with shared }, authority, calls := s.calls ++ [call] }
    Paid copy.topic call s
      ((c.receive copy.topic .untracked grant save).run (host size st) asked).2 := by
  have tracked := Registry.track_tracked ready.registry copy.topic s.authority.transfer
  have full := Registry.full_of_track ready.registry ready.isOpen copy.topic s.authority.transfer
  have current := fun g => Registry.current_of_track (g := g) ready.registry ready.isOpen
    ready.closed copy.topic s.authority.transfer
  simp only [Authority.track, ↓reduceIte]
  generalize s.authority.registry.track copy.topic s.authority.transfer s.workspace.shared = result
    at tracked full current
  obtain ⟨grant, r, shared⟩ := result
  simp only at tracked full current ⊢
  cases grant with
  | none =>
      obtain ⟨untracked, whole⟩ := full rfl
      refine ⟨rfl, fun impossible => absurd untracked impossible, fun _ => ⟨gone, ?_⟩⟩
      have length : shared.slots.length r.backing =
          s.workspace.shared.slots.length s.authority.registry.backing := by
        rw [Slots.length, Slots.length, Slots.row, tracked.boards, tracked.backing]
        rfl
      exact whole.trans length.symm
  | some g =>
      obtain ⟨slot, board, isOpen, held⟩ := current g rfl
      let asked : Solo :=
        { workspace := { s.workspace with shared }
          authority := { s.authority with registry := r }
          calls := s.calls ++ [call] }
      obtain ⟨w, run, settled⟩ : ∃ w, (c.receive copy.topic .untracked (some g) save).run
          (host size st) asked = ((), { asked with workspace := w }) ∧
            w.Settled asked.authority copy.topic 0 (.ofGrant copy.topic g) :=
        receive_settled (s := asked) c saves gone slot board isOpen held
      rw [run]
      refine ⟨rfl, fun _ => ⟨_, settled⟩, ?_⟩
      intro untracked
      rw [slot] at untracked
      cases untracked

/-- Nothing is kept, or the slot has moved since. -/
def Due (topic : Topic) (s : Solo) : Prop :=
  s.workspace.Gone topic ∨
    ∃ n t, s.workspace.Settled s.authority topic n t ∧ Int64.ofNat n ≠ 0

theorem Quiet.due (quiet : s.Quiet st s') (due : s.Due topic) : s'.Due topic := by
  rcases due with gone | ⟨n, t, settled, some⟩
  · exact Or.inl (quiet.gone gone)
  · exact Or.inr ⟨n, t, quiet.settled settled, some⟩

theorem standing_due {α : Type} (size : Nat) (c : Cache) (look : Copies → Option α)
    (ready : s.Ready st topic) (due : s.Due topic) :
    ∃ s', (c.standing true topic look).run (host size st) s = (.pending .untracked, s') ∧
      s'.Ready st topic ∧ s'.workspace.Gone topic ∧ s'.calls = s.calls := by
  rcases due with gone | ⟨n, t, settled, some⟩
  · exact ⟨s, standing_gone c look gone, ready, gone, rfl⟩
  · apply standing_moved c look ready settled.tracker settled.look
    intro same
    exact some (by simpa using same)

theorem Paid.earlier {call : StoreCall} (paid : Paid topic call s' s'') (same : s'.calls = s.calls) :
    Paid topic call s s'' :=
  ⟨by rw [← same]; exact paid.calls, paid.kept, paid.full⟩

theorem fetchValue_paid (c : Cache) (inside : st < size) {key : String} (user : UserId)
    (ready : s.Ready st (.key key)) (gone : s.workspace.Gone (.key key)) :
    Paid (.key key) (.get key { user, tracked := true }) s
      ((c.fetchValue key user .untracked).run (host size st) s).2 := by
  obtain ⟨s', provided, quiet⟩ : ∃ s', (c.provider c.caller).run (host size st) s = (.ok st, s') ∧
      s.Quiet st s' := provider_quiet c c.caller ready.found
  apply Paid.earlier _ quiet.calls
  simp only [Cache.fetchValue, run_bind, provided, run_notify, Footing.wantsGrant, run_call inside,
    Authority.answer, Authority.get]
  exact receive_paid c (c.keepValue_saves key "" (s'.authority.value key)) (ready.quiet quiet)
    (quiet.gone gone) user (.get key { user, tracked := true })

/-- A read of a key that is due asks for the key once. -/
theorem value_paid (c : Cache) (inside : st < size) {key : String}
    (client : c.caller.atStore = false) (allowed : c.access.readable key c.caller = true)
    (ready : s.Ready st (.key key)) (due : s.Due (.key key)) :
    Paid (.key key) (.get key { user := c.caller.user, tracked := true }) s
      ((c.value key c.caller.user).run (host size st) s).2 := by
  have noted : s.Quiet st ((c.note .debug s!"GET({key})").run (host size st) s).2 :=
    note_quiet c _ _ s
  obtain ⟨s', stands, ready', gone, calls⟩ :=
    standing_due size c (·.values[key]?) (ready.quiet noted)
      (noted.due due)
  have keeps : c.keepsFor c.caller.user = true := by simp [Cache.keepsFor, client]
  apply Paid.earlier _ (calls.trans noted.calls)
  simp only [Cache.value, run_bind, keeps, stands, allowed, ↓reduceIte, run_map]
  exact fetchValue_paid c inside c.caller.user ready' gone

theorem standing_settled {α : Type} (size : Nat) (st : StoreId) (c : Cache)
    (look : Copies → Option α) {t : Tracker} {data : α}
    (settled : s.workspace.Settled s.authority topic 0 t) (kept : look s.workspace.copies = some data) :
    (c.standing true topic look).run (host size st) s = (.answered data, s) := by
  have read := settled.look
  rw [show t.generation + Int64.ofNat 0 = t.generation by simp] at read
  exact standing_current c look ⟨settled.tracker, read⟩ kept

/-- A read of a key that is settled, and whose slot has not moved, asks nobody. -/
theorem value_free (c : Cache) {key : String} (client : c.caller.atStore = false) {t : Tracker}
    (settled : s.workspace.Settled s.authority (.key key) 0 t) :
    s.Quiet st ((c.value key c.caller.user).run (host size st) s).2 := by
  have noted : s.Quiet st ((c.note .debug s!"GET({key})").run (host size st) s).2 :=
    note_quiet c _ _ s
  have copy := settled.copy
  rw [Desk.isSome_find?_key] at copy
  obtain ⟨v, kept⟩ := Option.isSome_iff_exists.mp copy
  have stands := standing_settled size st c (·.values[key]?) (noted.settled settled) kept
  have keeps : c.keepsFor c.caller.user = true := by simp [Cache.keepsFor, client]
  simp only [Cache.value, run_bind, keeps, stands, run_notify, run_pure]
  exact noted.trans (note_quiet c _ _ _)

theorem fetchListing_paid (c : Cache) (inside : st < size) {stem : String} (names : List String)
    (ready : s.Ready st (.under stem)) (gone : s.workspace.Gone (.under stem)) :
    Paid (.under stem) (.list stem { user := c.caller.user, tracked := true }) s
      ((c.fetchListing st stem names .untracked).run (host size st) s).2 := by
  simp only [Cache.fetchListing, run_bind, run_notify, Footing.wantsGrant, run_call inside,
    Authority.answer, Authority.list]
  exact receive_paid c (c.keepListing_saves stem _) ready gone c.caller.user
    (.list stem { user := c.caller.user, tracked := true })

theorem listing_paid (c : Cache) (inside : st < size) {stem : String} (names : List String)
    (client : c.caller.atStore = false) (ready : s.Ready st (.under stem))
    (due : s.Due (.under stem)) :
    Paid (.under stem) (.list stem { user := c.caller.user, tracked := true }) s
      ((c.listing stem names).run (host size st) s).2 := by
  have noted : s.Quiet st ((c.note .debug s!"GET_PREFIX({stem}); names={names.length}").run
      (host size st) s).2 := note_quiet c _ _ s
  obtain ⟨s', stands, ready', gone, calls⟩ :=
    standing_due size c (fun copies => copies.listings[stem]?.map (·.choose names))
      (ready.quiet noted) (noted.due due)
  obtain ⟨s'', provided, quiet⟩ : ∃ s'', (c.provider c.caller).run (host size st) s' = (.ok st, s'') ∧
      s'.Quiet st s'' := provider_quiet c c.caller ready'.found
  apply Paid.earlier _ (quiet.calls.trans (calls.trans noted.calls))
  simp only [Cache.listing, run_bind, client, Bool.not_false, stands, provided]
  have able : (ask (.store st .canList)).run (host size st) s'' = (true, s'') := by
    have nothing : s''.calls ++ [] = s''.calls := List.append_nil _
    rw [run_call inside]
    exact congrArg (fun calls => (true, { s'' with calls })) nothing
  rw [able]
  exact fetchListing_paid c inside names (ready'.quiet quiet) (quiet.gone gone)

/-- A read under a stem that is settled, and whose slot has not moved, asks nobody. -/
theorem listing_free (c : Cache) {stem : String} (names : List String)
    (client : c.caller.atStore = false) {t : Tracker}
    (settled : s.workspace.Settled s.authority (.under stem) 0 t) :
    s.Quiet st ((c.listing stem names).run (host size st) s).2 := by
  have noted : s.Quiet st ((c.note .debug s!"GET_PREFIX({stem}); names={names.length}").run
      (host size st) s).2 := note_quiet c _ _ s
  have copy := settled.copy
  rw [Desk.isSome_find?_under] at copy
  obtain ⟨all, kept⟩ := Option.isSome_iff_exists.mp copy
  have stands := standing_settled size st c
    (fun copies => copies.listings[stem]?.map (·.choose names)) (noted.settled settled)
    (congrArg (Option.map (Entries.choose names)) kept)
  simp only [Cache.listing, run_bind, client, Bool.not_false, stands, run_notify, run_pure]
  exact noted.trans (note_quiet c _ _ _)

end Solo

/-! ## Reads of a topic -/

/-- The act is a read of the topic for the cache's own user. -/
def CacheAct.isReadOf (c : Cache) (topic : Topic) : CacheAct → Bool
  | .value key user => topic == .key key && user == c.caller.user
  | .listing stem _ | .named stem _ => topic == .under stem
  | _ => false

def Cache.mayRead (c : Cache) : Topic → Bool
  | .key key => c.access.readable key c.caller
  | .under _ => true

/-- The call by which a cache asks for a topic that it wants to watch. -/
def Cache.request (c : Cache) : Topic → StoreCall
  | .key key => .get key { user := c.caller.user, tracked := true }
  | .under stem => .list stem { user := c.caller.user, tracked := true }

namespace Solo

variable {size : Nat} {st : StoreId} {s : Solo} {topic : Topic} {act : CacheAct}

/-- A read of a topic that is due makes the one call. -/
theorem read_paid (c : Cache) (inside : st < size) (client : c.caller.atStore = false)
    (reads : act.isReadOf c topic = true) (allowed : c.mayRead topic = true)
    (ready : s.Ready st topic) (due : s.Due topic) :
    Paid topic (c.request topic) s ((act.operation c).run (host size st) s).2 := by
  cases act with
  | value key user =>
      simp only [CacheAct.isReadOf, Bool.and_eq_true, beq_iff_eq] at reads
      obtain ⟨rfl, rfl⟩ := reads
      simp only [CacheAct.operation, run_map]
      exact value_paid c inside client allowed ready due
  | listing stem names =>
      simp only [CacheAct.isReadOf, beq_iff_eq] at reads
      subst reads
      simp only [CacheAct.operation, run_map]
      exact listing_paid c inside names client ready due
  | named stem name =>
      simp only [CacheAct.isReadOf, beq_iff_eq] at reads
      subst reads
      simp only [CacheAct.operation, Cache.named, run_map, run_bind, run_pure]
      exact listing_paid c inside [name] client ready due
  | put | putAll | delete | reset | copy | isTracked | clear | forget | profile | readable
  | provider | unresolve | heard => cases reads

/-- A read of a topic that is settled, and whose slot has not moved, makes no call. -/
theorem read_free (c : Cache) (client : c.caller.atStore = false)
    (reads : act.isReadOf c topic = true) {t : Tracker}
    (settled : s.workspace.Settled s.authority topic 0 t) :
    s.Quiet st ((act.operation c).run (host size st) s).2 := by
  cases act with
  | value key user =>
      simp only [CacheAct.isReadOf, Bool.and_eq_true, beq_iff_eq] at reads
      obtain ⟨rfl, rfl⟩ := reads
      simp only [CacheAct.operation, run_map]
      exact value_free c client settled
  | listing stem names =>
      simp only [CacheAct.isReadOf, beq_iff_eq] at reads
      subst reads
      simp only [CacheAct.operation, run_map]
      exact listing_free c names client settled
  | named stem name =>
      simp only [CacheAct.isReadOf, beq_iff_eq] at reads
      subst reads
      simp only [CacheAct.operation, Cache.named, run_map, run_bind, run_pure]
      exact listing_free c [name] client settled
  | put | putAll | delete | reset | copy | isTracked | clear | forget | profile | readable
  | provider | unresolve | heard => cases reads

end Solo

end TrackedSettings
