import TrackedSettings.Proofs.Desk

/-! # What a cache does with what it holds

Between one call and the next an operation is alone with its workspace. It may give up trackers, put
the tracker of a grant that has just come in place, and keep a copy that has just come; what it gives
up it closes, if the view is its own. `Workspace.Conduct` says this of one stretch of an operation, and
every step that a cache takes on its workspace is shown to be in keeping with it.
-/

namespace TrackedSettings

/-! ## One stretch -/

/-- What an operation is concerned with: the topics that it may touch, and the generations that it
found current when it began. -/
structure Remit where
  touches : Topic → Prop
  saw : Topic → Int64 → Prop

/-- The grants that came with the last answer. -/
def receiptsOf (last : Option Answer) : List (Topic × Grant) :=
  last.elim [] Answer.receipts

/-- The grant of this tracker has come with the last answer. -/
def Delivered (last : Option Answer) (topic : Topic) (t : Tracker) : Prop :=
  ∃ g, (topic, g) ∈ receiptsOf last ∧ t = .ofGrant topic g

/-- The last answer has brought no grant. -/
def Spent (last : Option Answer) : Prop :=
  receiptsOf last = []

theorem spent_none : Spent none := rfl

theorem Spent.not_delivered {last : Option Answer} (spent : Spent last) {topic : Topic} {t : Tracker} :
    ¬ Delivered last topic t := by
  rintro ⟨g, member, -⟩
  rw [spent] at member
  cases member

theorem Answer.mem_receipts_iff {a : Answer} {topic : Topic} {g : Grant} :
    (topic, g) ∈ a.receipts ↔ ∃ copy, a.brings = some (copy, some g) ∧ copy.topic = topic := by
  unfold receipts
  split
  · next copy g' brings =>
    rw [List.mem_singleton, Prod.mk.injEq]
    constructor
    · rintro ⟨rfl, rfl⟩
      exact ⟨copy, brings, rfl⟩
    · rintro ⟨copy', brings', rfl⟩
      rw [brings] at brings'
      cases brings'
      exact ⟨rfl, rfl⟩
  · next copy brings =>
    refine iff_of_false List.not_mem_nil ?_
    rintro ⟨copy', brings', -⟩
    rw [brings] at brings'
    cases brings'
  · next brings =>
    refine iff_of_false List.not_mem_nil ?_
    rintro ⟨copy', brings', -⟩
    rw [brings] at brings'
    cases brings'

namespace Workspace

/-- The cache answers for this tracker: it is in place, or its grant has just come. -/
def InCharge (w : Workspace) (last : Option Answer) (topic : Topic) (t : Tracker) : Prop :=
  w.copies.trackers[topic]? = some t ∨ Delivered last topic t

/-- The cache's own view in a tracker that is not in place any longer, or that gave its place to
another with the same view. -/
def GivenUp (w : Workspace) (last : Option Answer) (w' : Workspace) (v : View) : Prop :=
  ∃ topic t, w.InCharge last topic t ∧ t.handle = .owned v ∧
    (w'.copies.trackers[topic]? = some t →
      w.copies.trackers[topic]? = some t ∧ Delivered last topic t)

/-- What can become of a workspace from one call to the next, when the operation goes on with the
answer `last`. -/
structure Conduct (r : Remit) (last : Option Answer) (w w' : Workspace) : Prop where
  elsewhere : ∀ topic, ¬ r.touches topic →
    w'.copies.trackers[topic]? = w.copies.trackers[topic]? ∧
      w'.copies.find? topic = w.copies.find? topic
  installed : ∀ topic t, w'.copies.trackers[topic]? = some t → w.InCharge last topic t
  /-- No view of the cache's own is lost from sight while it is open. -/
  disposed : ∀ topic t v, w.InCharge last topic t → t.destroyed = false → t.handle = .owned v →
    w'.copies.trackers[topic]? = some t ∨ w'.shared.slots.isClosed v = true
  closes : w.shared.slots.Released (w.GivenUp last w') w'.shared.slots
  /-- A copy without a grant is kept under a current tracker, if this reads what the operation found
  when it began. -/
  kept : ∀ copy, w'.copies.find? copy.topic = some copy →
    w.copies.find? copy.topic = some copy ∨ ∃ a grant, last = some a ∧
      a.brings = some (copy, grant) ∧
        (grant = none → ∃ t, w.Current copy.topic t ∧ r.saw copy.topic t.generation)
  store : w'.store = w.store ∨ w'.store = none ∨ ∃ uri caller store,
    last = some ⟨.resolve uri caller, .ok store⟩ ∧ w'.store = some store

variable {r : Remit} {last : Option Answer} {w w' w'' : Workspace} {topic : Topic}

/-- A step that leaves copies and boards alone. -/
theorem conduct_of_same (spent : Spent last) (copies : w'.copies = w.copies)
    (slots : w'.shared.slots = w.shared.slots)
    (store : w'.store = w.store ∨ w'.store = none ∨ ∃ uri caller store,
      last = some ⟨.resolve uri caller, .ok store⟩ ∧ w'.store = some store) :
    w.Conduct r last w' where
  elsewhere topic _ := by rw [copies]; exact ⟨rfl, rfl⟩
  installed topic t found := Or.inl (by rw [← copies]; exact found)
  disposed topic t v charge _ _ := by
    rw [copies]
    exact Or.inl (charge.resolve_right spent.not_delivered)
  closes := by rw [slots]; exact .refl _ _
  kept copy found := Or.inl (by rw [← copies]; exact found)
  store := store

theorem conduct_refl (r : Remit) (w : Workspace) : w.Conduct r none w :=
  conduct_of_same spent_none rfl rfl (Or.inl rfl)

namespace Conduct

/-- The answer that a stretch begins with is dealt with in its first part. -/
theorem trans (first : w.Conduct r last w') (second : w'.Conduct r none w'') :
    w.Conduct r last w'' where
  elsewhere topic away := by
    obtain ⟨tracker, copy⟩ := first.elsewhere topic away
    obtain ⟨tracker', copy'⟩ := second.elsewhere topic away
    exact ⟨tracker'.trans tracker, copy'.trans copy⟩
  installed topic t found :=
    first.installed topic t ((second.installed topic t found).resolve_right
      spent_none.not_delivered)
  disposed topic t v charge alive owned := by
    rcases first.disposed topic t v charge alive owned with inPlace | closed
    · exact second.disposed topic t v (Or.inl inPlace) alive owned
    · exact Or.inr (second.closes.stays v closed)
  closes := by
    refine Slots.Released.trans (first.closes.mono ?_) (second.closes.mono ?_)
    · rintro v ⟨topic, t, charge, owned, replaced⟩
      refine ⟨topic, t, charge, owned, fun found => ?_⟩
      exact replaced ((second.installed topic t found).resolve_right spent_none.not_delivered)
    · rintro v ⟨topic, t, charge, owned, replaced⟩
      have inPlace := charge.resolve_right spent_none.not_delivered
      refine ⟨topic, t, first.installed topic t inPlace, owned, fun found => ?_⟩
      exact absurd (replaced found).2 spent_none.not_delivered
  kept copy found := by
    rcases second.kept copy found with before | ⟨a, grant, impossible, -⟩
    · exact first.kept copy before
    · cases impossible
  store := by
    rcases second.store with same | gone | ⟨_, _, _, impossible, -⟩
    · rw [same]
      exact first.store
    · exact Or.inr (Or.inl gone)
    · cases impossible

/-- What is done when no answer came is done as well after an answer without a grant. -/
theorem spent (conduct : w.Conduct r none w') (spent : Spent last) : w.Conduct r last w' := by
  have same : w.Conduct r last w := conduct_of_same spent rfl rfl (Or.inl rfl)
  exact same.trans conduct

end Conduct

/-! ## Dropping what is kept -/

theorem closed_destroy {t : Tracker} (alive : t.destroyed = false) {v : View}
    (owned : t.handle = .owned v) (s : Shared) : (t.destroy s).2.slots.isClosed v = true := by
  simpa [Tracker.destroy, alive] using Handle.isClosed_release owned s

theorem store_dropTracker (w : Workspace) (topic : Topic) : (w.dropTracker topic).store = w.store := by
  unfold dropTracker
  split <;> rfl

theorem closed_dropTracker {t : Tracker} (held : w.copies.trackers[topic]? = some t)
    (alive : t.destroyed = false) {v : View} (owned : t.handle = .owned v) :
    (w.dropTracker topic).shared.slots.isClosed v = true := by
  simp only [dropTracker, held]
  exact closed_destroy alive owned w.shared

/-- A step about one topic that leaves it without its tracker. -/
theorem dropTracker_conduct (touches : r.touches topic) :
    w.Conduct r none (w.dropTracker topic) := by
  have sets := w.dropTracker_sets topic
  refine
    { elsewhere := ?_
      installed := ?_
      disposed := ?_
      closes := sets.slots.mono ?_
      kept := ?_
      store := Or.inl (w.store_dropTracker topic) }
  · intro other away
    have differs : other ≠ topic := fun same => away (same ▸ touches)
    exact ⟨sets.copies.trackers other differs, sets.copies.copies other differs⟩
  · intro other t found
    have differs : other ≠ topic := by
      rintro rfl
      rw [sets.copies.tracker] at found
      cases found
    rw [sets.copies.trackers other differs] at found
    exact Or.inl found
  · intro other t v charge alive owned
    have held := charge.resolve_right spent_none.not_delivered
    by_cases same : other = topic
    · subst same
      exact Or.inr (closed_dropTracker held alive owned)
    · rw [sets.copies.trackers other same]
      exact Or.inl held
  · rintro v (impossible | ⟨t, held, owned⟩)
    · exact impossible.elim
    · refine ⟨topic, t, Or.inl held, owned, fun found => ?_⟩
      rw [sets.copies.tracker] at found
      cases found
  · intro copy found
    by_cases same : copy.topic = topic
    · rw [same, sets.copies.copy] at found
      exact Or.inl (by rw [same]; exact found)
    · rw [sets.copies.copies _ same] at found
      exact Or.inl found

theorem dropCopy_conduct (touches : r.touches topic) : w.Conduct r none (w.dropCopy topic) := by
  have put := w.put_dropCopy topic
  have trackers : (w.dropCopy topic).copies.trackers = w.copies.trackers := by
    cases topic <;> rfl
  refine
    { elsewhere := ?_
      installed := ?_
      disposed := ?_
      closes := ?_
      kept := ?_
      store := ?_ }
  · intro other away
    have differs : other ≠ topic := fun same => away (same ▸ touches)
    exact ⟨put.trackers other differs, put.copies other differs⟩
  · intro other t found
    rw [trackers] at found
    exact Or.inl found
  · intro other t v charge _ _
    rw [trackers]
    exact Or.inl (charge.resolve_right spent_none.not_delivered)
  · rw [shared_dropCopy]
    exact .refl _ _
  · intro copy found
    by_cases same : copy.topic = topic
    · rw [same, put.copy] at found
      cases found
    · rw [put.copies _ same] at found
      exact Or.inl found
  · cases topic <;> exact Or.inl rfl

theorem evict_conduct (touches : r.touches topic) : w.Conduct r none (w.evict topic) :=
  (dropTracker_conduct touches).trans (dropCopy_conduct touches)

theorem note_conduct (r : Remit) (w : Workspace) (level : Level) (text : String) :
    w.Conduct r none (w.note level text) :=
  conduct_of_same spent_none rfl rfl (Or.inl rfl)

theorem validate_conduct (touches : r.touches topic) : w.Conduct r none (w.validate topic).2 := by
  unfold validate
  cases found : w.copies.trackers[topic]? with
  | none => exact conduct_refl r w
  | some t =>
      simp only [Tracker.check]
      cases look : t.look w.shared.slots with
      | error e => exact (note_conduct r w .warn _).trans (evict_conduct touches)
      | ok generation =>
          by_cases same : generation = t.generation
          · simp only [same, ↓reduceIte]
            exact conduct_refl r w
          · simp only [same, ↓reduceIte]
            exact (note_conduct r w .trace _).trans (evict_conduct touches)

/-! ## Putting in place -/

/-- Put a tracker in the place of its topic's old one, and do not look at it. -/
def replace (w : Workspace) (t : Tracker) : Workspace :=
  let bare := w.dropTracker t.topic
  { bare with copies := { bare.copies with trackers := bare.copies.trackers.insert t.topic t } }

theorem install_eq (w : Workspace) (t : Tracker) : w.install t = (w.replace t).validate t.topic := rfl

theorem replace_put (w : Workspace) (t : Tracker) :
    w.copies.Put t.topic (some t) (w.copies.find? t.topic) (w.replace t).copies := by
  have dropped := w.dropTracker_sets t.topic
  refine dropped.copies.trans ⟨?_, ?_, ?_, ?_⟩
  · simp [replace]
  · rw [← dropped.copies.copy]
    exact Copies.find?_of_trackers _ _ _
  · intro other differs
    simp [replace, Std.ExtTreeMap.getElem?_insert, differs.symm]
  · intro other _
    exact Copies.find?_of_trackers _ _ _

variable {a : Answer} {copy : Copy} {grant : Option Grant} {g : Grant}

/-- The tracker of a grant takes the place of the old one, which is closed. -/
theorem replace_conduct (brings : a.brings = some (copy, some g)) (touches : r.touches copy.topic) :
    w.Conduct r (some a) (w.replace (.ofGrant copy.topic g)) := by
  let t : Tracker := .ofGrant copy.topic g
  have put : w.copies.Put copy.topic (some t) (w.copies.find? copy.topic) (w.replace t).copies :=
    w.replace_put t
  have dropped := w.dropTracker_sets copy.topic
  have delivered : Delivered (some a) copy.topic t :=
    ⟨g, Answer.mem_receipts_iff.mpr ⟨copy, brings, rfl⟩, rfl⟩
  have only : ∀ other t, Delivered (some a) other t →
      other = copy.topic ∧ t = .ofGrant copy.topic g := by
    rintro other t ⟨g', member, rfl⟩
    obtain ⟨copy', brings', rfl⟩ := Answer.mem_receipts_iff.mp member
    rw [brings] at brings'
    cases brings'
    exact ⟨rfl, rfl⟩
  refine
    { elsewhere := ?_
      installed := ?_
      disposed := ?_
      closes := dropped.slots.mono ?_
      kept := ?_
      store := Or.inl (w.store_dropTracker copy.topic) }
  · intro other away
    have differs : other ≠ copy.topic := fun same => away (same ▸ touches)
    exact ⟨put.trackers other differs, put.copies other differs⟩
  · intro other t found
    by_cases same : other = copy.topic
    · subst same
      rw [put.tracker] at found
      cases found
      exact Or.inr delivered
    · rw [put.trackers other same] at found
      exact Or.inl found
  · intro other t v charge alive owned
    rcases charge with held | come
    · by_cases same : other = copy.topic
      · subst same
        exact Or.inr (closed_dropTracker held alive owned)
      · rw [put.trackers other same]
        exact Or.inl held
    · obtain ⟨rfl, rfl⟩ := only other t come
      exact Or.inl put.tracker
  · rintro v (impossible | ⟨t, held, owned⟩)
    · exact impossible.elim
    · refine ⟨copy.topic, t, Or.inl held, owned, fun found => ?_⟩
      rw [put.tracker] at found
      cases found
      exact ⟨held, delivered⟩
  · intro other found
    left
    by_cases same : other.topic = copy.topic
    · rw [same] at found ⊢
      rw [← found]
      exact put.copy.symm
    · rw [put.copies _ same] at found
      exact found

theorem install_conduct (brings : a.brings = some (copy, some g)) (touches : r.touches copy.topic) :
    w.Conduct r (some a) (w.install (.ofGrant copy.topic g)).2 :=
  (replace_conduct brings touches).trans (validate_conduct touches)

/-- The step saves a copy, and does not touch what is known of the store. -/
structure Files (save : Workspace → Workspace) (copy : Copy) : Prop where
  saves : Saves save copy
  store : ∀ w, (save w).store = w.store

theorem Saves.trackers {save : Workspace → Workspace} (saves : Saves save copy) (w : Workspace)
    (topic : Topic) : (save w).copies.trackers[topic]? = w.copies.trackers[topic]? := by
  by_cases same : topic = copy.topic
  · rw [same]
    exact (saves w).1.tracker
  · exact (saves w).1.trackers topic same

/-- The copy that came with the last answer is kept. -/
theorem Conduct.save {save : Workspace → Workspace} (conduct : w.Conduct r (some a) w')
    (brings : a.brings = some (copy, grant)) (touches : r.touches copy.topic)
    (files : Files save copy)
    (vouched : grant = none → ∃ t, w.Current copy.topic t ∧ r.saw copy.topic t.generation) :
    w.Conduct r (some a) (save w') := by
  obtain ⟨put, slots⟩ := files.saves w'
  have trackers := files.saves.trackers w'
  refine
    { elsewhere := ?_
      installed := ?_
      disposed := ?_
      closes := ?_
      kept := ?_
      store := by rw [files.store]; exact conduct.store }
  · intro other away
    have differs : other ≠ copy.topic := fun same => away (same ▸ touches)
    rw [put.trackers other differs, put.copies other differs]
    exact conduct.elsewhere other away
  · intro other t found
    rw [trackers] at found
    exact conduct.installed other t found
  · intro other t v charge alive owned
    rw [trackers, show (save w').shared.slots.isClosed v = w'.shared.slots.isClosed v by rw [slots]]
    exact conduct.disposed other t v charge alive owned
  · rw [slots]
    apply conduct.closes.mono
    rintro v ⟨topic, t, charge, owned, replaced⟩
    exact ⟨topic, t, charge, owned, fun found => replaced (by rw [← trackers]; exact found)⟩
  · intro other found
    by_cases same : other.topic = copy.topic
    · rw [same, put.copy] at found
      cases found
      exact Or.inr ⟨a, grant, rfl, brings, vouched⟩
    · rw [put.copies _ same] at found
      exact conduct.kept other found

/-- A grant's tracker is put in place, with the copy that came with the grant if it is current. -/
theorem saveUnder_conduct {save : Workspace → Workspace} (brings : a.brings = some (copy, some g))
    (touches : r.touches copy.topic) (files : Files save copy) :
    w.Conduct r (some a) (w.saveUnder (.ofGrant copy.topic g) save).2 := by
  have installed : w.Conduct r (some a) _ := install_conduct brings touches
  unfold saveUnder
  generalize w.install (.ofGrant copy.topic g) = result at installed
  obtain ⟨verdict, w'⟩ := result
  cases verdict with
  | current generation =>
      exact installed.save brings touches files fun impossible => nomatch impossible
  | moved | broken | absent => exact installed

theorem spent_of_brings (brings : a.brings = some (copy, none)) : Spent (some a) := by
  rw [Spent, receiptsOf, Option.elim_some, Answer.receipts, brings]

/-- A copy without a grant is kept if the tracker in place reads what the operation has seen. -/
theorem saveAt_conduct {save : Workspace → Workspace} {generation : Int64}
    (brings : a.brings = some (copy, none)) (touches : r.touches copy.topic)
    (files : Files save copy) (saw : r.saw copy.topic generation) :
    w.Conduct r (some a) (w.saveAt copy.topic generation save).2 := by
  have validated := (validate_conduct (w := w) touches).spent (spent_of_brings brings)
  have looked := w.validate_looked copy.topic
  unfold saveAt
  generalize w.validate copy.topic = result at validated looked
  obtain ⟨verdict, w'⟩ := result
  cases looked with
  | absent | moved | broken => exact validated
  | @current t current =>
      by_cases same : t.generation = generation
      · simp only [same, ↓reduceIte]
        exact validated.save brings touches files fun _ => ⟨t, current, same ▸ saw⟩
      · simp only [same, ↓reduceIte]
        exact validated

theorem consult_conduct {α : Type} (touches : r.touches topic) (look : Copies → Option α) :
    w.Conduct r none (w.consult topic look).2 := by
  have validated : w.Conduct r none _ := validate_conduct touches
  unfold consult
  generalize w.validate topic = result at validated
  obtain ⟨verdict, w'⟩ := result
  cases verdict <;> exact validated

/-! ## Giving back -/

/-- Every view of the cache's own in a row of trackers that are destroyed is closed in the end. -/
theorem closed_foldl_destroy {v : View} (entries : List (Topic × Tracker)) (s : Shared)
    (closes : s.slots.isClosed v = true ∨
      ∃ e ∈ entries, e.2.destroyed = false ∧ e.2.handle = .owned v) :
    (entries.foldl (fun s e => (e.2.destroy s).2) s).slots.isClosed v = true := by
  induction entries generalizing s with
  | nil => exact closes.resolve_right fun ⟨_, impossible, _⟩ => nomatch impossible
  | cons e rest ih =>
      rw [List.foldl_cons]
      apply ih
      rcases closes with closed | ⟨other, member, alive, owned⟩
      · exact Or.inl ((e.2.destroy_released s).stays v closed)
      · rcases List.mem_cons.mp member with rfl | later
        · exact Or.inl (closed_destroy alive owned s)
        · exact Or.inr ⟨other, later, alive, owned⟩

theorem clear_conduct (all : ∀ topic, r.touches topic) : w.Conduct r none w.clear.unresolve := by
  obtain ⟨empty, released⟩ := w.clear_released
  have nothing : ∀ topic : Topic, w.clear.unresolve.copies.trackers[topic]? = none := by
    intro topic
    rw [unresolve, empty]
    simp
  refine
    { elsewhere := fun topic away => absurd (all topic) away
      installed := ?_
      disposed := ?_
      closes := released.mono ?_
      kept := ?_
      store := Or.inr (Or.inl rfl) }
  · intro topic t found
    rw [nothing] at found
    cases found
  · intro topic t v charge alive owned
    have held := charge.resolve_right spent_none.not_delivered
    right
    apply closed_foldl_destroy
    exact Or.inr ⟨(topic, t), Std.ExtTreeMap.mem_toList_iff_getElem?_eq_some.mpr held, alive, owned⟩
  · rintro v ⟨topic, t, held, owned⟩
    refine ⟨topic, t, Or.inl held, owned, fun found => ?_⟩
    rw [nothing] at found
    cases found
  · intro copy found
    rw [unresolve, empty] at found
    cases copy with
    | value => simp [Copies.find?, Copy.topic] at found
    | listing => simp [Copies.find?, Copy.topic] at found

/-- The handle of a grant that nobody is going to use is given back. -/
theorem release_conduct (brings : a.brings = some (copy, some g)) :
    w.Conduct r (some a) (w.release g.handle) := by
  have delivered : Delivered (some a) copy.topic (.ofGrant copy.topic g) :=
    ⟨g, Answer.mem_receipts_iff.mpr ⟨copy, brings, rfl⟩, rfl⟩
  refine
    { elsewhere := fun _ _ => ⟨rfl, rfl⟩
      installed := fun _ _ found => Or.inl found
      disposed := ?_
      closes := (g.handle.release_released w.shared).mono ?_
      kept := fun _ found => Or.inl found
      store := Or.inl rfl }
  · rintro topic t v (held | ⟨g', member, rfl⟩) - owned
    · exact Or.inl held
    · obtain ⟨copy', brings', rfl⟩ := Answer.mem_receipts_iff.mp member
      rw [brings] at brings'
      cases brings'
      have owned : g.handle = .owned v := owned
      exact Or.inr (Handle.isClosed_release owned w.shared)
  · intro v owned
    exact ⟨copy.topic, _, Or.inr delivered, owned, fun found => ⟨found, delivered⟩⟩

end Workspace

end TrackedSettings
