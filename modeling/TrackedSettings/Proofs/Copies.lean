import TrackedSettings.Cache.Listing
import TrackedSettings.Cache.Read

/-! # What a step does to a cache's copies

Every step of a cache on its workspace is about one topic. It leaves the topic with or without a
tracker and with or without a copy, it leaves all other topics alone, and it closes no views but
those of the trackers that it gives up. `Workspace.Sets` says this once for all steps, and any such
step keeps trackers and copies together (`Copies.Kept`).
-/

namespace TrackedSettings

/-! ## Copies by topic -/

/-- What a cache can keep of a topic. -/
inductive Copy where
  | value (key : String) (v : Value)
  | listing (stem : String) (all : Entries)

def Copy.topic : Copy → Topic
  | value key _ => .key key
  | listing stem _ => .under stem

def Copies.find? (c : Copies) : Topic → Option Copy
  | .key name => c.values[name]?.map (.value name)
  | .under stem => c.listings[stem]?.map (.listing stem)

theorem Copies.topic_of_find? {c : Copies} {topic : Topic} {copy : Copy}
    (found : c.find? topic = some copy) : copy.topic = topic := by
  cases topic with
  | key name =>
      obtain ⟨v, -, rfl⟩ := Option.map_eq_some_iff.mp found
      rfl
  | under stem =>
      obtain ⟨all, -, rfl⟩ := Option.map_eq_some_iff.mp found
      rfl

/-- Copies are found without the trackers. -/
theorem Copies.find?_of_trackers (c : Copies) (trackers : Std.ExtTreeMap Topic Tracker)
    (topic : Topic) : ({ c with trackers } : Copies).find? topic = c.find? topic := by
  cases topic <;> rfl

/-- One topic has this tracker and this copy now, and all others have what they had. -/
structure Copies.Put (topic : Topic) (tracker : Option Tracker) (copy : Option Copy)
    (c c' : Copies) : Prop where
  tracker : c'.trackers[topic]? = tracker
  copy : c'.find? topic = copy
  trackers : ∀ other, other ≠ topic → c'.trackers[other]? = c.trackers[other]?
  copies : ∀ other, other ≠ topic → c'.find? other = c.find? other

namespace Copies.Put

variable {topic : Topic} {tracker tracker' : Option Tracker} {copy copy' : Option Copy}
  {c c' c'' : Copies}

theorem refl (c : Copies) (topic : Topic) : Put topic c.trackers[topic]? (c.find? topic) c c :=
  ⟨rfl, rfl, fun _ _ => rfl, fun _ _ => rfl⟩

theorem trans (first : Put topic tracker copy c c') (second : Put topic tracker' copy' c' c'') :
    Put topic tracker' copy' c c'' where
  tracker := second.tracker
  copy := second.copy
  trackers other differs := (second.trackers other differs).trans (first.trackers other differs)
  copies other differs := (second.copies other differs).trans (first.copies other differs)

end Copies.Put

/-- Each tracker is its grant's, no topic has a copy without a tracker, and what a tracker's topic
has a copy of is vouched for by the grant. Where nothing is missing, each tracked topic has a
copy. -/
structure Copies.Kept (granted : Topic → Grant → Prop) (vouched : Grant → Copy → Prop)
    (full : Prop) (c : Copies) : Prop where
  tracked : ∀ topic t, c.trackers[topic]? = some t → ∃ g, t = .ofGrant topic g ∧ granted topic g ∧
    ∀ copy, c.find? topic = some copy → vouched g copy
  paired : ∀ topic, c.trackers[topic]? = none → c.find? topic = none
  whole : full → ∀ topic t, c.trackers[topic]? = some t → c.find? topic ≠ none

namespace Copies.Kept

variable {granted granted' : Topic → Grant → Prop} {vouched vouched' : Grant → Copy → Prop}
  {full full' : Prop} {c c' : Copies}

theorem empty : Kept granted vouched full {} where
  tracked topic t found := by simp at found
  paired topic _ := by cases topic <;> simp [find?]
  whole _ topic t found := by simp at found

/-- A topic can be given another tracker and another copy, if they belong together. -/
theorem put (kept : Kept granted vouched full c) {topic : Topic} {tracker : Option Tracker}
    {copy : Option Copy} (change : Put topic tracker copy c c')
    (fits : ∀ t, tracker = some t → ∃ g, t = .ofGrant topic g ∧ granted topic g ∧
      ∀ k, copy = some k → vouched g k)
    (paired : tracker = none → copy = none)
    (whole : full → ∀ t, tracker = some t → copy ≠ none) : Kept granted vouched full c' where
  tracked other t found := by
    by_cases same : other = topic
    · subst same
      rw [change.tracker] at found
      rw [change.copy]
      exact fits t found
    · rw [change.trackers other same] at found
      rw [change.copies other same]
      exact kept.tracked other t found
  paired other absent := by
    by_cases same : other = topic
    · subst same
      rw [change.tracker] at absent
      rw [change.copy]
      exact paired absent
    · rw [change.trackers other same] at absent
      rw [change.copies other same]
      exact kept.paired other absent
  whole isFull other t found := by
    by_cases same : other = topic
    · subst same
      rw [change.tracker] at found
      rw [change.copy]
      exact whole isFull t found
    · rw [change.trackers other same] at found
      rw [change.copies other same]
      exact kept.whole isFull other t found

/-- What grants allow and vouch for may change, as long as what is kept is still covered. -/
theorem mono (kept : Kept granted vouched full c)
    (stays : ∀ topic g, granted topic g → granted' topic g ∧
      ∀ copy, copy.topic = topic → vouched g copy → vouched' g copy)
    (less : full' → full) : Kept granted' vouched' full' c where
  tracked topic t found := by
    obtain ⟨g, same, was, vouches⟩ := kept.tracked topic t found
    obtain ⟨now, still⟩ := stays topic g was
    exact ⟨g, same, now, fun copy kept => still copy (topic_of_find? kept) (vouches copy kept)⟩
  paired := kept.paired
  whole isFull := kept.whole (less isFull)

end Copies.Kept

/-! ## Closing views -/

/-- Nothing happened to the boards, but some of the views that `mine` names were closed. -/
structure Slots.Released (mine : View → Prop) (m m' : Slots) : Prop where
  boards : m'.boards = m.boards
  issued : m'.issued = m.issued
  stays : ∀ v, m.isClosed v = true → m'.isClosed v = true
  mine : ∀ v, m'.isClosed v = true → m.isClosed v = true ∨ ∃ u, mine u ∧ u.serial = v.serial

namespace Slots.Released

variable {mine mine' : View → Prop} {m m' m'' : Slots}

theorem refl (mine : View → Prop) (m : Slots) : Released mine m m :=
  ⟨rfl, rfl, fun _ closed => closed, fun _ closed => Or.inl closed⟩

theorem trans (first : Released mine m m') (second : Released mine m' m'') :
    Released mine m m'' where
  boards := second.boards.trans first.boards
  issued := second.issued.trans first.issued
  stays v closed := second.stays v (first.stays v closed)
  mine v closed := by
    rcases second.mine v closed with before | named
    · exact first.mine v before
    · exact Or.inr named

theorem mono (released : Released mine m m') (more : ∀ v, mine v → mine' v) :
    Released mine' m m' where
  boards := released.boards
  issued := released.issued
  stays := released.stays
  mine v closed := by
    rcases released.mine v closed with before | ⟨u, named, same⟩
    · exact Or.inl before
    · exact Or.inr ⟨u, more u named, same⟩

theorem row (released : Released mine m m') (v : View) : m'.row v = m.row v := by
  rw [Slots.row, released.boards, Slots.row]

end Slots.Released

/-- A handle that is given back closes its view if that is the holder's own. -/
theorem Handle.release_released (h : Handle) (s : Shared) :
    s.slots.Released (fun v => h = .owned v) (h.release s).slots := by
  cases h with
  | borrowed v => exact .refl _ _
  | owned v =>
      refine ⟨?_, ?_, ?_, ?_⟩
      · simp only [release, Shared.close, Slots.close]
        split <;> rfl
      · simp only [release, Shared.close, Slots.close]
        split <;> rfl
      · intro u closed
        simp [release, Shared.close, Slots.isClosed_close, closed]
      · intro u closed
        simp only [release, Shared.close, Slots.isClosed_close, Bool.or_eq_true, beq_iff_eq] at closed
        rcases closed with same | before
        · exact Or.inr ⟨v, rfl, same.symm⟩
        · exact Or.inl before

/-- The holder's own view is closed once its handle is given back. -/
theorem Handle.isClosed_release {h : Handle} {v : View} (owned : h = .owned v) (s : Shared) :
    (h.release s).slots.isClosed v = true := by
  subst owned
  simp [release, Shared.close, Slots.isClosed_close]

theorem Tracker.destroy_released (t : Tracker) (s : Shared) :
    s.slots.Released (fun v => t.handle = .owned v) (t.destroy s).2.slots := by
  unfold destroy
  split
  · exact .refl _ _
  · exact t.handle.release_released s

/-! ## Steps about one topic -/

/-- A look with this outcome takes the tracker away, and the copy with it. -/
def Verdict.evicts : Verdict → Bool
  | moved | broken _ => true
  | current _ | absent => false

namespace Workspace

/-- A step that leaves a topic with this tracker and this copy. It may close the view of the tracker
that was there, and the views that were `given` with the step. -/
structure Sets (w : Workspace) (topic : Topic) (tracker : Option Tracker) (copy : Option Copy)
    (given : View → Prop) (w' : Workspace) : Prop where
  copies : w.copies.Put topic tracker copy w'.copies
  slots : w.shared.slots.Released
    (fun v => given v ∨ ∃ t, w.copies.trackers[topic]? = some t ∧ t.handle = .owned v)
    w'.shared.slots

/-- The topic has a tracker, and this reads the generation that it saw last. -/
def Current (w : Workspace) (topic : Topic) (t : Tracker) : Prop :=
  w.copies.trackers[topic]? = some t ∧ t.look w.shared.slots = .ok t.generation

def Gone (w : Workspace) (topic : Topic) : Prop :=
  w.copies.trackers[topic]? = none ∧ w.copies.find? topic = none

variable {w w' : Workspace} {topic : Topic} {tracker : Option Tracker} {copy : Option Copy}
  {given : View → Prop}

theorem Sets.gone (sets : w.Sets topic none none given w') : w'.Gone topic :=
  ⟨sets.copies.tracker, sets.copies.copy⟩

theorem sets_refl (w : Workspace) (topic : Topic) (given : View → Prop) :
    w.Sets topic w.copies.trackers[topic]? (w.copies.find? topic) given w :=
  ⟨.refl _ _, .refl _ _⟩

theorem put_dropCopy (w : Workspace) (topic : Topic) :
    w.copies.Put topic w.copies.trackers[topic]? none (w.dropCopy topic).copies where
  tracker := by cases topic <;> rfl
  copy := by cases topic <;> simp [dropCopy, Copies.find?]
  trackers other _ := by cases topic <;> rfl
  copies other differs := by
    cases topic <;> cases other <;>
      simp_all [dropCopy, Copies.find?, Std.ExtTreeMap.getElem?_erase, Ne.symm]

theorem shared_dropCopy (w : Workspace) (topic : Topic) : (w.dropCopy topic).shared = w.shared := by
  cases topic <;> rfl

theorem dropTracker_sets (w : Workspace) (topic : Topic) :
    w.Sets topic none (w.copies.find? topic) (fun _ => False) (w.dropTracker topic) := by
  unfold dropTracker
  cases found : w.copies.trackers[topic]? with
  | none =>
      have same := sets_refl w topic fun _ => False
      rwa [found] at same
  | some t =>
      refine ⟨⟨by simp, Copies.find?_of_trackers _ _ _, ?_, ?_⟩, ?_⟩
      · intro other differs
        simp [Std.ExtTreeMap.getElem?_erase, differs.symm]
      · intro other _
        exact Copies.find?_of_trackers _ _ _
      · apply (t.destroy_released w.shared).mono
        intro v owned
        exact Or.inr ⟨t, found, owned⟩

/-- Whatever is noted before, the topic is gone afterwards. -/
theorem evict_sets (w : Workspace) (topic : Topic) {shared : Shared}
    (same : shared.slots = w.shared.slots) :
    w.Sets topic none none (fun _ => False) (evict { w with shared } topic) := by
  have first := dropTracker_sets { w with shared } topic
  have second := put_dropCopy (dropTracker { w with shared } topic) topic
  rw [first.copies.tracker] at second
  refine ⟨first.copies.trans second, ?_⟩
  rw [evict, shared_dropCopy, ← same]
  exact first.slots

/-- What a look at a topic's tracker can show, and what it leaves. -/
inductive Looked (w : Workspace) (topic : Topic) : Verdict → Workspace → Prop where
  | absent (untracked : w.copies.trackers[topic]? = none) : Looked w topic .absent w
  | current {t : Tracker} (current : w.Current topic t) : Looked w topic (.current t.generation) w
  | moved {w' : Workspace} (evicted : w.Sets topic none none (fun _ => False) w') :
      Looked w topic .moved w'
  | broken {e : SlotError} {w' : Workspace}
      (evicted : w.Sets topic none none (fun _ => False) w') : Looked w topic (.broken e) w'

theorem Looked.gone {verdict : Verdict} (looked : w.Looked topic verdict w')
    (evicts : verdict.evicts = true) : w'.Gone topic := by
  cases looked with
  | absent | current => cases evicts
  | moved evicted => exact evicted.gone
  | broken evicted => exact evicted.gone

theorem validate_looked (w : Workspace) (topic : Topic) :
    w.Looked topic (w.validate topic).1 (w.validate topic).2 := by
  unfold validate
  cases found : w.copies.trackers[topic]? with
  | none => exact .absent found
  | some t =>
      simp only [Tracker.check]
      cases look : t.look w.shared.slots with
      | error e =>
          exact .broken (w.evict_sets topic rfl)
      | ok generation =>
          by_cases same : generation = t.generation
          · simp only [same, ↓reduceIte]
            exact .current ⟨found, by rw [look, same]⟩
          · simp only [same, ↓reduceIte]
            exact .moved (w.evict_sets topic rfl)

/-- How a step saves a copy: it changes nothing else, and closes nothing. -/
def Saves (save : Workspace → Workspace) (copy : Copy) : Prop :=
  ∀ w, w.copies.Put copy.topic w.copies.trackers[copy.topic]? (some copy) (save w).copies ∧
    (save w).shared.slots = w.shared.slots

/-- What can come of an attempt to put a tracker in place, with a copy. -/
inductive Placed (w : Workspace) (t : Tracker) (copy : Option Copy) : Verdict → Workspace → Prop where
  | current {w' : Workspace}
      (kept : w.Sets t.topic (some t) copy (fun v => t.handle = .owned v) w') :
      Placed w t copy (.current t.generation) w'
  | moved {w' : Workspace}
      (evicted : w.Sets t.topic none none (fun v => t.handle = .owned v) w') :
      Placed w t copy .moved w'
  | broken {e : SlotError} {w' : Workspace}
      (evicted : w.Sets t.topic none none (fun v => t.handle = .owned v) w') :
      Placed w t copy (.broken e) w'

theorem Placed.gone {t : Tracker} {verdict : Verdict} (placed : w.Placed t copy verdict w')
    (evicts : verdict.evicts = true) : w'.Gone t.topic := by
  cases placed with
  | current => cases evicts
  | moved evicted => exact evicted.gone
  | broken evicted => exact evicted.gone

theorem install_placed (w : Workspace) (t : Tracker) :
    w.Placed t (w.copies.find? t.topic) (w.install t).1 (w.install t).2 := by
  have dropped := w.dropTracker_sets t.topic
  let bare := w.dropTracker t.topic
  let placed : Workspace :=
    { bare with copies := { bare.copies with trackers := bare.copies.trackers.insert t.topic t } }
  have put : w.copies.Put t.topic (some t) (w.copies.find? t.topic) placed.copies := by
    refine dropped.copies.trans ⟨?_, ?_, ?_, ?_⟩
    · simp [placed]
    · rw [← dropped.copies.copy]
      exact Copies.find?_of_trackers _ _ _
    · intro other differs
      simp [placed, Std.ExtTreeMap.getElem?_insert, differs.symm, bare]
    · intro other _
      exact Copies.find?_of_trackers _ _ _
  have slots : w.shared.slots.Released
      (fun v => t.handle = .owned v ∨
        ∃ old, w.copies.trackers[t.topic]? = some old ∧ old.handle = .owned v)
      placed.shared.slots :=
    dropped.slots.mono fun v named => Or.inr (named.resolve_left id)
  have evicts : ∀ {w'}, placed.Sets t.topic none none (fun _ => False) w' →
      w.Sets t.topic none none (fun v => t.handle = .owned v) w' := by
    intro w' evicted
    refine ⟨put.trans evicted.copies, slots.trans (evicted.slots.mono ?_)⟩
    intro v closes
    rcases closes with impossible | ⟨old, found, owned⟩
    · exact impossible.elim
    · rw [put.tracker] at found
      cases found
      exact Or.inl owned
  have looked : placed.Looked t.topic (w.install t).1 (w.install t).2 :=
    placed.validate_looked t.topic
  clear_value placed
  generalize w.install t = result at looked ⊢
  obtain ⟨verdict, w'⟩ := result
  cases looked with
  | absent untracked =>
      rw [put.tracker] at untracked
      cases untracked
  | @current now current =>
      have found := current.1
      rw [put.tracker] at found
      cases found
      exact .current ⟨put, slots⟩
  | moved evicted => exact .moved (evicts evicted)
  | broken evicted => exact .broken (evicts evicted)

/-- A grant's data are kept under its tracker, or nothing is. -/
theorem saveUnder_placed (w : Workspace) (t : Tracker) {save : Workspace → Workspace} {copy : Copy}
    (saves : Saves save copy) (own : copy.topic = t.topic) :
    w.Placed t (some copy) (w.saveUnder t save).1 (w.saveUnder t save).2 := by
  have placed := w.install_placed t
  unfold saveUnder
  generalize w.install t = result at placed
  obtain ⟨verdict, w'⟩ := result
  cases placed with
  | current kept =>
      have saved := saves w'
      rw [own, kept.copies.tracker] at saved
      exact .current ⟨kept.copies.trans saved.1, by rw [saved.2]; exact kept.slots⟩
  | moved evicted => exact .moved evicted
  | broken evicted => exact .broken evicted

/-- Data without a grant are kept under the tracker in place, if this has seen `generation`. -/
theorem saveAt_looked (w : Workspace) (generation : Int64) {save : Workspace → Workspace}
    {copy : Copy} (saves : Saves save copy) :
    w.Looked copy.topic (w.saveAt copy.topic generation save).1
        (w.saveAt copy.topic generation save).2 ∨
      ∃ t, w.Current copy.topic t ∧ t.generation = generation ∧
        (w.saveAt copy.topic generation save).1 = .current generation ∧
        w.Sets copy.topic (some t) (some copy) (fun _ => False)
          (w.saveAt copy.topic generation save).2 := by
  have looked := w.validate_looked copy.topic
  unfold saveAt
  generalize w.validate copy.topic = result at looked
  obtain ⟨verdict, w'⟩ := result
  cases looked with
  | absent untracked => exact Or.inl (.absent untracked)
  | @current t current =>
      by_cases same : t.generation = generation
      · have saved := saves w'
        rw [current.1] at saved
        simp only [same, ↓reduceIte]
        exact Or.inr ⟨t, current, same, trivial, saved.1, by rw [saved.2]; exact .refl _ _⟩
      · simp only [same, ↓reduceIte]
        exact Or.inl (.current current)
  | moved evicted => exact Or.inl (.moved evicted)
  | broken evicted => exact Or.inl (.broken evicted)

/-- A read is answered by the copy of a topic with a current tracker, and by nothing else. -/
theorem consult_looked {α : Type} (w : Workspace) (topic : Topic) (copy : Copies → Option α) :
    let ((verdict, data), w') := w.consult topic copy
    w.Looked topic verdict w' ∧
      data = match verdict with
        | .current _ => copy w.copies
        | .moved | .broken _ | .absent => none := by
  have looked := w.validate_looked topic
  unfold consult
  generalize w.validate topic = result at looked
  obtain ⟨verdict, w'⟩ := result
  cases looked with
  | absent untracked => exact ⟨.absent untracked, rfl⟩
  | current current => exact ⟨.current current, rfl⟩
  | moved evicted => exact ⟨.moved evicted, rfl⟩
  | broken evicted => exact ⟨.broken evicted, rfl⟩

/-- Once everything is dropped, all trackers are destroyed and nothing is kept. -/
theorem clear_released (w : Workspace) :
    w.clear.copies = {} ∧ w.shared.slots.Released
      (fun v => ∃ (topic : Topic) (t : Tracker), w.copies.trackers[topic]? = some t ∧ t.handle = .owned v)
      w.clear.shared.slots := by
  refine ⟨rfl, ?_⟩
  have folded : ∀ (entries : List (Topic × Tracker)) (s : Shared),
      (∀ e ∈ entries, w.copies.trackers[e.1]? = some e.2) →
      s.slots.Released
        (fun v => ∃ (topic : Topic) (t : Tracker), w.copies.trackers[topic]? = some t ∧ t.handle = .owned v)
        (entries.foldl (fun s e => (e.2.destroy s).2) s).slots := by
    intro entries
    induction entries with
    | nil =>
        intro s _
        exact .refl _ _
    | cons e rest ih =>
        intro s held
        rw [List.foldl_cons]
        refine Slots.Released.trans ((e.2.destroy_released s).mono ?_) (ih _ ?_)
        · intro v owned
          exact ⟨e.1, e.2, held e List.mem_cons_self, owned⟩
        · intro e member
          exact held e (List.mem_cons_of_mem _ member)
  apply folded
  intro e member
  exact Std.ExtTreeMap.mem_toList_iff_getElem?_eq_some.mp member

end Workspace

/-! ## What the reads keep -/

theorem Cache.keepValue_saves (c : Cache) (key suffix : String) (v : Value) :
    Workspace.Saves (c.keepValue key suffix v) (.value key v) := by
  intro w
  refine ⟨⟨rfl, ?_, fun _ _ => rfl, ?_⟩, rfl⟩
  · simp [keepValue, Workspace.keepValue, Copy.topic, Copies.find?]
  · intro other differs
    cases other with
    | key name =>
        have differs : ¬ key = name := by
          rintro rfl
          exact differs rfl
        simp [keepValue, Workspace.keepValue, Copies.find?, jot, Workspace.note,
          Std.ExtTreeMap.getElem?_insert, differs]
    | under stem => rfl

/-- A listing is kept with an entry for the empty name. -/
theorem Cache.keepListing_saves (c : Cache) (stem : String) (all : Entries) :
    Workspace.Saves (c.keepListing stem all) (.listing stem (all.insert emptyName none)) := by
  intro w
  refine ⟨⟨rfl, ?_, fun _ _ => rfl, ?_⟩, rfl⟩
  · simp [keepListing, Workspace.keepListing, Copy.topic, Copies.find?]
  · intro other differs
    cases other with
    | key name => rfl
    | under other =>
        have differs : ¬ stem = other := by
          rintro rfl
          exact differs rfl
        simp [keepListing, Workspace.keepListing, Copies.find?, jot, Workspace.note,
          Std.ExtTreeMap.getElem?_insert, differs]

end TrackedSettings
