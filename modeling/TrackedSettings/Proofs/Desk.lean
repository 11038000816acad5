import TrackedSettings.Proofs.Acts

/-! # One cache among strangers

Here nothing is known of stores, resolvers and observers: a reply is whatever it is, and comes
whenever it comes. Others may do what they like with all that is shared, and any number of operations
may wait for replies at once. What a cache keeps is consistent all the same.
-/

namespace TrackedSettings

structure Suspension where
  call : Outcall
  resume : call.Reply → Workspace → Progress Outcome

/-- The grant in an answer, with the topic that it was asked for. -/
def Answer.receipts (a : Answer) : List (Topic × Grant) :=
  match a.brings with
  | some (copy, some g) => [(copy.topic, g)]
  | some (_, none) | none => []

structure Desk where
  workspace : Workspace := {}
  suspended : List Suspension := []
  /-- The grants that came with replies. -/
  received : List (Topic × Grant) := []
  /-- The cache was told to forget a copy. -/
  forgetful : Bool := false

def CacheAct.forgets : CacheAct → Bool
  | .forget _ => true
  | _ => false

namespace Desk

/-- An operation in progress hands its workspace over, and waits if it has to. -/
def goOn (d : Desk) : Progress Outcome → Desk
  | .finished _ w => { d with workspace := w }
  | .waiting call w resume =>
      { d with workspace := w, suspended := d.suspended ++ [⟨call, resume⟩] }

end Desk

/-- What an operation in progress calls out. -/
def Progress.called {α : Type} : Progress α → Option Outcall
  | finished .. => none
  | waiting call .. => some call

namespace Desk

/-- One step, which may end with a call. -/
inductive Step (c : Cache) : Desk → Option Outcall → Desk → Prop where
  | act (d : Desk) (act : CacheAct) :
      Step c d (act.operation c d.workspace).called
        ({ d with forgetful := d.forgetful || act.forgets }.goOn (act.operation c d.workspace))
  | reply (d : Desk) {n : Nat} {s : Suspension} (waits : d.suspended[n]? = some s)
      (reply : s.call.Reply) :
      Step c d (s.resume reply d.workspace).called
        ({ d with
          suspended := d.suspended.eraseIdx n
          received := d.received ++ Answer.receipts ⟨s.call, reply⟩ }.goOn
            (s.resume reply d.workspace))
  | others (d : Desk) (shared : Shared) :
      Step c d none { d with workspace := { d.workspace with shared } }

/-- What can become of a new cache. -/
inductive Reachable (c : Cache) : Desk → Prop where
  | opened (shared : Shared) : Reachable c { workspace := { shared } }
  | step {d d' : Desk} {called : Option Outcall} (before : Reachable c d)
      (step : Step c d called d') : Reachable c d'

/-! ## What the cache relies on -/

/-- A kept listing has an entry for the empty name, without a value. -/
def Furnished : Copy → Prop
  | .value .. => True
  | .listing _ all => all[emptyName]? = some none

theorem furnished_of_brings {a : Answer} {copy : Copy} {grant : Option Grant}
    (brings : a.brings = some (copy, grant)) : Furnished copy := by
  unfold Answer.brings at brings
  split at brings
  · cases brings
    trivial
  · cases brings
    trivial
  · cases brings
    simp [Furnished]
  · cases brings

/-- All that a cache can count on is that its own grants and copies are what they were. -/
def terms : Terms Desk where
  workspace := workspace
  putBack w d := { d with workspace := w }
  sound d := d.workspace.copies.Kept (fun topic g => (topic, g) ∈ d.received)
    (fun _ copy => Furnished copy) (d.forgetful = false)
  later d d' := d.received ⊆ d'.received ∧ (d.forgetful = true → d'.forgetful = true)
  granted d topic g := (topic, g) ∈ d.received
  vouched _ _ copy := Furnished copy
  full d := d.forgetful = false
  footed _ _ _ := True
  seen _ _ _ := True
  due call d := ∀ topic, call = .notify (.hit topic) → ∃ t, d.workspace.Current topic t
  later_refl d := ⟨List.Subset.refl _, id⟩
  later_trans first second := ⟨List.Subset.trans first.1 second.1, second.2 ∘ first.2⟩
  workspace_putBack _ _ := rfl
  putBack_workspace _ := rfl
  putBack_putBack _ _ _ := rfl
  kept sound := sound
  settle _ kept _ := ⟨kept, List.Subset.refl _, id⟩
  footed_of_read _ _ _ := trivial
  footed_later _ _ _ _ := trivial
  seen_of_read _ _ _ _ := trivial
  seen_later _ _ := trivial
  seen_earlier _ _ := trivial
  due_hit := by
    rintro d topic t _ current _ _ ⟨⟩
    exact ⟨t, current⟩
  due_stale _ _ := by intro _ other; cases other
  due_trackerError _ _ := by intro _ other; cases other
  due_fetch _ := by intro _ other; cases other
  due_remoteError _ := by intro _ other; cases other
  due_resolve _ := by intro _ other; cases other
  due_store _ := by intro _ other; cases other

/-! ## Every step -/

/-- Whatever the reply is and whenever it comes, the operation will go on in order. -/
def Ready (s : Suspension) (d : Desk) : Prop :=
  ∃ asked, terms.Follows asked d ∧ ∀ reply d', terms.Follows asked d' →
    terms.Told asked ⟨s.call, reply⟩ d' →
      ∃ heard, (s.resume reply d'.workspace).Upholds terms (fun _ _ _ => True) heard d'

theorem Ready.later {s : Suspension} {d d' : Desk} (ready : Ready s d) (follows : terms.Follows d d') :
    Ready s d' := by
  obtain ⟨asked, before, goesOn⟩ := ready
  exact ⟨asked, before.trans follows, goesOn⟩

/-- What is kept is in order, and so is what waits. -/
structure Sound (d : Desk) : Prop where
  kept : terms.sound d
  ready : ∀ s ∈ d.suspended, Ready s d

theorem goOn_sound {d : Desk} {p : Progress Outcome} {heard : List Answer} (sound : d.Sound)
    (upholds : p.Upholds terms (fun _ _ _ => True) heard d) :
    (d.goOn p).Sound ∧ ∀ call, p.called = some call → terms.due call (d.goOn p) := by
  cases p with
  | finished answer w =>
      have follows := upholds.1
      refine ⟨⟨follows.1, fun s member => (sound.ready s member).later follows⟩, ?_⟩
      intro call impossible
      cases impossible
  | waiting call w resume =>
      obtain ⟨follows, due, goesOn⟩ := upholds
      refine ⟨⟨follows.1, ?_⟩, ?_⟩
      · intro s member
        rcases List.mem_append.mp member with old | new
        · exact (sound.ready s old).later follows
        · cases List.mem_singleton.mp new
          exact ⟨terms.putBack w d, ⟨follows.1, List.Subset.refl _, id⟩,
            fun reply d' later told => ⟨_, goesOn reply d' later told⟩⟩
      · intro called same
        cases same
        exact due

theorem receive_follows {d : Desk} (kept : terms.sound d) (a : Answer) (rest : List Suspension) :
    terms.Follows d { d with suspended := rest, received := d.received ++ a.receipts } := by
  refine ⟨?_, List.subset_append_left _ _, id⟩
  apply kept.mono
  · intro topic g granted
    exact ⟨List.mem_append_left _ granted, fun _ _ furnished => furnished⟩
  · exact id

theorem told_of_receive {asked d : Desk} (a : Answer) (received : a.receipts ⊆ d.received) :
    terms.Told asked a d := by
  intro copy grant brings
  have furnished := furnished_of_brings brings
  refine ⟨trivial, ?_, fun _ _ _ _ _ => furnished⟩
  intro g same
  subst same
  refine ⟨received ?_, furnished⟩
  rw [Answer.receipts, brings]
  exact List.mem_singleton_self _

theorem Step.sound {c : Cache} {d d' : Desk} {called : Option Outcall} (step : Step c d called d')
    (sound : d.Sound) : d'.Sound ∧ ∀ call, called = some call → terms.due call d' := by
  cases step with
  | act act =>
      let told : Desk := { d with forgetful := d.forgetful || act.forgets }
      have follows : terms.Follows d told := by
        refine ⟨?_, List.Subset.refl _, ?_⟩
        · apply Copies.Kept.mono sound.kept
          · exact fun _ _ granted => ⟨granted, fun _ _ furnished => furnished⟩
          · intro full
            exact (Bool.or_eq_false_iff.mp full).1
        · intro already
          change (d.forgetful || act.forgets) = true
          rw [already, Bool.true_or]
      have begun : told.Sound :=
        ⟨follows.1, fun s member => (sound.ready s member).later follows⟩
      have upholds := act.operation_meets (c := c) told [] told begun.kept
        ⟨terms.later_refl told, by
          rintro topic rfl
          simp [terms, told, CacheAct.forgets]⟩
      exact goOn_sound begun (upholds.weaken fun _ _ _ _ _ => trivial)
  | @reply n s waits reply =>
      have follows := receive_follows sound.kept ⟨s.call, reply⟩ (d.suspended.eraseIdx n)
      have begun : Sound { d with
          suspended := d.suspended.eraseIdx n
          received := d.received ++ Answer.receipts ⟨s.call, reply⟩ } :=
        ⟨follows.1, fun s member =>
          (sound.ready s (List.mem_of_mem_eraseIdx member)).later follows⟩
      obtain ⟨asked, before, goesOn⟩ := sound.ready s (List.mem_of_getElem? waits)
      obtain ⟨heard, upholds⟩ := goesOn reply _ (before.trans follows)
        (told_of_receive _ (List.subset_append_right _ _))
      exact goOn_sound begun upholds
  | others shared =>
      have follows : terms.Follows d { d with workspace := { d.workspace with shared } } :=
        ⟨sound.kept, List.Subset.refl _, id⟩
      exact ⟨⟨follows.1, fun s member => (sound.ready s member).later follows⟩,
        fun call impossible => nomatch impossible⟩

theorem Reachable.sound {c : Cache} {d : Desk} (reachable : Reachable c d) : d.Sound := by
  induction reachable with
  | opened shared => exact ⟨.empty, fun s member => nomatch member⟩
  | step _ step ih => exact (step.sound ih).1

/-! ## What every reader can count on -/

/-- What a cache keeps goes together. -/
structure Consistent (c : Cache) (d : Desk) : Prop where
  values_tracked : ∀ key, (d.workspace.copies.values[key]?).isSome →
    (d.workspace.copies.trackers[Topic.key key]?).isSome
  listings_tracked : ∀ stem, (d.workspace.copies.listings[stem]?).isSome →
    (d.workspace.copies.trackers[Topic.under stem]?).isSome
  /-- A tracker is under its own topic and alive, and it is as it came with a grant. -/
  trackers_granted : ∀ topic t, d.workspace.copies.trackers[topic]? = some t →
    t.topic = topic ∧ t.destroyed = false ∧ ∃ g, (topic, g) ∈ d.received ∧
      t.handle = g.handle ∧ t.index = g.index ∧ t.generation = g.generation
  listings_furnished : ∀ (stem : String) (all : Entries),
    d.workspace.copies.listings[stem]? = some all → all[emptyName]? = some none
  /-- A hit is told where the slot can be read and holds the generation of the grant. -/
  hits_current : ∀ topic d', Step c d (some (.notify (.hit topic))) d' →
    ∃ t g, d'.workspace.copies.trackers[topic]? = some t ∧ (topic, g) ∈ d'.received ∧
      t.handle = g.handle ∧ t.index = g.index ∧ t.generation = g.generation ∧
        d'.workspace.shared.slots.read t.handle.view t.index = .ok g.generation
  values_whole : d.forgetful = false → ∀ key,
    (d.workspace.copies.trackers[Topic.key key]?).isSome →
      (d.workspace.copies.values[key]?).isSome
  listings_whole : d.forgetful = false → ∀ stem,
    (d.workspace.copies.trackers[Topic.under stem]?).isSome →
      (d.workspace.copies.listings[stem]?).isSome
  /-- No tracker is found current where there is no copy. -/
  current_whole : d.forgetful = false → ∀ topic generation,
    (d.workspace.validate topic).1 = .current generation →
      (d.workspace.copies.find? topic).isSome

theorem isSome_find?_key (copies : Copies) (key : String) :
    (copies.find? (.key key)).isSome = (copies.values[key]?).isSome :=
  Option.isSome_map

theorem isSome_find?_under (copies : Copies) (stem : String) :
    (copies.find? (.under stem)).isSome = (copies.listings[stem]?).isSome :=
  Option.isSome_map

/-- Whatever a cache is told to do and whatever it is answered, in whatever order, what it keeps
goes together. -/
theorem trackers_match_copies {c : Cache} {d : Desk} (reachable : Reachable c d) :
    d.Consistent c := by
  have sound := reachable.sound
  have kept : d.workspace.copies.Kept (fun topic g => (topic, g) ∈ d.received)
      (fun _ copy => Furnished copy) (d.forgetful = false) := sound.kept
  have tracked : ∀ topic, (d.workspace.copies.find? topic).isSome →
      (d.workspace.copies.trackers[topic]?).isSome := by
    intro topic has
    cases found : d.workspace.copies.trackers[topic]? with
    | some t => rfl
    | none =>
        rw [kept.paired topic found] at has
        cases has
  have whole : d.forgetful = false → ∀ topic, (d.workspace.copies.trackers[topic]?).isSome →
      (d.workspace.copies.find? topic).isSome := by
    intro never topic has
    obtain ⟨t, found⟩ := Option.isSome_iff_exists.mp has
    exact Option.isSome_iff_ne_none.mpr (kept.whole never topic t found)
  refine
    { values_tracked := ?_
      listings_tracked := ?_
      trackers_granted := ?_
      listings_furnished := ?_
      hits_current := ?_
      values_whole := ?_
      listings_whole := ?_
      current_whole := ?_ }
  · intro key has
    exact tracked (.key key) (by rwa [isSome_find?_key])
  · intro stem has
    exact tracked (.under stem) (by rwa [isSome_find?_under])
  · intro topic t found
    obtain ⟨g, rfl, granted, -⟩ := kept.tracked topic t found
    exact ⟨rfl, rfl, g, granted, rfl, rfl, rfl⟩
  · intro stem all held
    have found : d.workspace.copies.find? (.under stem) = some (.listing stem all) := by
      simp [Copies.find?, held]
    have has := tracked (.under stem) (by rw [found]; rfl)
    obtain ⟨t, known⟩ := Option.isSome_iff_exists.mp has
    obtain ⟨g, -, -, furnished⟩ := kept.tracked _ t known
    exact furnished _ found
  · intro topic d' step
    obtain ⟨sound', due⟩ := step.sound sound
    obtain ⟨t, current⟩ := due _ rfl topic rfl
    obtain ⟨g, rfl, granted, -, read⟩ := Terms.grant_of_current sound'.kept current
    exact ⟨_, g, current.1, granted, rfl, rfl, rfl, read⟩
  · intro never key has
    rw [← isSome_find?_key]
    exact whole never (.key key) has
  · intro never stem has
    rw [← isSome_find?_under]
    exact whole never (.under stem) has
  · intro never topic generation found
    have looked := d.workspace.validate_looked topic
    rw [found] at looked
    generalize (d.workspace.validate topic).2 = w at looked
    cases looked with
    | current current => exact whole never topic (by rw [current.1]; rfl)

/-- A key is read once, and its value is kept under the tracker of the grant. -/
theorem trackers_match_copies_after_read :
    let c : Cache := { uri := "settings:main" }
    ∃ d, Reachable c d ∧ d.workspace.copies.values["volume"]? = some (some "7") ∧
      d.forgetful = false ∧ d.Consistent c := by
  intro c
  let view : View := { serial := 0, board := 0, owner := true }
  let reading : Reading :=
    { value := some "7", grant := some { handle := .borrowed view, index := 0, generation := 0 } }
  have opened : Reachable c _ := .opened { slots := { boards := #[#[0]], issued := 1 } }
  have begun := opened.step (.act _ (.value "volume" 0))
  have found := begun.step (.reply _ (n := 0) rfl (Except.ok 0))
  have told := found.step (.reply _ (n := 0) rfl ())
  have read := told.step (.reply _ (n := 0) rfl (Except.ok (some reading)))
  exact ⟨_, read, by decide +kernel, by decide +kernel, trackers_match_copies read⟩

end Desk

end TrackedSettings
