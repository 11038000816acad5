import TrackedSettings.Proofs.Copies

/-! # Operations among others

While an operation waits for a reply, others work on the same workspace, on the same boards and on
the stores. What an operation can rely on meanwhile, and what others can rely on when it goes on, are
`Terms`. An operation meets an assertion on these terms if every step of it leaves the world in
order, and if it ends where the assertion holds, whatever happens while it waits.

The terms leave open what grants stand for and what it means that a copy was once right. They only
say how the two go together with what a cache does.
-/

namespace TrackedSettings

/-! ## Answers -/

structure Answer where
  call : Outcall
  reply : call.Reply

/-- A store was not found, or it did not bring what a read was after. A fast read that fails is not
among these answers, since a query follows it. -/
def Answer.failed : Answer → Bool
  | ⟨.resolve .., .error _⟩ | ⟨.store _ (.query ..), .error _⟩ | ⟨.store _ .canList, false⟩
  | ⟨.store _ (.list ..), .error _⟩ | ⟨.store _ (.list ..), .ok none⟩ => true
  | _ => false

/-- The copy that an answer brings, and the grant that comes with it. -/
def Answer.brings : Answer → Option (Copy × Option Grant)
  | ⟨.store _ (.get key _), .ok (some reading)⟩ => some (.value key reading.value, reading.grant)
  | ⟨.store _ (.query key _), .ok v⟩ => some (.value key v, none)
  | ⟨.store _ (.list stem _), .ok (some listing)⟩ =>
      some (.listing stem ((listing.entries.strip stem).insert emptyName none), listing.grant)
  | _ => none

def Failed (heard : List Answer) : Prop :=
  ∃ a ∈ heard, a.failed = true

theorem Failed.append {heard : List Answer} (failed : Failed heard) (more : List Answer) :
    Failed (heard ++ more) := by
  obtain ⟨a, member, fails⟩ := failed
  exact ⟨a, List.mem_append_left _ member, fails⟩

/-! ## Terms -/

/-- What a cache and all others can rely on. The state `σ` is the world with the workspace of one
cache in it, and with whatever is needed to say what happened before. -/
structure Terms (σ : Type) where
  workspace : σ → Workspace
  putBack : Workspace → σ → σ
  /-- The world is in order. -/
  sound : σ → Prop
  /-- The second world can come of the first. -/
  later : σ → σ → Prop
  /-- A store has given this grant for a topic. -/
  granted : σ → Topic → Grant → Prop
  /-- While the slot of a grant does not move, the copy is right. -/
  vouched : σ → Grant → Copy → Prop
  full : σ → Prop
  /-- The slot of a topic has held this generation. -/
  footed : σ → Topic → Int64 → Prop
  /-- The copy was right at a moment from the first world to the second. -/
  seen : σ → Copy → σ → Prop
  due : Outcall → σ → Prop
  later_refl : ∀ s, later s s
  later_trans : ∀ {s s' s''}, later s s' → later s' s'' → later s s''
  workspace_putBack : ∀ {s} w, sound s → workspace (putBack w s) = w
  putBack_workspace : ∀ s, putBack (workspace s) s = s
  putBack_putBack : ∀ w w' s, putBack w' (putBack w s) = putBack w' s
  kept : ∀ {s}, sound s → (workspace s).copies.Kept (granted s) (vouched s) (full s)
  /-- Whoever keeps only what is vouched for, and closes only what was granted to readers, leaves
  the world in order. -/
  settle : ∀ {s w}, sound s → w.copies.Kept (granted s) (vouched s) (full s) →
    (workspace s).shared.slots.Released
      (fun v => ∃ topic g, granted s topic g ∧ g.handle = .owned v) w.shared.slots →
    sound (putBack w s) ∧ later s (putBack w s)
  footed_of_read : ∀ {s topic g}, sound s → granted s topic g →
    (workspace s).shared.slots.read g.handle.view g.index = .ok g.generation →
    footed s topic g.generation
  footed_later : ∀ {s s' topic generation}, sound s → sound s' → later s s' →
    footed s topic generation → footed s' topic generation
  seen_of_read : ∀ {s g copy}, sound s → granted s copy.topic g → vouched s g copy →
    (workspace s).shared.slots.read g.handle.view g.index = .ok g.generation → seen s copy s
  seen_later : ∀ {s s' s'' copy}, later s' s'' → seen s copy s' → seen s copy s''
  seen_earlier : ∀ {s s' s'' copy}, later s s' → seen s' copy s'' → seen s copy s''
  due_hit : ∀ {s topic t}, sound s → (workspace s).Current topic t →
    (workspace s).copies.find? topic ≠ none → due (.notify (.hit topic)) s
  due_stale : ∀ {s topic}, sound s → (workspace s).Gone topic → due (.notify (.stale topic)) s
  due_trackerError : ∀ {s topic e}, sound s → (workspace s).Gone topic →
    due (.notify (.trackerError topic e)) s
  due_fetch : ∀ {s topic}, sound s → due (.notify (.fetch topic)) s
  due_remoteError : ∀ {s topic fault}, sound s → due (.notify (.remoteError topic fault)) s
  due_resolve : ∀ {s uri caller}, sound s → due (.resolve uri caller) s
  due_store : ∀ {s store call}, sound s → due (.store store call) s

namespace Terms

variable {σ : Type} (r : Terms σ)

def Follows (s s' : σ) : Prop :=
  r.sound s' ∧ r.later s s'

/-- What is known once a copy was brought from a store that was asked in world `s`. -/
structure Brought (s : σ) (copy : Copy) (grant : Option Grant) (s' : σ) : Prop where
  seen : r.seen s copy s'
  granted : ∀ g, grant = some g → r.granted s' copy.topic g ∧ r.vouched s' g copy
  /-- A grant vouches for the copy as well if it is for a generation that the slot held before. -/
  backed : ∀ generation g, r.footed s copy.topic generation → r.granted s' copy.topic g →
    g.generation = generation → r.vouched s' g copy

/-- What is known of an answer to a call that was made in world `s`. -/
def Told (s : σ) (a : Answer) (s' : σ) : Prop :=
  ∀ copy grant, a.brings = some (copy, grant) → r.Brought s copy grant s'

/-- An assertion about the answers heard so far and the world. -/
abbrev Assertion (σ : Type) := List Answer → σ → Prop

/-- The assertion stays true while others go on and more is heard. -/
def Stable (p : Assertion σ) : Prop :=
  ∀ heard s more s', p heard s → r.sound s → r.Follows s s' → p (heard ++ more) s'

/-- The assertion stays true when something is noted. -/
def Steady (p : Assertion σ) : Prop :=
  ∀ heard s level text, r.sound s → p heard s →
    p heard (r.putBack ((r.workspace s).note level text) s)

variable {r}

theorem Follows.refl {s : σ} (sound : r.sound s) : r.Follows s s :=
  ⟨sound, r.later_refl s⟩

theorem Follows.trans {s s' s'' : σ} (first : r.Follows s s') (second : r.Follows s' s'') :
    r.Follows s s'' :=
  ⟨second.1, r.later_trans first.2 second.2⟩

/-- A workspace with the same copies and the same boards can be put back. -/
theorem follows_of_same {s : σ} {w : Workspace} (sound : r.sound s)
    (copies : w.copies = (r.workspace s).copies)
    (slots : w.shared.slots = (r.workspace s).shared.slots) : r.Follows s (r.putBack w s) :=
  r.settle sound (copies ▸ r.kept sound) (slots ▸ .refl _ _)

/-- The outcome of a step about one topic can be put back, if the tracker is a grant's that vouches
for the copy. -/
theorem follows_of_sets {s : σ} {topic : Topic} {tracker : Option Tracker} {copy : Option Copy}
    {given : View → Prop} {w : Workspace} (sound : r.sound s)
    (sets : (r.workspace s).Sets topic tracker copy given w)
    (own : ∀ v, given v → ∃ g, r.granted s topic g ∧ g.handle = .owned v)
    (fits : ∀ t, tracker = some t → ∃ g, t = .ofGrant topic g ∧ r.granted s topic g ∧
      ∀ k, copy = some k → r.vouched s g k)
    (paired : tracker = none → copy = none)
    (whole : r.full s → ∀ t, tracker = some t → copy ≠ none) : r.Follows s (r.putBack w s) := by
  have kept := r.kept sound
  apply r.settle sound (kept.put sets.copies fits paired whole)
  apply sets.slots.mono
  intro v closes
  rcases closes with named | ⟨t, found, owned⟩
  · obtain ⟨g, granted, owned⟩ := own v named
    exact ⟨topic, g, granted, owned⟩
  · obtain ⟨g, rfl, granted, -⟩ := kept.tracked topic t found
    exact ⟨topic, g, granted, owned⟩

theorem follows_of_gone {s : σ} {topic : Topic} {given : View → Prop} {w : Workspace}
    (sound : r.sound s) (sets : (r.workspace s).Sets topic none none given w)
    (own : ∀ v, given v → ∃ g, r.granted s topic g ∧ g.handle = .owned v) :
    r.Follows s (r.putBack w s) :=
  follows_of_sets sound sets own (fun _ absent => nomatch absent) (fun _ => rfl)
    (fun _ _ absent => nomatch absent)

theorem follows_of_looked {s : σ} {topic : Topic} {verdict : Verdict} {w : Workspace}
    (sound : r.sound s) (looked : (r.workspace s).Looked topic verdict w) :
    r.Follows s (r.putBack w s) := by
  cases looked with
  | absent | current => exact follows_of_same sound rfl rfl
  | moved evicted => exact follows_of_gone sound evicted fun _ impossible => impossible.elim
  | broken evicted => exact follows_of_gone sound evicted fun _ impossible => impossible.elim

/-- A current tracker is a grant's whose slot holds the grant's generation. -/
theorem grant_of_current {s : σ} {topic : Topic} {t : Tracker} (sound : r.sound s)
    (current : (r.workspace s).Current topic t) :
    ∃ g, t = .ofGrant topic g ∧ r.granted s topic g ∧
      (∀ copy, (r.workspace s).copies.find? topic = some copy → r.vouched s g copy) ∧
      (r.workspace s).shared.slots.read g.handle.view g.index = .ok g.generation := by
  obtain ⟨g, rfl, granted, vouches⟩ := (r.kept sound).tracked topic t current.1
  exact ⟨g, rfl, granted, vouches, current.2⟩

/-- A grant's tracker can be put in place with the data that came with the grant. -/
theorem follows_of_placed {s : σ} {g : Grant} {copy : Copy} {verdict : Verdict} {w : Workspace}
    (sound : r.sound s) (granted : r.granted s copy.topic g) (vouches : r.vouched s g copy)
    (placed : (r.workspace s).Placed (.ofGrant copy.topic g) (some copy) verdict w) :
    r.Follows s (r.putBack w s) := by
  have own : ∀ v, (Tracker.ofGrant copy.topic g).handle = .owned v →
      ∃ g', r.granted s copy.topic g' ∧ g'.handle = .owned v :=
    fun v owned => ⟨g, granted, owned⟩
  cases placed with
  | current kept =>
      refine follows_of_sets sound kept own ?_ (fun impossible => nomatch impossible)
        fun _ _ _ impossible => nomatch impossible
      rintro _ ⟨⟩
      refine ⟨g, rfl, granted, ?_⟩
      rintro _ ⟨⟩
      exact vouches
  | moved evicted => exact follows_of_gone sound evicted own
  | broken evicted => exact follows_of_gone sound evicted own

/-- Nothing is heard by the way. -/
theorem Stable.follows {p : Assertion σ} (stable : r.Stable p) {heard : List Answer} {s s' : σ}
    (sound : r.sound s) (holds : p heard s) (follows : r.Follows s s') : p heard s' := by
  have stays := stable heard s [] s' holds sound follows
  rwa [List.append_nil] at stays

theorem Stable.steady {p : Assertion σ} (stable : r.Stable p) : r.Steady p := by
  intro heard s level text sound holds
  have noted : r.Follows s (r.putBack ((r.workspace s).note level text) s) :=
    follows_of_same sound rfl rfl
  exact stable.follows sound holds noted

theorem stable_later (start : σ) : r.Stable fun _ s => r.later start s :=
  fun _ _ _ _ before _ follows => r.later_trans before follows.2

theorem Stable.and {p q : Assertion σ} (first : r.Stable p) (second : r.Stable q) :
    r.Stable fun heard s => p heard s ∧ q heard s :=
  fun heard s more s' holds sound follows =>
    ⟨first heard s more s' holds.1 sound follows, second heard s more s' holds.2 sound follows⟩

theorem Steady.and {p q : Assertion σ} (first : r.Steady p) (second : r.Steady q) :
    r.Steady fun heard s => p heard s ∧ q heard s :=
  fun heard s level text sound holds =>
    ⟨first heard s level text sound holds.1, second heard s level text sound holds.2⟩

end Terms

/-! ## Operations on terms -/

variable {σ α β : Type} {r : Terms σ}

/-- What becomes of an operation in progress, taken up in a world that hands its workspace to it. -/
def Progress.Upholds (r : Terms σ) (post : α → Terms.Assertion σ) :
    Progress α → List Answer → σ → Prop
  | finished answer w, heard, s =>
      r.Follows s (r.putBack w s) ∧ post answer heard (r.putBack w s)
  | waiting call w resume, heard, s =>
      r.Follows s (r.putBack w s) ∧ r.due call (r.putBack w s) ∧
        ∀ reply s', r.Follows (r.putBack w s) s' → r.Told (r.putBack w s) ⟨call, reply⟩ s' →
          (resume reply (r.workspace s')).Upholds r post (heard ++ [⟨call, reply⟩]) s'

/-- Started where `pre` holds, the operation ends where `post` does. -/
def Operation.Meets (r : Terms σ) (pre : Terms.Assertion σ) (op : Operation α)
    (post : α → Terms.Assertion σ) : Prop :=
  ∀ heard s, r.sound s → pre heard s → (op (r.workspace s)).Upholds r post heard s

theorem Progress.Upholds.weaken {post post' : α → Terms.Assertion σ} {p : Progress α}
    {heard : List Answer} {s : σ} (upholds : p.Upholds r post heard s)
    (weaker : ∀ a heard s, r.sound s → post a heard s → post' a heard s) :
    p.Upholds r post' heard s := by
  induction p generalizing heard s with
  | finished answer w => exact ⟨upholds.1, weaker _ _ _ upholds.1.1 upholds.2⟩
  | waiting call w resume ih =>
      obtain ⟨follows, due, goesOn⟩ := upholds
      exact ⟨follows, due, fun reply s' later told => ih _ _ (goesOn reply s' later told)⟩

/-- A progress is taken up in another world than the one that it was put back into. -/
theorem Progress.Upholds.rebase {post : α → Terms.Assertion σ} {p : Progress α}
    {heard : List Answer} {s : σ} {w : Workspace} (follows : r.Follows s (r.putBack w s))
    (upholds : p.Upholds r post heard (r.putBack w s)) : p.Upholds r post heard s := by
  cases p with
  | finished answer w' =>
      have same := r.putBack_putBack w w' s
      exact ⟨same ▸ follows.trans upholds.1, same ▸ upholds.2⟩
  | waiting call w' resume =>
      have same := r.putBack_putBack w w' s
      obtain ⟨next, due, goesOn⟩ := upholds
      rw [same] at next due goesOn
      exact ⟨follows.trans next, due, goesOn⟩

theorem Progress.Upholds.andThen {mid : α → Terms.Assertion σ} {post : β → Terms.Assertion σ}
    {next : α → Operation β} (then_meets : ∀ a, (next a).Meets r (mid a) post) {p : Progress α}
    {heard : List Answer} {s : σ} (sound : r.sound s) (upholds : p.Upholds r mid heard s) :
    (p.andThen next).Upholds r post heard s := by
  induction p generalizing heard s with
  | finished answer w =>
      obtain ⟨follows, holds⟩ := upholds
      have rest := then_meets answer heard _ follows.1 holds
      rw [r.workspace_putBack w sound] at rest
      exact rest.rebase follows
  | waiting call w resume ih =>
      obtain ⟨follows, due, goesOn⟩ := upholds
      exact ⟨follows, due, fun reply s' later told => ih _ _ later.1 (goesOn reply s' later told)⟩

namespace Operation

variable {pre pre' : Terms.Assertion σ} {post post' : α → Terms.Assertion σ}

theorem Meets.bind {op : Operation α} {next : α → Operation β} {post : β → Terms.Assertion σ}
    {mid : α → Terms.Assertion σ} (first : op.Meets r pre mid)
    (second : ∀ a, (next a).Meets r (mid a) post) : (op >>= next).Meets r pre post :=
  fun heard s sound holds => (first heard s sound holds).andThen second sound

theorem Meets.require {op : Operation α} (meets : op.Meets r pre post)
    (stronger : ∀ heard s, r.sound s → pre' heard s → pre heard s) : op.Meets r pre' post :=
  fun heard s sound holds => meets heard s sound (stronger heard s sound holds)

theorem Meets.ensure {op : Operation α} (meets : op.Meets r pre post)
    (weaker : ∀ a heard s, r.sound s → post a heard s → post' a heard s) :
    op.Meets r pre post' :=
  fun heard s sound holds => (meets heard s sound holds).weaken weaker

theorem meets_pure {a : α} (holds : ∀ heard s, r.sound s → pre heard s → post a heard s) :
    (pure a : Operation α).Meets r pre post := by
  intro heard s sound before
  rw [pure_apply, Progress.Upholds, r.putBack_workspace]
  exact ⟨.refl sound, holds heard s sound before⟩

theorem Meets.map {f : α → β} {op : Operation α} {post : β → Terms.Assertion σ}
    (meets : op.Meets r pre fun a => post (f a)) : (f <$> op).Meets r pre post := by
  rw [map_eq_pure_bind]
  exact meets.bind fun _ => meets_pure fun _ _ _ holds => holds

/-- One step on the workspace has to leave the world in order. -/
theorem meets_locked {step : Workspace → α × Workspace}
    (holds : ∀ heard s, r.sound s → pre heard s →
      r.Follows s (r.putBack (step (r.workspace s)).2 s) ∧
        post (step (r.workspace s)).1 heard (r.putBack (step (r.workspace s)).2 s)) :
    (locked step).Meets r pre post :=
  fun heard s sound before => holds heard s sound before

theorem meets_change {step : Workspace → Workspace} {post : Unit → Terms.Assertion σ}
    (holds : ∀ heard s, r.sound s → pre heard s →
      r.Follows s (r.putBack (step (r.workspace s)) s) ∧
        post () heard (r.putBack (step (r.workspace s)) s)) :
    (change step).Meets r pre post :=
  fun heard s sound before => holds heard s sound before

/-- A step that leaves copies and boards alone leaves all that is stable. -/
theorem meets_locked_of_same {step : Workspace → α × Workspace} {p : Terms.Assertion σ}
    (stable : r.Stable p)
    (same : ∀ w, (step w).2.copies = w.copies ∧ (step w).2.shared.slots = w.shared.slots) :
    (locked step).Meets r p fun _ => p := by
  apply meets_locked
  intro heard s sound holds
  have follows := Terms.follows_of_same sound (same (r.workspace s)).1 (same (r.workspace s)).2
  exact ⟨follows, stable.follows sound holds follows⟩

theorem meets_change_of_same {step : Workspace → Workspace} {p : Terms.Assertion σ}
    (stable : r.Stable p)
    (same : ∀ w, (step w).copies = w.copies ∧ (step w).shared.slots = w.shared.slots) :
    (change step).Meets r p fun _ => p := by
  have asStep : (locked fun w => ((), step w)).Meets r p fun _ => p :=
    meets_locked_of_same stable same
  exact asStep

/-- After a call nothing is left but what is stable, and what is known of the answer. -/
theorem meets_ask {call : Outcall} {post : call.Reply → Terms.Assertion σ}
    (due : ∀ heard s, r.sound s → pre heard s → r.due call s)
    (holds : ∀ heard s reply s', r.sound s → pre heard s → r.Follows s s' →
      r.Told s ⟨call, reply⟩ s' → post reply (heard ++ [⟨call, reply⟩]) s') :
    (ask call).Meets r pre post := by
  intro heard s sound before
  rw [ask_apply, Progress.Upholds, r.putBack_workspace]
  refine ⟨.refl sound, due heard s sound before, ?_⟩
  intro reply s' follows told
  rw [Progress.Upholds, r.putBack_workspace]
  exact ⟨.refl follows.1, holds heard s reply s' sound before follows told⟩

/-- Nothing is lost when the observer is told something. -/
theorem meets_notify {event : Event} {p : Terms.Assertion σ} (stable : r.Stable p)
    (due : ∀ heard s, r.sound s → pre heard s → r.due (.notify event) s)
    (holds : ∀ heard s, r.sound s → pre heard s → p heard s) :
    (notify event).Meets r pre fun _ => p :=
  meets_ask due fun heard s _ s' sound before follows _ =>
    stable heard s _ s' (holds heard s sound before) sound follows

end Operation

end TrackedSettings
