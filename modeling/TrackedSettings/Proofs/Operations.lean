import TrackedSettings.Proofs.Terms

/-! # What the parts of an operation meet

Notes and notifications, finding the store, the look at a tracker that a read begins with, and
keeping what a store has brought: each is specified once, on any terms.
-/

namespace TrackedSettings

open Operation

namespace Cache

variable {σ : Type} {r : Terms σ} {p : Terms.Assertion σ} {c : Cache}

/-! ## Notes and notifications -/

theorem note_meets (steady : r.Steady p) (level : Level) (text : String) :
    (c.note level text).Meets r p fun _ => p := by
  apply meets_change
  intro heard s sound holds
  exact ⟨Terms.follows_of_same sound rfl rfl, steady heard s level _ sound holds⟩

theorem remoteError_meets (stable : r.Stable p) (topic : Topic) (fault : Fault) :
    (c.remoteError topic fault).Meets r p fun _ => p :=
  (note_meets stable.steady _ _).bind fun _ =>
    meets_notify stable (fun _ _ sound _ => r.due_remoteError sound) fun _ _ _ holds => holds

theorem steady_gone (topic : Topic) : r.Steady fun _ s => (r.workspace s).Gone topic := by
  intro heard s level text sound gone
  rw [r.workspace_putBack _ sound]
  exact gone

theorem report_meets (stable : r.Stable p) (topic : Topic) (verdict : Verdict) :
    (c.report topic verdict).Meets r
      (fun heard s => p heard s ∧
        (verdict.evicts = true → (r.workspace s).Gone topic))
      fun _ => p := by
  cases verdict with
  | current generation => exact meets_pure fun _ _ _ holds => holds.1
  | absent => exact meets_pure fun _ _ _ holds => holds.1
  | moved =>
      have noted : (c.note .debug s!"STALE({topic.describe})").Meets r
          (fun heard s => p heard s ∧ (r.workspace s).Gone topic)
          fun _ heard s => p heard s ∧ (r.workspace s).Gone topic :=
        note_meets (stable.steady.and (steady_gone topic)) _ _
      have told := noted.bind fun _ => meets_notify stable
        (fun _ _ sound holds => r.due_stale sound holds.2) fun _ _ _ holds => holds.1
      exact told.require fun _ _ _ holds => ⟨holds.1, holds.2 rfl⟩
  | broken e =>
      exact meets_notify stable
        (fun _ _ sound holds => r.due_trackerError sound (holds.2 rfl))
        fun _ _ _ holds => holds.1

/-- If no store is found, this is because the resolver said so. -/
theorem provider_meets (stable : r.Stable p) (caller : Caller) :
    (c.provider caller).Meets r p fun result heard s =>
      p heard s ∧ ∀ e, result = .error e → Failed heard := by
  have found : ∀ store : StoreId, (pure (.ok store) : Operation (Except Fault StoreId)).Meets r p
      fun result heard s => p heard s ∧ ∀ e, result = .error e → Failed heard :=
    fun store => meets_pure fun _ _ _ holds => ⟨holds, fun _ impossible => nomatch impossible⟩
  unfold provider
  refine (meets_locked_of_same stable fun _ => ⟨rfl, rfl⟩).bind fun known => ?_
  cases known with
  | some store => exact found store
  | none =>
      refine .bind (meets_change_of_same stable ?_) fun _ => ?_
      · exact fun _ => ⟨rfl, rfl⟩
      have asked : (ask (.resolve c.uri caller)).Meets r p fun reply heard s =>
          p heard s ∧ ∀ e, reply = .error e → Failed heard := by
        apply meets_ask fun _ _ sound _ => r.due_resolve sound
        intro heard s reply s' sound holds follows _
        refine ⟨stable heard s _ s' holds sound follows, ?_⟩
        intro e same
        subst same
        exact ⟨_, List.mem_append_right _ (List.mem_singleton_self _), rfl⟩
      refine asked.bind fun reply => ?_
      cases reply with
      | ok store =>
          refine .require (.bind (meets_change_of_same stable ?_) fun _ => found store) ?_
          · exact fun _ => ⟨rfl, rfl⟩
          · exact fun _ _ _ holds => holds.1
      | error e =>
          apply meets_pure
          intro heard s _ holds
          exact ⟨holds.1, fun _ _ => holds.2 e rfl⟩

/-! ## Where a read stands -/

/-- A read that found a tracker knows a generation that the slot has held. -/
def Stands (r : Terms σ) (topic : Topic) (footing : Footing) (s : σ) : Prop :=
  ∀ generation, footing = .vouched generation → r.footed s topic generation

theorem stable_stands (topic : Topic) (footing : Footing) :
    r.Stable fun _ s => Stands r topic footing s :=
  fun _ _ _ _ stands sound follows generation same =>
    r.footed_later sound follows.1 follows.2 (stands generation same)

/-- A tracker reads its generation, and its topic has a copy. -/
def Served (r : Terms σ) (topic : Topic) (s : σ) : Prop :=
  ∃ t, (r.workspace s).Current topic t ∧ (r.workspace s).copies.find? topic ≠ none

theorem steady_served (topic : Topic) : r.Steady fun _ s => Served r topic s := by
  intro heard s level text sound served
  unfold Served
  rw [r.workspace_putBack _ sound]
  exact served

/-- What `look` finds comes of the copy of the topic, as `shows` says. -/
def Reads {α : Type} (topic : Topic) (look : Copies → Option α) (shows : Copy → α → Prop) : Prop :=
  ∀ copies data, look copies = some data →
    ∃ copy, copies.find? topic = some copy ∧ shows copy data

/-- What a look at a tracker and a copy has shown. -/
structure Consulted {α : Type} (r : Terms σ) (topic : Topic) (look : Copies → Option α)
    (result : Verdict × Option α) (s : σ) : Prop where
  current : ∀ generation, result.1 = .current generation →
    result.2 = look (r.workspace s).copies ∧
      ∃ t, (r.workspace s).Current topic t ∧ t.generation = generation
  gone : result.1.evicts = true → (r.workspace s).Gone topic

theorem consult_meets {α : Type} (stable : r.Stable p) (topic : Topic)
    (look : Copies → Option α) :
    (locked (Workspace.consult topic look)).Meets r p fun result heard s =>
      p heard s ∧ Consulted r topic look result s := by
  apply meets_locked
  intro heard s sound holds
  have consulted := (r.workspace s).consult_looked topic look
  generalize (r.workspace s).consult topic look = result at consulted ⊢
  obtain ⟨⟨verdict, data⟩, w⟩ := result
  obtain ⟨looked, same⟩ := consulted
  have follows := Terms.follows_of_looked sound looked
  refine ⟨follows, stable.follows sound holds follows, ?_, ?_⟩
  · intro generation same'
    subst same'
    rw [r.workspace_putBack w sound]
    cases looked with
    | current current => exact ⟨same, _, current, rfl⟩
  · rw [r.workspace_putBack w sound]
    exact looked.gone

/-- A read is answered by what was right since it began, or it knows where it stands. -/
theorem standing_meets {α : Type} {topic : Topic} {look : Copies → Option α}
    {shows : Copy → α → Prop} (reads : Reads topic look shows) (keeps : Bool) (start : σ) :
    (c.standing keeps topic look).Meets r (fun _ s => r.later start s) fun standing _ s =>
      r.later start s ∧ match standing with
        | .answered data => Served r topic s ∧ ∃ copy, shows copy data ∧ r.seen start copy s
        | .pending footing => Stands r topic footing s := by
  have started := r.stable_later start
  unfold standing
  cases keeps with
  | false => exact meets_pure fun _ _ _ before => ⟨before, fun _ impossible => nomatch impossible⟩
  | true =>
      refine (consult_meets started topic look).bind fun result => ?_
      obtain ⟨verdict, data⟩ := result
      cases verdict with
      | current generation =>
          simp only [report, pure_bind]
          cases data with
          | some data =>
              apply meets_pure
              intro _ s sound found
              obtain ⟨before, consulted⟩ := found
              obtain ⟨same, t, current, -⟩ := consulted.current generation rfl
              obtain ⟨copy, found, shown⟩ := reads _ _ same.symm
              obtain ⟨g, rfl, granted, vouches, read⟩ := Terms.grant_of_current sound current
              have own := Copies.topic_of_find? found
              have seen : r.seen s copy s :=
                r.seen_of_read sound (own ▸ granted) (vouches copy found) read
              refine ⟨before, ⟨_, current, ?_⟩, copy, shown, r.seen_earlier before seen⟩
              rw [found]
              exact Option.some_ne_none copy
          | none =>
              apply meets_pure
              intro _ s sound found
              obtain ⟨before, consulted⟩ := found
              obtain ⟨-, t, current, same⟩ := consulted.current generation rfl
              obtain ⟨g, rfl, granted, -, read⟩ := Terms.grant_of_current sound current
              refine ⟨before, ?_⟩
              rintro _ ⟨⟩
              subst same
              exact r.footed_of_read sound granted read
      | absent | moved | broken e =>
          refine .bind (.require (report_meets started topic _) ?_) fun _ => ?_
          · exact fun _ _ _ holds => ⟨holds.1, holds.2.gone⟩
          · cases data <;> exact meets_pure fun _ _ _ before =>
              ⟨before, fun _ impossible => nomatch impossible⟩

/-! ## Keeping what was brought -/

/-- Data can be kept under the grant that came with them, and under the footing of the read. -/
structure Fits (r : Terms σ) (copy : Copy) (footing : Footing) (grant : Option Grant) (s : σ) :
    Prop where
  granted : ∀ g, grant = some g → r.granted s copy.topic g ∧ r.vouched s g copy
  vouched : ∀ generation, footing = .vouched generation → ∀ g, r.granted s copy.topic g →
    g.generation = generation → r.vouched s g copy

theorem fits_of_brought {copy : Copy} {footing : Footing} {grant : Option Grant} {s s' : σ}
    (brought : r.Brought s copy grant s') (stands : Stands r copy.topic footing s) :
    Fits r copy footing grant s' where
  granted := brought.granted
  vouched generation same g := brought.backed generation g (stands generation same)

variable {save : Workspace → Workspace} {copy : Copy}

theorem saveGranted_meets (stable : r.Stable p) (saves : Workspace.Saves save copy) (g : Grant) :
    (c.saveGranted copy.topic g save).Meets r
      (fun heard s => p heard s ∧ r.granted s copy.topic g ∧ r.vouched s g copy) fun _ => p := by
  have placed : (locked (Workspace.saveUnder (.ofGrant copy.topic g) save)).Meets r
      (fun heard s => p heard s ∧ r.granted s copy.topic g ∧ r.vouched s g copy)
      fun verdict heard s => p heard s ∧
        (verdict.evicts = true → (r.workspace s).Gone copy.topic) := by
    apply meets_locked
    intro heard s sound brought
    obtain ⟨holds, granted, vouches⟩ := brought
    have placed := (r.workspace s).saveUnder_placed (.ofGrant copy.topic g) saves rfl
    have follows := Terms.follows_of_placed sound granted vouches placed
    refine ⟨follows, stable.follows sound holds follows, ?_⟩
    rw [r.workspace_putBack _ sound]
    exact placed.gone
  refine placed.bind fun verdict => ?_
  cases verdict with
  | current | absent => exact meets_pure fun _ _ _ holds => holds.1
  | moved => exact (note_meets stable.steady _ _).require fun _ _ _ holds => holds.1
  | broken e =>
      exact meets_notify stable
        (fun _ _ sound holds => r.due_trackerError sound (holds.2 rfl)) fun _ _ _ holds => holds.1

theorem saveVouched_meets (stable : r.Stable p) (saves : Workspace.Saves save copy)
    (generation : Int64) :
    (c.saveVouched copy.topic generation save).Meets r
      (fun heard s => p heard s ∧ ∀ g, r.granted s copy.topic g → g.generation = generation →
        r.vouched s g copy)
      fun _ => p := by
  have looked : (locked (Workspace.saveAt copy.topic generation save)).Meets r
      (fun heard s => p heard s ∧ ∀ g, r.granted s copy.topic g → g.generation = generation →
        r.vouched s g copy)
      fun verdict heard s => p heard s ∧
        (verdict.evicts = true → (r.workspace s).Gone copy.topic) := by
    apply meets_locked
    intro heard s sound brought
    obtain ⟨holds, vouches⟩ := brought
    rw [r.workspace_putBack _ sound]
    have cases := (r.workspace s).saveAt_looked generation saves
    generalize (r.workspace s).saveAt copy.topic generation save = result at cases ⊢
    obtain ⟨verdict, w⟩ := result
    have follows : r.Follows s (r.putBack w s) := by
      rcases cases with looked | ⟨t, current, same, -, sets⟩
      · exact Terms.follows_of_looked sound looked
      · obtain ⟨g, rfl, granted, -⟩ := Terms.grant_of_current sound current
        refine Terms.follows_of_sets sound sets (fun _ impossible => impossible.elim) ?_
          (fun impossible => nomatch impossible) fun _ _ _ impossible => nomatch impossible
        rintro _ ⟨⟩
        refine ⟨g, rfl, granted, ?_⟩
        rintro _ ⟨⟩
        exact vouches g granted same
    refine ⟨follows, stable.follows sound holds follows, ?_⟩
    rcases cases with looked | ⟨t, -, -, same, -⟩
    · exact looked.gone
    · intro evicts
      have same : verdict = .current generation := same
      rw [same] at evicts
      cases evicts
  exact looked.bind fun verdict => report_meets stable copy.topic verdict

theorem receive_meets (stable : r.Stable p) (saves : Workspace.Saves save copy) (footing : Footing)
    (grant : Option Grant) :
    (c.receive copy.topic footing grant save).Meets r
      (fun heard s => p heard s ∧ Fits r copy footing grant s) fun _ => p := by
  cases grant with
  | none =>
      cases footing with
      | vouched generation =>
          exact (saveVouched_meets stable saves generation).require fun _ _ _ holds =>
            ⟨holds.1, holds.2.vouched generation rfl⟩
      | untracked | outside => exact meets_pure fun _ _ _ holds => holds.1
  | some g =>
      cases footing with
      | vouched | untracked =>
          exact (saveGranted_meets stable saves g).require fun _ _ _ holds =>
            ⟨holds.1, holds.2.granted g rfl⟩
      | outside =>
          apply meets_change
          intro heard s sound brought
          obtain ⟨holds, fits⟩ := brought
          have released := g.handle.release_released (r.workspace s).shared
          have follows : r.Follows s (r.putBack ((r.workspace s).release g.handle) s) := by
            refine r.settle (w := (r.workspace s).release g.handle) sound (r.kept sound) ?_
            apply released.mono
            intro v owned
            exact ⟨copy.topic, g, (fits.granted g rfl).1, owned⟩
          exact ⟨follows, stable.follows sound holds follows⟩

end Cache

end TrackedSettings
