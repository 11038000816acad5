import TrackedSettings.Proofs.Lookup
import TrackedSettings.Proofs.Operations

/-! # What a read meets

A read ends with something that was right at a moment since it began, or its store has failed it.
-/

namespace TrackedSettings

open Operation

/-- A result of a listing shows what is in a table, as far as it was asked for. -/
def Entries.Answers (all : Entries) (names : List String) (result : Entries) : Prop :=
  ∀ name, name ≠ emptyName →
    result[name]? = if names = [] ∨ name ∈ names then all[name]? else none

/-- Names are chosen from a table, or from the same table with an entry for the empty name. -/
theorem Entries.answers_choose (all : Entries) (names : List String) (v : Value) :
    all.Answers names (all.choose names) ∧
      Entries.Answers (all.insert emptyName v) names (all.choose names) := by
  refine ⟨fun name real => all.getElem?_choose names real, ?_⟩
  intro name real
  have differs : ¬ compare emptyName name = .eq :=
    fun same => real (Std.LawfulEqOrd.eq_of_compare same).symm
  rw [all.getElem?_choose names real, Std.ExtTreeMap.getElem?_insert, if_neg differs]

namespace Cache

variable {σ : Type} {r : Terms σ} {c : Cache}

/-! ## Reading one key -/

/-- What a read of a key can end with. -/
def Fresh (r : Terms σ) (start : σ) (key : String) (v : Value) : Terms.Assertion σ :=
  fun heard s => r.seen start (.value key v) s ∨ v = none ∧ Failed heard

theorem stable_fresh (start : σ) (key : String) (v : Value) : r.Stable (Fresh r start key v) := by
  intro heard s more s' fresh _ follows
  rcases fresh with seen | failed
  · exact Or.inl (r.seen_later follows.2 seen)
  · exact Or.inr ⟨failed.1, failed.2.append more⟩

/-- A read that cannot reach its store says so, and has nothing to answer. -/
theorem giveUp_meets {α : Type} {post : α → Terms.Assertion σ} (topic : Topic) (fault : Fault)
    (nothing : α) (failing : ∀ heard s, Failed heard → post nothing heard s) :
    (c.remoteError topic fault >>= fun _ => pure nothing).Meets r (fun heard _ => Failed heard)
      post := by
  have stable : r.Stable fun heard _ => Failed heard :=
    fun _ _ more _ failed _ _ => failed.append more
  exact (remoteError_meets stable topic fault).bind fun _ =>
    meets_pure fun heard s _ failed => failing heard s failed

theorem askQuery_meets (start : σ) (store : StoreId) (key : String) (user : UserId)
    (footing : Footing) :
    (ask (.store store (.query key { user }))).Meets r
      (fun _ s => r.later start s ∧ Stands r (.key key) footing s)
      fun reply heard s =>
        (∀ v, reply = .ok v →
          Fresh r start key v heard s ∧ Fits r (.value key v) footing none s) ∧
        ∀ e, reply = .error e → Failed heard := by
  apply meets_ask fun _ _ sound _ => r.due_store sound
  intro heard s reply s' sound begun follows told
  obtain ⟨before, stands⟩ := begun
  constructor
  · intro v same
    subst same
    have brought := told (.value key v) none rfl
    exact ⟨Or.inl (r.seen_earlier before brought.seen), fits_of_brought brought stands⟩
  · intro e same
    subst same
    exact ⟨_, List.mem_append_right _ (List.mem_singleton_self _), rfl⟩

theorem queryValue_meets (start : σ) (store : StoreId) (key : String) (user : UserId)
    (footing : Footing) :
    (c.queryValue store key user footing).Meets r
      (fun _ s => r.later start s ∧ Stands r (.key key) footing s) (Fresh r start key) := by
  refine (askQuery_meets start store key user footing).bind fun reply => ?_
  cases reply with
  | ok v =>
      have stable : r.Stable (Fresh r start key v) := stable_fresh start key v
      have kept := receive_meets (c := c) stable (c.keepValue_saves key " from query" v) footing none
      have returned := kept.bind fun _ => meets_pure (a := v) fun _ _ _ holds => holds
      refine .require ?_ fun _ _ _ holds => holds.1 v rfl
      -- Without a grant, only a footing on a tracker keeps anything.
      cases footing <;> exact returned
  | error e =>
      refine .require (giveUp_meets _ _ none fun _ _ failed => Or.inr ⟨rfl, failed⟩) ?_
      exact fun _ _ _ holds => holds.2 e rfl

theorem askGet_meets (start : σ) (store : StoreId) (key : String) (request : ReadRequest)
    (footing : Footing) :
    (ask (.store store (.get key request))).Meets r
      (fun _ s => r.later start s ∧ Stands r (.key key) footing s)
      fun reply heard s => r.later start s ∧ Stands r (.key key) footing s ∧
        ∀ reading, reply = .ok (some reading) → Fresh r start key reading.value heard s ∧
          Fits r (.value key reading.value) footing reading.grant s := by
  apply meets_ask fun _ _ sound _ => r.due_store sound
  intro heard s reply s' sound begun follows told
  obtain ⟨before, stands⟩ := begun
  refine ⟨r.later_trans before follows.2, ?_, ?_⟩
  · exact stable_stands (.key key) footing heard s [] s' stands sound follows
  · intro reading same
    subst same
    have brought := told (.value key reading.value) reading.grant rfl
    exact ⟨Or.inl (r.seen_earlier before brought.seen), fits_of_brought brought stands⟩

theorem fetchValue_meets (start : σ) (key : String) (user : UserId) (footing : Footing) :
    (c.fetchValue key user footing).Meets r
      (fun _ s => r.later start s ∧ Stands r (.key key) footing s) (Fresh r start key) := by
  have going := (r.stable_later start).and (stable_stands (.key key) footing)
  refine .bind (provider_meets going c.caller) fun found => ?_
  cases found with
  | error fault =>
      refine .require (giveUp_meets _ _ none fun _ _ failed => Or.inr ⟨rfl, failed⟩) ?_
      exact fun _ _ _ holds => holds.2 fault rfl
  | ok store =>
      refine .bind (.require (meets_notify going ?_ fun _ _ _ holds => holds) ?_) fun _ => ?_
      · exact fun _ _ sound _ => r.due_fetch sound
      · exact fun _ _ _ holds => holds.1
      refine (askGet_meets start store key _ footing).bind fun reply => ?_
      cases reply with
      | error e =>
          refine .bind (.require (remoteError_meets going _ _) ?_) fun _ =>
            queryValue_meets start store key user footing
          exact fun _ _ _ holds => ⟨holds.1, holds.2.1⟩
      | ok found =>
          cases found with
          | none =>
              refine .bind (.require (note_meets going.steady _ _) ?_) fun _ =>
                queryValue_meets start store key user footing
              exact fun _ _ _ holds => ⟨holds.1, holds.2.1⟩
          | some reading =>
              have stable : r.Stable (Fresh r start key reading.value) := stable_fresh _ _ _
              refine .bind (.require (receive_meets stable (c.keepValue_saves key "" reading.value)
                footing reading.grant) ?_) fun _ => meets_pure fun _ _ _ holds => holds
              exact fun _ _ _ holds => holds.2.2 reading rfl

theorem reads_value (key : String) :
    Reads (.key key) (·.values[key]?) fun copy v => copy = .value key v := by
  intro copies v found
  exact ⟨.value key v, by simp [Copies.find?, found], rfl⟩

/-- A value that is read was right at a moment since the read began, unless nobody could be asked. -/
theorem value_meets (start : σ) (key : String) (user : UserId) :
    (c.value key user).Meets r (fun _ s => r.later start s)
      fun result heard s => ∀ v, result = .ok v → Fresh r start key v heard s := by
  have started := r.stable_later start
  refine .bind (note_meets started.steady _ _) fun _ => ?_
  refine .bind (standing_meets (reads_value key) _ start) fun standing => ?_
  cases standing with
  | answered v =>
      have stable : r.Stable (Fresh r start key v) := stable_fresh start key v
      refine .bind (.require (note_meets (stable.steady.and (steady_served (.key key))) _ _) ?_)
        fun _ => ?_
      · intro _ s _ found
        obtain ⟨-, served, copy, rfl, seen⟩ := found
        exact ⟨Or.inl seen, served⟩
      refine .bind (meets_notify stable ?_ fun _ _ _ holds => holds.1) fun _ => meets_pure ?_
      · intro _ s sound served
        obtain ⟨-, t, current, found⟩ := served
        exact r.due_hit sound current found
      · intro _ _ _ fresh _ same
        cases same
        exact fresh
  | pending footing =>
      cases c.access.readable key c.caller with
      | true =>
          refine .map ((fetchValue_meets start key user footing).ensure ?_)
          intro _ _ _ _ fresh _ same
          cases same
          exact fresh
      | false =>
          apply meets_pure
          intro _ _ _ _ _ impossible
          cases impossible

/-! ## Reading under a stem -/

/-- What a read under a stem can end with. -/
def Listed (r : Terms σ) (start : σ) (stem : String) (names : List String) (result : Entries) :
    Terms.Assertion σ :=
  fun heard s => (∃ all, r.seen start (.listing stem all) s ∧ all.Answers names result) ∨
    Failed heard

theorem stable_listed (start : σ) (stem : String) (names : List String) (result : Entries) :
    r.Stable (Listed r start stem names result) := by
  intro heard s more s' listed _ follows
  rcases listed with ⟨all, seen, answers⟩ | failed
  · exact Or.inl ⟨all, r.seen_later follows.2 seen, answers⟩
  · exact Or.inr (failed.append more)

theorem askList_meets (start : σ) (store : StoreId) (stem : String) (names : List String)
    (request : ReadRequest) (footing : Footing) :
    (ask (.store store (.list stem request))).Meets r
      (fun _ s => r.later start s ∧ Stands r (.under stem) footing s)
      fun reply heard s =>
        (∀ listing, reply = .ok (some listing) →
          Listed r start stem names ((listing.entries.strip stem).choose names) heard s ∧
            Fits r (.listing stem ((listing.entries.strip stem).insert emptyName none)) footing
              listing.grant s) ∧
        (reply = .ok none → Failed heard) ∧ ∀ e, reply = .error e → Failed heard := by
  apply meets_ask fun _ _ sound _ => r.due_store sound
  intro heard s reply s' sound begun follows told
  obtain ⟨before, stands⟩ := begun
  refine ⟨?_, ?_, ?_⟩
  · intro listing same
    subst same
    have brought := told _ listing.grant rfl
    have answers := (listing.entries.strip stem).answers_choose names none
    exact ⟨Or.inl ⟨_, r.seen_earlier before brought.seen, answers.2⟩,
      fits_of_brought brought stands⟩
  · intro same
    subst same
    exact ⟨_, List.mem_append_right _ (List.mem_singleton_self _), rfl⟩
  · intro e same
    subst same
    exact ⟨_, List.mem_append_right _ (List.mem_singleton_self _), rfl⟩

theorem fetchListing_meets (start : σ) (store : StoreId) (stem : String) (names : List String)
    (footing : Footing) :
    (c.fetchListing store stem names footing).Meets r
      (fun _ s => r.later start s ∧ Stands r (.under stem) footing s)
      (Listed r start stem names) := by
  have going := (r.stable_later start).and (stable_stands (.under stem) footing)
  refine .bind (meets_notify going ?_ fun _ _ _ holds => holds) fun _ => ?_
  · exact fun _ _ sound _ => r.due_fetch sound
  refine (askList_meets start store stem names _ footing).bind fun reply => ?_
  cases reply with
  | error e =>
      refine .require (giveUp_meets _ _ ∅ fun _ _ failed => Or.inr failed) ?_
      exact fun _ _ _ holds => holds.2.2 e rfl
  | ok found =>
      cases found with
      | none =>
          have failing : r.Stable fun heard _ => Failed heard :=
            fun _ _ more _ failed _ _ => failed.append more
          refine .bind (.require (note_meets failing.steady _ _) ?_) fun _ =>
            meets_pure fun _ _ _ failed => Or.inr failed
          exact fun _ _ _ holds => holds.2.1 rfl
      | some listing =>
          have stable : r.Stable
              (Listed r start stem names ((listing.entries.strip stem).choose names)) :=
            stable_listed _ _ _ _
          refine .bind (.require (receive_meets stable
            (c.keepListing_saves stem (listing.entries.strip stem)) footing listing.grant) ?_)
            fun _ => meets_pure fun _ _ _ holds => holds
          exact fun _ _ _ holds => holds.1 listing rfl

theorem reads_listing (stem : String) (names : List String) :
    Reads (.under stem) (fun copies => copies.listings[stem]?.map (·.choose names))
      fun copy result => ∃ all, copy = .listing stem all ∧ all.Answers names result := by
  intro copies result found
  obtain ⟨all, held, rfl⟩ := Option.map_eq_some_iff.mp found
  exact ⟨.listing stem all, by simp [Copies.find?, held], all, rfl,
    (all.answers_choose names none).1⟩

/-- The entries that are read stood together in one table at a moment since the read began, unless
no listing was to be had. -/
theorem listing_meets (start : σ) (stem : String) (names : List String) :
    (c.listing stem names).Meets r (fun _ s => r.later start s) (Listed r start stem names) := by
  have started := r.stable_later start
  refine .bind (note_meets started.steady _ _) fun _ => ?_
  refine .bind (standing_meets (reads_listing stem names) _ start) fun standing => ?_
  cases standing with
  | answered result =>
      have stable : r.Stable (Listed r start stem names result) := stable_listed _ _ _ _
      refine .bind (.require (note_meets (stable.steady.and (steady_served (.under stem))) _ _) ?_)
        fun _ => ?_
      · intro _ s _ found
        obtain ⟨-, served, _, ⟨all, rfl, answers⟩, seen⟩ := found
        exact ⟨Or.inl ⟨all, seen, answers⟩, served⟩
      refine .bind (meets_notify stable ?_ fun _ _ _ holds => holds.1) fun _ =>
        meets_pure fun _ _ _ holds => holds
      intro _ s sound served
      obtain ⟨-, t, current, found⟩ := served
      exact r.due_hit sound current found
  | pending footing =>
      have going := started.and (stable_stands (.under stem) footing)
      refine .bind (provider_meets going c.caller) fun found => ?_
      cases found with
      | error fault =>
          refine .require (giveUp_meets _ _ ∅ fun _ _ failed => Or.inr failed) ?_
          exact fun _ _ _ holds => holds.2 fault rfl
      | ok store =>
          have asked : (ask (.store store .canList)).Meets r
              (fun _ s => r.later start s ∧ Stands r (.under stem) footing s)
              fun canList heard s => (r.later start s ∧ Stands r (.under stem) footing s) ∧
                (canList = false → Failed heard) := by
            apply meets_ask fun _ _ sound _ => r.due_store sound
            intro heard s reply s' sound holds follows _
            refine ⟨going heard s [] s' holds sound follows, ?_⟩
            intro unable
            subst unable
            exact ⟨_, List.mem_append_right _ (List.mem_singleton_self _), rfl⟩
          refine .bind (asked.require fun _ _ _ holds => holds.1) fun canList => ?_
          cases canList with
          | true =>
              exact (fetchListing_meets start store stem names footing).require
                fun _ _ _ holds => holds.1
          | false =>
              have failing : r.Stable fun heard _ => Failed heard :=
                fun _ _ more _ failed _ _ => failed.append more
              refine .bind (.require (note_meets failing.steady _ _) ?_) fun _ =>
                meets_pure fun _ _ _ failed => Or.inr failed
              exact fun _ _ _ holds => holds.2 rfl

end Cache

end TrackedSettings
