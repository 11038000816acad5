import TrackedSettings.Proofs.Outcalls

/-! # Reads that nobody disturbs

While a read waits for a reply, nobody else works on the cache's own copies here, though the boards
may change as they please. Then a read whose store could not be found, or did not bring what the
read was after, leaves the copies as its first look at the tracker left them, and so does a query
that no current tracker stands behind. No failure is ever kept as if it were a value.
-/

namespace TrackedSettings

open Operation

/-! ## Operations that nobody disturbs -/

/-- Whatever is replied and whatever becomes of what is shared, the operation comes to an end, and
`post` holds of the answers it has heard, of its own answer and of the workspace that it leaves. -/
def Progress.Concludes {α : Type} : Progress α → (List Answer → α → Workspace → Prop) → Prop
  | finished a w, post => post [] a w
  | waiting call w resume, post => ∀ reply shared,
      (resume reply { w with shared }).Concludes fun heard => post (⟨call, reply⟩ :: heard)

/-- None of the answers brought anything, and none of them was a failure. -/
def Uneventful (heard : List Answer) : Prop :=
  ∀ a ∈ heard, a.brings = none ∧ a.failed = false

theorem uneventful_nil : Uneventful [] :=
  fun _ impossible => nomatch impossible

theorem uneventful_singleton {a : Answer} (brings : a.brings = none) (fine : a.failed = false) :
    Uneventful [a] := by
  intro other member
  rw [List.mem_singleton.mp member]
  exact ⟨brings, fine⟩

theorem Uneventful.append {before after : List Answer} (first : Uneventful before)
    (second : Uneventful after) : Uneventful (before ++ after) := by
  intro a member
  rcases List.mem_append.mp member with early | late
  · exact first a early
  · exact second a late

theorem Uneventful.not_failed {heard : List Answer} (uneventful : Uneventful heard) :
    ¬ Failed heard := by
  rintro ⟨a, member, fails⟩
  rw [(uneventful a member).2] at fails
  cases fails

namespace Progress.Concludes

variable {α β : Type} {p : Progress α} {post post' : List Answer → α → Workspace → Prop}

theorem mono (concludes : p.Concludes post)
    (weaker : ∀ heard a w, post heard a w → post' heard a w) : p.Concludes post' := by
  induction p generalizing post post' with
  | finished a w => exact weaker _ _ _ concludes
  | waiting call w resume ih =>
      exact fun reply shared => ih reply _ (concludes reply shared) fun heard => weaker _

theorem and (first : p.Concludes post) (second : p.Concludes post') :
    p.Concludes fun heard a w => post heard a w ∧ post' heard a w := by
  induction p generalizing post post' with
  | finished a w => exact ⟨first, second⟩
  | waiting call w resume ih =>
      exact fun reply shared => ih reply _ (first reply shared) (second reply shared)

/-- What is heard in the first part comes before what is heard in the second. -/
theorem andThen {next : α → Operation β} {post' : List Answer → β → Workspace → Prop}
    (first : p.Concludes post)
    (second : ∀ before a w, post before a w →
      (next a w).Concludes fun heard => post' (before ++ heard)) :
    (p.andThen next).Concludes post' := by
  induction p generalizing post post' with
  | finished a w => exact second [] a w first
  | waiting call w resume ih =>
      exact fun reply shared => ih reply _ (first reply shared) fun before => second _

theorem andThen_pure {f : α → β} {post' : List Answer → β → Workspace → Prop}
    (first : p.Concludes fun heard a w => post' heard (f a) w) :
    (p.andThen fun a => (pure (f a) : Operation β)).Concludes post' := by
  refine first.andThen fun before a w holds => ?_
  change post' (before ++ []) (f a) w
  rwa [List.append_nil]

end Progress.Concludes

theorem Operation.map_concludes {α β : Type} {f : α → β} {op : Operation α} {w : Workspace}
    {post : List Answer → β → Workspace → Prop}
    (concludes : (op w).Concludes fun heard a w' => post heard (f a) w') :
    ((f <$> op) w).Concludes post := by
  rw [map_eq_pure_bind]
  exact concludes.andThen_pure

/-! ## What the first look leaves -/

/-- Nothing has become of the copies but that a topic may have lost its tracker and its copy. -/
structure Copies.Pruned (topic : Topic) (c c' : Copies) : Prop where
  noTracker : ∀ (other : Topic) (t : Tracker), c'.trackers[other]? = some t →
    c.trackers[other]? = some t
  noCopy : ∀ other copy, c'.find? other = some copy → c.find? other = some copy
  elsewhere : ∀ other, other ≠ topic → c'.trackers[other]? = c.trackers[other]? ∧
    c'.find? other = c.find? other

theorem Copies.Pruned.refl (topic : Topic) (c : Copies) : Pruned topic c c :=
  ⟨fun _ _ found => found, fun _ _ found => found, fun _ _ => ⟨rfl, rfl⟩⟩

theorem Copies.Put.pruned {topic : Topic} {c c' : Copies} (put : Put topic none none c c') :
    Pruned topic c c' where
  noTracker other t found := by
    by_cases own : other = topic
    · rw [own, put.tracker] at found
      cases found
    · rwa [← put.trackers other own]
  noCopy other copy found := by
    by_cases own : other = topic
    · rw [own, put.copy] at found
      cases found
    · rwa [← put.copies other own]
  elsewhere other differs := ⟨put.trackers other differs, put.copies other differs⟩

namespace Workspace

variable {w w' : Workspace} {topic : Topic}

theorem validate_pruned (w : Workspace) (topic : Topic) :
    w.copies.Pruned topic (w.validate topic).2.copies := by
  have looked := w.validate_looked topic
  generalize w.validate topic = result at looked
  obtain ⟨verdict, w'⟩ := result
  cases looked with
  | absent | current => exact .refl _ _
  | moved evicted => exact evicted.copies.pruned
  | broken evicted => exact evicted.copies.pruned

theorem copies_evict (w : Workspace) (shared : Shared) (topic : Topic) :
    (evict { w with shared } topic).copies = (w.evict topic).copies := by
  have dropped : (dropTracker { w with shared } topic).copies = (w.dropTracker topic).copies := by
    simp only [dropTracker]
    cases w.copies.trackers[topic]? <;> rfl
  cases topic <;> simp only [evict, dropCopy, dropped]

theorem copies_validate (w : Workspace) (topic : Topic) :
    (w.validate topic).2.copies =
      if (w.glance topic).evicts then (w.evict topic).copies else w.copies := by
  unfold validate glance Tracker.check
  cases w.copies.trackers[topic]? with
  | none => rfl
  | some t =>
      cases look : t.look w.shared.slots with
      | error e =>
          simp only [look, Verdict.evicts, ↓reduceIte]
          exact w.copies_evict _ topic
      | ok generation =>
          simp only [look]
          by_cases same : generation = t.generation
          · simp only [same, ↓reduceIte]
            rfl
          · simp only [same, Verdict.evicts, ↓reduceIte]
            exact w.copies_evict _ topic

/-- The copies right after a read has looked at its topic, if it looks at all. -/
def examined (w : Workspace) (keeps : Bool) (topic : Topic) : Copies :=
  if keeps then (w.validate topic).2.copies else w.copies

theorem examined_of_current {t : Tracker} (current : w.Current topic t) :
    w.examined true topic = w.copies := by
  change (w.validate topic).2.copies = w.copies
  rw [copies_validate, current.glance]
  rfl

theorem examined_note (w : Workspace) (level : Level) (text : String) (keeps : Bool)
    (topic : Topic) : (w.note level text).examined keeps topic = w.examined keeps topic := by
  have evicted : ((w.note level text).evict topic).copies = (w.evict topic).copies :=
    w.copies_evict _ topic
  unfold examined
  rw [copies_validate, copies_validate, evicted]
  rfl

/-- Nothing has become of the copies but what the first look at a topic has made of them. -/
structure LeftAsFound (w : Workspace) (keeps : Bool) (topic : Topic) (w' : Workspace) : Prop where
  copies : w'.copies = if keeps then (w.validate topic).2.copies else w.copies
  pruned : w.copies.Pruned topic w'.copies

theorem leftAsFound {keeps : Bool} (copies : w'.copies = w.examined keeps topic) :
    w.LeftAsFound keeps topic w' := by
  refine ⟨copies, ?_⟩
  rw [copies, examined]
  split
  · exact w.validate_pruned topic
  · exact .refl _ _

end Workspace

/-! ## Asking the store -/

/-- Nothing of an answer with such a grant is kept on this footing. -/
def Footing.keepsNothing : Footing → Option Grant → Bool
  | outside, _ | untracked, none => true
  | vouched _, _ | untracked, some _ => false

theorem Workspace.keepsNothing_of_unvouched {w : Workspace} {keeps : Bool} {topic : Topic}
    (unvouched : keeps = true → ∀ generation, w.glance topic ≠ .current generation) :
    (w.footing keeps topic).keepsNothing none = true := by
  unfold footing
  cases keeps with
  | false => rfl
  | true =>
      cases shown : w.glance topic with
      | current generation => exact absurd shown (unvouched rfl generation)
      | moved | broken | absent => rfl

theorem Answer.failed_of_brings {a : Answer} {brought : Copy × Option Grant}
    (brings : a.brings = some brought) : a.failed = false := by
  unfold Answer.brings at brings
  split at brings
  · rfl
  · rfl
  · rfl
  · cases brings

/-- How it ends to ask the store, when `found` is kept before: either that has failed, and it is
kept as before, or one answer has brought what the read shows. -/
inductive Sought {α : Type} (footing : Footing) (shows : Answer → α → Prop) (nothing : α)
    (found : Copies) (heard : List Answer) (result : α) (w' : Workspace) : Prop where
  | missed (failed : Failed heard) (silent : ∀ a ∈ heard, a.brings = none)
      (missing : result = nothing) (copies : w'.copies = found)
  | brought {a : Answer} {copy : Copy} {grant : Option Grant} (fine : ¬ Failed heard)
      (member : a ∈ heard) (brings : a.brings = some (copy, grant))
      (only : ∀ other ∈ heard, other.brings ≠ none → other = a) (shown : shows a result)
      (copies : footing.keepsNothing grant = true → w'.copies = found)
      (released : footing = .outside → ∀ g, grant = some g → ∃ shared,
        w'.shared = g.handle.release shared)

namespace Sought

variable {α β : Type} {footing : Footing} {shows : Answer → α → Prop} {nothing result : α}
  {found : Copies} {heard before after : List Answer} {w' : Workspace} {a : Answer}

/-- What was heard before does not matter, if it brought nothing. -/
theorem prepend (uneventful : Uneventful before)
    (sought : Sought footing shows nothing found heard result w') :
    Sought footing shows nothing found (before ++ heard) result w' := by
  cases sought with
  | missed failed silent missing copies =>
      obtain ⟨a, member, fails⟩ := failed
      refine .missed ⟨a, List.mem_append_right _ member, fails⟩ ?_ missing copies
      intro a member
      rcases List.mem_append.mp member with early | late
      · exact (uneventful a early).1
      · exact silent a late
  | brought fine member brings only shown copies released =>
      refine .brought ?_ (List.mem_append_right _ member) brings ?_ shown copies released
      · rintro ⟨a, member, fails⟩
        rcases List.mem_append.mp member with early | late
        · exact uneventful.not_failed ⟨a, early, fails⟩
        · exact fine ⟨a, late, fails⟩
      · intro other member some
        rcases List.mem_append.mp member with early | late
        · exact absurd (uneventful other early).1 some
        · exact only other late some

theorem of_failure (fails : a.failed = true) (uneventful : Uneventful after)
    (missing : result = nothing) (copies : w'.copies = found) :
    Sought footing shows nothing found (a :: after) result w' := by
  refine .missed ⟨a, List.mem_cons_self, fails⟩ ?_ missing copies
  intro other member
  rcases List.mem_cons.mp member with rfl | later
  · cases brings : other.brings with
    | none => rfl
    | some brought =>
        rw [Answer.failed_of_brings brings] at fails
        cases fails
  · exact (uneventful other later).1

theorem of_brought {copy : Copy} {grant : Option Grant} (brings : a.brings = some (copy, grant))
    (uneventful : Uneventful after) (shown : shows a result)
    (copies : footing.keepsNothing grant = true → w'.copies = found)
    (released : footing = .outside → ∀ g, grant = some g → ∃ shared,
      w'.shared = g.handle.release shared) :
    Sought footing shows nothing found (a :: after) result w' := by
  refine .brought ?_ List.mem_cons_self brings ?_ shown copies released
  · rintro ⟨other, member, fails⟩
    rcases List.mem_cons.mp member with rfl | later
    · rw [Answer.failed_of_brings brings] at fails
      cases fails
    · exact uneventful.not_failed ⟨other, later, fails⟩
  · intro other member some
    rcases List.mem_cons.mp member with same | later
    · exact same
    · exact absurd (uneventful other later).1 some

theorem map {shows' : Answer → β → Prop} (f : α → β)
    (shown : ∀ a, shows a result → shows' a (f result))
    (sought : Sought footing shows nothing found heard result w') :
    Sought footing shows' (f nothing) found heard (f result) w' := by
  cases sought with
  | missed failed silent missing copies =>
      exact .missed failed silent (congrArg f missing) copies
  | brought fine member brings only shows copies released =>
      exact .brought fine member brings only (shown _ shows) copies released

end Sought

theorem Progress.Concludes.prepend {α : Type} {p : Progress α} {footing : Footing}
    {shows : Answer → α → Prop} {nothing : α} {found : Copies} {before : List Answer}
    (uneventful : Uneventful before) (sought : p.Concludes (Sought footing shows nothing found)) :
    p.Concludes fun heard => Sought footing shows nothing found (before ++ heard) :=
  sought.mono fun _ _ _ rest => rest.prepend uneventful

namespace Cache

variable {c : Cache} {w : Workspace} {topic : Topic}

/-! ## Parts of operations -/

theorem notify_concludes (event : Event) :
    (notify event w).Concludes fun heard _ w' => Uneventful heard ∧ w'.copies = w.copies := by
  exact fun _ _ => ⟨uneventful_singleton rfl rfl, rfl⟩

theorem remoteError_concludes (topic : Topic) (fault : Fault) :
    (c.remoteError topic fault w).Concludes fun heard _ w' =>
      Uneventful heard ∧ w'.copies = w.copies :=
  notify_concludes _

theorem report_concludes (topic : Topic) (verdict : Verdict) :
    (c.report topic verdict w).Concludes fun heard _ w' =>
      Uneventful heard ∧ w'.copies = w.copies := by
  cases verdict with
  | moved => exact notify_concludes _
  | broken e => exact notify_concludes _
  | current | absent => exact ⟨uneventful_nil, rfl⟩

theorem provider_concludes (caller : Caller) :
    (c.provider caller w).Concludes fun heard found w' => w'.copies = w.copies ∧
      match found with
      | .ok _ => Uneventful heard
      | .error _ => ∃ a, heard = [a] ∧ a.failed = true := by
  unfold provider
  simp only [bind_apply, locked_apply]
  cases w.store with
  | some store => exact ⟨rfl, uneventful_nil⟩
  | none =>
      intro reply shared
      cases reply with
      | error e => exact ⟨rfl, _, rfl, rfl⟩
      | ok store => exact ⟨rfl, uneventful_singleton rfl rfl⟩

variable {save : Workspace → Workspace}

theorem saveGranted_concludes (topic : Topic) (g : Grant) :
    (c.saveGranted topic g save w).Concludes fun heard _ _ => Uneventful heard := by
  unfold saveGranted
  simp only [bind_apply, locked_apply]
  generalize w.saveUnder (.ofGrant topic g) save = result
  obtain ⟨verdict, w'⟩ := result
  cases verdict with
  | moved | current | absent => exact uneventful_nil
  | broken e => exact (notify_concludes (w := w') (.trackerError topic e)).mono fun _ _ _ h => h.1

theorem receive_concludes (topic : Topic) (footing : Footing) (grant : Option Grant) :
    (c.receive topic footing grant save w).Concludes fun heard _ w' => Uneventful heard ∧
      (footing.keepsNothing grant = true → w'.copies = w.copies) ∧
      (footing = .outside → ∀ g, grant = some g → w'.shared = g.handle.release w.shared) := by
  cases footing with
  | outside =>
      cases grant with
      | none => exact ⟨uneventful_nil, fun _ => rfl, fun _ _ => nofun⟩
      | some g =>
          refine ⟨uneventful_nil, fun _ => rfl, fun _ => ?_⟩
          rintro _ ⟨⟩
          rfl
  | untracked =>
      cases grant with
      | none => exact ⟨uneventful_nil, fun _ => rfl, nofun⟩
      | some g => exact (saveGranted_concludes topic g).mono fun _ _ _ h => ⟨h, nofun, nofun⟩
  | vouched generation =>
      cases grant with
      | none => exact (report_concludes topic _).mono fun _ _ _ h => ⟨h.1, nofun, nofun⟩
      | some g => exact (saveGranted_concludes topic g).mono fun _ _ _ h => ⟨h, nofun, nofun⟩

/-- What a read shows has come with the answer that it goes on with. -/
theorem receive_sought {α : Type} {shows : Answer → α → Prop} {nothing result : α} {a : Answer}
    {copy : Copy} {grant : Option Grant} (brings : a.brings = some (copy, grant))
    (shown : shows a result) (topic : Topic) (footing : Footing) :
    (c.receive topic footing grant save w).Concludes fun heard _ w' =>
      Sought footing shows nothing w.copies (a :: heard) result w' :=
  (receive_concludes topic footing grant).mono fun _ _ _ ⟨uneventful, copies, released⟩ =>
    .of_brought brings uneventful shown copies fun outside g same => ⟨_, released outside g same⟩

/-- A failure is told to the observer, and there is no answer. -/
theorem remoteError_sought {α : Type} {footing : Footing} {shows : Answer → α → Prop}
    {nothing : α} {a : Answer} (failed : a.failed = true) (topic : Topic) (fault : Fault) :
    (c.remoteError topic fault w).Concludes fun heard _ w' =>
      Sought footing shows nothing w.copies (a :: heard) nothing w' :=
  (remoteError_concludes topic fault).mono fun _ _ _ ⟨uneventful, copies⟩ =>
    .of_failure failed uneventful rfl copies

/-- A read either has its answer from a copy, or it looks at its topic and knows its footing. -/
theorem standing_concludes {α : Type} (keeps : Bool) (topic : Topic) (look : Copies → Option α) :
    (c.standing keeps topic look w).Concludes fun heard standing w' =>
      Uneventful heard ∧ w'.copies = w.examined keeps topic ∧
      match standing with
      | .answered data => keeps = true ∧ look w'.copies = some data
      | .pending footing => footing = w.footing keeps topic := by
  rcases c.standing_eq keeps topic look w with ⟨data, t, rfl, current, shown, same⟩ | same
  · rw [same]
    exact ⟨uneventful_nil, (Workspace.examined_of_current current).symm, rfl, shown⟩
  · rw [same]
    refine Progress.Concludes.andThen_pure ((report_concludes topic _).mono ?_)
    intro heard _ w' told
    refine ⟨told.1, told.2.trans ?_, rfl⟩
    cases keeps <;> rfl

end Cache

/-! ## Reads -/

/-- The answer brings this value of the key. -/
def Answer.ShowsValue (key : String) (a : Answer) (v : Value) : Prop :=
  ∃ grant, a.brings = some (.value key v, grant)

/-- The answer brings a listing with these entries under the names. -/
def Answer.ShowsListing (stem : String) (names : List String) (a : Answer) (result : Entries) :
    Prop :=
  ∃ store request listing, a = ⟨.store store (.list stem request), .ok (some listing)⟩ ∧
    result = (listing.entries.strip stem).choose names

namespace Cache

variable {c : Cache} {w : Workspace}

theorem queryValue_concludes (store : StoreId) (key : String) (user : UserId) (footing : Footing) :
    (c.queryValue store key user footing w).Concludes
      (Sought footing (Answer.ShowsValue key) none w.copies) := by
  intro reply shared
  cases reply with
  | error e => exact (remoteError_sought rfl _ _).andThen_pure
  | ok v =>
      have sought : (c.receive (.key key) footing none (c.keepValue key " from query" v)
          { w with shared }).Concludes fun heard _ w' =>
            Sought footing (Answer.ShowsValue key) none w.copies
              (⟨.store store (.query key { user }), .ok v⟩ :: heard) v w' :=
        receive_sought rfl ⟨none, rfl⟩ _ _
      cases footing <;> exact sought.andThen_pure

theorem fetchValue_concludes (key : String) (user : UserId) (footing : Footing) :
    (c.fetchValue key user footing w).Concludes
      (Sought footing (Answer.ShowsValue key) none w.copies) := by
  refine (provider_concludes c.caller).andThen fun before found w' ⟨copies, looked⟩ => ?_
  rw [← copies]
  cases found with
  | error fault =>
      obtain ⟨a, rfl, failed⟩ := looked
      exact (remoteError_sought failed _ _).andThen_pure
  | ok store =>
      refine .prepend looked fun _ told => .prepend (uneventful_singleton rfl rfl) ?_
      intro reply shared
      match reply with
      | .error e =>
          refine .prepend (uneventful_singleton rfl rfl) ((remoteError_concludes _ _).andThen ?_)
          intro before _ w'' ⟨uneventful, same⟩
          rw [← show w''.copies = w'.copies from same]
          exact .prepend uneventful (queryValue_concludes store key user footing)
      | .ok none =>
          exact .prepend (uneventful_singleton rfl rfl)
            (queryValue_concludes store key user footing)
      | .ok (some reading) => exact (receive_sought rfl ⟨_, rfl⟩ _ _).andThen_pure

/-- A read of a key is answered from a copy or refused, and nothing eventful happens, or else it
ends as it ends to ask the store. -/
theorem value_concludes (key : String) (user : UserId) :
    (c.value key user w).Concludes fun heard result w' =>
      (Uneventful heard ∧ w'.copies = w.examined (c.keepsFor user) (.key key) ∧
        (c.keepsFor user = true ∨
          c.access.readable key c.caller = false ∧ result = .error (.denied key))) ∨
      Sought (w.footing (c.keepsFor user) (.key key))
        (fun a result => ∃ v, a.ShowsValue key v ∧ result = .ok v) (.ok none)
        (w.examined (c.keepsFor user) (.key key)) heard result w' := by
  let noted := c.jot .debug s!"GET({key})" w
  have found : noted.examined (c.keepsFor user) (.key key) =
      w.examined (c.keepsFor user) (.key key) := w.examined_note _ _ _ _
  have stands : (c.standing (c.keepsFor user) (.key key) (·.values[key]?) noted).Concludes _ :=
    standing_concludes _ _ _
  refine stands.andThen fun before standing w' ⟨uneventful, copies, stands⟩ => ?_
  rw [found] at copies
  cases standing with
  | answered v =>
      exact fun _ shared =>
        Or.inl ⟨uneventful.append (uneventful_singleton rfl rfl), copies, Or.inl stands.1⟩
  | pending footing =>
      subst stands
      simp only
      split
      · rw [← copies]
        refine map_concludes ((fetchValue_concludes key user _).mono ?_)
        intro heard v w'' sought
        exact Or.inr ((sought.map Except.ok fun a shows => ⟨v, shows, rfl⟩).prepend uneventful)
      · next unreadable =>
        exact Or.inl ⟨by rwa [List.append_nil], copies,
          Or.inr ⟨Bool.eq_false_of_not_eq_true unreadable, rfl⟩⟩

theorem fetchListing_concludes (store : StoreId) (stem : String) (names : List String)
    (footing : Footing) :
    (c.fetchListing store stem names footing w).Concludes
      (Sought footing (Answer.ShowsListing stem names) ∅ w.copies) := by
  refine fun _ told => .prepend (uneventful_singleton rfl rfl) ?_
  intro reply shared
  match reply with
  | .error e => exact (remoteError_sought rfl _ _).andThen_pure
  | .ok none => exact .of_failure rfl uneventful_nil rfl rfl
  | .ok (some listing) =>
      exact (receive_sought rfl ⟨_, _, listing, rfl, rfl⟩ _ _).andThen_pure

theorem listing_concludes (stem : String) (names : List String) :
    (c.listing stem names w).Concludes fun heard result w' =>
      (Uneventful heard ∧ w'.copies = w.examined (!c.caller.atStore) (.under stem) ∧
        (!c.caller.atStore) = true) ∨
      Sought (w.footing (!c.caller.atStore) (.under stem)) (Answer.ShowsListing stem names) ∅
        (w.examined (!c.caller.atStore) (.under stem)) heard result w' := by
  let noted := c.jot .debug s!"GET_PREFIX({stem}); names={names.length}" w
  let look (copies : Copies) : Option Entries := copies.listings[stem]?.map (·.choose names)
  have found : noted.examined (!c.caller.atStore) (.under stem) =
      w.examined (!c.caller.atStore) (.under stem) := w.examined_note _ _ _ _
  have stands : (c.standing (!c.caller.atStore) (.under stem) look noted).Concludes _ :=
    standing_concludes _ _ _
  refine stands.andThen fun before standing w' ⟨uneventful, copies, stands⟩ => ?_
  rw [found] at copies
  cases standing with
  | answered entries =>
      exact fun _ shared =>
        Or.inl ⟨uneventful.append (uneventful_singleton rfl rfl), copies, stands.1⟩
  | pending footing =>
      subst stands
      rw [← copies]
      refine Progress.Concludes.mono (.prepend uneventful ?_) fun _ _ _ => Or.inr
      refine (provider_concludes c.caller).andThen fun before found w'' ⟨same, looked⟩ => ?_
      rw [← same]
      cases found with
      | error fault =>
          obtain ⟨a, rfl, failed⟩ := looked
          exact (remoteError_sought failed _ _).andThen_pure
      | ok store =>
          refine .prepend looked fun lists shared => ?_
          cases lists with
          | true =>
              exact .prepend (uneventful_singleton rfl rfl)
                (fetchListing_concludes store stem names _)
          | false => exact .of_failure rfl uneventful_nil rfl rfl

/-! ## Failures are not kept -/

/-- A read that fails, and a query that no current tracker stands behind, leave the copies as the
first look has left them. Without an answer of the store there is none, but never an error. -/
theorem failed_reads_keep_nothing (c : Cache) (w : Workspace) :
    (∀ key user, (c.value key user w).Concludes fun heard result w' =>
      (Failed heard → result = .ok none ∧ w.LeftAsFound (c.keepsFor user) (.key key) w') ∧
      ∀ store request v, ⟨.store store (.query key request), .ok v⟩ ∈ heard →
        (c.keepsFor user = true → ∀ generation, (w.validate (.key key)).1 ≠ .current generation) →
          result = .ok v ∧ w.LeftAsFound (c.keepsFor user) (.key key) w') ∧
    ∀ stem names, (c.listing stem names w).Concludes fun heard result w' =>
      Failed heard → result = ∅ ∧ w.LeftAsFound (!c.caller.atStore) (.under stem) w' := by
  constructor
  · refine fun key user => (value_concludes key user).mono fun heard result w' ends =>
      ⟨fun failed => ?_, fun store request v member unvouched => ?_⟩
    · rcases ends with ⟨uneventful, -⟩ | sought
      · exact absurd failed uneventful.not_failed
      · cases sought with
        | missed _ _ missing copies => exact ⟨missing, w.leftAsFound copies⟩
        | brought fine => exact absurd failed fine
    · have brings : Answer.brings ⟨.store store (.query key request), .ok v⟩ =
          some (.value key v, none) := rfl
      rcases ends with ⟨uneventful, -⟩ | sought
      · rw [(uneventful _ member).1] at brings
        cases brings
      · cases sought with
        | missed _ silent =>
            rw [silent _ member] at brings
            cases brings
        | brought _ _ brings' only shown copies =>
            -- no other answer has brought anything, so it is the query's that the read shows
            have same := only _ member (by rw [brings]; exact Option.some_ne_none _)
            subst same
            cases brings'
            obtain ⟨v', ⟨grant, shows⟩, rfl⟩ := shown
            cases shows
            refine ⟨rfl, w.leftAsFound (copies ?_)⟩
            rw [w.validate_glance] at unvouched
            exact Workspace.keepsNothing_of_unvouched unvouched
  · refine fun stem names => (listing_concludes stem names).mono ?_
    intro heard result w' ends failed
    rcases ends with ⟨uneventful, -⟩ | sought
    · exact absurd failed uneventful.not_failed
    · cases sought with
      | missed _ _ missing copies => exact ⟨missing, w.leftAsFound copies⟩
      | brought fine => exact absurd failed fine

/-- A tracker is stale, and the store only answers the plain query. -/
theorem failed_reads_keep_nothing_on_fallback :
    let w : Workspace :=
      { Desk.forgotten.workspace with shared := { slots := { boards := #[#[1]], issued := 1 } } }
    ∃ (result : Except Fault Value) (w' : Workspace), w.isTracked (.key "volume") = true ∧
      w'.isTracked (.key "volume") = false ∧ result = .ok (some "8") ∧
        w.LeftAsFound true (.key "volume") w' := by
  intro w
  let c : Cache := { uri := "settings:main" }
  have begun := (failed_reads_keep_nothing c w).1 "volume" 0
  have stale := begun () w.shared
  have told := stale () w.shared
  have got := told (.ok none) w.shared
  have answered := got (.ok (some "8")) w.shared
  have kept := answered.2 0 { user := 0 } (some "8") (by simp)
    fun _ _ impossible => nomatch impossible
  exact ⟨_, _, by decide +kernel, by decide +kernel, kept⟩

end Cache

end TrackedSettings
