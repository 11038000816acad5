import TrackedSettings.Proofs.Undisturbed

/-! # What a read says and asks

While nobody else works on the cache's own copies, all that a read calls out follows from what its
first look shows and from the replies. The observer hears what the look has found, and then the read
goes one of few ways: a copy answers it, or it may not ask, or the store is not found or cannot list,
or it tells of a fetch and asks. Each failure is told once, right after the reply, and whatever an
answer makes of the tracker is told last.
-/

namespace TrackedSettings

open Operation

/-! ## Traces -/

/-- A call, the reply to it, and what is shared when the reply comes. -/
structure Exchange where
  call : Outcall
  reply : call.Reply
  shared : Shared

/-- Whatever is replied and whatever becomes of what is shared, the operation comes to an end, and
`post` holds of all its exchanges, of its answer and of the workspace that it leaves. -/
def Progress.Traces {α : Type} : Progress α → (List Exchange → α → Workspace → Prop) → Prop
  | finished a w, post => post [] a w
  | waiting call w resume, post => ∀ reply shared,
      (resume reply { w with shared }).Traces fun trace => post (⟨call, reply, shared⟩ :: trace)

namespace Progress.Traces

variable {α β : Type} {p : Progress α} {post post' : List Exchange → α → Workspace → Prop}

theorem mono (traces : p.Traces post)
    (weaker : ∀ trace a w, post trace a w → post' trace a w) : p.Traces post' := by
  induction p generalizing post post' with
  | finished a w => exact weaker _ _ _ traces
  | waiting call w resume ih =>
      exact fun reply shared => ih reply _ (traces reply shared) fun trace => weaker _

/-- What is exchanged in the first part comes before what is exchanged in the second. -/
theorem andThen {next : α → Operation β} {post' : List Exchange → β → Workspace → Prop}
    (first : p.Traces post)
    (second : ∀ before a w, post before a w →
      (next a w).Traces fun trace => post' (before ++ trace)) :
    (p.andThen next).Traces post' := by
  induction p generalizing post post' with
  | finished a w => exact second [] a w first
  | waiting call w resume ih =>
      exact fun reply shared => ih reply _ (first reply shared) fun before => second _

/-- To end with an answer exchanges nothing more. -/
theorem answering {f : α → β} {post' : List Exchange → β → Workspace → Prop} (first : p.Traces post)
    (second : ∀ trace a w, post trace a w → post' trace (f a) w) :
    (p.andThen fun a => (pure (f a) : Operation β)).Traces post' := by
  refine first.andThen fun before a w holds => ?_
  change post' (before ++ []) (f a) w
  rw [List.append_nil]
  exact second before a w holds

end Progress.Traces

theorem Operation.map_traces {α β : Type} {f : α → β} {op : Operation α} {w : Workspace}
    {post : List Exchange → β → Workspace → Prop}
    (traces : (op w).Traces fun trace a w' => post trace (f a) w') : ((f <$> op) w).Traces post := by
  rw [map_eq_pure_bind]
  exact traces.answering fun _ _ _ holds => holds

/-! ## What the observer is told -/

/-- The observer is told this, if anything, and nobody is asked. -/
def Tells (event? : Option Event) (trace : List Exchange) : Prop :=
  trace.map Exchange.call = (event?.map Outcall.notify).toList

/-- What the observer is told of a look at a topic's tracker. -/
def Verdict.tells (topic : Topic) : Verdict → Option Event
  | moved => some (.stale topic)
  | broken e => some (.trackerError topic e)
  | current _ | absent => none

/-- What the observer is told of a read's first look. -/
def Workspace.tells (w : Workspace) (keeps : Bool) (topic : Topic) : Option Event :=
  if keeps then (w.glance topic).tells topic else none

/-- What a copy under a current tracker answers. -/
def Workspace.recalls {α : Type} (w : Workspace) (keeps : Bool) (topic : Topic)
    (look : Copies → Option α) : Option α :=
  match keeps, w.glance topic with
  | true, .current _ => look w.copies
  | _, _ => none

theorem Workspace.recalls_map {α β : Type} (w : Workspace) (keeps : Bool) (topic : Topic)
    (look : Copies → Option α) (f : α → β) :
    w.recalls keeps topic (fun copies => (look copies).map f) =
      (w.recalls keeps topic look).map f := by
  unfold recalls
  cases keeps with
  | false => rfl
  | true => cases w.glance topic <;> rfl

/-- What the observer is told when a grant has come: nothing, even if its slot has moved already,
unless its slot cannot be read. -/
def Workspace.tellsUnder (w : Workspace) (topic : Topic) (g : Grant) : Option Event :=
  match (w.replace (.ofGrant topic g)).glance topic with
  | .broken e => some (.trackerError topic e)
  | .current _ | .moved | .absent => none

/-- What the observer is told when a read goes on with an answer. -/
def Footing.tells (footing : Footing) (a : Answer) (w : Workspace) : Option Event :=
  match footing, a.brings with
  | .outside, _ | _, none | .untracked, some (_, none) => none
  | .vouched _, some (copy, some g) | .untracked, some (copy, some g) =>
      w.tellsUnder copy.topic g
  | .vouched _, some (copy, none) => (w.glance copy.topic).tells copy.topic

/-- What becomes of the copies when a copy has come with a grant. -/
def Workspace.LeftUnder (w : Workspace) (copy : Copy) (g : Grant) (left : Copies) : Prop :=
  match (w.replace (.ofGrant copy.topic g)).glance copy.topic with
  | .current _ => w.copies.Put copy.topic (some (.ofGrant copy.topic g)) (some copy) left
  | .moved | .broken _ | .absent => w.copies.Put copy.topic none none left

/-- What becomes of the copies when a copy has come without a grant, and a tracker that had seen
`generation` vouched for the read. -/
def Workspace.LeftAt (w : Workspace) (copy : Copy) (generation : Int64) (left : Copies) : Prop :=
  match w.glance copy.topic with
  | .current now =>
      if now = generation then
        w.copies.Put copy.topic w.copies.trackers[copy.topic]? (some copy) left
      else left = w.copies
  | .absent => left = w.copies
  | .moved | .broken _ => w.copies.Put copy.topic none none left

/-- What becomes of the copies when a read goes on with an answer. -/
def Footing.Leaves (footing : Footing) (a : Answer) (w : Workspace) (left : Copies) : Prop :=
  match footing, a.brings with
  | .outside, _ | _, none | .untracked, some (_, none) => left = w.copies
  | .vouched _, some (copy, some g) | .untracked, some (copy, some g) => w.LeftUnder copy g left
  | .vouched generation, some (copy, none) => w.LeftAt copy generation left

theorem Workspace.store_validate (w : Workspace) (topic : Topic) :
    (w.validate topic).2.store = w.store := by
  have evicted : ∀ shared : Shared, (evict { w with shared } topic).store = w.store := by
    intro shared
    cases topic <;> exact store_dropTracker _ _
  unfold validate Tracker.check
  cases w.copies.trackers[topic]? with
  | none => rfl
  | some t =>
      cases look : t.look w.shared.slots with
      | error e =>
          simp only [look]
          exact evicted _
      | ok generation =>
          by_cases same : generation = t.generation
          · simp only [look, same, ↓reduceIte]
          · simp only [look, same, ↓reduceIte]
            exact evicted _

theorem Workspace.glance_replace (w : Workspace) (t : Tracker) (topic : Topic) :
    (w.replace t).glance topic =
      (Workspace.replace { copies := w.copies, shared := w.shared } t).glance topic := by
  unfold replace dropTracker
  cases w.copies.trackers[t.topic]? <;> rfl

/-- Which store is known does not matter when an answer comes. -/
theorem Footing.tells_eq (footing : Footing) (a : Answer) (w : Workspace) :
    footing.tells a w = footing.tells a { copies := w.copies, shared := w.shared } := by
  unfold tells Workspace.tellsUnder
  simp only [w.glance_replace]
  rfl

theorem Footing.leaves_iff (footing : Footing) (a : Answer) (w : Workspace) (left : Copies) :
    footing.Leaves a w left ↔ footing.Leaves a { copies := w.copies, shared := w.shared } left := by
  unfold Leaves Workspace.LeftUnder
  simp only [w.glance_replace]
  rfl

/-! ## Dialogues -/

/-- The ways that a read can go. -/
inductive Way where
  | hit
  | denied
  | unresolved
  /-- The store cannot list. -/
  | unable
  | fetched
deriving DecidableEq, Repr

/-- Nothing has become of what the cache keeps and knows. -/
structure Workspace.Unmoved (w w' : Workspace) : Prop where
  copies : w'.copies = w.copies
  store : w'.store = w.store

/-- A read is answered by a copy and tells of the hit, or it tells what its look has found and goes
on by `asks`. -/
inductive Dialogue {α β : Type} (w : Workspace) (keeps : Bool) (topic : Topic)
    (look : Copies → Option α) (shows : α → β) (asks : Way → List Exchange → β → Workspace → Prop) :
    Way → List Exchange → β → Workspace → Prop where
  | hit {data : α} {told : List Exchange} {left : Workspace}
      (recalls : w.recalls keeps topic look = some data)
      (tells : Tells (some (.hit topic)) told) (leaves : w.Unmoved left) :
      Dialogue w keeps topic look shows asks .hit told (shows data) left
  | asked {way : Way} {looked trace : List Exchange} {result : β} {left : Workspace}
      (nothing : w.recalls keeps topic look = none) (tells : Tells (w.tells keeps topic) looked)
      (goesOn : asks way trace result left) :
      Dialogue w keeps topic look shows asks way (looked ++ trace) result left

namespace Cache

/-- The store is known, or the resolver is asked for it once. -/
inductive Finding (c : Cache) (known : Option StoreId) :
    List Exchange → Except Fault StoreId → Prop where
  | known {store : StoreId} (same : known = some store) : Finding c known [] (.ok store)
  | found (unknown : known = none) (store : StoreId) (shared : Shared) :
      Finding c known [⟨.resolve c.uri c.caller, .ok store, shared⟩] (.ok store)
  | failed (unknown : known = none) (e : StoreError) (shared : Shared) :
      Finding c known [⟨.resolve c.uri c.caller, .error e, shared⟩]
        (.error (.unresolved c.uri (.store e)))

section Asking

variable (store : StoreId) (footing : Footing) (found : Copies)

/-- A plain query of a key. -/
inductive ValueQueried (key : String) (user : UserId) :
    List Exchange → Value → Copies → Prop where
  | answered (v : Value) (shared : Shared) {told : List Exchange} {left : Copies}
      (tells : Tells (footing.tells ⟨.store store (.query key { user }), .ok v⟩
        { copies := found, shared }) told)
      (leaves : footing.Leaves ⟨.store store (.query key { user }), .ok v⟩
        { copies := found, shared } left) :
      ValueQueried key user (⟨.store store (.query key { user }), .ok v, shared⟩ :: told) v left
  | failed (e : StoreError) (shared : Shared) {told : List Exchange} {left : Copies}
      (tells : Tells (some (.remoteError (.key key) (.remote (.store e)))) told)
      (leaves : left = found) :
      ValueQueried key user (⟨.store store (.query key { user }), .error e, shared⟩ :: told)
        none left

/-- The fast read of a key, and the query if that brings nothing. -/
inductive ValueGot (key : String) (request : ReadRequest) :
    List Exchange → Value → Copies → Prop where
  | read (reading : Reading) (shared : Shared) {told : List Exchange} {left : Copies}
      (tells : Tells (footing.tells ⟨.store store (.get key request), .ok (some reading)⟩
        { copies := found, shared }) told)
      (leaves : footing.Leaves ⟨.store store (.get key request), .ok (some reading)⟩
        { copies := found, shared } left) :
      ValueGot key request (⟨.store store (.get key request), .ok (some reading), shared⟩ :: told)
        reading.value left
  | missing (shared : Shared) {queried : List Exchange} {v : Value} {left : Copies}
      (queries : ValueQueried store footing found key request.user queried v left) :
      ValueGot key request (⟨.store store (.get key request), .ok none, shared⟩ :: queried) v left
  | failed (e : StoreError) (shared : Shared) {told queried : List Exchange} {v : Value}
      {left : Copies} (tells : Tells (some (.remoteError (.key key) (.remote (.store e)))) told)
      (queries : ValueQueried store footing found key request.user queried v left) :
      ValueGot key request
        (⟨.store store (.get key request), .error e, shared⟩ :: (told ++ queried)) v left

/-- The listing of a stem. No query follows it. -/
inductive ListingGot (stem : String) (request : ReadRequest) (names : List String) :
    List Exchange → Entries → Copies → Prop where
  | read (listing : Listing) (shared : Shared) {told : List Exchange} {left : Copies}
      (tells : Tells (footing.tells ⟨.store store (.list stem request), .ok (some listing)⟩
        { copies := found, shared }) told)
      (leaves : footing.Leaves ⟨.store store (.list stem request), .ok (some listing)⟩
        { copies := found, shared } left) :
      ListingGot stem request names
        (⟨.store store (.list stem request), .ok (some listing), shared⟩ :: told)
        ((listing.entries.strip stem).choose names) left
  | missing (shared : Shared) {left : Copies} (leaves : left = found) :
      ListingGot stem request names [⟨.store store (.list stem request), .ok none, shared⟩] ∅ left
  | failed (e : StoreError) (shared : Shared) {told : List Exchange} {left : Copies}
      (tells : Tells (some (.remoteError (.under stem) (.remote (.store e)))) told)
      (leaves : left = found) :
      ListingGot stem request names (⟨.store store (.list stem request), .error e, shared⟩ :: told)
        ∅ left

end Asking

/-- A read asks for a grant if it may keep a copy and has found no current tracker. -/
def Flags (w : Workspace) (keeps : Bool) (topic : Topic) (tracked : Bool) : Prop :=
  tracked = true ↔ keeps = true ∧ ∀ generation, (w.validate topic).1 ≠ .current generation

section Asked

variable (c : Cache) (w : Workspace)

/-- A read of a key that no copy has answered. -/
inductive ValueAsked (key : String) (user : UserId) :
    Way → List Exchange → Except Fault Value → Workspace → Prop where
  | denied {left : Workspace} (unreadable : c.access.readable key c.caller = false)
      (leaves : left.copies = w.examined (c.keepsFor user) (.key key)) (knows : left.store = w.store) :
      ValueAsked key user .denied [] (.error (.denied key)) left
  | unresolved {lookup told : List Exchange} {fault : Fault} {left : Workspace}
      (readable : c.access.readable key c.caller = true)
      (finds : c.Finding w.store lookup (.error fault))
      (tells : Tells (some (.remoteError (.key key) fault)) told)
      (leaves : left.copies = w.examined (c.keepsFor user) (.key key)) (knows : left.store = none) :
      ValueAsked key user .unresolved (lookup ++ told) (.ok none) left
  | fetched {lookup told got : List Exchange} {store : StoreId} {tracked : Bool} {v : Value}
      {left : Workspace} (readable : c.access.readable key c.caller = true)
      (finds : c.Finding w.store lookup (.ok store)) (tells : Tells (some (.fetch (.key key))) told)
      (flags : Flags w (c.keepsFor user) (.key key) tracked)
      (gets : ValueGot store (w.footing (c.keepsFor user) (.key key))
        (w.examined (c.keepsFor user) (.key key)) key { user, tracked } got v left.copies)
      (knows : left.store = some store) :
      ValueAsked key user .fetched (lookup ++ (told ++ got)) (.ok v) left

/-- A read under a stem that no copy has answered. -/
inductive ListingAsked (stem : String) (names : List String) :
    Way → List Exchange → Entries → Workspace → Prop where
  | unresolved {lookup told : List Exchange} {fault : Fault} {left : Workspace}
      (finds : c.Finding w.store lookup (.error fault))
      (tells : Tells (some (.remoteError (.under stem) fault)) told)
      (leaves : left.copies = w.examined (!c.caller.atStore) (.under stem))
      (knows : left.store = none) :
      ListingAsked stem names .unresolved (lookup ++ told) ∅ left
  | unable {lookup : List Exchange} {store : StoreId} {left : Workspace} (shared : Shared)
      (finds : c.Finding w.store lookup (.ok store))
      (leaves : left.copies = w.examined (!c.caller.atStore) (.under stem))
      (knows : left.store = some store) :
      ListingAsked stem names .unable (lookup ++ [⟨.store store .canList, false, shared⟩]) ∅ left
  | fetched {lookup told got : List Exchange} {store : StoreId} {tracked : Bool}
      {result : Entries} {left : Workspace} (shared : Shared)
      (finds : c.Finding w.store lookup (.ok store))
      (tells : Tells (some (.fetch (.under stem))) told)
      (flags : Flags w (!c.caller.atStore) (.under stem) tracked)
      (gets : ListingGot store (w.footing (!c.caller.atStore) (.under stem))
        (w.examined (!c.caller.atStore) (.under stem)) stem { user := c.caller.user, tracked } names
        got result left.copies)
      (knows : left.store = some store) :
      ListingAsked stem names .fetched
        (lookup ++ (⟨.store store .canList, true, shared⟩ :: (told ++ got))) result left

/-- All that a read of a key calls out, with the way that it goes, its result and the workspace that
it leaves. -/
def ValueDialogue (key : String) (user : UserId) :
    Way → List Exchange → Except Fault Value → Workspace → Prop :=
  Dialogue w (c.keepsFor user) (.key key) (·.values[key]?) .ok (c.ValueAsked w key user)

/-- All that a read under a stem calls out. -/
def ListingDialogue (stem : String) (names : List String) :
    Way → List Exchange → Entries → Workspace → Prop :=
  Dialogue w (!c.caller.atStore) (.under stem) (·.listings[stem]?) (·.choose names)
    (c.ListingAsked w stem names)

end Asked

/-! ## Parts of operations -/

section Parts

variable {c : Cache} {w : Workspace} {topic : Topic}

theorem notify_traces (event : Event) :
    (notify event w).Traces fun trace _ w' => Tells (some event) trace ∧ w.Unmoved w' :=
  fun _ _ => ⟨rfl, rfl, rfl⟩

theorem remoteError_traces (topic : Topic) (fault : Fault) :
    (c.remoteError topic fault w).Traces fun trace _ w' =>
      Tells (some (.remoteError topic fault)) trace ∧ w.Unmoved w' :=
  notify_traces _

theorem report_traces (topic : Topic) (verdict : Verdict) :
    (c.report topic verdict w).Traces fun trace _ w' =>
      Tells (verdict.tells topic) trace ∧ w.Unmoved w' := by
  cases verdict with
  | moved => exact notify_traces _
  | broken e => exact notify_traces _
  | current | absent => exact ⟨rfl, rfl, rfl⟩

/-- A store that is looked for on behalf of some caller. -/
theorem provider_traces_for (c : Cache) (caller : Caller) :
    (c.provider caller w).Traces fun trace found w' =>
      ({ c with caller } : Cache).Finding w.store trace found ∧ w'.copies = w.copies ∧
        w'.store = found.toOption := by
  unfold provider
  simp only [bind_apply, locked_apply]
  cases known : w.store with
  | some store => exact ⟨.known rfl, rfl, known⟩
  | none =>
      intro reply shared
      cases reply with
      | error e => exact ⟨.failed rfl e shared, rfl, known⟩
      | ok store => exact ⟨.found rfl store shared, rfl, rfl⟩

theorem provider_traces (c : Cache) :
    (c.provider c.caller w).Traces fun trace found w' =>
      c.Finding w.store trace found ∧ w'.copies = w.copies ∧ w'.store = found.toOption :=
  provider_traces_for c c.caller

theorem store_saveUnder {save : Workspace → Workspace} {copy : Copy}
    (files : Workspace.Files save copy) (t : Tracker) : (w.saveUnder t save).2.store = w.store := by
  have installed : (w.install t).2.store = w.store := by
    rw [Workspace.install_eq, Workspace.store_validate]
    exact w.store_dropTracker t.topic
  unfold Workspace.saveUnder
  generalize w.install t = result at installed
  obtain ⟨verdict, w'⟩ := result
  cases verdict with
  | current => exact (files.store w').trans installed
  | moved | broken | absent => exact installed

theorem store_saveAt {save : Workspace → Workspace} {copy : Copy}
    (files : Workspace.Files save copy) (generation : Int64) :
    (w.saveAt topic generation save).2.store = w.store := by
  have looked := w.store_validate topic
  unfold Workspace.saveAt
  generalize w.validate topic = result at looked
  obtain ⟨verdict, w'⟩ := result
  cases verdict with
  | current now =>
      simp only
      split
      · exact (files.store w').trans looked
      · exact looked
  | moved | broken | absent => exact looked

/-- What comes with a grant is kept under its tracker, or nothing is. -/
theorem saveGranted_traces {save : Workspace → Workspace} {copy : Copy}
    (files : Workspace.Files save copy) (g : Grant) :
    (c.saveGranted copy.topic g save w).Traces fun trace _ w' =>
      Tells (w.tellsUnder copy.topic g) trace ∧ w.LeftUnder copy g w'.copies ∧
        w'.store = w.store := by
  have shown := w.saveUnder_glance (.ofGrant copy.topic g) save
  have placed := w.saveUnder_placed (.ofGrant copy.topic g) files.saves rfl
  have store := store_saveUnder (w := w) files (.ofGrant copy.topic g)
  change _ = (w.replace (.ofGrant copy.topic g)).glance copy.topic at shown
  unfold Workspace.tellsUnder Workspace.LeftUnder
  rw [← shown]
  unfold saveGranted
  simp only [bind_apply, locked_apply]
  generalize w.saveUnder (.ofGrant copy.topic g) save = result at placed store
  obtain ⟨verdict, w'⟩ := result
  cases placed with
  | current kept => exact ⟨rfl, kept.copies, store⟩
  | moved evicted => exact ⟨rfl, evicted.copies, store⟩
  | broken evicted => exact fun _ _ => ⟨rfl, evicted.copies, store⟩

/-- What comes without a grant is kept on the word of the tracker in place. -/
theorem saveVouched_traces {save : Workspace → Workspace} {copy : Copy}
    (files : Workspace.Files save copy) (generation : Int64) :
    (c.saveVouched copy.topic generation save w).Traces fun trace _ w' =>
      Tells ((w.glance copy.topic).tells copy.topic) trace ∧ w.LeftAt copy generation w'.copies ∧
        w'.store = w.store := by
  have shown := w.saveAt_glance copy.topic generation save
  have store : (w.saveAt copy.topic generation save).2.store = w.store := store_saveAt files generation
  have left : w.LeftAt copy generation (w.saveAt copy.topic generation save).2.copies := by
    have looked := w.validate_looked copy.topic
    unfold Workspace.LeftAt Workspace.saveAt
    rw [← w.validate_glance]
    generalize w.validate copy.topic = result at looked
    obtain ⟨verdict, w'⟩ := result
    cases looked with
    | absent untracked => exact rfl
    | @current t current =>
        simp only
        split
        · exact (files.saves _).1
        · rfl
    | moved evicted => exact evicted.copies
    | broken evicted => exact evicted.copies
  rw [← shown]
  refine (report_traces _ _).mono fun _ _ w' ⟨tells, unmoved⟩ => ⟨tells, ?_, ?_⟩
  · rw [unmoved.copies]
    exact left
  · exact unmoved.store.trans store

theorem receive_traces {save : Workspace → Workspace} {a : Answer} {copy : Copy}
    {grant : Option Grant} (brings : a.brings = some (copy, grant))
    (files : Workspace.Files save copy) (footing : Footing) :
    (c.receive copy.topic footing grant save w).Traces fun trace _ w' =>
      Tells (footing.tells a w) trace ∧ footing.Leaves a w w'.copies ∧ w'.store = w.store := by
  unfold receive Footing.tells Footing.Leaves
  rw [brings]
  cases footing with
  | outside => cases grant <;> exact ⟨rfl, rfl, rfl⟩
  | untracked =>
      cases grant with
      | none => exact ⟨rfl, rfl, rfl⟩
      | some g => exact saveGranted_traces files g
  | vouched generation =>
      cases grant with
      | none => exact saveVouched_traces files generation
      | some g => exact saveGranted_traces files g

/-- The answer comes when the copies are as the first look has left them. -/
theorem receive_traces_at (c : Cache) {found : Copies} (same : w.copies = found) (shared : Shared)
    {save : Workspace → Workspace} {copy : Copy} (files : Workspace.Files save copy) (a : Answer)
    {grant : Option Grant} (brings : a.brings = some (copy, grant)) (footing : Footing) :
    (c.receive copy.topic footing grant save { w with shared }).Traces fun trace _ w' =>
      Tells (footing.tells a { copies := found, shared }) trace ∧
        footing.Leaves a { copies := found, shared } w'.copies ∧ w'.store = w.store := by
  subst same
  refine (receive_traces brings files footing).mono fun _ _ _ received => ?_
  rw [footing.tells_eq, footing.leaves_iff] at received
  exact received

/-- A read is answered by what a current tracker vouches for, or it tells what its look has found. -/
theorem standing_traces {α : Type} (c : Cache) (keeps : Bool) (look : Copies → Option α) :
    (c.standing keeps topic look w).Traces fun trace standing w' =>
      match standing with
      | .answered data => w.recalls keeps topic look = some data ∧ trace = [] ∧ w' = w
      | .pending footing => w.recalls keeps topic look = none ∧ footing = w.footing keeps topic ∧
          Tells (w.tells keeps topic) trace ∧ w'.copies = w.examined keeps topic ∧
            w'.store = w.store := by
  unfold standing Workspace.recalls Workspace.footing Workspace.tells Workspace.examined
  cases keeps with
  | false => exact ⟨rfl, rfl, rfl, rfl, rfl⟩
  | true =>
      have consulted := w.consult_looked topic look
      have shown := w.consult_glance topic look
      have left := w.consult_validate topic look
      have store := w.store_validate topic
      simp only [↓reduceIte, bind_apply, locked_apply]
      rw [← left] at store ⊢
      rw [← shown]
      generalize w.consult topic look = result at consulted store
      obtain ⟨⟨verdict, data⟩, w'⟩ := result
      obtain ⟨looked, known⟩ := consulted
      cases looked with
      | absent => exact ⟨rfl, rfl, rfl, rfl, rfl⟩
      | current current =>
          cases data with
          | some data => exact ⟨known.symm, rfl, rfl⟩
          | none => exact ⟨known.symm, rfl, rfl, rfl, rfl⟩
      | moved evicted => exact fun reply shared => ⟨rfl, rfl, rfl, rfl, store⟩
      | broken evicted => exact fun reply shared => ⟨rfl, rfl, rfl, rfl, store⟩

end Parts

/-! ## Reads -/

/-- What a look has shown says whether a grant is wanted. -/
theorem flags_footing (w : Workspace) (keeps : Bool) (topic : Topic) :
    Flags w keeps topic (w.footing keeps topic).wantsGrant := by
  unfold Flags Workspace.footing
  rw [w.validate_glance]
  cases keeps with
  | false => simp [Footing.wantsGrant]
  | true => cases w.glance topic <;> simp [Footing.wantsGrant]

variable {c : Cache} {w : Workspace} {found : Copies}

/-- The answer to a query is received like one that has come without a grant. -/
theorem queryValue_eq (c : Cache) (store : StoreId) (key : String) (user : UserId)
    (footing : Footing) :
    c.queryValue store key user footing = (do
      match ← ask (.store store (.query key { user })) with
      | .ok v =>
          c.receive (.key key) footing none (c.keepValue key " from query" v)
          return v
      | .error e =>
          c.remoteError (.key key) (.remote (.store e))
          return none) := by
  cases footing <;> rfl

theorem queryValue_traces (same : w.copies = found) (store : StoreId) (key : String) (user : UserId)
    (footing : Footing) :
    (c.queryValue store key user footing w).Traces fun trace v w' =>
      ValueQueried store footing found key user trace v w'.copies ∧ w'.store = w.store := by
  rw [queryValue_eq]
  intro reply shared
  cases reply with
  | error e =>
      refine (remoteError_traces _ _).answering fun told _ w' ⟨tells, unmoved⟩ => ?_
      exact ⟨.failed e shared tells (unmoved.copies.trans same), unmoved.store⟩
  | ok v =>
      have received := receive_traces_at c same shared (c.keepValue_files key " from query" v)
        ⟨.store store (.query key { user }), .ok v⟩ rfl footing
      refine received.answering fun told _ w' ⟨tells, leaves, known⟩ => ?_
      exact ⟨.answered v shared tells leaves, known⟩

/-- A read of a key asks the store when the copies are as its look at `w₀` has left them. -/
theorem fetchValue_traces {w₀ : Workspace} {key : String} {user : UserId}
    (readable : c.access.readable key c.caller = true)
    (same : w.copies = w₀.examined (c.keepsFor user) (.key key)) (known : w.store = w₀.store) :
    (c.fetchValue key user (w₀.footing (c.keepsFor user) (.key key)) w).Traces fun trace v w' =>
      ∃ way, c.ValueAsked w₀ key user way trace (.ok v) w' := by
  refine (provider_traces c).andThen fun lookup provided w' ⟨finds, kept, knows⟩ => ?_
  rw [known] at finds
  rw [same] at kept
  cases provided with
  | error fault =>
      refine (remoteError_traces _ _).answering fun told _ w'' ⟨tells, unmoved⟩ => ?_
      exact ⟨_, .unresolved readable finds tells (unmoved.copies.trans kept)
        (unmoved.store.trans knows)⟩
  | ok store =>
      refine (notify_traces _).andThen fun told _ w'' ⟨tells, unmoved⟩ => ?_
      have found := unmoved.copies.trans kept
      have knows := unmoved.store.trans knows
      have flags := flags_footing w₀ (c.keepsFor user) (.key key)
      let footing := w₀.footing (c.keepsFor user) (.key key)
      intro reply shared
      match reply with
      | .error e =>
          refine (remoteError_traces _ _).andThen fun heard _ w₃ ⟨tells', unmoved'⟩ => ?_
          refine (queryValue_traces (unmoved'.copies.trans found) store key user footing).mono ?_
          intro queried v w₄ ⟨queries, known'⟩
          exact ⟨_, .fetched readable finds tells flags (.failed e shared tells' queries)
            (known'.trans (unmoved'.store.trans knows))⟩
      | .ok none =>
          let noted : Workspace := c.jot .debug
            ("Fast read is not available, querying '" ++ key ++ "'") { w'' with shared }
          have queries := queryValue_traces (c := c) (w := noted) found store key user footing
          exact queries.mono fun queried v w₃ ⟨queries, known'⟩ =>
            ⟨_, .fetched readable finds tells flags (.missing shared queries) (known'.trans knows)⟩
      | .ok (some reading) =>
          have received := receive_traces_at c found shared (c.keepValue_files key "" reading.value)
            ⟨.store store (.get key { user, tracked := footing.wantsGrant }), .ok (some reading)⟩
            rfl footing
          refine received.answering fun heard _ w₃ ⟨tells', leaves, known'⟩ => ?_
          exact ⟨_, .fetched readable finds tells flags (.read reading shared tells' leaves)
            (known'.trans knows)⟩

theorem value_traces (c : Cache) (key : String) (user : UserId) (w : Workspace) :
    (c.value key user w).Traces fun trace result w' =>
      ∃ way, c.ValueDialogue w key user way trace result w' := by
  let noted := c.jot .debug s!"GET({key})" w
  have found : noted.examined (c.keepsFor user) (.key key) =
      w.examined (c.keepsFor user) (.key key) := w.examined_note _ _ _ _
  have stands : (c.standing (c.keepsFor user) (.key key) (·.values[key]?) noted).Traces _ :=
    standing_traces c _ _
  refine stands.andThen fun looked standing w' stands => ?_
  cases standing with
  | answered v =>
      obtain ⟨recalls, rfl, rfl⟩ := stands
      exact fun reply shared => ⟨_, .hit recalls rfl ⟨rfl, rfl⟩⟩
  | pending footing =>
      obtain ⟨nothing, rfl, tells, kept, known⟩ := stands
      rw [found] at kept
      simp only
      split
      · next readable =>
        refine map_traces ((fetchValue_traces readable kept known).mono ?_)
        exact fun trace v w'' ⟨way, asked⟩ => ⟨way, .asked nothing tells asked⟩
      · next unreadable =>
        exact ⟨_, .asked nothing tells
          (.denied (Bool.eq_false_of_not_eq_true unreadable) kept known)⟩

theorem fetchListing_traces {w₀ : Workspace} {stem : String} {lookup : List Exchange}
    {store : StoreId} (finds : c.Finding w₀.store lookup (.ok store)) (lists : Shared)
    (same : w.copies = w₀.examined (!c.caller.atStore) (.under stem)) (known : w.store = some store)
    (names : List String) :
    (c.fetchListing store stem names (w₀.footing (!c.caller.atStore) (.under stem)) w).Traces
      fun trace result w' => ∃ way, c.ListingAsked w₀ stem names way
        (lookup ++ ⟨.store store .canList, true, lists⟩ :: trace) result w' := by
  have flags := flags_footing w₀ (!c.caller.atStore) (.under stem)
  let footing := w₀.footing (!c.caller.atStore) (.under stem)
  refine (notify_traces _).andThen fun told _ w' ⟨tells, unmoved⟩ => ?_
  have kept := unmoved.copies.trans same
  have knows := unmoved.store.trans known
  intro reply shared
  match reply with
  | .error e =>
      refine (remoteError_traces _ _).answering fun heard _ w'' ⟨tells', unmoved'⟩ => ?_
      exact ⟨_, .fetched lists finds tells flags
        (.failed e shared tells' (unmoved'.copies.trans kept)) (unmoved'.store.trans knows)⟩
  | .ok none => exact ⟨_, .fetched lists finds tells flags (.missing shared kept) knows⟩
  | .ok (some listing) =>
      have received := receive_traces_at c kept shared
        (c.keepListing_files stem (listing.entries.strip stem))
        ⟨.store store (.list stem { user := c.caller.user, tracked := footing.wantsGrant }),
          .ok (some listing)⟩ rfl footing
      refine received.answering fun heard _ w'' ⟨tells', leaves, known'⟩ => ?_
      exact ⟨_, .fetched lists finds tells flags (.read listing shared tells' leaves)
        (known'.trans knows)⟩

theorem listing_traces (c : Cache) (stem : String) (names : List String) (w : Workspace) :
    (c.listing stem names w).Traces fun trace result w' =>
      ∃ way, c.ListingDialogue w stem names way trace result w' := by
  let noted := c.jot .debug s!"GET_PREFIX({stem}); names={names.length}" w
  let look (copies : Copies) : Option Entries := copies.listings[stem]?.map (·.choose names)
  have found : noted.examined (!c.caller.atStore) (.under stem) =
      w.examined (!c.caller.atStore) (.under stem) := w.examined_note _ _ _ _
  have recalled : noted.recalls (!c.caller.atStore) (.under stem) look =
      (w.recalls (!c.caller.atStore) (.under stem) (·.listings[stem]?)).map (·.choose names) :=
    noted.recalls_map _ _ (·.listings[stem]?) _
  have stands : (c.standing (!c.caller.atStore) (.under stem) look noted).Traces _ :=
    standing_traces c _ _
  refine stands.andThen fun looked standing w' stands => ?_
  cases standing with
  | answered entries =>
      obtain ⟨recalls, rfl, rfl⟩ := stands
      rw [recalled] at recalls
      obtain ⟨all, held, rfl⟩ := Option.map_eq_some_iff.mp recalls
      exact fun reply shared => ⟨_, .hit held rfl ⟨rfl, rfl⟩⟩
  | pending footing =>
      obtain ⟨nothing, rfl, tells, kept, known⟩ := stands
      rw [recalled, Option.map_eq_none_iff] at nothing
      rw [found] at kept
      refine (provider_traces c).andThen fun lookup provided w'' ⟨finds, same, knows⟩ => ?_
      rw [show w'.store = w.store from known] at finds
      rw [kept] at same
      cases provided with
      | error fault =>
          refine (remoteError_traces _ _).answering fun told _ w₃ ⟨tells', unmoved⟩ => ?_
          exact ⟨_, .asked nothing tells (.unresolved finds tells' (unmoved.copies.trans same)
            (unmoved.store.trans knows))⟩
      | ok store =>
          intro lists shared
          let w₃ : Workspace := { w'' with shared }
          cases lists with
          | true =>
              have fetches := fetchListing_traces (w := w₃) finds shared same knows names
              exact fetches.mono fun trace result w' ⟨way, asked⟩ =>
                ⟨way, .asked nothing tells asked⟩
          | false => exact ⟨_, .asked nothing tells (.unable shared finds same knows)⟩

end Cache

/-! ## Which way a read has gone -/

/-- What is exchanged on this way of a read, and on no other. -/
def Exchange.way? : Exchange → Option Way
  | ⟨.notify (.hit _), _, _⟩ => some .hit
  | ⟨.notify (.fetch _), _, _⟩ => some .fetched
  | ⟨.resolve .., .error _, _⟩ => some .unresolved
  | ⟨.store _ .canList, false, _⟩ => some .unable
  | _ => none

/-- The way that a trace shows. A read that is denied exchanges nothing of its own. -/
def Way.shown (trace : List Exchange) : Way :=
  (trace.findSome? Exchange.way?).getD .denied

theorem Way.shown_append {before trace : List Exchange}
    (silent : before.findSome? Exchange.way? = none) : shown (before ++ trace) = shown trace := by
  rw [shown, List.findSome?_append, silent, Option.none_or, shown]

theorem Tells.cases {event? : Option Event} {trace : List Exchange} (tells : Tells event? trace) :
    event? = none ∧ trace = [] ∨
      ∃ event shared, event? = some event ∧ trace = [⟨.notify event, (), shared⟩] := by
  unfold Tells at tells
  cases event? with
  | none => exact Or.inl ⟨rfl, List.map_eq_nil_iff.mp tells⟩
  | some event =>
      obtain ⟨e, rfl, called⟩ := List.map_eq_singleton_iff.mp tells
      obtain ⟨call, reply, shared⟩ := e
      subst called
      exact Or.inr ⟨event, shared, rfl, rfl⟩

theorem Tells.singleton {event : Event} {trace : List Exchange} (tells : Tells (some event) trace) :
    ∃ shared, trace = [⟨.notify event, (), shared⟩] := by
  rcases tells.cases with ⟨impossible, -⟩ | ⟨_, shared, same, rfl⟩
  · cases impossible
  · cases same
    exact ⟨shared, rfl⟩

/-- A look at a tracker tells of nothing but a loss. -/
theorem Verdict.tellsLoss {verdict : Verdict} {topic : Topic} {event : Event}
    (told : verdict.tells topic = some event) : event.tellsLoss = true := by
  cases verdict <;> cases told <;> rfl

theorem Workspace.tellsLoss {w : Workspace} {keeps : Bool} {topic : Topic} {event : Event}
    (told : w.tells keeps topic = some event) : event.tellsLoss = true := by
  unfold tells at told
  split at told
  · exact Verdict.tellsLoss told
  · cases told

/-- An answer that a read goes on with makes it tell of nothing but a loss. -/
theorem Footing.tellsLoss {footing : Footing} {a : Answer} {w : Workspace} {event : Event}
    (told : footing.tells a w = some event) : event.tellsLoss = true := by
  have granted : ∀ topic g, w.tellsUnder topic g = some event → event.tellsLoss = true := by
    intro topic g told
    unfold Workspace.tellsUnder at told
    split at told <;> cases told
    rfl
  unfold tells at told
  split at told
  · cases told
  · cases told
  · cases told
  · exact granted _ _ told
  · exact granted _ _ told
  · exact Verdict.tellsLoss told

/-- To tell of a loss is to tell of a tracker that has moved or cannot be read. -/
theorem Tells.of_loss {event? : Option Event} {trace : List Exchange} (tells : Tells event? trace)
    (loss : ∀ event, event? = some event → event.tellsLoss = true) :
    trace = [] ∨ (∃ topic shared, trace = [⟨.notify (.stale topic), (), shared⟩]) ∨
      ∃ topic e shared, trace = [⟨.notify (.trackerError topic e), (), shared⟩] := by
  rcases tells.cases with ⟨-, rfl⟩ | ⟨event, shared, told, rfl⟩
  · exact Or.inl rfl
  · have loss := loss event told
    cases event with
    | stale topic => exact Or.inr (Or.inl ⟨topic, shared, rfl⟩)
    | trackerError topic e => exact Or.inr (Or.inr ⟨topic, e, shared, rfl⟩)
    | hit | fetch | remoteError => cases loss

theorem Tells.findSome?_loss {event? : Option Event} {trace : List Exchange}
    (tells : Tells event? trace) (loss : ∀ event, event? = some event → event.tellsLoss = true) :
    trace.findSome? Exchange.way? = none := by
  rcases tells.of_loss loss with rfl | ⟨_, _, rfl⟩ | ⟨_, _, _, rfl⟩ <;> rfl

theorem Dialogue.way_eq {α β : Type} {w : Workspace} {keeps : Bool} {topic : Topic}
    {look : Copies → Option α} {shows : α → β} {asks : Way → List Exchange → β → Workspace → Prop}
    {way : Way} {trace : List Exchange} {result : β} {left : Workspace}
    (dialogue : Dialogue w keeps topic look shows asks way trace result left)
    (asked : ∀ way trace result left, asks way trace result left → way = Way.shown trace) :
    way = Way.shown trace := by
  cases dialogue with
  | hit recalls tells leaves =>
      obtain ⟨shared, rfl⟩ := tells.singleton
      rfl
  | asked nothing tells goesOn =>
      rw [Way.shown_append (tells.findSome?_loss fun _ => Workspace.tellsLoss)]
      exact asked _ _ _ _ goesOn

namespace Cache

variable {c : Cache} {w : Workspace} {way : Way} {trace : List Exchange} {left : Workspace}

theorem Finding.silent {known : Option StoreId} {store : StoreId}
    (finds : c.Finding known trace (.ok store)) : trace.findSome? Exchange.way? = none := by
  cases finds <;> rfl

theorem Finding.unresolved {known : Option StoreId} {fault : Fault} {rest : List Exchange}
    (finds : c.Finding known trace (.error fault)) : Way.shown (trace ++ rest) = .unresolved := by
  cases finds
  rfl

theorem ValueAsked.way_eq {key : String} {user : UserId} {result : Except Fault Value}
    (asked : c.ValueAsked w key user way trace result left) : way = Way.shown trace := by
  cases asked with
  | denied => rfl
  | unresolved readable finds => exact finds.unresolved.symm
  | fetched readable finds tells =>
      obtain ⟨shared, rfl⟩ := tells.singleton
      rw [Way.shown_append finds.silent]
      rfl

theorem ListingAsked.way_eq {stem : String} {names : List String} {result : Entries}
    (asked : c.ListingAsked w stem names way trace result left) : way = Way.shown trace := by
  cases asked with
  | unresolved finds => exact finds.unresolved.symm
  | unable shared finds =>
      rw [Way.shown_append finds.silent]
      rfl
  | fetched shared finds tells =>
      obtain ⟨shared, rfl⟩ := tells.singleton
      rw [Way.shown_append finds.silent]
      rfl

end Cache

/-! ## Failures are told once -/

/-- A store was not found, or it failed to answer a read. -/
def Exchange.fails : Exchange → Bool
  | ⟨.resolve .., .error _, _⟩ | ⟨.store _ (.get ..), .error _, _⟩
  | ⟨.store _ (.query ..), .error _, _⟩ | ⟨.store _ (.list ..), .error _, _⟩ => true
  | _ => false

/-- The observer is told that a read could not reach the store. -/
def Exchange.tellsFailure : Exchange → Bool
  | ⟨.notify (.remoteError ..), _, _⟩ => true
  | _ => false

/-- As many failures are told as have happened. -/
def Balanced (trace : List Exchange) : Prop :=
  trace.countP Exchange.tellsFailure = trace.countP Exchange.fails

namespace Balanced

theorem append {before after : List Exchange} (first : Balanced before) (second : Balanced after) :
    Balanced (before ++ after) := by
  unfold Balanced at *
  rw [List.countP_append, List.countP_append, first, second]

/-- An exchange is no failure and tells of none. -/
theorem cons {e : Exchange} {trace : List Exchange} (same : e.tellsFailure = e.fails)
    (rest : Balanced trace) : Balanced (e :: trace) := by
  unfold Balanced at *
  rw [List.countP_cons, List.countP_cons, same, rest]

/-- A failure is told right after the reply. -/
theorem failure {e : Exchange} {told : List Exchange} {topic : Topic} {fault : Fault}
    (fails : e.fails = true) (silent : e.tellsFailure = false)
    (tells : Tells (some (.remoteError topic fault)) told) : Balanced (e :: told) := by
  obtain ⟨shared, rfl⟩ := tells.singleton
  unfold Balanced
  rw [List.countP_cons_of_neg (by simp [silent]), List.countP_cons_of_pos fails]
  rfl

theorem loss {event? : Option Event} {trace : List Exchange} (tells : Tells event? trace)
    (loss : ∀ event, event? = some event → event.tellsLoss = true) : Balanced trace := by
  rcases tells.of_loss loss with rfl | ⟨_, _, rfl⟩ | ⟨_, _, _, rfl⟩ <;> rfl

end Balanced

theorem Dialogue.balanced {α β : Type} {w : Workspace} {keeps : Bool} {topic : Topic}
    {look : Copies → Option α} {shows : α → β} {asks : Way → List Exchange → β → Workspace → Prop}
    {way : Way} {trace : List Exchange} {result : β} {left : Workspace}
    (dialogue : Dialogue w keeps topic look shows asks way trace result left)
    (asked : ∀ way trace result left, asks way trace result left → Balanced trace) :
    Balanced trace := by
  cases dialogue with
  | hit recalls tells leaves =>
      obtain ⟨shared, rfl⟩ := tells.singleton
      rfl
  | asked nothing tells goesOn =>
      exact (Balanced.loss tells fun _ => Workspace.tellsLoss).append (asked _ _ _ _ goesOn)

namespace Cache

variable {c : Cache} {w left : Workspace} {way : Way} {trace : List Exchange} {store : StoreId}
  {footing : Footing} {found kept : Copies}

theorem Finding.balanced {known : Option StoreId} (finds : c.Finding known trace (.ok store)) :
    Balanced trace := by
  cases finds <;> rfl

/-- That no store was found is told at once. -/
theorem Finding.failure {known : Option StoreId} {fault : Fault} {told : List Exchange}
    {topic : Topic} (finds : c.Finding known trace (.error fault))
    (tells : Tells (some (.remoteError topic fault)) told) : Balanced (trace ++ told) := by
  cases finds with
  | failed unknown e shared => exact .failure rfl rfl tells

theorem balanced_fetch {topic : Topic} {told got : List Exchange}
    (tells : Tells (some (.fetch topic)) told) (rest : Balanced got) : Balanced (told ++ got) := by
  obtain ⟨shared, rfl⟩ := tells.singleton
  exact rest.cons rfl

theorem ValueQueried.balanced {key : String} {user : UserId} {v : Value}
    (queried : ValueQueried store footing found key user trace v kept) : Balanced trace := by
  cases queried with
  | answered v shared tells => exact (Balanced.loss tells fun _ => Footing.tellsLoss).cons rfl
  | failed e shared tells => exact .failure rfl rfl tells

theorem ValueGot.balanced {key : String} {request : ReadRequest} {v : Value}
    (got : ValueGot store footing found key request trace v kept) : Balanced trace := by
  cases got with
  | read reading shared tells => exact (Balanced.loss tells fun _ => Footing.tellsLoss).cons rfl
  | missing shared queries => exact queries.balanced.cons rfl
  | failed e shared tells queries =>
      exact (Balanced.failure rfl rfl tells).append queries.balanced

theorem ListingGot.balanced {stem : String} {request : ReadRequest} {names : List String}
    {result : Entries} (got : ListingGot store footing found stem request names trace result kept) :
    Balanced trace := by
  cases got with
  | read listing shared tells => exact (Balanced.loss tells fun _ => Footing.tellsLoss).cons rfl
  | missing shared => rfl
  | failed e shared tells => exact .failure rfl rfl tells

theorem ValueAsked.balanced {key : String} {user : UserId} {result : Except Fault Value}
    (asked : c.ValueAsked w key user way trace result left) : Balanced trace := by
  cases asked with
  | denied => rfl
  | unresolved readable finds tells => exact finds.failure tells
  | fetched readable finds tells flags gets =>
      exact finds.balanced.append (balanced_fetch tells gets.balanced)

theorem ListingAsked.balanced {stem : String} {names : List String} {result : Entries}
    (asked : c.ListingAsked w stem names way trace result left) : Balanced trace := by
  cases asked with
  | unresolved finds tells => exact finds.failure tells
  | unable shared finds => exact finds.balanced.append rfl
  | fetched shared finds tells flags gets =>
      exact finds.balanced.append ((balanced_fetch tells gets.balanced).cons rfl)

/-- Whatever is replied, a read comes to an end, and all that it has called out by then is in the one
way that it has gone. It has told of a failure exactly as often as a resolver or a store has failed. -/
theorem reads_go_one_way (c : Cache) (w : Workspace) :
    (∀ key user, (c.value key user w).Traces fun trace result w' =>
      (∃! way, c.ValueDialogue w key user way trace result w') ∧ Balanced trace) ∧
    ∀ stem names, (c.listing stem names w).Traces fun trace result w' =>
      (∃! way, c.ListingDialogue w stem names way trace result w') ∧ Balanced trace := by
  constructor
  · intro key user
    refine (c.value_traces key user w).mono fun trace result w' ⟨way, dialogue⟩ => ?_
    refine ⟨⟨way, dialogue, fun other dialogue' => ?_⟩, ?_⟩
    · rw [dialogue.way_eq fun _ _ _ _ => ValueAsked.way_eq]
      exact dialogue'.way_eq fun _ _ _ _ => ValueAsked.way_eq
    · exact dialogue.balanced fun _ _ _ _ => ValueAsked.balanced
  · intro stem names
    refine (c.listing_traces stem names w).mono fun trace result w' ⟨way, dialogue⟩ => ?_
    refine ⟨⟨way, dialogue, fun other dialogue' => ?_⟩, ?_⟩
    · rw [dialogue.way_eq fun _ _ _ _ => ListingAsked.way_eq]
      exact dialogue'.way_eq fun _ _ _ _ => ListingAsked.way_eq
    · exact dialogue.balanced fun _ _ _ _ => ListingAsked.balanced

end Cache

end TrackedSettings
