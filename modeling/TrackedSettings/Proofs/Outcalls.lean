import TrackedSettings.Proofs.Hits
import TrackedSettings.Proofs.Vouching

/-! # What a cache calls out

A read calls out about its own topic and asks on behalf of one user, and it asks for a grant only if
it may keep what the store brings. When it comes upon a tracker whose slot cannot be read, its very
next call tells the observer so, and it tells of no other broken slot; by then the topic has neither
a tracker nor a copy. `Progress.Announces` says this of an operation in progress, and every act of a
cache is shown to be such an operation, unless a copy answers it at once.
-/

namespace TrackedSettings

/-! ## Looking at a tracker -/

/-- The broken slot that a look at a topic's tracker came upon. -/
def Verdict.fault? (topic : Topic) : Verdict → Option (Topic × SlotError)
  | broken e => some (topic, e)
  | current _ | moved | absent => none

namespace Workspace

/-- What a look at a topic's tracker would show. -/
def glance (w : Workspace) (topic : Topic) : Verdict :=
  match w.copies.trackers[topic]? with
  | none => .absent
  | some t =>
      match t.look w.shared.slots with
      | .error e => .broken e
      | .ok generation => if generation = t.generation then .current t.generation else .moved

variable (w : Workspace) (topic : Topic)

theorem validate_glance : (w.validate topic).1 = w.glance topic := by
  unfold validate glance Tracker.check
  cases w.copies.trackers[topic]? with
  | none => rfl
  | some t =>
      cases look : t.look w.shared.slots with
      | error e => simp only [look]
      | ok generation =>
          simp only [look]
          by_cases same : generation = t.generation
          · simp only [same, ↓reduceIte]
          · simp only [same, ↓reduceIte]

theorem consult_glance {α : Type} (look : Copies → Option α) :
    (w.consult topic look).1.1 = w.glance topic := by
  rw [← validate_glance]
  unfold consult
  generalize w.validate topic = result
  obtain ⟨verdict, w'⟩ := result
  cases verdict <;> rfl

theorem consult_validate {α : Type} (look : Copies → Option α) :
    (w.consult topic look).2 = (w.validate topic).2 := by
  unfold consult
  generalize w.validate topic = result
  obtain ⟨verdict, w'⟩ := result
  cases verdict <;> rfl

theorem saveUnder_glance (t : Tracker) (save : Workspace → Workspace) :
    (w.saveUnder t save).1 = (w.replace t).glance t.topic := by
  rw [← validate_glance, ← install_eq]
  unfold saveUnder
  generalize w.install t = result
  obtain ⟨verdict, w'⟩ := result
  cases verdict <;> rfl

theorem saveAt_glance (generation : Int64) (save : Workspace → Workspace) :
    (w.saveAt topic generation save).1 = w.glance topic := by
  rw [← validate_glance]
  unfold saveAt
  generalize w.validate topic = result
  obtain ⟨verdict, w'⟩ := result
  cases verdict <;> rfl

variable {w topic}

theorem Current.glance {t : Tracker} (current : w.Current topic t) :
    w.glance topic = .current t.generation := by
  unfold Workspace.glance
  rw [current.1]
  simp only [current.2, ↓reduceIte]

/-- A tracker that is not current any more is gone, and nothing has been saved. -/
theorem gone_of_saveUnder {t : Tracker} {save : Workspace → Workspace}
    (evicts : (w.saveUnder t save).1.evicts = true) : (w.saveUnder t save).2.Gone t.topic := by
  have placed := w.install_placed t
  revert evicts
  unfold saveUnder
  generalize w.install t = result at placed ⊢
  obtain ⟨verdict, w'⟩ := result
  cases placed with
  | current => exact fun impossible => nomatch impossible
  | moved evicted => exact fun _ => evicted.gone
  | broken evicted => exact fun _ => evicted.gone

theorem gone_of_saveAt {generation : Int64} {save : Workspace → Workspace}
    (evicts : (w.saveAt topic generation save).1.evicts = true) :
    (w.saveAt topic generation save).2.Gone topic := by
  have looked := w.validate_looked topic
  revert evicts
  unfold saveAt
  generalize w.validate topic = result at looked ⊢
  obtain ⟨verdict, w'⟩ := result
  cases looked with
  | absent | current => exact fun impossible => nomatch impossible
  | moved evicted => exact fun _ => evicted.gone
  | broken evicted => exact fun _ => evicted.gone

/-- What a read knows before it asks the store. -/
def footing (w : Workspace) (keeps : Bool) (topic : Topic) : Footing :=
  if keeps then
    match w.glance topic with
    | .current generation => .vouched generation
    | .moved | .broken _ | .absent => .untracked
  else .outside

end Workspace

/-! ## Reads and what they ask for -/

/-- The topic that a store is asked for, and on whose behalf. -/
def Outcall.request? : Outcall → Option (Topic × ReadRequest)
  | store _ (.get key request) | store _ (.query key request) => some (.key key, request)
  | store _ (.list stem request) => some (.under stem, request)
  | _ => none

theorem Answer.request_of_brings {a : Answer} {copy : Copy} {grant : Option Grant}
    (brings : a.brings = some (copy, grant)) :
    ∃ request, a.call.request? = some (copy.topic, request) := by
  unfold Answer.brings at brings
  split at brings
  · cases brings
    exact ⟨_, rfl⟩
  · cases brings
    exact ⟨_, rfl⟩
  · cases brings
    exact ⟨_, rfl⟩
  · cases brings

/-- What a read is for. -/
structure Purpose where
  topic : Topic
  user : UserId
  /-- The read may keep what the store brings. -/
  keeps : Bool
deriving DecidableEq, Repr

/-- What an act reads, if it is a read. -/
def CacheAct.purpose? (c : Cache) : CacheAct → Option Purpose
  | .value key user => some { topic := .key key, user, keeps := c.keepsFor user }
  | .listing stem _ | .named stem _ =>
      some { topic := .under stem, user := c.caller.user, keeps := !c.caller.atStore }
  | _ => none

/-- What a cache may call out for this purpose: it tells of the topic alone, and it asks the store
for that topic alone, for the right user, without a grant that it could not use, and for no key that
the caller may not read. -/
structure Cache.MayCall (c : Cache) (purpose : Option Purpose) (call : Outcall) : Prop where
  tells : ∀ event, call = .notify event → ∃ p, purpose = some p ∧ event.topic = p.topic
  asks : ∀ topic request, call.request? = some (topic, request) → ∃ p, purpose = some p ∧
    topic = p.topic ∧ request.user = p.user ∧ (request.tracked = true → p.keeps = true) ∧
      ∀ key, topic = .key key → c.access.readable key c.caller = true

/-- The broken slot that a read comes upon when it goes on with an answer: that of the tracker of a
grant that has come, or else that of the tracker that vouches for the read. -/
def Footing.comesUpon (footing : Footing) (a : Answer) (w : Workspace) :
    Option (Topic × SlotError) :=
  match footing, a.brings with
  | .outside, _ | _, none | .untracked, some (_, none) => none
  | .vouched _, some (copy, some g) | .untracked, some (copy, some g) =>
      ((w.replace (.ofGrant copy.topic g)).glance copy.topic).fault? copy.topic
  | .vouched _, some (copy, none) => (w.glance copy.topic).fault? copy.topic

theorem Footing.comesUpon_nothing (footing : Footing) {a : Answer} (brings : a.brings = none)
    (w : Workspace) : footing.comesUpon a w = none := by
  unfold comesUpon
  rw [brings]
  cases footing <;> rfl

/-! ## Operations that tell what they find -/

/-- The observer is told that a tracker is lost. -/
def Event.tellsLoss : Event → Bool
  | stale _ | trackerError .. => true
  | hit _ | fetch _ | remoteError .. => false

/-- The call tells of the broken slot that was just found, or of none if none was. -/
structure Outcall.Fits (call : Outcall) (found : Option (Topic × SlotError)) (w : Workspace) :
    Prop where
  told : ∀ topic e, call = .notify (.trackerError topic e) ↔ found = some (topic, e)
  gone : ∀ event, call = .notify event → event.tellsLoss = true → w.Gone event.topic
  hitless : call.tellsHit = false

/-- What an operation goes by once it has looked at its workspace. -/
structure Brief where
  cache : Cache
  purpose : Option Purpose
  footing : Footing

/-- Every call of the operation is one that it may make, and fits what was found just before. -/
def Progress.Announces {α : Type} (b : Brief) (ends : α → Prop) :
    Progress α → Option (Topic × SlotError) → Prop
  | finished a _, found => found = none ∧ ends a
  | waiting call w resume, found => b.cache.MayCall b.purpose call ∧ call.Fits found w ∧
      ∀ reply w', (resume reply w').Announces b ends (b.footing.comesUpon ⟨call, reply⟩ w')

def Operation.Announces {α : Type} (b : Brief) (op : Operation α) (ends : α → Prop) : Prop :=
  ∀ w, (op w).Announces b ends none

/-- A call that neither tells the observer anything nor reads from a store. -/
def Outcall.isPlain : Outcall → Bool
  | notify _ | store _ (.get ..) | store _ (.query ..) | store _ (.list ..) => false
  | resolve .. | store _ .canList | store _ (.put ..) | store _ (.putAll ..)
  | store _ (.delete ..) | store _ (.reset ..) => true

namespace Outcall

variable {call : Outcall} {w : Workspace}

theorem isPlain_eq_false_of_request {topic : Topic} {request : ReadRequest}
    (asks : call.request? = some (topic, request)) : call.isPlain = false := by
  unfold request? at asks
  split at asks
  · rfl
  · rfl
  · rfl
  · cases asks

theorem mayCall_of_isPlain (plain : call.isPlain = true) (c : Cache) (purpose : Option Purpose) :
    c.MayCall purpose call where
  tells := by
    rintro event rfl
    cases plain
  asks topic request asks := by
    rw [isPlain_eq_false_of_request asks] at plain
    cases plain

theorem brings_of_isPlain (plain : call.isPlain = true) (reply : call.Reply) :
    Answer.brings ⟨call, reply⟩ = none := by
  cases brings : Answer.brings ⟨call, reply⟩ with
  | none => rfl
  | some brought =>
      obtain ⟨request, asks⟩ := Answer.request_of_brings brings
      rw [isPlain_eq_false_of_request asks] at plain
      cases plain

/-- A call to another than the observer tells of nothing. -/
theorem fits_of_silent (silent : ∀ event, call ≠ .notify event) : call.Fits none w where
  told topic e := iff_of_false (silent _) nofun
  gone event same := absurd same (silent event)
  hitless := by
    cases call with
    | notify event => exact absurd rfl (silent event)
    | resolve | store => rfl

/-- What is told of neither a loss nor a hit can be told whenever nothing was found. -/
theorem fits_of_harmless {event : Event} (noLoss : event.tellsLoss = false)
    (hitless : (notify event).tellsHit = false) : (notify event).Fits none w where
  told topic e := by
    refine iff_of_false ?_ nofun
    rintro ⟨⟩
    cases noLoss
  gone := by
    rintro _ ⟨⟩ loss
    rw [noLoss] at loss
    cases loss
  hitless := hitless

end Outcall

namespace Progress.Announces

variable {α β : Type} {b : Brief} {ends : α → Prop} {ends' : β → Prop} {p : Progress α}
  {found : Option (Topic × SlotError)}

theorem andThen {next : α → Operation β} (first : p.Announces b ends found)
    (second : ∀ a, ends a → (next a).Announces b ends') :
    (p.andThen next).Announces b ends' found := by
  induction p generalizing found with
  | finished a w =>
      obtain ⟨rfl, holds⟩ := first
      exact second a holds w
  | waiting call w resume ih =>
      obtain ⟨may, fits, goesOn⟩ := first
      exact ⟨may, fits, fun reply w' => ih reply w' (goesOn reply w')⟩

end Progress.Announces

namespace Operation

variable {α β : Type} {b : Brief} {ends : α → Prop} {ends' : β → Prop} {op : Operation α}

theorem Announces.bind {next : α → Operation β} (first : op.Announces b ends)
    (second : ∀ a, ends a → (next a).Announces b ends') : (op >>= next).Announces b ends' :=
  fun w => (first w).andThen second

theorem announces_pure {a : α} (holds : ends a) : (pure a : Operation α).Announces b ends :=
  fun _ => ⟨rfl, holds⟩

theorem announces_locked (step : Workspace → α × Workspace) :
    (locked step).Announces b fun _ => True :=
  fun _ => ⟨rfl, trivial⟩

theorem announces_change (step : Workspace → Workspace) : (change step).Announces b fun _ => True :=
  fun _ => ⟨rfl, trivial⟩

/-- After a plain call nothing is found. -/
theorem announces_plain {call : Outcall} {next : call.Reply → Operation α}
    (plain : call.isPlain = true) (goesOn : ∀ reply, (next reply).Announces b ends) :
    (ask call >>= next).Announces b ends := by
  intro w
  refine ⟨Outcall.mayCall_of_isPlain plain _ _, Outcall.fits_of_silent ?_, fun reply w' => ?_⟩
  · rintro event rfl
    cases plain
  · change Progress.Announces b ends (next reply w') _
    rw [Footing.comesUpon_nothing _ (Outcall.brings_of_isPlain plain reply)]
    exact goesOn reply w'

/-- A read asks the store, and goes on with what it finds then. -/
theorem announces_request {store : StoreId} {call : StoreCall}
    {next : (Outcall.store store call).Reply → Operation α}
    (may : b.cache.MayCall b.purpose (.store store call))
    (goesOn : ∀ reply w, (next reply w).Announces b ends
      (b.footing.comesUpon ⟨.store store call, reply⟩ w)) :
    (ask (.store store call) >>= next).Announces b ends :=
  fun _ => ⟨may, Outcall.fits_of_silent (fun _ => nofun), goesOn⟩

/-- The observer is told something at a workspace where it fits what was found. -/
theorem announces_tell {event : Event} {found : Option (Topic × SlotError)} {w : Workspace}
    {p : Purpose} (own : b.purpose = some p) (topic : event.topic = p.topic)
    (fits : (Outcall.notify event).Fits found w) :
    (notify event w).Announces b (fun _ => True) found := by
  refine ⟨⟨?_, fun _ _ impossible => nomatch impossible⟩, fits, fun _ w' => ?_⟩
  · rintro _ ⟨⟩
    exact ⟨p, own, topic⟩
  · exact ⟨Footing.comesUpon_nothing _ rfl w', trivial⟩

theorem map_announces {f : α → β} {w : Workspace} {found : Option (Topic × SlotError)}
    (announces : (op w).Announces b ends found) :
    ((f <$> op) w).Announces b (fun _ => True) found := by
  rw [map_eq_pure_bind]
  exact announces.andThen fun _ _ => announces_pure trivial

end Operation

namespace Cache

open Operation

variable {b : Brief} {p : Purpose} {c : Cache} {w : Workspace} {topic : Topic}

/-! ## Parts of operations -/

theorem announces_note (level : Level) (text : String) :
    (c.note level text).Announces b fun _ => True :=
  announces_change _

theorem announces_fetch (own : b.purpose = some p) :
    (notify (.fetch p.topic)).Announces b fun _ => True :=
  fun _ => announces_tell own rfl (Outcall.fits_of_harmless rfl rfl)

theorem announces_remoteError (own : b.purpose = some p) (fault : Fault) :
    (c.remoteError p.topic fault).Announces b fun _ => True :=
  (announces_note _ _).bind fun _ _ _ => announces_tell own rfl (Outcall.fits_of_harmless rfl rfl)

theorem announces_provider (caller : Caller) : (c.provider caller).Announces b fun _ => True := by
  refine (announces_locked _).bind fun known _ => ?_
  cases known with
  | some store => exact announces_pure trivial
  | none =>
      refine (announces_change _).bind fun _ _ => announces_plain rfl fun reply => ?_
      cases reply with
      | ok store => exact (announces_change _).bind fun _ _ => announces_pure trivial
      | error e => exact announces_pure trivial

theorem announces_trackerError (own : b.purpose = some p) {e : SlotError} (gone : w.Gone p.topic) :
    (notify (.trackerError p.topic e) w).Announces b (fun _ => True) (some (p.topic, e)) := by
  refine announces_tell own rfl ⟨?_, ?_, rfl⟩
  · intro topic e'
    simp
  · rintro _ ⟨⟩ _
    exact gone

/-- A look at the topic's tracker is told of if it took the tracker away. -/
theorem announces_report (own : b.purpose = some p) {verdict : Verdict}
    (gone : verdict.evicts = true → w.Gone p.topic) :
    (c.report p.topic verdict w).Announces b (fun _ => True) (verdict.fault? p.topic) := by
  cases verdict with
  | moved =>
      refine announces_tell own rfl ⟨fun _ _ => ⟨nofun, nofun⟩, ?_, rfl⟩
      rintro _ ⟨⟩ _
      exact gone rfl
  | broken e => exact announces_trackerError own (gone rfl)
  | current | absent => exact ⟨rfl, trivial⟩

variable {save : Workspace → Workspace}

theorem announces_saveGranted (own : b.purpose = some p) (g : Grant) :
    (c.saveGranted p.topic g save w).Announces b (fun _ => True)
      (((w.replace (.ofGrant p.topic g)).glance p.topic).fault? p.topic) := by
  have same := w.saveUnder_glance (.ofGrant p.topic g) save
  have gone : (w.saveUnder (.ofGrant p.topic g) save).1.evicts = true →
      (w.saveUnder (.ofGrant p.topic g) save).2.Gone p.topic := Workspace.gone_of_saveUnder
  change _ = (w.replace (.ofGrant p.topic g)).glance p.topic at same
  rw [← same]
  unfold saveGranted
  simp only [bind_apply, locked_apply]
  generalize w.saveUnder (.ofGrant p.topic g) save = result at gone ⊢
  obtain ⟨verdict, w'⟩ := result
  cases verdict with
  | moved => exact announces_note _ _ w'
  | broken e => exact announces_trackerError own (gone rfl)
  | current | absent => exact ⟨rfl, trivial⟩

theorem announces_saveVouched (own : b.purpose = some p) (generation : Int64) :
    (c.saveVouched p.topic generation save w).Announces b (fun _ => True)
      ((w.glance p.topic).fault? p.topic) := by
  rw [← w.saveAt_glance p.topic generation save]
  exact announces_report own Workspace.gone_of_saveAt

theorem announces_receive (own : b.purpose = some p) {a : Answer} {copy : Copy}
    {grant : Option Grant} (brings : a.brings = some (copy, grant)) (about : copy.topic = p.topic) :
    (c.receive p.topic b.footing grant save w).Announces b (fun _ => True)
      (b.footing.comesUpon a w) := by
  unfold receive Footing.comesUpon
  rw [brings]
  cases b.footing with
  | outside => cases grant <;> exact ⟨rfl, trivial⟩
  | untracked =>
      cases grant with
      | none => exact ⟨rfl, trivial⟩
      | some g =>
          simp only [about]
          exact announces_saveGranted own g
  | vouched generation =>
      cases grant with
      | none =>
          simp only [about]
          exact announces_saveVouched own generation
      | some g =>
          simp only [about]
          exact announces_saveGranted own g

/-! ## Reads -/

/-- Either a copy answers a read at once, or the read tells what its look has shown and goes on by
its footing. -/
theorem standing_eq {α : Type} (c : Cache) (keeps : Bool) (topic : Topic) (look : Copies → Option α)
    (w : Workspace) :
    (∃ data t, keeps = true ∧ w.Current topic t ∧ look w.copies = some data ∧
      c.standing keeps topic look w = .finished (.answered data) w) ∨
    c.standing keeps topic look w =
      (c.report topic (if keeps then w.glance topic else .absent)
        (if keeps then (w.validate topic).2 else w)).andThen
          fun _ => (pure (.pending (w.footing keeps topic)) : Operation (Standing α)) := by
  unfold standing Workspace.footing
  cases keeps with
  | false => exact Or.inr rfl
  | true =>
      have consulted := w.consult_looked topic look
      have verdict := w.consult_glance topic look
      have left := w.consult_validate topic look
      simp only [↓reduceIte, bind_apply, locked_apply]
      rw [← verdict, ← left]
      generalize w.consult topic look = result at consulted ⊢
      obtain ⟨⟨verdict, data⟩, w'⟩ := result
      obtain ⟨looked, shown⟩ := consulted
      cases verdict with
      | current generation =>
          cases data with
          | some data =>
              cases looked with
              | current current => exact Or.inl ⟨data, _, trivial, current, shown.symm, rfl⟩
          | none => exact Or.inr rfl
      | absent | moved | broken => exact Or.inr rfl

theorem announces_standing {α : Type} (own : b.purpose = some p) (look : Copies → Option α) :
    (∃ data t, p.keeps = true ∧ w.Current p.topic t ∧ look w.copies = some data ∧
      c.standing p.keeps p.topic look w = .finished (.answered data) w) ∨
    (c.standing p.keeps p.topic look w).Announces b
      (fun standing => standing = .pending (w.footing p.keeps p.topic))
      (if p.keeps then (w.glance p.topic).fault? p.topic else none) := by
  refine (c.standing_eq p.keeps p.topic look w).imp_right fun same => ?_
  rw [same]
  cases p.keeps with
  | false => exact ⟨rfl, rfl⟩
  | true =>
      have gone := (w.validate_looked p.topic).gone
      rw [w.validate_glance] at gone
      exact (announces_report own gone).andThen fun _ _ => announces_pure rfl

theorem mayCall_request (own : b.purpose = some p)
    (readable : ∀ key, p.topic = .key key → b.cache.access.readable key b.cache.caller = true)
    {call : Outcall} {request : ReadRequest} (asks : call.request? = some (p.topic, request))
    (forUser : request.user = p.user) (wants : request.tracked = true → p.keeps = true) :
    b.cache.MayCall b.purpose call where
  tells := by
    rintro event rfl
    cases asks
  asks topic request' asks' := by
    rw [asks] at asks'
    cases asks'
    exact ⟨_, own, rfl, forUser, wants, readable⟩

section Values

variable {key : String} {user : UserId} {keeps : Bool}
  (own : b.purpose = some { topic := .key key, user, keeps })
  (readable : b.cache.access.readable key b.cache.caller = true)

include own readable

theorem announces_queryValue (store : StoreId) :
    (b.cache.queryValue store key user b.footing).Announces b fun _ => True := by
  have may : b.cache.MayCall b.purpose (.store store (.query key { user })) :=
    mayCall_request own (by rintro _ ⟨⟩; exact readable) rfl rfl nofun
  refine announces_request may fun reply w => ?_
  cases reply with
  | error e =>
      rw [Footing.comesUpon_nothing _ rfl]
      exact ((announces_remoteError own _).bind fun _ _ => announces_pure trivial) w
  | ok v =>
      have received : (b.cache.receive (.key key) b.footing none
          (b.cache.keepValue key " from query" v) w).Announces b (fun _ => True)
          (b.footing.comesUpon ⟨.store store (.query key { user }), .ok v⟩ w) :=
        announces_receive own rfl rfl
      cases footing : b.footing <;>
      · rw [footing] at received
        exact received.andThen fun _ _ => announces_pure trivial

theorem announces_fetchValue (wants : b.footing.wantsGrant = true → keeps = true) :
    (b.cache.fetchValue key user b.footing).Announces b fun _ => True := by
  refine (announces_provider _).bind fun found _ => ?_
  cases found with
  | error fault => exact (announces_remoteError own _).bind fun _ _ => announces_pure trivial
  | ok store =>
      have may : b.cache.MayCall b.purpose
          (.store store (.get key { user, tracked := b.footing.wantsGrant })) :=
        mayCall_request own (by rintro _ ⟨⟩; exact readable) rfl rfl wants
      refine (announces_fetch own).bind fun _ _ => announces_request may fun reply w => ?_
      match reply with
      | .error e =>
          rw [Footing.comesUpon_nothing _ rfl]
          exact ((announces_remoteError own _).bind fun _ _ =>
            announces_queryValue own readable store) w
      | .ok none =>
          rw [Footing.comesUpon_nothing _ rfl]
          exact ((announces_note _ _).bind fun _ _ => announces_queryValue own readable store) w
      | .ok (some reading) =>
          exact (announces_receive own rfl rfl).andThen fun _ _ => announces_pure trivial

end Values

section Listings

variable {stem : String} {keeps : Bool}
  (own : b.purpose = some { topic := .under stem, user := b.cache.caller.user, keeps })

include own

theorem announces_fetchListing (wants : b.footing.wantsGrant = true → keeps = true)
    (store : StoreId) (names : List String) :
    (b.cache.fetchListing store stem names b.footing).Announces b fun _ => True := by
  have may : b.cache.MayCall b.purpose
      (.store store
        (.list stem { user := b.cache.caller.user, tracked := b.footing.wantsGrant })) :=
    mayCall_request own (fun _ => nofun) rfl rfl wants
  refine (announces_fetch own).bind fun _ _ => announces_request may fun reply w => ?_
  match reply with
  | .error e =>
      rw [Footing.comesUpon_nothing _ rfl]
      exact ((announces_remoteError own _).bind fun _ _ => announces_pure trivial) w
  | .ok none =>
      rw [Footing.comesUpon_nothing _ rfl]
      exact ((announces_note _ _).bind fun _ _ => announces_pure trivial) w
  | .ok (some listing) =>
      exact (announces_receive own rfl rfl).andThen fun _ _ => announces_pure trivial

end Listings

end Cache

/-! ## Acts -/

theorem Workspace.keeps_of_wantsGrant {w : Workspace} {keeps : Bool} {topic : Topic}
    (wants : (w.footing keeps topic).wantsGrant = true) : keeps = true := by
  cases keeps with
  | true => rfl
  | false => cases wants

/-- What an act that finds a workspace `w` goes by. -/
def CacheAct.brief (c : Cache) (act : CacheAct) (w : Workspace) : Brief where
  cache := c
  purpose := act.purpose? c
  footing := (act.purpose? c).elim .outside fun p => w.footing p.keeps p.topic

/-- The broken slot that an act comes upon when it begins. -/
def CacheAct.comesUpon (c : Cache) (act : CacheAct) (w : Workspace) : Option (Topic × SlotError) :=
  (act.purpose? c).bind fun p => if p.keeps then (w.glance p.topic).fault? p.topic else none

/-- What a read answers from a copy of its topic. -/
def CacheAct.answerFrom : CacheAct → Copy → Outcome
  | .value .., .value _ v => .read (.ok v)
  | .listing _ names, .listing _ all => .entries (all.choose names)
  | .named _ name, .listing _ all => .value ((all.choose [name]).value name)
  | _, _ => .inapplicable

/-- All that an operation does is to tell of a hit, and then it answers `a`. -/
def Progress.Hits {α : Type} (topic : Topic) (a : α) (w : Workspace) (p : Progress α) : Prop :=
  ∃ w', w'.copies = w.copies ∧ w'.shared.slots = w.shared.slots ∧
    p = .waiting (.notify (.hit topic)) w' fun _ w => .finished a w

theorem Progress.Hits.map {α β : Type} {topic : Topic} {a : α} {w : Workspace} {op : Operation α}
    (hits : (op w).Hits topic a w) (f : α → β) : ((f <$> op) w).Hits topic (f a) w := by
  obtain ⟨w', copies, slots, same⟩ := hits
  refine ⟨w', copies, slots, ?_⟩
  rw [map_eq_pure_bind, Operation.bind_apply, same]
  rfl

namespace Cache

open Operation

theorem value_announces (c : Cache) (key : String) (user : UserId) (w : Workspace) :
    (∃ v t, w.Current (.key key) t ∧ w.copies.values[key]? = some v ∧
      (c.value key user w).Hits (.key key) (.ok v) w) ∨
    (c.value key user w).Announces ((CacheAct.value key user).brief c w) (fun _ => True)
      ((CacheAct.value key user).comesUpon c w) := by
  let b := (CacheAct.value key user).brief c w
  have own : b.purpose = some { topic := .key key, user, keeps := c.keepsFor user } := rfl
  let noted := c.jot .debug s!"GET({key})" w
  rcases announces_standing (c := c) (w := noted) own (·.values[key]?) with
    ⟨v, t, -, current, found, same⟩ | announces
  · refine Or.inl ⟨v, t, current, found, c.jot .trace s!"HIT({key})" noted, rfl, rfl, ?_⟩
    change Progress.andThen _ (c.standing (c.keepsFor user) (.key key) (·.values[key]?) noted) = _
    rw [show c.standing (c.keepsFor user) (.key key) _ noted = _ from same]
    rfl
  · refine Or.inr (announces.andThen ?_)
    rintro _ rfl
    simp only
    split
    · next readable =>
      have wants : b.footing.wantsGrant = true → c.keepsFor user = true :=
        w.keeps_of_wantsGrant
      exact fun w' => map_announces (announces_fetchValue (b := b) own readable wants w')
    · exact announces_pure trivial

/-- The brief of a listing is the same for all names. -/
theorem listing_announces (c : Cache) (stem : String) (names : List String) (w : Workspace) :
    (∃ all t, w.Current (.under stem) t ∧ w.copies.listings[stem]? = some all ∧
      (c.listing stem names w).Hits (.under stem) (all.choose names) w) ∨
    (c.listing stem names w).Announces ((CacheAct.listing stem names).brief c w) (fun _ => True)
      ((CacheAct.listing stem names).comesUpon c w) := by
  let b := (CacheAct.listing stem names).brief c w
  have own : b.purpose =
      some { topic := .under stem, user := c.caller.user, keeps := !c.caller.atStore } := rfl
  let noted := c.jot .debug s!"GET_PREFIX({stem}); names={names.length}" w
  let look (copies : Copies) : Option Entries := copies.listings[stem]?.map (·.choose names)
  rcases announces_standing (c := c) (w := noted) own look with
    ⟨entries, t, -, current, found, same⟩ | announces
  · obtain ⟨all, held, rfl⟩ := Option.map_eq_some_iff.mp found
    refine Or.inl ⟨all, t, current, held, c.jot .trace s!"HIT({stem})" noted, rfl, rfl, ?_⟩
    change Progress.andThen _ (c.standing (!c.caller.atStore) (.under stem) look noted) = _
    rw [show c.standing (!c.caller.atStore) (.under stem) look noted = _ from same]
    rfl
  · refine Or.inr (announces.andThen ?_)
    rintro _ rfl
    refine (announces_provider _).bind fun found _ => ?_
    cases found with
    | error fault => exact (announces_remoteError own _).bind fun _ _ => announces_pure trivial
    | ok store =>
        refine announces_plain rfl fun lists => ?_
        split
        · exact announces_fetchListing (b := b) own w.keeps_of_wantsGrant store names
        · exact (announces_note _ _).bind fun _ _ => announces_pure trivial

theorem announces_submit {α : Type} {b : Brief} (c : Cache) {call : StoreCall}
    (plain : ∀ store, (Outcall.store store call).isPlain = true)
    (result : call.Reply → Except StoreError α) :
    (c.submit call result).Announces b fun _ => True := by
  refine (announces_provider _).bind fun found _ => ?_
  cases found with
  | error fault => exact announces_pure trivial
  | ok store => exact announces_plain (plain store) fun _ => announces_pure trivial

theorem write_announces {α : Type} {b : Brief} (c : Cache) {call : StoreCall}
    (plain : ∀ store, (Outcall.store store call).isPlain = true) (level : Level) (text : String)
    (result : call.Reply → Except StoreError α) (outcome : Except Fault α → Outcome)
    (w : Workspace) :
    ((outcome <$> (c.note level text >>= fun _ => c.submit call result)) w).Announces b
      (fun _ => True) none :=
  map_announces (((announces_note level text).bind fun _ _ => c.announces_submit plain result) w)

end Cache

/-- Every act announces what it comes upon, and its calls are within its purpose, unless a copy
answers it at once. -/
theorem CacheAct.operation_announces (c : Cache) (act : CacheAct) (w : Workspace) :
    (∃ p t copy, act.purpose? c = some p ∧ w.Current p.topic t ∧
      w.copies.find? p.topic = some copy ∧
        (act.operation c w).Hits p.topic (act.answerFrom copy) w) ∨
    (act.operation c w).Announces (act.brief c w) (fun _ => True) (act.comesUpon c w) := by
  cases act with
  | value key user =>
      rcases c.value_announces key user w with ⟨v, t, current, found, hits⟩ | announces
      · refine Or.inl ⟨_, t, .value key v, rfl, current, ?_, hits.map Outcome.read⟩
        rw [Copies.find?, found, Option.map_some]
      · exact Or.inr (Operation.map_announces announces)
  | listing stem names =>
      rcases c.listing_announces stem names w with ⟨all, t, current, found, hits⟩ | announces
      · refine Or.inl ⟨_, t, .listing stem all, rfl, current, ?_, hits.map Outcome.entries⟩
        rw [Copies.find?, found, Option.map_some]
      · exact Or.inr (Operation.map_announces announces)
  | named stem name =>
      rcases c.listing_announces stem [name] w with ⟨all, t, current, found, hits⟩ | announces
      · refine Or.inl ⟨_, t, .listing stem all, rfl, current, ?_, ?_⟩
        · rw [Copies.find?, found, Option.map_some]
        · exact (hits.map fun entries : Entries => entries.value name).map Outcome.value
      · exact Or.inr (Operation.map_announces (Operation.map_announces announces))
  | put | putAll | delete | reset => exact Or.inr (c.write_announces (fun _ => rfl) _ _ _ _ w)
  | copy | isTracked | profile | readable | heard | clear | forget | unresolve =>
      exact Or.inr ⟨rfl, trivial⟩
  | provider caller => exact Or.inr (Operation.map_announces (Cache.announces_provider _ w))

/-! ## At a desk -/

namespace Desk

variable {c : Cache} {act : CacheAct} {start d : Desk} {s : Suspension}

/-- What waits has waited before, or it is what the operation in progress has just called out. -/
theorem mem_suspended_goOn {p : Progress Outcome} (waits : s ∈ (d.goOn p).suspended) :
    s ∈ d.suspended ∨ ∃ w, p = .waiting s.call w s.resume := by
  cases p with
  | finished a w => exact Or.inl waits
  | waiting call w resume =>
      rcases List.mem_append.mp waits with old | new
      · exact Or.inl old
      · cases List.mem_singleton.mp new
        exact Or.inr ⟨w, rfl⟩

/-- Whatever waits at a desk is what is left of an act that was begun there. -/
theorem Reachable.underway (reachable : Reachable c d) :
    ∀ s ∈ d.suspended, ∃ act start, Reachable c start ∧ Underway c act start s d := by
  induction reachable with
  | opened shared => exact fun s member => nomatch member
  | @step d d' called before step ih =>
      have stays : ∀ s ∈ d.suspended, s ∈ d'.suspended →
          ∃ act start, Reachable c start ∧ Underway c act start s d' := by
        intro s member waits
        obtain ⟨act, start, reachable, underway⟩ := ih s member
        exact ⟨act, start, reachable, underway.meanwhile step waits⟩
      intro s member
      cases step with
      | act act =>
          rcases mem_suspended_goOn member with old | ⟨w, asks⟩
          · exact stays s old member
          · exact ⟨act, d, before, .asked asks⟩
      | reply waits reply =>
          rcases mem_suspended_goOn member with old | ⟨w, asks⟩
          · exact stays s (List.mem_of_mem_eraseIdx old) member
          · obtain ⟨act, start, reachable, underway⟩ := ih _ (List.mem_of_getElem? waits)
            exact ⟨act, start, reachable, underway.asksAgain waits reply asks⟩
      | others shared => exact stays s member member

/-- Whatever came between, an act goes on by what it found when it began. -/
theorem Underway.announces (underway : Underway c act start s d) :
    c.MayCall (act.purpose? c) s.call ∧ ∀ reply w,
      (s.resume reply w).Announces (act.brief c start.workspace) (fun _ => True)
        ((act.brief c start.workspace).footing.comesUpon ⟨s.call, reply⟩ w) := by
  induction underway with
  | asked asks =>
      rcases act.operation_announces c start.workspace with
        ⟨p, t, copy, purpose, -, -, w', -, -, same⟩ | announces
      · rw [asks] at same
        cases same
        -- a copy has answered: only the notice of the hit is out, and nothing follows it
        refine ⟨⟨?_, fun _ _ impossible => nomatch impossible⟩, fun reply w => ?_⟩
        · rintro _ ⟨⟩
          exact ⟨p, purpose, rfl⟩
        · exact ⟨Footing.comesUpon_nothing _ rfl w, trivial⟩
      · rw [asks] at announces
        exact ⟨announces.1, announces.2.2⟩
  | meanwhile _ _ _ ih => exact ih
  | @asksAgain s d n _ waits reply call w resume asks ih =>
      have announces := ih.2 reply d.workspace
      rw [asks] at announces
      exact ⟨announces.1, announces.2.2⟩

end Desk

end TrackedSettings
