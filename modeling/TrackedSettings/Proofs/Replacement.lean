import TrackedSettings.Proofs.Alone
import TrackedSettings.Proofs.Undisturbed

/-! # A grant takes the place of a tracker

When an answer brings a grant, the tracker of the grant takes the place of whatever tracker the topic
had. If its slot still holds the generation that was handed out, the topic has this tracker now, and
exactly what the answer brought; else it has neither a tracker nor a copy. Nothing of what was there
before stays, whatever happened during the fetch, and the caller gets what was fetched all the same.
-/

namespace TrackedSettings

open Operation

/-! ## The step -/

/-- A slot reads the same after views were closed, if the view on it is none of them. -/
theorem Slots.Released.read {mine : View → Prop} {m m' : Slots} (released : m.Released mine m')
    {v : View} (apart : ∀ u, mine u → u.serial ≠ v.serial) (index : Nat) :
    m'.read v index = m.read v index := by
  have closed : m'.isClosed v = m.isClosed v := by
    rw [Bool.eq_iff_iff]
    refine ⟨fun shut => ?_, released.stays v⟩
    rcases released.mine v shut with before | ⟨u, named, same⟩
    · exact before
    · exact absurd same (apart u named)
  rw [Slots.read, closed, released.row, Slots.length, released.row]
  rfl

namespace Workspace

/-- The view is that of the topic's tracker, which is to close it. -/
def Holds (w : Workspace) (topic : Topic) (v : View) : Prop :=
  ∃ t, w.copies.trackers[topic]? = some t ∧ t.handle = .owned v

/-- What has come of a workspace once a copy came with a grant. -/
structure Replaced (w : Workspace) (copy : Copy) (g : Grant) (w' : Workspace) : Prop where
  /-- The slot holds what was handed out. -/
  installed : w.shared.slots.read g.handle.view g.index = .ok g.generation →
    w.copies.Put copy.topic (some (.ofGrant copy.topic g)) (some copy) w'.copies
  evicted : w.shared.slots.read g.handle.view g.index ≠ .ok g.generation →
    w.copies.Put copy.topic none none w'.copies
  /-- The tracker that was there has closed its view. -/
  oldClosed : ∀ v, w.Holds copy.topic v → w'.shared.slots.isClosed v = true
  newClosed : ∀ v, g.handle = .owned v → (w'.shared.slots.isClosed v = true ↔
    w.shared.slots.read g.handle.view g.index ≠ .ok g.generation)
  /-- No other views are closed, and the boards are as they were. -/
  released : w.shared.slots.Released (fun v => w.Holds copy.topic v ∨ g.handle = .owned v)
    w'.shared.slots

variable {w w' : Workspace} {copy : Copy} {g : Grant}

theorem Replaced.of_same {w'' : Workspace} (replaced : w.Replaced copy g w')
    (copies : w''.copies = w'.copies) (slots : w''.shared.slots = w'.shared.slots) :
    w.Replaced copy g w'' := by
  obtain ⟨installed, evicted, oldClosed, newClosed, released⟩ := replaced
  rw [← copies] at installed evicted
  rw [← slots] at oldClosed newClosed released
  exact ⟨installed, evicted, oldClosed, newClosed, released⟩

theorem closed_evict {topic : Topic} {t : Tracker} (held : w.copies.trackers[topic]? = some t)
    (alive : t.destroyed = false) {v : View} (owned : t.handle = .owned v) :
    (w.evict topic).shared.slots.isClosed v = true := by
  rw [evict, shared_dropCopy]
  exact closed_dropTracker held alive owned

/-- A tracker that does not read what it saw last is evicted when it is looked at. -/
theorem validate_evicts {topic : Topic} {t : Tracker} (held : w.copies.trackers[topic]? = some t)
    (moved : t.look w.shared.slots ≠ .ok t.generation) :
    ∃ verdict shared, w.validate topic = (verdict, evict { w with shared } topic) ∧
      verdict.evicts = true ∧ shared.slots = w.shared.slots := by
  unfold validate
  rw [held]
  simp only [Tracker.check]
  cases look : t.look w.shared.slots with
  | error e => exact ⟨.broken e, w.shared.note _ _, rfl, rfl, rfl⟩
  | ok generation =>
      have differs : generation ≠ t.generation := by
        rintro rfl
        exact moved look
      simp only [differs, ↓reduceIte]
      exact ⟨.moved, _, rfl, rfl, rfl⟩

theorem saveUnder_current {t : Tracker} (current : (w.replace t).Current t.topic t)
    (save : Workspace → Workspace) :
    w.saveUnder t save = (.current t.generation, save (w.replace t)) := by
  rw [saveUnder, install_eq, validate_current current]

theorem saveUnder_evicts {t : Tracker}
    (moved : t.look (w.replace t).shared.slots ≠ .ok t.generation) (save : Workspace → Workspace) :
    ∃ shared, (w.saveUnder t save).2 = evict { w.replace t with shared } t.topic ∧
      shared.slots = (w.replace t).shared.slots := by
  obtain ⟨verdict, shared, validated, evicts, slots⟩ :=
    validate_evicts (w.replace_put t).tracker moved
  refine ⟨shared, ?_, slots⟩
  rw [saveUnder, install_eq, validated]
  cases verdict with
  | moved | broken => rfl
  | current | absent => cases evicts

/-- The tracker of a grant is put in place with the copy that came with the grant, or the topic is
evicted. -/
theorem saveUnder_replaced {save : Workspace → Workspace} (saves : Saves save copy)
    (alive : ∀ t, w.copies.trackers[copy.topic]? = some t → t.destroyed = false)
    (apart : ∀ v, w.Holds copy.topic v → v.serial ≠ g.handle.view.serial) :
    w.Replaced copy g (w.saveUnder (.ofGrant copy.topic g) save).2 := by
  let t : Tracker := .ofGrant copy.topic g
  let w₁ := w.replace t
  have put : w.copies.Put copy.topic (some t) (w.copies.find? copy.topic) w₁.copies :=
    w.replace_put t
  have freed : w.shared.slots.Released (w.Holds copy.topic) w₁.shared.slots :=
    (w.dropTracker_sets copy.topic).slots.mono fun v held => held.resolve_left id
  have oldClosed : ∀ v, w.Holds copy.topic v → w₁.shared.slots.isClosed v = true := by
    rintro v ⟨old, held, owned⟩
    exact closed_dropTracker held (alive old held) owned
  have read : w₁.shared.slots.read g.handle.view g.index =
      w.shared.slots.read g.handle.view g.index := freed.read apart g.index
  by_cases same : w.shared.slots.read g.handle.view g.index = .ok g.generation
  · have current : w₁.Current copy.topic t := ⟨put.tracker, read.trans same⟩
    have result : (w.saveUnder t save).2 = save w₁ := by rw [saveUnder_current current]
    obtain ⟨saved, slots⟩ := saves w₁
    rw [put.tracker] at saved
    rw [result]
    refine ⟨fun _ => put.trans saved, fun moved => absurd same moved, ?_, ?_, ?_⟩
    · rw [slots]
      exact oldClosed
    · intro v owned
      have isOpen := (Slots.read_eq_ok_iff.mp (read.trans same)).1
      rw [owned, Handle.view] at isOpen
      rw [slots]
      exact iff_of_false (by rw [isOpen]; exact Bool.false_ne_true) (not_not_intro same)
    · rw [slots]
      exact freed.mono fun _ => Or.inl
  · obtain ⟨shared, result, slots⟩ :=
      saveUnder_evicts (t := t) (fun now => same (read.symm.trans now)) save
    have evicted := w₁.evict_sets copy.topic slots
    rw [result]
    refine ⟨fun now => absurd now same, fun _ => put.trans evicted.copies, ?_, ?_, ?_⟩
    · exact fun v held => evicted.slots.stays v (oldClosed v held)
    · exact fun v owned =>
        iff_of_true (closed_evict (w := { w₁ with shared }) put.tracker rfl owned) same
    · refine (freed.mono fun _ => Or.inl).trans (evicted.slots.mono ?_)
      rintro v (impossible | ⟨placed, held, owned⟩)
      · exact impossible.elim
      · rw [put.tracker] at held
        cases held
        exact Or.inr owned

theorem footing_ne_outside (w : Workspace) (topic : Topic) : w.footing true topic ≠ .outside := by
  unfold footing
  cases w.glance topic <;> exact fun impossible => nomatch impossible

end Workspace

/-! ## The read -/

/-- Whenever an answer brings a grant, the operation puts the grant's tracker in place with the copy,
and then it is over. It ends with what `shows` makes of the answer. -/
def Progress.Installs {α : Type} (c : Cache) (shows : Answer → α → Prop) : Progress α → Prop
  | finished .. => True
  | waiting call _ resume => ∀ reply w,
      (∀ copy g, Answer.brings ⟨call, reply⟩ = some (copy, some g) →
        ∃ save a, Workspace.Saves save copy ∧ shows ⟨call, reply⟩ a ∧
          resume reply w = (c.saveGranted copy.topic g save w).andThen
            fun _ => (pure a : Operation α)) ∧
      (resume reply w).Installs c shows

def Operation.Installs {α : Type} (c : Cache) (shows : Answer → α → Prop) (op : Operation α) : Prop :=
  ∀ w, (op w).Installs c shows

/-- No answer brings a grant. -/
def Operation.Grantless {α : Type} (c : Cache) (op : Operation α) : Prop :=
  op.Installs c fun _ _ => False

theorem Progress.Installs.andThen {α β : Type} {c : Cache} {p : Progress α}
    {shows : Answer → β → Prop} {next : α → Operation β} (first : p.Installs c fun _ _ => False)
    (second : ∀ a, (next a).Installs c shows) : (p.andThen next).Installs c shows := by
  induction p with
  | finished a w => exact second a w
  | waiting call w resume ih =>
      intro reply w'
      refine ⟨fun copy g brings => ?_, ih reply w' (first reply w').2⟩
      obtain ⟨_, _, _, impossible, _⟩ := (first reply w').1 copy g brings
      exact impossible.elim

namespace Operation

variable {α β : Type} {c : Cache} {shows : Answer → α → Prop} {op : Operation α}

theorem Grantless.bind {op : Operation β} {next : β → Operation α} (first : op.Grantless c)
    (second : ∀ a, (next a).Installs c shows) : (op >>= next).Installs c shows :=
  fun w => (first w).andThen second

theorem installs_pure (a : α) : (pure a : Operation α).Installs c shows :=
  fun _ => trivial

theorem grantless_change (step : Workspace → Workspace) : (change step).Grantless c :=
  fun _ => trivial

theorem grantless_locked (step : Workspace → α × Workspace) : (locked step).Grantless c :=
  fun _ => trivial

/-- A call that asks for no topic brings no grant. -/
theorem grantless_ask {call : Outcall} (plain : call.request? = none) : (ask call).Grantless c := by
  refine fun _ reply w => ⟨fun copy g brings => ?_, trivial⟩
  obtain ⟨request, asks⟩ := Answer.request_of_brings brings
  rw [plain] at asks
  cases asks

/-- The operation asks, and puts in place what comes with a grant. -/
theorem installs_ask {call : Outcall} {next : call.Reply → Operation α}
    (granted : ∀ reply copy g, Answer.brings ⟨call, reply⟩ = some (copy, some g) →
      ∃ save a, Workspace.Saves save copy ∧ shows ⟨call, reply⟩ a ∧
        next reply = c.saveGranted copy.topic g save >>= fun _ => (pure a : Operation α))
    (goesOn : ∀ reply, (next reply).Installs c shows) : (ask call >>= next).Installs c shows := by
  refine fun _ reply w => ⟨fun copy g brings => ?_, goesOn reply w⟩
  obtain ⟨save, a, saves, shown, same⟩ := granted reply copy g brings
  exact ⟨save, a, saves, shown, congrFun same w⟩

end Operation

theorem Progress.Installs.map {α β : Type} {c : Cache} {op : Operation α} {w : Workspace}
    {f : α → β} {shows : Answer → α → Prop} {shows' : Answer → β → Prop}
    (installs : (op w).Installs c shows) (shown : ∀ answer a, shows answer a → shows' answer (f a)) :
    ((f <$> op) w).Installs c shows' := by
  rw [map_eq_pure_bind, bind_apply]
  generalize op w = p at installs
  induction p with
  | finished a w => trivial
  | waiting call w resume ih =>
      intro reply w'
      obtain ⟨goesOn, rest⟩ := installs reply w'
      refine ⟨fun copy g brings => ?_, ih reply w' rest⟩
      obtain ⟨save, a, saves, shows, same⟩ := goesOn copy g brings
      refine ⟨save, f a, saves, shown _ _ shows, ?_⟩
      change (resume reply w').andThen (fun a => (pure (f a) : Operation β)) = _
      rw [same]
      exact Progress.andThen_assoc _ _ _

namespace Cache

open Operation

variable {c : Cache}

theorem grantless_remoteError (topic : Topic) (fault : Fault) :
    (c.remoteError topic fault).Grantless c :=
  (grantless_change _).bind fun _ => grantless_ask rfl

theorem grantless_report (topic : Topic) (verdict : Verdict) :
    (c.report topic verdict).Grantless c := by
  cases verdict with
  | moved => exact (grantless_change _).bind fun _ => grantless_ask rfl
  | broken e => exact grantless_ask rfl
  | current | absent => exact installs_pure ()

theorem grantless_provider (caller : Caller) : (c.provider caller).Grantless c := by
  refine (grantless_locked _).bind fun known => ?_
  cases known with
  | some store => exact installs_pure _
  | none =>
      refine (grantless_change _).bind fun _ => (grantless_ask rfl).bind fun found => ?_
      cases found with
      | ok store => exact (grantless_change _).bind fun _ => installs_pure _
      | error e => exact installs_pure _

theorem grantless_saveGranted (topic : Topic) (g : Grant) (save : Workspace → Workspace) :
    (c.saveGranted topic g save).Grantless c := by
  refine (grantless_locked _).bind fun verdict => ?_
  cases verdict with
  | moved => exact grantless_change _
  | broken e => exact grantless_ask rfl
  | current | absent => exact installs_pure ()

theorem grantless_receive (topic : Topic) (footing : Footing) (grant : Option Grant)
    (save : Workspace → Workspace) : (c.receive topic footing grant save).Grantless c := by
  cases footing <;> cases grant
  · exact (grantless_locked _).bind fun verdict => grantless_report _ _
  · exact grantless_saveGranted _ _ _
  · exact installs_pure ()
  · exact grantless_saveGranted _ _ _
  · exact installs_pure ()
  · exact grantless_change _

/-- A read that may keep what the store brings puts what has come with a grant in place. -/
theorem receive_granted {footing : Footing} (keeps : footing ≠ .outside) (topic : Topic) (g : Grant)
    (save : Workspace → Workspace) :
    c.receive topic footing (some g) save = c.saveGranted topic g save := by
  cases footing with
  | outside => exact absurd rfl keeps
  | untracked | vouched => rfl

theorem queryValue_installs {shows : Answer → Value → Prop} (store : StoreId) (key : String)
    (user : UserId) (footing : Footing) :
    (c.queryValue store key user footing).Installs c shows := by
  refine installs_ask (fun reply copy g brings => ?_) fun reply => ?_
  · cases reply <;> cases brings
  · cases reply with
    | ok v =>
        cases footing with
        | vouched generation =>
            have saved : (c.saveVouched (.key key) generation
                (c.keepValue key " from query" v)).Grantless c :=
              (grantless_locked _).bind fun _ => grantless_report _ _
            exact saved.bind fun _ => installs_pure v
        | untracked | outside => exact installs_pure v
    | error e => exact (grantless_remoteError _ _).bind fun _ => installs_pure none

theorem fetchValue_installs {footing : Footing} (keeps : footing ≠ .outside) (key : String)
    (user : UserId) : (c.fetchValue key user footing).Installs c (Answer.ShowsValue key) := by
  refine (grantless_provider _).bind fun found => ?_
  cases found with
  | error fault => exact (grantless_remoteError _ _).bind fun _ => installs_pure none
  | ok store =>
      refine (grantless_ask rfl).bind fun _ => installs_ask (fun reply copy g brings => ?_) ?_
      · match reply with
        | .ok (some ⟨v, grant⟩) =>
            cases brings
            refine ⟨c.keepValue key "" v, v, c.keepValue_saves key "" v, ⟨_, rfl⟩, ?_⟩
            change (c.receive (.key key) footing (some g) _ >>= fun _ => pure v) = _
            rw [receive_granted keeps]
            rfl
        | .ok none => cases brings
        | .error e => cases brings
      · intro reply
        match reply with
        | .ok (some reading) => exact (grantless_receive _ _ _ _).bind fun _ => installs_pure _
        | .ok none =>
            exact (grantless_change _).bind fun _ => queryValue_installs store key user footing
        | .error e =>
            exact (grantless_remoteError _ _).bind fun _ => queryValue_installs store key user footing

theorem fetchListing_installs {footing : Footing} (keeps : footing ≠ .outside) (store : StoreId)
    (stem : String) (names : List String) :
    (c.fetchListing store stem names footing).Installs c (Answer.ShowsListing stem names) := by
  refine (grantless_ask rfl).bind fun _ => installs_ask (fun reply copy g brings => ?_) ?_
  · match reply with
    | .ok (some ⟨entries, grant⟩) =>
        cases brings
        refine ⟨c.keepListing stem (entries.strip stem), (entries.strip stem).choose names,
          c.keepListing_saves stem _, ⟨_, _, _, rfl, rfl⟩, ?_⟩
        change (c.receive (.under stem) footing (some g) _ >>= fun _ => pure _) = _
        rw [receive_granted keeps]
        rfl
    | .ok none => cases brings
    | .error e => cases brings
  · intro reply
    match reply with
    | .ok (some listing) => exact (grantless_receive _ _ _ _).bind fun _ => installs_pure _
    | .ok none => exact (grantless_change _).bind fun _ => installs_pure ∅
    | .error e => exact (grantless_remoteError _ _).bind fun _ => installs_pure ∅

/-- What a read begins with, brings no grant, and then it knows its footing. -/
theorem standing_installs {α β : Type} {shows : Answer → β → Prop} {keeps : Bool} {topic : Topic}
    {look : Copies → Option α} {w : Workspace} {next : Standing α → Operation β}
    (answered : ∀ data, (next (.answered data)).Installs c shows)
    (pending : (next (.pending (w.footing keeps topic))).Installs c shows) :
    ((c.standing keeps topic look >>= next) w).Installs c shows := by
  rw [bind_apply]
  rcases c.standing_eq keeps topic look w with ⟨data, _, _, _, _, same⟩ | same
  · rw [same]
    exact answered data w
  · rw [same]
    refine (congrArg (Progress.Installs c shows) (Progress.andThen_assoc _ _ _)).mpr ?_
    exact (grantless_report _ _ _).andThen fun _ => pending

theorem value_installs (c : Cache) (key : String) {user : UserId} (keeps : c.keepsFor user = true)
    (w : Workspace) :
    (c.value key user w).Installs c fun a result =>
      ∃ v, a.ShowsValue key v ∧ result = .ok v := by
  have known : w.footing (c.keepsFor user) (.key key) ≠ .outside := by
    rw [keeps]
    exact w.footing_ne_outside _
  refine standing_installs (fun v => ?_) ?_
  · exact (grantless_change _).bind fun _ => (grantless_ask rfl).bind fun _ => installs_pure _
  · simp only
    split
    · exact fun w' => (fetchValue_installs known key user w').map fun a v shown => ⟨v, shown, rfl⟩
    · exact installs_pure _

theorem listing_installs (c : Cache) (stem : String) (names : List String)
    (client : c.caller.atStore = false) (w : Workspace) :
    (c.listing stem names w).Installs c (Answer.ShowsListing stem names) := by
  have known : w.footing (!c.caller.atStore) (.under stem) ≠ .outside := by
    rw [client]
    exact w.footing_ne_outside _
  refine standing_installs (fun entries => ?_) ?_
  · exact (grantless_change _).bind fun _ => (grantless_ask rfl).bind fun _ => installs_pure _
  · refine (grantless_provider _).bind fun found => ?_
    cases found with
    | error fault => exact (grantless_remoteError _ _).bind fun _ => installs_pure _
    | ok store =>
        refine (grantless_ask rfl).bind fun lists => ?_
        split
        · exact fetchListing_installs known store stem names
        · exact (grantless_change _).bind fun _ => installs_pure _

end Cache

/-- What an act yields shows what an answer has brought. -/
def CacheAct.Shows (act : CacheAct) (a : Answer) (outcome : Outcome) : Prop :=
  match act with
  | .value key _ => ∃ v, a.ShowsValue key v ∧ outcome = .read (.ok v)
  | .listing stem names => ∃ entries, a.ShowsListing stem names entries ∧ outcome = .entries entries
  | .named stem name =>
      ∃ entries, a.ShowsListing stem [name] entries ∧ outcome = .value (entries.value name)
  | _ => False

theorem CacheAct.operation_installs {c : Cache} {act : CacheAct} {p : Purpose}
    (purpose : act.purpose? c = some p) (keeps : p.keeps = true) (w : Workspace) :
    (act.operation c w).Installs c act.Shows := by
  cases act with
  | value key user =>
      cases purpose
      refine (c.value_installs key keeps w).map ?_
      rintro a _ ⟨v, shown, rfl⟩
      exact ⟨v, shown, rfl⟩
  | listing stem names =>
      cases purpose
      have client : c.caller.atStore = false := by simpa using keeps
      exact (c.listing_installs stem names client w).map fun a entries shown => ⟨entries, shown, rfl⟩
  | named stem name =>
      cases purpose
      have client : c.caller.atStore = false := by simpa using keeps
      have named : (c.named stem name w).Installs c fun a v =>
          ∃ entries, a.ShowsListing stem [name] entries ∧ v = entries.value name :=
        (c.listing_installs stem [name] client w).map fun a entries shown => ⟨entries, shown, rfl⟩
      refine named.map ?_
      rintro a _ ⟨entries, shown, rfl⟩
      exact ⟨entries, shown, rfl⟩
  | put | putAll | delete | reset | copy | isTracked | clear | forget | profile | readable
  | provider | unresolve | heard => cases purpose

/-! ## At a desk -/

namespace Desk

variable {c : Cache} {act : CacheAct} {start d : Desk} {s : Suspension}

/-- Whatever came between, what is left of a read puts in place what comes with a grant. -/
theorem Underway.installs (underway : Underway c act start s d) {p : Purpose}
    (purpose : act.purpose? c = some p) (keeps : p.keeps = true) (w : Workspace) :
    (Progress.waiting s.call w s.resume).Installs c act.Shows := by
  induction underway with
  | asked asks =>
      have installs := act.operation_installs purpose keeps start.workspace
      rw [asks] at installs
      exact installs
  | meanwhile _ _ _ ih => exact ih
  | @asksAgain s d n _ waits reply call w' resume asks ih =>
      have installs := (ih reply d.workspace).2
      rw [asks] at installs
      exact installs

/-- What is left at the desk when a grant has come, is what the step leaves. -/
theorem goOn_saveGranted (d : Desk) (w : Workspace) (topic : Topic) (g : Grant)
    (save : Workspace → Workspace) (outcome : Outcome) :
    let left := (d.goOn ((c.saveGranted topic g save w).andThen
      fun _ => (pure outcome : Operation Outcome))).workspace
    left.copies = (w.saveUnder (.ofGrant topic g) save).2.copies ∧
      left.shared.slots = (w.saveUnder (.ofGrant topic g) save).2.shared.slots := by
  unfold Cache.saveGranted
  simp only [bind_apply, locked_apply]
  generalize w.saveUnder (.ofGrant topic g) save = result
  obtain ⟨verdict, w'⟩ := result
  cases verdict <;> exact ⟨rfl, rfl⟩

/-- Whenever an answer brings a read that may keep it a grant, asked for or not, the grant's tracker
and what the answer brought are in place afterwards, or the topic has neither a tracker nor a copy,
as the slot says by then. Either way the read yields what was brought. The grant must not be for a
view that the old tracker is to close. -/
theorem installed_or_evicted (reachable : Reachable c start) (underway : Underway c act start s d)
    {p : Purpose} (purpose : act.purpose? c = some p) (keeps : p.keeps = true) (n : Nat)
    (reply : s.call.Reply) {copy : Copy} {g : Grant}
    (brings : Answer.brings ⟨s.call, reply⟩ = some (copy, some g))
    (apart : ∀ v, d.workspace.Holds copy.topic v → v.serial ≠ g.handle.view.serial) :
    d.workspace.Replaced copy g (d.replied n s reply).workspace ∧
      (s.resume reply d.workspace).Concludes fun _ outcome _ => act.Shows ⟨s.call, reply⟩ outcome := by
  obtain ⟨save, outcome, saves, shown, goesOn⟩ :=
    (underway.installs purpose keeps d.workspace reply d.workspace).1 copy g brings
  have granted := (trackers_match_copies (underway.since reachable).1).trackers_granted copy.topic
  constructor
  · have replaced : d.workspace.Replaced copy g _ :=
      Workspace.saveUnder_replaced saves (fun t held => (granted t held).2.1) apart
    rw [replied, goesOn]
    obtain ⟨copies, slots⟩ := goOn_saveGranted (c := c) _ d.workspace copy.topic g save outcome
    exact replaced.of_same copies slots
  · rw [goesOn]
    exact (Cache.saveGranted_concludes copy.topic g).andThen fun _ _ _ _ => shown

/-- A grant for a view of the reader's own. -/
def ownView (serial : Nat) : Grant :=
  { handle := .owned { serial, board := 0, owner := false }, index := 0, generation := 0 }

/-- The desk of a cache that has read a key, got a view of its own, and was told to forget the copy. -/
def ownForgotten : Desk where
  workspace :=
    { copies :=
        { values := (({} : Entries).insert "volume" (some "7")).erase "volume"
          trackers := .insert {} (.key "volume") (.ofGrant (.key "volume") (ownView 1)) }
      store := some 0
      shared := { slots := { boards := #[#[0]], issued := 3 } } }
  received := [(.key "volume", ownView 1)]
  forgetful := true

theorem reachable_ownForgotten : Reachable { uri := "settings:main" } ownForgotten := by
  have opened : Reachable { uri := "settings:main" } _ :=
    .opened { slots := { boards := #[#[0]], issued := 3 } }
  have begun := opened.step (.act _ (.value "volume" 0))
  have found := begun.step (.reply _ (n := 0) rfl (Except.ok 0))
  have told := found.step (.reply _ (n := 0) rfl ())
  have read := told.step
    (.reply _ (n := 0) rfl (Except.ok (some { value := some "7", grant := some (ownView 1) })))
  have forgot := read.step (.act _ (.forget (.key "volume")))
  exact forgot.step (.others _ { slots := { boards := #[#[0]], issued := 3 } })

/-- The key is read again, and a grant comes that was not asked for. The view of the first grant is
closed, and the tracker of the second has come in its place. -/
theorem installed_or_evicted_unasked :
    ∃ w w' : Workspace, w.Holds (.key "volume") { serial := 1, board := 0, owner := false } ∧
      w.Replaced (.value "volume" (some "8")) (ownView 2) w' ∧
      w'.copies.trackers[Topic.key "volume"]? = some (.ofGrant (.key "volume") (ownView 2)) := by
  have asked : Underway { uri := "settings:main" } (.value "volume" 0) ownForgotten _ _ := .asked rfl
  have told := asked.asksAgain (n := 0) rfl () rfl
  have holds : ∀ v, ownForgotten.workspace.Holds (.key "volume") v → v.serial = 1 := by
    rintro v ⟨t, held, owned⟩
    cases (show some (Tracker.ofGrant (.key "volume") (ownView 1)) = some t from held)
    cases owned
    rfl
  have replaced := (installed_or_evicted reachable_ownForgotten told rfl rfl 0
    (Except.ok (some { value := some "8", grant := some (ownView 2) })) rfl
    fun v held => by rw [holds v held]; decide).1
  exact ⟨_, _, ⟨_, rfl, rfl⟩, replaced, (replaced.installed rfl).tracker⟩

end Desk

end TrackedSettings
