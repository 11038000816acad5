import TrackedSettings.Proofs.Acts
import TrackedSettings.Proofs.Lookup

/-! # A veil over one value

Seen through a veil, a table has all its entries, but the value of one key does not show. A read that
does not ask for this very key goes on through the veil as it does without: it makes the same calls and
leaves the same notes, and its answer is the same, seen through the veil.
-/

namespace TrackedSettings

/-! ## Tables -/

/-- A table by name under a stem, without the value of `key`. -/
def Entries.veil (stem key : String) (t : Entries) : Entries :=
  t.map fun name v => if stem ++ name = key then none else v

namespace Entries

variable (t : Entries) (stem key : String)

theorem getElem?_veil (name : String) :
    (t.veil stem key)[name]? = t[name]?.map fun v => if stem ++ name = key then none else v := by
  rw [veil, Std.ExtTreeMap.getElem?_map]

theorem size_veil : (t.veil stem key).size = t.size :=
  Std.ExtTreeMap.size_map

theorem value_veil (name : String) :
    (t.veil stem key).value name = if stem ++ name = key then none else t.value name := by
  rw [value, getElem?_veil, value]
  cases t[name]? with
  | none => simp
  | some v => rfl

theorem scan_veil : (t.veil "" key).scan stem = (t.scan stem).veil "" key := by
  apply Std.ExtTreeMap.ext_getElem?
  intro other
  simp only [getElem?_scan, getElem?_veil]
  split <;> rfl

theorem strip_veil : (t.veil "" key).strip stem = (t.strip stem).veil stem key := by
  apply Std.ExtTreeMap.ext_getElem?
  intro name
  simp only [getElem?_strip, getElem?_veil, String.empty_append]

theorem insert_veil (name : String) :
    veil stem key (t.insert name none) = (t.veil stem key).insert name none := by
  apply Std.ExtTreeMap.ext_getElem?
  intro other
  simp only [getElem?_veil, Std.ExtTreeMap.getElem?_insert]
  by_cases same : compare name other = .eq
  · simp [same]
  · simp [same]

theorem veil_empty : veil stem key ∅ = ∅ := by
  apply Std.ExtTreeMap.ext_getElem?
  simp [getElem?_veil]

theorem choose_veil (names : List String) :
    (t.veil stem key).choose names = (t.choose names).veil stem key := by
  apply Std.ExtTreeMap.ext_getElem?
  intro name
  unfold choose
  split
  · simp only [getElem?_veil, Std.ExtTreeMap.getElem?_erase]
    split <;> rfl
  · simp only [getElem?_veil, getElem?_pick]
    split <;> rfl

end Entries

/-! ## Workspaces -/

def Copies.veil (key : String) (c : Copies) : Copies :=
  { c with listings := c.listings.map fun stem all => all.veil stem key }

theorem Copies.getElem?_veil (c : Copies) (key stem : String) :
    (c.veil key).listings[stem]? = c.listings[stem]?.map (·.veil stem key) := by
  rw [veil, Std.ExtTreeMap.getElem?_map]

theorem Copies.veil_empty (key : String) : ({} : Copies).veil key = {} := by
  have nothing : (∅ : Std.ExtTreeMap String Entries).map (fun stem all => all.veil stem key) = ∅ := by
    apply Std.ExtTreeMap.ext_getElem?
    simp
  rw [veil, nothing]

namespace Workspace

def veil (key : String) (w : Workspace) : Workspace :=
  { w with copies := w.copies.veil key }

variable (w : Workspace) (key : String) (topic : Topic)

theorem dropTracker_veil : (w.veil key).dropTracker topic = (w.dropTracker topic).veil key := by
  have trackers : (w.veil key).copies.trackers = w.copies.trackers := rfl
  unfold dropTracker
  rw [trackers]
  cases w.copies.trackers[topic]? <;> rfl

theorem dropCopy_veil : (w.veil key).dropCopy topic = (w.dropCopy topic).veil key := by
  cases topic with
  | key name => rfl
  | under stem =>
      have erased : (w.copies.veil key).listings.erase stem =
          (w.copies.listings.erase stem).map fun stem all => all.veil stem key := by
        apply Std.ExtTreeMap.ext_getElem?
        intro other
        simp only [Copies.veil, Std.ExtTreeMap.getElem?_erase, Std.ExtTreeMap.getElem?_map]
        split <;> rfl
      simp only [dropCopy, veil, Copies.veil] at erased ⊢
      rw [erased]

theorem evict_veil : (w.veil key).evict topic = (w.evict topic).veil key := by
  rw [evict, dropTracker_veil, dropCopy_veil, evict]

theorem validate_veil :
    (w.veil key).validate topic = ((w.validate topic).1, (w.validate topic).2.veil key) := by
  have trackers : (w.veil key).copies.trackers = w.copies.trackers := rfl
  have shared : (w.veil key).shared = w.shared := rfl
  have evicts : ∀ shared, evict { w.veil key with shared } topic =
      (evict { w with shared } topic).veil key :=
    fun shared => evict_veil { w with shared } key topic
  unfold validate
  rw [trackers, shared]
  cases w.copies.trackers[topic]? with
  | none => rfl
  | some t =>
      simp only [Tracker.check]
      cases t.look w.shared.slots with
      | error e => exact congrArg (Prod.mk _) (evicts _)
      | ok generation =>
          by_cases same : generation = t.generation
          · simp only [same, ↓reduceIte]
          · simp only [same, ↓reduceIte]
            exact congrArg (Prod.mk _) (evicts _)

theorem install_veil (t : Tracker) :
    (w.veil key).install t = ((w.install t).1, (w.install t).2.veil key) := by
  let bare := w.dropTracker t.topic
  let trackers := bare.copies.trackers.insert t.topic t
  unfold install
  rw [dropTracker_veil]
  exact validate_veil { bare with copies := { bare.copies with trackers } } key t.topic

/-- What is looked up through the veil is what is found without, as `seen` shows it. -/
theorem consult_veil {α : Type} {look : Copies → Option α} {seen : α → α}
    (shows : ∀ c, look (c.veil key) = (look c).map seen) :
    (w.veil key).consult topic look =
      (((w.consult topic look).1.1, (w.consult topic look).1.2.map seen),
        (w.consult topic look).2.veil key) := by
  unfold consult
  rw [validate_veil]
  cases w.validate topic with
  | mk verdict w' =>
      cases verdict with
      | current generation => exact congrArg (fun data => ((_, data), w'.veil key)) (shows w'.copies)
      | moved | broken | absent => rfl

variable {save veiled : Workspace → Workspace}

theorem saveUnder_veil (t : Tracker) (saves : ∀ w, veiled (w.veil key) = (save w).veil key) :
    (w.veil key).saveUnder t veiled = ((w.saveUnder t save).1, (w.saveUnder t save).2.veil key) := by
  unfold saveUnder
  rw [install_veil]
  cases w.install t with
  | mk verdict w' =>
      cases verdict with
      | current generation => exact congrArg _ (saves w')
      | moved | broken | absent => rfl

theorem saveAt_veil (generation : Int64) (saves : ∀ w, veiled (w.veil key) = (save w).veil key) :
    (w.veil key).saveAt topic generation veiled =
      ((w.saveAt topic generation save).1, (w.saveAt topic generation save).2.veil key) := by
  unfold saveAt
  rw [validate_veil]
  cases w.validate topic with
  | mk verdict w' =>
      cases verdict with
      | current now =>
          by_cases same : now = generation
          · simp only [same, ↓reduceIte, saves]
          · simp only [same, ↓reduceIte]
      | moved | broken | absent => rfl

end Workspace

/-! ## Operations -/

/-- What a reply shows of the settings, without the value of `key`. -/
def StoreCall.veil (key : String) : (call : StoreCall) → call.Reply → call.Reply
  | .list .., .ok (some listing) =>
      .ok (some { listing with entries := listing.entries.veil "" key })
  | _, reply => reply

def Outcall.veil (key : String) : (call : Outcall) → call.Reply → call.Reply
  | .store _ call, reply => call.veil key reply
  | .notify _, reply | .resolve .., reply => reply

/-- The call writes nothing, and does not ask for the value of `key` itself. -/
def StoreCall.Spares (key : String) : StoreCall → Prop
  | .get other _ | .query other _ => other ≠ key
  | .canList | .list .. => True
  | .put .. | .putAll .. | .delete .. | .reset .. => False

def Outcall.Spares (key : String) : Outcall → Prop
  | .store _ call => call.Spares key
  | .notify _ | .resolve .. => True

/-- The second operation goes on through the veil as the first does without, and ends with what the
first ends with, as `seen` shows it. -/
def Progress.Veiled {α : Type} (key : String) (seen : α → α) : Progress α → Progress α → Prop
  | finished a w, q => q = .finished (seen a) (w.veil key)
  | waiting call w resume, q => call.Spares key ∧ ∃ resume', q = .waiting call (w.veil key) resume' ∧
      ∀ reply v, (resume reply v).Veiled key seen (resume' (call.veil key reply) (v.veil key))

def Operation.Veiled {α : Type} (key : String) (seen : α → α) (op op' : Operation α) : Prop :=
  ∀ w, (op w).Veiled key seen (op' (w.veil key))

section Rules

variable {α β : Type} {key : String} {seen : α → α} {seen' : β → β}

theorem Progress.Veiled.andThen {p q : Progress α} {next next' : α → Operation β}
    (first : p.Veiled key seen q) (second : ∀ a, (next a).Veiled key seen' (next' (seen a))) :
    (p.andThen next).Veiled key seen' (q.andThen next') := by
  induction p generalizing q with
  | finished a w =>
      have same : q = .finished (seen a) (w.veil key) := first
      rw [same]
      exact second a w
  | waiting call w resume ih =>
      obtain ⟨spares, resume', rfl, goesOn⟩ := first
      exact ⟨spares, _, rfl, fun reply v => ih reply v (goesOn reply v)⟩

namespace Operation

variable {op op' : Operation α}

theorem Veiled.bind {next next' : α → Operation β} (first : op.Veiled key seen op')
    (second : ∀ a, (next a).Veiled key seen' (next' (seen a))) :
    (op >>= next).Veiled key seen' (op' >>= next') :=
  fun w => (first w).andThen second

theorem veiled_pure (a : α) : (pure a : Operation α).Veiled key seen (pure (seen a)) :=
  fun _ => rfl

/-- What a step answers without showing the value is the same through the veil. -/
theorem Veiled.next {next next' : α → Operation β} (first : op.Veiled key id op')
    (second : ∀ a, (next a).Veiled key seen' (next' a)) :
    (op >>= next).Veiled key seen' (op' >>= next') :=
  first.bind second

theorem veiled_change {step step' : Workspace → Workspace}
    (same : ∀ w, step' (w.veil key) = (step w).veil key) :
    (change step).Veiled key id (change step') :=
  fun w => congrArg (Progress.finished ()) (same w)

theorem veiled_locked {step step' : Workspace → α × Workspace}
    (same : ∀ w, step' (w.veil key) = (seen (step w).1, (step w).2.veil key)) :
    (locked step).Veiled key seen (locked step') :=
  fun w => congrArg (fun result : α × Workspace => Progress.finished result.1 result.2) (same w)

theorem veiled_ask (call : Outcall) (spares : call.Spares key) :
    (ask call).Veiled key (call.veil key) (ask call) :=
  fun _ => ⟨spares, .finished, rfl, fun _ _ => rfl⟩

theorem veiled_notify (event : Event) : (notify event).Veiled key id (notify event) :=
  veiled_ask (.notify event) trivial

theorem Veiled.map {f : α → β} (veiled : op.Veiled key seen op')
    (shows : ∀ a, f (seen a) = seen' (f a)) : (f <$> op).Veiled key seen' (f <$> op') := by
  rw [map_eq_pure_bind, map_eq_pure_bind]
  refine veiled.bind fun a => ?_
  rw [shows]
  exact veiled_pure _

end Operation

end Rules

namespace Cache

open Operation

variable {c : Cache} {key : String}

theorem note_veiled (level : Level) (text : String) :
    (c.note level text).Veiled key id (c.note level text) :=
  veiled_change fun _ => rfl

theorem remoteError_veiled (topic : Topic) (fault : Fault) :
    (c.remoteError topic fault).Veiled key id (c.remoteError topic fault) :=
  (note_veiled _ _).next fun _ => veiled_notify _

theorem report_veiled (topic : Topic) (verdict : Verdict) :
    (c.report topic verdict).Veiled key id (c.report topic verdict) := by
  cases verdict with
  | moved => exact (note_veiled _ _).next fun _ => veiled_notify _
  | broken e => exact veiled_notify _
  | current | absent => exact veiled_pure ()

theorem provider_veiled (caller : Caller) :
    (c.provider caller).Veiled key id (c.provider caller) := by
  have found : (locked fun w => (w.store, w)).Veiled key id (locked fun w => (w.store, w)) :=
    veiled_locked fun _ => rfl
  refine found.next fun known => ?_
  cases known with
  | some store => exact veiled_pure (Except.ok store)
  | none =>
      have noted : ∀ text, (change (·.note .debug text)).Veiled key id (change (·.note .debug text)) :=
        fun _ => veiled_change fun _ => rfl
      have asked : (ask (.resolve c.uri caller)).Veiled key id (ask (.resolve c.uri caller)) :=
        veiled_ask (.resolve c.uri caller) trivial
      refine (noted _).next fun _ => asked.next fun reply => ?_
      cases reply with
      | error e => exact veiled_pure (Except.error (Fault.unresolved c.uri (.store e)))
      | ok store =>
          refine Veiled.next (veiled_change fun _ => ?_) fun _ => veiled_pure (Except.ok store)
          rfl

/-- Where a read stands, with the data that it is answered by as `seen` shows them. -/
def seenStanding {α : Type} (seen : α → α) : Standing α → Standing α
  | .answered data => .answered (seen data)
  | .pending footing => .pending footing

theorem standing_veiled {α : Type} (keeps : Bool) (topic : Topic) {look : Copies → Option α}
    {seen : α → α} (shows : ∀ c, look (c.veil key) = (look c).map seen) :
    (c.standing keeps topic look).Veiled key (seenStanding seen)
      (c.standing keeps topic look) := by
  have stands : ∀ footing, (pure (.pending footing) : Operation (Standing α)).Veiled key
      (seenStanding seen) (pure (.pending footing)) :=
    fun footing => veiled_pure (Standing.pending footing)
  unfold standing
  cases keeps with
  | false => exact stands .outside
  | true =>
      have consulted : (locked (Workspace.consult topic look)).Veiled key
          (fun result => (result.1, result.2.map seen)) (locked (Workspace.consult topic look)) :=
        veiled_locked fun w => w.consult_veil key topic shows
      refine consulted.bind fun ⟨verdict, data⟩ => (report_veiled topic verdict).next fun _ => ?_
      cases verdict with
      | current generation =>
          cases data with
          | some data => exact veiled_pure (Standing.answered data)
          | none => exact stands (.vouched generation)
      | moved | broken | absent => cases data <;> exact stands .untracked

variable {save save' : Workspace → Workspace}

theorem saveVouched_veiled (topic : Topic) (generation : Int64)
    (saves : ∀ w, save' (w.veil key) = (save w).veil key) :
    (c.saveVouched topic generation save).Veiled key id (c.saveVouched topic generation save') := by
  have saved : (locked (Workspace.saveAt topic generation save)).Veiled key id
      (locked (Workspace.saveAt topic generation save')) :=
    veiled_locked fun w => w.saveAt_veil key topic generation saves
  exact saved.next fun verdict => report_veiled topic verdict

theorem saveGranted_veiled (topic : Topic) (g : Grant)
    (saves : ∀ w, save' (w.veil key) = (save w).veil key) :
    (c.saveGranted topic g save).Veiled key id (c.saveGranted topic g save') := by
  have placed : (locked (Workspace.saveUnder (.ofGrant topic g) save)).Veiled key id
      (locked (Workspace.saveUnder (.ofGrant topic g) save')) :=
    veiled_locked fun w => w.saveUnder_veil key _ saves
  refine placed.next fun verdict => ?_
  cases verdict with
  | moved => exact note_veiled _ _
  | broken e => exact veiled_notify _
  | current | absent => exact veiled_pure ()

theorem receive_veiled (topic : Topic) (footing : Footing) (grant : Option Grant)
    (saves : ∀ w, save' (w.veil key) = (save w).veil key) :
    (c.receive topic footing grant save).Veiled key id (c.receive topic footing grant save') := by
  cases grant with
  | none =>
      cases footing with
      | vouched generation => exact saveVouched_veiled topic generation saves
      | untracked | outside => exact veiled_pure ()
  | some g =>
      cases footing with
      | vouched | untracked => exact saveGranted_veiled topic g saves
      | outside => exact veiled_change fun _ => rfl

/-! ### Reading one key -/

theorem keepValue_veil (other suffix : String) (v : Value) (w : Workspace) :
    c.keepValue other suffix v (w.veil key) = (c.keepValue other suffix v w).veil key := rfl

theorem queryValue_veiled (store : StoreId) {other : String} (differs : other ≠ key) (user : UserId)
    (footing : Footing) :
    (c.queryValue store other user footing).Veiled key id
      (c.queryValue store other user footing) := by
  have asked : (ask (.store store (.query other { user }))).Veiled key id
      (ask (.store store (.query other { user }))) :=
    veiled_ask (.store store (.query other { user })) differs
  refine asked.next fun reply => ?_
  cases reply with
  | error e => exact (remoteError_veiled _ _).next fun _ => veiled_pure none
  | ok v =>
      have returned : (pure v : Operation Value).Veiled key id (pure v) := veiled_pure v
      cases footing with
      | vouched generation =>
          exact (saveVouched_veiled _ generation (keepValue_veil other _ v)).next fun _ => returned
      | untracked | outside => exact returned

theorem fetchValue_veiled {other : String} (differs : other ≠ key) (user : UserId)
    (footing : Footing) :
    (c.fetchValue other user footing).Veiled key id (c.fetchValue other user footing) := by
  refine (provider_veiled _).next fun found => ?_
  cases found with
  | error fault => exact (remoteError_veiled _ _).next fun _ => veiled_pure none
  | ok store =>
      have asked : ∀ request, (ask (.store store (.get other request))).Veiled key id
          (ask (.store store (.get other request))) :=
        fun request => veiled_ask (.store store (.get other request)) differs
      refine (veiled_notify _).next fun _ => (asked _).next fun reply => ?_
      match reply with
      | .error e =>
          exact (remoteError_veiled _ _).next fun _ => queryValue_veiled store differs user footing
      | .ok none => exact (note_veiled _ _).next fun _ => queryValue_veiled store differs user footing
      | .ok (some reading) =>
          exact (receive_veiled _ footing reading.grant (keepValue_veil other _ _)).next fun _ =>
            veiled_pure reading.value

/-- A cache that may not read the key never asks for it. -/
theorem value_veiled (barred : c.access.readable key c.caller = false) (other : String)
    (user : UserId) : (c.value other user).Veiled key id (c.value other user) := by
  let look (copies : Copies) : Option Value := copies.values[other]?
  have stands : (c.standing (c.keepsFor user) (.key other) look).Veiled key (seenStanding id)
      (c.standing (c.keepsFor user) (.key other) look) :=
    standing_veiled _ _ fun _ => Option.map_id'.symm
  refine (note_veiled _ _).next fun _ => stands.bind fun standing => ?_
  cases standing with
  | answered v =>
      exact (note_veiled _ _).next fun _ => (veiled_notify _).next fun _ =>
        veiled_pure (Except.ok v)
  | pending footing =>
      cases allowed : c.access.readable other c.caller with
      | true =>
          have differs : other ≠ key := by
            rintro rfl
            rw [barred] at allowed
            cases allowed
          simp only [seenStanding, ↓reduceIte]
          exact (fetchValue_veiled differs user footing).map fun _ => rfl
      | false =>
          simp only [seenStanding, Bool.false_eq_true, ↓reduceIte]
          exact veiled_pure (Except.error (Fault.denied other))

/-! ### Reading under a stem -/

theorem keepListing_veil (stem : String) (all : Entries) (w : Workspace) :
    c.keepListing stem (all.veil stem key) (w.veil key) = (c.keepListing stem all w).veil key := by
  have kept : (w.copies.listings.insert stem (all.insert emptyName none)).map
      (fun stem all => Entries.veil stem key all) =
        (w.copies.veil key).listings.insert stem ((all.veil stem key).insert emptyName none) := by
    apply Std.ExtTreeMap.ext_getElem?
    intro other
    simp only [Copies.veil, Std.ExtTreeMap.getElem?_map, Std.ExtTreeMap.getElem?_insert]
    split
    · next same => rw [← Std.LawfulEqOrd.eq_of_compare same, ← Entries.insert_veil]; rfl
    · rfl
  simp only [keepListing, Workspace.keepListing, Workspace.veil, Entries.size_veil, jot,
    Workspace.note, Copies.veil] at kept ⊢
  rw [kept]

theorem fetchListing_veiled (store : StoreId) (stem : String) (names : List String)
    (footing : Footing) :
    (c.fetchListing store stem names footing).Veiled key (·.veil stem key)
      (c.fetchListing store stem names footing) := by
  have nothing : (pure ∅ : Operation Entries).Veiled key (·.veil stem key) (pure ∅) := by
    intro w
    exact congrArg (Progress.finished · (w.veil key)) (Entries.veil_empty stem key).symm
  refine (veiled_notify _).next fun _ => (veiled_ask (.store store (.list stem _)) trivial).bind
    fun reply => ?_
  match reply with
  | .error e => exact (remoteError_veiled _ _).next fun _ => nothing
  | .ok none => exact (note_veiled _ _).next fun _ => nothing
  | .ok (some listing) =>
      simp only [Outcall.veil, StoreCall.veil, Entries.strip_veil, Entries.choose_veil]
      exact (receive_veiled _ footing listing.grant (keepListing_veil stem _)).next fun _ =>
        veiled_pure ((listing.entries.strip stem).choose names)

theorem listing_veiled (stem : String) (names : List String) :
    (c.listing stem names).Veiled key (·.veil stem key) (c.listing stem names) := by
  have nothing : (pure ∅ : Operation Entries).Veiled key (·.veil stem key) (pure ∅) := by
    intro w
    exact congrArg (Progress.finished · (w.veil key)) (Entries.veil_empty stem key).symm
  have shows : ∀ copies : Copies, (copies.veil key).listings[stem]?.map (·.choose names) =
      (copies.listings[stem]?.map (·.choose names)).map (·.veil stem key) := by
    intro copies
    rw [Copies.getElem?_veil, Option.map_map, Option.map_map]
    exact congrArg (Option.map · _) (funext fun all => all.choose_veil stem key names)
  refine (note_veiled _ _).next fun _ => (standing_veiled _ (.under stem) shows).bind
    fun standing => ?_
  cases standing with
  | answered entries =>
      exact (note_veiled _ _).next fun _ => (veiled_notify _).next fun _ => veiled_pure entries
  | pending footing =>
      refine (provider_veiled _).next fun found => ?_
      cases found with
      | error fault => exact (remoteError_veiled _ _).next fun _ => nothing
      | ok store =>
          have asked : (ask (.store store .canList)).Veiled key id (ask (.store store .canList)) :=
            veiled_ask (.store store .canList) trivial
          refine asked.next fun lists => ?_
          cases lists with
          | true => exact fetchListing_veiled store stem names footing
          | false => exact (note_veiled _ _).next fun _ => nothing

theorem named_veiled (stem name : String) :
    (c.named stem name).Veiled key (fun v => if stem ++ name = key then none else v)
      (c.named stem name) := by
  refine (listing_veiled stem [name]).bind fun entries => ?_
  rw [Entries.value_veil]
  exact veiled_pure (entries.value name)

end Cache

end TrackedSettings
