import TrackedSettings.Proofs.Hits
import TrackedSettings.Proofs.Subsets

/-! # The store that is held

A cache looks for its store when an act first needs it. What the resolver finds is held, and whatever
is asked later is asked there, until the cache is made to forget it. An act makes there the calls that
are its own, for the user that it was given, and shows what comes back. A failure is not held: the act
that needed the store comes back with it, and the next one that needs the store looks again.
-/

namespace TrackedSettings

open Operation

/-! ## Lookups and calls -/

/-- The resolver's reply, if the resolver was asked. -/
def Exchange.resolution? : Exchange → Option (Except StoreError StoreId)
  | ⟨.resolve .., reply, _⟩ => some reply
  | ⟨.notify _, _, _⟩ | ⟨.store .., _, _⟩ => none

/-- The store that was called, if one was. -/
def Exchange.called? : Exchange → Option StoreId
  | ⟨.store store _, _, _⟩ => some store
  | ⟨.notify _, _, _⟩ | ⟨.resolve .., _, _⟩ => none

/-- What the resolver has replied. -/
def resolutions (trace : List Exchange) : List (Except StoreError StoreId) :=
  trace.filterMap Exchange.resolution?

/-- The stores that were called. -/
def calledStores (trace : List Exchange) : List StoreId :=
  trace.filterMap Exchange.called?

/-- What was exchanged with stores: the calls in full, and the replies to them. -/
def storeCalls (trace : List Exchange) : List Exchange :=
  trace.filter fun e => e.called?.isSome

theorem filterMap_storeCalls (trace : List Exchange) :
    (storeCalls trace).filterMap Exchange.called? = calledStores trace := by
  induction trace with
  | nil => rfl
  | cons e rest ih =>
      unfold storeCalls calledStores at *
      rw [List.filterMap_cons]
      cases called : e.called? <;> simp [called, ih]

@[simp] theorem storeCalls_append (before after : List Exchange) :
    storeCalls (before ++ after) = storeCalls before ++ storeCalls after :=
  List.filter_append ..

@[simp] theorem storeCalls_cons_store (store : StoreId) (call : StoreCall) (reply : call.Reply)
    (shared : Shared) (rest : List Exchange) :
    storeCalls (⟨.store store call, reply, shared⟩ :: rest) =
      ⟨.store store call, reply, shared⟩ :: storeCalls rest :=
  rfl

/-- To tell the observer is not to call a store. -/
theorem Tells.storeCalls_eq {event? : Option Event} {trace : List Exchange}
    (tells : Tells event? trace) : storeCalls trace = [] := by
  rcases tells.cases with ⟨-, rfl⟩ | ⟨_, _, -, rfl⟩ <;> rfl

/-- No store is called but `store?`, the resolver is not asked, and no hit is told. -/
def Plain (store? : Option StoreId) (trace : List Exchange) : Prop :=
  ∀ e ∈ trace, e.resolution? = none ∧ e.call.tellsHit = false ∧
    ∀ store, e.called? = some store → store? = some store

namespace Plain

variable {store? : Option StoreId} {trace before after : List Exchange}

theorem nil : Plain store? [] := by simp [Plain]

theorem append (first : Plain store? before) (second : Plain store? after) :
    Plain store? (before ++ after) := by
  simp only [Plain, List.forall_mem_append] at *
  exact ⟨first, second⟩

theorem call {store : StoreId} {call : StoreCall} {reply : call.Reply} {shared : Shared}
    (rest : Plain (some store) trace) :
    Plain (some store) (⟨.store store call, reply, shared⟩ :: trace) := by
  simp only [Plain, List.forall_mem_cons]
  exact ⟨⟨rfl, rfl, fun _ same => same⟩, rest⟩

theorem notify {event : Event} {shared : Shared} (other : (Outcall.notify event).tellsHit = false) :
    Plain store? [⟨.notify event, (), shared⟩] := by
  simp [Plain, Exchange.resolution?, Exchange.called?, other]

theorem notice {event : Event} (tells : Tells (some event) trace)
    (other : (Outcall.notify event).tellsHit = false) : Plain store? trace := by
  obtain ⟨shared, rfl⟩ := tells.singleton
  exact notify other

theorem loss {event? : Option Event} (tells : Tells event? trace)
    (loss : ∀ event, event? = some event → event.tellsLoss = true) : Plain store? trace := by
  rcases tells.of_loss loss with rfl | ⟨_, _, rfl⟩ | ⟨_, _, _, rfl⟩
  · exact nil
  · exact notify rfl
  · exact notify rfl

theorem resolutions_eq (plain : Plain store? trace) : resolutions trace = [] :=
  List.filterMap_eq_nil_iff.mpr fun e member => (plain e member).1

theorem of_mem_calledStores (plain : Plain store? trace) {store : StoreId}
    (called : store ∈ calledStores trace) : store? = some store := by
  obtain ⟨e, member, called⟩ := List.mem_filterMap.mp called
  exact (plain e member).2.2 store called

theorem storeCalls_eq (plain : Plain none trace) : storeCalls trace = [] := by
  refine List.filter_eq_nil_iff.mpr fun e member called => ?_
  obtain ⟨store, called⟩ := Option.isSome_iff_exists.mp called
  cases (plain e member).2.2 store called

theorem calledStores_eq (plain : Plain none trace) : calledStores trace = [] := by
  rw [← filterMap_storeCalls, plain.storeCalls_eq, List.filterMap_nil]

end Plain

namespace Cache

variable {c : Cache} {w left : Workspace} {store : StoreId} {footing : Footing}
  {found kept : Copies} {trace : List Exchange}

theorem ValueQueried.plain {key : String} {user : UserId} {v : Value}
    (queried : ValueQueried store footing found key user trace v kept) :
    Plain (some store) trace := by
  cases queried with
  | answered v shared tells => exact .call (.loss tells fun _ => Footing.tellsLoss)
  | failed e shared tells => exact .call (.notice tells rfl)

theorem ValueGot.plain {key : String} {request : ReadRequest} {v : Value}
    (got : ValueGot store footing found key request trace v kept) : Plain (some store) trace := by
  cases got with
  | read reading shared tells => exact .call (.loss tells fun _ => Footing.tellsLoss)
  | missing shared queries => exact .call queries.plain
  | failed e shared tells queries =>
      exact .call (.append (.notice tells rfl) queries.plain)

theorem ListingGot.plain {stem : String} {request : ReadRequest} {names : List String}
    {result : Entries} (got : ListingGot store footing found stem request names trace result kept) :
    Plain (some store) trace := by
  cases got with
  | read listing shared tells => exact .call (.loss tells fun _ => Footing.tellsLoss)
  | missing shared => exact .call .nil
  | failed e shared tells => exact .call (.notice tells rfl)

theorem Finding.asks {known : Option StoreId} {provided : Except Fault StoreId}
    (finds : c.Finding known trace provided) : ∀ e ∈ trace, e.call = .resolve c.uri c.caller := by
  cases finds <;> simp

theorem Finding.storeCalls_eq {known : Option StoreId} {provided : Except Fault StoreId}
    (finds : c.Finding known trace provided) : storeCalls trace = [] := by
  cases finds <;> rfl

theorem Finding.lookups {known : Option StoreId} {provided : Except Fault StoreId}
    (finds : c.Finding known trace provided) :
    (resolutions trace).length = if known = none then 1 else 0 := by
  cases finds with
  | known same => simp [same, resolutions]
  | found unknown store shared => simp [unknown, resolutions, Exchange.resolution?]
  | failed unknown e shared => simp [unknown, resolutions, Exchange.resolution?]

theorem Finding.holds {known : Option StoreId} {provided : Except Fault StoreId}
    (finds : c.Finding known trace provided) :
    known.or ((resolutions trace).findSome? Except.toOption) = provided.toOption := by
  cases finds with
  | known same => simp [same, Except.toOption]
  | found unknown store shared => simp [unknown, resolutions, Exchange.resolution?, Except.toOption]
  | failed unknown e shared => simp [unknown, resolutions, Exchange.resolution?, Except.toOption]

theorem Finding.fails {known : Option StoreId} {provided : Except Fault StoreId} {e : StoreError}
    (finds : c.Finding known trace provided) (failed : .error e ∈ resolutions trace) :
    provided = .error (.unresolved c.uri (.store e)) := by
  cases finds with
  | known | found => simp [resolutions, Exchange.resolution?] at failed
  | failed unknown e' shared =>
      cases List.mem_singleton.mp failed
      rfl

end Cache

/-! ## Writes -/

/-- What a write shows of the store's reply. -/
def relayed {α : Type} (reply : Except StoreError α) : Except Fault α :=
  reply.mapError fun e => .remote (.store e)

namespace Cache

/-- The ways that a call to the cache's store can go. The store is found first, and then it is called
once; `answers` says what comes of its reply. The copies are left alone. -/
inductive Submitted {α : Type} (c : Cache) (w : Workspace) (call : StoreCall)
    (answers : call.Reply → Except Fault α) : List Exchange → Except Fault α → Workspace → Prop where
  | unprovided {lookup : List Exchange} {fault : Fault} {left : Workspace}
      (finds : c.Finding w.store lookup (.error fault)) (kept : left.copies = w.copies)
      (leaves : left.store = none) : Submitted c w call answers lookup (.error fault) left
  | made {lookup : List Exchange} {store : StoreId} {left : Workspace} (reply : call.Reply)
      (shared : Shared) (finds : c.Finding w.store lookup (.ok store))
      (kept : left.copies = w.copies) (leaves : left.store = some store) :
      Submitted c w call answers (lookup ++ [⟨.store store call, reply, shared⟩]) (answers reply) left

theorem submit_traces {α : Type} (c : Cache) (call : StoreCall)
    (result : call.Reply → Except StoreError α) (w : Workspace) :
    (c.submit call result w).Traces (c.Submitted w call fun reply => relayed (result reply)) := by
  refine (provider_traces c).andThen fun lookup provided w' ⟨finds, kept, knows⟩ => ?_
  cases provided with
  | error fault =>
      rw [← List.append_nil lookup] at finds
      exact .unprovided finds kept knows
  | ok store => exact fun reply shared => .made reply shared finds kept knows

/-- A note beforehand changes nothing that a call depends on. -/
theorem noted_submit_traces {α : Type} (c : Cache) (level : Level) (text : String)
    (call : StoreCall) (result : call.Reply → Except StoreError α) (w : Workspace) :
    ((c.note level text >>= fun _ => c.submit call result) w).Traces
      (c.Submitted w call fun reply => relayed (result reply)) := by
  refine (c.submit_traces call result (c.jot level text w)).mono fun trace answer left submitted => ?_
  cases submitted with
  | unprovided finds kept leaves => exact .unprovided finds kept leaves
  | made reply shared finds kept leaves => exact .made reply shared finds kept leaves

theorem put_traces (c : Cache) (key : String) (value : Value) (user : UserId) (w : Workspace) :
    (c.put key value user w).Traces (c.Submitted w (.put key value user) relayed) :=
  c.noted_submit_traces _ _ _ _ w

theorem putAll_traces (c : Cache) (stem : String) (values : Entries) (user : UserId)
    (w : Workspace) :
    (c.putAll stem values user w).Traces (c.Submitted w (.putAll stem values user) relayed) :=
  c.noted_submit_traces _ _ _ _ w

theorem delete_traces (c : Cache) (key : String) (user : UserId) (w : Workspace) :
    (c.delete key user w).Traces (c.Submitted w (.delete key user) relayed) :=
  c.noted_submit_traces _ _ _ _ w

theorem reset_traces (c : Cache) (stem : Option String) (user : UserId) (w : Workspace) :
    (c.reset stem user w).Traces (c.Submitted w (.reset stem user) relayed) :=
  c.noted_submit_traces _ _ _ _ w

end Cache

/-! ## Acts and the store -/

/-- The observer is told of a hit. -/
def TellsHit (trace : List Exchange) : Prop :=
  ∃ e ∈ trace, e.call.tellsHit = true

/-- A read was refused. -/
def Outcome.Denied (outcome : Outcome) : Prop :=
  ∃ key, outcome = .read (.error (.denied key))

def CacheAct.isRead : CacheAct → Bool
  | .value .. | .listing .. | .named .. => true
  | _ => false

/-- The act makes the cache forget its store. -/
def CacheAct.resets : CacheAct → Bool
  | .clear | .unresolve => true
  | _ => false

/-- The act cannot do without a store: it writes or looks for the store itself, or it is a read that
no copy answers and that may be made. -/
def CacheAct.needsStore (c : Cache) (w : Workspace) : CacheAct → Bool
  | .value key user =>
      (w.recalls (c.keepsFor user) (.key key) (·.values[key]?)).isNone &&
        c.access.readable key c.caller
  | .listing stem _ | .named stem _ =>
      (w.recalls (!c.caller.atStore) (.under stem) (·.listings[stem]?)).isNone
  | .put .. | .putAll .. | .delete .. | .reset .. | .provider _ => true
  | .copy _ | .isTracked _ | .clear | .forget _ | .profile | .readable _ | .unresolve | .heard =>
      false

/-- The cache, with the caller on whose behalf the act looks for the store. -/
def CacheAct.asker (c : Cache) : CacheAct → Cache
  | .provider caller => { c with caller := caller.getD c.caller }
  | _ => c

/-- What comes of an act that needs a store if there is none. -/
def CacheAct.unprovided (fault : Fault) : CacheAct → Outcome
  | .provider _ => .found (.error fault)
  | .put .. | .putAll .. | .reset .. => .written (.error fault)
  | .delete .. => .deleted (.error fault)
  | .value .. => .read (.ok none)
  | .listing .. => .entries ∅
  | .named .. => .value none
  | .copy _ | .isTracked _ | .clear | .forget _ | .profile | .readable _ | .unresolve | .heard =>
      .inapplicable

/-- All that an act that needs `store` exchanges with stores, and the outcome that it makes of the
replies. -/
inductive CacheAct.ServedBy (c : Cache) (store : StoreId) :
    CacheAct → List Exchange → Outcome → Prop where
  /-- A write is one call, which passes on all that the act was given. The outcome is the reply. -/
  | put (key : String) (value : Value) (user : UserId) (reply : Except StoreError Unit)
      (shared : Shared) :
      ServedBy c store (.put key value user)
        [⟨.store store (.put key value user), reply, shared⟩] (.written (relayed reply))
  | putAll (stem : String) (values : Entries) (user : UserId) (reply : Except StoreError Unit)
      (shared : Shared) :
      ServedBy c store (.putAll stem values user)
        [⟨.store store (.putAll stem values user), reply, shared⟩] (.written (relayed reply))
  | delete (key : String) (user : UserId) (reply : Except StoreError Bool) (shared : Shared) :
      ServedBy c store (.delete key user)
        [⟨.store store (.delete key user), reply, shared⟩] (.deleted (relayed reply))
  | reset (stem : Option String) (user : UserId) (reply : Except StoreError Unit)
      (shared : Shared) :
      ServedBy c store (.reset stem user)
        [⟨.store store (.reset stem user), reply, shared⟩] (.written (relayed reply))
  /-- The store is handed out, and it is not called. -/
  | provider (caller : Option Caller) : ServedBy c store (.provider caller) [] (.found (.ok store))
  | read (key : String) (user : UserId) (tracked : Bool) (reading : Reading) (shared : Shared) :
      ServedBy c store (.value key user)
        [⟨.store store (.get key { user, tracked }), .ok (some reading), shared⟩]
        (.read (.ok reading.value))
  /-- The fast read has brought nothing, and the key is queried for the same user. -/
  | queried (key : String) (user : UserId) (tracked : Bool)
      (reply : Except StoreError (Option Reading)) (nothing : ∀ reading, reply ≠ .ok (some reading))
      (answer : Except StoreError Value) (shared shared' : Shared) :
      ServedBy c store (.value key user)
        [⟨.store store (.get key { user, tracked }), reply, shared⟩,
          ⟨.store store (.query key { user }), answer, shared'⟩]
        (.read (.ok answer.toOption.join))
  | unable {act : CacheAct} {stem : String} (reads : act.isReadOf c (.under stem) = true)
      (shared : Shared) :
      ServedBy c store act [⟨.store store .canList, false, shared⟩] (act.yields ∅)
  | listed {act : CacheAct} {stem : String} (reads : act.isReadOf c (.under stem) = true)
      (tracked : Bool) (listing : Listing) (shared shared' : Shared) :
      ServedBy c store act
        [⟨.store store .canList, true, shared⟩,
          ⟨.store store (.list stem { user := c.caller.user, tracked }), .ok (some listing), shared'⟩]
        (act.yields ((listing.entries.strip stem).choose act.names))
  | unlisted {act : CacheAct} {stem : String} (reads : act.isReadOf c (.under stem) = true)
      (tracked : Bool) (reply : Except StoreError (Option Listing))
      (nothing : ∀ listing, reply ≠ .ok (some listing)) (shared shared' : Shared) :
      ServedBy c store act
        [⟨.store store .canList, true, shared⟩,
          ⟨.store store (.list stem { user := c.caller.user, tracked }), reply, shared'⟩]
        (act.yields ∅)

theorem CacheAct.resets_of_needsStore {c : Cache} {w : Workspace} {act : CacheAct}
    (needs : act.needsStore c w = true) : act.resets = false := by
  cases act with
  | clear | unresolve => cases needs
  | _ => rfl

/-- An act that calls the store for the cache's own caller, and whose outcome shows what it gets. If
no store is found it gets `lost`. -/
structure CacheAct.Relays {α : Type} (c : Cache) (act : CacheAct) (shows : α → Outcome)
    (lost : Fault → α) : Prop where
  own : act.asker c = c
  keepsStore : act.resets = false
  unprovided : ∀ fault, shows (lost fault) = act.unprovided fault
  allowed : ∀ a, ¬ (shows a).Denied

/-- All reads under a stem stand alike to the store. -/
theorem CacheAct.relays_of_isReadOf {c : Cache} {act : CacheAct} {stem : String}
    (reads : act.isReadOf c (.under stem) = true) : act.Relays c act.yields fun _ => ∅ := by
  cases act with
  | listing | named =>
      refine ⟨rfl, rfl, fun _ => rfl, ?_⟩
      simp [yields, Outcome.Denied]
  | value | put | putAll | delete | reset | copy | isTracked | clear | forget | profile
  | readable | provider | unresolve | heard => cases reads

theorem CacheAct.needsStore_of_isReadOf {c : Cache} {act : CacheAct} {stem : String}
    (reads : act.isReadOf c (.under stem) = true) (w : Workspace) :
    act.needsStore c w =
      (w.recalls (!c.caller.atStore) (.under stem) (·.listings[stem]?)).isNone := by
  cases act with
  | listing other names | named other name =>
      obtain rfl : stem = other := by simpa [isReadOf] using reads
      rfl
  | value | put | putAll | delete | reset | copy | isTracked | clear | forget | profile
  | readable | provider | unresolve | heard => cases reads

/-- The ways that an act can go. -/
inductive CacheAct.Goes (c : Cache) (w : Workspace) (act : CacheAct) :
    List Exchange → Outcome → Workspace → Prop where
  /-- The act does without a store. -/
  | still {trace : List Exchange} {outcome : Outcome} {left : Workspace}
      (needless : act.needsStore c w = false)
      (spared : act.isRead = true → TellsHit trace ∨ outcome.Denied)
      (unresolved : resolutions trace = []) (uncalled : calledStores trace = [])
      (leaves : left.store = if act.resets then none else w.store) : Goes c w act trace outcome left
  /-- What the first look has found is told before the store is looked for. -/
  | lost {looked lookup told : List Exchange} {fault : Fault} {left : Workspace}
      (needs : act.needsStore c w = true) (quiet : Plain none looked)
      (finds : (act.asker c).Finding w.store lookup (.error fault)) (tells : Plain none told)
      (leaves : left.store = none) :
      Goes c w act (looked ++ (lookup ++ told)) (act.unprovided fault) left
  | served {looked lookup rest : List Exchange} {store : StoreId} {outcome : Outcome}
      {left : Workspace} (needs : act.needsStore c w = true) (quiet : Plain none looked)
      (finds : (act.asker c).Finding w.store lookup (.ok store)) (calls : Plain (some store) rest)
      (served : act.ServedBy c store (storeCalls rest) outcome)
      (allowed : ¬ outcome.Denied) (leaves : left.store = some store) :
      Goes c w act (looked ++ (lookup ++ rest)) outcome left

namespace Cache

variable {c : Cache} {w left : Workspace} {trace : List Exchange}

/-- A write goes to the store that it finds. -/
theorem Submitted.goes {α : Type} {act : CacheAct} {outcome : Except Fault α → Outcome}
    {call : StoreCall} {answers : call.Reply → Except Fault α} {answer : Except Fault α}
    (submitted : c.Submitted w call answers trace answer left)
    (needs : act.needsStore c w = true) (relays : act.Relays c outcome .error)
    (serves : ∀ store reply shared,
      act.ServedBy c store [⟨.store store call, reply, shared⟩] (outcome (answers reply))) :
    act.Goes c w trace (outcome answer) left := by
  cases submitted with
  | unprovided finds kept leaves =>
      rw [← relays.own] at finds
      have lost := CacheAct.Goes.lost needs .nil finds .nil leaves
      rwa [List.nil_append, List.append_nil, ← relays.unprovided] at lost
  | made reply shared finds kept leaves =>
      rw [← relays.own] at finds
      exact .served needs .nil finds (.call .nil) (serves _ reply shared) (relays.allowed _) leaves

/-! ### What a read exchanges with the store -/

variable {store : StoreId} {footing : Footing} {found kept : Copies}

theorem ValueQueried.storeCalls_eq {key : String} {user : UserId} {v : Value}
    (queried : ValueQueried store footing found key user trace v kept) :
    ∃ (answer : Except StoreError Value) (shared : Shared), v = answer.toOption.join ∧
      storeCalls trace = [⟨.store store (.query key { user }), answer, shared⟩] := by
  cases queried with
  | answered v shared tells =>
      exact ⟨.ok v, shared, rfl, by rw [storeCalls_cons_store, tells.storeCalls_eq]⟩
  | failed e shared tells =>
      exact ⟨.error e, shared, rfl, by rw [storeCalls_cons_store, tells.storeCalls_eq]⟩

theorem ValueGot.served {key : String} {user : UserId} {tracked : Bool} {v : Value}
    (got : ValueGot store footing found key { user, tracked } trace v kept) :
    (CacheAct.value key user).ServedBy c store (storeCalls trace) (.read (.ok v)) := by
  cases got with
  | read reading shared tells =>
      rw [storeCalls_cons_store, tells.storeCalls_eq]
      exact .read key user tracked reading shared
  | missing shared queries =>
      obtain ⟨answer, shared', rfl, calls⟩ := queries.storeCalls_eq
      rw [storeCalls_cons_store, calls]
      exact .queried key user tracked (.ok none) (by simp) answer shared shared'
  | failed e shared tells queries =>
      obtain ⟨answer, shared', rfl, calls⟩ := queries.storeCalls_eq
      rw [storeCalls_cons_store, storeCalls_append, tells.storeCalls_eq, calls]
      exact .queried key user tracked (.error e) (by simp) answer shared shared'

theorem ListingGot.served {act : CacheAct} {stem : String} {tracked : Bool} {result : Entries}
    (got : ListingGot store footing found stem { user := c.caller.user, tracked } act.names trace
      result kept) (reads : act.isReadOf c (.under stem) = true) (able : Shared) :
    act.ServedBy c store (⟨.store store .canList, true, able⟩ :: storeCalls trace)
      (act.yields result) := by
  cases got with
  | read listing shared tells =>
      rw [storeCalls_cons_store, tells.storeCalls_eq]
      exact .listed reads tracked listing able shared
  | missing shared => exact .unlisted reads tracked (.ok none) (by simp) able shared
  | failed e shared tells =>
      rw [storeCalls_cons_store, tells.storeCalls_eq]
      exact .unlisted reads tracked (.error e) (by simp) able shared

end Cache

/-- A read that a copy answers does without a store, and one that goes on goes as `asked` says. -/
theorem Dialogue.goes {α β : Type} {c : Cache} {w left : Workspace} {keeps : Bool} {topic : Topic}
    {look : Copies → Option α} {shows : α → β} {asks : Way → List Exchange → β → Workspace → Prop}
    {way : Way} {trace : List Exchange} {result : β} {act : CacheAct}
    (dialogue : Dialogue w keeps topic look shows asks way trace result left)
    (needless : ∀ data, w.recalls keeps topic look = some data → act.needsStore c w = false)
    (keepsStore : act.resets = false) (outcome : β → Outcome)
    (asked : ∀ looked trace result, w.recalls keeps topic look = none → Plain none looked →
      asks way trace result left → act.Goes c w (looked ++ trace) (outcome result) left) :
    act.Goes c w trace (outcome result) left := by
  cases dialogue with
  | hit recalls tells leaves =>
      obtain ⟨shared, rfl⟩ := tells.singleton
      exact .still (needless _ recalls) (fun _ => .inl ⟨_, List.mem_cons_self, rfl⟩) rfl rfl
        (by simpa [keepsStore] using leaves.store)
  | asked nothing tells goesOn =>
      exact asked _ _ _ nothing (.loss tells fun _ => Workspace.tellsLoss) goesOn

namespace Cache

variable {c : Cache} {w left : Workspace} {way : Way} {trace : List Exchange}

theorem ValueDialogue.goes {key : String} {user : UserId} {result : Except Fault Value}
    (dialogue : c.ValueDialogue w key user way trace result left) :
    (CacheAct.value key user).Goes c w trace (.read result) left := by
  refine Dialogue.goes dialogue (fun data recalls => by simp [CacheAct.needsStore, recalls]) rfl
    .read fun looked trace result nothing quiet asked => ?_
  cases asked with
  | denied unreadable leaves knows =>
      rw [List.append_nil]
      exact .still (by simp [CacheAct.needsStore, unreadable]) (fun _ => .inr ⟨key, rfl⟩)
        quiet.resolutions_eq quiet.calledStores_eq knows
  | unresolved readable finds tells leaves knows =>
      exact .lost (by simp [CacheAct.needsStore, readable, nothing]) quiet finds
        (.notice tells rfl) knows
  | fetched readable finds tells flags gets knows =>
      refine .served (by simp [CacheAct.needsStore, readable, nothing]) quiet finds
        (.append (.notice tells rfl) gets.plain) ?_ (by simp [Outcome.Denied]) knows
      rw [storeCalls_append, tells.storeCalls_eq]
      exact gets.served

theorem ListingDialogue.goes {act : CacheAct} {stem : String} {result : Entries}
    (dialogue : c.ListingDialogue w stem act.names way trace result left)
    (reads : act.isReadOf c (.under stem) = true) :
    act.Goes c w trace (act.yields result) left := by
  have relays := CacheAct.relays_of_isReadOf reads
  have needs := CacheAct.needsStore_of_isReadOf reads w
  refine Dialogue.goes dialogue (fun data recalls => by rw [needs, recalls]; rfl) relays.keepsStore
    act.yields fun looked trace result nothing quiet asked => ?_
  rw [nothing] at needs
  cases asked with
  | unresolved finds tells leaves knows =>
      rw [← relays.own] at finds
      rw [relays.unprovided]
      exact .lost needs quiet finds (.notice tells rfl) knows
  | unable shared finds leaves knows =>
      rw [← relays.own] at finds
      exact .served needs quiet finds (.call .nil) (.unable reads shared) (relays.allowed ∅) knows
  | fetched shared finds tells flags gets knows =>
      rw [← relays.own] at finds
      refine .served needs quiet finds (.call (.append (.notice tells rfl) gets.plain)) ?_
        (relays.allowed _) knows
      rw [storeCalls_cons_store, storeCalls_append, tells.storeCalls_eq]
      exact gets.served reads shared

end Cache

theorem CacheAct.goes_of_isReadOf {c : Cache} {act : CacheAct} {stem : String}
    (reads : act.isReadOf c (.under stem) = true) (w : Workspace) :
    (act.operation c w).Traces (act.Goes c w) := by
  refine (act.read_traces reads w).mono ?_
  rintro trace _ left ⟨way, result, dialogue, rfl⟩
  exact dialogue.goes reads

/-- Each act does without a store, or finds none, or is served by the one that it finds. -/
theorem CacheAct.goes (c : Cache) (act : CacheAct) (w : Workspace) :
    (act.operation c w).Traces (act.Goes c w) := by
  cases act with
  | value key user =>
      exact map_traces ((c.value_traces key user w).mono fun _ _ _ ⟨_, dialogue⟩ => dialogue.goes)
  | listing stem names =>
      have reads : (CacheAct.listing stem names).isReadOf c (.under stem) = true := beq_self_eq_true _
      exact goes_of_isReadOf reads w
  | named stem name =>
      have reads : (CacheAct.named stem name).isReadOf c (.under stem) = true := beq_self_eq_true _
      exact goes_of_isReadOf reads w
  | put key value user =>
      refine map_traces ((c.put_traces key value user w).mono fun _ _ _ submitted => ?_)
      exact submitted.goes rfl ⟨rfl, rfl, fun _ => rfl, by simp [Outcome.Denied]⟩
        fun _ => .put key value user
  | putAll stem values user =>
      refine map_traces ((c.putAll_traces stem values user w).mono fun _ _ _ submitted => ?_)
      exact submitted.goes rfl ⟨rfl, rfl, fun _ => rfl, by simp [Outcome.Denied]⟩
        fun _ => .putAll stem values user
  | delete key user =>
      refine map_traces ((c.delete_traces key user w).mono fun _ _ _ submitted => ?_)
      exact submitted.goes rfl ⟨rfl, rfl, fun _ => rfl, by simp [Outcome.Denied]⟩
        fun _ => .delete key user
  | reset stem user =>
      refine map_traces ((c.reset_traces stem user w).mono fun _ _ _ submitted => ?_)
      exact submitted.goes rfl ⟨rfl, rfl, fun _ => rfl, by simp [Outcome.Denied]⟩
        fun _ => .reset stem user
  | provider caller =>
      refine map_traces ((Cache.provider_traces_for c (caller.getD c.caller)).mono ?_)
      rintro lookup provided left ⟨finds, -, leaves⟩
      have same : lookup = [] ++ (lookup ++ []) := by simp
      rw [same]
      cases provided with
      | error fault => exact .lost rfl .nil finds .nil leaves
      | ok store =>
          exact .served rfl .nil finds .nil (.provider caller) (by simp [Outcome.Denied]) leaves
  | copy | isTracked | profile | clear | unresolve | readable | heard =>
      exact .still rfl (fun impossible => nomatch impossible) rfl rfl rfl
  | forget topic =>
      cases topic <;> exact .still rfl (fun impossible => nomatch impossible) rfl rfl rfl

/-! ## One turn -/

/-- An act that was carried out: the workspace that it has found, what it has exchanged, and what has
come of it. -/
structure Turn where
  found : Workspace
  act : CacheAct
  trace : List Exchange
  outcome : Outcome

/-- The store that is held after a turn, if `held` was held before. -/
def Turn.holds (t : Turn) (held : Option StoreId) : Option StoreId :=
  if t.act.resets then none else held.or ((resolutions t.trace).findSome? Except.toOption)

/-- How a turn comes by its store, if `held` is held when it begins. -/
structure Turn.Provided (c : Cache) (held : Option StoreId) (t : Turn) : Prop where
  /-- The resolver is asked if a store is needed and none is held, and then it is asked once. -/
  lookups : (resolutions t.trace).length =
    if held = none ∧ t.act.needsStore c t.found = true then 1 else 0
  /-- It is asked for the cache's own store, on behalf of the caller whose act it is. -/
  asks : ∀ e ∈ t.trace, e.resolution? ≠ none → e.call = .resolve c.uri (t.act.asker c).caller
  /-- Every call goes to the store that is held. -/
  calls : ∀ store ∈ calledStores t.trace, t.holds held = some store
  /-- A turn that needs a store makes its own calls to the one that is held, and no others, and its
  outcome is what the replies make it. -/
  served : t.act.needsStore c t.found = true → ∀ store, t.holds held = some store →
    t.act.ServedBy c store (storeCalls t.trace) t.outcome
  /-- If the resolver fails then nothing is held, no store is called, and the failure shows. -/
  fails : ∀ e, .error e ∈ resolutions t.trace → t.holds held = none ∧ calledStores t.trace = [] ∧
    t.outcome = t.act.unprovided (.unresolved c.uri (.store e))
  needless : t.act.needsStore c t.found = false → calledStores t.trace = []
  /-- A read does without a store when a copy answers it or when it is denied, and only then. -/
  spared : t.act.isRead = true →
    (t.act.needsStore c t.found = false ↔ TellsHit t.trace ∨ t.outcome.Denied)

theorem CacheAct.asker_uri (c : Cache) (act : CacheAct) : (act.asker c).uri = c.uri := by
  cases act <;> rfl

theorem CacheAct.not_denied_unprovided (act : CacheAct) (fault : Fault) :
    ¬ (act.unprovided fault).Denied := by
  cases act <;> simp [unprovided, Outcome.Denied]

namespace Plain

variable {c : Cache} {held store? : Option StoreId} {looked lookup rest : List Exchange}
  {provided : Except Fault StoreId}

theorem resolutions_around (lookup : List Exchange) (quiet : Plain none looked)
    (calls : Plain store? rest) : resolutions (looked ++ (lookup ++ rest)) = resolutions lookup := by
  have first := quiet.resolutions_eq
  have last := calls.resolutions_eq
  unfold resolutions at *
  simp [List.filterMap_append, first, last]

theorem storeCalls_around (rest : List Exchange) (quiet : Plain none looked)
    (finds : c.Finding held lookup provided) :
    storeCalls (looked ++ (lookup ++ rest)) = storeCalls rest := by
  rw [storeCalls_append, storeCalls_append, quiet.storeCalls_eq, finds.storeCalls_eq,
    List.nil_append, List.nil_append]

theorem calledStores_around (rest : List Exchange) (quiet : Plain none looked)
    (finds : c.Finding held lookup provided) :
    calledStores (looked ++ (lookup ++ rest)) = calledStores rest := by
  rw [← filterMap_storeCalls, quiet.storeCalls_around rest finds, filterMap_storeCalls]

theorem asks_around (quiet : Plain none looked) (finds : c.Finding held lookup provided)
    (calls : Plain store? rest) :
    ∀ e ∈ looked ++ (lookup ++ rest), e.resolution? ≠ none → e.call = .resolve c.uri c.caller := by
  simp only [List.forall_mem_append]
  refine ⟨fun e member asks => absurd (quiet e member).1 asks, fun e member _ => ?_,
    fun e member asks => absurd (calls e member).1 asks⟩
  exact finds.asks e member

theorem not_tellsHit_around (quiet : Plain none looked) (finds : c.Finding held lookup provided)
    (calls : Plain store? rest) : ¬ TellsHit (looked ++ (lookup ++ rest)) := by
  simp only [TellsHit, List.mem_append, not_exists, not_and, Bool.not_eq_true]
  rintro e (first | next | last)
  · exact (quiet e first).2.1
  · rw [finds.asks e next]
    rfl
  · exact (calls e last).2.1

end Plain

/-- Whichever way an act goes, it comes by its store as it should. -/
theorem CacheAct.Goes.provided {c : Cache} {w left : Workspace} {act : CacheAct}
    {trace : List Exchange} {outcome : Outcome} (goes : act.Goes c w trace outcome left) :
    Turn.Provided c w.store ⟨w, act, trace, outcome⟩ ∧
      left.store = Turn.holds ⟨w, act, trace, outcome⟩ w.store := by
  cases goes with
  | still needless spared unresolved uncalled leaves =>
      have silent : ∀ e ∈ trace, e.resolution? = none := List.filterMap_eq_nil_iff.mp unresolved
      refine ⟨?_, by simp [Turn.holds, unresolved, leaves]⟩
      exact
        { lookups := by simp [unresolved, needless]
          asks := fun e member asks => absurd (silent e member) asks
          calls := by simp [uncalled]
          served := fun needs => by simp [needless] at needs
          fails := by simp [unresolved]
          needless := fun _ => uncalled
          spared := fun reads => by simp [needless, spared reads] }
  | @lost looked lookup told fault _ needs quiet finds tells leaves =>
      have asks := quiet.asks_around finds tells
      have unhit := quiet.not_tellsHit_around finds tells
      have called := (quiet.calledStores_around told finds).trans tells.calledStores_eq
      have resolved := quiet.resolutions_around lookup tells
      have holds : Turn.holds ⟨w, act, looked ++ (lookup ++ told), act.unprovided fault⟩ w.store =
          none := by
        rw [Turn.holds, resets_of_needsStore needs, resolved]
        exact finds.holds
      rw [asker_uri] at asks
      refine ⟨?_, leaves.trans holds.symm⟩
      exact
        { lookups := by simp [resolved, finds.lookups, needs]
          asks
          calls := by simp [called]
          served := fun _ store same => by
            rw [holds] at same
            cases same
          fails := fun e failed => by
            rw [resolved] at failed
            cases finds.fails failed
            exact ⟨holds, called, by rw [asker_uri]⟩
          needless := fun _ => called
          spared := fun _ => by simp [needs, unhit, act.not_denied_unprovided fault] }
  | @served looked lookup rest store _ _ needs quiet finds calls served allowed leaves =>
      have asks := quiet.asks_around finds calls
      have unhit := quiet.not_tellsHit_around finds calls
      have called := quiet.calledStores_around rest finds
      have resolved := quiet.resolutions_around lookup calls
      have holds : Turn.holds ⟨w, act, looked ++ (lookup ++ rest), outcome⟩ w.store = some store := by
        rw [Turn.holds, resets_of_needsStore needs, resolved]
        exact finds.holds
      rw [asker_uri] at asks
      refine ⟨?_, leaves.trans holds.symm⟩
      exact
        { lookups := by simp [resolved, finds.lookups, needs]
          asks
          calls := fun other member => by
            rw [called] at member
            rw [holds, calls.of_mem_calledStores member]
          served := fun _ other same => by
            rw [holds] at same
            cases same
            rwa [quiet.storeCalls_around rest finds]
          fails := fun e failed => by
            rw [resolved] at failed
            cases finds.fails failed
          needless := fun needless => by
            rw [needs] at needless
            cases needless
          spared := fun _ => by simp [needs, unhit, allowed] }

/-! ## Turn after turn -/

/-- Acts of a cache are carried out one after the other. In between, others may make what is shared
whatever they like. Each act comes to an end, and `post` holds of all turns and of the workspace that
is left. -/
def Cache.Turns (c : Cache) : List CacheAct → Workspace → (List Turn → Workspace → Prop) → Prop
  | [], w, post => post [] w
  | act :: rest, w, post => ∀ shared,
      (act.operation c { w with shared }).Traces fun trace outcome left =>
        c.Turns rest left fun turns => post (⟨{ w with shared }, act, trace, outcome⟩ :: turns)

namespace Cache

variable {c : Cache} {w : Workspace} {held final : Option StoreId} {turns before after : List Turn}

theorem Turns.mono {acts : List CacheAct} {post post' : List Turn → Workspace → Prop}
    (run : c.Turns acts w post) (weaker : ∀ turns left, post turns left → post' turns left) :
    c.Turns acts w post' := by
  induction acts generalizing w post post' with
  | nil => exact weaker _ _ run
  | cons act rest ih =>
      exact fun shared => (run shared).mono fun _ _ _ later => ih later fun _ => weaker _

/-- How the store that is held goes on from turn to turn, from `held` to `final`. -/
inductive Provides (c : Cache) : Option StoreId → List Turn → Option StoreId → Prop where
  | done (held : Option StoreId) : Provides c held [] held
  | turn {held final : Option StoreId} {t : Turn} {rest : List Turn} (found : t.found.store = held)
      (provided : t.Provided c held) (later : Provides c (t.holds held) rest final) :
      Provides c held (t :: rest) final

/-- A run can be split between any two turns. -/
theorem Provides.split (run : c.Provides held (before ++ after) final) :
    ∃ middle, c.Provides held before middle ∧ c.Provides middle after final := by
  induction before generalizing held with
  | nil => exact ⟨held, .done held, run⟩
  | cons t rest ih =>
      cases run with
      | turn found provided later =>
          obtain ⟨middle, first, last⟩ := ih later
          exact ⟨middle, .turn found provided first, last⟩

/-- While the cache is not made to forget its store, it holds it. -/
theorem Provides.keeps {store : StoreId} (run : c.Provides (some store) turns final)
    (kept : ∀ t ∈ turns, t.act.resets = false) : final = some store := by
  induction turns with
  | nil =>
      cases run
      rfl
  | cons t rest ih =>
      cases run with
      | turn found provided later =>
          have same : t.holds (some store) = some store := by
            simp [Turn.holds, kept t List.mem_cons_self]
          rw [same] at later
          exact ih later fun t member => kept t (List.mem_cons_of_mem _ member)

/-- A store that the resolver finds is held from then on. -/
theorem holds_of_found {t : Turn} {store : StoreId} (provided : t.Provided c held)
    (found : .ok store ∈ resolutions t.trace) : t.holds held = some store := by
  have lookups := provided.lookups
  split at lookups
  · next needed =>
    obtain ⟨reply, only⟩ := List.length_eq_one_iff.mp lookups
    rw [only] at found
    cases List.mem_singleton.mp found
    simp [Turn.holds, only, needed.1, CacheAct.resets_of_needsStore needed.2, Except.toOption]
  · rw [List.length_eq_zero_iff.mp lookups] at found
    cases found

/-- From the turn in which a store is found until the cache is made to forget it, the resolver is not
asked again, no other store is called, and it is this one that serves all turns that need one. -/
theorem Provides.keeps_found {t later : Turn} {middle : List Turn} {store : StoreId}
    (run : c.Provides held (before ++ t :: (middle ++ later :: after)) final)
    (found : .ok store ∈ resolutions t.trace) (kept : ∀ x ∈ middle, x.act.resets = false) :
    later.found.store = some store ∧ resolutions later.trace = [] ∧
      (∀ other ∈ calledStores later.trace, other = store) ∧
      (later.act.needsStore c later.found = true →
        later.act.ServedBy c store (storeCalls later.trace) later.outcome) := by
  obtain ⟨_, -, run⟩ := run.split
  cases run with
  | turn found' provided run =>
      rw [holds_of_found provided found] at run
      obtain ⟨_, first, run⟩ := run.split
      obtain rfl := first.keeps kept
      cases run with
      | turn found' provided run =>
          have lookups := provided.lookups
          rw [if_neg (by simp), List.length_eq_zero_iff] at lookups
          refine ⟨found', lookups, fun other called => ?_, fun needs => provided.served needs store ?_⟩
          · -- Whatever the later turn does with its store, it calls none but the one it has found.
            have holds := provided.calls other called
            unfold Turn.holds at holds
            split at holds <;> simp_all
          · simp [Turn.holds, CacheAct.resets_of_needsStore needs]

/-- Turn after turn, the cache comes by its store as it should. -/
theorem turns_provide (c : Cache) (acts : List CacheAct) (w : Workspace) :
    c.Turns acts w fun turns left =>
      turns.map Turn.act = acts ∧ c.Provides w.store turns left.store := by
  induction acts generalizing w with
  | nil => exact ⟨rfl, .done _⟩
  | cons act rest ih =>
      intro shared
      refine (act.goes c { w with shared }).mono fun trace outcome left goes => ?_
      obtain ⟨provided, leaves⟩ := goes.provided
      refine (ih left).mono fun turns final ⟨same, later⟩ => ⟨by rw [← same]; rfl, ?_⟩
      rw [leaves] at later
      exact .turn rfl provided later

/-- Whatever the resolver and the stores reply and whatever becomes of the boards, a cache asks the
resolver just when an act needs a store and none is held. What is found is held, and all acts make
their calls there, until the cache is made to forget it; what is not found is not held, and the act
shows the failure. -/
theorem store_is_held (c : Cache) (acts : List CacheAct) (w : Workspace) :
    c.Turns acts w fun turns left =>
      turns.map Turn.act = acts ∧ c.Provides w.store turns left.store ∧
        ∀ before t middle later after store, turns = before ++ t :: (middle ++ later :: after) →
          .ok store ∈ resolutions t.trace → (∀ x ∈ middle, x.act.resets = false) →
          later.found.store = some store ∧ resolutions later.trace = [] ∧
            (∀ other ∈ calledStores later.trace, other = store) ∧
            (later.act.needsStore c later.found = true →
              later.act.ServedBy c store (storeCalls later.trace) later.outcome) := by
  refine (turns_provide c acts w).mono fun turns left ⟨same, provides⟩ => ⟨same, provides, ?_⟩
  rintro before t middle later after store rfl found kept
  exact provides.keeps_found found kept

end Cache

end TrackedSettings
