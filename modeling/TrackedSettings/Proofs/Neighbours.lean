import TrackedSettings.Proofs.Alone
import TrackedSettings.Proofs.Discipline
import TrackedSettings.Proofs.Secrecy

/-! # Caches side by side

Many caches work with one store. Every tracker in place is for the slot of its topic and can be read,
and no view that a cache has of its own is in two places. A cache closes nothing but such views, and
only those that it gives up. So all of this stays as it is whatever caches do one after the other, and
no cache finds that what it watches was closed by somebody else.
-/

namespace TrackedSettings

variable {dep : Deployment} {last : Option Answer} {topic topic' : Topic} {t t' : Tracker}

theorem Delivered.eq (first : Delivered last topic t) (second : Delivered last topic' t') :
    topic = topic' ∧ t = t' := by
  obtain ⟨g, member, rfl⟩ := first
  obtain ⟨g', member', rfl⟩ := second
  cases last with
  | none => cases member
  | some a =>
      obtain ⟨copy, brings, rfl⟩ := Answer.mem_receipts_iff.mp member
      obtain ⟨copy', brings', rfl⟩ := Answer.mem_receipts_iff.mp member'
      rw [brings] at brings'
      cases brings'
      exact ⟨rfl, rfl⟩

namespace Deployment

/-- The cache in seat `i` has the tracker in place. -/
def Holds (dep : Deployment) (i : Nat) (topic : Topic) (t : Tracker) : Prop :=
  (dep.workspace i).copies.trackers[topic]? = some t

/-- The resolver of the cache in seat `i` knows the store. -/
def Fixed (dep : Deployment) (i : Nat) (store : StoreId) : Prop :=
  ∃ seat, dep.seats[i]? = some seat ∧ seat.resolver = .fixed store

/-- The tracker watches the slot of the topic, and can read it. -/
structure Watches (dep : Deployment) (topic : Topic) (t : Tracker) : Prop where
  alive : t.destroyed = false
  slot : dep.sole.registry.index? topic = some t.index
  lent : t.handle.Lent dep.sole.transfer dep.sole.registry.backing
  issued : ∀ v, t.handle = .owned v → v.serial < dep.shared.slots.issued
  isOpen : dep.shared.slots.isClosed t.handle.view = false

/-- There is one store, which works, and all caches can watch it undisturbed. -/
structure InOrder (dep : Deployment) : Prop where
  sole : dep.authorities = #[dep.sole]
  stores : ∀ (id : Nat) (store : Store), dep.stores[id]? = some store → store = .plain 0
  working : dep.sole.Working dep.shared
  closed : ∀ v, dep.shared.slots.isClosed v = true → v.serial < dep.shared.slots.issued
  watches : ∀ i topic t, dep.Holds i topic t → dep.Watches topic t
  apart : ∀ i topic t v i' topic' t' v', dep.Holds i topic t → t.handle = .owned v →
    dep.Holds i' topic' t' → t'.handle = .owned v' → v.serial = v'.serial → i = i' ∧ topic = topic'
  known : ∀ i store, dep.Fixed i store →
    (dep.workspace i).store = none ∨ (dep.workspace i).store = some store

/-- What has come with the last answer to the cache in seat `j` is as it should be. -/
structure Expects (dep : Deployment) (j : Nat) (last : Option Answer) : Prop where
  watches : ∀ topic t, Delivered last topic t → dep.Watches topic t
  fresh : ∀ topic t v, Delivered last topic t → t.handle = .owned v →
    ∀ i topic' t' v', dep.Holds i topic' t' → t'.handle = .owned v' → v'.serial ≠ v.serial
  found : ∀ uri caller store, last = some ⟨.resolve uri caller, .ok store⟩ →
    ∀ known, dep.Fixed j known → store = known

variable {i j : Nat} {r : Remit} {w : Workspace}

theorem expects_of_spent (dep : Deployment) (j : Nat) (spent : Spent last)
    (other : ∀ uri caller store, last ≠ some ⟨.resolve uri caller, .ok store⟩) :
    dep.Expects j last where
  watches _ _ delivered := absurd delivered spent.not_delivered
  fresh _ _ _ delivered := absurd delivered spent.not_delivered
  found uri caller store heard := absurd heard (other uri caller store)

theorem expects_nothing (dep : Deployment) (j : Nat) : dep.Expects j none :=
  dep.expects_of_spent j spent_none fun _ _ _ impossible => nomatch impossible

/-! ## A stretch of an operation -/

theorem fixed_putBack {store : StoreId} : (dep.putBack j w).Fixed i store ↔ dep.Fixed i store := by
  unfold Fixed putBack
  rw [Array.getElem?_modify]
  split
  · cases dep.seats[i]? <;> simp
  · rfl

theorem workspace_putBack_of_ne (other : i ≠ j) :
    ((dep.putBack j w).workspace i).store = (dep.workspace i).store := by
  have same : (dep.putBack j w).seats[i]? = dep.seats[i]? := by
    rw [putBack, Array.getElem?_modify, if_neg other.symm]
  unfold workspace
  rw [same]
  cases dep.seats[i]? <;> rfl

section Stretch

variable (order : dep.InOrder) (expects : dep.Expects j last) (inside : j < dep.seats.size)
  (conduct : (dep.workspace j).Conduct r last w)

include inside conduct in
/-- Nobody has a tracker in place that was not there before and has not just come. -/
theorem holds_of_putBack (holds : (dep.putBack j w).Holds i topic t) :
    dep.Holds i topic t ∨ i = j ∧ Delivered last topic t := by
  by_cases same : i = j
  · subst same
    rw [Holds, workspace_putBack inside] at holds
    rcases conduct.installed topic t holds with held | delivered
    · exact Or.inl held
    · exact Or.inr ⟨rfl, delivered⟩
  · rw [Holds, copies_putBack_of_ne same] at holds
    exact Or.inl holds

include order expects in
theorem watches_of_inCharge (charge : (dep.workspace j).InCharge last topic t) :
    dep.Watches topic t := by
  rcases charge with held | delivered
  · exact order.watches j topic t held
  · exact expects.watches topic t delivered

include order expects conduct in
/-- The store's own view is closed by nobody. -/
theorem isOpen_of_conduct : w.shared.slots.isClosed dep.sole.registry.backing = false := by
  have closes := conduct.closes
  rw [shared_workspace] at closes
  rw [Bool.eq_false_iff]
  intro shut
  rcases closes.mine _ shut with before | ⟨u, ⟨topic, t, charge, owned, -⟩, same⟩
  · rw [order.working.isOpen] at before
    cases before
  · have lent := (watches_of_inCharge order expects charge).lent
    rw [owned] at lent
    exact lent.2.2 same

include order expects inside conduct in
/-- What is in place now is open: its view was given up by nobody. -/
theorem isOpen_of_holds (holds : (dep.putBack j w).Holds i topic t) :
    w.shared.slots.isClosed t.handle.view = false := by
  have closes := conduct.closes
  rw [shared_workspace] at closes
  have charge := holds_of_putBack inside conduct holds
  have watches : dep.Watches topic t := by
    rcases charge with held | ⟨-, delivered⟩
    · exact order.watches i topic t held
    · exact expects.watches topic t delivered
  cases handle : t.handle with
  | borrowed v =>
      have lent := watches.lent
      rw [handle] at lent
      rw [Handle.view, lent.2]
      exact isOpen_of_conduct order expects conduct
  | owned v =>
      rw [Bool.eq_false_iff]
      intro shut
      rcases closes.mine _ shut with before | ⟨u, ⟨other, t', charge', owned, replaced⟩, same⟩
      · have isOpen := watches.isOpen
        rw [handle] at isOpen
        rw [isOpen] at before
        cases before
      -- The view that was given up is this one, so the tracker is not in place.
      · rcases charge with held | ⟨rfl, delivered⟩
        · rcases charge' with held' | delivered'
          · obtain ⟨rfl, rfl⟩ := order.apart i topic t v j other t' u held handle held' owned same.symm
            cases held.symm.trans held'
            rw [Holds, workspace_putBack inside] at holds
            exact expects.fresh topic t v (replaced holds).2 handle i topic t v held handle rfl
          · exact expects.fresh other t' u delivered' owned i topic t v held handle same.symm
        · rcases charge' with held' | delivered'
          · exact expects.fresh topic t v delivered handle i other t' u held' owned same
          · obtain ⟨rfl, rfl⟩ := delivered.eq delivered'
            rw [Holds, workspace_putBack inside] at holds
            exact expects.fresh topic t v delivered handle i topic t v (replaced holds).1 handle rfl

include order expects inside conduct in
/-- A cache that works for itself leaves the others undisturbed. -/
theorem InOrder.putBack : (dep.putBack j w).InOrder := by
  have closes := conduct.closes
  rw [shared_workspace] at closes
  have came : ∀ {i topic t}, (dep.putBack j w).Holds i topic t →
      dep.Holds i topic t ∨ i = j ∧ Delivered last topic t :=
    fun holds => holds_of_putBack inside conduct holds
  have issued : w.shared.slots.issued = dep.shared.slots.issued := closes.issued
  have isOpen := isOpen_of_conduct order expects conduct
  refine
    { sole := order.sole
      stores := order.stores
      working := ⟨⟨order.working.registry.owner, order.working.registry.distinct, ?_, ?_⟩, isOpen⟩
      closed := ?_
      watches := ?_
      apart := ?_
      known := ?_ }
  · change _ ≤ (w.shared.slots.row dep.sole.registry.backing).size
    rw [closes.row]
    exact order.working.registry.room
  · change _ < w.shared.slots.issued
    rw [issued]
    exact order.working.registry.issued
  · intro v shut
    change _ < w.shared.slots.issued
    rw [issued]
    rcases closes.mine v shut with before | ⟨u, ⟨topic, t, charge, owned, -⟩, same⟩
    · exact order.closed v before
    · rw [← same]
      exact (watches_of_inCharge order expects charge).issued u owned
  · intro i topic t holds
    have watches : dep.Watches topic t := by
      rcases came holds with held | ⟨-, delivered⟩
      · exact order.watches i topic t held
      · exact expects.watches topic t delivered
    refine ⟨watches.alive, watches.slot, watches.lent, ?_,
      isOpen_of_holds order expects inside conduct holds⟩
    intro v owned
    change _ < w.shared.slots.issued
    rw [issued]
    exact watches.issued v owned
  · intro i topic t v i' topic' t' v' holds owned holds' owned' same
    rcases came holds with held | ⟨rfl, delivered⟩
    · rcases came holds' with held' | ⟨rfl, delivered'⟩
      · exact order.apart i topic t v i' topic' t' v' held owned held' owned' same
      · exact absurd same (expects.fresh topic' t' v' delivered' owned' i topic t v held owned)
    · rcases came holds' with held' | ⟨rfl, delivered'⟩
      · exact absurd same.symm (expects.fresh topic t v delivered owned i' topic' t' v' held' owned')
      · exact ⟨rfl, (delivered.eq delivered').1⟩
  · intro i store fixed
    rw [fixed_putBack] at fixed
    by_cases same : i = j
    · subst same
      rw [workspace_putBack inside]
      rcases conduct.store with kept | none | ⟨uri, caller, found, heard, known⟩
      · rw [kept]
        exact order.known i store fixed
      · exact Or.inl none
      · rw [known, expects.found uri caller found heard store fixed]
        exact Or.inr rfl
    · rw [workspace_putBack_of_ne same]
      exact order.known i store fixed

end Stretch

end Deployment

/-! ## Calls one after the other -/

namespace Authority

variable {a a' a'' : Authority} {s s' s'' : Shared}

/-- Two stores have the same settings, and the same defaults. -/
structure SameSettings (a a' : Authority) : Prop where
  entries : a'.entries = a.entries
  defaults : a'.defaults = a.defaults

/-- The store after calls, as far as its settings go: there are no boards. -/
def replay (a : Authority) (calls : List StoreCall) : Authority :=
  calls.foldl (fun a call => (a.answer call {}).2.1) a

/-- The keys that calls change one after the other, each named as often as it is changed. -/
def mutatedBy (a : Authority) : List StoreCall → List String
  | [] => []
  | call :: rest =>
      let after := (a.answer call {}).2.1
      a.mutated call after.entries ++ mutatedBy after rest

theorem mutatedBy_append (a : Authority) (calls more : List StoreCall) :
    a.mutatedBy (calls ++ more) = a.mutatedBy calls ++ (a.replay calls).mutatedBy more := by
  induction calls generalizing a with
  | nil => rfl
  | cons call rest ih => simp only [List.cons_append, mutatedBy, ih, List.append_assoc]; rfl

theorem answer_defaults (a : Authority) (call : StoreCall) (s : Shared) :
    (a.answer call s).2.1.defaults = a.defaults := by
  cases call with
  | get key request => simp only [answer, get, track]; split <;> rfl
  | list stem request => simp only [answer, list, track]; split <;> rfl
  | query | canList | put | putAll | delete | reset => rfl

/-- What a call does to the settings depends on nothing but the settings and the defaults. -/
theorem SameSettings.answer (same : a.SameSettings a') (call : StoreCall) (s s' : Shared) :
    (a.answer call s).2.1.SameSettings (a'.answer call s').2.1 := by
  have changes : a'.changes call = a.changes call := by
    cases call <;>
      simp only [changes, deleteChanges, resetChanges, value, same.entries, same.defaults]
  refine ⟨?_, ?_⟩
  · rw [answer_entries, answer_entries, changes, same.entries]
  · rw [answer_defaults, answer_defaults, same.defaults]

theorem SameSettings.mutated (same : a.SameSettings a') (call : StoreCall) (after : Entries) :
    a'.mutated call after = a.mutated call after := by
  cases call <;> simp only [Authority.mutated, same.entries]

theorem SameSettings.mutatedBy (same : a.SameSettings a') (calls : List StoreCall) :
    a'.mutatedBy calls = a.mutatedBy calls := by
  induction calls generalizing a a' with
  | nil => rfl
  | cons call rest ih =>
      have next := same.answer call {} {}
      simp only [Authority.mutatedBy, ih next, same.mutated, next.entries]

theorem SameSettings.replay (same : a.SameSettings a') (calls : List StoreCall) :
    (a.replay calls).SameSettings (a'.replay calls) := by
  induction calls generalizing a a' with
  | nil => exact same
  | cons call rest ih => exact ih (same.answer call {} {})

theorem SameSettings.trans (first : a.SameSettings a') (second : a'.SameSettings a'') :
    a.SameSettings a'' :=
  ⟨second.entries.trans first.entries, second.defaults.trans first.defaults⟩

theorem Run.trans {keys more : List String} (first : Run a s keys a' s')
    (second : Run a' s' more a'' s'') : Run a s (keys ++ more) a'' s'' := by
  induction second with
  | rest => rwa [List.append_nil]
  | call run call ih =>
      rw [← List.append_assoc]
      exact ih.call call
  | aside run t isOpen row issued ih => exact ih.aside t isOpen row issued

/-- A call, made while nothing else happens. -/
theorem run_single (a : Authority) (s : Shared) (call : StoreCall) :
    Run a s (a.mutatedBy [call]) (a.answer call s).2.1 (a.answer call s).2.2 := by
  have same : (a.answer call {}).2.1.entries = (a.answer call s).2.1.entries := by
    rw [answer_entries, answer_entries]
  have run := (Run.rest (a := a) (s := s)).call call
  simpa only [mutatedBy, same, List.nil_append, List.append_nil] using run

/-- Once all of the board is taken, a topic without a slot stays without. -/
theorem Run.full {keys : List String} (run : Run a s keys a' s') (working : a.Working s)
    {topic : Topic} (untracked : a.registry.index? topic = none)
    (full : a.registry.topics.length = s.slots.length a.registry.backing) :
    a'.registry.index? topic = none ∧
      a'.registry.topics.length = s'.slots.length a'.registry.backing := by
  induction run with
  | rest => exact ⟨untracked, full⟩
  | @call keys a' s' run call ih =>
      obtain ⟨untracked', full'⟩ := ih
      have moved := answer_moved (run.working working).registry call
      have size : (a'.answer call s').2.2.slots.length (a'.answer call s').2.1.registry.backing =
          s'.slots.length a'.registry.backing := by
        rw [moved.backing]
        exact Slots.size_of_row moved.turned
      have same := moved.topics.eq_of_length_le (by
        rw [full', ← size]
        exact moved.sound.room)
      rw [Registry.index?, ← same, size]
      exact ⟨untracked', full'⟩
  | aside run t isOpen row issued ih => exact ⟨ih.1, by rw [Slots.length, row]; exact ih.2⟩

/-- The view that a grant is for is a new one, if the reader is to have it for its own. -/
theorem answer_issued {store : StoreId} {call : StoreCall} {copy : Copy} {g : Grant} {v : View}
    (brings : Answer.brings ⟨.store store call, (a.answer call s).1⟩ = some (copy, some g))
    (owned : g.handle = .owned v) :
    v.serial = s.slots.issued ∧ (a.answer call s).2.2.slots.issued = s.slots.issued + 1 := by
  have tracked : ∀ (topic : Topic) (request : ReadRequest),
      (a.track topic request s).1 = some g → v.serial = s.slots.issued ∧
        (a.track topic request s).2.2.slots.issued = s.slots.issued + 1 := by
    intro topic request granted
    unfold track at granted ⊢
    cases wanted : request.tracked with
    | false => simp [wanted] at granted
    | true =>
        simp only [wanted, ↓reduceIte] at granted ⊢
        exact Registry.serial_of_track topic a.transfer granted owned
  cases call with
  | get key request =>
      have granted : (a.track (.key key) request s).1 = some g :=
        (Prod.mk.inj (Option.some.inj brings)).2
      exact tracked (.key key) request granted
  | list stem request =>
      have granted : (a.track (.under stem) request s).1 = some g :=
        (Prod.mk.inj (Option.some.inj brings)).2
      exact tracked (.under stem) request granted
  | query | canList | put | putAll | delete | reset => cases brings

end Authority

/-! ## Answers -/

namespace Deployment

variable {dep' : Deployment} {i j : Nat}

theorem sole_congr (same : dep'.authorities = dep.authorities) : dep'.sole = dep.sole := by
  rw [Deployment.sole, same, Deployment.sole]

/-- Everything is in order that looks the same to the caches and to the store. -/
theorem InOrder.congr (order : dep.InOrder) (authorities : dep'.authorities = dep.authorities)
    (slots : dep'.shared.slots = dep.shared.slots) (stores : dep'.stores = dep.stores)
    (copies : ∀ i, (dep'.workspace i).copies = (dep.workspace i).copies)
    (store : ∀ i, (dep'.workspace i).store = (dep.workspace i).store)
    (fixed : ∀ i store, dep'.Fixed i store → dep.Fixed i store) : dep'.InOrder := by
  have sole := sole_congr authorities
  have holds : ∀ {i topic t}, dep'.Holds i topic t → dep.Holds i topic t := by
    intro i topic t holds
    rwa [Holds, copies] at holds
  refine
    { sole := by rw [authorities, sole]; exact order.sole
      stores := by rw [stores]; exact order.stores
      working := ?_
      closed := by rw [slots]; exact order.closed
      watches := ?_
      apart := ?_
      known := ?_ }
  · rw [sole]
    exact ⟨by rw [slots]; exact order.working.registry, by rw [slots]; exact order.working.isOpen⟩
  · intro i topic t held
    obtain ⟨alive, slot, lent, issued, isOpen⟩ := order.watches i topic t (holds held)
    rw [← sole] at slot lent
    rw [← slots] at issued isOpen
    exact ⟨alive, slot, lent, issued, isOpen⟩
  · intro i topic t v i' topic' t' v' held owned held'
    exact order.apart i topic t v i' topic' t' v' (holds held) owned (holds held')
  · intro i id known
    rw [store]
    exact order.known i id (fixed i id known)

theorem workspace_resolve (dep : Deployment) (i j : Nat) :
    (dep.resolve j).2.workspace i = dep.workspace i := by
  unfold resolve
  cases known : dep.seats[j]? with
  | none => rfl
  | some seat =>
      simp only [workspace, Array.getElem?_setIfInBounds]
      by_cases here : j = i
      · subst here
        rw [if_pos rfl, if_pos (Array.getElem?_eq_some_iff.mp known).1, known]
      · rw [if_neg here]

theorem fixed_resolve {store : StoreId} : (dep.resolve j).2.Fixed i store ↔ dep.Fixed i store := by
  unfold resolve
  cases known : dep.seats[j]? with
  | none => rfl
  | some seat =>
      unfold Fixed
      simp only [Array.getElem?_setIfInBounds]
      by_cases here : j = i
      · subst here
        rw [if_pos rfl, if_pos (Array.getElem?_eq_some_iff.mp known).1, known]
        cases resolver : seat.resolver with
        | fixed => simp [Resolver.resolve, resolver]
        | planned next later => cases later <;> simp [Resolver.resolve, resolver]
      · rw [if_neg here]

theorem shared_resolve (dep : Deployment) (j : Nat) : (dep.resolve j).2.shared = dep.shared := by
  unfold resolve
  cases dep.seats[j]? <;> rfl

theorem authorities_resolve (dep : Deployment) (j : Nat) :
    (dep.resolve j).2.authorities = dep.authorities := by
  unfold resolve
  cases dep.seats[j]? <;> rfl

theorem InOrder.resolve (order : dep.InOrder) (j : Nat) : (dep.resolve j).2.InOrder := by
  have same := fun i => dep.workspace_resolve i j
  exact order.congr (dep.authorities_resolve j) (by rw [shared_resolve])
    (dep.resolve_sameParties j).stores (fun i => by rw [same]) (fun i => by rw [same])
    fun _ _ => fixed_resolve.mp

theorem Expects.of_resolve (dep : Deployment) (j : Nat) (uri : String) (caller : Caller) :
    (dep.resolve j).2.Expects j (some ⟨.resolve uri caller, (dep.resolve j).1⟩) := by
  have spent : Spent (some ⟨.resolve uri caller, (dep.resolve j).1⟩) := rfl
  refine ⟨fun _ _ delivered => absurd delivered spent.not_delivered,
    fun _ _ _ delivered => absurd delivered spent.not_delivered, ?_⟩
  intro uri' caller' store heard known fixed
  rw [fixed_resolve] at fixed
  obtain ⟨seat, seated, resolver⟩ := fixed
  have reply : (dep.resolve j).1 = .ok known := by
    simp only [resolve, seated, resolver, Resolver.resolve]
  rw [reply] at heard
  cases heard
  rfl

/-- The deployment when the store has answered. -/
def answering (dep : Deployment) (call : StoreCall) : Deployment :=
  { dep with
    shared := (dep.sole.answer call dep.shared).2.2
    authorities := #[(dep.sole.answer call dep.shared).2.1] }

theorem callAuthority_zero (only : dep.authorities = #[dep.sole]) (call : StoreCall) :
    dep.callAuthority 0 call = ((dep.sole.answer call dep.shared).1, dep.answering call) := by
  have first : dep.authorities[0]? = some dep.sole := by
    rw [only]
    rfl
  have replaced : ∀ a, dep.authorities.setIfInBounds 0 a = #[a] := by
    intro a
    rw [only]
    rfl
  simp only [callAuthority, first, replaced, answering]

theorem callStore_inside (only : dep.authorities = #[dep.sole])
    (stores : ∀ (id : Nat) (store : Store), dep.stores[id]? = some store → store = .plain 0)
    {store : StoreId} (inside : store < dep.stores.size) (call : StoreCall) :
    dep.callStore store call = ((dep.sole.answer call dep.shared).1, dep.answering call) := by
  have known : dep.stores[store]? = some (.plain 0) := by
    rw [Array.getElem?_eq_getElem inside, stores store _ (Array.getElem?_eq_getElem inside)]
  rw [← callAuthority_zero only, callStore, known]

theorem callStore_outside {store : StoreId} (outside : ¬ store < dep.stores.size) (call : StoreCall) :
    dep.callStore store call = (call.unreached (.unavailable "no such store"), dep) := by
  simp only [callStore, Array.getElem?_eq_none (Nat.not_lt.mp outside)]

theorem workspace_answering (dep : Deployment) (call : StoreCall) (i : Nat) :
    (dep.answering call).workspace i =
      { dep.workspace i with shared := (dep.answering call).shared } := by
  unfold workspace answering
  cases dep.seats[i]? <;> rfl

/-- The store is in order after a call, and the caches are undisturbed. -/
theorem InOrder.answering (order : dep.InOrder) (call : StoreCall) :
    (dep.answering call).InOrder := by
  have moved := Authority.answer_moved order.working.registry call
  have holds : ∀ {i topic t}, (dep.answering call).Holds i topic t → dep.Holds i topic t := by
    intro i topic t holds
    rwa [Holds, workspace_answering] at holds
  refine
    { sole := rfl
      stores := order.stores
      working := ⟨moved.sound, ?_⟩
      closed := ?_
      watches := ?_
      apart := ?_
      known := ?_ }
  · exact (moved.isClosed _).trans (moved.backing ▸ order.working.isOpen)
  · intro v shut
    have before := (moved.isClosed v).symm.trans shut
    exact Nat.lt_of_lt_of_le (order.closed v before) moved.issued
  · intro i topic t held
    obtain ⟨alive, slot, lent, issued, isOpen⟩ := order.watches i topic t (holds held)
    refine ⟨alive, Registry.index?_of_prefix moved.topics slot, ?_, ?_, ?_⟩
    · change t.handle.Lent (dep.sole.answer call dep.shared).2.1.transfer
        (dep.sole.answer call dep.shared).2.1.registry.backing
      rw [moved.transfer, moved.backing]
      exact lent
    · exact fun v owned => Nat.lt_of_lt_of_le (issued v owned) moved.issued
    · exact (moved.isClosed _).trans isOpen
  · intro i topic t v i' topic' t' v' held owned held'
    exact order.apart i topic t v i' topic' t' v' (holds held) owned (holds held')
  · intro i store known
    rw [workspace_answering]
    exact order.known i store known

/-- What comes with the answer watches the slot as well, and it is nobody else's. -/
theorem InOrder.expects_answering (order : dep.InOrder) (j : Nat) (store : StoreId)
    (call : StoreCall) : (dep.answering call).Expects j
      (some ⟨.store store call, (dep.sole.answer call dep.shared).1⟩) := by
  have serves := Authority.answer_serves order.working.registry store call
  have moved := serves.moved
  have owns : ∀ {topic t v}, Delivered (some ⟨.store store call, (dep.sole.answer call dep.shared).1⟩)
      topic t → t.handle = .owned v → v.serial = dep.shared.slots.issued ∧
        (dep.answering call).shared.slots.issued = dep.shared.slots.issued + 1 := by
    intro topic t v delivered owned
    obtain ⟨g, member, rfl⟩ := delivered
    obtain ⟨copy, brings, -⟩ := Answer.mem_receipts_iff.mp member
    exact Authority.answer_issued brings owned
  refine ⟨?_, ?_, fun _ _ _ impossible => nomatch impossible⟩
  · intro topic t delivered
    obtain ⟨slot, lent⟩ : (dep.answering call).sole.registry.index? topic = some t.index ∧
        t.handle.Lent (dep.answering call).sole.transfer
          (dep.answering call).sole.registry.backing := by
      obtain ⟨g, member, rfl⟩ := delivered
      obtain ⟨copy, brings, rfl⟩ := Answer.mem_receipts_iff.mp member
      obtain ⟨slot, -, lent⟩ := serves.grants copy g brings
      exact ⟨slot, lent⟩
    have alive : t.destroyed = false := by
      obtain ⟨g, -, rfl⟩ := delivered
      rfl
    refine ⟨alive, slot, lent, ?_, ?_⟩
    · intro v owned
      have new := owns delivered owned
      omega
    · refine (moved.isClosed _).trans ?_
      cases handle : t.handle with
      | borrowed v =>
          rw [handle] at lent
          have same : v = dep.sole.registry.backing := lent.2.trans moved.backing
          rw [Handle.view, same]
          exact order.working.isOpen
      | owned v =>
          rw [Bool.eq_false_iff]
          intro shut
          have before := order.closed v shut
          have new := owns delivered handle
          omega
  · intro topic t v delivered owned i topic' t' v' held owned'
    rw [Holds, workspace_answering] at held
    have before := (order.watches i topic' t' held).issued v' owned'
    have new := owns delivered owned
    omega

end Deployment

end TrackedSettings
