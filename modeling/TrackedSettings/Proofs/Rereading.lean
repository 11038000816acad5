import TrackedSettings.Proofs.Economy
import TrackedSettings.Proofs.Subsets

/-! # Reading under a stem twice

Two reads of the same names, with nothing in between, show the same. A copy that answers the first
read answers the second one too, and a store that is asked both times lists the same. The two differ
only if the first read has kept the store's listing and the second is answered from what was kept,
and then in nothing but the empty name, since that has an entry of its own in every listing kept.
-/

namespace TrackedSettings

open Operation

/-! ## Answers of a deployment -/

namespace Deployment

/-- This is what the cache in seat `i` asks and is told when nothing comes between, whatever it does
to its workspace meanwhile. -/
def Converses (i : Nat) : Deployment → List Exchange → Deployment → Prop
  | dep, [], dep' => ∃ w, dep' = dep.putBack i w
  | dep, e :: rest, dep' => ∃ w, e.reply = ((dep.putBack i w).reply i e.call).1 ∧
      Converses i ((dep.putBack i w).reply i e.call).2 rest dep'

variable {dep dep' : Deployment} {i : Nat}

theorem Converses.split {before after : List Exchange}
    (talk : Converses i dep (before ++ after) dep') :
    ∃ mid, Converses i dep before mid ∧ Converses i mid after dep' := by
  induction before generalizing dep with
  | nil => exact ⟨dep, ⟨dep.workspace i, (dep.putBack_workspace i).symm⟩, talk⟩
  | cons e rest ih =>
      obtain ⟨w, reply, talk⟩ := talk
      obtain ⟨mid, first, second⟩ := ih talk
      exact ⟨mid, ⟨w, reply, first⟩, second⟩

/-- To tell the observer something changes nothing but what the cache itself has changed. -/
theorem Converses.tells {event? : Option Event} {trace : List Exchange}
    (talk : Converses i dep trace dep') (tells : Tells event? trace) : ∃ w, dep' = dep.putBack i w := by
  rcases tells.cases with ⟨-, rfl⟩ | ⟨event, shared, -, rfl⟩
  · exact talk
  · obtain ⟨w, -, w', rfl⟩ := talk
    exact ⟨w', dep.putBack_putBack i w w'⟩

theorem seats_callStore (dep : Deployment) (store : StoreId) (call : StoreCall) :
    (dep.callStore store call).2.seats = dep.seats := by
  unfold callStore callAuthority
  repeat' split
  all_goals rfl

/-- While it is asked, the other party leaves alone what is the cache's own. -/
theorem workspace_reply (dep : Deployment) (i : Nat) (call : Outcall) :
    (dep.reply i call).2.workspace i =
      { dep.workspace i with shared := (dep.reply i call).2.shared } := by
  have unmoved : dep.workspace i = { dep.workspace i with shared := dep.shared } := by
    rw [← dep.shared_workspace i]
  cases call with
  | notify event => exact unmoved
  | resolve uri caller =>
      change (dep.resolve i).2.workspace i = { dep.workspace i with shared := (dep.resolve i).2.shared }
      rw [workspace_resolve, shared_resolve]
      exact unmoved
  | store store call =>
      change (dep.callStore store call).2.workspace i = _
      unfold workspace
      rw [dep.seats_callStore]
      cases dep.seats[i]? <;> rfl

theorem size_reply (dep : Deployment) (i : Nat) (call : Outcall) :
    (dep.reply i call).2.seats.size = dep.seats.size := by
  cases call with
  | notify event => rfl
  | resolve uri caller => exact (dep.resolve_sameParties i).size
  | store store call => exact congrArg Array.size (dep.seats_callStore store call)

theorem resolve_putBack (dep : Deployment) (i : Nat) (w : Workspace) :
    ((dep.putBack i w).resolve i).1 = (dep.resolve i).1 := by
  unfold resolve putBack
  simp only [Array.getElem?_modify, ↓reduceIte]
  cases dep.seats[i]? <;> rfl

end Deployment

/-- What holds of all that an operation may exchange holds of what it does exchange. -/
theorem Progress.Traces.run {α : Type} {p : Progress α}
    {post : List Exchange → α → Workspace → Prop} (traces : p.Traces post) {i : Nat} {t : Tally}
    (inside : i < t.deployment.seats.size) :
    ∃ trace, post trace (p.run (Tally.host i) t).1
        ((p.run (Tally.host i) t).2.deployment.workspace i) ∧
      t.deployment.Converses i trace (p.run (Tally.host i) t).2.deployment ∧
      (p.run (Tally.host i) t).2.calls = t.calls ++ trace.flatMap (·.call.counted) := by
  induction p generalizing post t with
  | finished a w =>
      refine ⟨[], ?_, ⟨w, rfl⟩, (List.append_nil _).symm⟩
      change post [] a ((t.deployment.putBack i w).workspace i)
      rw [Deployment.workspace_putBack inside]
      exact traces
  | waiting call w resume ih =>
      let asked := t.deployment.putBack i w
      let t' : Tally := { deployment := (asked.reply i call).2, calls := t.calls ++ call.counted }
      have here : t'.deployment.workspace i = { w with shared := t'.deployment.shared } := by
        rw [Deployment.workspace_reply, Deployment.workspace_putBack inside]
      have seated : i < t'.deployment.seats.size := by
        rw [Deployment.size_reply, (t.deployment.putBack_sameParties i w).size]
        exact inside
      have rest := traces (asked.reply i call).1 t'.deployment.shared
      rw [← here] at rest
      obtain ⟨trace, holds, talk, calls⟩ := ih _ _ rest seated
      refine ⟨⟨call, (asked.reply i call).1, t'.deployment.shared⟩ :: trace, holds,
        ⟨w, rfl, talk⟩, ?_⟩
      rw [List.flatMap_cons, ← List.append_assoc]
      exact calls

/-! ## A store that lists -/

/-- The cache in seat `i` is `c`, and `st` is an authoritative store that has these entries. -/
structure Deployment.Offers (dep : Deployment) (i : Nat) (c : Cache) (st : StoreId)
    (entries : Entries) : Prop where
  cache : dep.seats[i]?.map (·.cache) = some c
  store : ∃ a authority, dep.stores[st]? = some (.plain a) ∧
    dep.authorities[a]? = some authority ∧ authority.entries = entries

namespace Deployment.Offers

variable {dep dep' : Deployment} {i : Nat} {c : Cache} {st : StoreId} {entries : Entries}

theorem of_parties (offers : dep.Offers i c st entries) (parties : dep.SameParties dep')
    (authorities : dep'.authorities = dep.authorities) : dep'.Offers i c st entries where
  cache := by
    rw [← Array.getElem?_map, parties.caches, Array.getElem?_map]
    exact offers.cache
  store := by
    rw [parties.stores, authorities]
    exact offers.store

theorem putBack (offers : dep.Offers i c st entries) (w : Workspace) :
    (dep.putBack i w).Offers i c st entries :=
  offers.of_parties (dep.putBack_sameParties i w) rfl

theorem resolve (offers : dep.Offers i c st entries) : (dep.resolve i).2.Offers i c st entries :=
  offers.of_parties (dep.resolve_sameParties i) (dep.authorities_resolve i)

/-- A call that changes nothing is answered by the store, and its entries stay. -/
theorem call (offers : dep.Offers i c st entries) {call : StoreCall}
    (idle : ∀ authority : Authority, authority.changes call = []) :
    ∃ authority : Authority, authority.entries = entries ∧
      (dep.callStore st call).1 = (authority.answer call dep.shared).1 ∧
        (dep.callStore st call).2.Offers i c st entries := by
  obtain ⟨cache, a, authority, plain, known, same⟩ := offers
  obtain ⟨inside, -⟩ := Array.getElem?_eq_some_iff.mp known
  have answered : dep.callStore st call = ((authority.answer call dep.shared).1,
      { dep with
        shared := (authority.answer call dep.shared).2.2
        authorities := dep.authorities.setIfInBounds a (authority.answer call dep.shared).2.1 }) := by
    simp only [callStore, plain, callAuthority, known]
  rw [answered]
  refine ⟨authority, same, rfl, cache, a, _, plain, Array.getElem?_setIfInBounds_self_of_lt inside, ?_⟩
  rw [authority.answer_entries, idle]
  exact same

theorem canList (offers : dep.Offers i c st entries) {able : Bool} {shared : Shared}
    {rest : List Exchange}
    (talk : dep.Converses i (⟨.store st .canList, able, shared⟩ :: rest) dep') :
    able = true ∧ ∃ mid : Deployment, mid.Offers i c st entries ∧ mid.Converses i rest dep' := by
  have idle : ∀ authority : Authority, authority.changes .canList = [] := fun _ => rfl
  obtain ⟨w, reply, talk⟩ := talk
  obtain ⟨authority, -, answered, offers⟩ := (offers.putBack w).call idle
  exact ⟨reply.trans answered, _, offers, talk⟩

theorem list (offers : dep.Offers i c st entries) {stem : String} {request : ReadRequest}
    {listed : Except StoreError (Option Listing)} {shared : Shared} {rest : List Exchange}
    (talk : dep.Converses i (⟨.store st (.list stem request), listed, shared⟩ :: rest) dep') :
    (∃ grant, listed = .ok (some { entries := entries.scan stem, grant })) ∧
      ∃ mid : Deployment, mid.Offers i c st entries ∧ mid.Converses i rest dep' := by
  have idle : ∀ authority : Authority, authority.changes (.list stem request) = [] := fun _ => rfl
  obtain ⟨w, reply, talk⟩ := talk
  obtain ⟨authority, rfl, answered, offers⟩ := (offers.putBack w).call idle
  exact ⟨⟨_, reply.trans answered⟩, _, offers, talk⟩

theorem tells (offers : dep.Offers i c st entries) {event? : Option Event} {trace : List Exchange}
    (talk : dep.Converses i trace dep') (tells : Tells event? trace) :
    dep'.Offers i c st entries := by
  obtain ⟨w, rfl⟩ := talk.tells tells
  exact offers.putBack w

/-- The store is known, or the resolver finds it. -/
theorem finds (offers : dep.Offers i c st entries) {known : Option StoreId} {trace : List Exchange}
    {found : Except Fault StoreId} (finds : c.Finding known trace found)
    (talk : dep.Converses i trace dep')
    (source : known = some st ∨ known = none ∧ (dep.resolve i).1 = .ok st) :
    found = .ok st ∧ dep'.Offers i c st entries := by
  cases finds with
  | known same =>
      obtain ⟨w, rfl⟩ := talk
      rcases source with knows | ⟨unknown, -⟩
      · rw [same] at knows
        cases knows
        exact ⟨rfl, offers.putBack w⟩
      · rw [same] at unknown
        cases unknown
  | found unknown store shared =>
      obtain ⟨w, reply, w', rfl⟩ := talk
      have reply : Except.ok store = ((dep.putBack i w).resolve i).1 := reply
      rcases source with knows | ⟨-, resolved⟩
      · rw [unknown] at knows
        cases knows
      · rw [dep.resolve_putBack, resolved] at reply
        cases reply
        exact ⟨rfl, (offers.putBack w).resolve.putBack w'⟩
  | failed unknown e shared =>
      obtain ⟨w, reply, -⟩ := talk
      have reply : Except.error e = ((dep.putBack i w).resolve i).1 := reply
      rcases source with knows | ⟨-, resolved⟩
      · rw [unknown] at knows
        cases knows
      · rw [dep.resolve_putBack, resolved] at reply
        cases reply

end Deployment.Offers

/-! ## What a second look finds -/

theorem Workspace.of_recalls {α : Type} {w : Workspace} {keeps : Bool} {topic : Topic}
    {look : Copies → Option α} {data : α} (found : w.recalls keeps topic look = some data) :
    keeps = true ∧ (∃ t, w.Current topic t) ∧ look w.copies = some data := by
  have looked := w.validate_looked topic
  rw [w.validate_glance] at looked
  generalize (w.validate topic).2 = w' at looked
  unfold recalls at found
  split at found
  · next generation shown =>
    rw [shown] at looked
    cases looked with
    | current current => exact ⟨rfl, ⟨_, current⟩, found⟩
  · cases found

/-- What a look has not found, no look finds in what it has left. -/
theorem Workspace.recalls_examined {α : Type} {w w' : Workspace} {keeps : Bool} {topic : Topic}
    {look : Copies → Option α} (nothing : w.recalls keeps topic look = none)
    (left : w'.copies = w.examined keeps topic) : w'.recalls keeps topic look = none := by
  cases keeps with
  | false => rfl
  | true =>
      have looked := w.validate_looked topic
      unfold examined at left
      simp only [↓reduceIte] at left
      generalize w.validate topic = result at looked left
      obtain ⟨verdict, w''⟩ := result
      cases looked with
      | absent untracked => exact recalls_untracked (by rw [left]; exact untracked) true look
      | moved evicted => exact recalls_untracked (by rw [left]; exact evicted.copies.tracker) true look
      | broken evicted => exact recalls_untracked (by rw [left]; exact evicted.copies.tracker) true look
      | current current =>
          rw [current.recalls] at nothing
          cases found : w'.recalls true topic look with
          | none => rfl
          | some data =>
              have held := (of_recalls found).2.2
              rw [left, nothing] at held
              cases held

theorem Footing.Leaves.find? {footing : Footing} {a : Answer} {w : Workspace} {left : Copies}
    {copy : Copy} {grant : Option Grant} (leaves : footing.Leaves a w left)
    (brings : a.brings = some (copy, grant)) :
    left = w.copies ∨ left.find? copy.topic = none ∨ left.find? copy.topic = some copy := by
  have granted : ∀ g, w.LeftUnder copy g left →
      left.find? copy.topic = none ∨ left.find? copy.topic = some copy := by
    intro g leaves
    unfold Workspace.LeftUnder at leaves
    split at leaves
    · exact Or.inr leaves.copy
    all_goals exact Or.inl leaves.copy
  unfold Leaves at leaves
  rw [brings] at leaves
  cases footing with
  | outside => exact Or.inl leaves
  | untracked =>
      cases grant with
      | none => exact Or.inl leaves
      | some g => exact Or.inr (granted g leaves)
  | vouched generation =>
      cases grant with
      | some g => exact Or.inr (granted g leaves)
      | none =>
          simp only [Workspace.LeftAt] at leaves
          split at leaves
          · split at leaves
            · exact Or.inr (Or.inr leaves.copy)
            · exact Or.inl leaves
          · exact Or.inl leaves
          all_goals exact Or.inr (Or.inl leaves.copy)

/-- A later look finds what was listed, with an entry for the empty name, or it finds nothing. -/
theorem Footing.Leaves.furnished {footing : Footing} {w w' : Workspace} {keeps : Bool} {stem : String}
    {store : StoreId} {request : ReadRequest} {listing : Listing} {shared : Shared} {left : Copies}
    (leaves : footing.Leaves ⟨.store store (.list stem request), .ok (some listing)⟩
      { copies := w.examined keeps (.under stem), shared } left)
    (nothing : w.recalls keeps (.under stem) (·.listings[stem]?) = none) (same : w'.copies = left)
    {all : Entries} (found : w'.recalls keeps (.under stem) (·.listings[stem]?) = some all) :
    all = (listing.entries.strip stem).insert emptyName none := by
  have held : left.find? (.under stem) = some (.listing stem all) := by
    rw [← same, Copies.find?, (Workspace.of_recalls found).2.2, Option.map_some]
  rcases leaves.find? rfl with asFound | dropped | kept
  · rw [Workspace.recalls_examined nothing (same.trans asFound)] at found
    cases found
  · cases held.symm.trans dropped
  · cases held.symm.trans kept
    rfl

/-! ## A read that asks -/

section Fetching

variable (dep' : Deployment) (i : Nat) (c : Cache) (st : StoreId) (entries : Entries) (stem : String)
  (names : List String)

/-- A read has asked the store, and shows what is listed under the stem. If a later look finds
anything of the stem, then it is the same with an entry for the empty name. -/
structure Deployment.Fetched (trace : List Exchange) (result : Entries) (left : Workspace) : Prop where
  offers : dep'.Offers i c st entries
  calls : trace.flatMap (·.call.counted) ≠ []
  shows : result = ((entries.scan stem).strip stem).choose names
  knows : left.store = some st
  keeps : ∀ w : Workspace, w.copies = left.copies → ∀ data,
    w.recalls (!c.caller.atStore) (.under stem) (·.listings[stem]?) = some data →
      data = ((entries.scan stem).strip stem).insert emptyName none

end Fetching

/-- The store lists what it has under the stem. -/
theorem Deployment.Offers.gets {dep dep' : Deployment} {i : Nat} {c : Cache} {st : StoreId}
    {entries : Entries} (offers : dep.Offers i c st entries) {footing : Footing} {found left : Copies}
    {stem : String} {request : ReadRequest} {names : List String} {got : List Exchange}
    {result : Entries}
    (gets : Cache.ListingGot st footing found stem request names got result left)
    (talk : dep.Converses i got dep') :
    dep'.Offers i c st entries ∧ got.flatMap (·.call.counted) ≠ [] ∧
      result = ((entries.scan stem).strip stem).choose names ∧
      ∃ grant shared, footing.Leaves
        ⟨.store st (.list stem request), .ok (some { entries := entries.scan stem, grant })⟩
        { copies := found, shared } left := by
  cases gets with
  | read listing shared tells leaves =>
      obtain ⟨⟨grant, listed⟩, mid, offers, rest⟩ := offers.list talk
      cases listed
      exact ⟨offers.tells rest tells, List.cons_ne_nil _ _, rfl, grant, shared, leaves⟩
  | missing shared =>
      obtain ⟨⟨grant, impossible⟩, -⟩ := offers.list talk
      cases impossible
  | failed e shared =>
      obtain ⟨⟨grant, impossible⟩, -⟩ := offers.list talk
      cases impossible

/-- A read that no copy has answered asks the store, if that can be found. -/
theorem Deployment.Offers.fetched {dep dep' : Deployment} {i : Nat} {c : Cache} {st : StoreId}
    {entries : Entries} (offers : dep.Offers i c st entries) {w left : Workspace} {stem : String}
    {names : List String} {way : Way} {trace : List Exchange} {result : Entries}
    (dialogue : c.ListingDialogue w stem names way trace result left)
    (talk : dep.Converses i trace dep')
    (source : w.store = some st ∨ w.store = none ∧ (dep.resolve i).1 = .ok st)
    (nothing : w.recalls (!c.caller.atStore) (.under stem) (·.listings[stem]?) = none) :
    dep'.Fetched i c st entries stem names trace result left := by
  cases dialogue with
  | hit recalls =>
      rw [nothing] at recalls
      cases recalls
  | asked _ tells goesOn =>
      obtain ⟨looked, first, talk⟩ := talk.split
      obtain ⟨w₁, rfl⟩ := first.tells tells
      have offers := offers.putBack w₁
      have source : w.store = some st ∨
          w.store = none ∧ ((dep.putBack i w₁).resolve i).1 = .ok st := by
        rw [dep.resolve_putBack]
        exact source
      cases goesOn with
      | unresolved finds =>
          obtain ⟨mid, lookup, -⟩ := talk.split
          have impossible := (offers.finds finds lookup source).1
          cases impossible
      | unable shared finds =>
          obtain ⟨mid, lookup, talk⟩ := talk.split
          obtain ⟨found, offers⟩ := offers.finds finds lookup source
          cases found
          have impossible := (offers.canList talk).1
          cases impossible
      | fetched shared finds tells flags gets knows =>
          obtain ⟨mid, lookup, talk⟩ := talk.split
          obtain ⟨found, offers⟩ := offers.finds finds lookup source
          cases found
          obtain ⟨-, mid, offers, talk⟩ := offers.canList talk
          obtain ⟨mid, told, talk⟩ := talk.split
          obtain ⟨offers, calls, shows, grant, shared', leaves⟩ := (offers.tells told tells).gets gets talk
          refine ⟨offers, ?_, shows, knows, ?_⟩
          · simp [List.flatMap_append, List.flatMap_cons, calls]
          · exact fun w' same data recalls => leaves.furnished nothing same recalls

/-! ## Reads answered from a copy -/

/-- A read that a copy can answer does nothing but tell of the hit. -/
theorem Cache.listing_hits {c : Cache} {stem : String} {w : Workspace} {all : Entries}
    (found : w.recalls (!c.caller.atStore) (.under stem) (·.listings[stem]?) = some all)
    (names : List String) :
    (c.listing stem names w).Hits (.under stem) (all.choose names) w := by
  obtain ⟨keeps, ⟨t, current⟩, held⟩ := Workspace.of_recalls found
  let noted := c.jot .debug s!"GET_PREFIX({stem}); names={names.length}" w
  let look (copies : Copies) : Option Entries := copies.listings[stem]?.map (·.choose names)
  have recalled : look noted.copies = some (all.choose names) := congrArg (Option.map _) held
  have stands : c.standing (!c.caller.atStore) (.under stem) look noted =
      .finished (.answered (all.choose names)) noted := by
    have current : noted.Current (.under stem) t := current
    simp only [standing, keeps, ↓reduceIte, bind_apply, locked_apply,
      Workspace.consult_current current, recalled, report]
    rfl
  refine ⟨c.jot .trace s!"HIT({stem})" noted, rfl, rfl, ?_⟩
  change Progress.andThen _ (c.standing (!c.caller.atStore) (.under stem) look noted) = _
  rw [stands]
  rfl

theorem CacheAct.hits_of_recalls {c : Cache} {act : CacheAct} {stem : String}
    (reads : act.isReadOf c (.under stem) = true) {w : Workspace} {all : Entries}
    (found : w.recalls (!c.caller.atStore) (.under stem) (·.listings[stem]?) = some all) :
    (act.operation c w).Hits (.under stem) (act.yields (all.choose act.names)) w := by
  cases act with
  | listing other names =>
      obtain rfl : stem = other := by simpa [isReadOf] using reads
      exact (Cache.listing_hits found names).map Outcome.entries
  | named other name =>
      obtain rfl : stem = other := by simpa [isReadOf] using reads
      have hits := Cache.listing_hits found [name]
      exact (hits.map fun entries : Entries => entries.value name).map Outcome.value
  | value | put | putAll | delete | reset | copy | isTracked | clear | forget | profile
  | readable | provider | unresolve | heard => cases reads

theorem Workspace.recalls_congr {α : Type} {w w' : Workspace} (copies : w'.copies = w.copies)
    (slots : w'.shared.slots = w.shared.slots) (keeps : Bool) (topic : Topic)
    (look : Copies → Option α) : w'.recalls keeps topic look = w.recalls keeps topic look := by
  unfold recalls glance
  rw [copies, slots]

/-! ## Two reads in a session -/

/-- What is chosen from a listing as it is kept differs from what is chosen from the listing itself in
nothing but the empty name. -/
theorem Entries.choose_furnished (all : Entries) (names : List String) :
    choose names (all.insert emptyName none) =
      if emptyName ∈ names then (all.choose names).insert emptyName none else all.choose names := by
  have others : ∀ name, name ≠ emptyName →
      (choose names (all.insert emptyName none))[name]? = (all.choose names)[name]? := by
    intro name real
    rw [getElem?_choose _ names real, getElem?_choose _ names real, getElem?_insert_emptyName,
      if_neg real]
  apply Std.ExtTreeMap.ext_getElem?
  intro name
  by_cases asked : emptyName ∈ names
  · rw [if_pos asked, getElem?_insert_emptyName]
    split
    · next same =>
      have given : names.isEmpty = false := List.isEmpty_eq_false_iff_exists_mem.mpr ⟨_, asked⟩
      rw [same, choose, given, if_neg Bool.false_ne_true, getElem?_pick, if_pos asked,
        getElem?_insert_emptyName, if_pos rfl]
    · next real => exact others name real
  · rw [if_neg asked]
    by_cases real : name = emptyName
    · rw [real, getElem?_choose_emptyName _ asked, getElem?_choose_emptyName _ asked]
    · exact others name real

theorem Entries.value_choose_singleton (t : Entries) (name : String) :
    (t.choose [name]).value name = t.value name := by
  rw [value, choose, List.isEmpty_cons, if_neg Bool.false_ne_true, getElem?_pick,
    if_pos List.mem_cons_self, value]

theorem Entries.value_strip_scan (t : Entries) (stem name : String) :
    ((t.scan stem).strip stem).value name = t.value (stem ++ name) := by
  rw [value, getElem?_strip, getElem?_scan, if_pos (beginsWith_append stem name), value]

namespace Session

variable {s : Session} {i : Nat} {seat : Seat} {act : CacheAct}

/-- A step of a cache is reported on as what its operation exchanges makes it. -/
theorem report_traces (seated : s.deployment.seats[i]? = some seat) (own : act ≠ .heard)
    (watched : List Topic) {post : List Exchange → Outcome → Workspace → Prop}
    (traces : (act.operation seat.cache (s.fresh.deployment.workspace i)).Traces post) :
    ∃ trace, post trace (s.report 0 watched (.onCache i act)).outcome
        ((s.play 0 [.onCache i act]).deployment.workspace i) ∧
      s.fresh.deployment.Converses i trace (s.play 0 [.onCache i act]).deployment ∧
      (s.report 0 watched (.onCache i act)).calls = trace.flatMap (·.call.counted) := by
  have inside : i < s.fresh.tally.deployment.seats.size := (Array.getElem?_eq_some_iff.mp seated).1
  obtain ⟨outcome, tally⟩ := s.fresh.perform_tally i act seated own
  obtain ⟨trace, holds, talk, calls⟩ := Progress.Traces.run traces inside
  refine ⟨trace, ?_, ?_, ?_⟩
  · change post trace (s.fresh.perform (fire 0) (.onCache i act)).1
      ((s.fresh.perform (fire 0) (.onCache i act)).2.tally.deployment.workspace i)
    rw [outcome, tally]
    exact holds
  · change s.fresh.deployment.Converses i trace
      (s.fresh.perform (fire 0) (.onCache i act)).2.tally.deployment
    rw [tally]
    exact talk
  · change (s.fresh.perform (fire 0) (.onCache i act)).2.tally.calls = _
    rw [tally]
    exact calls

/-- A step that a copy answers asks nobody, and leaves copies and boards as they are. -/
theorem report_hits (seated : s.deployment.seats[i]? = some seat) (own : act ≠ .heard)
    (watched : List Topic) {topic : Topic} {outcome : Outcome}
    (hits : (act.operation seat.cache (s.fresh.deployment.workspace i)).Hits topic outcome
      (s.fresh.deployment.workspace i)) :
    (s.report 0 watched (.onCache i act)).outcome = outcome ∧
      (s.report 0 watched (.onCache i act)).calls = [] ∧
      ∃ w, w.copies = (s.fresh.deployment.workspace i).copies ∧
        w.shared.slots = (s.fresh.deployment.workspace i).shared.slots ∧
        (s.play 0 [.onCache i act]).deployment = s.fresh.deployment.putBack i w := by
  obtain ⟨shown, tally⟩ := s.fresh.perform_tally i act seated own
  obtain ⟨w, copies, slots, same⟩ := hits
  have run : (act.operation seat.cache).run (Tally.host i) s.fresh.tally =
      (outcome, { s.fresh.tally with deployment := s.fresh.deployment.putBack i w }) := by
    change Progress.run (Tally.host i)
      (act.operation seat.cache (s.fresh.deployment.workspace i)) s.fresh.tally = _
    rw [same]
    change (outcome, ({
      deployment := (s.fresh.deployment.putBack i w).putBack i
        ((s.fresh.deployment.putBack i w).workspace i)
      calls := s.fresh.tally.calls ++ [] } : Tally)) = _
    rw [Deployment.putBack_workspace, List.append_nil]
  rw [run] at shown tally
  exact ⟨shown, congrArg Tally.calls tally, w, copies, slots, congrArg Tally.deployment tally⟩

section Reading

variable {st : StoreId} {entries : Entries} {stem : String} {kept : Entries}

/-- What a look at the stem finds in the copies of the cache in seat `i` when the next step begins. -/
def recalls (s : Session) (i : Nat) (c : Cache) (stem : String) : Option Entries :=
  (s.fresh.deployment.workspace i).recalls (!c.caller.atStore) (.under stem) (·.listings[stem]?)

theorem recalls_putBack (seated : s.deployment.seats[i]? = some seat) {s' : Session} {w : Workspace}
    (copies : w.copies = (s.fresh.deployment.workspace i).copies)
    (slots : w.shared.slots = (s.fresh.deployment.workspace i).shared.slots)
    (deployment : s'.deployment = s.fresh.deployment.putBack i w) (c : Cache) (stem : String) :
    s'.recalls i c stem = s.recalls i c stem := by
  have inside : i < s.fresh.deployment.seats.size := (Array.getElem?_eq_some_iff.mp seated).1
  apply Workspace.recalls_congr
  · rw [workspace_fresh, deployment, Deployment.workspace_putBack inside]
    exact copies
  · rw [workspace_fresh]
    change s'.deployment.shared.slots = _
    rw [deployment]
    exact slots

/-- A read under a stem is answered from what the cache has. -/
theorem report_of_recalls (seated : s.deployment.seats[i]? = some seat)
    (reads : act.isReadOf seat.cache (.under stem) = true) (watched : List Topic)
    (recalled : s.recalls i seat.cache stem = some kept) :
    (s.report 0 watched (.onCache i act)).outcome = act.yields (kept.choose act.names) ∧
      (s.report 0 watched (.onCache i act)).calls = [] ∧
      (s.play 0 [.onCache i act]).recalls i seat.cache stem = some kept ∧
      ∃ w, (s.play 0 [.onCache i act]).deployment = s.fresh.deployment.putBack i w := by
  have own : act ≠ .heard := by
    rintro rfl
    cases reads
  obtain ⟨outcome, calls, w, copies, slots, deployment⟩ :=
    report_hits seated own watched (CacheAct.hits_of_recalls reads recalled)
  refine ⟨outcome, calls, ?_, w, deployment⟩
  rw [recalls_putBack seated copies slots deployment]
  exact recalled

/-- A read under a stem that nothing is found of asks the store. -/
theorem report_fetched (seated : s.deployment.seats[i]? = some seat)
    (found : seat.store = some st ∨ seat.store = none ∧ seat.resolver.resolve.1 = .ok st)
    (offers : s.deployment.Offers i seat.cache st entries)
    (reads : act.isReadOf seat.cache (.under stem) = true) (watched : List Topic)
    (nothing : s.recalls i seat.cache stem = none) :
    ∃ trace result, (s.report 0 watched (.onCache i act)).outcome = act.yields result ∧
      (s.report 0 watched (.onCache i act)).calls = trace.flatMap (·.call.counted) ∧
      (s.play 0 [.onCache i act]).deployment.Fetched i seat.cache st entries stem act.names trace
        result ((s.play 0 [.onCache i act]).deployment.workspace i) := by
  have own : act ≠ .heard := by
    rintro rfl
    cases reads
  have seated' : s.fresh.deployment.seats[i]? = some seat := seated
  have offers : s.fresh.deployment.Offers i seat.cache st entries :=
    offers.of_parties ⟨rfl, rfl⟩ rfl
  have source : (s.fresh.deployment.workspace i).store = some st ∨
      (s.fresh.deployment.workspace i).store = none ∧ (s.fresh.deployment.resolve i).1 = .ok st := by
    simp only [Deployment.workspace, Deployment.resolve, seated']
    exact found
  obtain ⟨trace, ⟨way, result, dialogue, outcome⟩, talk, calls⟩ :=
    report_traces seated own watched (act.read_traces reads _)
  exact ⟨trace, result, outcome, calls, offers.fetched dialogue talk source nothing⟩

end Reading

/-- The first read has asked the store, and the second has not. -/
def Report.Feeds (first second : Report) : Prop :=
  first.calls ≠ [] ∧ second.calls = []

/-- Two reads in a row show the same, or the first shows what the store lists and the second what is
kept of that. -/
theorem reports_twice (seated : s.deployment.seats[i]? = some seat) {st : StoreId}
    (found : seat.store = some st ∨ seat.store = none ∧ seat.resolver.resolve.1 = .ok st)
    {entries : Entries} (offers : s.deployment.Offers i seat.cache st entries) {stem : String}
    (reads : act.isReadOf seat.cache (.under stem) = true) (watched : List Topic) :
    let first := s.report 0 watched (.onCache i act)
    let second := (s.play 0 [.onCache i act]).report 0 watched (.onCache i act)
    let all := (entries.scan stem).strip stem
    (∃ r, first.outcome = act.yields r ∧ second.outcome = act.yields r) ∨
      first.Feeds second ∧ first.outcome = act.yields (all.choose act.names) ∧
        second.outcome = act.yields (Entries.choose act.names (all.insert emptyName none)) := by
  intro first second all
  let s' := s.play 0 [.onCache i act]
  have again : s'.deployment.Offers i seat.cache st entries →
      ∃ seat' : Seat, s'.deployment.seats[i]? = some seat' ∧ seat'.cache = seat.cache :=
    fun offers => Option.map_eq_some_iff.mp offers.cache
  cases recalled : s.recalls i seat.cache stem with
  | some kept =>
      obtain ⟨outcome, -, recalled', w, deployment⟩ := report_of_recalls seated reads watched recalled
      obtain ⟨seat', seated', same⟩ := again (by
        rw [deployment]
        exact (offers.of_parties ⟨rfl, rfl⟩ rfl : s.fresh.deployment.Offers i _ st entries).putBack w)
      rw [← same] at reads recalled'
      obtain ⟨outcome', -⟩ := report_of_recalls seated' reads watched recalled'
      exact Or.inl ⟨_, outcome, outcome'⟩
  | none =>
      obtain ⟨trace, result, outcome, calls, fetched⟩ :=
        report_fetched seated found offers reads watched recalled
      obtain ⟨seat', seated', same⟩ := again fetched.offers
      have knows : seat'.store = some st := by
        have knows := fetched.knows
        rw [Deployment.workspace, seated'] at knows
        exact knows
      cases recalled' : s'.recalls i seat.cache stem with
      | some kept =>
          have furnished : kept = all.insert emptyName none :=
            fetched.keeps _ (by rw [workspace_fresh]) kept recalled'
          rw [← same] at reads recalled'
          obtain ⟨outcome', calls', -⟩ := report_of_recalls seated' reads watched recalled'
          rw [furnished] at outcome'
          refine Or.inr ⟨⟨?_, calls'⟩, outcome.trans (congrArg _ fetched.shows), outcome'⟩
          rw [calls]
          exact fetched.calls
      | none =>
          have offers' := fetched.offers
          rw [← same] at reads recalled' offers'
          obtain ⟨trace', result', outcome', -, fetched'⟩ :=
            report_fetched seated' (Or.inl knows) offers' reads watched recalled'
          rw [fetched.shows] at outcome
          rw [fetched'.shows] at outcome'
          exact Or.inl ⟨_, outcome, outcome'⟩

/-- A cache whose store is an authoritative one reads twice under a stem, with nothing in between, and
whatever it has kept before, both reads show the same. They may differ only if the first has fed the
second and the empty name was asked for, and then in the empty name only. If the store has no value for
the stem itself, the second read shows the empty name without a value. -/
theorem reads_in_a_row_agree (seated : s.deployment.seats[i]? = some seat) {st : StoreId}
    (found : seat.store = some st ∨ seat.store = none ∧ seat.resolver.resolve.1 = .ok st) {a : Nat}
    {authority : Authority} (plain : s.deployment.stores[st]? = some (.plain a))
    (known : s.deployment.authorities[a]? = some authority) (stem : String) (watched : List Topic) :
    (∀ names, let read : Instruction := .onCache i (.listing stem names)
      ∃ first second r r', s.run [read, read] watched = [first, second] ∧
        first.outcome = .entries r ∧ second.outcome = .entries r' ∧
        (r' = r ∨ first.Feeds second ∧ emptyName ∈ names ∧
          (∀ name, name ≠ emptyName → r'[name]? = r[name]?) ∧
          (authority.value stem = none → r' = r.insert emptyName none))) ∧
    ∀ name, let read : Instruction := .onCache i (.named stem name)
      ∃ first second v v', s.run [read, read] watched = [first, second] ∧
        first.outcome = .value v ∧ second.outcome = .value v' ∧
        (v' = v ∨ first.Feeds second ∧ name = emptyName ∧ authority.value stem ≠ none) := by
  have offers : s.deployment.Offers i seat.cache st authority.entries :=
    ⟨by rw [seated]; rfl, a, authority, plain, known, rfl⟩
  constructor
  · intro names read
    have reads : (CacheAct.listing stem names).isReadOf seat.cache (.under stem) = true :=
      beq_self_eq_true _
    rcases reports_twice seated found offers reads watched with
      ⟨r, shown, shown'⟩ | ⟨feeds, shown, shown'⟩
    · exact ⟨_, _, r, r, s.run_eq_reports _ _, shown, shown', Or.inl rfl⟩
    · refine ⟨_, _, _, _, s.run_eq_reports _ _, shown, shown', ?_⟩
      simp only [CacheAct.names, Entries.choose_furnished]
      split
      · next asked =>
        refine Or.inr ⟨feeds, asked, fun name real => ?_, fun _ => rfl⟩
        rw [Entries.getElem?_insert_emptyName, if_neg real]
      · exact Or.inl rfl
  · intro name read
    have reads : (CacheAct.named stem name).isReadOf seat.cache (.under stem) = true :=
      beq_self_eq_true _
    rcases reports_twice seated found offers reads watched with
      ⟨r, shown, shown'⟩ | ⟨feeds, shown, shown'⟩
    · exact ⟨_, _, r.value name, r.value name, s.run_eq_reports _ _, shown, shown', Or.inl rfl⟩
    · refine ⟨_, _, _, _, s.run_eq_reports _ _, shown, shown', ?_⟩
      simp only [CacheAct.names, Entries.value_choose_singleton]
      by_cases real : name = emptyName
      · have listed : ((authority.entries.scan stem).strip stem).value emptyName =
            authority.value stem := by
          rw [Entries.value_strip_scan, emptyName, String.append_empty]
          rfl
        rw [real, Entries.value, Entries.getElem?_insert_emptyName, if_pos rfl, listed]
        by_cases stored : authority.value stem = none
        · exact Or.inl stored.symm
        · exact Or.inr ⟨feeds, rfl, stored⟩
      · refine Or.inl ?_
        rw [Entries.value, Entries.getElem?_insert_emptyName, if_neg real, Entries.value]

end Session

def oneText (key text : String) : Std.ExtTreeMap String String :=
  Std.ExtTreeMap.insert {} key text

/-- A store that has one key, and a cache that knows it. -/
def oneKey (key text : String) : Session where
  deployment :=
    { shared := (Authority.create 2 .duplicate (oneText key text) {}).2
      authorities := #[(Authority.create 2 .duplicate (oneText key text) {}).1]
      stores := #[.plain 0]
      seats := #[{ cache := { uri := "settings:main" }, resolver := .fixed 0 }] }
  observers := #[.silent]

/-- The brightness is the same both times, though the empty name is asked for along with it. -/
theorem reads_in_a_row_agree_on_brightness :
    let read : Instruction := .onCache 0 (.listing "display/" ["brightness", ""])
    ∃ first second r r', (oneKey "display/brightness" "128").run [read, read] [] = [first, second] ∧
      first.outcome = .entries r ∧ second.outcome = .entries r' ∧
        r'["brightness"]? = r["brightness"]? := by
  intro read
  let s := oneKey "display/brightness" "128"
  have seated : s.deployment.seats[0]? =
      some { cache := { uri := "settings:main" }, resolver := .fixed 0 } := rfl
  have plain : s.deployment.stores[0]? = some (.plain 0) := rfl
  have known : s.deployment.authorities[0]? =
      some (Authority.create 2 .duplicate (oneText "display/brightness" "128") {}).1 := rfl
  obtain ⟨first, second, r, r', ran, shown, shown', same⟩ :=
    (Session.reads_in_a_row_agree seated (Or.inr ⟨rfl, rfl⟩) plain known "display/" []).1
      ["brightness", ""]
  refine ⟨first, second, r, r', ran, shown, shown', ?_⟩
  rcases same with rfl | ⟨-, -, others, -⟩
  · rfl
  · exact others "brightness" (by decide)

/-- What the reads of a script show under the empty name. -/
def emptyNames (s : Session) (script : Script) : List (Option Value) :=
  (s.run script []).map fun r =>
    match r.outcome with
    | .entries t => t[emptyName]?
    | .value v => some v
    | _ => none

def twice (act : CacheAct) : Script :=
  [.onCache 0 act, .onCache 0 act]

/-- The empty name is not there at first, and then it is there without a value. If the stem itself is
a key with a value, the empty name has that at first, and none then. -/
theorem empty_name_in_a_row_differs :
    emptyNames (oneKey "display/brightness" "128") (twice (.listing "display/" [""])) =
        [none, some none] ∧
      emptyNames (oneKey "display/" "on") (twice (.named "display/" "")) =
        [some (some "on"), some none] := by
  constructor <;> decide +kernel

end TrackedSettings
