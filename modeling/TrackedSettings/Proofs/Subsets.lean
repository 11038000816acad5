import TrackedSettings.Proofs.Alone
import TrackedSettings.Proofs.Dialogue
import TrackedSettings.Proofs.Lookup

/-! # One listing answers for all names

A read under a stem asks for everything under it, whichever names it is after, and keeps everything.
So while the slot of the stem does not move, all later reads are answered from the one copy, and each
finds under a name just what the store's listing had under the whole key, whatever was read first and
however often a name is asked for.
-/

namespace TrackedSettings

open Operation

/-! ## Reads under a stem -/

/-- The names that a read under a stem is after. -/
def CacheAct.names : CacheAct → List String
  | .listing _ names => names
  | .named _ name => [name]
  | _ => []

/-- What a read under a stem makes of the entries that it gets. -/
def CacheAct.yields : CacheAct → Entries → Outcome
  | .listing .., entries => .entries entries
  | .named _ name, entries => .value (entries.value name)
  | _, _ => .inapplicable

theorem CacheAct.read_traces {c : Cache} {act : CacheAct} {stem : String}
    (reads : act.isReadOf c (.under stem) = true) (w : Workspace) :
    (act.operation c w).Traces fun trace outcome w' =>
      ∃ way result, c.ListingDialogue w stem act.names way trace result w' ∧
        outcome = act.yields result := by
  cases act with
  | listing other names =>
      obtain rfl : stem = other := by simpa [isReadOf] using reads
      refine map_traces ((c.listing_traces _ names w).mono ?_)
      rintro trace result w' ⟨way, dialogue⟩
      exact ⟨way, result, dialogue, rfl⟩
  | named other name =>
      obtain rfl : stem = other := by simpa [isReadOf] using reads
      refine map_traces (map_traces ((c.listing_traces _ [name] w).mono ?_))
      rintro trace result w' ⟨way, dialogue⟩
      exact ⟨way, result, dialogue, rfl⟩
  | value | put | putAll | delete | reset | copy | isTracked | clear | forget | profile
  | readable | provider | unresolve | heard => cases reads

/-! ## The two ways -/

/-- The answer is as that of a resolver that finds a store, and of a store that lists `entries` under
the stem, with a grant whose slot holds what was handed out when the answer comes. -/
def Exchange.ServedBy (stem : String) (entries : Entries) (g : Grant) : Exchange → Prop
  | ⟨.resolve .., reply, _⟩ => ∃ store, reply = .ok store
  | ⟨.store _ .canList, reply, _⟩ => reply = true
  | ⟨.store _ (.list other _), reply, shared⟩ => other = stem →
      reply = .ok (some { entries, grant := some g }) ∧
        shared.slots.read g.handle.view g.index = .ok g.generation
  | _ => True

/-- The whole listing of the stem is kept under the tracker of the grant. -/
structure Copies.Whole (copies : Copies) (stem : String) (entries : Entries) (g : Grant) : Prop where
  tracker : copies.trackers[Topic.under stem]? = some (.ofGrant (.under stem) g)
  listing : copies.listings[stem]? = some ((entries.strip stem).insert emptyName none)

theorem Tells.calls {event? : Option Event} {trace : List Exchange} (tells : Tells event? trace) :
    trace.flatMap (·.call.counted) = [] := by
  rcases tells.cases with ⟨-, rfl⟩ | ⟨event, shared, -, rfl⟩ <;> rfl

theorem Workspace.Current.recalls {α : Type} {w : Workspace} {topic : Topic} {t : Tracker}
    (current : w.Current topic t) (look : Copies → Option α) :
    w.recalls true topic look = look w.copies := by
  unfold Workspace.recalls
  simp only [current.glance]

namespace Workspace

variable {w : Workspace} {topic : Topic} {copy : Copy} {g : Grant} {left : Copies}

theorem glance_untracked (untracked : w.copies.trackers[topic]? = none) :
    w.glance topic = .absent := by
  rw [glance, untracked]

theorem recalls_untracked {α : Type} (untracked : w.copies.trackers[topic]? = none) (keeps : Bool)
    (look : Copies → Option α) : w.recalls keeps topic look = none := by
  unfold recalls
  rw [glance_untracked untracked]
  cases keeps <;> rfl

theorem examined_untracked (untracked : w.copies.trackers[topic]? = none) (keeps : Bool) :
    w.examined keeps topic = w.copies := by
  unfold examined
  rw [copies_validate, glance_untracked untracked]
  cases keeps <;> rfl

theorem footing_untracked (untracked : w.copies.trackers[topic]? = none) :
    w.footing true topic = .untracked := by
  unfold footing
  rw [glance_untracked untracked]
  rfl

/-- Where no tracker is replaced, a grant that is current is put in place with its copy. -/
theorem LeftUnder.put (leaves : w.LeftUnder copy g left)
    (untracked : w.copies.trackers[copy.topic]? = none)
    (read : w.shared.slots.read g.handle.view g.index = .ok g.generation) :
    w.copies.Put copy.topic (some (.ofGrant copy.topic g)) (some copy) left := by
  let t : Tracker := .ofGrant copy.topic g
  have slots : (w.replace t).shared.slots = w.shared.slots := by
    rw [replace, dropTracker, show w.copies.trackers[t.topic]? = none from untracked]
  have current : (w.replace t).Current copy.topic t :=
    ⟨(w.replace_put t).tracker, by rw [slots]; exact read⟩
  unfold LeftUnder at leaves
  rw [current.glance] at leaves
  exact leaves

end Workspace

namespace Cache

variable {c : Cache} {w left : Workspace} {stem : String} {names : List String} {way : Way}
  {trace : List Exchange} {result : Entries} {entries : Entries} {g : Grant}

theorem Finding.calls {known : Option StoreId} {found : Except Fault StoreId}
    (finds : c.Finding known trace found) : trace.flatMap (·.call.counted) = [] := by
  cases finds <;> rfl

/-- A copy under a current tracker answers, and nobody is asked. -/
theorem ListingDialogue.of_copy (dialogue : c.ListingDialogue w stem names way trace result left)
    (client : c.caller.atStore = false) {t : Tracker} (current : w.Current (.under stem) t)
    {all : Entries} (held : w.copies.listings[stem]? = some all) :
    Tells (some (.hit (.under stem))) trace ∧ result = all.choose names ∧ w.Unmoved left := by
  have recalled : w.recalls (!c.caller.atStore) (.under stem) (·.listings[stem]?) = some all := by
    rw [client]
    exact (current.recalls _).trans held
  cases dialogue with
  | hit recalls tells leaves =>
      rw [recalled] at recalls
      cases recalls
      exact ⟨tells, rfl, leaves⟩
  | asked nothing tells goesOn =>
      rw [recalled] at nothing
      cases nothing

/-- A stem without a tracker is asked for once, and the whole listing is kept. -/
theorem ListingDialogue.of_served (dialogue : c.ListingDialogue w stem names way trace result left)
    (client : c.caller.atStore = false)
    (untracked : w.copies.trackers[Topic.under stem]? = none)
    (served : ∀ e ∈ trace, e.ServedBy stem entries g) :
    trace.flatMap (·.call.counted) =
        [.list stem { user := c.caller.user, tracked := true }] ∧
      result = (entries.strip stem).choose names ∧ left.copies.Whole stem entries g := by
  have footing : w.footing (!c.caller.atStore) (.under stem) = .untracked := by
    rw [client]
    exact Workspace.footing_untracked untracked
  cases dialogue with
  | hit recalls =>
      rw [Workspace.recalls_untracked untracked] at recalls
      cases recalls
  | @asked _ looked rest _ _ nothing tells goesOn =>
      have served : ∀ e ∈ rest, Exchange.ServedBy stem entries g e := fun e member =>
        served e (List.mem_append_right looked member)
      cases goesOn with
      | unresolved finds =>
          cases finds with
          | failed unknown e shared =>
              obtain ⟨store, impossible⟩ := served _ List.mem_cons_self
              cases impossible
      | unable shared finds =>
          have able := served _ (List.mem_append_right _ List.mem_cons_self)
          cases able
      | @fetched lookup told got store tracked _ _ shared finds tells' flags gets knows =>
          have served : ∀ e ∈ got, Exchange.ServedBy stem entries g e := fun e member =>
            served e (List.mem_append_right _ (List.mem_cons_of_mem _
              (List.mem_append_right _ member)))
          have wanted : tracked = true := by
            refine flags.mpr ⟨by rw [client]; rfl, fun generation => ?_⟩
            rw [w.validate_glance, Workspace.glance_untracked untracked]
            exact fun impossible => nomatch impossible
          rw [footing, Workspace.examined_untracked untracked] at gets
          subst wanted
          cases gets with
          | read listing shared' tells'' leaves =>
              obtain ⟨same, read⟩ := served _ List.mem_cons_self rfl
              cases same
              have put := Workspace.LeftUnder.put
                (w := { copies := w.copies, shared := shared' }) leaves untracked read
              refine ⟨?_, rfl, put.tracker, ?_⟩
              · rw [List.flatMap_append, tells.calls, List.flatMap_append, finds.calls,
                  List.flatMap_cons, List.flatMap_append, tells'.calls, List.flatMap_cons, tells''.calls]
                rfl
              · have kept := put.copy
                obtain ⟨all, held, same⟩ := Option.map_eq_some_iff.mp kept
                cases same
                exact held
          | missing shared' =>
              have impossible := (served _ List.mem_cons_self rfl).1
              cases impossible
          | failed e shared' =>
              have impossible := (served _ List.mem_cons_self rfl).1
              cases impossible

end Cache

/-! ## What is picked -/

/-- The outcome of a read is what the listing has under the names that it is after. -/
def CacheAct.Picks (act : CacheAct) (stem : String) (entries : Entries) (outcome : Outcome) : Prop :=
  match act with
  | .listing _ names => ∃ result, outcome = .entries result ∧ ∀ name, result[name]? =
      if name ≠ emptyName ∧ (names = [] ∨ name ∈ names) then entries[stem ++ name]? else none
  | .named _ name => outcome = .value entries[stem ++ name]?.join
  | _ => False

/-- The empty name is not chosen unless it is asked for. -/
theorem Entries.getElem?_choose_emptyName (all : Entries) {names : List String}
    (avoids : emptyName ∉ names) : (all.choose names)[emptyName]? = none := by
  unfold choose
  cases names with
  | nil => simp
  | cons first rest =>
      rw [List.isEmpty_cons, if_neg Bool.false_ne_true, getElem?_pick, if_neg avoids]

/-- What stands under the empty name of a table does not matter to those who do not ask for it. -/
theorem CacheAct.yields_picks {c : Cache} {act : CacheAct} {stem : String}
    (reads : act.isReadOf c (.under stem) = true) (avoids : emptyName ∉ act.names)
    {all entries : Entries} (holds : ∀ name, name ≠ emptyName → all[name]? = entries[stem ++ name]?) :
    act.Picks stem entries (act.yields (all.choose act.names)) := by
  have chosen : ∀ name, (all.choose act.names)[name]? =
      if name ≠ emptyName ∧ (act.names = [] ∨ name ∈ act.names) then entries[stem ++ name]?
      else none := by
    intro name
    by_cases real : name = emptyName
    · rw [real, if_neg fun impossible => impossible.1 rfl]
      exact all.getElem?_choose_emptyName avoids
    · rw [all.getElem?_choose act.names real, holds name real]
      simp only [ne_eq, real, not_false_eq_true, true_and]
  cases act with
  | listing other names => exact ⟨_, rfl, chosen⟩
  | named other name =>
      have real : name ≠ emptyName := by
        rintro rfl
        exact avoids List.mem_cons_self
      have picked := chosen name
      rw [if_pos ⟨real, Or.inr List.mem_cons_self⟩] at picked
      change Outcome.value (Option.join _) = _
      rw [picked]
  | value | put | putAll | delete | reset | copy | isTracked | clear | forget | profile
  | readable | provider | unresolve | heard => cases reads

theorem Entries.getElem?_insert_emptyName (t : Entries) (v : Value) (name : String) :
    (t.insert emptyName v)[name]? = if name = emptyName then some v else t[name]? := by
  by_cases same : name = emptyName
  · rw [same, if_pos rfl, Std.ExtTreeMap.getElem?_insert_self]
  · have other : ¬ compare emptyName name = .eq := fun equal =>
      same (Std.LawfulEqOrd.eq_of_compare equal).symm
    rw [Std.ExtTreeMap.getElem?_insert, if_neg other, if_neg same]

theorem Entries.getElem?_furnished (entries : Entries) (stem : String) {name : String}
    (real : name ≠ emptyName) :
    ((entries.strip stem).insert emptyName none)[name]? = entries[stem ++ name]? := by
  rw [getElem?_insert_emptyName, if_neg real, getElem?_strip]

/-! ## Reads in a row -/

/-- Acts of a cache, one after the other. In between, others may make what is shared whatever is
`allowed`. Each act comes to an end, and `post` holds of it, of what it exchanges and of its outcome. -/
def Cache.InTurn (c : Cache) (allowed : Shared → Prop)
    (post : CacheAct → List Exchange → Outcome → Prop) : List CacheAct → Workspace → Prop
  | [], _ => True
  | act :: rest, w => ∀ shared, allowed shared →
      (act.operation c { w with shared }).Traces fun trace outcome left =>
        post act trace outcome ∧ c.InTurn allowed post rest left

namespace Cache

variable {c : Cache} {w : Workspace} {stem : String} {entries : Entries} {g : Grant}

/-- While the slot stays as it is, the whole listing is kept and answers all reads. -/
theorem reads_of_whole (client : c.caller.atStore = false) (acts : List CacheAct)
    (reads : ∀ act ∈ acts, act.isReadOf c (.under stem) = true)
    (avoid : ∀ act ∈ acts, emptyName ∉ act.names) (whole : w.copies.Whole stem entries g) :
    c.InTurn (fun shared => shared.slots.read g.handle.view g.index = .ok g.generation)
      (fun act trace outcome => Tells (some (.hit (.under stem))) trace ∧
        act.Picks stem entries outcome) acts w := by
  induction acts generalizing w with
  | nil => trivial
  | cons act rest ih =>
      intro shared read
      have reads' := reads act List.mem_cons_self
      have avoids := avoid act List.mem_cons_self
      have current : Workspace.Current { w with shared } (.under stem) (.ofGrant (.under stem) g) :=
        ⟨whole.tracker, read⟩
      refine (act.read_traces reads' _).mono ?_
      rintro trace _ left ⟨way, result, dialogue, rfl⟩
      obtain ⟨tells, rfl, unmoved⟩ := dialogue.of_copy client current whole.listing
      refine ⟨⟨tells, act.yields_picks reads' avoids fun name => entries.getElem?_furnished stem⟩, ?_⟩
      apply ih (fun act member => reads act (List.mem_cons_of_mem _ member))
        (fun act member => avoid act (List.mem_cons_of_mem _ member))
      rw [unmoved.copies]
      exact whole

/-- A stem without a tracker is read again and again, never for the empty name. The first read asks
for everything once. If a store is found and lists any entries at all with a grant that is current,
and as long as the slot then stays as it is, no later read asks again, and each has for its names
exactly what those entries have. -/
theorem subsets_of_one_listing (client : c.caller.atStore = false)
    (untracked : w.copies.trackers[Topic.under stem]? = none) (first : CacheAct)
    (later : List CacheAct) (reads : ∀ act ∈ first :: later, act.isReadOf c (.under stem) = true)
    (avoid : ∀ act ∈ first :: later, emptyName ∉ act.names) (entries : Entries) (g : Grant) :
    (first.operation c w).Traces fun trace outcome left =>
      (∀ e ∈ trace, e.ServedBy stem entries g) →
        trace.flatMap (·.call.counted) =
            [.list stem { user := c.caller.user, tracked := true }] ∧
          first.Picks stem entries outcome ∧
          c.InTurn (fun shared => shared.slots.read g.handle.view g.index = .ok g.generation)
            (fun act trace outcome => Tells (some (.hit (.under stem))) trace ∧
              act.Picks stem entries outcome) later left := by
  have readsFirst := reads first List.mem_cons_self
  refine (first.read_traces readsFirst w).mono ?_
  rintro trace _ left ⟨way, result, dialogue, rfl⟩ served
  obtain ⟨calls, rfl, whole⟩ := dialogue.of_served client untracked served
  refine ⟨calls, first.yields_picks readsFirst (avoid first List.mem_cons_self)
    fun name _ => entries.getElem?_strip stem name, ?_⟩
  exact reads_of_whole client later (fun act member => reads act (List.mem_cons_of_mem _ member))
    (fun act member => avoid act (List.mem_cons_of_mem _ member)) whole

/-- A listing with a nested key, a key without a value and a key from elsewhere. -/
def mixedEntries : Entries :=
  .ofList [("a/a/x", none), ("a/x", some "1"), ("b", some "2")]

/-- One name is asked for twice over, and then everything. There is one call, and the listing can
come with a grant that is current. -/
theorem subsets_of_one_listing_mixed :
    let c : Cache := { uri := "settings:main" }
    let shared : Shared := { slots := { boards := #[#[0]], issued := 1 } }
    ((CacheAct.listing "a/" ["x", "x"]).operation c { shared }).Traces (fun trace outcome left =>
      (∀ e ∈ trace, e.ServedBy "a/" mixedEntries Desk.lent) →
        trace.flatMap (·.call.counted) = [.list "a/" { user := 0, tracked := true }] ∧
        (CacheAct.listing "a/" ["x", "x"]).Picks "a/" mixedEntries outcome ∧
        c.InTurn (fun shared => shared.slots.read Desk.lent.handle.view 0 = .ok 0)
          (fun act trace outcome => Tells (some (.hit (.under "a/"))) trace ∧
            act.Picks "a/" mixedEntries outcome) [.listing "a/" []] left) ∧
    ∃ all : Entries, (CacheAct.listing "a/" []).Picks "a/" mixedEntries (.entries all) ∧
      all["x"]? = some (some "1") ∧ all["a/x"]? = some none ∧ all["b"]? = none := by
  intro c shared
  let w : Workspace := { shared }
  have untracked : w.copies.trackers[Topic.under "a/"]? = none := rfl
  have begun := subsets_of_one_listing (c := c) rfl untracked (.listing "a/" ["x", "x"])
    [.listing "a/" []] (by decide) (by decide) mixedEntries Desk.lent
  refine ⟨begun, ?_⟩
  have found := begun (Except.ok 0) shared
  have able := found true shared
  have told := able () shared
  have listed := told (Except.ok (some { entries := mixedEntries, grant := some Desk.lent })) shared
  obtain ⟨-, -, later⟩ := listed (by
    rintro e member
    simp only [List.mem_cons, List.not_mem_nil, or_false] at member
    rcases member with rfl | rfl | rfl | rfl
    · exact ⟨0, rfl⟩
    · exact rfl
    · trivial
    · exact fun _ => ⟨rfl, rfl⟩)
  obtain ⟨⟨-, all, shown, picks⟩, -⟩ := later shared rfl () shared
  refine ⟨all, ⟨all, rfl, picks⟩, ?_, ?_, ?_⟩
  · rw [picks]
    decide +kernel
  · rw [picks]
    decide +kernel
  · rw [picks]
    decide +kernel

end Cache

end TrackedSettings
