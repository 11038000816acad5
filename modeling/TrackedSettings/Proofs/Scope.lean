import TrackedSettings.Proofs.Provenance
import TrackedSettings.Proofs.Undisturbed

/-! # What an operation is about

A read changes nothing but what is kept of its own topic, and a write changes nothing of what is
kept. A read for which nothing may be kept, since it is for another user or next to the store, takes
no notice of what is kept: it wants no grant and gives back the one that it gets, it shows what the
store has just brought, and it leaves everything as it was. So whatever a cache keeps was read for
its own user, and a cache next to the store keeps nothing.
-/

namespace TrackedSettings

open Operation

/-! ## What is left alone -/

theorem Copies.ext_lookup {c c' : Copies}
    (trackers : ∀ topic : Topic, c'.trackers[topic]? = c.trackers[topic]?)
    (copies : ∀ topic, c'.find? topic = c.find? topic) : c' = c := by
  have values : c'.values = c.values := by
    apply Std.ExtTreeMap.ext_getElem?
    intro key
    exact Option.map_injective (fun _ _ same => by cases same; rfl) (copies (.key key))
  have listings : c'.listings = c.listings := by
    apply Std.ExtTreeMap.ext_getElem?
    intro stem
    exact Option.map_injective (fun _ _ same => by cases same; rfl) (copies (.under stem))
  have trackers : c'.trackers = c.trackers := Std.ExtTreeMap.ext_getElem? trackers
  cases c
  cases c'
  subst values listings trackers
  rfl

/-- What is kept of any topic but these is what was kept of it before. -/
def Workspace.SameBeyond (w : Workspace) (touched : Topic → Prop) (w' : Workspace) : Prop :=
  ∀ topic, ¬ touched topic → w'.copies.trackers[topic]? = w.copies.trackers[topic]? ∧
    w'.copies.find? topic = w.copies.find? topic

theorem Workspace.SameBeyond.copies {w w' : Workspace} {touched : Topic → Prop}
    (same : w.SameBeyond touched w') (nothing : ∀ topic, ¬ touched topic) : w'.copies = w.copies :=
  Copies.ext_lookup (fun topic => (same topic (nothing topic)).1)
    fun topic => (same topic (nothing topic)).2

/-- An operation that nobody disturbs leaves alone what it is not concerned with. -/
theorem Progress.Conducts.concludes {α : Type} {p : Progress α} {r : Remit} {ends : α → Prop}
    {last : Option Answer} {w : Workspace} (conducts : p.Conducts r ends last w) :
    p.Concludes fun _ _ w' => w.SameBeyond r.touches w' := by
  induction p generalizing last w with
  | finished a w' => exact fun topic away => conducts.1.elsewhere topic away
  | waiting call w' resume ih =>
      intro reply shared
      refine (ih reply _ (conducts.2 reply { w' with shared })).mono ?_
      intro _ _ w'' rest topic away
      obtain ⟨tracker, copy⟩ := conducts.1.elsewhere topic away
      obtain ⟨tracker', copy'⟩ := rest topic away
      exact ⟨tracker'.trans tracker, copy'.trans copy⟩

/-! ## What is called -/

theorem Progress.Announces.concludes {α : Type} {p : Progress α} {b : Brief} {ends : α → Prop}
    {found : Option (Topic × SlotError)} (announces : p.Announces b ends found) :
    p.Concludes fun heard _ _ => ∀ a ∈ heard, b.cache.MayCall b.purpose a.call := by
  induction p generalizing found with
  | finished a w => exact fun _ impossible => nomatch impossible
  | waiting call w resume ih =>
      intro reply shared
      refine (ih reply _ (announces.2.2 reply { w with shared })).mono ?_
      intro heard _ _ rest a member
      rcases List.mem_cons.mp member with rfl | later
      · exact announces.1
      · exact rest a later

namespace CacheAct

variable {c : Cache} {w : Workspace}

/-- Every call of an act is one that it may make. -/
theorem operation_mayCall (c : Cache) (act : CacheAct) (w : Workspace) :
    (act.operation c w).Concludes fun heard _ _ =>
      ∀ a ∈ heard, c.MayCall (act.purpose? c) a.call := by
  rcases act.operation_announces c w with ⟨p, t, copy, purpose, -, -, w', -, -, same⟩ | announces
  · rw [same]
    intro reply shared a member
    rw [List.mem_singleton.mp member]
    refine ⟨?_, fun _ _ impossible => nomatch impossible⟩
    rintro _ ⟨⟩
    exact ⟨p, purpose, rfl⟩
  · exact announces.concludes

/-- What an act does to copies when nobody disturbs it. -/
theorem operation_elsewhere (c : Cache) (act : CacheAct) (w : Workspace) :
    (act.operation c w).Concludes fun _ _ w' => w.SameBeyond (act.remit c w).touches w' :=
  (act.operation_conducts c w).concludes

/-- The act is for a store to change what it has. -/
def writes : CacheAct → Bool
  | put .. | putAll .. | delete .. | reset .. => true
  | value .. | listing .. | named .. | copy _ | isTracked _ | clear | forget _ | profile
  | readable _ | provider _ | unresolve | heard => false

theorem not_touches_of_writes {act : CacheAct} (writes : act.writes = true) (topic : Topic) :
    ¬ (act.remit c w).touches topic := by
  cases act with
  | put | putAll | delete | reset => exact id
  | value | listing | named | copy | isTracked | clear | forget | profile | readable | provider
  | unresolve | heard => cases writes

/-- The act shows what these answers have brought. If they have brought nothing for want of a store,
it shows nothing, and it may be refused before anybody is asked. -/
def AnsweredBy (c : Cache) (heard : List Answer) : CacheAct → Outcome → Prop
  | value key _, outcome =>
      (∃ a ∈ heard, ∃ v, a.ShowsValue key v ∧ outcome = .read (.ok v)) ∨
        (Failed heard ∧ outcome = .read (.ok none)) ∨
        (c.access.readable key c.caller = false ∧ outcome = .read (.error (.denied key)))
  | listing stem names, outcome =>
      (∃ a ∈ heard, ∃ entries, a.ShowsListing stem names entries ∧ outcome = .entries entries) ∨
        (Failed heard ∧ outcome = .entries ∅)
  | named stem name, outcome =>
      (∃ a ∈ heard, ∃ entries, a.ShowsListing stem [name] entries ∧
        outcome = .value (entries.value name)) ∨ (Failed heard ∧ outcome = .value none)
  | _, _ => False

/-- How a read ends that takes no notice of what is kept. -/
structure PassesBy (c : Cache) (act : CacheAct) (w : Workspace) (heard : List Answer)
    (outcome : Outcome) (w' : Workspace) : Prop where
  copies : w'.copies = w.copies
  untracked : ∀ a ∈ heard, ∀ topic request, a.call.request? = some (topic, request) →
    request.tracked = false
  answered : act.AnsweredBy c heard outcome
  /-- The last thing that happens is that the handle of a grant is given back. -/
  released : ∀ a ∈ heard, ∀ copy g, a.brings = some (copy, some g) → ∃ shared,
    w'.shared = g.handle.release shared
  /-- If the view in the handle was the reader's own then it is closed by now. -/
  closed : ∀ a ∈ heard, ∀ copy g v, a.brings = some (copy, some g) → g.handle = .owned v →
    w'.shared.slots.isClosed v = true

end CacheAct

section Sought

variable {α : Type} {shows : Answer → α → Prop} {nothing result : α} {found : Copies}
  {heard : List Answer} {w' : Workspace}

theorem Sought.answered {footing : Footing}
    (sought : Sought footing shows nothing found heard result w') :
    (∃ a ∈ heard, shows a result) ∨ Failed heard ∧ result = nothing := by
  cases sought with
  | missed failed _ missing => exact Or.inr ⟨failed, missing⟩
  | brought _ member _ _ shown => exact Or.inl ⟨_, member, shown⟩

theorem Sought.released (sought : Sought .outside shows nothing found heard result w') {a : Answer}
    (member : a ∈ heard) {copy : Copy} {g : Grant} (brings : a.brings = some (copy, some g)) :
    ∃ shared, w'.shared = g.handle.release shared := by
  cases sought with
  | missed _ silent =>
      rw [silent a member] at brings
      cases brings
  | brought _ _ brings' only _ _ released =>
      have same := only a member (by rw [brings]; exact Option.some_ne_none _)
      subst same
      rw [brings] at brings'
      cases brings'
      exact released rfl g rfl

end Sought

theorem Uneventful.released {heard : List Answer} {w' : Workspace} (uneventful : Uneventful heard)
    {a : Answer} (member : a ∈ heard) {copy : Copy} {g : Grant}
    (brings : a.brings = some (copy, some g)) : ∃ shared, w'.shared = g.handle.release shared := by
  rw [(uneventful a member).1] at brings
  cases brings

namespace CacheAct

variable {c : Cache} {w : Workspace}

theorem value_answeredBy {key : String} {user : UserId} (outside : c.keepsFor user = false) :
    ((value key user).operation c w).Concludes fun heard outcome w' =>
      (value key user).AnsweredBy c heard outcome ∧
        ∀ a ∈ heard, ∀ copy g, a.brings = some (copy, some g) → ∃ shared,
          w'.shared = g.handle.release shared := by
  refine map_concludes ((Cache.value_concludes key user).mono fun heard result w' ends => ?_)
  rw [outside] at ends
  rcases ends with ⟨uneventful, -, impossible | ⟨unreadable, rfl⟩⟩ | sought
  · cases impossible
  · exact ⟨Or.inr (Or.inr ⟨unreadable, rfl⟩), fun a member _ _ => uneventful.released member⟩
  · refine ⟨?_, fun a member _ _ => sought.released member⟩
    rcases sought.answered with ⟨a, member, v, shows, rfl⟩ | ⟨failed, rfl⟩
    · exact Or.inl ⟨a, member, v, shows, rfl⟩
    · exact Or.inr (Or.inl ⟨failed, rfl⟩)

theorem listing_answeredBy {stem : String} {names : List String}
    (outside : c.caller.atStore = true) :
    (c.listing stem names w).Concludes fun heard result w' =>
      ((∃ a ∈ heard, a.ShowsListing stem names result) ∨ Failed heard ∧ result = ∅) ∧
        ∀ a ∈ heard, ∀ copy g, a.brings = some (copy, some g) → ∃ shared,
          w'.shared = g.handle.release shared := by
  refine (Cache.listing_concludes stem names).mono fun heard result w' ends => ?_
  rw [outside] at ends
  rcases ends with ⟨-, -, impossible⟩ | sought
  · cases impossible
  · exact ⟨sought.answered, fun a member _ _ => sought.released member⟩

/-- A read for which nothing may be kept takes no notice of what is kept. -/
theorem operation_passesBy {act : CacheAct} {p : Purpose} (purpose : act.purpose? c = some p)
    (outside : p.keeps = false) :
    (act.operation c w).Concludes fun heard outcome w' => act.PassesBy c w heard outcome w' := by
  have untouched : ∀ topic, ¬ (act.remit c w).touches topic := by
    intro topic touches
    rw [((touches_iff purpose w topic).mp touches).2] at outside
    cases outside
  have untracked : ∀ a : Answer, c.MayCall (act.purpose? c) a.call → ∀ topic request,
      a.call.request? = some (topic, request) → request.tracked = false := by
    intro a may topic request asks
    obtain ⟨p', purpose', -, -, wants, -⟩ := may.asks topic request asks
    rw [purpose] at purpose'
    cases purpose'
    cases tracked : request.tracked with
    | false => rfl
    | true =>
        rw [wants tracked] at outside
        cases outside
  have answered : (act.operation c w).Concludes fun heard outcome w' =>
      act.AnsweredBy c heard outcome ∧
        ∀ a ∈ heard, ∀ copy g, a.brings = some (copy, some g) → ∃ shared,
          w'.shared = g.handle.release shared := by
    cases act with
    | value key user =>
        cases purpose
        exact value_answeredBy outside
    | listing stem names =>
        cases purpose
        refine map_concludes ((listing_answeredBy (by simpa using outside)).mono ?_)
        intro heard entries w' ends
        refine ends.imp_left fun answered => ?_
        rcases answered with ⟨a, member, shows⟩ | ⟨failed, rfl⟩
        · exact Or.inl ⟨a, member, entries, shows, rfl⟩
        · exact Or.inr ⟨failed, rfl⟩
    | named stem name =>
        cases purpose
        have listed : (c.listing stem [name] w).Concludes _ :=
          listing_answeredBy (by simpa using outside)
        have picked : (c.named stem name w).Concludes fun heard v w' =>
            (named stem name).AnsweredBy c heard (.value v) ∧
              ∀ a ∈ heard, ∀ copy g, a.brings = some (copy, some g) → ∃ shared,
                w'.shared = g.handle.release shared := by
          refine Progress.Concludes.andThen_pure (listed.mono fun heard entries w' ends => ?_)
          refine ends.imp_left fun answered => ?_
          rcases answered with ⟨a, member, shows⟩ | ⟨failed, rfl⟩
          · exact Or.inl ⟨a, member, entries, shows, rfl⟩
          · exact Or.inr ⟨failed, by simp [Entries.value]⟩
        exact map_concludes picked
    | put | putAll | delete | reset | copy | isTracked | clear | forget | profile | readable
    | provider | unresolve | heard => cases purpose
  refine (((operation_elsewhere c act w).and (operation_mayCall c act w)).and answered).mono ?_
  rintro heard outcome w' ⟨⟨same, may⟩, answered, released⟩
  refine ⟨same.copies untouched, fun a member => untracked a (may a member), answered, released, ?_⟩
  intro a member copy g v brings owned
  obtain ⟨shared, left⟩ := released a member copy g brings
  rw [left]
  exact Handle.isClosed_release owned shared

end CacheAct

/-! ## At a desk -/

namespace Desk

variable {c : Cache} {d : Desk} {heard : List Answer}

/-- What a cache that has heard these answers has to do with. The operations of which the first
three speak are not disturbed. -/
structure Confined (c : Cache) (d : Desk) (heard : List Answer) : Prop where
  /-- A read changes nothing but what is kept of its own topic. -/
  reads : ∀ (act : CacheAct) p, act.purpose? c = some p →
    (act.operation c d.workspace).Concludes fun _ _ w' => d.workspace.SameBeyond (· = p.topic) w'
  /-- A write changes nothing that is kept, whatever its outcome. -/
  writes : ∀ act : CacheAct, act.writes = true →
    (act.operation c d.workspace).Concludes fun _ _ w' => w'.copies = d.workspace.copies
  /-- A read for which nothing may be kept takes no notice of what is kept. -/
  outside : ∀ (act : CacheAct) p, act.purpose? c = some p → p.keeps = false →
    (act.operation c d.workspace).Concludes (act.PassesBy c d.workspace)
  copies_own : ∀ copy, d.workspace.copies.find? copy.topic = some copy → ∃ a ∈ heard,
    ∃ grant request, a.brings = some (copy, grant) ∧
      a.call.request? = some (copy.topic, request) ∧ request.user = c.caller.user
  trackers_own : ∀ topic t, d.workspace.copies.trackers[topic]? = some t → ∃ a ∈ heard,
    ∃ copy g request, a.brings = some (copy, some g) ∧ t = .ofGrant topic g ∧
      a.call.request? = some (topic, request) ∧ request.user = c.caller.user
  atStore_nothing : c.caller.atStore = true → d.workspace.copies = {}

/-- Each operation touches only what it is about, and nothing is kept but what was read for the
cache's own user. -/
theorem operations_confined (history : Heard c d heard) : d.Confined c heard := by
  have sourced := history.sourced
  refine
    { reads := ?_
      writes := ?_
      outside := fun act p purpose outside => CacheAct.operation_passesBy purpose outside
      copies_own := ?_
      trackers_own := ?_
      atStore_nothing := ?_ }
  · intro act p purpose
    refine (act.operation_elsewhere c d.workspace).mono fun _ _ w' same topic other => ?_
    exact same topic fun touches => other ((CacheAct.touches_iff purpose _ topic).mp touches).1
  · intro act writes
    exact (act.operation_elsewhere c d.workspace).mono fun _ _ _ same =>
      same.copies (CacheAct.not_touches_of_writes writes)
  · intro copy kept
    obtain ⟨a, member, grant, brings, keepable⟩ := sourced.copies copy kept
    obtain ⟨request, asks, own⟩ := keepable.ownUser
    exact ⟨a, member, grant, request, brings, asks, own⟩
  · intro topic t found
    obtain ⟨a, member, copy, g, brings, -, same, keepable⟩ := sourced.trackers topic t found
    obtain ⟨request, asks, own⟩ := keepable.ownUser
    exact ⟨a, member, copy, g, request, brings, same, asks, own⟩
  · intro atStore
    have refused : ∀ topic call, ¬ c.Keepable topic call := by
      intro topic call keepable
      rw [keepable.client] at atStore
      cases atStore
    apply Copies.ext_lookup
    · intro topic
      cases found : d.workspace.copies.trackers[topic]? with
      | none => simp
      | some t =>
          obtain ⟨a, -, -, -, -, -, -, keepable⟩ := sourced.trackers topic t found
          exact absurd keepable (refused topic a.call)
    · intro topic
      cases found : d.workspace.copies.find? topic with
      | none => cases topic <;> simp [Copies.find?]
      | some copy =>
          rw [← Copies.topic_of_find? found] at found
          obtain ⟨a, -, -, -, keepable⟩ := sourced.copies copy found
          exact absurd keepable (refused _ a.call)

/-- A key has been read, for the user that the cache serves. -/
theorem operations_confined_after_read :
    let c : Cache := { uri := "settings:main" }
    ∃ d heard, Heard c d heard ∧ d.workspace.copies.values["volume"]? = some (some "7") ∧
      heard.length = 3 ∧ d.Confined c heard := by
  intro c
  have opened : Heard c _ [] := .opened { slots := { boards := #[#[0]], issued := 1 } }
  have begun := opened.act (.value "volume" 0)
  have found := begun.reply (n := 0) rfl (Except.ok 0)
  have told := found.reply (n := 0) rfl ()
  have read := told.reply (n := 0) rfl
    (Except.ok (some { value := some "7", grant := some lent }))
  exact ⟨_, _, read, by decide +kernel, rfl, operations_confined read⟩

end Desk

end TrackedSettings
