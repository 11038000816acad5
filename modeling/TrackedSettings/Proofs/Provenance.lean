import TrackedSettings.Proofs.Outcalls

/-! # Where what a cache keeps comes from

Every tracker in place and every copy that a cache keeps was brought by an answer to a call of its
own, and it made that call on behalf of its own user, not next to the store, and for no key that the
caller may not read. So a read of a key that may not be read finds nothing, although it looks for a
copy before it asks whether it may: it is refused, and nothing else happens.
-/

namespace TrackedSettings

/-! ## What may be kept -/

/-- What the answer to this call brings of the topic may be kept. -/
structure Cache.Keepable (c : Cache) (topic : Topic) (call : Outcall) : Prop where
  ownUser : ∃ request, call.request? = some (topic, request) ∧ request.user = c.caller.user
  client : c.caller.atStore = false
  readable : ∀ key, topic = .key key → c.access.readable key c.caller = true

/-- Each tracker is that of a grant, and each copy is one, that came with an answer that was heard,
and what that answer brought may be kept. -/
structure Cache.Sourced (c : Cache) (heard : List Answer) (copies : Copies) : Prop where
  trackers : ∀ topic t, copies.trackers[topic]? = some t → ∃ a ∈ heard, ∃ copy g,
    a.brings = some (copy, some g) ∧ copy.topic = topic ∧ t = .ofGrant topic g ∧
      c.Keepable topic a.call
  copies : ∀ copy, copies.find? copy.topic = some copy → ∃ a ∈ heard, ∃ grant,
    a.brings = some (copy, grant) ∧ c.Keepable copy.topic a.call

variable {c : Cache}

/-- A read touches its own topic, and only if it may keep what the store brings. -/
theorem CacheAct.touches_iff {act : CacheAct} {p : Purpose} (purpose : act.purpose? c = some p)
    (w : Workspace) (topic : Topic) :
    (act.remit c w).touches topic ↔ topic = p.topic ∧ p.keeps = true := by
  cases act with
  | value =>
      cases purpose
      exact Iff.rfl
  | listing | named =>
      cases purpose
      simp only [remit, Bool.not_eq_true']
  | put | putAll | delete | reset | copy | isTracked | clear | forget | profile | readable
  | provider | unresolve | heard => cases purpose

/-- What a read may keep is for the cache's own user, and not next to the store. -/
theorem CacheAct.own_of_keeps {act : CacheAct} {p : Purpose} (purpose : act.purpose? c = some p)
    (keeps : p.keeps = true) : p.user = c.caller.user ∧ c.caller.atStore = false := by
  cases act with
  | value =>
      cases purpose
      simpa [Cache.keepsFor] using keeps
  | listing | named =>
      cases purpose
      exact ⟨rfl, by simpa using keeps⟩
  | put | putAll | delete | reset | copy | isTracked | clear | forget | profile | readable
  | provider | unresolve | heard => cases purpose

theorem Cache.MayCall.keepable {act : CacheAct} {w : Workspace} {a : Answer} {copy : Copy}
    {grant : Option Grant} (may : c.MayCall (act.purpose? c) a.call)
    (brings : a.brings = some (copy, grant)) (touches : (act.remit c w).touches copy.topic) :
    c.Keepable copy.topic a.call := by
  obtain ⟨request, asks⟩ := Answer.request_of_brings brings
  obtain ⟨p, purpose, -, user, -, readable⟩ := may.asks _ _ asks
  have keeps := ((CacheAct.touches_iff purpose w _).mp touches).2
  obtain ⟨own, client⟩ := CacheAct.own_of_keeps purpose keeps
  exact ⟨⟨request, asks, user.trans own⟩, client, readable⟩

namespace Cache.Sourced

variable {heard : List Answer} {w w' : Workspace}

theorem nothing : c.Sourced [] {} where
  trackers topic t found := by simp at found
  copies copy found := by
    cases copy with
    | value => simp [Copies.find?, Copy.topic] at found
    | listing => simp [Copies.find?, Copy.topic] at found

/-- A stretch of an act keeps nothing but what the answer brings that it goes on with. -/
theorem stretch (sourced : c.Sourced heard w.copies) {act : CacheAct} {found : Workspace}
    {last : Option Answer} (conduct : w.Conduct (act.remit c found) last w')
    (may : ∀ a, last = some a → c.MayCall (act.purpose? c) a.call) :
    c.Sourced (heard ++ last.toList) w'.copies where
  trackers topic t inPlace := by
    by_cases touches : (act.remit c found).touches topic
    · rcases conduct.installed topic t inPlace with before | ⟨g, come, rfl⟩
      · obtain ⟨a, member, brought⟩ := sourced.trackers topic t before
        exact ⟨a, List.mem_append_left _ member, brought⟩
      · cases last with
        | none => cases come
        | some a =>
            obtain ⟨copy, brings, rfl⟩ := Answer.mem_receipts_iff.mp come
            exact ⟨a, List.mem_append_right _ (List.mem_singleton_self a), copy, g, brings, rfl,
              rfl, (may a rfl).keepable brings touches⟩
    · rw [(conduct.elsewhere topic touches).1] at inPlace
      obtain ⟨a, member, brought⟩ := sourced.trackers topic t inPlace
      exact ⟨a, List.mem_append_left _ member, brought⟩
  copies copy kept := by
    by_cases touches : (act.remit c found).touches copy.topic
    · rcases conduct.kept copy kept with before | ⟨a, grant, rfl, brings, -⟩
      · obtain ⟨a, member, brought⟩ := sourced.copies copy before
        exact ⟨a, List.mem_append_left _ member, brought⟩
      · exact ⟨a, List.mem_append_right _ (List.mem_singleton_self a), grant, brings,
          (may a rfl).keepable brings touches⟩
    · rw [(conduct.elsewhere copy.topic touches).2] at kept
      obtain ⟨a, member, brought⟩ := sourced.copies copy kept
      exact ⟨a, List.mem_append_left _ member, brought⟩

end Cache.Sourced

/-! ## At a desk -/

namespace Desk

variable {d : Desk} {heard : List Answer}

/-- What can become of a new cache, and all answers that it has heard by then. -/
inductive Heard (c : Cache) : Desk → List Answer → Prop where
  | opened (shared : Shared) : Heard c { workspace := { shared } } []
  | act {d : Desk} {heard : List Answer} (before : Heard c d heard) (act : CacheAct) :
      Heard c (d.begun c act) heard
  | reply {d : Desk} {heard : List Answer} (before : Heard c d heard) {n : Nat} {s : Suspension}
      (waits : d.suspended[n]? = some s) (reply : s.call.Reply) :
      Heard c (d.replied n s reply) (heard ++ [⟨s.call, reply⟩])
  | others {d : Desk} {heard : List Answer} (before : Heard c d heard) (shared : Shared) :
      Heard c { d with workspace := { d.workspace with shared } } heard

theorem Heard.reachable (history : Heard c d heard) : Reachable c d := by
  induction history with
  | opened shared => exact .opened shared
  | act _ act ih => exact ih.step (.act _ act)
  | reply _ waits reply ih => exact ih.step (.reply _ waits reply)
  | others _ shared ih => exact ih.step (.others _ shared)

theorem Reachable.history (reachable : Reachable c d) : ∃ heard, Heard c d heard := by
  induction reachable with
  | opened shared => exact ⟨[], .opened shared⟩
  | step _ step ih =>
      obtain ⟨heard, history⟩ := ih
      cases step with
      | act act => exact ⟨heard, history.act act⟩
      | reply waits reply => exact ⟨_, history.reply waits reply⟩
      | others shared => exact ⟨heard, history.others shared⟩

/-- Whatever has happened at a desk, what is kept there came with an answer that may be kept. -/
theorem Heard.sourced (history : Heard c d heard) : c.Sourced heard d.workspace.copies := by
  induction history with
  | opened shared => exact .nothing
  | @act d heard before act ih =>
      have conduct : d.workspace.Conduct (act.remit c d.workspace) none (d.begun c act).workspace :=
        (begun_conducts before.reachable.orderly act).2.1
      have sourced := ih.stretch conduct fun _ impossible => nomatch impossible
      rwa [Option.toList_none, List.append_nil] at sourced
  | @reply d heard before n s waits reply ih =>
      obtain ⟨act, start, -, underway⟩ :=
        before.reachable.underway s (List.mem_of_getElem? waits)
      have conduct : d.workspace.Conduct (act.remit c start.workspace) (some ⟨s.call, reply⟩)
          (d.replied n s reply).workspace := goOn_conduct (underway.conducts reply d.workspace)
      refine ih.stretch conduct ?_
      rintro _ ⟨⟩
      exact underway.announces.1
  | others before shared ih => exact ih

/-- A key that may not be read is neither kept nor tracked. -/
theorem Reachable.gone_of_denied (reachable : Reachable c d) {key : String}
    (denied : c.access.readable key c.caller = false) : d.workspace.Gone (.key key) := by
  obtain ⟨heard, history⟩ := reachable.history
  have sourced := history.sourced
  have refused : ∀ call, ¬ c.Keepable (.key key) call := by
    intro call keepable
    rw [keepable.readable key rfl] at denied
    cases denied
  constructor
  · cases found : d.workspace.copies.trackers[Topic.key key]? with
    | none => rfl
    | some t =>
        obtain ⟨a, -, -, -, -, -, -, keepable⟩ := sourced.trackers _ t found
        exact absurd keepable (refused a.call)
  · cases found : d.workspace.copies.find? (.key key) with
    | none => rfl
    | some copy =>
        have own := Copies.topic_of_find? found
        rw [← own] at found refused
        obtain ⟨a, -, -, -, keepable⟩ := sourced.copies copy found
        exact absurd keepable (refused a.call)

/-- A read of a key that may not be read finds no copy and no tracker, and it is refused at once:
nobody is called, and nothing but a note is left behind. -/
theorem denied_without_effect (reachable : Reachable c d) {key : String}
    (denied : c.access.readable key c.caller = false) :
    d.workspace.copies.values[key]? = none ∧
      d.workspace.copies.trackers[Topic.key key]? = none ∧
      ∀ user, c.value key user d.workspace =
        .finished (.error (.denied key)) (c.jot .debug s!"GET({key})" d.workspace) := by
  obtain ⟨untracked, uncopied⟩ := reachable.gone_of_denied denied
  refine ⟨Option.map_eq_none_iff.mp uncopied, untracked, fun user => ?_⟩
  let noted := c.jot .debug s!"GET({key})" d.workspace
  have absent : noted.validate (.key key) = (.absent, noted) := by
    unfold Workspace.validate
    rw [show noted.copies.trackers[Topic.key key]? = none from untracked]
  -- the look comes before the access check, but without a tracker it neither finds nor evicts
  have stands : ∃ footing, c.standing (c.keepsFor user) (.key key) (·.values[key]?) noted =
      .finished (.pending footing) noted := by
    unfold Cache.standing
    cases c.keepsFor user with
    | false => exact ⟨.outside, rfl⟩
    | true =>
        refine ⟨.untracked, ?_⟩
        simp only [↓reduceIte, Operation.bind_apply, Operation.locked_apply, Workspace.consult,
          absent]
        rfl
  obtain ⟨footing, same⟩ := stands
  change Progress.andThen _ (c.standing (c.keepsFor user) (.key key) (·.values[key]?) noted) = _
  rw [same]
  simp only [denied]
  rfl

/-- Everything under a stem is kept, and a key there may not be read by itself. -/
theorem denied_without_effect_beside_listing :
    let key := "secret"
    let c : Cache := { uri := "settings:main", access := .restricting [key] }
    ∃ d, Reachable c d ∧ (d.workspace.copies.listings["sec"]?).isSome = true ∧
      c.access.readable key c.caller = false ∧
      d.workspace.copies.values[key]? = none ∧
      d.workspace.copies.trackers[Topic.key key]? = none ∧
      ∀ user, c.value key user d.workspace =
        .finished (.error (.denied key)) (c.jot .debug s!"GET({key})" d.workspace) := by
  intro key c
  let listing : Listing := { entries := .ofList [(key, some "7")], grant := some lent }
  have opened : Reachable c _ := .opened { slots := { boards := #[#[0]], issued := 1 } }
  have begun := opened.step (.act _ (.listing "sec" []))
  have found := begun.step (.reply _ (n := 0) rfl (Except.ok 0))
  have lists := found.step (.reply _ (n := 0) rfl true)
  have told := lists.step (.reply _ (n := 0) rfl ())
  have read := told.step (.reply _ (n := 0) rfl (Except.ok (some listing)))
  have denied : c.access.readable key c.caller = false := by decide +kernel
  exact ⟨_, read, by decide +kernel, denied, denied_without_effect read denied⟩

end Desk

end TrackedSettings
