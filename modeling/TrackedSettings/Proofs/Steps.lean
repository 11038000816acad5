import TrackedSettings.Proofs.Neighbours

/-! # What a step leaves behind

A step of a script tells a cache or a store to act, and nothing else happens meanwhile. The store goes
on by the calls that it answers, the caches stay in order side by side, and what a cache keeps of a
topic is still there unless the step was about this topic and for this cache.
-/

namespace TrackedSettings

/-- The calls that a call out makes to stores that are there, if there are so many. -/
def Outcall.reached (size : Nat) : Outcall → List StoreCall
  | .store id call => if id < size then (Outcall.store id call).counted else []
  | .notify _ | .resolve .. => []

def Mark.reached (size : Nat) : Mark → Option StoreCall
  | .called id call => if id < size then some call else none
  | .observed .. | .resolving .. | .nested .. => none

namespace Deployment

variable {dep dep' dep'' : Deployment} {touched touched' : Nat → Topic → Prop}
  {calls more : List StoreCall} {i j : Nat} {topic : Topic}

theorem SameParties.size (same : dep.SameParties dep') : dep'.seats.size = dep.seats.size := by
  simpa only [Array.size_map] using congrArg Array.size same.caches

/-- What a deployment has come to when its store has answered `calls`, and no caches and topics were
touched but those that are named. -/
structure Passes (dep : Deployment) (touched : Nat → Topic → Prop) (calls : List StoreCall)
    (dep' : Deployment) : Prop where
  order : dep'.InOrder
  run : dep.sole.Run dep.shared (dep.sole.mutatedBy calls) dep'.sole dep'.shared
  settings : (dep.sole.replay calls).SameSettings dep'.sole
  parties : dep.SameParties dep'
  fixed : ∀ i store, dep.Fixed i store → dep'.Fixed i store
  untouched : ∀ i topic, ¬ touched i topic →
    (dep'.workspace i).copies.trackers[topic]? = (dep.workspace i).copies.trackers[topic]? ∧
      (dep'.workspace i).copies.find? topic = (dep.workspace i).copies.find? topic

theorem Passes.trans (first : dep.Passes touched calls dep')
    (second : dep'.Passes touched more dep'') : dep.Passes touched (calls ++ more) dep'' where
  order := second.order
  run := by
    rw [Authority.mutatedBy_append, ← first.settings.mutatedBy]
    exact first.run.trans second.run
  settings := by
    rw [Authority.replay, List.foldl_append]
    exact (first.settings.replay more).trans second.settings
  parties := first.parties.trans second.parties
  fixed i store known := second.fixed i store (first.fixed i store known)
  untouched i topic away := by
    obtain ⟨tracker, copy⟩ := first.untouched i topic away
    obtain ⟨tracker', copy'⟩ := second.untouched i topic away
    exact ⟨tracker'.trans tracker, copy'.trans copy⟩

theorem Passes.mono (passes : dep.Passes touched calls dep')
    (more : ∀ i topic, touched i topic → touched' i topic) : dep.Passes touched' calls dep' where
  order := passes.order
  run := passes.run
  settings := passes.settings
  parties := passes.parties
  fixed := passes.fixed
  untouched i topic away := passes.untouched i topic fun there => away (more i topic there)

/-- Nothing has happened but that the boards were worked on and caches were busy with `touched`. -/
theorem InOrder.passes_aside (after : dep'.InOrder) (sole : dep'.sole = dep.sole)
    (row : dep'.shared.slots.row dep.sole.registry.backing =
      dep.shared.slots.row dep.sole.registry.backing)
    (issued : dep'.shared.slots.issued = dep.shared.slots.issued) (parties : dep.SameParties dep')
    (fixed : ∀ i store, dep.Fixed i store → dep'.Fixed i store)
    (untouched : ∀ i topic, ¬ touched i topic →
      (dep'.workspace i).copies.trackers[topic]? = (dep.workspace i).copies.trackers[topic]? ∧
        (dep'.workspace i).copies.find? topic = (dep.workspace i).copies.find? topic) :
    dep.Passes touched [] dep' where
  order := after
  run := by
    have isOpen := after.working.isOpen
    rw [sole] at isOpen ⊢
    exact .aside .rest dep'.shared isOpen row (Nat.le_of_eq issued.symm)
  settings := by
    rw [sole]
    exact ⟨rfl, rfl⟩
  parties := parties
  fixed := fixed
  untouched := untouched

theorem InOrder.passes_refl (order : dep.InOrder) : dep.Passes touched [] dep :=
  order.passes_aside rfl rfl rfl ⟨rfl, rfl⟩ (fun _ _ known => known) fun _ _ _ => ⟨rfl, rfl⟩

/-- A cache has worked for itself for a while. -/
theorem InOrder.passes_putBack {r : Remit} {last : Option Answer} {w : Workspace}
    (order : dep.InOrder) (expects : dep.Expects j last) (inside : j < dep.seats.size)
    (conduct : (dep.workspace j).Conduct r last w) :
    dep.Passes (fun i topic => i = j ∧ r.touches topic) [] (dep.putBack j w) := by
  have closes := conduct.closes
  rw [shared_workspace] at closes
  refine (order.putBack expects inside conduct).passes_aside rfl (closes.row _) closes.issued
    (dep.putBack_sameParties j w) (fun _ _ => fixed_putBack.mpr) ?_
  intro i topic away
  by_cases same : i = j
  · subst same
    rw [workspace_putBack inside]
    exact conduct.elsewhere topic fun touches => away ⟨rfl, touches⟩
  · rw [copies_putBack_of_ne same]
    exact ⟨rfl, rfl⟩

/-- The store has answered a call. -/
theorem InOrder.passes_answering (order : dep.InOrder) (call : StoreCall) :
    dep.Passes touched [call] (dep.answering call) where
  order := order.answering call
  run := dep.sole.run_single dep.shared call
  settings := by
    have same : dep.sole.SameSettings dep.sole := ⟨rfl, rfl⟩
    exact same.answer call {} dep.shared
  parties := ⟨rfl, rfl⟩
  fixed _ _ known := known
  untouched i topic _ := by
    rw [workspace_answering]
    exact ⟨rfl, rfl⟩

/-- A cache has called out and been answered. -/
theorem InOrder.passes_reply (order : dep.InOrder) (j : Nat) (call : Outcall) :
    dep.Passes touched (call.reached dep.stores.size) (dep.reply j call).2 ∧
      (dep.reply j call).2.Expects j (some ⟨call, (dep.reply j call).1⟩) := by
  cases call with
  | notify event =>
      exact ⟨order.passes_refl, dep.expects_of_spent j rfl (by rintro _ _ _ ⟨⟩)⟩
  | resolve uri caller =>
      refine ⟨?_, .of_resolve dep j uri caller⟩
      have sole := sole_congr (dep.authorities_resolve j)
      refine (order.resolve j).passes_aside sole ?_ ?_ (dep.resolve_sameParties j)
        (fun _ _ => fixed_resolve.mpr) ?_
      · rw [shared_resolve]
      · rw [shared_resolve]
      · intro i topic _
        rw [workspace_resolve]
        exact ⟨rfl, rfl⟩
  | store id call =>
      simp only [reply]
      by_cases inside : id < dep.stores.size
      · rw [callStore_inside order.sole order.stores inside]
        refine ⟨?_, order.expects_answering j id call⟩
        rw [Outcall.reached, if_pos inside]
        cases call with
        | canList =>
            have same : dep.answering .canList = dep := by
              change { dep with authorities := #[dep.sole] } = dep
              rw [← order.sole]
            rw [same]
            exact order.passes_refl
        | get | query | list | put | putAll | delete | reset => exact order.passes_answering _
      · rw [callStore_outside inside, Outcall.reached, if_neg inside]
        have nothing := StoreCall.brings_unreached id call (.unavailable "no such store")
        have spent : Spent (some ⟨.store id call, call.unreached (.unavailable "no such store")⟩) := by
          rw [Spent, receiptsOf, Option.elim_some, Answer.receipts, nothing]
        exact ⟨order.passes_refl, dep.expects_of_spent j spent (by rintro _ _ _ ⟨⟩)⟩

end Deployment

/-! ## Operations -/

namespace Session

variable {s : Session} {j : Nat}

/-- The calls that marks are of and that reached a store, if there are so many. -/
def reached (s : Session) (size : Nat) : List StoreCall :=
  s.marks.toList.filterMap (Mark.reached size)

theorem answer_reached (size j : Nat) (call : Outcall) (s : Session) :
    ((host (fire 0) j).answer call s).2.reached size = s.reached size ++ call.reached size := by
  cases call with
  | notify event =>
      change (notify (fire 0) j event s).reached size = _
      unfold notify
      cases s.observers[j]? with
      | none => simp [reached, Outcall.reached]
      | some observer =>
          cases observer <;> simp [fire, reached, mark, Mark.reached, Outcall.reached]
  | resolve uri caller =>
      change (resolve j uri caller s).2.reached size = _
      unfold resolve
      cases s.deployment.seats[j]?.map (·.resolver) with
      | none => simp [reached, Outcall.reached]
      | some resolver =>
          cases resolver <;> simp [reached, mark, Mark.reached, Outcall.reached]
  | store id call =>
      change (callStore (fire 0) id call s).2.reached size = _
      by_cases inside : id < size <;> cases call <;>
        simp [callStore, markCall, StoreCall.moment?, fire, number, reached, mark, Mark.reached,
          Outcall.counted, Outcall.reached, inside]

/-- An operation that runs by itself leaves everything in order. -/
theorem run_passes {α : Type} {r : Remit} {ends : α → Prop} {last : Option Answer} {p : Progress α}
    (order : s.deployment.InOrder) (expects : s.deployment.Expects j last)
    (inside : j < s.deployment.seats.size)
    (conducts : p.Conducts r ends last (s.deployment.workspace j)) :
    ∃ calls, (p.run (host (fire 0) j) s).2.reached s.deployment.stores.size =
        s.reached s.deployment.stores.size ++ calls ∧
      s.deployment.Passes (fun i topic => i = j ∧ r.touches topic) calls
        (p.run (host (fire 0) j) s).2.deployment := by
  induction p generalizing s last with
  | finished a w =>
      exact ⟨[], (List.append_nil _).symm, order.passes_putBack expects inside conducts.1⟩
  | waiting call w resume ih =>
      let touched : Nat → Topic → Prop := fun i topic => i = j ∧ r.touches topic
      let asking := (host (fire 0) j).putBack w s
      have worked : s.deployment.Passes touched [] asking.deployment :=
        order.passes_putBack expects inside conducts.1
      obtain ⟨replied, expects'⟩ : asking.deployment.Passes touched
          (call.reached s.deployment.stores.size) (asking.deployment.reply j call).2 ∧ _ :=
        worked.order.passes_reply j call
      have marks := answer_reached s.deployment.stores.size j call asking
      obtain ⟨reply, tally⟩ := answer_tally j call asking
      have deployment := congrArg Tally.deployment tally
      have goesOn : (Progress.waiting call w resume).run (host (fire 0) j) s =
          (resume ((host (fire 0) j).answer call asking).1
            (((host (fire 0) j).answer call asking).2.deployment.workspace j)).run (host (fire 0) j)
              ((host (fire 0) j).answer call asking).2 := rfl
      rw [goesOn]
      generalize (host (fire 0) j).answer call asking = answer at marks reply deployment ⊢
      obtain ⟨given, s'⟩ := answer
      have given : given = (asking.deployment.reply j call).1 := reply
      have there : s'.deployment = (asking.deployment.reply j call).2 := deployment
      subst given
      rw [← there] at replied expects'
      have parties := worked.parties.trans replied.parties
      have inside' : j < s'.deployment.seats.size := by
        rw [parties.size]
        exact inside
      obtain ⟨calls, more, passes⟩ := ih _ _ replied.order expects' inside' (conducts.2 _ _)
      rw [parties.stores] at more
      refine ⟨call.reached s.deployment.stores.size ++ calls, ?_, ?_⟩
      · rw [more, marks, List.append_assoc]
        rfl
      · exact (worked.trans replied).trans passes

end Session

/-! ## Steps -/

/-- The step puts no steps aside, and closes no view behind the caches' backs. -/
def Instruction.Mild : Instruction → Prop
  | .hook .. | .onHandle _ .close | .onHandle _ .release => False
  | .onCache .. | .onStore .. | .handles | .onHandle .. => True

/-- The call that the outcome is the reply to. -/
def Outcome.call? : Outcome → Option StoreCall
  | .replied call .. => some call
  | _ => none

namespace Session

/-- The calls that stores answer in a step, be they from caches or not. -/
def answered (s : Session) (step : Instruction) : List StoreCall :=
  let r := s.report 0 [] step
  match step with
  | .onStore .. => r.outcome.call?.toList
  | .onCache .. | .handles | .onHandle .. | .hook .. =>
      r.marks.toList.filterMap (Mark.reached s.deployment.stores.size)

/-- The step is for the cache in seat `i`, and about the topic. -/
def Touches (s : Session) (step : Instruction) (i : Nat) (topic : Topic) : Prop :=
  ∃ act seat, step = .onCache i act ∧ s.deployment.seats[i]? = some seat ∧
    (act.remit seat.cache (s.fresh.deployment.workspace i)).touches topic

variable {s : Session} {step : Instruction} {touched : Nat → Topic → Prop}

theorem workspace_fresh (s : Session) (i : Nat) :
    s.fresh.deployment.workspace i =
      { s.deployment.workspace i with shared := s.fresh.deployment.shared } := by
  unfold Deployment.workspace fresh
  cases s.deployment.seats[i]? <;> rfl

theorem fresh_inOrder (order : s.deployment.InOrder) : s.fresh.deployment.InOrder :=
  order.congr rfl rfl rfl (fun i => by rw [workspace_fresh]) (fun i => by rw [workspace_fresh])
    fun _ _ known => known

theorem fresh_passes (order : s.deployment.InOrder) :
    s.deployment.Passes touched [] s.fresh.deployment := by
  refine (fresh_inOrder order).passes_aside rfl rfl rfl ⟨rfl, rfl⟩ (fun _ _ known => known) ?_
  intro i topic _
  rw [workspace_fresh]
  exact ⟨rfl, rfl⟩

theorem onAuthority_passes (order : s.deployment.InOrder) (act : AuthorityAct) :
    s.deployment.Passes touched (actOnAuthority 0 act s).1.call?.toList
      (actOnAuthority 0 act s).2.deployment := by
  have known : s.deployment.authorities[0]? = some s.deployment.sole := by
    rw [order.sole]
    rfl
  cases act with
  | value | generation | setup =>
      simp only [actOnAuthority, known]
      exact order.passes_refl
  | call call =>
      simp only [actOnAuthority, known, replied, Deployment.callAuthority_zero order.sole]
      exact order.passes_answering call

theorem onStore_passes (order : s.deployment.InOrder) (id : StoreId) (act : StoreAct) :
    s.deployment.Passes touched (actOnStore id act s).1.call?.toList
      (actOnStore id act s).2.deployment := by
  cases known : s.deployment.stores[id]? with
  | none =>
      simp only [actOnStore, known]
      cases act <;> exact order.passes_refl
  | some st =>
      have plain := order.stores id st known
      subst plain
      cases act with
      | flaky | replay =>
          simp only [actOnStore, known]
          exact order.passes_refl
      | behind act =>
          simp only [actOnStore, known]
          exact onAuthority_passes order act
      | call call =>
          have inside := (Array.getElem?_eq_some_iff.mp known).1
          simp only [actOnStore, known, replied,
            Deployment.callStore_inside order.sole order.stores inside]
          exact order.passes_answering call

/-- Whoever is told to act, all is in order afterwards, and the store has gone on by the calls that it
answered. -/
theorem step_passes (order : s.deployment.InOrder) (mild : step.Mild) :
    s.deployment.Passes (s.Touches step) (s.answered step) (s.play 0 [step]).deployment := by
  have freshened : s.deployment.Passes (s.Touches step) [] s.fresh.deployment := fresh_passes order
  have idle : s.fresh.reached s.deployment.stores.size = [] := rfl
  suffices performed : s.fresh.deployment.Passes (s.Touches step) (s.answered step)
      (s.fresh.perform (fire 0) step).2.deployment from freshened.trans performed
  have rests : s.fresh.deployment.Passes (s.Touches step) [] s.fresh.deployment :=
    freshened.order.passes_refl
  cases step with
  | hook moment steps => exact mild.elim
  | handles => exact rests
  | onStore id act => exact onStore_passes freshened.order id act
  | onHandle number act =>
      simp only [answered, report, perform]
      cases s.fresh.granted[number]? with
      | none => exact rests
      | some g =>
          cases act with
          | close | release => exact mild.elim
          | read | isClosed | isOwned => exact rests
  | onCache j act =>
      cases seated : s.deployment.seats[j]? with
      | none =>
          have here : s.fresh.deployment.seats[j]? = none := seated
          simp only [answered, report, perform, here]
          exact rests
      | some seat =>
          by_cases own : act = .heard
          · subst own
            have here : s.fresh.deployment.seats[j]? = some seat := seated
            simp only [answered, report, perform, here, actOnCache]
            cases s.fresh.observers[j]? with
            | none => exact rests
            | some observer => cases observer <;> exact rests
          · have inside := (Array.getElem?_eq_some_iff.mp seated).1
            have performed := s.fresh.perform_eq_run j act seated own
            obtain ⟨calls, marks, passes⟩ := run_passes freshened.order
              (s.fresh.deployment.expects_nothing j) inside
              (act.operation_conducts seat.cache (s.fresh.deployment.workspace j))
            have answered : s.answered (.onCache j act) = calls := by
              simp only [Session.answered, report, performed]
              exact marks
            rw [answered, performed]
            apply passes.mono
            rintro i topic ⟨rfl, touches⟩
            exact ⟨act, seat, rfl, seated, touches⟩

end Session

end TrackedSettings
