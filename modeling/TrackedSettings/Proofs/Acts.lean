import TrackedSettings.Proofs.Reads
import TrackedSettings.Proofs.Seats
import TrackedSettings.Session.Run

/-! # What a cache does when it is told to

Every act on a cache is an operation, and all of them leave the world in order at every step.
-/

namespace TrackedSettings

open Operation

variable {σ : Type} {r : Terms σ} {p : Terms.Assertion σ} {c : Cache}

theorem Cache.submit_meets {α : Type} (stable : r.Stable p) (call : StoreCall)
    (result : call.Reply → Except StoreError α) :
    (c.submit call result).Meets r p fun _ => p := by
  refine .bind (Cache.provider_meets stable c.caller) fun found => ?_
  cases found with
  | error fault => exact meets_pure fun _ _ _ holds => holds.1
  | ok store =>
      refine .bind (meets_ask (fun _ _ sound _ => r.due_store sound) ?_) fun _ =>
        meets_pure fun _ _ _ holds => holds
      exact fun heard s _ s' sound holds follows _ => stable heard s _ s' holds.1 sound follows

/-- What a cache does when it is told to act. What its observer has heard is not its own. -/
def CacheAct.operation (c : Cache) : CacheAct → Operation Outcome
  | .value key user => .read <$> c.value key user
  | .listing stem names => .entries <$> c.listing stem names
  | .named stem name => .value <$> c.named stem name
  | .put key v user => .written <$> c.put key v user
  | .putAll stem values user => .written <$> c.putAll stem values user
  | .delete key user => .deleted <$> c.delete key user
  | .reset stem user => .written <$> c.reset stem user
  | .copy key => locked fun w => (.copy (w.copy? key), w)
  | .isTracked topic => locked fun w => (.flag (w.isTracked topic), w)
  | .clear => locked fun w => (.done, w.clear.unresolve)
  | .forget topic => locked fun w => (.done, w.dropCopy topic)
  | .profile => locked fun w => (.profile { cache := c, resolved := w.store.isSome }, w)
  | .readable key => pure (.flag (c.access.readable key c.caller))
  | .provider caller => .found <$> c.provider (caller.getD c.caller)
  | .unresolve => locked fun w => (.done, w.unresolve)
  | .heard => pure .inapplicable

/-- What is known when an act ends. -/
def CacheAct.Ends (r : Terms σ) (start : σ) (act : CacheAct) (outcome : Outcome) :
    Terms.Assertion σ :=
  match act, outcome with
  | .value key _, .read (.ok v) => Cache.Fresh r start key v
  | .listing stem names, .entries result => Cache.Listed r start stem names result
  | _, _ => fun _ _ => True

/-- What is known when an act ends stays known. -/
theorem CacheAct.Ends.mono {start s s' : σ} {act : CacheAct} {outcome : Outcome}
    {heard : List Answer} (ends : act.Ends r start outcome heard s)
    (seen : ∀ copy, r.seen start copy s → r.seen start copy s') :
    act.Ends r start outcome heard s' := by
  revert ends
  unfold Ends
  split
  · intro fresh
    exact fresh.imp_left (seen _)
  · intro listed
    apply listed.imp_left
    intro shown
    obtain ⟨all, was, answers⟩ := shown
    exact ⟨all, seen _ was, answers⟩
  · exact id

namespace Cache

/-- Dropping a copy alone is in order where copies may be missing. -/
theorem forget_meets (topic : Topic) :
    (locked fun w => (Outcome.done, w.dropCopy topic)).Meets r (fun _ s => ¬ r.full s)
      fun _ _ _ => True := by
  apply meets_locked
  intro _ s sound lacking
  have sets : (r.workspace s).Sets topic (r.workspace s).copies.trackers[topic]? none
      (fun _ => False) ((r.workspace s).dropCopy topic) :=
    ⟨(r.workspace s).put_dropCopy topic, by rw [Workspace.shared_dropCopy]; exact .refl _ _⟩
  refine ⟨Terms.follows_of_sets sound sets (fun _ impossible => impossible.elim) ?_ (fun _ => rfl)
    fun full => absurd full lacking, trivial⟩
  intro t found
  obtain ⟨g, same, granted, -⟩ := (r.kept sound).tracked topic t found
  exact ⟨g, same, granted, fun _ impossible => nomatch impossible⟩

theorem clear_meets : (locked fun w => (Outcome.done, w.clear.unresolve)).Meets r p
    fun _ _ _ => True := by
  apply meets_locked
  intro _ s sound _
  obtain ⟨empty, released⟩ := (r.workspace s).clear_released
  refine ⟨r.settle (w := (r.workspace s).clear.unresolve) sound ?_ ?_, trivial⟩
  · rw [Workspace.unresolve, empty]
    exact .empty
  · apply released.mono
    intro v kept
    obtain ⟨topic, t, found, owned⟩ := kept
    obtain ⟨g, rfl, granted, -⟩ := (r.kept sound).tracked topic t found
    exact ⟨topic, g, granted, owned⟩

theorem write_meets {α : Type} (level : Level) (text : String) (call : StoreCall)
    (result : call.Reply → Except StoreError α) (outcome : Except Fault α → Outcome) :
    (outcome <$> (c.note level text >>= fun _ => c.submit call result)).Meets r p
      fun _ _ _ => True := by
  have nothing : r.Stable fun _ _ => True := fun _ _ _ _ _ _ _ => trivial
  refine .require (.map ?_) fun _ _ _ _ => trivial
  exact (note_meets nothing.steady level text).bind fun _ => submit_meets nothing call result

end Cache

/-- Whatever a cache is told to do, it leaves the world in order at every step. -/
theorem CacheAct.operation_meets (start : σ) (act : CacheAct) :
    (act.operation c).Meets r
      (fun _ s => r.later start s ∧ ∀ topic, act = .forget topic → ¬ r.full s) (act.Ends r start) := by
  have nothing : r.Stable fun _ _ => True := fun _ _ _ _ _ _ _ => trivial
  have looks : ∀ f : Workspace → Outcome, (locked fun w => (f w, w)).Meets r
      (fun _ s => r.later start s ∧ ∀ topic, act = .forget topic → ¬ r.full s)
      fun _ _ _ => True := by
    intro f
    exact .require (meets_locked_of_same nothing fun _ => ⟨rfl, rfl⟩) fun _ _ _ _ => trivial
  cases act with
  | value key user =>
      refine .map (.ensure (.require (Cache.value_meets start key user) ?_) ?_)
      · exact fun _ _ _ holds => holds.1
      · intro result _ _ _ fresh
        cases result with
        | ok v => exact fresh v rfl
        | error e => trivial
  | listing stem names =>
      refine .map (.require (Cache.listing_meets start stem names) ?_)
      exact fun _ _ _ holds => holds.1
  | named stem name =>
      have read : (c.named stem name).Meets r (fun _ s => r.later start s) fun _ _ _ => True :=
        .bind (Cache.listing_meets start stem [name]) fun _ => meets_pure fun _ _ _ _ => trivial
      exact .map (read.require fun _ _ _ holds => holds.1)
  | put | putAll | delete | reset => exact Cache.write_meets _ _ _ _ _
  | copy key => exact looks fun w => .copy (w.copy? key)
  | isTracked topic => exact looks fun w => .flag (w.isTracked topic)
  | profile => exact looks fun w => .profile { cache := c, resolved := w.store.isSome }
  | readable | heard => exact meets_pure fun _ _ _ _ => trivial
  | clear => exact Cache.clear_meets
  | forget topic =>
      exact (Cache.forget_meets topic).require fun _ _ _ holds => holds.2 topic rfl
  | provider caller =>
      refine .map (.ensure (.require (Cache.provider_meets nothing _) ?_) ?_)
      · exact fun _ _ _ _ => trivial
      · exact fun _ _ _ _ _ => trivial
  | unresolve =>
      refine .require (meets_locked_of_same nothing fun _ => ⟨rfl, rfl⟩) ?_
      exact fun _ _ _ _ => trivial

/-! ## In a session -/

theorem Progress.run_andThen_finished {α β : Type} (host : Host σ) (f : α → β) (p : Progress α)
    (s : σ) : (p.andThen fun a w => .finished (f a) w).run host s =
      (f (p.run host s).1, (p.run host s).2) := by
  induction p generalizing s with
  | finished => rfl
  | waiting call w resume ih => exact ih _ _ _

theorem Operation.run_map {α β : Type} (host : Host σ) (f : α → β) (op : Operation α) (s : σ) :
    (f <$> op).run host s = (f (op.run host s).1, (op.run host s).2) :=
  (op (host.workspace s)).run_andThen_finished host f s

/-- What a session does when a cache is told to act is to run the act's operation. -/
theorem Session.actOnCache_eq_run (fire : Moment → Session → Session) (i : Nat) (cache : Cache)
    (act : CacheAct) (own : act ≠ .heard) (s : Session) :
    s.actOnCache fire i cache act = (act.operation cache).run (host fire i) s := by
  have looked : ∀ outcome : Outcome, (outcome, s) =
      (outcome, { s with deployment := s.deployment.putBack i (s.deployment.workspace i) }) := by
    intro outcome
    rw [Deployment.putBack_workspace]
  cases act with
  | value | listing | named | put | putAll | delete | reset | provider =>
      exact (Operation.run_map (host fire i) _ _ s).symm
  | copy | isTracked | profile | readable => exact looked _
  | clear | forget | unresolve => rfl
  | heard => exact absurd rfl own

end TrackedSettings
