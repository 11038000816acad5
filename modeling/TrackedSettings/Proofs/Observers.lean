import TrackedSettings.Proofs.Outcalls

/-! # What observers see

Whatever else goes on at a cache, an observer that is told something finds the cache as it is told.
A tracker that it hears to be stale or broken is gone, and so is the copy. A copy that it hears to
be the answer of a read is there under a current tracker, and the read answers with it whatever the
observer does. And each slot that a read comes upon and cannot read is told of by this read, in the
very next call and never again.
-/

namespace TrackedSettings

theorem Workspace.Current.of_same {w w' : Workspace} {topic : Topic} {t : Tracker}
    (current : w.Current topic t) (copies : w'.copies = w.copies)
    (slots : w'.shared.slots = w.shared.slots) : w'.Current topic t := by
  unfold Workspace.Current
  rw [copies, slots]
  exact current

namespace Desk

variable {c : Cache} {d d' : Desk}

/-- A read that began at `d` has found a copy under a current tracker. It has told its observer of
the hit, and whatever happens meanwhile it is going to answer from this copy. -/
def HitAt (c : Cache) (d : Desk) (topic : Topic) (d' : Desk) : Prop :=
  ∃ act p t copy resume, act.purpose? c = some p ∧ p.topic = topic ∧ d' = d.begun c act ∧
    d'.workspace.Current topic t ∧ d'.workspace.copies.find? topic = some copy ∧
    d'.suspended = d.suspended ++ [⟨.notify (.hit topic), resume⟩] ∧
    ∀ reply w, resume reply w = .finished (act.answerFrom copy) w

section Stretch

variable {b : Brief} {ends : Outcome → Prop} {found : Option (Topic × SlotError)}
  {p : Progress Outcome}

theorem fits_of_called (announces : p.Announces b ends found) {call : Outcall}
    (calls : p.called = some call) : call.Fits found (d.goOn p).workspace := by
  cases p with
  | finished a w => cases calls
  | waiting asked w resume =>
      cases calls
      exact announces.2.1

/-- A broken slot is told of if and only if it has just been found. -/
theorem called_trackerError_iff (announces : p.Announces b ends found) {topic : Topic}
    {e : SlotError} :
    p.called = some (.notify (.trackerError topic e)) ↔ found = some (topic, e) := by
  cases p with
  | finished a w =>
      obtain ⟨rfl, -⟩ := announces
      exact ⟨nofun, nofun⟩
  | waiting call w resume =>
      rw [← announces.2.1.told topic e]
      exact Option.some_inj

end Stretch

/-- What a step calls out is a hit of a read that has just begun, or it fits what was found. -/
theorem Step.announced {call : Outcall} (step : Step c d (some call) d')
    (reachable : Reachable c d) :
    (∃ topic, call = .notify (.hit topic) ∧ HitAt c d topic d') ∨
      ∃ found, call.Fits found d'.workspace := by
  generalize same : some call = called at step
  cases step with
  | act act =>
      rcases act.operation_announces c d.workspace with
        ⟨p, t, copy, purpose, current, found, w, copies, slots, asks⟩ | announces
      · left
        rw [asks] at same ⊢
        cases same
        refine ⟨p.topic, rfl, act, p, t, copy, _, purpose, rfl, ?_, current.of_same copies slots,
          ?_, rfl, fun _ _ => rfl⟩
        · rw [begun, asks]
        · rw [← found, ← copies]
          rfl
      · exact Or.inr ⟨_, fits_of_called announces same.symm⟩
  | reply waits reply =>
      obtain ⟨act, start, -, underway⟩ := reachable.underway _ (List.mem_of_getElem? waits)
      exact Or.inr ⟨_, fits_of_called (underway.announces.2 reply d.workspace) same.symm⟩
  | others => cases same

/-- What an observer can count on when a cache calls it. -/
structure Observed (c : Cache) (d : Desk) : Prop where
  stale_gone : ∀ topic d', Step c d (some (.notify (.stale topic))) d' → d'.workspace.Gone topic
  trackerError_gone : ∀ topic e d', Step c d (some (.notify (.trackerError topic e))) d' →
    d'.workspace.Gone topic
  hit_answers : ∀ topic d', Step c d (some (.notify (.hit topic))) d' → HitAt c d topic d'
  /-- An act that begins tells of the broken slot that it comes upon, and of no other. -/
  begun_tells : ∀ (act : CacheAct) topic e,
    (act.operation c d.workspace).called = some (.notify (.trackerError topic e)) ↔
      act.comesUpon c d.workspace = some (topic, e)
  /-- Whatever waits is what is left of an act. -/
  underway : ∀ s ∈ d.suspended, ∃ act start, Reachable c start ∧ Underway c act start s d
  /-- An act that goes on tells of the broken slot that it then comes upon, and of no other. -/
  resumed_tells : ∀ act start s, Underway c act start s d → ∀ reply topic e,
    (s.resume reply d.workspace).called = some (.notify (.trackerError topic e)) ↔
      (act.brief c start.workspace).footing.comesUpon ⟨s.call, reply⟩ d.workspace = some (topic, e)

/-- Observers see the cache as it is when they are told, however operations overlap, and they hear
of each broken slot once, from the read that came upon it. -/
theorem observers_see_what_is_told (reachable : Reachable c d) : d.Observed c := by
  refine
    { stale_gone := ?_
      trackerError_gone := ?_
      hit_answers := ?_
      begun_tells := ?_
      underway := reachable.underway
      resumed_tells := ?_ }
  · intro topic d' step
    rcases step.announced reachable with ⟨_, impossible, -⟩ | ⟨found, fits⟩
    · cases impossible
    · exact fits.gone _ rfl rfl
  · intro topic e d' step
    rcases step.announced reachable with ⟨_, impossible, -⟩ | ⟨found, fits⟩
    · cases impossible
    · exact fits.gone _ rfl rfl
  · intro topic d' step
    rcases step.announced reachable with ⟨_, ⟨⟩, hit⟩ | ⟨found, fits⟩
    · exact hit
    · cases fits.hitless
  · intro act topic e
    rcases act.operation_announces c d.workspace with
      ⟨p, t, copy, purpose, current, -, w, -, -, asks⟩ | announces
    · have nothing : act.comesUpon c d.workspace = none := by
        rw [CacheAct.comesUpon, purpose, Option.bind_some, current.glance]
        exact ite_self none
      rw [asks, nothing]
      exact ⟨nofun, nofun⟩
    · exact called_trackerError_iff announces
  · intro act start s underway reply topic e
    exact called_trackerError_iff (underway.announces.2 reply d.workspace)

/-- A key was read, and then others close the view that its tracker watches. The next read comes
upon that. -/
theorem observers_see_what_is_told_of_closed_view :
    let c : Cache := { uri := "settings:main" }
    ∃ d, Reachable c d ∧
      (CacheAct.value "volume" 0).comesUpon c d.workspace = some (.key "volume", .closed) ∧
      d.Observed c := by
  intro c
  have closed : Reachable c _ := reachable_forgotten.step
    (.others _ { slots := { boards := #[#[0]], issued := 1, closed := [0] } })
  exact ⟨_, closed, by decide +kernel, observers_see_what_is_told closed⟩

end Desk

end TrackedSettings
