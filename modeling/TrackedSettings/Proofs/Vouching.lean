import TrackedSettings.Draft
import TrackedSettings.Proofs.Discipline
import TrackedSettings.Proofs.Sessions

/-! # Keeping what came without a grant

A read that has found a current tracker without a copy asks for no grant, and what the store brings
it is kept on the word of a tracker. The tracker that is looked at then is the one in place by then.
It reads the same generation as the one that the read had found, but it need not be that one: if the
cache was cleared meanwhile, another read may have put a tracker in its place, for another slot, or
for the slot of another store, that happens to hold the same number.
-/

namespace TrackedSettings.Desk

variable {c : Cache} {act : CacheAct} {start d d' : Desk}

/-! ## From one moment to a later one -/

/-- What is left of an act that was begun at the desk `start`, while it waits at a later desk. -/
inductive Underway (c : Cache) (act : CacheAct) (start : Desk) : Suspension → Desk → Prop where
  | asked {call : Outcall} {w : Workspace} {resume : call.Reply → Workspace → Progress Outcome}
      (asks : act.operation c start.workspace = .waiting call w resume) :
      Underway c act start ⟨call, resume⟩ (start.begun c act)
  | meanwhile {s : Suspension} {d d' : Desk} {called : Option Outcall}
      (before : Underway c act start s d) (step : Step c d called d') (waits : s ∈ d'.suspended) :
      Underway c act start s d'
  | asksAgain {s : Suspension} {d : Desk} {n : Nat} (before : Underway c act start s d)
      (waits : d.suspended[n]? = some s) (reply : s.call.Reply) {call : Outcall} {w : Workspace}
      {resume : call.Reply → Workspace → Progress Outcome}
      (asks : s.resume reply d.workspace = .waiting call w resume) :
      Underway c act start ⟨call, resume⟩ (d.replied n s reply)

/-- Grants have come, and no tracker is in place but those that were and those of these grants. -/
def Since (start d : Desk) : Prop :=
  ∃ more, d.received = start.received ++ more ∧
    ∀ (topic : Topic) (t : Tracker), d.workspace.copies.trackers[topic]? = some t →
      start.workspace.copies.trackers[topic]? = some t ∨
        ∃ g, (topic, g) ∈ more ∧ t = .ofGrant topic g

theorem Since.trans (first : start.Since d) (second : d.Since d') : start.Since d' := by
  obtain ⟨more, received, installed⟩ := first
  obtain ⟨more', received', installed'⟩ := second
  refine ⟨more ++ more', by rw [received', received, List.append_assoc], ?_⟩
  intro topic t found
  rcases installed' topic t found with before | ⟨g, member, same⟩
  · rcases installed topic t before with held | ⟨g, member, same⟩
    · exact Or.inl held
    · exact Or.inr ⟨g, List.mem_append_left _ member, same⟩
  · exact Or.inr ⟨g, List.mem_append_right _ member, same⟩

theorem since_of_conduct {r : Remit} {last : Option Answer}
    (conduct : d.workspace.Conduct r last d'.workspace)
    (received : d'.received = d.received ++ receiptsOf last) : d.Since d' :=
  ⟨receiptsOf last, received, conduct.installed⟩

theorem Step.since {called : Option Outcall} (step : Step c d called d')
    (orderly : ∀ s ∈ d.suspended, Orderly s) : d.Since d' := by
  cases step with
  | act act =>
      obtain ⟨-, conduct, received⟩ := begun_conducts (c := c) orderly act
      exact since_of_conduct conduct (received.trans (List.append_nil _).symm)
  | reply waits reply =>
      obtain ⟨-, ⟨r, conduct⟩, received⟩ := replied_conducts orderly waits reply
      exact since_of_conduct conduct received
  | others shared => exact ⟨[], (List.append_nil _).symm, fun _ _ found => Or.inl found⟩

theorem Underway.since {s : Suspension} (underway : Underway c act start s d)
    (reachable : Reachable c start) : Reachable c d ∧ start.Since d := by
  induction underway with
  | asked asks =>
      have step : Step c start _ (start.begun c act) := .act start act
      exact ⟨reachable.step step, step.since reachable.orderly⟩
  | meanwhile _ step _ ih => exact ⟨ih.1.step step, ih.2.trans (step.since ih.1.orderly)⟩
  | asksAgain _ waits reply _ ih =>
      have step := Step.reply (c := c) _ waits reply
      exact ⟨ih.1.step step, ih.2.trans (step.since ih.1.orderly)⟩

/-- Whatever came between, the act goes on within what it found when it began. -/
theorem Underway.conducts {s : Suspension} (underway : Underway c act start s d)
    (reply : s.call.Reply) (w : Workspace) :
    (s.resume reply w).Conducts (act.remit c start.workspace) (fun _ => True)
      (some ⟨s.call, reply⟩) w := by
  induction underway generalizing w with
  | asked asks =>
      have conducts := act.operation_conducts c start.workspace
      rw [asks] at conducts
      exact conducts.2 reply w
  | meanwhile _ _ _ ih => exact ih reply w
  | @asksAgain s d n _ waits reply' call w' resume asks ih =>
      have conducts := ih reply' d.workspace
      rw [asks] at conducts
      exact conducts.2 reply w

/-! ## What vouches for a copy without a grant -/

/-- The desk without a copy of the topic. -/
def without (d : Desk) (topic : Topic) : Desk :=
  { d with workspace := d.workspace.dropCopy topic }

/-- If an act puts in place what came without a grant, it had found a tracker current when it began,
and the tracker that is current now reads the same generation. It is the same tracker, or the grant
of another one has come since. -/
theorem kept_at_generation (reachable : Reachable c start) {s : Suspension}
    (underway : Underway c act start s d) {n : Nat} (reply : s.call.Reply) {copy : Copy}
    (brings : Answer.brings ⟨s.call, reply⟩ = some (copy, none))
    (puts : ((d.without copy.topic).replied n s reply).workspace.copies.find? copy.topic =
      some copy) :
    ∃ t t', start.workspace.Current copy.topic t ∧ d.workspace.Current copy.topic t' ∧
      t'.generation = t.generation ∧
      (t' = t ∨ ∃ g, (copy.topic, g) ∈ d.received.drop start.received.length ∧
        t' = .ofGrant copy.topic g) := by
  have conduct : (d.without copy.topic).workspace.Conduct (act.remit c start.workspace)
      (some ⟨s.call, reply⟩) ((d.without copy.topic).replied n s reply).workspace :=
    goOn_conduct (underway.conducts reply (d.without copy.topic).workspace)
  have bare : (d.without copy.topic).workspace.copies.find? copy.topic = none :=
    (d.workspace.put_dropCopy copy.topic).copy
  have same : ∀ t, (d.without copy.topic).workspace.Current copy.topic t ↔
      d.workspace.Current copy.topic t := by
    intro t
    unfold without Workspace.Current
    rw [Workspace.shared_dropCopy, (d.workspace.put_dropCopy copy.topic).tracker]
  rcases conduct.kept copy puts with impossible | ⟨_, grant, ⟨⟩, brings', vouched⟩
  · rw [bare] at impossible
    cases impossible
  · rw [brings] at brings'
    cases brings'
    obtain ⟨t', current', t, current, generation⟩ := vouched rfl
    rw [same] at current'
    obtain ⟨-, more, received, installed⟩ := underway.since reachable
    refine ⟨t, t', current, current', generation.symm, ?_⟩
    rcases installed copy.topic t' current'.1 with before | come
    · left
      rw [current.1] at before
      cases before
      rfl
    · right
      rw [received, List.drop_left]
      exact come

def lent : Grant :=
  { handle := .borrowed { serial := 0, board := 0, owner := true }, index := 0, generation := 0 }

/-- The desk of a cache that has read a key and was told to forget the copy. -/
def forgotten : Desk where
  workspace :=
    { copies :=
        { values := (({} : Entries).insert "volume" (some "7")).erase "volume"
          trackers := .insert {} (.key "volume") (.ofGrant (.key "volume") lent) }
      store := some 0
      shared := { slots := { boards := #[#[0]], issued := 1 } } }
  received := [(.key "volume", lent)]
  forgetful := true

theorem reachable_forgotten : Reachable { uri := "settings:main" } forgotten := by
  have opened : Reachable { uri := "settings:main" } _ :=
    .opened { slots := { boards := #[#[0]], issued := 1 } }
  have begun := opened.step (.act _ (.value "volume" 0))
  have found := begun.step (.reply _ (n := 0) rfl (Except.ok 0))
  have told := found.step (.reply _ (n := 0) rfl ())
  have read := told.step
    (.reply _ (n := 0) rfl (Except.ok (some { value := some "7", grant := some lent })))
  have forgot := read.step (.act _ (.forget (.key "volume")))
  exact forgot.step (.others _ { slots := { boards := #[#[0]], issued := 1 } })

/-- The key is read again, and its value is kept under the tracker that was there. -/
theorem kept_at_generation_again :
    ∃ (start d : Desk) (t t' : Tracker), start.workspace.Current (.key "volume") t ∧
      d.workspace.Current (.key "volume") t' ∧ t'.generation = t.generation ∧
      (t' = t ∨ ∃ g, (Topic.key "volume", g) ∈ d.received.drop start.received.length ∧
        t' = .ofGrant (.key "volume") g) := by
  have asked : Underway { uri := "settings:main" } (.value "volume" 0) forgotten _ _ := .asked rfl
  have told := asked.asksAgain (n := 0) rfl () rfl
  have puts : ∀ w : Workspace, w.copies.values["volume"]? = some (some "8") →
      w.copies.find? (.key "volume") = some (.value "volume" (some "8")) := by
    intro w held
    rw [Copies.find?, held, Option.map_some]
  have kept := kept_at_generation reachable_forgotten told (n := 0)
    (Except.ok (some { value := some "8" })) rfl (puts _ (by decide +kernel))
  exact ⟨_, _, kept⟩

/-- Two stores, and a cache that finds the first of them and later the second. -/
def twoStores : Session where
  deployment := (Deployment.build
    [.plain { defaults := .ofList [("volume", "7")] }, .plain { defaults := .ofList [("volume", "8")] }]
    [{ link := some { uri := "settings:main", resolver := .planned (.ok 0) [.ok 1] } }]).toOption.getD {}
  observers := #[]

/-- While the first store has its answer to a read, the cache is cleared and finds the second. -/
def overtaken : Script :=
  let read : Instruction := .onCache 0 (.value "volume" 0)
  [read, .onCache 0 (.forget (.key "volume")), .hook .get [.onCache 0 .clear, read], read]

/-- The read that was overtaken keeps what the first store said under a tracker of the second. -/
theorem kept_under_other_tracker :
    let before := (twoStores.play 1 (overtaken.take 3)).deployment
    let after := (twoStores.play 1 overtaken).deployment
    let tracker (dep : Deployment) := (dep.workspace 0).copies.trackers[Topic.key "volume"]?
    ((before.workspace 0).validate (.key "volume")).1 = .current 0 ∧
      (tracker before).map (·.handle.view.board) = some 0 ∧
      ((before.workspace 0).copy? "volume") = none ∧
      ((after.workspace 0).validate (.key "volume")).1 = .current 0 ∧
      (tracker after).map (·.handle.view.board) = some 1 ∧
      ((after.workspace 0).copy? "volume") = some (some "7") ∧
      (after.authorities[1]?.map (·.value "volume")) = some (some "8") := by
  decide +kernel

end TrackedSettings.Desk
