import TrackedSettings.Proofs.Sessions

/-! # What a script reports

The report on a step is about the session that the steps before it have left. Where no hooks run,
nothing comes between an operation and the answers to its calls, so that what becomes of caches and
stores, and which calls are made, does not depend on observers or handles: a tally has it all.
-/

namespace TrackedSettings

namespace Session

variable {script : Script}

/-- The report on a step that a session carries out next. -/
def report (depth : Nat) (watched : List Topic) (s : Session) (step : Instruction) : Report :=
  let (outcome, s) := s.fresh.perform (fire depth) step
  { outcome, marks := s.marks, journal := s.deployment.shared.journal
    glimpses := watched.map s.glimpse }

def reports (depth : Nat) (watched : List Topic) (s : Session) : Script → List Report
  | [] => []
  | step :: rest =>
      s.report depth watched step :: reports depth watched (s.play depth [step]) rest

/-- A fold that adds one report a step adds the reports still to come. -/
theorem foldl_eq_reports {depth : Nat} {watched : List Topic}
    {next : Array Report × Session → Instruction → Array Report × Session}
    (adds : ∀ made s step,
      next (made, s) step = (made.push (s.report depth watched step), s.play depth [step]))
    (script : Script) (made : Array Report) (s : Session) :
    (script.foldl next (made, s)).1.toList = made.toList ++ s.reports depth watched script := by
  induction script generalizing made s with
  | nil => exact (List.append_nil _).symm
  | cons step rest ih =>
      rw [List.foldl_cons, adds, ih, Array.toList_push, List.append_assoc]
      rfl

theorem run_eq_reports (script : Script) (watched : List Topic) (start : Session) :
    start.run script watched = start.reports (scriptHookCount script) watched script :=
  foldl_eq_reports (fun _ _ _ => rfl) script #[] start

theorem getElem?_reports (depth : Nat) (watched : List Topic) (s : Session) (script : Script)
    (n : Nat) : (s.reports depth watched script)[n]? =
      script[n]?.map ((s.play depth (script.take n)).report depth watched) := by
  induction script generalizing s n with
  | nil => rfl
  | cons step rest ih =>
      cases n with
      | zero => rfl
      | succ n => exact ih (s.play depth [step]) n

/-- Each step is reported on as the session carries it out after the steps before it. -/
theorem getElem?_run (script : Script) (watched : List Topic) (start : Session) (n : Nat) :
    (start.run script watched)[n]? = script[n]?.map
      ((start.play (scriptHookCount script) (script.take n)).report (scriptHookCount script)
        watched) := by
  rw [run_eq_reports, getElem?_reports]

theorem play_append (depth : Nat) (script more : Script) (s : Session) :
    s.play depth (script ++ more) = (s.play depth script).play depth more :=
  List.foldl_append

/-- The session goes on by one step of the script. -/
theorem play_take_succ (depth : Nat) (s : Session) {script : Script} {n : Nat} {step : Instruction}
    (known : script[n]? = some step) :
    s.play depth (script.take (n + 1)) = (s.play depth (script.take n)).play depth [step] := by
  obtain ⟨inside, rfl⟩ := List.getElem?_eq_some_iff.mp known
  rw [List.take_succ_eq_append_getElem inside, play_append]

end Session

/-- The script puts no steps aside. -/
def Script.Plain (script : Script) : Prop :=
  ∀ step ∈ script, ∀ moment steps, step ≠ .hook moment steps

theorem Script.Plain.hookCount {script : Script} (plain : script.Plain) :
    scriptHookCount script = 0 := by
  induction script with
  | nil => rfl
  | cons step rest ih =>
      have none : step.hookCount = 0 := by
        cases step with
        | hook moment steps => exact absurd rfl (plain _ List.mem_cons_self moment steps)
        | onCache | onStore | handles | onHandle => rfl
      rw [scriptHookCount, none, ih fun step member => plain step (List.mem_cons_of_mem _ member)]

/-! ## Tallies -/

/-- A deployment, and the calls that its caches have made to stores. -/
structure Tally where
  deployment : Deployment
  calls : List StoreCall := []

/-- What a call to a store counts for. To ask whether a store can list is no call to it. -/
def Outcall.counted : Outcall → List StoreCall
  | .store _ .canList | .notify _ | .resolve .. => []
  | .store _ call => [call]

namespace Tally

/-- Answers come from the deployment, and nothing comes between. -/
def host (i : Nat) : Host Tally where
  workspace t := t.deployment.workspace i
  putBack w t := { t with deployment := t.deployment.putBack i w }
  answer call t :=
    let (reply, deployment) := t.deployment.reply i call
    (reply, { deployment, calls := t.calls ++ call.counted })

end Tally

def Mark.call? : Mark → Option StoreCall
  | .called _ call => some call
  | .observed .. | .resolving .. | .nested .. => none

namespace Session

/-- The calls that caches made to stores in a step. -/
def Report.calls (r : Report) : List StoreCall :=
  r.marks.toList.filterMap Mark.call?

/-- The calls of caches that have left marks. -/
def tally (s : Session) : Tally where
  deployment := s.deployment
  calls := s.marks.toList.filterMap Mark.call?

theorem notify_tally (i : Nat) (event : Event) (s : Session) :
    (notify (fire 0) i event s).tally = s.tally := by
  unfold notify
  cases s.observers[i]? with
  | none => rfl
  | some observer =>
      cases observer with
      | tracing => simp [fire, tally, mark, Mark.call?]
      | recording | silent => rfl

theorem resolve_tally (i : Nat) (uri : String) (caller : Caller) (s : Session) :
    (resolve i uri caller s).1 = (s.deployment.resolve i).1 ∧
      (resolve i uri caller s).2.tally = { s.tally with deployment := (s.deployment.resolve i).2 } := by
  unfold resolve
  cases s.deployment.seats[i]?.map (·.resolver) with
  | none => exact ⟨rfl, rfl⟩
  | some resolver =>
      cases resolver with
      | fixed => exact ⟨rfl, rfl⟩
      | planned => simp [tally, mark, Mark.call?]

theorem callStore_tally (store : StoreId) (call : StoreCall) (s : Session) :
    (callStore (fire 0) store call s).1 = (s.deployment.callStore store call).1 ∧
      (callStore (fire 0) store call s).2.tally =
        { deployment := (s.deployment.callStore store call).2
          calls := s.tally.calls ++ (Outcall.store store call).counted } := by
  cases call <;>
    simp [callStore, markCall, StoreCall.moment?, fire, number, tally, mark, Mark.call?,
      Outcall.counted]

theorem answer_tally (i : Nat) (call : Outcall) (s : Session) :
    ((host (fire 0) i).answer call s).1 = ((Tally.host i).answer call s.tally).1 ∧
      ((host (fire 0) i).answer call s).2.tally = ((Tally.host i).answer call s.tally).2 := by
  cases call with
  | notify event =>
      refine ⟨rfl, (notify_tally i event s).trans ?_⟩
      simp [Tally.host, Deployment.reply, Outcall.counted]
  | resolve uri caller =>
      obtain ⟨reply, tallied⟩ := resolve_tally i uri caller s
      refine ⟨reply, tallied.trans ?_⟩
      simp [Tally.host, Deployment.reply, Outcall.counted, tally]
  | store store call => exact callStore_tally store call s

/-- What an operation ends with, and what becomes of caches and stores, is all in the tally. -/
theorem run_tally {α : Type} (i : Nat) (p : Progress α) (s : Session) :
    (p.run (host (fire 0) i) s).1 = (p.run (Tally.host i) s.tally).1 ∧
      (p.run (host (fire 0) i) s).2.tally = (p.run (Tally.host i) s.tally).2 := by
  induction p generalizing s with
  | finished answer w => exact ⟨rfl, rfl⟩
  | waiting call w resume ih =>
      have answered := answer_tally i call ((host (fire 0) i).putBack w s)
      have there : ((host (fire 0) i).putBack w s).tally = (Tally.host i).putBack w s.tally := rfl
      rw [there] at answered
      unfold Progress.run
      generalize (host (fire 0) i).answer call ((host (fire 0) i).putBack w s) = a at answered
      generalize (Tally.host i).answer call ((Tally.host i).putBack w s.tally) = b at answered
      obtain ⟨reply, s'⟩ := a
      obtain ⟨reply', t⟩ := b
      obtain ⟨rfl, rfl⟩ := answered
      exact ih reply (s'.deployment.workspace i) s'

/-- A cache that is told to act runs the act's operation; what its observer has heard is elsewhere. -/
theorem perform_eq_run (i : Nat) (act : CacheAct) (s : Session) {seat : Seat}
    (seated : s.deployment.seats[i]? = some seat) (own : act ≠ .heard) :
    s.perform (fire 0) (.onCache i act) = (act.operation seat.cache).run (host (fire 0) i) s := by
  rw [← actOnCache_eq_run (fire 0) i seat.cache act own s]
  simp only [perform, seated]

theorem perform_tally (i : Nat) (act : CacheAct) (s : Session) {seat : Seat}
    (seated : s.deployment.seats[i]? = some seat) (own : act ≠ .heard) :
    (s.perform (fire 0) (.onCache i act)).1 =
        ((act.operation seat.cache).run (Tally.host i) s.tally).1 ∧
      (s.perform (fire 0) (.onCache i act)).2.tally =
        ((act.operation seat.cache).run (Tally.host i) s.tally).2 := by
  rw [s.perform_eq_run i act seated own]
  exact run_tally i _ s

end Session

end TrackedSettings
