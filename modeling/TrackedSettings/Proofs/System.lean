import TrackedSettings.Proofs.Moments

/-! # Caches at work together

A system is a deployment and what its caches are busy with. It goes from moment to moment by moves:
a cache is told to act, a call is answered, an operation goes on with its answer; stores are called,
switched and broken behind the caches' backs. The moves come in any order, so an operation can be
overtaken by others whenever it waits, both before its call is answered and after.
-/

namespace TrackedSettings

/-- How far an errand has come. -/
inductive Stage where
  | asking (call : Outcall) (resume : call.Reply → Workspace → Progress Outcome)
  /-- The answer is there, and the cache does not have it yet. -/
  | answered (call : Outcall) (reply : call.Reply)
      (resume : call.Reply → Workspace → Progress Outcome)
  | done (outcome : Outcome)

structure Errand where
  seat : Nat
  act : CacheAct
  heard : List Answer := []
  stage : Stage

/-- Caches and stores, and all errands so far in the order in which they began. -/
structure System where
  deployment : Deployment
  errands : List Errand := []

/-- What can happen next. Caches, stores and errands are known by number. -/
inductive Move where
  | start (seat : Nat) (act : CacheAct)
  /-- Whoever an errand asks finds the answer. -/
  | answer (errand : Nat)
  /-- An errand goes on with its answer. -/
  | resume (errand : Nat)
  | call (store : StoreId) (call : StoreCall)
  /-- The authoritative store behind a store is called past any front. -/
  | behind (store : StoreId) (call : StoreCall)
  | switch (store : StoreId) (change : SwitchChange)
  | breakHandedOut (store : StoreId)
  | collect

namespace Progress

def stage : Progress Outcome → Stage
  | finished outcome _ => .done outcome
  | waiting call _ resume => .asking call resume

/-- The workspace as the operation leaves it. -/
def handover {α : Type} : Progress α → Workspace
  | finished _ w => w
  | waiting _ w _ => w

end Progress

namespace Deployment

/-- The cache in seat `i` is told to act. An empty seat has nothing to do it with. -/
def begin (dep : Deployment) (i : Nat) (act : CacheAct) : Progress Outcome :=
  match dep.seats[i]? with
  | none => .finished .inapplicable (dep.workspace i)
  | some seat => act.operation seat.cache (dep.workspace i)

/-- The answer to what the cache in seat `i` calls out. -/
def reply (dep : Deployment) (i : Nat) : (call : Outcall) → call.Reply × Deployment
  | .notify _ => ((), dep)
  | .resolve .. => dep.resolve i
  | .store store call => dep.callStore store call

def callTurns (dep : Deployment) (store : StoreId) (call : StoreCall) (index : Nat) : Nat :=
  (dep.callStore store call).2.sole.registry.turns dep.shared.slots index
    ((dep.changes store call).map Change.key)

/-- How often a call past any front moves a slot. -/
def behindTurns (dep : Deployment) (store : StoreId) (call : StoreCall) (index : Nat) : Nat :=
  match dep.authority? store with
  | some a =>
      (dep.callAuthority a call).2.sole.registry.turns dep.shared.slots index
        ((dep.sole.changes call).map Change.key)
  | none => 0

/-- How often the slots move while an answer is found. -/
def replyTurns (dep : Deployment) (index : Nat) : Outcall → Nat
  | .store store call => dep.callTurns store call index
  | .notify _ | .resolve .. => 0

theorem behindTurns_le (dep : Deployment) (store : StoreId) (call : StoreCall) (index : Nat) :
    dep.behindTurns store call index ≤ (dep.sole.changes call).length := by
  unfold behindTurns
  cases dep.authority? store with
  | none => exact Nat.zero_le _
  | some a =>
      have most := (dep.callAuthority a call).2.sole.registry.turns_le dep.shared.slots index
        ((dep.sole.changes call).map Change.key)
      rwa [List.length_map] at most

theorem callTurns_le (dep : Deployment) (store : StoreId) (call : StoreCall) (index : Nat) :
    dep.callTurns store call index ≤ (dep.changes store call).length := by
  have most := (dep.callStore store call).2.sole.registry.turns_le dep.shared.slots index
    ((dep.changes store call).map Change.key)
  rwa [List.length_map] at most

end Deployment

namespace System

/-- What a move makes of a system. A move that names what is not there does nothing. -/
def step (sys : System) : Move → System
  | .start i act =>
      let p := sys.deployment.begin i act
      { deployment := sys.deployment.putBack i p.handover
        errands := sys.errands ++ [{ seat := i, act, stage := p.stage }] }
  | .answer n =>
      match sys.errands[n]? with
      | some { seat, act, heard, stage := .asking call resume } =>
          let (reply, deployment) := sys.deployment.reply seat call
          { deployment
            errands := sys.errands.set n
              { seat, act, heard, stage := .answered call reply resume } }
      | _ => sys
  | .resume n =>
      match sys.errands[n]? with
      | some { seat, act, heard, stage := .answered call reply resume } =>
          let p := resume reply (sys.deployment.workspace seat)
          { deployment := sys.deployment.putBack seat p.handover
            errands := sys.errands.set n
              { seat, act, heard := heard ++ [⟨call, reply⟩], stage := p.stage } }
      | _ => sys
  | .call store call => { sys with deployment := (sys.deployment.callStore store call).2 }
  | .behind store call =>
      match sys.deployment.authority? store with
      | some a => { sys with deployment := (sys.deployment.callAuthority a call).2 }
      | none => sys
  | .switch store change =>
      match sys.deployment.stores[store]? with
      | some (.flaky front a) =>
          let switches := change.apply front.switches
          { sys with
            deployment.stores :=
              sys.deployment.stores.setIfInBounds store (.flaky { front with switches } a) }
      | _ => sys
  | .breakHandedOut store =>
      match sys.deployment.stores[store]? with
      | some (.flaky front _) =>
          { sys with deployment.shared := front.breakHandedOut sys.deployment.shared }
      | _ => sys
  | .collect => { sys with deployment.shared.journal := #[] }

def turnsOf (sys : System) (index : Nat) : Move → Nat
  | .call store call => sys.deployment.callTurns store call index
  | .behind store call => sys.deployment.behindTurns store call index
  | .answer n =>
      match sys.errands[n]? with
      | some { stage := .asking call _, .. } => sys.deployment.replyTurns index call
      | _ => 0
  | .start .. | .resume _ | .switch .. | .breakHandedOut _ | .collect => 0

def after (start : System) (moves : Nat → Move) : Nat → System
  | 0 => start
  | t + 1 => (after start moves t).step (moves t)

/-- How often the first `t` moves have moved a slot on. -/
def turns (start : System) (moves : Nat → Move) : Nat → Nat → Nat
  | 0, _ => 0
  | t + 1, index => turns start moves t index + (after start moves t).turnsOf index (moves t)

def changesOf (sys : System) : Move → Nat
  | .call store call => (sys.deployment.changes store call).length
  | .behind _ call => (sys.deployment.sole.changes call).length
  | .answer n =>
      match sys.errands[n]? with
      | some { stage := .asking (.store store call) _, .. } =>
          (sys.deployment.changes store call).length
      | _ => 0
  | .start .. | .resume _ | .switch .. | .breakHandedOut _ | .collect => 0

/-- How many changes the first `t` moves have made. -/
def changes (start : System) (moves : Nat → Move) : Nat → Nat
  | 0 => 0
  | t + 1 => changes start moves t + (after start moves t).changesOf (moves t)

/-- What the store held after the first `t` moves. -/
def entries (start : System) (moves : Nat → Move) (t : Nat) : Entries :=
  (after start moves t).deployment.sole.entries

theorem step_answer {sys : System} {n i : Nat} {act : CacheAct} {heard : List Answer}
    {call : Outcall} {resume : call.Reply → Workspace → Progress Outcome}
    (known : sys.errands[n]? = some { seat := i, act, heard, stage := .asking call resume }) :
    sys.step (.answer n) =
      { deployment := (sys.deployment.reply i call).2
        errands := sys.errands.set n
          { seat := i, act, heard
            stage := .answered call (sys.deployment.reply i call).1 resume } } := by
  simp only [step, known]

theorem step_resume {sys : System} {n i : Nat} {act : CacheAct} {heard : List Answer}
    {call : Outcall} {reply : call.Reply} {resume : call.Reply → Workspace → Progress Outcome}
    (known : sys.errands[n]? =
      some { seat := i, act, heard, stage := .answered call reply resume }) :
    sys.step (.resume n) =
      { deployment := sys.deployment.putBack i
          (resume reply (sys.deployment.workspace i)).handover
        errands := sys.errands.set n
          { seat := i, act, heard := heard ++ [⟨call, reply⟩]
            stage := (resume reply (sys.deployment.workspace i)).stage } } := by
  simp only [step, known]

/-! ### Turns and changes -/

theorem turnsOf_le (sys : System) (move : Move) (index : Nat) :
    sys.turnsOf index move ≤ sys.changesOf move := by
  cases move with
  | call store call => exact sys.deployment.callTurns_le store call index
  | behind store call => exact sys.deployment.behindTurns_le store call index
  | answer n =>
      cases known : sys.errands[n]? with
      | none => simp only [turnsOf, known, Nat.zero_le]
      | some e =>
          obtain ⟨i, act, heard, stage⟩ := e
          cases stage with
          | answered | done => simp only [turnsOf, known, Nat.zero_le]
          | asking call resume =>
              simp only [turnsOf, changesOf, known]
              cases call with
              | store store call => exact sys.deployment.callTurns_le store call index
              | notify | resolve => exact Nat.zero_le _
  | start | resume | switch | breakHandedOut | collect => exact Nat.zero_le _

/-- No slot moves on more often than the store is changed. -/
theorem turns_le (start : System) (moves : Nat → Move) (t index : Nat) :
    start.turns moves t index ≤ start.changes moves t := by
  induction t with
  | zero => exact Nat.zero_le _
  | succ t ih => exact Nat.add_le_add ih (turnsOf_le _ (moves t) index)

end System

/-- One authoritative store that has just been set up, stores that are this one or fronts of it, and
caches that have done nothing yet. -/
structure Deployment.New (dep : Deployment) (capacity : Nat) (transfer : Transfer)
    (defaults : Std.ExtTreeMap String String) : Prop where
  authority : dep.authorities = #[(Authority.create capacity transfer defaults {}).1]
  shared : dep.shared = (Authority.create capacity transfer defaults {}).2
  stores : ∀ (id : Nat) (store : Store), dep.stores[id]? = some store →
    store = .plain 0 ∨ ∃ switches, store = .flaky { switches } 0
  seats : ∀ (i : Nat) (seat : Seat), dep.seats[i]? = some seat →
    seat.copies = {} ∧ seat.store = none

end TrackedSettings
