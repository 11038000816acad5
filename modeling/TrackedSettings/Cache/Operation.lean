import TrackedSettings.Cache.Workspace
import TrackedSettings.Store.Call

/-! # Operations that call out

An operation of a cache works on the cache's workspace, and from time to time it calls out: it
tells its observer something, or asks the resolver or a store. While it waits, others may work on
the same workspace. So an operation in progress is either finished or waiting for a reply, and it
goes on with the reply and with the workspace as it finds it then.
-/

namespace TrackedSettings

inductive Event where
  /-- A read is answered from a copy. -/
  | hit (topic : Topic)
  /-- A read is about to call the store. -/
  | fetch (topic : Topic)
  /-- The generation of a tracked topic had moved. -/
  | stale (topic : Topic)
  /-- The slot of a tracked topic could not be read. -/
  | trackerError (topic : Topic) (error : SlotError)
  /-- A read could not reach the store. -/
  | remoteError (topic : Topic) (fault : Fault)
deriving DecidableEq, Repr, Inhabited

def Event.topic : Event → Topic
  | hit t | fetch t | stale t | trackerError t _ | remoteError t _ => t

/-- What a cache asks of others. -/
inductive Outcall where
  | notify (event : Event)
  | resolve (uri : String) (caller : Caller)
  | store (store : StoreId) (call : StoreCall)

@[reducible] def Outcall.Reply : Outcall → Type
  | notify _ => Unit
  | resolve .. => Except StoreError StoreId
  | store _ call => call.Reply

inductive Progress (α : Type) where
  | finished (answer : α) (w : Workspace)
  /-- The workspace is handed over with the call, and comes back with the reply. -/
  | waiting (call : Outcall) (w : Workspace) (resume : call.Reply → Workspace → Progress α)

/-- Go on with `next` once the operation is finished. -/
def Progress.andThen {α β : Type} (next : α → Workspace → Progress β) : Progress α → Progress β
  | finished answer w => next answer w
  | waiting call w resume => .waiting call w fun reply w => (resume reply w).andThen next

/-- What a cache does when it is given its workspace. -/
def Operation (α : Type) := Workspace → Progress α

namespace Operation

instance : Monad Operation where
  pure a := fun w => .finished a w
  bind op next := fun w => (op w).andThen next

def locked {α : Type} (step : Workspace → α × Workspace) : Operation α := fun w =>
  .finished (step w).1 (step w).2

def change (step : Workspace → Workspace) : Operation Unit := fun w =>
  .finished () (step w)

def ask (call : Outcall) : Operation call.Reply := fun w =>
  .waiting call w .finished

def notify (event : Event) : Operation Unit :=
  ask (.notify event)

/-! ### Operations at a workspace -/

@[simp] theorem pure_apply {α : Type} (a : α) (w : Workspace) :
    (pure a : Operation α) w = .finished a w := rfl

@[simp] theorem bind_apply {α β : Type} (op : Operation α) (next : α → Operation β)
    (w : Workspace) : (op >>= next) w = (op w).andThen next := rfl

@[simp] theorem locked_apply {α : Type} (step : Workspace → α × Workspace) (w : Workspace) :
    locked step w = .finished (step w).1 (step w).2 := rfl

@[simp] theorem change_apply (step : Workspace → Workspace) (w : Workspace) :
    change step w = .finished () (step w) := rfl

@[simp] theorem ask_apply (call : Outcall) (w : Workspace) :
    ask call w = .waiting call w .finished := rfl

@[simp] theorem notify_apply (event : Event) (w : Workspace) :
    notify event w = .waiting (.notify event) w .finished := rfl

end Operation

@[simp] theorem Progress.finished_andThen {α β : Type} (a : α) (w : Workspace)
    (next : α → Workspace → Progress β) : (finished a w).andThen next = next a w := rfl

@[simp] theorem Progress.waiting_andThen {α β : Type} (call : Outcall) (w : Workspace)
    (resume : call.Reply → Workspace → Progress α) (next : α → Workspace → Progress β) :
    (waiting call w resume).andThen next =
      .waiting call w fun reply w => (resume reply w).andThen next := rfl

@[simp] theorem Progress.andThen_finished {α : Type} (p : Progress α) :
    p.andThen Progress.finished = p := by
  induction p with
  | finished => rfl
  | waiting call w resume ih => simp only [andThen, ih]

theorem Progress.andThen_assoc {α β γ : Type} (p : Progress α) (f : α → Workspace → Progress β)
    (g : β → Workspace → Progress γ) :
    (p.andThen f).andThen g = p.andThen fun a w => (f a w).andThen g := by
  induction p with
  | finished => rfl
  | waiting call w resume ih => simp only [andThen, ih]

instance : LawfulMonad Operation :=
  LawfulMonad.mk' Operation
    (fun op => funext fun w => (op w).andThen_finished)
    (fun _ _ => rfl)
    (fun op _ _ => funext fun w => (op w).andThen_assoc _ _)

end TrackedSettings
