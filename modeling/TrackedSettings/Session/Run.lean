import TrackedSettings.Cache.Host
import TrackedSettings.Cache.Listing
import TrackedSettings.Cache.Read
import TrackedSettings.Cache.Write
import TrackedSettings.Deployment
import TrackedSettings.Session.Outcome

/-! # Running a script

A session is a deployment together with its observers, the hooks that wait, and the handles that
stores have given out. Calls of caches to stores leave marks; an observer that traces leaves marks
as well, and hooks wait for what it is told. Of the hooks that wait for a moment the earliest is
taken, once.
-/

namespace TrackedSettings

inductive Observer where
  /-- Leaves a mark for each event. -/
  | tracing
  | recording (events : Array Event)
  /-- Nobody who cares. -/
  | silent
deriving Inhabited

structure Hook where
  moment : Moment
  steps : Script

/-- A deployment in use, and what was seen of it. -/
structure Session where
  deployment : Deployment
  observers : Array Observer
  /-- The hooks that wait, the earliest first. -/
  hooks : List Hook := []
  /-- The marks left since the step began. -/
  marks : Array Mark := #[]
  /-- The grants that stores have given out, by the number of their handle. -/
  granted : Array Grant := #[]

namespace Session

def mark (s : Session) (m : Mark) : Session :=
  { s with marks := s.marks.push m }

/-- The earliest hook for a moment, and the session without it. -/
def takeHook (s : Session) (moment : Moment) : Option (Script × Session) :=
  match s.hooks.find? (·.moment = moment) with
  | none => none
  | some hook => some (hook.steps, { s with hooks := s.hooks.eraseP (·.moment = moment) })

/-! ## What caches call out -/

def number (s : Session) (call : StoreCall) (reply : call.Reply) : Session :=
  { s with granted := s.granted ++ (call.grant? reply).toArray }

/-- Leave a mark for a call, unless it only asks what the store can do. -/
def markCall (s : Session) (store : StoreId) (call : StoreCall) : Session :=
  match call with
  | .canList => s
  | _ => s.mark (.called store call)

/-- Tell the observer of a cache; `fire` runs the hook of a moment. -/
def notify (fire : Moment → Session → Session) (cache : Nat) (event : Event) (s : Session) :
    Session :=
  match s.observers[cache]? with
  | some .tracing =>
      let w := s.deployment.workspace cache
      let copy := match event.topic with
        | .key name => w.copy? name
        | .under _ => none
      fire event.moment (s.mark (.observed cache event (w.isTracked event.topic) copy))
  | some (.recording events) =>
      { s with observers := s.observers.setIfInBounds cache (.recording (events.push event)) }
  | some .silent | none => s

/-- Let the resolver of a cache look for the store. A resolver that knew it needs no looking. -/
def resolve (cache : Nat) (uri : String) (caller : Caller) (s : Session) :
    Except StoreError StoreId × Session :=
  let marked := match s.deployment.seats[cache]?.map (·.resolver) with
    | some (.planned ..) => s.mark (.resolving uri caller)
    | some (.fixed _) | none => s
  let (outcome, deployment) := marked.deployment.resolve cache
  (outcome, { marked with deployment })

def callStore (fire : Moment → Session → Session) (store : StoreId) (call : StoreCall)
    (s : Session) : call.Reply × Session :=
  let s := s.markCall store call
  let (reply, deployment) := s.deployment.callStore store call
  let s := { s with deployment }.number call reply
  match call.moment? with
  | some moment => (reply, fire moment s)
  | none => (reply, s)

def host (fire : Moment → Session → Session) (cache : Nat) : Host Session where
  workspace s := s.deployment.workspace cache
  putBack w s := { s with deployment := s.deployment.putBack cache w }
  answer call s :=
    match call with
    | .notify event => ((), notify fire cache event s)
    | .resolve uri caller => resolve cache uri caller s
    | .store store call => callStore fire store call s

/-! ## Steps -/

/-- A step on a cache's workspace that calls nobody. -/
def onWorkspace (s : Session) (cache : Nat) (step : Workspace → Workspace) : Session :=
  { s with deployment := s.deployment.change cache step }

def actOnCache (fire : Moment → Session → Session) (i : Nat) (cache : Cache) (act : CacheAct)
    (s : Session) : Outcome × Session :=
  let run {α : Type} (op : Operation α) (outcome : α → Outcome) : Outcome × Session :=
    let (a, s) := op.run (host fire i) s
    (outcome a, s)
  let w := s.deployment.workspace i
  match act with
  | .value key user => run (cache.value key user) .read
  | .listing stem names => run (cache.listing stem names) .entries
  | .named stem name => run (cache.named stem name) .value
  | .put key value user => run (cache.put key value user) .written
  | .putAll stem values user => run (cache.putAll stem values user) .written
  | .delete key user => run (cache.delete key user) .deleted
  | .reset stem user => run (cache.reset stem user) .written
  | .copy key => (.copy (w.copy? key), s)
  | .isTracked topic => (.flag (w.isTracked topic), s)
  | .clear => (.done, s.onWorkspace i fun w => w.clear.unresolve)
  | .forget topic => (.done, s.onWorkspace i (·.dropCopy topic))
  | .profile => (.profile { cache, resolved := w.store.isSome }, s)
  | .readable key => (.flag (cache.access.readable key cache.caller), s)
  | .provider caller => run (cache.provider (caller.getD cache.caller)) .found
  | .unresolve => (.done, s.onWorkspace i (·.unresolve))
  | .heard =>
      match s.observers[i]? with
      | some (.recording events) => (.heard events, s)
      | _ => (.inapplicable, s)

/-- A store's reply, with the handle in it numbered. -/
def replied (s : Session) (call : StoreCall) (r : call.Reply × Deployment) : Outcome × Session :=
  (.replied call r.1 s.granted.size, { s with deployment := r.2 }.number call r.1)

def actOnAuthority (a : Nat) (act : AuthorityAct) (s : Session) : Outcome × Session :=
  match act, s.deployment.authorities[a]? with
  | .call call, some _ => s.replied call (s.deployment.callAuthority a call)
  | .value key, some authority => (.value (authority.value key), s)
  | .generation topic, some authority =>
      (.generation (authority.generation? s.deployment.shared.slots topic), s)
  | .setup, some authority =>
      (.setup authority.capacity authority.transfer authority.defaults, s)
  | _, none => (.inapplicable, s)

/-- An act on the front of number `store`, which stands before the authoritative store `a`. -/
def actOnFlaky (store : StoreId) (front : Flaky) (a : Nat) (act : FlakyAct) (s : Session) :
    Outcome × Session :=
  let dep := s.deployment
  match act with
  | .switch change =>
      let switches := change.apply front.switches
      let stores := dep.stores.setIfInBounds store (.flaky { front with switches } a)
      (.switches switches, { s with deployment := { dep with stores } })
  | .counts => (.counts front, s)
  | .breakHandedOut =>
      (.done, { s with deployment := { dep with shared := front.breakHandedOut dep.shared } })

def actOnReplay (r : Replay) (act : ReplayAct) (s : Session) : Outcome × Session :=
  match act with
  | .board number act =>
      match r.boards[number]? with
      | none => (.inapplicable, s)
      | some view =>
          let (answer, shared) := act.perform view s.deployment.shared
          (.slot answer, { s with deployment := { s.deployment with shared } })
  | .stored => (.stored r.storedInOrder, s)

/-- An act on a store, if the store is of a kind that it applies to. -/
def actOnStore (store : StoreId) (act : StoreAct) (s : Session) : Outcome × Session :=
  match act, s.deployment.stores[store]? with
  | .call call, some _ => s.replied call (s.deployment.callStore store call)
  | .behind act, some (.plain a) | .behind act, some (.flaky _ a) => actOnAuthority a act s
  | .flaky act, some (.flaky front a) => actOnFlaky store front a act s
  | .replay act, some (.replay r) => actOnReplay r act s
  | _, _ => (.inapplicable, s)

/-- The handles that stores have given out, as they are now. -/
def handleStates (s : Session) : List HandleState :=
  s.granted.toList.map fun g =>
    { owned := g.handle.isOwned, index := g.index
      closed := s.deployment.shared.slots.isClosed g.handle.view }

/-- Carry out one instruction; `fire` runs the hook of a moment. -/
def perform (fire : Moment → Session → Session) (i : Instruction) (s : Session) :
    Outcome × Session :=
  match i with
  | .onCache cache act =>
      match s.deployment.seats[cache]? with
      | some seat => actOnCache fire cache seat.cache act s
      | none => (.inapplicable, s)
  | .onStore store act => actOnStore store act s
  | .handles => (.handles s.handleStates, s)
  | .onHandle number act =>
      match s.granted[number]? with
      | none => (.inapplicable, s)
      | some g =>
          let (answer, shared) := act.perform g.handle g.index s.deployment.shared
          (.slot answer, { s with deployment := { s.deployment with shared } })
  | .hook moment steps => (.done, { s with hooks := s.hooks ++ [{ moment, steps }] })

/-- Run the hook that waits for a moment, if there is one. Every hook that runs is gone before its
steps begin, so hooks run inside one another at most as deep as there are hooks. -/
def fire : Nat → Moment → Session → Session
  | 0, _, s => s
  | depth + 1, moment, s =>
      match s.takeHook moment with
      | none => s
      | some (steps, s) =>
          steps.foldl (fun s step =>
            let (outcome, s) := s.perform (fire depth) step
            s.mark (.nested moment outcome)) s

/-! ## Reports -/

/-- What is seen of a topic: whether the first cache tracks it and which copy it has, and which
generation it has at the first store. -/
structure Glimpse where
  tracked : Option Bool
  copy : Option Value
  generation : Option Int64

/-- Look at a topic, and change nothing. -/
def glimpse (s : Session) (topic : Topic) : Glimpse :=
  let w := s.deployment.workspace 0
  let authority := (s.deployment.authority? 0).bind (s.deployment.authorities[·]?)
  { tracked := if s.deployment.seats.isEmpty then none else some (w.isTracked topic)
    copy := match topic with
      | .key name => w.copy? name
      | .under _ => none
    generation := authority.bind (·.generation? s.deployment.shared.slots topic) }

structure Report where
  outcome : Outcome
  marks : Array Mark
  journal : Journal
  glimpses : List Glimpse

/-- The session before a step: no marks, and an empty journal. -/
def fresh (s : Session) : Session :=
  { s with
    marks := #[]
    deployment := { s.deployment with shared := { s.deployment.shared with journal := #[] } } }

/-- Run a script, and report each step together with what is then seen of the watched topics. -/
def run (script : Script) (watched : List Topic) (start : Session) : List Report :=
  let depth := scriptHookCount script
  let (reports, _) := script.foldl (fun (reports, s) step =>
    let (outcome, s) := s.fresh.perform (fire depth) step
    let report : Report :=
      { outcome, marks := s.marks, journal := s.deployment.shared.journal
        glimpses := watched.map s.glimpse }
    (reports.push report, s)) ((#[] : Array Report), start)
  reports.toList

end Session

end TrackedSettings
