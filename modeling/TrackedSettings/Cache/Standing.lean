import TrackedSettings.Cache.Basic

/-! # Where a read stands

A read first looks whether a copy can answer it. If not, what the tracker said decides what the read
may keep of the store's answer: with a grant of its own, data are kept under a new tracker; without
one, they are kept only if the tracker that was current before the fetch still is and has seen the
same generation.

The observer hears of a stale or broken tracker after the step that found it.
-/

namespace TrackedSettings

/-- What a read that has to ask the store knows before it asks. -/
inductive Footing where
  /-- A current tracker without a copy. -/
  | vouched (generation : Int64)
  /-- No tracker, or no longer. -/
  | untracked
  /-- Copies are not kept for this read. -/
  | outside
deriving DecidableEq, Repr, Inhabited

/-- Only a read that could keep a copy and has no tracker asks for one. -/
def Footing.wantsGrant : Footing → Bool
  | untracked => true
  | vouched _ | outside => false

/-- How a read begins. -/
inductive Standing (α : Type) where
  /-- A copy that a current tracker vouches for answers it. -/
  | answered (data : α)
  /-- The store has to be asked. -/
  | pending (footing : Footing)

/-- Look at a topic's tracker and, if it is current, at the copy. -/
def Workspace.consult {α : Type} (topic : Topic) (copy : Copies → Option α) (w : Workspace) :
    (Verdict × Option α) × Workspace :=
  match w.validate topic with
  | (.current generation, w) => ((.current generation, copy w.copies), w)
  | (verdict, w) => ((verdict, none), w)

/-- Save fetched data under a new tracker if that is current. -/
def Workspace.saveUnder (tracker : Tracker) (save : Workspace → Workspace) (w : Workspace) :
    Verdict × Workspace :=
  match w.install tracker with
  | (.current generation, w) => (.current generation, save w)
  | (verdict, w) => (verdict, w)

/-- Save fetched data under the tracker in place if that has seen `generation` and is current. -/
def Workspace.saveAt (topic : Topic) (generation : Int64) (save : Workspace → Workspace)
    (w : Workspace) : Verdict × Workspace :=
  match w.validate topic with
  | (.current now, w) => (.current now, if now = generation then save w else w)
  | (verdict, w) => (verdict, w)

namespace Cache

open Operation

/-- Tell the observer what a look at a tracker showed. -/
def report (c : Cache) (topic : Topic) : Verdict → Operation Unit
  | .moved => do
      c.note .debug s!"STALE({topic.describe})"
      notify (.stale topic)
  | .broken e => notify (.trackerError topic e)
  | .current _ | .absent => pure ()

/-- Whether a copy answers a read of `topic`; `keeps` says whether copies are kept for the read. -/
def standing {α : Type} (c : Cache) (keeps : Bool) (topic : Topic) (copy : Copies → Option α) :
    Operation (Standing α) := do
  if keeps then
    let (verdict, data) ← locked (Workspace.consult topic copy)
    c.report topic verdict
    match verdict, data with
    | .current _, some data => return .answered data
    | .current generation, none => return .pending (.vouched generation)
    | _, _ => return .pending .untracked
  else return .pending .outside

/-- Install the tracker of a grant, and save the data that came with it if that is current. -/
def saveGranted (c : Cache) (topic : Topic) (grant : Grant) (save : Workspace → Workspace) :
    Operation Unit := do
  match ← locked (Workspace.saveUnder (.ofGrant topic grant) save) with
  | .moved => c.note .debug s!"Generation of {topic.describe} moved during fetch"
  | .broken e => notify (.trackerError topic e)
  | .current _ | .absent => pure ()

/-- Save data that came without a grant, if the tracker that vouched before the fetch still does. -/
def saveVouched (c : Cache) (topic : Topic) (generation : Int64) (save : Workspace → Workspace) :
    Operation Unit := do
  let verdict ← locked (Workspace.saveAt topic generation save)
  c.report topic verdict

/-- Do with a store's answer what the read's footing allows. -/
def receive (c : Cache) (topic : Topic) (footing : Footing) (grant : Option Grant)
    (save : Workspace → Workspace) : Operation Unit :=
  match footing, grant with
  | .outside, some g => change (·.release g.handle)
  | .outside, none => pure ()
  | _, some g => c.saveGranted topic g save
  | .vouched generation, none => c.saveVouched topic generation save
  | .untracked, none => pure ()

end Cache

end TrackedSettings
