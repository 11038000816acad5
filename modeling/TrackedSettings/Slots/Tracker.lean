import TrackedSettings.Slots.Handle
import TrackedSettings.Topic

/-! # Trackers

A tracker watches one slot for one topic. It remembers the generation it saw last and tells whether
the slot holds another one.
-/

namespace TrackedSettings

structure Tracker where
  topic : Topic
  handle : Handle
  index : Nat
  /-- The generation seen last. -/
  generation : Int64
  destroyed : Bool := false
deriving DecidableEq, Repr, Inhabited

namespace Tracker

/-- A tracker that has seen what its grant says. -/
def ofGrant (topic : Topic) (g : Grant) : Tracker :=
  { topic, handle := g.handle, index := g.index, generation := g.generation }

/-- The generation in the slot. A destroyed tracker sees none. -/
def look (t : Tracker) (m : Slots) : Except SlotError Int64 :=
  if t.destroyed then .error .closed else m.read t.handle.view t.index

/-- Whether the slot holds another generation than the one seen last. The new one is remembered. -/
def check (t : Tracker) (s : Shared) : Except SlotError Bool × Tracker × Shared :=
  match t.look s.slots with
  | .error e => (.error e, t, s)
  | .ok generation =>
      if generation = t.generation then (.ok false, t, s)
      else
        let text :=
          s!"Generation of {t.topic.describe} moved from {t.generation} to {generation}"
        (.ok true, { t with generation }, s.note .trace text)

/-- Give up the slot; only the first time does anything. -/
def destroy (t : Tracker) (s : Shared) : Tracker × Shared :=
  if t.destroyed then (t, s) else ({ t with destroyed := true }, t.handle.release s)

end Tracker

end TrackedSettings
