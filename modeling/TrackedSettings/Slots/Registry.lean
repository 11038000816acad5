import TrackedSettings.Slots.Handle
import TrackedSettings.Topic

/-! # Slots by topic

The store's side of the books. A topic gets a slot the first time somebody asks to track it, in
order of arrival, and keeps it. When a key changes, the slot of every topic that covers it moves
on. Once the board is full, new topics are served without a slot.
-/

namespace TrackedSettings

/-- How a store hands out its board. -/
inductive Transfer where
  /-- Readers get a duplicate of their own. -/
  | duplicate
  /-- Readers get the store's own view. -/
  | reference
deriving DecidableEq, Repr, Inhabited

/-- The topics that have a slot on a store's board. -/
structure Registry where
  /-- The store's own view of the board. -/
  backing : View
  /-- The topics that have a slot. A topic's slot is its place in the list. -/
  topics : List Topic := []
deriving DecidableEq, Repr, Inhabited

namespace Registry

/-- How many slots there are unless something else is asked for. -/
def defaultCapacity : Nat := 256

/-- A registry with a board of its own. -/
def create (capacity : Nat) (s : Shared) : Registry × Shared :=
  let (backing, slots) := s.slots.create capacity
  ({ backing }, { s with slots })

def capacity (r : Registry) (m : Slots) : Nat :=
  m.length r.backing

def tracked (r : Registry) : Nat :=
  r.topics.length

def index? (r : Registry) (topic : Topic) : Option Nat :=
  r.topics.idxOf? topic

def generation? (r : Registry) (m : Slots) (topic : Topic) : Option Int64 :=
  (r.index? topic).bind fun index => (m.read r.backing index).toOption

/-- Give the topic a slot if it has none and the board has room. -/
def allot (r : Registry) (topic : Topic) (s : Shared) : Option Nat × Registry × Shared :=
  match r.index? topic with
  | some index => (some index, r, s)
  | none =>
      if r.tracked < r.capacity s.slots then
        (some r.tracked, { r with topics := r.topics ++ [topic] }, s)
      else
        (none, r, s.note .warn s!"Generation array exhausted, {topic.describe} stays untracked")

/-- Leave to watch the slot `index`, if the board can be read. -/
def grant (r : Registry) (index : Nat) (transfer : Transfer) (s : Shared) : Option Grant × Shared :=
  match s.slots.read r.backing index with
  | .error _ => (none, s)
  | .ok generation =>
      match transfer with
      | .duplicate =>
          let (view, slots) := s.slots.duplicate r.backing
          (some { handle := .owned view, index, generation }, { s with slots })
      | .reference => (some { handle := .borrowed r.backing, index, generation }, s)

/-- Leave to watch a topic, which gets a slot if need be. -/
def track (r : Registry) (topic : Topic) (transfer : Transfer) (s : Shared) :
    Option Grant × Registry × Shared :=
  match r.allot topic s with
  | (none, r, s) => (none, r, s)
  | (some index, r, s) =>
      let (g, s) := r.grant index transfer s
      (g, r, s)

def advance (r : Registry) (s : Shared) (topic : Topic) (index : Nat) : Shared :=
  match s.slots.increment r.backing index with
  | .ok slots => { s with slots }
  | .error e => s.note .error s!"Failed to bump generation of {topic.describe}: {e.message}"

/-- Record that `key` changed: every topic that covers it moves on. -/
def bump (r : Registry) (key : String) (s : Shared) : Shared :=
  r.topics.zipIdx.foldl
    (fun s (topic, index) => if topic.covers key then r.advance s topic index else s) s

end Registry

end TrackedSettings
