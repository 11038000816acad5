import TrackedSettings.Entries
import TrackedSettings.Slots.Tracker

/-! # What a cache works on

A cache keeps copies of values and of listings, and the trackers that vouch for them: a copy may be
served while the tracker of its topic reads the generation that it came with. A tracker that reads
another one, or nothing at all, goes together with the copy that it vouches for.

Every function here is one step: nobody else sees the workspace between its parts.
-/

namespace TrackedSettings

/-- Stores are known by number. -/
abbrev StoreId := Nat

/-- The name that every kept listing has an entry for, without a value. -/
def emptyName : String := ""

/-- What a cache keeps. -/
structure Copies where
  /-- The value of each kept key; an entry without a value is a key known not to be set. -/
  values : Entries := ∅
  /-- The whole listing of each kept stem, by name. -/
  listings : Std.ExtTreeMap String Entries := ∅
  trackers : Std.ExtTreeMap Topic Tracker := ∅
deriving Inhabited

/-- A cache's copies, the store that it found, and what it shares with all others. -/
structure Workspace where
  copies : Copies := {}
  store : Option StoreId := none
  shared : Shared := {}
deriving Inhabited

/-- What a look at a topic's tracker shows. -/
inductive Verdict where
  /-- The slot still holds the generation that the tracker saw last. -/
  | current (generation : Int64)
  /-- The slot holds another generation. The tracker and its copy are gone. -/
  | moved
  /-- The slot could not be read. The tracker and its copy are gone. -/
  | broken (error : SlotError)
  | absent
deriving DecidableEq, Repr, Inhabited

namespace Workspace

def note (w : Workspace) (level : Level) (text : String) : Workspace :=
  { w with shared := w.shared.note level text }

def isTracked (w : Workspace) (topic : Topic) : Bool :=
  w.copies.trackers.contains topic

/-- The copy of a key's value, if there is one, whatever its tracker would say. -/
def copy? (w : Workspace) (key : String) : Option Value :=
  w.copies.values[key]?

/-- Drop the copy of a topic, and keep its tracker. -/
def dropCopy (w : Workspace) : Topic → Workspace
  | .key name => { w with copies := { w.copies with values := w.copies.values.erase name } }
  | .under stem => { w with copies := { w.copies with listings := w.copies.listings.erase stem } }

/-- Take a topic's tracker out and destroy it. -/
def dropTracker (w : Workspace) (topic : Topic) : Workspace :=
  match w.copies.trackers[topic]? with
  | none => w
  | some tracker =>
      { w with
        copies := { w.copies with trackers := w.copies.trackers.erase topic }
        shared := (tracker.destroy w.shared).2 }

/-- Drop the tracker of a topic and the copy that it vouches for. -/
def evict (w : Workspace) (topic : Topic) : Workspace :=
  (w.dropTracker topic).dropCopy topic

/-- Look at the tracker of a topic, and evict the topic unless the tracker is current. -/
def validate (w : Workspace) (topic : Topic) : Verdict × Workspace :=
  match w.copies.trackers[topic]? with
  | none => (.absent, w)
  | some tracker =>
      match tracker.check w.shared with
      | (.ok false, _, _) => (.current tracker.generation, w)
      | (.ok true, _, shared) => (.moved, evict { w with shared } topic)
      | (.error e, _, _) =>
          let text := s!"Generation tracker of {topic.describe} failed, evicting: {e.message}"
          (.broken e, (w.note .warn text).evict topic)

/-- Put a tracker in the place of its topic's old one, which is destroyed first, and look at it. -/
def install (w : Workspace) (tracker : Tracker) : Verdict × Workspace :=
  let w := w.dropTracker tracker.topic
  let trackers := w.copies.trackers.insert tracker.topic tracker
  validate { w with copies := { w.copies with trackers } } tracker.topic

/-- An evicted topic has neither a tracker nor a copy. -/
@[simp] theorem trackers_evict (w : Workspace) (topic : Topic) :
    (w.evict topic).copies.trackers[topic]? = none := by
  have dropped : (w.dropTracker topic).copies.trackers[topic]? = none := by
    unfold dropTracker
    split
    · assumption
    · simp
  cases topic <;> simpa [evict, dropCopy] using dropped

@[simp] theorem values_evict_key (w : Workspace) (name : String) :
    (w.evict (.key name)).copies.values[name]? = none := by
  simp [evict, dropCopy]

@[simp] theorem listings_evict_under (w : Workspace) (stem : String) :
    (w.evict (.under stem)).copies.listings[stem]? = none := by
  simp [evict, dropCopy]

/-- Drop all copies and destroy all trackers. -/
def clear (w : Workspace) : Workspace :=
  { w with
    copies := {}
    shared := w.copies.trackers.toList.foldl (fun s e => (e.2.destroy s).2) w.shared }

def unresolve (w : Workspace) : Workspace :=
  { w with store := none }

/-- Give a handle back that nobody is going to watch. -/
def release (w : Workspace) (h : Handle) : Workspace :=
  { w with shared := h.release w.shared }

def keepValue (w : Workspace) (key : String) (value : Value) : Workspace :=
  { w with copies := { w.copies with values := w.copies.values.insert key value } }

/-- Keep the whole listing of a stem, with the empty name in it. -/
def keepListing (w : Workspace) (stem : String) (all : Entries) : Workspace :=
  let listings := w.copies.listings.insert stem (all.insert emptyName none)
  { w with copies := { w.copies with listings } }

end Workspace

end TrackedSettings
