import TrackedSettings.Journal
import TrackedSettings.Slots.Basic

/-! # What all parties share

Caches and stores share the boards of slots, and they note what they do in one journal.
-/

namespace TrackedSettings

structure Shared where
  slots : Slots := {}
  journal : Journal := #[]
deriving DecidableEq, Repr, Inhabited

namespace Shared

def note (s : Shared) (level : Level) (text : String) : Shared :=
  { s with journal := s.journal.push { level, text } }

def close (s : Shared) (v : View) : Shared :=
  { s with slots := s.slots.close v }

@[simp] theorem note_slots (s : Shared) (level : Level) (text : String) :
    (s.note level text).slots = s.slots := rfl

end Shared

end TrackedSettings
