/-! # Keys, stems and names

A setting is addressed by a key, which is plain text. A *stem* is text that keys may begin with, and
the *name* of a key under a stem is what the key adds to it. Texts are compared character by
character, by code point, without normalization.
-/

namespace TrackedSettings

def beginsWith (stem key : String) : Bool :=
  stem.toList.isPrefixOf key.toList

/-- What `key` adds to `stem`, if it begins with it. -/
def nameUnder? (stem key : String) : Option String :=
  if beginsWith stem key then some (String.ofList (key.toList.drop stem.toList.length)) else none

theorem beginsWith_iff {stem key : String} :
    beginsWith stem key = true ↔ ∃ name, key = stem ++ name := by
  rw [beginsWith, List.isPrefixOf_iff_prefix]
  constructor
  · rintro ⟨rest, h⟩
    refine ⟨String.ofList rest, String.toList_inj.mp ?_⟩
    simp [← h]
  · rintro ⟨name, rfl⟩
    simp

/-- A key is the stem followed by the name it has under the stem, and nothing else has a name. -/
theorem nameUnder?_eq_some_iff {stem key name : String} :
    nameUnder? stem key = some name ↔ key = stem ++ name := by
  unfold nameUnder?
  split
  · next h =>
    obtain ⟨rest, rfl⟩ := beginsWith_iff.mp h
    simp [String.append_right_inj]
  · next h =>
    simp only [reduceCtorEq, false_iff]
    intro same
    exact h (beginsWith_iff.mpr ⟨name, same⟩)

end TrackedSettings
