import TrackedSettings.Key

/-! # What a tracker watches

A topic is one key, or every key that begins with a stem. A key and a stem with the same text are
different topics.
-/

namespace TrackedSettings

/-- The part of the settings that one generation stands for. -/
inductive Topic where
  | key (name : String)
  /-- Every key that begins with `stem`. -/
  | under (stem : String)
deriving DecidableEq, Repr, Inhabited

namespace Topic

def text : Topic → String
  | key name => name
  | under stem => stem

def isStem : Topic → Bool
  | key _ => false
  | under _ => true

def describe : Topic → String
  | key name => "key '" ++ name ++ "'"
  | under stem => "prefix '" ++ stem ++ "'"

/-- A change of `changed` concerns this topic. -/
def covers : Topic → String → Bool
  | key name, changed => name == changed
  | under stem, changed => beginsWith stem changed

/-- Keys come before stems, and each kind is ordered by its text. -/
instance : Ord Topic := ⟨compareLex (compareOn isStem) (compareOn text)⟩

instance : Std.TransOrd Topic :=
  inferInstanceAs (Std.TransCmp (compareLex (compareOn isStem) (compareOn text)))

instance : Std.LawfulEqOrd Topic where
  compare_self := Std.ReflCmp.compare_self
  eq_of_compare {a b} h := by
    have both : compare a.isStem b.isStem = .eq ∧ compare a.text b.text = .eq := by
      simpa only [compare, compareLex_eq_eq, compareOn] using h
    have kind := Std.LawfulEqOrd.eq_of_compare both.1
    have same := Std.LawfulEqOrd.eq_of_compare both.2
    cases a <;> cases b <;> simp_all [isStem, text]

end Topic

end TrackedSettings
