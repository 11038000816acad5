import Std.Data.ExtTreeMap
import TrackedSettings.Key

/-! # Tables of settings

A table holds entries in the order of their keys. A key may be in the table and have no value, which
differs from not being there.

The keys that begin with a stem stand together, so a scan that starts at the stem and stops at the
first key that does not begin with it finds them all.
-/

namespace TrackedSettings

abbrev Value := Option String

/-- A table from keys, or from names under a stem, to values. -/
abbrev Entries := Std.ExtTreeMap String Value

namespace Entries

/-- The value of a key; a key without an entry has none. -/
def value (t : Entries) (key : String) : Value :=
  t[key]?.join

/-- The entries whose key begins with `stem`, found by a scan of the ordered keys that starts at the
first key not smaller than the stem and stops at the first that does not begin with it. -/
def scan (stem : String) (t : Entries) : Entries :=
  .ofList ((t.toList.dropWhile fun e => e.1 < stem).takeWhile fun e => beginsWith stem e.1)

/-- The entries under `stem` by name; entries that do not begin with it are left out. -/
def strip (stem : String) (t : Entries) : Entries :=
  .ofList (t.toList.filterMap fun e => (nameUnder? stem e.1).map (·, e.2))

/-- The entries with one of `names`, without those that the table does not have. -/
def pick (names : List String) (t : Entries) : Entries :=
  .ofList (names.filterMap fun name => t[name]?.map (name, ·))

end Entries

end TrackedSettings
