import TrackedSettings.Cache.Standing

/-! # Reading under a stem

The store is asked for everything under the stem, and all of it is kept, so that any names are
answered later from the one copy. A store that cannot list, or fails to, answers with nothing.
-/

namespace TrackedSettings

/-- The entries asked for: those of `names`, or all but the empty name if no names are given. -/
def Entries.choose (names : List String) (t : Entries) : Entries :=
  if names.isEmpty then t.erase emptyName else t.pick names

namespace Cache

open Operation

/-- Keep a listing, and note how many names it has. -/
def keepListing (c : Cache) (stem : String) (all : Entries) (w : Workspace) : Workspace :=
  (c.jot .trace s!"CACHE({stem}); count={all.size}" w).keepListing stem all

def fetchListing (c : Cache) (store : StoreId) (stem : String) (names : List String)
    (footing : Footing) : Operation Entries := do
  notify (.fetch (.under stem))
  let request := { user := c.caller.user, tracked := footing.wantsGrant }
  match ← ask (.store store (.list stem request)) with
  | .ok (some listing) =>
      let all := listing.entries.strip stem
      c.receive (.under stem) footing listing.grant (c.keepListing stem all)
      return all.choose names
  | .ok none =>
      c.note .debug ("Listing of '" ++ stem ++ "' is not supported")
      return ∅
  | .error e =>
      c.remoteError (.under stem) (.remote (.store e))
      return ∅

def listing (c : Cache) (stem : String) (names : List String) : Operation Entries := do
  c.note .debug s!"GET_PREFIX({stem}); names={names.length}"
  let copy (copies : Copies) : Option Entries := copies.listings[stem]?.map (·.choose names)
  match ← c.standing (!c.caller.atStore) (.under stem) copy with
  | .answered entries =>
      c.note .trace s!"HIT({stem})"
      notify (.hit (.under stem))
      return entries
  | .pending footing =>
      match ← c.provider c.caller with
      | .error fault =>
          c.remoteError (.under stem) fault
          return ∅
      | .ok store =>
          if ← ask (.store store .canList) then c.fetchListing store stem names footing
          else
            c.note .debug "Store can't list prefixes"
            return ∅

def named (c : Cache) (stem name : String) : Operation Value := do
  return (← c.listing stem [name]).value name

end Cache

end TrackedSettings
