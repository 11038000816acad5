import TrackedSettings.Cache.Basic

/-! # Writing

Writes go straight to the store. The cache is left alone: the store moves the generations, and the
next read finds out.
-/

namespace TrackedSettings.Cache

open Operation

def submit {α : Type} (c : Cache) (call : StoreCall) (result : call.Reply → Except StoreError α) :
    Operation (Except Fault α) := do
  match ← c.provider c.caller with
  | .error fault => return .error fault
  | .ok store => return (result (← ask (.store store call))).mapError fun e => .remote (.store e)

def put (c : Cache) (key : String) (value : Value) (user : UserId) :
    Operation (Except Fault Unit) := do
  c.note .debug s!"PUT({key})"
  c.submit (.put key value user) id

/-- Delete a key. The answer says whether there was an entry. -/
def delete (c : Cache) (key : String) (user : UserId) : Operation (Except Fault Bool) := do
  c.note .debug s!"DELETE({key})"
  c.submit (.delete key user) id

/-- Put several names under one stem in one call. -/
def putAll (c : Cache) (stem : String) (values : Entries) (user : UserId) :
    Operation (Except Fault Unit) := do
  c.note .debug s!"PUT_ALL({stem}); count={values.size}"
  c.submit (.putAll stem values user) id

/-- Restore the defaults under a stem, or all of them. -/
def reset (c : Cache) (stem : Option String) (user : UserId) :
    Operation (Except Fault Unit) := do
  let what := stem.getD "everything"
  c.note .info s!"Resetting {what} to defaults"
  c.submit (.reset stem user) id

end TrackedSettings.Cache
