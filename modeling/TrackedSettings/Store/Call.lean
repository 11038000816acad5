import TrackedSettings.Caller
import TrackedSettings.Entries
import TrackedSettings.Error
import TrackedSettings.Slots.Handle

/-! # Calls to a store

A store is known by the calls that it answers. Each kind of call has its own kind of reply. A reader
asks for one key by the fast call, which can bring a grant along, or by a plain query; it asks for
everything under a stem by a listing.
-/

namespace TrackedSettings

/-- For whom a read is, and whether a grant is wanted with the answer. -/
structure ReadRequest where
  user : UserId
  tracked : Bool := false
deriving DecidableEq, Repr, Inhabited

/-- Answer to the fast call. -/
structure Reading where
  value : Value
  grant : Option Grant := none
deriving DecidableEq, Repr, Inhabited

/-- Answer to a listing, by full keys. -/
structure Listing where
  entries : Entries
  grant : Option Grant := none
deriving Inhabited

inductive StoreCall where
  /-- The fast read of a key. A store that does not know this call answers with nothing. -/
  | get (key : String) (request : ReadRequest)
  | query (key : String) (request : ReadRequest)
  | canList
  /-- Everything under a stem. A store that cannot list this answers with nothing. -/
  | list (stem : String) (request : ReadRequest)
  | put (key : String) (value : Value) (user : UserId)
  /-- Several names under one stem at once. -/
  | putAll (stem : String) (values : Entries) (user : UserId)
  /-- The answer says whether there was an entry. -/
  | delete (key : String) (user : UserId)
  /-- Restore the defaults under a stem, or all of them. -/
  | reset (stem : Option String) (user : UserId)

/-- The plain way to put several names under one stem: one put after the other, up to the first that
fails. -/
def putEach {σ : Type} (put : String → Value → σ → Except StoreError Unit × σ) (stem : String) :
    List (String × Value) → σ → Except StoreError Unit × σ
  | [], s => (.ok (), s)
  | (name, value) :: rest, s =>
      match put (stem ++ name) value s with
      | (.ok (), s) => putEach put stem rest s
      | (.error e, s) => (.error e, s)

/-- What a store answers to a call. -/
@[reducible] def StoreCall.Reply : StoreCall → Type
  | get .. => Except StoreError (Option Reading)
  | query .. => Except StoreError Value
  | canList => Bool
  | list .. => Except StoreError (Option Listing)
  | put .. => Except StoreError Unit
  | putAll .. => Except StoreError Unit
  | delete .. => Except StoreError Bool
  | reset .. => Except StoreError Unit

def StoreCall.grant? : (call : StoreCall) → call.Reply → Option Grant
  | get .., .ok (some reading) => reading.grant
  | list .., .ok (some listing) => listing.grant
  | _, _ => none

end TrackedSettings
