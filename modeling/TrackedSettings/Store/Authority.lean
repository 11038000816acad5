import TrackedSettings.Slots.Registry
import TrackedSettings.Store.Call

/-! # The authoritative store

It keeps the settings in memory, knows the defaults, and keeps the generations of the topics that
readers track. Whatever it does to its entries is a list of changes, each to one key, and each
change bumps the key's generations once.
-/

namespace TrackedSettings

/-- One key's new entry, or its removal. -/
structure Change where
  key : String
  /-- The entry afterwards; none removes the key. -/
  entry : Option Value
deriving DecidableEq, Repr, Inhabited

def Change.apply (c : Change) (t : Entries) : Entries :=
  match c.entry with
  | some value => t.insert c.key value
  | none => t.erase c.key

/-- The settings, their defaults, and the generations of the tracked topics. -/
structure Authority where
  capacity : Nat
  transfer : Transfer
  defaults : Std.ExtTreeMap String String
  entries : Entries
  registry : Registry
deriving Inhabited

namespace Authority

def create (capacity : Nat) (transfer : Transfer) (defaults : Std.ExtTreeMap String String)
    (s : Shared) : Authority × Shared :=
  let (registry, s) := Registry.create capacity s
  ({ capacity, transfer, defaults, entries := defaults.map fun _ text => some text, registry }, s)

def value (a : Authority) (key : String) : Value :=
  a.entries.value key

/-- The generation of a topic that somebody tracks. -/
def generation? (a : Authority) (m : Slots) (topic : Topic) : Option Int64 :=
  a.registry.generation? m topic

/-! ## Changes -/

def write (a : Authority) (changes : List Change) (s : Shared) : Authority × Shared :=
  ({ a with entries := changes.foldl (fun t c => c.apply t) a.entries },
    changes.foldl (fun s c => a.registry.bump c.key s) s)

def putAllChanges (stem : String) (values : Entries) : List Change :=
  values.toList.map fun (name, value) => { key := stem ++ name, entry := some value }

/-- Only a key that has an entry is changed by its removal. -/
def deleteChanges (a : Authority) (key : String) : List Change :=
  if a.entries.contains key then [{ key, entry := none }] else []

/-- Remove what is no default, then write the defaults that are not in place. -/
def resetChanges (a : Authority) (stem : String) : List Change :=
  let stale := a.entries.keys.filter fun key => beginsWith stem key && !a.defaults.contains key
  let missing := a.defaults.toList.filter fun (key, text) =>
    beginsWith stem key && a.value key != some text
  stale.map (fun key => { key, entry := none }) ++
    missing.map (fun (key, text) => { key, entry := some (some text) })

/-! ## Calls -/

/-- A grant for `topic`, if the request wants one and there is a slot for it. -/
def track (a : Authority) (topic : Topic) (request : ReadRequest) (s : Shared) :
    Option Grant × Authority × Shared :=
  if request.tracked then
    let (grant, registry, s) := a.registry.track topic a.transfer s
    (grant, { a with registry }, s)
  else (none, a, s)

def get (a : Authority) (key : String) (request : ReadRequest) (s : Shared) :
    Reading × Authority × Shared :=
  let (grant, b, s) := a.track (.key key) request s
  ({ value := a.value key, grant }, b, s)

def list (a : Authority) (stem : String) (request : ReadRequest) (s : Shared) :
    Listing × Authority × Shared :=
  let (grant, b, s) := a.track (.under stem) request s
  ({ entries := a.entries.scan stem, grant }, b, s)

def put (a : Authority) (key : String) (value : Value) (s : Shared) : Authority × Shared :=
  a.write [{ key, entry := some value }] s

/-- Answer a call. This store never fails. -/
def answer (a : Authority) (call : StoreCall) (s : Shared) : call.Reply × Authority × Shared :=
  match call with
  | .get key request =>
      let (reading, a, s) := a.get key request s
      (.ok (some reading), a, s)
  | .query key _ => (.ok (a.value key), a, s)
  | .canList => (true, a, s)
  | .list stem request =>
      let (listing, a, s) := a.list stem request s
      (.ok (some listing), a, s)
  | .put key value _ => (.ok (), a.put key value s)
  | .putAll stem values _ => (.ok (), a.write (putAllChanges stem values) s)
  | .delete key _ => (.ok (a.entries.contains key), a.write (a.deleteChanges key) s)
  | .reset stem _ => (.ok (), a.write (a.resetChanges (stem.getD "")) s)

end Authority

end TrackedSettings
