import TrackedSettings.Cache.Standing

/-! # Reading one key

A copy answers if it can. Otherwise the caller must be allowed to read the key; then the store is
asked by the fast call and, if that brings nothing, by a plain query.
-/

namespace TrackedSettings.Cache

open Operation

def keepValue (c : Cache) (key suffix : String) (value : Value) (w : Workspace) : Workspace :=
  (c.jot .trace s!"CACHE({key}){suffix}" w).keepValue key value

/-- Ask the store by a plain query. The answer comes without a grant, so it is kept only on the word
of a tracker that was current before. -/
def queryValue (c : Cache) (store : StoreId) (key : String) (user : UserId) (footing : Footing) :
    Operation Value := do
  match ← ask (.store store (.query key { user })) with
  | .ok value =>
      match footing with
      | .vouched generation =>
          c.saveVouched (.key key) generation (c.keepValue key " from query" value)
      | .untracked | .outside => pure ()
      return value
  | .error e =>
      c.remoteError (.key key) (.remote (.store e))
      return none

/-- Ask the store. No value is also the answer if nobody can be asked. -/
def fetchValue (c : Cache) (key : String) (user : UserId) (footing : Footing) :
    Operation Value := do
  match ← c.provider c.caller with
  | .error fault =>
      c.remoteError (.key key) fault
      return none
  | .ok store =>
      notify (.fetch (.key key))
      match ← ask (.store store (.get key { user, tracked := footing.wantsGrant })) with
      | .ok (some reading) =>
          c.receive (.key key) footing reading.grant (c.keepValue key "" reading.value)
          return reading.value
      | .ok none =>
          c.note .debug ("Fast read is not available, querying '" ++ key ++ "'")
          c.queryValue store key user footing
      | .error e =>
          c.remoteError (.key key) (.remote (.store e))
          c.queryValue store key user footing

/-- The value of a key, read for `user`. The only failure is that the caller may not read it. -/
def value (c : Cache) (key : String) (user : UserId) : Operation (Except Fault Value) := do
  c.note .debug s!"GET({key})"
  match ← c.standing (c.keepsFor user) (.key key) (·.values[key]?) with
  | .answered value =>
      c.note .trace s!"HIT({key})"
      notify (.hit (.key key))
      return .ok value
  | .pending footing =>
      if c.access.readable key c.caller then .ok <$> c.fetchValue key user footing
      else return .error (.denied key)

end TrackedSettings.Cache
