import TrackedSettings.Cache.Basic
import TrackedSettings.Text.Quoted

/-! # A cache in one line

A cache is described by its name, its store and its caller, each record written with the names of
its fields in braces.
-/

namespace TrackedSettings

def recordText (kind : String) (fields : List (String × String)) : String :=
  kind ++ " \x7b " ++ ", ".intercalate (fields.map fun (name, value) => name ++ ": " ++ value) ++
    " \x7d"

def flagText (b : Bool) : String :=
  if b then "true" else "false"

def Caller.summary (c : Caller) : String :=
  recordText "CallerContext"
    [("user_id", toString c.user), ("is_store_host", flagText c.atStore),
      ("restricted_reads", flagText c.granted)]

def Cache.summary (c : Cache) (resolved : Bool) : String :=
  let store := recordText "RemoteStoreHandle"
    [("uri", Text.quoted c.uri), ("resolved", flagText resolved)]
  recordText "SettingsCache"
    [("name", Text.quoted c.label), ("store", store), ("context", c.caller.summary)]

end TrackedSettings
