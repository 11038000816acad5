import TrackedSettings.Cache.Operation

/-! # Carrying an operation out

A host keeps the workspace of one cache, and answers what the cache calls out. Whatever else it does
while it answers is what comes between the cache's steps.
-/

namespace TrackedSettings

/-- Who keeps a cache's workspace and answers its calls. -/
structure Host (σ : Type) where
  workspace : σ → Workspace
  putBack : Workspace → σ → σ
  answer : (call : Outcall) → σ → call.Reply × σ

/-- Carry an operation in progress to its end. -/
def Progress.run {σ α : Type} (host : Host σ) : Progress α → σ → α × σ
  | finished answer w, s => (answer, host.putBack w s)
  | waiting call w resume, s =>
      let (reply, s) := host.answer call (host.putBack w s)
      (resume reply (host.workspace s)).run host s

def Operation.run {σ α : Type} (op : Operation α) (host : Host σ) (s : σ) : α × σ :=
  (op (host.workspace s)).run host s

end TrackedSettings
