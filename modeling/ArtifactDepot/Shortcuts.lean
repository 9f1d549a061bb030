import ArtifactDepot.Pool

/-!
# Shortcuts

One operation on one path, without a pool to keep: the path is resolved by a
pool of its own on the default keyring, the operation is run, and the pool is
closed whatever the outcome.
-/

namespace ArtifactDepot.Shortcuts

open ArtifactDepot.Action

/-- Run an action, then close the pool, then go on as the action ended. -/
def closing {α : Type} (pool : Pool) (action : Action α) : Action α := do
  let result ← outcome action
  discard pool.close
  match result with
  | .ok value => return value
  | .error failure => throw failure

/-- Run an operation of the backend that serves a path. -/
def serving {α : Type} (path : Text) (operation : Kind → Action α) : Action α := do
  let pool ← Pool.create none []
  let backend ← pool.resolve path
  closing pool (operation backend.kind)

/-- Run an operation of a backend of a kind. -/
def servingKind {α : Type} (kind : Kind) (operation : Kind → Action α) : Action α := do
  let pool ← Pool.create none []
  let backend ← pool.resolveForKind kind
  closing pool (operation backend.kind)

/-- A hidden file's name starts with a point. -/
def isHidden (name : Text) : Bool := ['.'].isPrefixOf name

/-- The names of the files in a directory, hidden ones left out if `skipHidden`. -/
def files (path : Text) (skipHidden : Bool) : Action Names := do
  let names ← serving path (Backend.files · path)
  return if skipHidden then names.filter (fun name => !isHidden name) else names

/-- Make a temporary directory on a backend of a kind. -/
def makeTemporary (kind : Kind) : Action Text := servingKind kind Backend.makeTemporary

/-- A local path that holds the content of the directory at a path. -/
def localize (path : Text) : Action LocalDirectory := serving path (Backend.localize · path)

end ArtifactDepot.Shortcuts
