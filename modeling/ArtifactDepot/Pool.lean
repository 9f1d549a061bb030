import ArtifactDepot.Keyring.Loading
import ArtifactDepot.Replica
import ArtifactDepot.Kind.Choice

/-!
# Pools

A pool resolves paths and kinds to backends.  It chooses the kind, picks the
credential, builds the backend and probes it; an attempt that fails for
want of a credential or because of the backend is repeated once, with the
credential document read anew.  At most one backend of each kind is held:
the next one takes its place, and it is closed after that.
-/

namespace ArtifactDepot

open ArtifactDepot.Action

/-- A pool: its number, its keyring, and its scripted factories. -/
structure Pool where
  number : Nat
  keyring : Nat
  scripts : List (Kind × Nat) := []

namespace Pool

/-- The backends that a pool holds on a site. -/
def held (pool : Pool) (site : Site) : Held := site.holdings.held pool.number

/-- Hold these backends from now on. -/
def hold (pool : Pool) (held : Held) : Action Unit :=
  modify fun site => site.hold pool.number held

/-- Build a backend; what is no fault of the depot becomes one. -/
def construct (pool : Pool) (kind : Kind) (path : Option Text)
    (credential : Option Credential) : Action Backend :=
  wrapping (.clientFailed kind path) <|
    match pool.scripts.lookup kind with
    | some script => Backend.openScripted script kind path credential
    | none => Backend.openWith true kind path credential

/-- Probe a backend if there is a path to probe it with; one that is rejected is closed. -/
def check (backend : Backend) (path : Option Text) : Action Unit :=
  match path with
  | none => pure ()
  | some path =>
      recover (backend.probe path) fun failure =>
        match failure with
        | .fault fault => do
            backend.close
            raise fault
        | other => throw other

/-- Close a backend; a failure to do so is logged. -/
def closeBackend (backend : Backend) : Action Unit :=
  recover backend.close fun failure =>
    note .warning ("Failed to close " ++ backend.describe ++ ": " ++ failure.message)

/-- Hold a backend; another one that was held for the kind is closed after that. -/
def install (pool : Pool) (kind : Kind) (backend : Backend) : Action Backend := do
  let held := pool.held (← get)
  pool.hold (Entries.put kind backend held)
  match held.lookup kind with
  | some previous => if previous ≠ backend then closeBackend previous
  | none => pure ()
  return backend

/-! ## Remote kinds -/

/-- The path that a credential is looked up for; a kind alone is looked up by its scheme. -/
def lookupPath (kind : Kind) (path : Option Text) : Text := path.getD kind.scheme

/-- One attempt with a credential of the keyring. -/
def attempt (pool : Pool) (kind : Kind) (path : Option Text) : Action Backend := do
  let credential ← Keyring.credentialFor pool.keyring kind (lookupPath kind path)
  let backend ← pool.construct kind path (some credential)
  check backend path
  return backend

/-- An attempt with ambient credentials; some kinds need a path for it. -/
def attemptAmbient (pool : Pool) (kind : Kind) (path : Option Text) : Action Backend := do
  if path.isNone && kind.needsPath then raise (.ambientNeedsPath kind)
  Keyring.warnAmbient pool.keyring kind
  let backend ← pool.construct kind path none
  check backend path
  return backend

/-- Is a failed attempt to be repeated? -/
def isRetried (failure : Failure) : Bool :=
  failure.isFault .credentialNotFound || failure.isFault .backend

/-- An attempt as the outcome of a load demands, without a repetition. -/
def attemptOnce (pool : Pool) (kind : Kind) (path : Option Text)
    (loading : Keyring.Loading) : Action Backend :=
  if loading = .noConfig then pool.attemptAmbient kind path else pool.attempt kind path

/-- An attempt as the outcome of a load demands, repeated once after another load. -/
def attemptTwice (pool : Pool) (kind : Kind) (path : Option Text)
    (loading : Keyring.Loading) : Action Backend :=
  if loading = .noConfig then pool.attemptAmbient kind path
  else
    recover (pool.attempt kind path) fun failure =>
      if isRetried failure then do
        pool.attemptOnce kind path (← Keyring.load pool.keyring true)
      else throw failure

/-- Resolve a remote kind. -/
def resolveRemote (pool : Pool) (kind : Kind) (path : Option Text) : Action Backend := do
  let loading ← Keyring.load pool.keyring false
  let backend ← pool.attemptTwice kind path loading
  pool.install kind backend

/-! ## Public operations -/

/-- Resolve a kind, for a path or without one. -/
def resolveKind (pool : Pool) (kind : Kind) (path : Option Text) : Action Backend := do
  if kind = .disk then
    let backend ← pool.construct .disk path none
    pool.install .disk backend
  else pool.resolveRemote kind path

/-- The backend that serves a path. -/
def resolve (pool : Pool) (path : Text) : Action Backend := do
  let kind ← ofRule (Kind.choose (← get).installed path)
  pool.resolveKind kind (some path)

/-- A backend of a kind, without a path. -/
def resolveForKind (pool : Pool) (kind : Kind) : Action Backend := do
  ofRule (Kind.demand (← get).installed kind)
  pool.resolveKind kind none

/-- Hold no backend, and close those that were held. -/
def close (pool : Pool) : Action Unit := do
  let held := pool.held (← get)
  pool.hold []
  held.forM fun entry => closeBackend entry.2

/-- A pool on a keyring, or on the default one, that holds nothing. -/
def create (keyring : Option Nat) (scripts : List (Kind × Nat)) : Action Pool := do
  let keyring ← match keyring with
    | some keyring => pure keyring
    | none => Keyring.default
  let pool := { number := (← get).holdings.pools.length, keyring, scripts }
  pool.hold []
  return pool

end Pool

end ArtifactDepot
