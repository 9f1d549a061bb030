import ArtifactDepot.Json.Reader
import ArtifactDepot.Action

/-!
# Loading keyrings

A keyring loads the tables of one credential document and answers which
credential a path is to be used with.  A load replaces all tables at once; a
load that fails changes nothing.  Without a document the tables are empty and
clients are built from ambient credentials.
-/

namespace ArtifactDepot.Keyring

open ArtifactDepot.Action

/-- The outcome of a load. -/
inductive Loading where
  | loaded
  | alreadyCached
  | noConfig
  deriving DecidableEq, Repr

/-- The name of an outcome. -/
def Loading.name : Loading → String
  | .loaded => "LOADED"
  | .alreadyCached => "ALREADY_CACHED"
  | .noConfig => "NO_CONFIG_AVAILABLE"

/-- The setting that names the document of a keyring without a path of its own. -/
def configSetting : String := "ARTIFACTFS_CLOUD_CREDENTIAL_PATH"

/-- The path of the document: the keyring's own one, or that of the environment. -/
def configPath? (keyring : Keyring) (environment : Environment) : Option Text :=
  match keyring.config with
  | some path => some path
  | none => (environment.get? configSetting).filter (fun path => !path.isEmpty)

/-- The tables that the bytes of a document stand for, if so many containers may be open at once. -/
def tablesOf (nesting : Nat) (config : Text) (content : ByteArray) : Except Failure KeyTables :=
  match String.fromUTF8? content with
  | none => .error (.incident .notUtf8)
  | some text =>
      match Json.parse nesting text.toList with
      | .error .malformed => .error (.fault (.configMalformed config))
      | .error .numberTooLong => .error (.incident .numberTooLong)
      | .error (.nestedTooDeep container) => .error (.incident (.nestedTooDeep container))
      | .ok document =>
          match KeyTables.ofJson config document with
          | .ok tables => .ok tables
          | .error fault => .error (.fault fault)

/-- A document that the system refuses to read is a fault. -/
def unreadable (config : Text) (failure : Failure) : Failure :=
  match failure with
  | .incident (.system refusal name) =>
      .fault (.configUnreadable config (.system refusal name))
  | other => other

/-- Read the bytes of a document. -/
def readConfig (config : Text) : Action ByteArray :=
  recover (do
    perform (.readConfig config)
    consult (·.read config)) fun failure => throw (unreadable config failure)

/-- Read the tables of a document. -/
def readTables (config : Text) : Action KeyTables := do
  let content ← readConfig config
  match tablesOf (← MonadState.get).nesting config content with
  | .ok tables => return tables
  | .error failure => throw failure

/-! ## Keyrings of the site -/

/-- A keyring by its number. -/
def get (number : Nat) : Action Keyring := do
  return (← MonadState.get).keyrings.getD number {}

/-- Change a keyring. -/
def update (number : Nat) (change : Keyring → Keyring) : Action Unit :=
  modify fun site => { site with keyrings := site.keyrings.modify number change }

/-- Make a keyring. -/
def create (config : Option Text) : Action Nat := fun site =>
  .ok site.keyrings.length { site with keyrings := site.keyrings ++ [{ config }] }

/-- The keyring that is used when none is named; it is made when it is first asked for. -/
def default : Action Nat := do
  match (← MonadState.get).defaultKeyring with
  | some number => return number
  | none =>
      let number ← create none
      modify fun site => { site with defaultKeyring := some number }
      return number

/-- Let the next use make another default keyring. -/
def forgetDefault : Action Unit := modify fun site => { site with defaultKeyring := none }

/-- The keyring after its document could be read. -/
def withTables (tables : KeyTables) (keyring : Keyring) : Keyring :=
  { keyring with tables, cached := true }

/-- The keyring after no document was found to be configured. -/
def withoutTables (keyring : Keyring) : Keyring :=
  { keyring with tables := {}, cached := false }

/-- Load a keyring, unless it is loaded and need not be loaded anew. -/
def load (number : Nat) (force : Bool) : Action Loading := do
  let keyring ← get number
  if keyring.cached && !force then return .alreadyCached
  match keyring.configPath? (← MonadState.get).environment with
  | none | some [] =>
      update number withoutTables
      return .noConfig
  | some config =>
      let tables ← readTables config
      update number (withTables tables)
      return .loaded

/-- Let the next load read the document again. -/
def invalidate (number : Nat) : Action Unit :=
  update number fun keyring => { keyring with cached := false }

/-- The most specific credential for a path, with or without its scheme. -/
def credentialFor (number : Nat) (kind : Kind) (path : Text) : Action Credential := do
  match (← get number).tables.match? kind path with
  | some credential => return credential
  | none => raise (.noCredential kind path)

/-- Log, once for each kind, that ambient credentials are used. -/
def warnAmbient (number : Nat) (kind : Kind) : Action Unit := do
  if (← get number).warned.contains kind then return
  update number fun keyring => { keyring with warned := kind :: keyring.warned }
  note .warning
    ("No credential file configured (" ++ configSetting ++ "); using ambient credentials for " ++
      kind.name)

end ArtifactDepot.Keyring
