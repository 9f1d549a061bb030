import ArtifactDepot.Disk.Upkeep
import ArtifactDepot.Session.Request

/-!
# Steps

What a session can be told to do: change its surroundings, make keyrings,
pools, backends and local directories and use them by their names, and look
at the spans that were traced.
-/

namespace ArtifactDepot

/-- A step of a session. -/
inductive Step where
  /- surroundings -/
  | setVariable (name : Text) (value : Option Text)
  | writeFile (path : Text) (content : ByteArray)
  | makeDirectory (path : Text)
  | remove (path : Text)
  | touch (path : Text) (nanosecond : Int)
  | mode (path : Text)
  | tree (path : Text)
  | putObject (kind : Kind) (bucket key : Text) (object : Object)
  | eraseObject (kind : Kind) (bucket key : Text)
  | addRule (rule : Rule)
  /- keyrings -/
  | newKeyring (id : Text) (config : Option Text)
  | defaultKeyring (id : Text)
  | forgetDefaultKeyring
  | loadKeyring (id : Text) (force : Bool)
  | invalidateKeyring (id : Text)
  | credentialFor (id : Text) (kind : Kind) (path : Text)
  | grants (id : Text) (kind : Kind)
  | keyringState (id : Text)
  | warnAmbient (id : Text) (kind : Kind)
  /- pools -/
  | newPool (id : Text) (keyring : Option Text) (scripts : List (Kind × Script))
  | resolve (id : Text) (path : Text) (name : Option Text)
  | resolveKind (id : Text) (kind : Kind) (name : Option Text)
  | held (id : Text) (kind : Kind)
  | localizeBy (id : Text) (path : Text) (name : Option Text)
  | closePool (id : Text)
  | withPool (id : Text) (path : Text)
  /- backends -/
  | newBackend (id : Text) (kind : Kind) (path : Option Text) (credential : Option Credential)
      (buildClient : Bool)
  | request (id : Text) (request : Request)
  | withBackend (id : Text)
  | shortcut (request : Request)
  /- local directories -/
  | newDirectory (id : Text) (source : Text) (replica : Option Text)
  | replicate (id : Text) (backend : Text) (path : Text)
  | directoryState (id : Text)
  | release (id : Text)
  | withDirectory (id : Text)
  /- tracing -/
  | configureTracing
  | tracingEnabled
  | tracingService
  | spans
  | clearSpans
  | resetTracing

namespace SessionAction

/-- Use a local directory and release it; is its path a directory before and after? -/
def useDirectory (directory : LocalDirectory) : Action Reply := do
  let before := (← get).disk.isDirectory directory.path
  directory.release
  return .flags before ((← get).disk.isDirectory directory.path)

/-- Resolve with a pool. -/
def resolveWith (id : Text) (name : Option Text) (operation : Pool → Action Backend) :
    SessionAction Reply := do
  introduce name (← onSite (operation (← named Session.pools id)))

/-- Close a pool. -/
def closePool (id : Text) : SessionAction Unit := do
  onSite (← named Session.pools id).close

/-- Run an action on a pool and close the pool however the action ends. -/
def closingPool (id : Text) (action : SessionAction Reply) : SessionAction Reply := fun session =>
  match action session with
  | .ok reply session' => (closePool id *> pure reply) session'
  | .error failure session' => (closePool id *> throw failure) session'

/-- Add the scripts of a pool to the site. -/
def addScripts (scripts : List (Kind × Script)) : Action (List (Kind × Nat)) := fun site =>
  let first := site.scripts.length
  .ok (scripts.zipIdx.map (fun entry => (entry.1.1, first + entry.2)))
    { site with scripts := site.scripts ++ scripts.map Prod.snd }

/-- Change what the object stores hold. -/
def updateCloud (change : Cloud → Cloud) : Action Unit :=
  modify fun site => { site with cloud := change site.cloud }

/-- Change the environment. -/
def updateEnvironment (change : Environment → Environment) : Action Unit :=
  modify fun site => { site with environment := change site.environment }

/-- Set or unset a variable of the environment.  The system takes none with a NUL character. -/
def setVariable (name : Text) (value : Option Text) : Action Unit :=
  match value with
  | none => updateEnvironment (·.unset name)
  | some value =>
      if name.contains '\x00' || value.contains '\x00' then Action.meet .embeddedNul
      else updateEnvironment (·.set name value)

/-- Run a step. -/
def run (step : Step) : SessionAction Reply := do
  match step with
  | .setVariable name value => done (setVariable name value)
  | .writeFile path content => done (Upkeep.writeFile path content)
  | .makeDirectory path => done (Upkeep.ensureDirectory path)
  | .remove path => done (Upkeep.remove path)
  | .touch path nanosecond => done (Upkeep.touch path nanosecond)
  | .mode path => return .mode (← onSite (Upkeep.nodeAt path)).mode
  | .tree path => return .tree (Upkeep.treeOf path (← get).site.disk)
  | .putObject kind bucket key object => done (updateCloud (·.putObject kind bucket key object))
  | .eraseObject kind bucket key => done (updateCloud (·.eraseObject kind bucket key))
  | .addRule rule => done (modify fun site => { site with rules := site.rules ++ [rule] })
  | .newKeyring id config =>
      nameKeyring id (← onSite (Keyring.create config))
      return .nothing
  | .defaultKeyring id =>
      let keyring ← onSite Keyring.default
      let name := Session.nameOf keyring (← get).keyrings
      if name.isNone then nameKeyring id keyring
      return .optionalText name
  | .forgetDefaultKeyring => done Keyring.forgetDefault
  | .loadKeyring id force =>
      answer .loading (Keyring.load (← named Session.keyrings id) force)
  | .invalidateKeyring id => done (Keyring.invalidate (← named Session.keyrings id))
  | .credentialFor id kind path =>
      answer .credential (Keyring.credentialFor (← named Session.keyrings id) kind path)
  | .grants id kind =>
      answer (fun keyring => .grants (keyring.tables.of kind))
        (Keyring.get (← named Session.keyrings id))
  | .keyringState id =>
      let keyring ← onSite (Keyring.get (← named Session.keyrings id))
      return .keyring keyring.cached (keyring.configPath? (← get).site.environment)
  | .warnAmbient id kind => done (Keyring.warnAmbient (← named Session.keyrings id) kind)
  | .newPool id keyring scripts =>
      let keyring ← keyring.mapM (named Session.keyrings)
      let pool ← onSite (addScripts scripts >>= Pool.create keyring)
      namePool id pool
      return .optionalText (Session.nameOf pool.keyring (← get).keyrings)
  | .resolve id path name => resolveWith id name (·.resolve path)
  | .resolveKind id kind name => resolveWith id name (·.resolveForKind kind)
  | .held id kind =>
      match ((← named Session.pools id).held (← get).site).lookup kind with
      | some backend => return .backend (Session.nameOf backend (← get).backends) backend
      | none => return .nothing
  | .localizeBy id path name =>
      let backend ← onSite ((← named Session.pools id).resolve path)
      keep name (← onSite (Backend.localize backend.kind path))
  | .closePool id => closePool id; return .nothing
  | .withPool id path => closingPool id (resolveWith id none (·.resolve path))
  | .newBackend id kind path credential buildClient =>
      introduce (some id) (← onSite (Backend.openWith buildClient kind path credential))
  | .request id request => answerBackend (← named Session.backends id) request
  | .withBackend id => done (← named Session.backends id).close
  | .shortcut request => answerShortcut request
  | .newDirectory id source replica =>
      keep (some id) (← onSite (LocalDirectory.create source replica))
  | .replicate id backend path =>
      let backend ← named Session.backends backend
      keep (some id) (← onSite (Replica.make backend.kind path))
  | .directoryState id =>
      let directory ← named Session.directories id
      return .directory directory (directory.isReleased (← get).site)
  | .release id =>
      let directory ← named Session.directories id
      onSite directory.release
      return .flag (directory.isReleased (← get).site)
  | .withDirectory id => onSite (useDirectory (← named Session.directories id))
  | .configureTracing => answer .flag Trace.configure
  | .tracingEnabled => return .flag (Trace.isEnabled (← get).site.environment)
  | .tracingService => return .optionalText ((← get).site.tracing.provider.map (·.service))
  | .spans => return .spans (← get).site.tracing.spans
  | .clearSpans => done (Trace.update Trace.clear)
  | .resetTracing => done (Trace.update Trace.reset)

end SessionAction

end ArtifactDepot
