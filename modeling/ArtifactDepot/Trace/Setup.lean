import ArtifactDepot.Action

/-!
# Configuring tracing

Tracing is off unless the environment switches it on.  It is configured on
the first traced operation or on demand; a configuration that fails is logged
and leaves operations untraced, unless the environment demands tracing.
-/

namespace ArtifactDepot.Trace

/-- Is tracing switched on? -/
def isEnabled (environment : Environment) : Bool := environment.flag "ARTIFACTFS_OTEL_ENABLED"

/-- Must a failed configuration stop the caller? -/
def isRequired (environment : Environment) : Bool := environment.flag "ARTIFACTFS_REQUIRE_OTEL"

/-- Are spans to be kept in memory? -/
def keepsInMemory (environment : Environment) : Bool :=
  environment.flag "ARTIFACTFS_OTEL_TEST_CAPTURE"

/-- The name of the service; a provider without one goes by a name of its own. -/
def serviceName (environment : Environment) : Text :=
  let name := environment.setting "ARTIFACTFS_OTEL_SERVICE_NAME" "artifactfs"
  if name.isEmpty then "unknown_service".toList else name

/-- Change what the depot knows about tracing. -/
def update (change : Trace → Trace) : Action Unit :=
  modify fun site => { site with tracing := change site.tracing }

/-- Open the exporter to the collector that the environment names. -/
def openCollector : Action Unit := do
  let site ← get
  let endpoint := site.environment.setting "ARTIFACTFS_OTEL_EXPORTER_OTLP_ENDPOINT" ""
  let protocol := site.environment.setting "ARTIFACTFS_OTEL_EXPORTER_OTLP_PROTOCOL" "grpc"
  if !site.hasExporters then Action.meet (.moduleMissing "opentelemetry.exporter")
  Action.perform (.openExporter
    (if protocol = "http".toList then protocol else "grpc".toList)
    (if endpoint.isEmpty then none else some endpoint))

/-- Make a provider with the sink that the environment asks for. -/
def install : Action Unit := do
  let site ← get
  let service := serviceName site.environment
  if site.lacksTelemetry then Action.meet (.moduleMissing "opentelemetry")
  if keepsInMemory site.environment then
    update fun tracing => { tracing with memory := some [], provider := some ⟨service, .memory⟩ }
  else if site.environment.setting "ARTIFACTFS_OTEL_EXPORTER" "otlp" = "console".toList then
    update fun tracing => { tracing with provider := some ⟨service, .console⟩ }
  else
    openCollector
    update fun tracing => { tracing with provider := some ⟨service, .collector⟩ }

/-- A failed configuration is logged; it stops the caller if tracing is required. -/
def report (required : Bool) (failure : Failure) : Action Bool := do
  Action.note .error ("Failed to configure OpenTelemetry tracing: " ++ failure.message)
  if required then Action.meet (.tracingRequired failure.message)
  return false

/-- Configure tracing; is it enabled and configured? -/
def configure : Action Bool := do
  let site ← get
  if !isEnabled site.environment then
    update fun tracing => { tracing with configured := true }
    return false
  if site.tracing.memory.isSome && keepsInMemory site.environment then return true
  if site.tracing.configured && site.tracing.provider.isSome then return true
  update fun tracing => { tracing with configured := true }
  match ← Action.outcome install with
  | .ok () => return true
  | .error failure => report (isRequired site.environment) failure

/-- Configure tracing unless that has been tried. -/
def prepare : Action Unit := do
  if !(← get).tracing.configured then discard configure

/-- The digest of a path, unless it has none. -/
def digest? (site : Site) (path : Text) : Option String :=
  match site.digestFlaw? path with
  | some _ => none
  | none => some (Span.pathDigest path)

/-- A path is refused. -/
def refuse (path : Text) : Action Unit :=
  modify fun site => { site with refusals := site.refusals ++ [path] }

/-- Run an operation once its path has been digested. -/
def digested {α : Type} (path : Text) (action : Action α) : Action α := do
  match (← get).digestFlaw? path with
  | some words =>
      refuse path
      Action.meet (.unencodable words)
  | none => action

/-- Run an operation inside a span of a provider. -/
def within {α : Type} (provider : Provider) (operation : Operation) (kind : Kind) (path : Text)
    (action : Action α) : Action α := do
  let site ← get
  let digest := digest? site path
  let parent := site.tracing.active.head?
  update (enter · operation.spanName)
  match ← Action.outcome (digested path action) with
  | .ok value =>
      update (leave · provider.sink (.ofSuccess operation kind digest parent))
      return value
  | .error failure =>
      update (leave · provider.sink
        (.ofFailure operation kind digest parent failure
          (site.tracing.stackTrace operation kind path failure)))
      throw failure

/-- Run a backend operation on a path, inside a span if tracing is on.  Then the path is digested
even if there is no provider that could export it. -/
def traced {α : Type} (operation : Operation) (kind : Kind) (path : Text) (action : Action α) :
    Action α := do
  let site ← get
  if !isEnabled site.environment || site.lacksTelemetry then action
  else
    prepare
    match (← get).tracing.provider with
    | none => digested path action
    | some provider => within provider operation kind path action

end ArtifactDepot.Trace
