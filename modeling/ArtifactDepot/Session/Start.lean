import ArtifactDepot.Session.Report

/-!
# Starting a session

The surroundings that a session starts in: a working directory with some
files, an environment, object stores, and failures that are laid down.
-/

namespace ArtifactDepot

/-- What a session starts with. -/
structure Surroundings where
  /-- The disk before any file is written. -/
  disk : Disk := .fresh
  files : List (Text × ByteArray) := []
  environment : Environment := []
  cloud : Cloud := {}
  rules : List Rule := []
  installed : List Kind := Kind.remote
  hasExporters : Bool := false
  lacksTelemetry : Bool := false
  digestFlaw? : Text → Option String := Text.encodingFlaw?
  nesting : Nat := 985

namespace Surroundings

/-- The site before any file is written. -/
def bareSite (surroundings : Surroundings) : Site :=
  { disk := surroundings.disk
    environment := surroundings.environment
    cloud := surroundings.cloud
    rules := surroundings.rules
    installed := surroundings.installed
    hasExporters := surroundings.hasExporters
    lacksTelemetry := surroundings.lacksTelemetry
    digestFlaw? := surroundings.digestFlaw?
    nesting := surroundings.nesting }

/-- Write one of the files that a session starts with. -/
def addFile (site : Site) (file : Text × ByteArray) : Site :=
  match Upkeep.writeFile file.1 file.2 site with
  | .ok _ site' => site'
  | .error _ site' => site'

/-- The session before its first step. -/
def session (surroundings : Surroundings) : Session :=
  { site := surroundings.files.foldl addFile surroundings.bareSite }

end Surroundings

end ArtifactDepot
