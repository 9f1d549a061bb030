import ArtifactDepot.Azure.Operations
import ArtifactDepot.Gcs.Operations
import ArtifactDepot.Local.Operations
import ArtifactDepot.S3.Operations

/-!
# Backends

A backend of any kind: how it is opened and closed, how it is probed, and the
operations that every backend offers.  Operations that a kind does not have
are refused.
-/

namespace ArtifactDepot.Backend

open ArtifactDepot.Action

/-- The name of the backend type of a kind. -/
def typeName : Kind → String
  | .disk => "LocalFileSystem"
  | .gcs => "GCSFileSystem"
  | .s3 => "S3FileSystem"
  | .azure => "AzureFileSystem"

/-- How a backend is shown. -/
def describe (backend : Backend) : String :=
  "<" ++ typeName backend.kind ++ " backend=" ++ backend.kind.label ++ ">"

/-! ## Opening and closing -/

/-- What a new backend of a kind is bound to; paths and accounts are checked here. -/
def bindingOf (kind : Kind) (path : Option Text) (credential : Option Credential) : Action Binding := do
  match kind with
  | .disk => return .disk
  | .gcs => return .gcs
  | .s3 => return .s3 (← ofRule (S3.endpointOf path))
  | .azure =>
      let account ← ofRule (Azure.accountFor (← get).environment path
        (credential.bind Credential.azure?))
      return .azure account.name

/-- Build the client of a backend. -/
def openClient (serial : Nat) (binding : Binding) (path : Option Text)
    (credential : Option Credential) : Action Unit := do
  match binding with
  | .disk => return
  | .gcs => Gcs.openClient serial (credential.bind Credential.gcs?)
  | .s3 endpoint => S3.openClient serial path endpoint (credential.bind Credential.s3?)
  | .azure _ =>
      let account ← ofRule (Azure.accountFor (← get).environment path
        (credential.bind Credential.azure?))
      Azure.openClient serial path account

/-- The kinds whose backends have a client. -/
def hasClient (kind : Kind) : Bool := kind != .disk

/-- Count a client as open. -/
def registerClient (kind : Kind) (serial : Nat) : Action Unit :=
  if hasClient kind then
    modify fun site => { site with openClients := (kind, serial) :: site.openClients }
  else pure ()

/-- Open a backend; its client is built anew, or a ready one is taken. -/
def openWith (buildClient : Bool) (kind : Kind) (path : Option Text)
    (credential : Option Credential) : Action Backend := do
  let binding ← bindingOf kind path credential
  let serial ← freshSerial
  if buildClient then openClient serial binding path credential
  registerClient kind serial
  return { serial, binding }

/-- Ask the client of a backend to close.  From then on it counts as closed, whatever it answers. -/
def close (backend : Backend) : Action Unit := do
  if hasClient backend.kind then
    modify fun site => site.closing (backend.kind, backend.serial)
    perform (.closeClient backend.kind backend.serial)

/-! ## Scripted outcomes -/

/-- Carry out a verdict with the given words. -/
def obey (verdict : Verdict) (words : String) : Action Unit :=
  match verdict with
  | .pass => pure ()
  | .broken => meet (.broken words.toList)
  | .fault kind => raise (.stated kind words.toList none none)

/-- Change a script. -/
def updateScript (number : Nat) (change : Script → Script) : Action Unit :=
  modify fun site => { site with scripts := site.scripts.modify number change }

/-- The next verdict on a build, if one is left. -/
def nextBuild (number : Nat) : Action Verdict := do
  match ((← get).scripts.getD number {}).builds with
  | [] => return .pass
  | verdict :: others =>
      updateScript number fun script => { script with builds := others }
      return verdict

/-- The next verdict on a probe, if one is left. -/
def nextProbe? (number : Nat) : Action (Option Verdict) := do
  match ((← get).scripts.getD number {}).probes with
  | [] => return none
  | verdict :: others =>
      updateScript number fun script => { script with probes := others }
      return some verdict

/-- The health probe of a kind; only S3 has one. -/
def probeKind (kind : Kind) (path : Text) : Action Unit :=
  match kind with
  | .s3 => S3.probe path
  | .disk | .gcs | .azure => pure ()

/-- Probe a backend with the path that it was built for. -/
def probe (backend : Backend) (path : Text) : Action Unit := do
  match backend.script with
  | none => probeKind backend.kind path
  | some number =>
      perform (.probeBackend backend.kind path)
      match ← nextProbe? number with
      | some verdict => obey verdict "probe failed"
      | none => probeKind backend.kind path

/-- Build a backend as a script lays down. -/
def openScripted (number : Nat) (kind : Kind) (path : Option Text)
    (credential : Option Credential) : Action Backend := do
  perform (.buildBackend kind path credential)
  obey (← nextBuild number) "build failed"
  let script := (← get).scripts.getD number {}
  match script.reuse, script.first with
  | true, some backend => return backend
  | _, _ =>
      let backend := { (← openWith false kind path credential) with script := some number }
      updateScript number fun script => { script with first := some (script.first.getD backend) }
      return backend

end ArtifactDepot.Backend
