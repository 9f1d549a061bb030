import ArtifactDepot.Failure.Fault
import ArtifactDepot.Key

/-!
# Addresses of Azure blobs

A path is `as://host/container[/blob][?query]`.  The host names the storage
account, the query is dropped, and outer slashes of the blob are ignored.
-/

namespace ArtifactDepot.Azure

open Text (slash)

/-- An account host, a container and a blob in it; the empty blob is the container itself. -/
structure Address where
  host : Text
  container : Text
  blob : Text
  deriving DecidableEq, Repr

/-- A query is a question mark and any text on one line. -/
def isQuery : Text → Bool
  | [] => true
  | c :: rest => c == '?' && !rest.contains '\n'

/-- What follows a container: a blob behind a slash, if there is one, and the rest. -/
def cutBlob (rest : Text) : Text × Text :=
  match Text.afterPrefix? [slash] rest with
  | some body => (body.takeWhile (· != '?'), body.dropWhile (· != '?'))
  | none => ([], rest)

/-- The parts of a path behind its scheme. -/
def parts? (rest : Text) : Option Address :=
  let host := rest.takeWhile (· != slash)
  let below := rest.drop (host.length + 1)
  let container := below.takeWhile (fun c => c != slash && c != '?')
  let (blob, query) := cutBlob (below.drop container.length)
  if host.isEmpty || container.isEmpty || !isQuery query then none
  else some ⟨host, container, Text.trim slash blob⟩

/-- The address of a path. -/
def parse (path : Text) : Except Fault Address :=
  match (Text.afterPrefix? Kind.azure.scheme path).bind parts? with
  | some address => .ok address
  | none => .error (.malformedAzurePath path)

/-- The path that names an address. -/
def Address.path (address : Address) : Text :=
  Kind.azure.scheme ++ address.host ++ slash :: address.container ++
    (if address.blob.isEmpty then [] else slash :: address.blob)

/-- The canonical form of a path. -/
def normalize (path : Text) : Except Fault Text := (parse path).map Address.path

/-- The domain of the public store, which an account name stands in front of. -/
def hostSuffix : Text := ".blob.core.windows.net".toList

/-- The account that a host belongs to. -/
def accountOfHost (host : Text) : Text :=
  if hostSuffix.isSuffixOf host then host.take (host.length - hostSuffix.length) else host

end ArtifactDepot.Azure
