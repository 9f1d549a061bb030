import ArtifactDepot.Failure.Fault
import ArtifactDepot.Text.Components

/-!
# Cleaned paths of S3

A path is cleaned before it is taken apart: what precedes its scheme and its
transport is dropped, and so are outer and repeated slashes.  A cleaned path
is held as the parts that it is made of.
-/

namespace ArtifactDepot.S3

/-- A transport that an endpoint can be reached by. -/
inductive Transport where
  | plain
  | secure
  deriving DecidableEq, Repr

namespace Transport

/-- What a transport is written as in front of a host. -/
def scheme : Transport → Text
  | .plain => ['h', 't', 't', 'p', ':', '/', '/']
  | .secure => ['h', 't', 't', 'p', 's', ':', '/', '/']

/-- The transport after whose first mention the text goes on; the secure one is looked for first. -/
def cut? (input : Text) : Option (Transport × Text) :=
  match Text.afterFirst? (scheme .secure) input with
  | some rest => some (.secure, rest)
  | none => (Text.afterFirst? (scheme .plain) input).map (fun rest => (.plain, rest))

end Transport

/--
A path cut into its optional scheme, its optional transport and its non-empty
components.  Scheme and transport are looked for anywhere, and what precedes
them is dropped.
-/
structure Cleaned where
  hasScheme : Bool
  transport : Option Transport
  parts : List Text

namespace Cleaned

/-- The text of a cleaned path. -/
def path (cleaned : Cleaned) : Text :=
  (if cleaned.hasScheme then Kind.s3.scheme else []) ++
    (cleaned.transport.map Transport.scheme).getD [] ++ Text.join cleaned.parts

/-- Clean a path.  Only slashes after scheme and transport name no bucket. -/
def ofPath (path : Text) : Except Fault Cleaned :=
  let scheme? := Text.afterFirst? Kind.s3.scheme path
  let rest := scheme?.getD path
  let transport? := Transport.cut? rest
  let rest := (transport?.map Prod.snd).getD rest
  let parts := Text.solidComponents rest
  if parts.isEmpty then .error (.onlySlashes rest path)
  else .ok ⟨scheme?.isSome, transport?.map Prod.fst, parts⟩

end Cleaned

/-- The cleaned form of a path. -/
def clean (path : Text) : Except Fault Text := (Cleaned.ofPath path).map Cleaned.path

end ArtifactDepot.S3
