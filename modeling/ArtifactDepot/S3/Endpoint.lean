import ArtifactDepot.S3.Cleaned

/-!
# Endpoints of S3

A path may carry the endpoint of a compatible store in front of its bucket:
a host and the number that it listens on, behind an optional transport.  Only
certain characters are allowed in each part; any other path names a bucket of
S3 itself.
-/

namespace ArtifactDepot.S3

open Text (slash)

/-- A path that names an endpoint. -/
structure Endpoint where
  transport : Option Transport
  host : Text
  socket : Text
  bucket : Text
  key : Text

namespace Endpoint

/-- A letter or digit of the ASCII range. -/
def isWord (c : Char) : Bool := c.isAlphanum

/-- A character of a host name. -/
def isHostChar (c : Char) : Bool := isWord c || c == '-' || c == '.'

/-- A character of a bucket name behind an endpoint. -/
def isBucketChar (c : Char) : Bool := c.isDigit || c.isLower || c == '.' || c == '-'

/-- A character of a key behind an endpoint, slashes aside. -/
def isKeyChar (c : Char) : Bool := isWord c || c == '.' || c == '-' || c == '_'

/-- The longest front that passes a test, if it is not empty, and the rest. -/
def span? (test : Char → Bool) (input : Text) : Option (Text × Text) :=
  let front := input.takeWhile test
  if front.isEmpty then none else some (front, input.dropWhile test)

/-- The key behind a bucket: nothing, or a slash before each of its components. -/
def key? : Text → Option Text
  | [] => some []
  | c :: rest =>
      if c = slash ∧ (Text.components rest).all (fun part => !part.isEmpty && part.all isKeyChar)
      then some rest
      else none

/-- A leading transport, and the rest. -/
def cutTransport (input : Text) : Option Transport × Text :=
  match Text.afterPrefix? (Transport.scheme .plain) input with
  | some rest => (some .plain, rest)
  | none =>
      match Text.afterPrefix? (Transport.scheme .secure) input with
      | some rest => (some .secure, rest)
      | none => (none, input)

/-- Host, number, bucket and key. -/
def ofAuthority? (transport : Option Transport) (input : Text) : Option Endpoint := do
  let (host, rest) ← span? isHostChar input
  let rest ← Text.afterPrefix? [':'] rest
  let (socket, rest) ← span? Char.isDigit rest
  let rest ← Text.afterPrefix? [slash] rest
  let (bucket, rest) ← span? isBucketChar rest
  let key ← key? rest
  return ⟨transport, host, socket, bucket, key⟩

/-- The endpoint that a cleaned path names, if it names one. -/
def ofPath? (cleaned : Text) : Option Endpoint := do
  let rest ← Text.afterPrefix? Kind.s3.scheme cleaned
  let (transport, rest) := cutTransport rest
  ofAuthority? transport rest

/-- The address that requests are sent to; without a transport it is the plain one. -/
def url (endpoint : Endpoint) : Text :=
  (endpoint.transport.getD .plain).scheme ++ endpoint.host ++ ':' :: endpoint.socket

end Endpoint

/-- The endpoint of a path, if it carries one; without one the store is S3 itself. -/
def endpointUrl (path : Text) : Except Fault (Option Text) :=
  (clean path).map (fun cleaned => (Endpoint.ofPath? cleaned).map Endpoint.url)

end ArtifactDepot.S3
