import ArtifactDepot.Keyring.Record
import ArtifactDepot.Digest

/-!
# Recorded calls

Every request to the surroundings that leaves a trace, and the row of JSON
values that it is recorded as.  Clients are numbered, so that the closing of
a client can be told from the closing of another; the rows do not show it.
-/

namespace ArtifactDepot

/-- A recorded request. -/
inductive Call where
  | readConfig (path : Text)
  | openS3Session (settings : List (Text × Json))
  | openS3Client (client : Nat) (endpoint : Option Text)
  | headBucket (bucket : Text)
  | listObjects (bucket start : Text) (most token : Option Nat)
  | headObject (bucket key : Text)
  | getObject (bucket key : Text)
  | readBody (bucket key : Text)
  | openGcsClient (client : Nat) (keyFile : Option Text)
  | lookupBucket (bucket : Text)
  | getBlob (bucket name : Text)
  | listBlobs (bucket start : Text) (most : Option Nat)
  | download (bucket name : Text)
  | openAzureClient (client : Nat) (url : Text) (credential : Option (Text × Text))
  | containerExists (container : Text)
  | walkBlobs (container : Text) (start : Option Text)
  | blobExists (container blob : Text)
  | getBlobProperties (container blob : Text)
  | downloadBlob (container blob : Text)
  | readAll (container blob : Text)
  | uploadBlob (container blob : Text) (content : ByteArray)
  | closeClient (kind : Kind) (client : Nat)
  | openExporter (protocol : Text) (endpoint : Option Text)
  | buildBackend (kind : Kind) (path : Option Text) (credential : Option Credential)
  | probeBackend (kind : Kind) (path : Text)

namespace Call

/-- A word as a JSON value. -/
def word (value : String) : Json := .text value.toList

/-- Text that may be missing. -/
def optional : Option Text → Json
  | some value => .text value
  | none => .null

/-- A count that may be missing. -/
def optionalCount : Option Nat → Json
  | some value => .whole value
  | none => .null

/-- The name of the store that serves a kind. -/
def service (kind : Kind) : Json := optional kind.section?

/-- A request to the store of a kind about some names. -/
def about (kind : Kind) (method : String) (names : List Text) : List Json :=
  service kind :: word method :: names.map .text

/-- The row that a call is recorded as. -/
def row : Call → List Json
  | .readConfig path => [word "config", word "read", .text path]
  | .openS3Session settings => [service .s3, word "Session", .record settings]
  | .openS3Client _ endpoint =>
      [service .s3, word "client", word "s3",
        .record [("endpoint_url".toList, optional endpoint),
          ("config".toList, .record [("s3".toList,
            .record [("addressing_style".toList, word "path")])])]]
  | .headBucket bucket => about .s3 "head_bucket" [bucket]
  | .listObjects bucket start most token =>
      about .s3 "list_objects_v2" [bucket, start] ++
        [optionalCount most, optional (token.map (fun n => (toString n).toList))]
  | .headObject bucket key => about .s3 "head_object" [bucket, key]
  | .getObject bucket key => about .s3 "get_object" [bucket, key]
  | .readBody bucket key => about .s3 "read_body" [bucket, key]
  | .openGcsClient _ none => about .gcs "Client" []
  | .openGcsClient _ (some keyFile) => about .gcs "Client.from_service_account_json" [keyFile]
  | .lookupBucket bucket => about .gcs "lookup_bucket" [bucket]
  | .getBlob bucket name => about .gcs "get_blob" [bucket, name]
  | .listBlobs bucket start most =>
      about .gcs "list_blobs" [bucket, start] ++ [optionalCount most]
  | .download bucket name => about .gcs "download" [bucket, name]
  | .openAzureClient _ url credential =>
      about .azure "BlobServiceClient" [url] ++
        [match credential with
          | none => .null
          | some (account, key) =>
              .record [("account_name".toList, .text account), ("account_key".toList, .text key)]]
  | .containerExists container => about .azure "container_exists" [container]
  | .walkBlobs container start =>
      about .azure "walk_blobs" [container] ++ [optional start, word "/"]
  | .blobExists container blob => about .azure "blob_exists" [container, blob]
  | .getBlobProperties container blob => about .azure "get_blob_properties" [container, blob]
  | .downloadBlob container blob => about .azure "download_blob" [container, blob]
  | .readAll container blob => about .azure "readall" [container, blob]
  | .uploadBlob container blob content =>
      about .azure "upload_blob" [container, blob] ++
        [word (Digest.hex content.toList), .truth true]
  | .closeClient kind _ => about kind "close" []
  | .openExporter protocol endpoint =>
      [word "otlp", .text protocol,
        .record ((endpoint.map (fun url => [("endpoint".toList, Json.text url)])).getD [])]
  | .buildBackend kind path credential =>
      [word "factory", word "build", word kind.name, optional path,
        (credential.map Credential.toJson).getD .null]
  | .probeBackend kind path => [word "factory", word "probe", word kind.name, .text path]

end Call

/-- A failure that is laid down for calls of a certain form. -/
structure Rule where
  /-- The calls whose rows start like this are meant. -/
  pattern : List Json
  /-- How often the rule still applies; a negative number is never used up. -/
  times : Int := -1
  words : Text := "injected failure".toList
  attributes : List (Text × Json) := []

namespace Rule

/-- The failure that a rule stands for. -/
def incident (rule : Rule) : Incident := .remote rule.words rule.attributes

/-- Does the rule apply to a call? -/
def applies (rule : Rule) (row : List Json) : Bool :=
  rule.times != 0 && Json.alikeFront rule.pattern row

/-- The failure laid down for a call, and the rules with one use less. -/
def strike? (row : List Json) : List Rule → Option (Incident × List Rule)
  | [] => none
  | rule :: others =>
      if rule.applies row then some (rule.incident, { rule with times := rule.times - 1 } :: others)
      else (strike? row others).map (fun result => (result.1, rule :: result.2))

end Rule

end ArtifactDepot
