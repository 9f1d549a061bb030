import ArtifactDepot.Failure.Incident
import ArtifactDepot.Kind.Basic

/-!
# Credential records

The secret material with which a store's client is built, one record type for
each remote kind, and the validation of a record in a credential document.
-/

namespace ArtifactDepot

/-- A service account is given by the path of its key file. -/
structure GcsKey where
  keyFile : Text
  deriving DecidableEq, Repr

/-- The keys of an S3 account; an empty region leaves the choice to the client. -/
structure S3Key where
  secretKey : Text := []
  keyId : Text := []
  region : Text := []
  sessionToken : Text := []
  deriving DecidableEq, Repr

/-- The name and the shared key of an Azure account. -/
structure AzureKey where
  account : Text := []
  accountKey : Text := []
  deriving DecidableEq, Repr

/-- A credential of any remote kind. -/
inductive Credential where
  | gcs (credential : GcsKey)
  | s3 (credential : S3Key)
  | azure (credential : AzureKey)
  deriving DecidableEq, Repr

namespace Credential

/-- The record, if it is one for Cloud Storage. -/
def gcs? : Credential → Option GcsKey
  | .gcs credential => some credential
  | _ => none

/-- The record, if it is one for S3. -/
def s3? : Credential → Option S3Key
  | .s3 credential => some credential
  | _ => none

/-- The record, if it is one for Azure. -/
def azure? : Credential → Option AzureKey
  | .azure credential => some credential
  | _ => none

/-- The name of the record type. -/
def typeName : Credential → String
  | .gcs _ => "GCSCredential"
  | .s3 _ => "S3Credential"
  | .azure _ => "AzureCredential"

/-- Every field with its value, in the order of declaration. -/
def fields : Credential → List (Text × Text)
  | .gcs c => [("credential_path".toList, c.keyFile)]
  | .s3 c =>
      [("secret_key".toList, c.secretKey), ("key_id".toList, c.keyId),
        ("region".toList, c.region), ("session_token".toList, c.sessionToken)]
  | .azure c => [("account_str".toList, c.account), ("account_key".toList, c.accountKey)]

/-- The description shows which account is used and no secret. -/
def describe : Credential → String
  | .gcs c => "GCSCredential(credential_path=" ++ (Text.quoted c.keyFile).string ++ ")"
  | .s3 c =>
      "S3Credential(key_id=" ++ (Text.quoted c.keyId).string ++ ", region=" ++
        (Text.quoted c.region).string ++ ")"
  | .azure c => "AzureCredential(account_str=" ++ (Text.quoted c.account).string ++ ")"

/-- The record as a JSON value, as it is written down with a call. -/
def toJson (credential : Credential) : Json :=
  .record
    [("type".toList, .text credential.typeName.toList),
      ("fields".toList, .record (credential.fields.map (fun field => (field.1, .text field.2)))),
      ("repr".toList, .text credential.describe.toList)]

/-! ## Validation -/

/-- A field of a record: missing is empty, and anything but text is a complaint. -/
def field (members : List (Text × Json)) (name : String) : Except Complaint Text :=
  match members.lookup name.toList with
  | none => .ok []
  | some (.text value) => .ok value
  | some _ => .error (.notText name.toList)

/-- The complaint about a field, if there is one. -/
def complaint? : Except Complaint Text → Option Complaint
  | .ok _ => none
  | .error complaint => some complaint

/-- The value of a field that has passed. -/
def valueOf : Except Complaint Text → Text
  | .ok value => value
  | .error _ => []

/-- Collect the complaints about some fields; without any, the record is built. -/
def checked {α : Type} (fields : List (Except Complaint Text)) (record : α) :
    Except (List Complaint) α :=
  match fields.filterMap complaint? with
  | [] => .ok record
  | complaints => .error complaints

/-- Validate a record of Cloud Storage: the document holds the path itself. -/
def ofGcsJson : Json → Except (List Complaint) GcsKey
  | .text path => .ok ⟨path⟩
  | _ => .error [.notText "credential_path".toList]

/-- Validate a record of S3. -/
def ofS3Json : Json → Except (List Complaint) S3Key
  | .record members =>
      let secretKey := field members "secret_key"
      let keyId := field members "key_id"
      let region := field members "region"
      let sessionToken := field members "session_token"
      checked [secretKey, keyId, region, sessionToken]
        ⟨valueOf secretKey, valueOf keyId, valueOf region, valueOf sessionToken⟩
  | _ => .error [.notRecord]

/-- Validate a record of Azure. -/
def ofAzureJson : Json → Except (List Complaint) AzureKey
  | .record members =>
      let account := field members "account_str"
      let accountKey := field members "account_key"
      checked [account, accountKey] ⟨valueOf account, valueOf accountKey⟩
  | _ => .error [.notRecord]

/-- Validate a record of the given kind. -/
def ofJson : Kind → Json → Except (List Complaint) Credential
  | .gcs, value => (ofGcsJson value).map .gcs
  | .s3, value => (ofS3Json value).map .s3
  | .azure, value | .disk, value => (ofAzureJson value).map .azure

end Credential

end ArtifactDepot
