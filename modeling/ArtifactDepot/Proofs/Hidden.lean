import ArtifactDepot.Backend.Open
import ArtifactDepot.Keyring.Loading

/-!
# Records with hidden secrets

A credential has secret fields: the secret key and the session token of an S3
account, and the key of an Azure account.  `hide` replaces them, in a record and
in all that holds records, by what a function makes of them.  What is built from
a record depends on the secrets only through the calls that open a session of
S3, a client of Azure or a scripted backend, provided that the function tells
the empty text from the others.
-/

namespace ArtifactDepot

/-! ## Records -/

/-- The keys with the secret ones replaced. -/
def S3Key.hide (secret : Text → Text) (key : S3Key) : S3Key :=
  { key with secretKey := secret key.secretKey, sessionToken := secret key.sessionToken }

/-- The account with its key replaced. -/
def AzureKey.hide (secret : Text → Text) (key : AzureKey) : AzureKey :=
  { key with accountKey := secret key.accountKey }

namespace Credential

/-- The record with its secrets replaced. -/
def hide (secret : Text → Text) : Credential → Credential
  | .gcs key => .gcs key
  | .s3 key => .s3 (key.hide secret)
  | .azure key => .azure (key.hide secret)

variable {secret : Text → Text} (credential : Credential)

/-- The description of a record shows none of its secrets. -/
@[simp] theorem describe_hide : (credential.hide secret).describe = credential.describe := by
  cases credential with
  | gcs key => rfl
  | s3 key => rfl
  | azure key => rfl

theorem gcs?_hide : (credential.hide secret).gcs? = credential.gcs? := by
  cases credential with
  | gcs key => rfl
  | s3 key => rfl
  | azure key => rfl

theorem s3?_hide : (credential.hide secret).s3? = credential.s3?.map (S3Key.hide secret) := by
  cases credential with
  | gcs key => rfl
  | s3 key => rfl
  | azure key => rfl

theorem azure?_hide :
    (credential.hide secret).azure? = credential.azure?.map (AzureKey.hide secret) := by
  cases credential with
  | gcs key => rfl
  | s3 key => rfl
  | azure key => rfl

@[simp] theorem hide_id : credential.hide id = credential := by
  cases credential with
  | gcs key => rfl
  | s3 key => rfl
  | azure key => rfl

end Credential

/-! ## Tables and keyrings -/

/-- The grant with the secrets of its record replaced. -/
def Grant.hide (secret : Text → Text) (grant : Grant) : Grant :=
  { grant with credential := grant.credential.hide secret }

@[simp] theorem Grant.hide_id (grant : Grant) : grant.hide id = grant := by
  rw [Grant.hide, Credential.hide_id]

namespace KeyTables

/-- The tables with the secrets of all records replaced. -/
def hide (secret : Text → Text) (tables : KeyTables) : KeyTables :=
  ⟨tables.gcs.map (Grant.hide secret), tables.s3.map (Grant.hide secret),
    tables.azure.map (Grant.hide secret)⟩

variable {secret : Text → Text} (tables : KeyTables)

theorem of_hide (kind : Kind) :
    (tables.hide secret).of kind = (tables.of kind).map (Grant.hide secret) := by
  cases kind with
  | disk => rfl
  | gcs => rfl
  | s3 => rfl
  | azure => rfl

/-- Secrets have no say in which record applies to a path. -/
theorem match?_hide (kind : Kind) (path : Text) :
    (tables.hide secret).match? kind path =
      (tables.match? kind path).map (Credential.hide secret) := by
  simp only [match?, of_hide, List.find?_map, Option.map_map]
  rfl

@[simp] theorem hide_id : tables.hide id = tables := by
  simp only [hide, funext Grant.hide_id, List.map_id']

end KeyTables

/-- The keyring with the secrets of all records replaced. -/
def Keyring.hide (secret : Text → Text) (keyring : Keyring) : Keyring :=
  { keyring with tables := keyring.tables.hide secret }

@[simp] theorem Keyring.hide_id (keyring : Keyring) : keyring.hide id = keyring := by
  rw [Keyring.hide, KeyTables.hide_id]

/-! ## Calls -/

/-- A text replaced; other values stay. -/
def Json.hideText (secret : Text → Text) : Json → Json
  | .text value => .text (secret value)
  | value => value

/-- The members of a record with the texts of the named ones replaced. -/
def Json.hideMembers (secret : Text → Text) (names : List Text) (members : List (Text × Json)) :
    List (Text × Json) :=
  members.map fun member =>
    (member.1, if member.1 ∈ names then member.2.hideText secret else member.2)

theorem Json.hideMembers_id (names : List Text) (members : List (Text × Json)) :
    hideMembers id names members = members := by
  have htext (value : Json) : value.hideText id = value := by
    cases value with
    | text value => rfl
    | _ => rfl
  simp only [hideMembers, htext, ite_self, List.map_id']

namespace S3

/-- The settings of a session that are secret. -/
def secretSettings : List Text :=
  ["aws_secret_access_key".toList, "aws_session_token".toList]

/-- The settings with the secret ones replaced. -/
def hideSettings (secret : Text → Text) (settings : List (Text × Json)) : List (Text × Json) :=
  Json.hideMembers secret secretSettings settings

/-- Which settings a session is opened with does not depend on the secrets but for being empty. -/
theorem sessionSettings_hide {secret : Text → Text}
    (h : ∀ value, (secret value).isEmpty = value.isEmpty) (key : Option S3Key) :
    sessionSettings (key.map (S3Key.hide secret)) = hideSettings secret (sessionSettings key) := by
  cases key with
  | none => rfl
  | some key =>
      have horNull (value : Text) : orNull (secret value) = (orNull value).hideText secret := by
        rw [orNull, orNull, h]
        cases value.isEmpty with
        | true => rfl
        | false => rfl
      simp only [Option.map_some, sessionSettings, S3Key.hide, h]
      cases key.keyId.isEmpty || key.secretKey.isEmpty with
      | true => simp [hideSettings, Json.hideMembers, secretSettings]
      | false => simp [hideSettings, Json.hideMembers, secretSettings, horNull, Json.hideText]

end S3

namespace Azure

/-- The account with its key replaced. -/
def Account.hide (secret : Text → Text) (account : Account) : Account :=
  { account with key := secret account.key }

/-- The account that a credential states, or that of the path's host if it states none. -/
theorem accountFor_some {path : Option Text} {host : Text} (h : hostOf path = .ok host)
    (environment : Environment) (key : AzureKey) :
    accountFor environment path (some key) =
      if (if key.account.isEmpty then accountOfHost host else key.account).isEmpty then
        .error (.noAccount path)
      else
        .ok ⟨if key.account.isEmpty then accountOfHost host else key.account, key.accountKey⟩ := by
  unfold accountFor
  rw [h]
  rfl

/-- Neither the name of an account nor its refusal depends on its key. -/
theorem accountFor_hide {secret : Text → Text} (environment : Environment) (path : Option Text)
    (key : AzureKey) :
    accountFor environment path (some (key.hide secret)) =
      (accountFor environment path (some key)).map (Account.hide secret) := by
  cases hhost : hostOf path with
  | error fault =>
      unfold accountFor
      rw [hhost]
      rfl
  | ok host =>
      have hname (name : Text) :
          (if name.isEmpty then .error (.noAccount path) else .ok ⟨name, secret key.accountKey⟩) =
            (if name.isEmpty then Except.error (Fault.noAccount path)
              else .ok ⟨name, key.accountKey⟩).map (Account.hide secret) := by
        split
        · rfl
        · rfl
      rw [accountFor_some hhost, accountFor_some hhost]
      exact hname _

end Azure

namespace Call

/-- The call with the secrets among its arguments replaced. -/
def hide (secret : Text → Text) : Call → Call
  | .openS3Session settings => .openS3Session (S3.hideSettings secret settings)
  | .openAzureClient client url credential =>
      .openAzureClient client url (credential.map fun account => (account.1, secret account.2))
  | .buildBackend kind path credential =>
      .buildBackend kind path (credential.map (Credential.hide secret))
  | call => call

/-- Does the call hand over what may be secret? -/
def isEntrusted : Call → Bool
  | .openS3Session _ | .openAzureClient .. | .buildBackend .. => true
  | _ => false

/-- Other calls than these show the same whatever is hidden. -/
theorem hide_eq_self {secret : Text → Text} {call : Call} (h : call.isEntrusted = false) :
    call.hide secret = call := by
  cases call with
  | openS3Session settings => cases h
  | openAzureClient client url credential => cases h
  | buildBackend kind path credential => cases h
  | _ => rfl

theorem isEntrusted_hide (secret : Text → Text) (call : Call) :
    (call.hide secret).isEntrusted = call.isEntrusted := by
  cases call with
  | _ => rfl

@[simp] theorem hide_id (call : Call) : call.hide id = call := by
  cases call with
  | openS3Session settings => rw [hide, S3.hideSettings, Json.hideMembers_id]
  | openAzureClient client url credential => cases credential <;> rfl
  | buildBackend kind path credential => cases credential <;> simp [hide]
  | _ => rfl

end Call

/-- The client of an account is opened with its hidden key where the key is hidden. -/
theorem Azure.hide_openAzureClient {secret : Text → Text}
    (h : ∀ value, (secret value).isEmpty = value.isEmpty) (client : Nat) (account : Account) :
    (Call.openAzureClient client account.url
        (if account.key.isEmpty then none else some (account.name, account.key))).hide secret =
      .openAzureClient client (account.hide secret).url
        (if (account.hide secret).key.isEmpty then none
          else some ((account.hide secret).name, (account.hide secret).key)) := by
  simp only [Account.hide, h, Call.hide]
  cases account.key.isEmpty with
  | true => rfl
  | false => rfl

end ArtifactDepot
