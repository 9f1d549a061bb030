import Mathlib
import ArtifactDepot.Proofs.Veil

/-!
# Documents that differ in secrets

Two sections of a credential document hold records with secret fields.  The
tables of a document with hidden secrets are those of the document itself with
their secrets hidden (`KeyTables.ofJson_hideSecrets`).  So documents that differ
in secrets only are refused alike, or stand for tables that show the same, and
there is a sight to which two such documents are one (`Sight.between`).
-/

namespace ArtifactDepot

/-! ## Documents with hidden secrets -/

/-- The fields of a record that are secret. -/
def Kind.secretFields : Kind → List Text
  | .gcs => []
  | .s3 => ["secret_key".toList, "session_token".toList]
  | .azure | .disk => ["account_key".toList]

/-- The fields that are secret in the records of a section. -/
def Kind.secretFieldsOf (chapter : Text) : List Text :=
  ((Kind.remote.find? (·.section? = some chapter)).map Kind.secretFields).getD []

theorem Kind.secretFieldsOf_section {kind : Kind} {chapter : Text}
    (h : kind.section? = some chapter) : secretFieldsOf chapter = kind.secretFields := by
  cases kind with
  | disk => cases h
  | gcs =>
      cases h
      rfl
  | s3 =>
      cases h
      rfl
  | azure =>
      cases h
      rfl

namespace Json

variable (secret : Text → Text)

/-- The record with the texts of the named members replaced. -/
def hideFields (names : List Text) : Json → Json
  | .record members => .record (hideMembers secret names members)
  | value => value

/-- The section with the texts of the named members of its records replaced. -/
def hideSection (names : List Text) : Json → Json
  | .record members =>
      .record (members.map fun member => (member.1, member.2.hideFields secret names))
  | value => value

/-- The credential document with its secrets replaced. -/
def hideSecrets : Json → Json
  | .record document =>
      .record (document.map fun part =>
        (part.1, part.2.hideSection secret (Kind.secretFieldsOf part.1)))
  | value => value

end Json

/-! ## Records that are read from them -/

namespace Credential

variable {secret : Text → Text} (hnone : secret [] = [])

theorem complaint?_map (change : Text → Text) (read : Except Complaint Text) :
    complaint? (read.map change) = complaint? read := by
  cases read with
  | ok value => rfl
  | error complaint => rfl

theorem checked_map {α β : Type} (fields : List (Except Complaint Text)) (change : α → β)
    (record : α) : checked fields (change record) = (checked fields record).map change := by
  unfold checked
  split
  · rfl
  · rfl

include hnone

theorem valueOf_map (read : Except Complaint Text) :
    valueOf (read.map secret) = secret (valueOf read) := by
  cases read with
  | ok value => rfl
  | error complaint => exact hnone.symm

/-- A field is read from a record with hidden secrets as it is hidden. -/
theorem field_hideMembers (names : List Text) (members : List (Text × Json)) (name : String) :
    field (Json.hideMembers secret names members) name =
      if name.toList ∈ names then (field members name).map secret else field members name := by
  have hlookup := Entries.lookup_map
    (fun name (value : Json) => if name ∈ names then value.hideText secret else value)
    name.toList members
  unfold field Json.hideMembers
  rw [hlookup]
  by_cases hname : name.toList ∈ names
  · simp only [if_pos hname]
    cases members.lookup name.toList with
    | none => exact congrArg Except.ok hnone.symm
    | some value =>
        cases value with
        | _ => rfl
  · simp only [if_neg hname, Option.map_id_fun', id]

theorem ofS3Json_hideFields (value : Json) :
    ofS3Json (value.hideFields secret Kind.s3.secretFields) =
      (ofS3Json value).map (S3Key.hide secret) := by
  cases value with
  | record members =>
      have hsecret : "secret_key".toList ∈ Kind.s3.secretFields := by decide
      have htoken : "session_token".toList ∈ Kind.s3.secretFields := by decide
      have hid : "key_id".toList ∉ Kind.s3.secretFields := by decide
      have hregion : "region".toList ∉ Kind.s3.secretFields := by decide
      simp only [Json.hideFields, ofS3Json, field_hideMembers hnone, if_pos hsecret, if_pos htoken,
        if_neg hid, if_neg hregion, valueOf_map hnone]
      -- The same fields are complained about, since hiding keeps a text a text.
      rw [← checked_map]
      simp only [checked, List.filterMap_cons, complaint?_map]
      rfl
  | _ => rfl

theorem ofAzureJson_hideFields (value : Json) :
    ofAzureJson (value.hideFields secret Kind.azure.secretFields) =
      (ofAzureJson value).map (AzureKey.hide secret) := by
  cases value with
  | record members =>
      have hsecret : "account_key".toList ∈ Kind.azure.secretFields := by decide
      have haccount : "account_str".toList ∉ Kind.azure.secretFields := by decide
      simp only [Json.hideFields, ofAzureJson, field_hideMembers hnone, if_pos hsecret,
        if_neg haccount, valueOf_map hnone]
      rw [← checked_map]
      simp only [checked, List.filterMap_cons, complaint?_map]
      rfl
  | _ => rfl

/-- A record is read from a value with hidden secrets as it is hidden. -/
theorem ofJson_hideFields (kind : Kind) (value : Json) :
    ofJson kind (value.hideFields secret kind.secretFields) =
      (ofJson kind value).map (Credential.hide secret) := by
  have hazure :
      (ofAzureJson (value.hideFields secret Kind.azure.secretFields)).map Credential.azure =
        ((ofAzureJson value).map Credential.azure).map (Credential.hide secret) := by
    rw [ofAzureJson_hideFields hnone]
    cases ofAzureJson value with
    | ok key => rfl
    | error complaints => rfl
  cases kind with
  | disk => exact hazure
  | azure => exact hazure
  | gcs =>
      cases value with
      | _ => rfl
  | s3 =>
      simp only [ofJson, ofS3Json_hideFields hnone]
      cases ofS3Json value with
      | ok key => rfl
      | error complaints => rfl

end Credential

/-! ## Tables that are read from them -/

namespace KeyTables

variable {secret : Text → Text}

/-- Secrets have no say in the match order. -/
theorem inMatchOrder_hide (grants : List Grant) :
    Grant.inMatchOrder (grants.map (Grant.hide secret)) =
      (Grant.inMatchOrder grants).map (Grant.hide secret) := by
  have horder : ∀ left ∈ grants, ∀ right ∈ grants,
      left.precedes right = (left.hide secret).precedes (right.hide secret) :=
    fun _ _ _ _ => rfl
  exact (List.map_mergeSort horder).symm

variable (hnone : secret [] = [])

include hnone

theorem readGrant_hideFields (kind : Kind) (config chapter name : Text) (value : Json) :
    readGrant kind config chapter (name, value.hideFields secret kind.secretFields) =
      (readGrant kind config chapter (name, value)).map (Grant.hide secret) := by
  simp only [readGrant, Credential.ofJson_hideFields hnone]
  cases Credential.ofJson kind value with
  | ok credential => rfl
  | error complaints => rfl

theorem mapM_readGrant (kind : Kind) (config chapter : Text) (members : List (Text × Json)) :
    (members.map fun member => (member.1, member.2.hideFields secret kind.secretFields)).mapM
        (readGrant kind config chapter) =
      (members.mapM (readGrant kind config chapter)).map (List.map (Grant.hide secret)) := by
  induction members with
  | nil => rfl
  | cons member others ih =>
      rw [List.map_cons, List.mapM_cons, List.mapM_cons, ih, readGrant_hideFields hnone]
      cases readGrant kind config chapter (member.1, member.2) with
      | error fault => rfl
      | ok grant =>
          cases others.mapM (readGrant kind config chapter) with
          | error fault => rfl
          | ok grants => rfl

theorem readSection_hideSecrets {kind : Kind} {chapter : Text}
    (hchapter : kind.section? = some chapter) (config : Text) (document : List (Text × Json)) :
    readSection kind config chapter (document.map fun part =>
        (part.1, part.2.hideSection secret (Kind.secretFieldsOf part.1))) =
      (readSection kind config chapter document).map (List.map (Grant.hide secret)) := by
  have hlookup := Entries.lookup_map
    (fun name (value : Json) => value.hideSection secret (Kind.secretFieldsOf name)) chapter
    document
  unfold readSection
  rw [hlookup, Kind.secretFieldsOf_section hchapter]
  cases document.lookup chapter with
  | none => rfl
  | some value =>
      cases value with
      | record members => exact mapM_readGrant hnone kind config chapter members
      | _ => rfl

theorem readTable_hideSecrets (kind : Kind) (config : Text) (document : List (Text × Json)) :
    readTable kind config (document.map fun part =>
        (part.1, part.2.hideSection secret (Kind.secretFieldsOf part.1))) =
      (readTable kind config document).map (List.map (Grant.hide secret)) := by
  unfold readTable
  cases hchapter : kind.section? with
  | none => rfl
  | some chapter =>
      dsimp only
      rw [readSection_hideSecrets hnone hchapter]
      cases readSection kind config chapter document with
      | ok grants => exact congrArg Except.ok (inMatchOrder_hide grants)
      | error fault => rfl

/-- The tables of a document with hidden secrets are those of the document as they are hidden. -/
theorem ofJson_hideSecrets (config : Text) (document : Json) :
    ofJson config (document.hideSecrets secret) =
      (ofJson config document).map (KeyTables.hide secret) := by
  cases document with
  | record document =>
      simp only [Json.hideSecrets, ofJson, readTable_hideSecrets hnone]
      cases readTable .gcs config document with
      | error fault => rfl
      | ok gcs =>
          cases readTable .s3 config document with
          | error fault => rfl
          | ok s3 =>
              cases readTable .azure config document with
              | error fault => rfl
              | ok azure => rfl
  | _ => rfl

end KeyTables

/-! ## The sight that takes two documents for one -/

/-- A secret shows only whether it is empty. -/
def Text.masked (value : Text) : Text := if value.isEmpty then [] else ['*']

theorem Text.isEmpty_masked (value : Text) : value.masked.isEmpty = value.isEmpty := by
  cases value with
  | nil => rfl
  | cons first rest => rfl

/-- The value that a content spells, if so many containers may be open at once. -/
def Json.ofContent? (nesting : Nat) (content : ByteArray) : Option Json :=
  (String.fromUTF8? content).bind fun text => (Json.parse nesting text.toList).toOption

/-- Two contents spell documents that differ in no more than secrets that are not empty. -/
def Keyring.DifferInSecrets (nesting : Nat) (first second : ByteArray) : Prop :=
  ∃ document document', Json.ofContent? nesting first = some document ∧
    Json.ofContent? nesting second = some document' ∧
      document'.hideSecrets Text.masked = document.hideSecrets Text.masked

namespace Keyring

variable {nesting : Nat} {first second : ByteArray}

/-- The tables of a content are those of the value that it spells. -/
theorem tablesOf_eq {content : ByteArray} {document : Json} (config : Text)
    (h : Json.ofContent? nesting content = some document) :
    (String.fromUTF8? content).isSome = true ∧
      tablesOf nesting config content =
        (KeyTables.ofJson config document).mapError Failure.fault := by
  obtain ⟨text, htext, hparse⟩ := Option.bind_eq_some_iff.1 h
  cases hjson : Json.parse nesting text.toList with
  | error flaw =>
      rw [hjson] at hparse
      cases hparse
  | ok found =>
      rw [hjson] at hparse
      cases hparse
      unfold tablesOf
      rw [htext]
      simp only [hjson]
      refine ⟨rfl, ?_⟩
      cases KeyTables.ofJson config document with
      | ok tables => rfl
      | error fault => rfl

theorem DifferInSecrets.legible_eq (h : DifferInSecrets nesting first second) :
    (String.fromUTF8? second).isSome = (String.fromUTF8? first).isSome := by
  obtain ⟨_, _, hfirst, hsecond, -⟩ := h
  rw [(tablesOf_eq [] hfirst).1, (tablesOf_eq [] hsecond).1]

/-- Documents that differ in secrets are refused alike, or stand for tables that show the same. -/
theorem DifferInSecrets.tables_eq (h : DifferInSecrets nesting first second) (config : Text) :
    (tablesOf nesting config second).map (KeyTables.hide Text.masked) =
      (tablesOf nesting config first).map (KeyTables.hide Text.masked) := by
  obtain ⟨document, document', hfirst, hsecond, hmasked⟩ := h
  have htables := congrArg (KeyTables.ofJson config) hmasked
  rw [KeyTables.ofJson_hideSecrets rfl, KeyTables.ofJson_hideSecrets rfl] at htables
  have hswap (result : Except Fault KeyTables) :
      (result.mapError Failure.fault).map (KeyTables.hide Text.masked) =
        (result.map (KeyTables.hide Text.masked)).mapError Failure.fault := by
    cases result with
    | ok tables => rfl
    | error fault => rfl
  rw [(tablesOf_eq config hfirst).2, (tablesOf_eq config hsecond).2, hswap, hswap, htables]

end Keyring

namespace Sight

variable {nesting : Nat} {first second : ByteArray}

/-- The content, or the first one for the second one. -/
def taking (first second content : ByteArray) : ByteArray :=
  if content = second then first else content

/-- What is the same for both is not changed by taking the one for the other. -/
theorem view_taking {α : Type} {view : ByteArray → α} (h : view second = view first)
    (content : ByteArray) : view (taking first second content) = view content := by
  unfold taking
  split
  · next hsecond => rw [hsecond, h]
  · rfl

theorem view_eq_of_taking_eq {α : Type} (view : ByteArray → α) (h : view second = view first)
    {content content' : ByteArray}
    (htaken : taking first second content = taking first second content') :
    view content = view content' := by
  rw [← view_taking h content, htaken, view_taking h]

/-- The sight that takes the second document for the first, and shows of a secret if it is empty. -/
def between (h : Keyring.DifferInSecrets nesting first second) : Sight where
  content := taking first second
  secret := Text.masked
  isEmpty_secret := Text.isEmpty_masked
  Suits := (· = nesting)
  legible := view_eq_of_taking_eq (fun content => (String.fromUTF8? content).isSome) h.legible_eq
  tables config hsuits := by
    subst hsuits
    exact view_eq_of_taking_eq
      (fun content => (Keyring.tablesOf _ config content).map (KeyTables.hide Text.masked))
      (h.tables_eq config)

/-- Between the two, contents show the same if they are the same or one of them each. -/
theorem sameContent_between (h : Keyring.DifferInSecrets nesting first second)
    {content content' : ByteArray} :
    (between h).SameContent content content' ↔
      content = content' ∨
        (content = first ∨ content = second) ∧ (content' = first ∨ content' = second) := by
  rw [SameContent, between]
  dsimp only [taking]
  constructor
  · intro h
    split at h
    · next hsecond =>
        split at h
        · next hsecond' => exact Or.inl (hsecond'.trans hsecond.symm)
        · next hother => exact Or.inr ⟨Or.inl h.symm, Or.inr hsecond⟩
    · next hother =>
        split at h
        · next hsecond => exact Or.inr ⟨Or.inr hsecond, Or.inl h⟩
        · exact Or.inl h.symm
  · rintro (rfl | ⟨rfl | rfl, rfl | rfl⟩)
    · rfl
    · rfl
    · simp
    · simp
    · rfl

end Sight

end ArtifactDepot
