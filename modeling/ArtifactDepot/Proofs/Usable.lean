import ArtifactDepot.Proofs.Grammar
import ArtifactDepot.Proofs.Grants
import ArtifactDepot.Proofs.Resolution

/-!
# Usable documents

Which credential documents can be used is said of the documents themselves: of
the grammar, of the sections and of the records in them.  Every stage of a
load judges by that (`Judges`).  It succeeds exactly on what can be used, and
fails otherwise with a fault that names the document.  There are contents that
never come so far, because the decoding or the reader gives up on them
(`Upsets`), and what these raise is not a fault.
-/

namespace ArtifactDepot

open ArtifactDepot.Action

/-- A reading succeeds exactly on what is valid, and else fails with a fault of the document. -/
def Judges (config : Text) (valid : Prop) {α : Type} : Except Fault α → Prop
  | .ok _ => valid
  | .error fault => ¬ valid ∧ fault.kind = .credentialConfig ∧ fault.path? = some config

namespace Judges

variable {α β : Type} {config : Text} {valid validNext : Prop} {first : Except Fault α}

theorem map (h : Judges config valid first) (f : α → β) : Judges config valid (first.map f) := by
  cases first with
  | ok value => exact h
  | error fault => exact h

/-- A sequence judges by both of its parts. -/
theorem bind {next : α → Except Fault β} (h : Judges config valid first)
    (hnext : ∀ value, Judges config validNext (next value)) :
    Judges config (valid ∧ validNext) (first >>= next) := by
  cases first with
  | error fault => exact ⟨fun hboth => h.1 hboth.1, h.2⟩
  | ok value =>
      change Judges config (valid ∧ validNext) (next value)
      have hlast := hnext value
      cases hvalue : next value with
      | ok result =>
          rw [hvalue] at hlast
          exact ⟨h, hlast⟩
      | error fault =>
          rw [hvalue] at hlast
          exact ⟨fun hboth => hlast.1 hboth.2, hlast.2⟩

end Judges

/-! ## Records -/

namespace Credential

variable {kind : Kind} {members : List (Text × Json)} {name : String} {value : Json}

/-- The fields that a record of a kind can have. -/
def fieldNames : Kind → List String
  | .gcs => []
  | .s3 => ["secret_key", "key_id", "region", "session_token"]
  | .azure | .disk => ["account_str", "account_key"]

/-- What a record of a kind is in a document. -/
inductive IsValid : Kind → Json → Prop where
  /-- For Cloud Storage the path of a key file. -/
  | keyFile (path : Text) : IsValid .gcs (.text path)
  /-- Elsewhere a record: what it has of the fields is text, whatever else is in it. -/
  | fields {kind : Kind} {members : List (Text × Json)} (hkind : kind ≠ .gcs)
      (htexts : ∀ name ∈ fieldNames kind, ∀ value, members.lookup name.toList = some value →
        ∃ text, value = .text text) : IsValid kind (.record members)

theorem complaint?_field_eq_none_iff : complaint? (field members name) = none ↔
    ∀ value, members.lookup name.toList = some value → ∃ text, value = .text text := by
  unfold field
  cases members.lookup name.toList with
  | none => exact ⟨fun _ => nofun, fun _ => rfl⟩
  | some found =>
      cases found with
      | text text =>
          exact ⟨fun _ value h => ⟨text, (Option.some.inj h).symm⟩, fun _ => rfl⟩
      | _ => exact ⟨nofun, fun h => absurd (h _ rfl) nofun⟩

/-- A record is built exactly if there is no complaint about any of its fields. -/
theorem checked_map_ok_iff {α β : Type} {fields : List (Except Complaint Text)} {record : α}
    {f : α → β} : (∃ built, (checked fields record).map f = .ok built) ↔
      ∀ read ∈ fields, complaint? read = none := by
  rw [← List.filterMap_eq_nil_iff, checked]
  cases fields.filterMap complaint? with
  | nil => exact ⟨fun _ => rfl, fun _ => ⟨_, rfl⟩⟩
  | cons complaint complaints => exact ⟨nofun, nofun⟩

/-- The validation accepts the valid records and no others. -/
theorem ofJson_ok_iff : (∃ credential, ofJson kind value = .ok credential) ↔
    IsValid kind value := by
  have hfields (members : List (Text × Json)) (hkind : kind ≠ .gcs) :
      IsValid kind (.record members) ↔
        ∀ read ∈ (fieldNames kind).map (field members), complaint? read = none := by
    simp only [List.forall_mem_map, complaint?_field_eq_none_iff]
    constructor
    · intro h
      cases h with
      | fields _ htexts => exact htexts
    · exact .fields hkind
  cases kind with
  | gcs =>
      cases value with
      | text path => exact ⟨fun _ => .keyFile path, fun _ => ⟨_, rfl⟩⟩
      | _ => exact ⟨nofun, nofun⟩
  | _ =>
      cases value with
      | record members => exact checked_map_ok_iff.trans (hfields members nofun).symm
      | _ => exact ⟨nofun, nofun⟩

end Credential

/-! ## Sections -/

namespace KeyTables

variable {config chapter : Text} {kind : Kind} {member : Text × Json}
  {members parts : List (Text × Json)} {document : Json}

/-- A section of records of a kind: there are none if it is null. -/
inductive IsSection (kind : Kind) : Json → Prop where
  | null : IsSection kind .null
  | record {members : List (Text × Json)}
      (hmembers : ∀ member ∈ members, Credential.IsValid kind member.2) :
      IsSection kind (.record members)

/-- What a document has as the section of a kind is one. -/
def Suits (parts : List (Text × Json)) (kind : Kind) : Prop :=
  ∀ chapter, kind.section? = some chapter →
    ∀ part, parts.lookup chapter = some part → IsSection kind part

/-- A document that can be used is a record, and it may lack the section of any kind. -/
def IsUsable (document : Json) : Prop :=
  ∃ parts, document = .record parts ∧ ∀ kind, Suits parts kind

theorem judges_readGrant :
    Judges config (Credential.IsValid kind member.2) (readGrant kind config chapter member) := by
  unfold readGrant
  cases hcredential : Credential.ofJson kind member.2 with
  | ok credential => exact Credential.ofJson_ok_iff.1 ⟨credential, hcredential⟩
  | error complaints =>
      refine ⟨fun hvalid => ?_, rfl, rfl⟩
      obtain ⟨credential, hvalue⟩ := Credential.ofJson_ok_iff.2 hvalid
      rw [hcredential] at hvalue
      cases hvalue

theorem judges_mapM :
    Judges config (∀ member ∈ members, Credential.IsValid kind member.2)
      (members.mapM (readGrant kind config chapter)) := by
  induction members with
  | nil => exact fun member hmember => absurd hmember List.not_mem_nil
  | cons member members ih =>
      rw [List.mapM_cons, List.forall_mem_cons]
      refine judges_readGrant.bind fun grant => ?_
      exact ih.map (grant :: ·)

theorem judges_readSection (hsection : kind.section? = some chapter) :
    Judges config (Suits parts kind) (readSection kind config chapter parts) := by
  simp only [Suits, hsection, Option.some.injEq, forall_eq']
  unfold readSection
  cases parts.lookup chapter with
  | none => exact nofun
  | some part =>
      simp only [Option.some.injEq, forall_eq']
      cases part with
      | null => exact .null
      | record members =>
          have hrecord : IsSection kind (.record members) ↔
              ∀ member ∈ members, Credential.IsValid kind member.2 :=
            ⟨fun (.record hmembers) => hmembers, .record⟩
          rw [hrecord]
          exact judges_mapM
      | _ => exact ⟨nofun, rfl, rfl⟩

theorem judges_readTable : Judges config (Suits parts kind) (readTable kind config parts) := by
  unfold readTable
  split
  · next hnone =>
      intro chapter hsection
      rw [hnone] at hsection
      cases hsection
  · next chapter hsection => exact (judges_readSection hsection).map _

/-- The tables are read from the documents that can be used. -/
theorem judges_ofJson : Judges config (IsUsable document) (ofJson config document) := by
  cases document with
  | record parts =>
      -- The last part is for handing over the tables, which never fails.
      have hall : IsUsable (.record parts) ↔
          Suits parts .gcs ∧ Suits parts .s3 ∧ Suits parts .azure ∧ True := by
        constructor
        · rintro ⟨_, hparts, h⟩
          cases hparts
          exact ⟨h .gcs, h .s3, h .azure, trivial⟩
        · rintro ⟨hgcs, hs3, hazure, -⟩
          refine ⟨parts, rfl, fun kind => ?_⟩
          cases kind with
          | disk => exact nofun
          | gcs => exact hgcs
          | s3 => exact hs3
          | azure => exact hazure
      rw [hall]
      exact judges_readTable.bind fun gcs => judges_readTable.bind fun s3 =>
        judges_readTable.bind fun azure => trivial
  | _ => exact ⟨fun ⟨_, hparts, _⟩ => (nomatch hparts), rfl, rfl⟩

end KeyTables

/-! ## Contents -/

namespace Keyring

open Json

variable {config : Text} {content : ByteArray} {text : String} {document : Json}
  {incident : Incident} {nesting number : Nat} {force : Bool} {site : Site}

/-- The bytes of a document that can be used, however deep its containers lie. -/
def IsUsable (content : ByteArray) : Prop :=
  ∃ text document depth, String.fromUTF8? content = some text ∧
    Spells depth (tokens text.toList) (.value document) ∧ KeyTables.IsUsable document

/--
The bytes that are given up on before there is a document to judge, where containers may lie so
deep, and what that raises.
-/
inductive Upsets (nesting : Nat) (content : ByteArray) : Incident → Prop where
  | notUtf8 (htext : String.fromUTF8? content = none) : Upsets nesting content .notUtf8
  | numberTooLong {text : String} (htext : String.fromUTF8? content = some text)
      (hstops : Stops nesting (tokens text.toList) .numberTooLong) :
      Upsets nesting content .numberTooLong
  | nestedTooDeep {text : String} (container : Container)
      (htext : String.fromUTF8? content = some text)
      (hstops : Stops nesting (tokens text.toList) (.nestedTooDeep container)) :
      Upsets nesting content (.nestedTooDeep container)

theorem parse_longNumber_iff : Json.parse nesting text.toList = .error .numberTooLong ↔
    Stops nesting (tokens text.toList) .numberTooLong := parse_stops_iff nofun

theorem parse_tooDeep_iff {container : Container} :
    Json.parse nesting text.toList = .error (.nestedTooDeep container) ↔
      Stops nesting (tokens text.toList) (.nestedTooDeep container) := parse_stops_iff nofun

theorem tablesOf_incident_iff (config : Text) :
    tablesOf nesting config content = .error (.incident incident) ↔
      Upsets nesting content incident := by
  constructor
  · intro h
    rw [tablesOf] at h
    cases htext : String.fromUTF8? content with
    | none =>
        rw [htext] at h
        cases h
        exact .notUtf8 htext
    | some text =>
        simp only [htext] at h
        cases hparse : parse nesting text.toList with
        | error flaw =>
            rw [hparse] at h
            cases flaw with
            | malformed => cases h
            | numberTooLong =>
                cases h
                exact .numberTooLong htext (parse_longNumber_iff.1 hparse)
            | nestedTooDeep container =>
                cases h
                exact .nestedTooDeep container htext (parse_tooDeep_iff.1 hparse)
        | ok document =>
            simp only [hparse] at h
            cases htables : KeyTables.ofJson config document <;> rw [htables] at h <;> cases h
  · intro h
    cases h with
    | notUtf8 htext => simp only [tablesOf, htext]
    | numberTooLong htext hstops =>
        simp only [tablesOf, htext, parse_longNumber_iff.2 hstops]
    | nestedTooDeep container htext hstops =>
        simp only [tablesOf, htext, parse_tooDeep_iff.2 hstops]

/-- A content that can be used is read, or has too many containers that lie inside each other. -/
theorem IsUsable.parse (h : IsUsable content) (htext : String.fromUTF8? content = some text) :
    (∃ document, Json.parse nesting text.toList = .ok document ∧ KeyTables.IsUsable document) ∨
      ∃ container, Json.parse nesting text.toList = .error (.nestedTooDeep container) := by
  obtain ⟨_, document, depth, htext', hspells, husable⟩ := h
  cases htext.symm.trans htext'
  rcases parse_of_spells hspells with hparse | ⟨-, hdeep⟩
  · exact .inl ⟨document, hparse, husable⟩
  · exact .inr hdeep

theorem isUsable_iff (htext : String.fromUTF8? content = some text)
    (hparse : Json.parse nesting text.toList = .ok document) :
    IsUsable content ↔ KeyTables.IsUsable document := by
  constructor
  · intro h
    rcases h.parse htext with ⟨_, hparse', husable⟩ | ⟨container, hdeep⟩
    · cases hparse.symm.trans hparse'
      exact husable
    · cases hparse.symm.trans hdeep
  · exact fun husable => ⟨text, document, nesting, htext, parse_ok_iff.1 hparse, husable⟩

/-- What is not given up on is judged. -/
theorem judges_tablesOf (config : Text)
    (hcalm : ∀ incident, ¬ Upsets nesting content incident) :
    ∃ outcome, tablesOf nesting config content = outcome.mapError Failure.fault ∧
      Judges config (IsUsable content) outcome := by
  cases htext : String.fromUTF8? content with
  | none => exact absurd (.notUtf8 htext) (hcalm _)
  | some text =>
      cases hparse : Json.parse nesting text.toList with
      | ok document =>
          refine ⟨KeyTables.ofJson config document, ?_, ?_⟩
          · simp only [tablesOf, htext, hparse]
            cases KeyTables.ofJson config document <;> rfl
          · rw [isUsable_iff htext hparse]
            exact KeyTables.judges_ofJson
      | error flaw =>
          cases flaw with
          | malformed =>
              -- What the grammar spells is never malformed, so such a content cannot be used.
              refine ⟨.error (.configMalformed config), ?_, fun husable => ?_, rfl, rfl⟩
              · simp only [tablesOf, htext, hparse]
                rfl
              · rcases husable.parse htext with ⟨_, hparse', _⟩ | ⟨_, hdeep⟩
                · cases hparse.symm.trans hparse'
                · cases hparse.symm.trans hdeep
          | numberTooLong =>
              exact absurd (.numberTooLong htext (parse_longNumber_iff.1 hparse)) (hcalm _)
          | nestedTooDeep container =>
              exact absurd (.nestedTooDeep container htext (parse_tooDeep_iff.1 hparse)) (hcalm _)

/-! ## Loads -/

/-- A load that reads a content ends as the content has it. -/
theorem result_of_read (hwanted : (site.keyring number).cached = true → force = true)
    (hconfig : site.config? number = some config)
    (hstrike : Rule.strike? (Call.readConfig config).row site.rules = none)
    (hread : site.disk.read config = .ok content) :
    (load number force).result site =
      (tablesOf site.nesting config content).map fun _ => .loaded := by
  have hgo : ¬ ((site.keyring number).cached && !force) = true := by
    intro h
    rw [Bool.and_eq_true, Bool.not_eq_true'] at h
    rw [hwanted h.1] at h
    cases h.2
  have htables : readTables config site = _ := bind_ok (readConfig_ok hstrike hread)
  have hnesting : (asked site config site.rules).nesting = site.nesting := rfl
  rw [Action.get_bind, hnesting] at htables
  rw [Action.result, load_eq, if_neg hgo]
  simp only [hconfig]
  cases hresult : tablesOf site.nesting config content with
  | ok tables =>
      rw [hresult] at htables
      rw [bind_ok htables]
      rfl
  | error failure =>
      rw [hresult] at htables
      rw [bind_error htables]
      rfl

/-- A resolution ends with the failure of its first load. -/
theorem serve_of_load_error {pool : Pool} {request : Pool.Request} {kind : Kind}
    {path : Option Text} {failure : Failure}
    (hroute : request.route site.installed = .ok (kind, path)) (hkind : kind ≠ .disk)
    (hload : (load pool.keyring false).result site = .error failure) :
    (pool.serve request).result site = .error failure := by
  rw [Action.result, Pool.serve_eq, hroute]
  simp only [Pool.resolveKind, if_neg hkind, Pool.resolveRemote]
  obtain ⟨site', hrun⟩ := Action.error_of_result hload
  rw [bind_error hrun]

/--
A load that reads a document ends well exactly if the document can be used, and otherwise with a
fault that names it.  The exception are the contents that are given up on: what these raise leaves
the load as it is.  Whatever the first load of a resolution ends with, the resolution does too.
-/
theorem load_reports_content (hwanted : (site.keyring number).cached = true → force = true)
    (hconfig : site.config? number = some config)
    (hstrike : Rule.strike? (Call.readConfig config).row site.rules = none)
    (hread : site.disk.read config = .ok content) :
    (∀ incident, (load number force).result site = .error (.incident incident) ↔
        Upsets site.nesting content incident) ∧
      ((∀ incident, ¬ Upsets site.nesting content incident) →
        ((load number force).result site = .ok .loaded ↔ IsUsable content) ∧
          (¬ IsUsable content → ∃ fault, (load number force).result site = .error (.fault fault) ∧
            fault.kind = .credentialConfig ∧ fault.path? = some config)) ∧
        ∀ (pool : Pool) (request : Pool.Request) kind path failure,
          pool.keyring = number → force = false →
            request.route site.installed = .ok (kind, path) → kind ≠ .disk →
              (load number force).result site = .error failure →
                (pool.serve request).result site = .error failure := by
  have hresult := result_of_read hwanted hconfig hstrike hread
  refine ⟨fun incident => ?_, fun hcalm => ?_, ?_⟩
  · rw [hresult, ← tablesOf_incident_iff config]
    cases tablesOf site.nesting config content with
    | ok tables => exact ⟨nofun, nofun⟩
    | error failure => simp only [Except.map, Except.error.injEq]
  · obtain ⟨outcome, htables, hjudged⟩ := judges_tablesOf config hcalm
    rw [hresult, htables]
    cases outcome with
    | ok tables => exact ⟨⟨fun _ => hjudged, fun _ => rfl⟩, fun hnot => absurd hjudged hnot⟩
    | error fault =>
        refine ⟨⟨nofun, fun husable => absurd husable hjudged.1⟩, fun _ => ⟨fault, rfl, hjudged.2⟩⟩
  · intro pool request kind path failure hpool hforce hroute hkind hload
    subst hpool hforce
    exact serve_of_load_error hroute hkind hload

/-- The text of a document that is no record. -/
def listText : String := "[]"

/-- A site with that document. -/
def listSite : Site := documentSite listText.toUTF8

theorem parse_listText : Json.parse listSite.nesting listText.toList = .ok (.list []) := by
  with_unfolding_all rfl

theorem calm_listText (incident : Incident) :
    ¬ Upsets listSite.nesting listText.toUTF8 incident := by
  intro h
  have htables : tablesOf listSite.nesting [] listText.toUTF8 =
      .error (.fault (.configNotRecord [])) := by
    with_unfolding_all rfl
  cases htables.symm.trans ((tablesOf_incident_iff []).2 h)

/-- A list is refused with a fault, and a byte that no text has leaves the resolution as it is. -/
theorem load_reports_content_not_text :
    (∃ fault, (load 0 false).result listSite = .error (.fault fault) ∧
      fault.kind = .credentialConfig ∧ fault.path? = some "keys".toList) ∧
    (Pool.serve ⟨0, 0, []⟩ (.ofKind .s3)).result (documentSite ⟨#[0xff]⟩) =
      .error (.incident .notUtf8) := by
  have hwanted (content : ByteArray) :
      ((documentSite content).keyring 0).cached = true → false = true := nofun
  have hconfig (content : ByteArray) : (documentSite content).config? 0 = some "keys".toList := rfl
  have hread (content : ByteArray) :
      (documentSite content).disk.read "keys".toList = .ok content := rfl
  constructor
  · have hlist := load_reports_content (hwanted _) (hconfig _) rfl (hread listText.toUTF8)
    refine (hlist.2.1 calm_listText).2 fun husable => ?_
    obtain ⟨parts, hparts, -⟩ := (isUsable_iff rfl parse_listText).1 husable
    cases hparts
  · obtain ⟨hincident, -, hserve⟩ :=
      load_reports_content (hwanted _) (hconfig _) rfl (hread ⟨#[0xff]⟩)
    exact hserve _ _ .s3 none _ rfl rfl rfl nofun ((hincident _).2 (.notUtf8 (by decide)))

end Keyring

end ArtifactDepot
