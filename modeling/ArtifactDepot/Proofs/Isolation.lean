import ArtifactDepot.Proofs.Clients
import ArtifactDepot.Proofs.Grants
import ArtifactDepot.Proofs.Resolution

/-!
# Whose credentials a backend is built with

The calls by which a backend is built tell which credential it was built with
(`Call.Uses`).  An attempt hands to the factory what the table of its keyring
grants for the path at that moment, and nothing only if the load before it has
found no document to be configured (`Pool.Handed`).  The table is that of a
document, or empty, whatever has happened to the keyring before: every deed
keeps this (`Site.Sourced.perform`).
-/

namespace ArtifactDepot

open ArtifactDepot.Action

/-! ## Credentials in calls -/

namespace Credential

/-- The kind that a record is for. -/
def kind : Credential → Kind
  | .gcs _ => .gcs
  | .s3 _ => .s3
  | .azure _ => .azure

/-- Does the record leave its client to look for credentials?  An Azure client never does. -/
def isSilent : Credential → Bool
  | .gcs key => key.keyFile.isEmpty
  | .s3 key => key.keyId.isEmpty || key.secretKey.isEmpty
  | .azure _ => false

/-- The section of a kind holds records of this kind only. -/
theorem kind_of_ofJson {kind : Kind} (hkind : kind ≠ .disk) {value : Json} {credential : Credential}
    (h : ofJson kind value = .ok credential) : credential.kind = kind := by
  have hmap {α : Type} {result : Except (List Complaint) α} {wrap : α → Credential}
      (hwrap : ∀ record, (wrap record).kind = kind) (h : result.map wrap = .ok credential) :
      credential.kind = kind := by
    cases result with
    | error complaints => cases h
    | ok record =>
        cases h
        exact hwrap record
  cases kind with
  | disk => exact absurd rfl hkind
  | gcs => exact hmap (fun _ => rfl) h
  | s3 => exact hmap (fun _ => rfl) h
  | azure => exact hmap (fun _ => rfl) h

end Credential

namespace Call

/--
The call is one by which a backend is built, and it is made for this kind and path with this
credential.  Only without a credential is the environment asked for an Azure account.
-/
def Uses (kind : Kind) (path : Option Text) (credential : Option Credential) : Call → Prop
  | .buildBackend built given handed => built = kind ∧ given = path ∧ handed = credential
  | .openGcsClient _ keyFile =>
      let stated := ((credential.bind Credential.gcs?).map (·.keyFile)).getD []
      kind = .gcs ∧ keyFile = if stated.isEmpty then none else some stated
  | .openS3Session settings =>
      kind = .s3 ∧ settings = S3.sessionSettings (credential.bind Credential.s3?)
  | .openS3Client _ endpoint => kind = .s3 ∧ S3.endpointOf path = .ok endpoint
  | .openAzureClient _ url shared =>
      kind = .azure ∧ ∃ environment account, (credential.isSome = true → environment = []) ∧
        Azure.accountFor environment path (credential.bind Credential.azure?) = .ok account ∧
          url = account.url ∧
            shared = if account.key.isEmpty then none else some (account.name, account.key)
  | _ => False

/-- Is a backend built that has to look for credentials itself? -/
def isAmbient : Call → Bool
  | .openGcsClient _ keyFile => keyFile.isNone
  | .openS3Session settings => (settings.lookup "aws_access_key_id".toList).isNone
  | .buildBackend _ _ credential => credential.isNone
  | _ => false

variable {kind : Kind} {path : Option Text} {credential : Credential} {call : Call}

/-- Only a silent record leaves it to the client to look for credentials. -/
theorem isSilent_of_isAmbient (hkind : credential.kind = kind)
    (huses : call.Uses kind path (some credential)) (hambient : call.isAmbient = true) :
    credential.isSilent = true := by
  cases call with
  | buildBackend built given handed =>
      obtain ⟨-, -, rfl⟩ := huses
      cases hambient
  | openGcsClient client keyFile =>
      obtain ⟨rfl, rfl⟩ := huses
      cases credential with
      | gcs key =>
          by_cases hempty : key.keyFile.isEmpty = true
          · exact hempty
          · simp [isAmbient, Credential.gcs?, hempty] at hambient
      | _ => cases hkind
  | openS3Session settings =>
      obtain ⟨rfl, rfl⟩ := huses
      cases credential with
      | s3 key =>
          by_cases hempty : (key.keyId.isEmpty || key.secretKey.isEmpty) = true
          · exact hempty
          · simp only [isAmbient, Credential.s3?, Option.bind_some, S3.sessionSettings,
              if_neg hempty] at hambient
            simp [List.lookup_cons] at hambient
      | _ => cases hkind
  | _ => cases hambient

end Call

/-! ## Calls that build -/

namespace Site

variable {P Q : Call → Prop} {before after : Site}

/-- Every call between the two sites that builds something has the property. -/
def Calls (P : Call → Prop) (before after : Site) : Prop :=
  ∃ made, after.calls = before.calls ++ made ∧ ∀ call ∈ made, call.isBuilding = true → P call

theorem calls_of_calls_eq (h : after.calls = before.calls) : Calls P before after :=
  ⟨[], by rw [h, List.append_nil], nofun⟩

theorem Calls.mono (h : Calls P before after) (hmono : ∀ call, P call → Q call) :
    Calls Q before after := by
  obtain ⟨made, hcalls, hmade⟩ := h
  exact ⟨made, hcalls, fun call hcall hbuilding => hmono call (hmade call hcall hbuilding)⟩

instance : IsPreorder Site (Calls P) where
  refl _ := calls_of_calls_eq rfl
  trans := by
    rintro first second third ⟨made, hcalls, hmade⟩ ⟨more, hcalls', hmore⟩
    refine ⟨made ++ more, by rw [hcalls', hcalls, List.append_assoc], fun call hcall => ?_⟩
    rcases List.mem_append.1 hcall with hcall | hcall
    · exact hmade call hcall
    · exact hmore call hcall

/-- In addition no keyring has other tables. -/
structure Calling (P : Call → Prop) (before after : Site) : Prop where
  calls : Calls P before after
  tables_eq : ∀ number, (after.keyring number).tables = (before.keyring number).tables

instance : IsPreorder Site (Calling P) where
  refl site := ⟨refl_of (Calls P) site, fun _ => rfl⟩
  trans _ _ _ h h' := ⟨trans_of (Calls P) h.calls h'.calls,
    fun number => (h'.tables_eq number).trans (h.tables_eq number)⟩

theorem calling_of_leads {site next : Site} (notices : List Notice) (h : site.Leads next) :
    Calling P site (next.under site.rules notices) :=
  ⟨calls_of_calls_eq h.calls_eq, h.tables_eq⟩

end Site

namespace Action

variable {α β : Type} {P : Call → Prop}

/-- The calls that an action makes. -/
def made (action : Action α) (site : Site) : List Call :=
  (after action site).calls.drop site.calls.length

theorem made_of_calls_eq {action : Action α} {site : Site} {calls : List Call}
    (h : (after action site).calls = site.calls ++ calls) : made action site = calls := by
  rw [made, h, List.drop_left]

theorem forall_made {action : Action α} {site : Site} (h : Site.Calls P site (after action site)) :
    ∀ call ∈ made action site, call.isBuilding = true → P call := by
  obtain ⟨calls, hcalls, hbuilding⟩ := h
  rwa [made_of_calls_eq hcalls]

theorem calling_perform {call : Call} (h : call.isBuilding = true → P call) :
    Keeps (Site.Calling P) (perform call) := by
  intro site
  rw [after_perform]
  exact ⟨⟨[call], rfl, by simpa using h⟩, fun _ => rfl⟩

/-- An action that sees neither rules nor log builds nothing and changes no table. -/
theorem keeps_calling {action : Action α}
    (h : ∀ {R : Site → Site → Prop}, Unseen R → Blind R action) : Keeps (Site.Calling P) action :=
  keeps_of_unseen (fun notices => Site.calling_of_leads notices)
    (fun hbuilding _ => calling_perform fun h => by rw [hbuilding] at h; cases h) h

/-- Of a sequence the later action matters only with the values of the first one. -/
theorem keeps_bind_of_ok {K : Site → Site → Prop} [IsPreorder Site K] {action : Action α}
    {next : α → Action β} (h : Keeps K action)
    (hnext : ∀ value site site', action site = .ok value site' → Keeps K (next value)) :
    Keeps K (action >>= next) := by
  intro site
  cases hrun : action site with
  | ok value site' =>
      rw [after_bind_ok hrun]
      exact trans_of K (h.ok hrun) (hnext value site site' hrun site')
  | error failure site' =>
      rw [after_error (bind_error hrun)]
      exact h.error hrun

end Action

/-! ## Building a backend -/

namespace Backend

variable {kind : Kind} {path : Option Text} {credential : Option Credential} {P : Call → Prop}

/-- The binding is the one for the path. -/
def Suits (kind : Kind) (path : Option Text) (binding : Binding) : Prop :=
  binding.kind = kind ∧ ∀ endpoint, binding = .s3 endpoint → S3.endpointOf path = .ok endpoint

theorem suits_of_bindingOf {binding : Binding} {site site' : Site}
    (h : bindingOf kind path credential site = .ok binding site') : Suits kind path binding := by
  refine ⟨(kind_of_bindingOf kind path credential).ok trivial h, ?_⟩
  rintro endpoint rfl
  have hkind : Kind.s3 = kind := (kind_of_bindingOf kind path credential).ok trivial h
  subst hkind
  unfold bindingOf at h
  dsimp only at h
  cases hendpoint : S3.endpointOf path with
  | error fault =>
      rw [hendpoint] at h
      cases h
  | ok found =>
      rw [hendpoint] at h
      cases h
      rfl

/-- Without a client library nothing is built. -/
theorem calling_installed (kind : Kind) {action : Action Unit}
    (h : Keeps (Site.Calling P) action) :
    Keeps (Site.Calling P) (do
      if !(← get).installed.contains kind then meet (.moduleMissing kind.clientModule)
      action) := by
  refine keeps_bind keeps_get fun site => ?_
  split
  · exact keeps_bind (keeps_throw _) fun _ => h
  · exact h

/-- A client is built with the credential that was handed over, and with no other. -/
theorem calling_openClient (serial : Nat) {binding : Binding} (hbinding : Suits kind path binding)
    (hcredential : ∀ found, credential = some found → found.kind = kind) :
    Keeps (Site.Calling (Call.Uses kind path credential))
      (openClient serial binding path credential) := by
  obtain ⟨rfl, hendpoint⟩ := hbinding
  cases binding with
  | disk => exact keeps_pure _
  | gcs => exact keeps_during (calling_installed .gcs (calling_perform fun _ => ⟨rfl, rfl⟩))
  | s3 endpoint =>
      refine keeps_during (calling_installed .s3 ?_)
      refine keeps_bind (calling_perform fun _ => ⟨rfl, rfl⟩) fun _ => ?_
      exact calling_perform fun _ => ⟨rfl, hendpoint endpoint rfl⟩
  | azure name =>
      refine keeps_bind keeps_get fun site => ?_
      cases haccount :
        Azure.accountFor site.environment path (credential.bind Credential.azure?) with
      | error fault => exact keeps_throw (.fault fault)
      | ok account =>
          refine keeps_during (calling_installed .azure (calling_perform fun _ => ⟨rfl, ?_⟩))
          cases credential with
          | none => exact ⟨site.environment, account, nofun, haccount, rfl, rfl⟩
          | some found =>
              cases found with
              | azure key => exact ⟨[], account, fun _ => rfl, haccount, rfl, rfl⟩
              | _ => cases hcredential _ rfl

theorem calling_openWith (hcredential : ∀ found, credential = some found → found.kind = kind) :
    Keeps (Site.Calling (Call.Uses kind path credential)) (openWith true kind path credential) := by
  refine keeps_bind_of_ok (keeps_calling fun h => blind_bindingOf h.veil kind path credential) ?_
  intro binding site site' hbinding
  refine keeps_bind (keeps_calling fun h => h.veil.blind_freshSerial) fun serial => ?_
  have hopens := calling_openClient serial (suits_of_bindingOf hbinding) hcredential
  refine keeps_bind hopens fun _ => ?_
  exact keeps_bind (keeps_calling fun h => blind_registerClient h.veil kind serial) fun _ => keeps_pure _

/-- A scripted factory is handed the same. -/
theorem calling_openScripted (number : Nat) :
    Keeps (Site.Calling (Call.Uses kind path credential))
      (openScripted number kind path credential) := by
  obtain ⟨rest, heq, hblind⟩ := openScripted_eq number kind path credential
  rw [heq]
  exact keeps_bind (calling_perform fun _ => ⟨rfl, rfl, rfl⟩) fun _ => keeps_calling hblind

theorem calling_close (backend : Backend) : Keeps (Site.Calling P) backend.close := by
  unfold close
  split
  · refine keeps_bind (keeps_modify fun _ => ⟨Site.calls_of_calls_eq rfl, fun _ => rfl⟩) fun _ => ?_
    exact calling_perform nofun
  · exact keeps_pure _

end Backend

/-! ## Tables of documents -/

namespace Keyring

variable {site : Site} {number changed : Nat} {change : Keyring → Keyring}

/-- A keyring is changed, or it stays as it is. -/
theorem keyring_withKeyring_cases (site : Site) (changed : Nat) (change : Keyring → Keyring)
    (number : Nat) :
    (site.withKeyring changed change).keyring number = site.keyring number ∨
      number = changed ∧
        (site.withKeyring changed change).keyring number = change (site.keyring number) := by
  by_cases hsame : number = changed
  · subst hsame
    by_cases hnumber : number < site.keyrings.length
    · exact Or.inr ⟨rfl, Site.keyring_withKeyring hnumber⟩
    · refine Or.inl ?_
      simp [Site.keyring, Site.withKeyring, List.getD_eq_getElem?_getD, hnumber]
  · refine Or.inl ?_
    have hother : changed ≠ number := fun h => hsame h.symm
    simp [Site.keyring, Site.withKeyring, List.getD_eq_getElem?_getD, hother]

end Keyring

/-- The tables of every keyring are empty, or those of a document. -/
def Site.Sourced (site : Site) : Prop :=
  ∀ number, ∃ source, Keyring.Installed source (site.keyring number).tables

namespace Site.Sourced

variable {site site' : Site} (h : site.Sourced)

include h

theorem of_tables_eq
    (htables : ∀ number, (site'.keyring number).tables = (site.keyring number).tables) :
    site'.Sourced := fun number => by
  rw [htables number]
  exact h number

/-- A keyring may be changed to one whose tables are sourced. -/
theorem withKeyring {changed : Nat} {change : Keyring → Keyring}
    (hchange : ∀ keyring, ∃ source, Keyring.Installed source (change keyring).tables) :
    (site.withKeyring changed change).Sourced := by
  intro number
  rcases Keyring.keyring_withKeyring_cases site changed change number with hkept | ⟨-, hchanged⟩
  · rw [hkept]
    exact h number
  · rw [hchanged]
    exact hchange _

/-- A load puts the tables of a document there, or none, or leaves those that are there. -/
theorem load (number : Nat) (force : Bool) : (after (Keyring.load number force) site).Sourced := by
  have hcases := Keyring.load_cases number force site
  unfold after
  generalize Keyring.load number force site = result at hcases
  cases hcases with
  | cached => exact h
  | unconfigured => exact h.withKeyring fun keyring => ⟨none, rfl⟩
  | @loaded config content tables hwanted hconfig hread htables =>
      have hasked : (Keyring.asked site config site.rules).Sourced := h
      exact hasked.withKeyring fun keyring => ⟨some ⟨config, content, site.nesting⟩, htables⟩
  | failed => exact h

theorem act (number : Nat) (act : Keyring.Act) : (act.perform number site).Sourced := by
  cases act with
  | load force => exact h.load number force
  | invalidate =>
      exact h.of_tables_eq (Keyring.tables_withKeyring fun _ => rfl)
  | lookUp kind path =>
      have hkept : after (Keyring.credentialFor number kind path) site = site := by
        unfold after
        rw [Keyring.credentialFor_eq]
        cases (site.keyring number).tables.match? kind path <;> rfl
      rw [Keyring.Act.perform, hkept]
      exact h
  | surround other => exact h

end Site.Sourced

namespace Pool

open Keyring KeyTables

variable {pool : Pool} {kind : Kind} {path : Option Text} {P : Call → Prop}

/-! ## Attempts -/

theorem calling_construct (pool : Pool) {credential : Option Credential}
    (hcredential : ∀ found, credential = some found → found.kind = kind) :
    Keeps (Site.Calling (Call.Uses kind path credential))
      (pool.construct kind path credential) := by
  refine keeps_wrapping ?_
  cases pool.scripts.lookup kind with
  | none => exact Backend.calling_openWith hcredential
  | some script => exact Backend.calling_openScripted script

theorem calling_check (backend : Backend) (path : Option Text) :
    Keeps (Site.Calling P) (check backend path) := by
  cases path with
  | none => exact keeps_pure _
  | some path =>
      have hprobe : Keeps (Site.Calling P) (backend.probe path) :=
        keeps_calling fun h => Backend.blind_probe h.veil backend path
      refine keeps_recover hprobe fun failure => ?_
      cases failure with
      | fault fault => exact keeps_bind (Backend.calling_close backend) fun _ => keeps_throw _
      | incident incident => exact keeps_throw _

/-- A backend is built with the credential that was handed over, and checked. -/
theorem calling_build (pool : Pool) {credential : Option Credential}
    (hcredential : ∀ found, credential = some found → found.kind = kind) :
    Keeps (Site.Calling (Call.Uses kind path credential)) (do
      let backend ← pool.construct kind path credential
      check backend path
      return backend) :=
  keeps_bind (pool.calling_construct hcredential) fun backend =>
    keeps_bind (calling_check backend path) fun _ => keeps_pure _

/-- Holding a backend builds nothing. -/
theorem calling_install (pool : Pool) (kind : Kind) (backend : Backend) :
    Keeps (Site.Calling P) (pool.install kind backend) := by
  have hclose (previous : Backend) : Keeps (Site.Calling P) (closeBackend previous) :=
    keeps_recover (Backend.calling_close previous) fun _ => keeps_calling fun h => h.note _ _
  have hhold (held : Held) : Keeps (Site.Calling P) (pool.hold held) :=
    keeps_modify fun _ => ⟨Site.calls_of_calls_eq rfl, fun _ => rfl⟩
  refine keeps_bind keeps_get fun site => keeps_bind (hhold _) fun _ => ?_
  cases (pool.held site).lookup kind with
  | none => exact keeps_bind (keeps_pure _) fun _ => keeps_pure _
  | some previous =>
      exact keeps_ite (keeps_bind (hclose previous) fun _ => keeps_pure _)
        (keeps_bind (keeps_pure _) fun _ => keeps_pure _)

/--
What is handed to the factory in an attempt that starts on the site after a load has ended so:
nothing if no document was found to be configured, and otherwise the credential of the most specific
member for the path in the document whose tables are installed.
-/
inductive Handed (number : Nat) (kind : Kind) (path : Option Text) (start : Site) :
    Loading → Option Credential → Prop where
  | ambient : Handed number kind path start .noConfig none
  | granted {loading : Loading} {nesting : Nat} {config : Text} {content : ByteArray}
      {text : String} {document : List (Text × Json)} {member : Text × Json}
      {credential : Credential} (hloading : loading ≠ .noConfig)
      (htables : tablesOf nesting config content = .ok (start.keyring number).tables)
      (htext : String.fromUTF8? content = some text)
      (hdocument : Json.parse nesting text.toList = .ok (.record document))
      (hmember : MostSpecific kind (sectionOf kind document) (lookupPath kind path) member)
      (hcredential : Credential.ofJson kind member.2 = .ok credential)
      /- Without a path only the members with the empty prefix count. -/
      (hempty : path = none → kind.strip member.1 = []) :
      Handed number kind path start loading (some credential)

/-- Only the kind of the attempt is served. -/
theorem Handed.kind_eq {number : Nat} {start : Site} {loading : Loading}
    {credential : Option Credential} (hkind : kind ≠ .disk)
    (h : Handed number kind path start loading credential) :
    ∀ found, credential = some found → found.kind = kind := by
  cases h with
  | ambient => exact nofun
  | granted hloading htables htext hdocument hmember hcredential hempty =>
      intro found hfound
      cases hfound
      exact Credential.kind_of_ofJson hkind hcredential

/-- What a lookup finds is handed over. -/
theorem handed_of_match? {number : Nat} {start : Site} {loading : Loading}
    {credential : Credential} (hsourced : start.Sourced) (hloading : loading ≠ .noConfig)
    (hmatch : (start.keyring number).tables.match? kind (lookupPath kind path) = some credential) :
    Handed number kind path start loading (some credential) := by
  obtain ⟨source, hsource⟩ := hsourced number
  cases source with
  | none =>
      have hempty : (start.keyring number).tables = {} := hsource
      rw [hempty] at hmatch
      cases kind <;> cases hmatch
  | some reading =>
      obtain ⟨text, document, htext, hparse, hjson⟩ := document_of_tablesOf hsource
      obtain ⟨_, hdocument, hsections⟩ := grants_of_ofJson hjson
      cases hdocument
      obtain ⟨grants, hgrants, htable⟩ := hsections kind
      obtain ⟨member, hmember, hcredential⟩ := (match?_eq_some_iff hgrants htable).1 hmatch
      refine .granted hloading hsource htext hparse hmember hcredential fun hpath => ?_
      have hstarts := hmember.starts
      have hscheme : kind.strip kind.scheme = [] := by
        have hstrip := kind.strip_scheme_append []
        rwa [List.append_nil] at hstrip
      rw [hpath, lookupPath, Option.getD_none, hscheme] at hstarts
      exact List.prefix_nil.1 hstarts

/-- An attempt builds with what is handed over, and with nothing else. -/
theorem calling_attemptWith (hkind : kind ≠ .disk) {start : Site} (hsourced : start.Sourced)
    (loading : Loading) :
    Site.Calling
      (fun call => ∃ credential, Handed pool.keyring kind path start loading credential ∧
        call.Uses kind path credential)
      start (after (pool.attemptWith kind path (loading = .noConfig)) start) := by
  have hbuild {credential : Option Credential}
      (hhanded : Handed pool.keyring kind path start loading credential) :=
    (@calling_build kind path pool _ (hhanded.kind_eq hkind)).mono fun {before after} h =>
      Site.Calling.mk (P := fun call => ∃ credential,
        Handed pool.keyring kind path start loading credential ∧ call.Uses kind path credential)
        (h.calls.mono fun call huses => ⟨credential, hhanded, huses⟩) h.tables_eq
  by_cases hloading : loading = .noConfig
  · subst hloading
    have hrest := keeps_bind (keeps_calling fun h => blind_warnAmbient h.veil pool.keyring kind)
      fun _ => hbuild .ambient
    change Site.Calling _ start (after (pool.attemptAmbient kind path) start)
    unfold attemptAmbient
    split
    · exact keeps_bind (keeps_throw _) (fun _ => hrest) start
    · exact hrest start
  · rw [decide_eq_false hloading]
    change Site.Calling _ start (after (pool.attempt kind path) start)
    unfold attempt
    cases hmatch : (start.keyring pool.keyring).tables.match? kind (lookupPath kind path) with
    | none =>
        have hlookup : credentialFor pool.keyring kind (lookupPath kind path) start =
            .error (.fault (.noCredential kind (lookupPath kind path))) start := by
          rw [credentialFor_eq, hmatch]
        rw [after_error (bind_error hlookup)]
        exact refl_of (Site.Calling _) start
    | some credential =>
        have hlookup : credentialFor pool.keyring kind (lookupPath kind path) start =
            .ok credential start := by
          rw [credentialFor_eq, hmatch]
        rw [after_bind_ok hlookup]
        exact hbuild (handed_of_match? hsourced hloading hmatch) start

/-! ## Resolutions -/

/-- A load builds nothing. -/
theorem calls_load (number : Nat) (force : Bool) :
    Keeps (Site.Calls P) (Keyring.load number force) := by
  intro site
  have hcases := load_cases number force site
  unfold after
  generalize Keyring.load number force site = result at hcases
  cases hcases with
  | cached => exact Site.calls_of_calls_eq rfl
  | unconfigured => exact Site.calls_of_calls_eq rfl
  | @loaded config => exact ⟨[.readConfig config], rfl, by simp [Call.isBuilding]⟩
  | @failed config => exact ⟨[.readConfig config], rfl, by simp [Call.isBuilding]⟩

/-- A load of the resolution has ended so, and an attempt starts on the site that it left. -/
inductive Consulted (pool : Pool) (kind : Kind) (path : Option Text) (before : Site) :
    Loading → Site → Prop where
  | first {loading : Loading} {start : Site}
      (hload : Keyring.load pool.keyring false before = .ok loading start) :
      Consulted pool kind path before loading start
  | again {loading reloading : Loading} {failure : Failure} {next last start : Site}
      (hload : Keyring.load pool.keyring false before = .ok loading next)
      (hloading : loading ≠ .noConfig)
      (hattempt : pool.attempt kind path next = .error failure last)
      (hretried : isRetried failure = true)
      (hreload : Keyring.load pool.keyring true last = .ok reloading start) :
      Consulted pool kind path before reloading start

variable {before start : Site} {loading : Loading}

/-- A failed attempt leaves the tables as they are. -/
theorem sourced_of_attempt (hkind : kind ≠ .disk) (hsourced : before.Sourced) (ambient : Bool) :
    (after (pool.attemptWith kind path ambient) before).Sourced := by
  cases ambient with
  | true => exact hsourced.of_tables_eq (calling_attemptWith hkind hsourced .noConfig).tables_eq
  | false => exact hsourced.of_tables_eq (calling_attemptWith hkind hsourced .loaded).tables_eq

theorem Consulted.sourced (hkind : kind ≠ .disk) (hsourced : before.Sourced)
    (h : Consulted pool kind path before loading start) : start.Sourced := by
  cases h with
  | first hload => exact after_ok hload ▸ hsourced.load pool.keyring false
  | @again _ _ _ next last _ hload hloading hattempt hretried hreload =>
      have hnext : next.Sourced := after_ok hload ▸ hsourced.load pool.keyring false
      have hlast : last.Sourced := after_error hattempt ▸ sourced_of_attempt hkind hnext false
      exact after_ok hreload ▸ hlast.load pool.keyring true

/-- The call is made in an attempt with what is handed over there. -/
def Justified (pool : Pool) (kind : Kind) (path : Option Text) (before : Site) (call : Call) :
    Prop :=
  ∃ loading start credential, Consulted pool kind path before loading start ∧
    call ∈ made (pool.attemptWith kind path (loading = .noConfig)) start ∧
      Handed pool.keyring kind path start loading credential ∧ call.Uses kind path credential

/-- An attempt after a load builds what is justified by that load. -/
theorem calls_attemptWith (hkind : kind ≠ .disk) (hsourced : before.Sourced)
    (h : Consulted pool kind path before loading start) :
    Site.Calls (pool.Justified kind path before) start
      (after (pool.attemptWith kind path (loading = .noConfig)) start) := by
  obtain ⟨calls, hcalls, hbuilding⟩ :=
    (@calling_attemptWith pool kind path hkind _ (h.sourced hkind hsourced) loading).calls
  refine ⟨calls, hcalls, fun call hcall hbuilds => ?_⟩
  obtain ⟨credential, hhanded, huses⟩ := hbuilding call hcall hbuilds
  rw [← made_of_calls_eq hcalls] at hcall
  exact ⟨loading, start, credential, h, hcall, hhanded, huses⟩

/-- So does an attempt whose backend is held then. -/
theorem calls_attemptWith_install (hkind : kind ≠ .disk) (hsourced : before.Sourced)
    (h : Consulted pool kind path before loading start) :
    Site.Calls (pool.Justified kind path before) start
      (after (pool.attemptWith kind path (loading = .noConfig) >>= pool.install kind) start) := by
  have hattempt := calls_attemptWith hkind hsourced h
  cases hrun : pool.attemptWith kind path (loading = .noConfig) start with
  | error failure last =>
      rw [after_error hrun] at hattempt
      rwa [after_error (bind_error hrun)]
  | ok backend last =>
      rw [after_ok hrun] at hattempt
      rw [after_bind_ok hrun]
      exact trans_of (Site.Calls _) hattempt (pool.calling_install kind backend last).calls

/-- Whatever a resolution builds is justified. -/
theorem calls_resolveRemote (hkind : kind ≠ .disk) (hsourced : before.Sourced) :
    Site.Calls (pool.Justified kind path before) before
      (after (pool.resolveRemote kind path) before) := by
  have hload := calls_load (P := pool.Justified kind path before) pool.keyring false
  unfold resolveRemote
  cases hfirst : Keyring.load pool.keyring false before with
  | error failure next =>
      rw [after_error (bind_error hfirst)]
      exact hload.error hfirst
  | ok loading next =>
      have hconsulted : Consulted pool kind path before loading next := .first hfirst
      refine trans_of (Site.Calls _) (hload.ok hfirst) ?_
      unfold after
      rw [bind_ok hfirst]
      by_cases hrepeat : ∃ failure last, loading ≠ .noConfig ∧
          pool.attempt kind path next = .error failure last ∧ isRetried failure = true
      · obtain ⟨failure, last, hloading, hattempt, hretried⟩ := hrepeat
        have hfailed := calls_attemptWith hkind hsourced hconsulted
        rw [decide_eq_false hloading] at hfailed
        change Site.Calls _ next (after (pool.attempt kind path) next) at hfailed
        rw [after_error hattempt] at hfailed
        have hreload := calls_load (P := pool.Justified kind path before) pool.keyring true
        rw [bind_congr_at (attemptTwice_of_retried hloading hattempt hretried)]
        refine trans_of (Site.Calls _) hfailed ?_
        cases hagain : Keyring.load pool.keyring true last with
        | error reason start =>
            rw [bind_error (bind_error hagain)]
            exact hreload.error hagain
        | ok reloading start =>
            rw [bind_congr_at (bind_ok hagain), attemptOnce_eq]
            have hlast : Consulted pool kind path before reloading start :=
              .again hfirst hloading hattempt hretried hagain
            exact trans_of (Site.Calls _) (hreload.ok hagain)
              (calls_attemptWith_install hkind hsourced hlast)
      · rw [bind_congr_at (attemptTwice_of_settled fun failure last hloading hattempt =>
          Bool.eq_false_iff.2 fun hretried => hrepeat ⟨_, _, hloading, hattempt, hretried⟩)]
        exact calls_attemptWith_install hkind hsourced hconsulted

/-! ## Kinds without a document -/

/-- What is wrapped fails where the action in it does. -/
theorem error_of_wrapping {α : Type} {wrap : Incident → Fault} {action : Action α}
    {failure : Failure} {last : Site} (h : wrapping wrap action before = .error failure last) :
    ∃ reason, action before = .error reason last := by
  unfold wrapping recover at h
  cases hrun : action before with
  | ok value site =>
      rw [hrun] at h
      cases h
  | error reason site =>
      rw [hrun] at h
      cases reason with
      | incident incident =>
          cases h
          exact ⟨_, rfl⟩
      | fault fault =>
          cases h
          exact ⟨_, rfl⟩

/-- A backend that cannot be built leaves no client. -/
theorem clientless_of_failed_construct {credential : Option Credential} {failure : Failure}
    {last : Site} (h : pool.construct kind path credential before = .error failure last) :
    Site.Clientless before last := by
  obtain ⟨reason, hrun⟩ := error_of_wrapping h
  cases hscript : pool.scripts.lookup kind with
  | none =>
      rw [hscript] at hrun
      dsimp only at hrun
      have hopen := Backend.openWith_tended kind path credential before
      rwa [hrun] at hopen
  | some script =>
      rw [hscript] at hrun
      obtain ⟨rest, heq, hblind⟩ := Backend.openScripted_eq script kind path credential
      have hkeeps : Keeps Site.Clientless (Backend.openScripted script kind path credential) := by
        rw [heq]
        exact keeps_bind (clientless_perform rfl rfl) fun _ => keeps_clientless hblind
      exact hkeeps.error hrun

/-- An attempt without a path that fails has built nothing. -/
theorem clientless_of_failed_attempt {failure : Failure} {last : Site}
    (h : pool.attempt kind none before = .error failure last) : Site.Clientless before last := by
  have hlookup := keeps_clientless fun h =>
    blind_credentialFor h.veil pool.keyring kind (lookupPath kind none)
  unfold attempt at h
  cases hfound : credentialFor pool.keyring kind (lookupPath kind none) before with
  | error reason next =>
      rw [bind_error hfound] at h
      cases h
      exact hlookup.error hfound
  | ok credential next =>
      rw [bind_ok hfound] at h
      refine trans_of Site.Clientless (hlookup.ok hfound) ?_
      cases hbuilt : pool.construct kind none (some credential) next with
      | ok backend site =>
          rw [bind_ok hbuilt] at h
          cases h
      | error reason site =>
          rw [bind_error hbuilt] at h
          cases h
          exact clientless_of_failed_construct hbuilt

/-- A kind that needs a path is refused for want of a document, and no client has been built. -/
theorem refused_of_noConfig (hneeds : kind.needsPath = true)
    (h : Consulted pool kind none before .noConfig start) :
    pool.resolveRemote kind none before = .error (.fault (.ambientNeedsPath kind)) start ∧
      Site.Clientless before start := by
  have hambient : pool.attemptAmbient kind none start =
      .error (.fault (.ambientNeedsPath kind)) start := by
    unfold attemptAmbient
    rw [hneeds]
    rfl
  cases h with
  | first hload =>
      have hsettled : pool.attemptTwice kind none .noConfig start = _ := hambient
      exact ⟨(bind_ok hload).trans (bind_error hsettled), (clientless_load _ _).ok hload⟩
  | @again loading _ failure next last _ hload hloading hattempt hretried hreload =>
      have htwice : pool.attemptTwice kind none loading next =
          .error (.fault (.ambientNeedsPath kind)) start := by
        rw [attemptTwice_of_retried hloading hattempt hretried]
        exact (bind_ok hreload).trans hambient
      have hfirst : Site.Clientless before next := (clientless_load _ _).ok hload
      have hlast : Site.Clientless last start := (clientless_load _ _).ok hreload
      exact ⟨(bind_ok hload).trans (bind_error htwice),
        (hfirst.idle (clientless_of_failed_attempt hattempt)).idle hlast⟩

end Pool

/-! ## Histories -/

/-- What can happen to the keyrings of a site, or around them. -/
inductive Deed where
  | create (config : Option Text)
  | act (number : Nat) (done : Keyring.Act)
  | serve (pool : Pool) (request : Pool.Request)

namespace Deed

/-- The site that a deed leaves. -/
def perform (site : Site) : Deed → Site
  | .create config => after (Keyring.create config) site
  | .act number done => done.perform number site
  | .serve pool request => after (pool.serve request) site

/-- The site that deeds leave. -/
def run (site : Site) (deeds : List Deed) : Site := deeds.foldl perform site

end Deed

namespace Site.Sourced

variable {site : Site} (h : site.Sourced)

include h

/-- A resolution loads tables of documents at most. -/
theorem resolveRemote (pool : Pool) {kind : Kind} (hkind : kind ≠ .disk) (path : Option Text) :
    (after (pool.resolveRemote kind path) site).Sourced := by
  let Kept : Site → Site → Prop := fun before after => before.Sourced → after.Sourced
  have hpreorder : IsPreorder Site Kept :=
    { refl := fun _ => id, trans := fun _ _ _ hfirst hsecond hsourced => hsecond (hfirst hsourced) }
  have hload (force : Bool) : Keeps Kept (Keyring.load pool.keyring force) :=
    fun _ hsourced => hsourced.load pool.keyring force
  have hattempt (ambient : Bool) : Keeps Kept (pool.attemptWith kind path ambient) :=
    fun _ hsourced => Pool.sourced_of_attempt hkind hsourced ambient
  have honce (loading : Keyring.Loading) : Keeps Kept (pool.attemptOnce kind path loading) := by
    rw [Pool.attemptOnce_eq]
    exact hattempt _
  have htwice (loading : Keyring.Loading) : Keeps Kept (pool.attemptTwice kind path loading) := by
    refine keeps_ite (hattempt true) (keeps_recover (hattempt false) fun failure => ?_)
    exact keeps_ite (keeps_bind (hload true) honce) (keeps_throw _)
  have hinstall (backend : Backend) : Keeps Kept (pool.install kind backend) :=
    (pool.calling_install (P := fun _ => True) kind backend).mono
      fun hcalling hsourced => hsourced.of_tables_eq hcalling.tables_eq
  have hresolve : Keeps Kept (pool.resolveRemote kind path) :=
    keeps_bind (hload false) fun loading => keeps_bind (htwice loading) hinstall
  exact hresolve site h

theorem serve (pool : Pool) (request : Pool.Request) :
    (after (pool.serve request) site).Sourced := by
  unfold after
  rw [Pool.serve_eq]
  cases request.route site.installed with
  | error fault => exact h
  | ok routed =>
      obtain ⟨kind, path⟩ := routed
      by_cases hkind : kind = .disk
      · subst hkind
        have hbuild : Keeps (Site.Calling (Call.Uses .disk path none))
            (pool.construct .disk path none) := pool.calling_construct nofun
        have hlocal := keeps_bind hbuild fun backend => pool.calling_install .disk backend
        exact h.of_tables_eq (hlocal site).tables_eq
      · have hremote := h.resolveRemote pool hkind path
        simp only [Pool.resolveKind, if_neg hkind]
        exact hremote

/-- Every deed keeps the tables of all keyrings sourced. -/
theorem perform (deed : Deed) : (deed.perform site).Sourced := by
  cases deed with
  | create config => exact h.of_tables_eq (Keyring.tables_concat config site)
  | act number done => exact h.act number done
  | serve pool request => exact h.serve pool request

/-- So do any deeds. -/
theorem run (deeds : List Deed) : (Deed.run site deeds).Sourced := by
  induction deeds generalizing site with
  | nil => exact h
  | cons deed deeds ih => exact ih (h.perform deed)

end Site.Sourced

namespace Pool

open Keyring KeyTables

/-! ## The isolation of credentials -/

/--
Whatever has happened to the keyrings since there were none: every call by which the resolution of a
remote kind builds something is made in one of its attempts, with the credential that is handed over
there and no other.  That is the credential of the most specific member for the path in the document
whose tables are installed then, of a member with the empty prefix if there is no path, and it is
nothing only if the last load before has found no document to be configured.  Otherwise the client
has to look for credentials itself only where the record is silent.  A kind that needs a path is
refused without one if no document is configured, and then no client has been built for the request,
and nothing at all has been asked for if the first load has found none.
-/
theorem credentials_are_granted (site : Site) (deeds : List Deed) (pool : Pool) (request : Request)
    (kind : Kind) (path : Option Text)
    (hroute :
      request.route (Deed.run { site with keyrings := [] } deeds).installed = .ok (kind, path))
    (hkind : kind ≠ .disk) :
    let before := Deed.run { site with keyrings := [] } deeds
    (∀ call ∈ made (pool.serve request) before, call.isBuilding = true →
      ∃ loading start credential, Consulted pool kind path before loading start ∧
        call ∈ made (pool.attemptWith kind path (loading = .noConfig)) start ∧
          Handed pool.keyring kind path start loading credential ∧
            call.Uses kind path credential ∧
              (call.isAmbient = true → ∀ found, credential = some found → found.isSilent = true)) ∧
      (path = none → kind.needsPath = true →
        (∀ start, Consulted pool kind path before .noConfig start →
          pool.serve request before = .error (.fault (.ambientNeedsPath kind)) start ∧
            Site.Clientless before start) ∧
          ∀ start, Keyring.load pool.keyring false before = .ok .noConfig start →
            made (pool.serve request) before = []) := by
  intro before
  have hempty : ({ site with keyrings := [] } : Site).Sourced := fun number => ⟨none, rfl⟩
  have hsourced : before.Sourced := hempty.run deeds
  have hserve : pool.serve request before = pool.resolveRemote kind path before := by
    rw [serve_eq, hroute]
    simp only [resolveKind, if_neg hkind]
  have hmade : made (pool.serve request) before = made (pool.resolveRemote kind path) before := by
    simp only [made, after, hserve]
  refine ⟨fun call hcall hbuilding => ?_, ?_⟩
  · rw [hmade] at hcall
    obtain ⟨loading, start, credential, hconsulted, hattempt, hhanded, huses⟩ :=
      forall_made (calls_resolveRemote hkind hsourced) call hcall hbuilding
    refine ⟨loading, start, credential, hconsulted, hattempt, hhanded, huses, ?_⟩
    rintro hambient found rfl
    exact Call.isSilent_of_isAmbient (hhanded.kind_eq hkind found rfl) huses hambient
  · rintro rfl hneeds
    refine ⟨fun start hconsulted => ?_, fun start hload => ?_⟩
    · rw [hserve]
      exact refused_of_noConfig hneeds hconsulted
    · have hrefused := (refused_of_noConfig hneeds (.first hload)).1
      have hcalls : start.calls = before.calls := by
        have hcases := load_cases pool.keyring false before
        rw [hload] at hcases
        cases hcases
        rfl
      rw [hmade]
      refine made_of_calls_eq ?_
      rw [after_error hrefused, List.append_nil, hcalls]

/-- A site with a document. -/
def documentSite (text : String) : Site where
  disk := Disk.fresh.putEntry (.file text.toUTF8 0) ⟨Disk.workPlace, "keys".toList⟩

/-- A keyring for the document is made. -/
def keyDeeds : List Deed := [.create (some "keys".toList)]

/-- The site where a document grants a key file for one bucket, and a keyring for it. -/
def grantingSite : Site :=
  Deed.run { documentSite "\x7b\"gs\":\x7b\"b\":\"1\"\x7d\x7d" with keyrings := [] } keyDeeds

/-- The client for a path is built with the key file that the document grants for it. -/
theorem credentials_are_granted_bucket :
    (Request.ofPath "gs://b/x".toList).route grantingSite.installed =
      .ok (.gcs, some "gs://b/x".toList) ∧
      (.gcs : Kind) ≠ .disk ∧
      ∃ loading start credential,
        Consulted { number := 0, keyring := 0 } .gcs (some "gs://b/x".toList) grantingSite loading
          start ∧
        Handed 0 .gcs (some "gs://b/x".toList) start loading credential ∧
        Call.Uses .gcs (some "gs://b/x".toList) credential
          (.openGcsClient 0 (some "1".toList)) := by
  have hroute : (Request.ofPath "gs://b/x".toList).route grantingSite.installed =
      .ok (.gcs, some "gs://b/x".toList) := by with_unfolding_all rfl
  have hmade : made (serve { number := 0, keyring := 0 } (.ofPath "gs://b/x".toList)) grantingSite =
      [.readConfig "keys".toList, .openGcsClient 0 (some "1".toList)] := by with_unfolding_all rfl
  have hcall : Call.openGcsClient 0 (some "1".toList) ∈
      made (serve { number := 0, keyring := 0 } (.ofPath "gs://b/x".toList)) grantingSite := by
    rw [hmade]
    exact List.mem_cons_of_mem _ List.mem_cons_self
  obtain ⟨loading, start, credential, hconsulted, -, hhanded, huses, -⟩ :=
    (credentials_are_granted (documentSite _) keyDeeds { number := 0, keyring := 0 }
      (.ofPath "gs://b/x".toList) .gcs (some "gs://b/x".toList) hroute (by decide)).1 _ hcall rfl
  exact ⟨hroute, by decide, loading, start, credential, hconsulted, hhanded, huses⟩

/-- The site where a document grants an empty key file for every path, and a keyring for it. -/
def silentSite : Site :=
  Deed.run (documentSite "\x7b\"gs\":\x7b\"\":\"\"\x7d\x7d") keyDeeds

/-- The document is in force, and the client is built with ambient credentials all the same. -/
theorem ambient_despite_document :
    (∃ next, Keyring.load 0 false silentSite = .ok .loaded next ∧
      (next.keyring 0).tables.match? .gcs "gs://b/x".toList = some (.gcs ⟨[]⟩)) ∧
      made (serve { number := 0, keyring := 0 } (.ofPath "gs://b/x".toList)) silentSite =
        [.readConfig "keys".toList, .openGcsClient 0 none] ∧
      (Call.openGcsClient 0 none).isAmbient = true ∧
      (after (serve { number := 0, keyring := 0 } (.ofPath "gs://b/x".toList))
          silentSite).openClients =
        [(.gcs, 0)] := by
  refine ⟨⟨after (Keyring.load 0 false) silentSite, ?_, ?_⟩, ?_, rfl, ?_⟩
  · with_unfolding_all rfl
  · with_unfolding_all rfl
  · with_unfolding_all rfl
  · with_unfolding_all rfl

end Pool

end ArtifactDepot
