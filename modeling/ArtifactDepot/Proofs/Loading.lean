import ArtifactDepot.Keyring.Loading
import ArtifactDepot.Proofs.Records

/-!
# What a keyring has loaded

A load of a keyring ends in one of four ways, which `load_cases` lists with
everything that each of them changes.  From it follows what holds of a
keyring after any sequence of loads, invalidations and lookups, while the
disk, the environment and everything else around it change as they like: its
tables are those of one document, read by the last load that installed any.
-/

namespace ArtifactDepot

open ArtifactDepot.Action

/-- The value or the failure that an action ends with. -/
def Action.result {α : Type} (action : Action α) (site : Site) : Except Failure α :=
  match action site with
  | .ok value _ => .ok value
  | .error failure _ => .error failure

theorem Action.result_of_ok {α : Type} {action : Action α} {site site' : Site} {value : α}
    (h : action site = .ok value site') : action.result site = .ok value := by
  simp only [result, h]

theorem Action.result_of_error {α : Type} {action : Action α} {site site' : Site}
    {failure : Failure} (h : action site = .error failure site') :
    action.result site = .error failure := by
  simp only [result, h]

theorem Action.error_of_result {α : Type} {action : Action α} {site : Site} {failure : Failure}
    (h : action.result site = .error failure) : ∃ site', action site = .error failure site' := by
  unfold result at h
  cases hrun : action site with
  | ok value site' =>
      rw [hrun] at h
      cases h
  | error reason site' =>
      rw [hrun] at h
      cases h
      exact ⟨site', rfl⟩

namespace Site

variable {site : Site} {number : Nat} {change : Keyring → Keyring}

/-- A keyring by its number. -/
def keyring (site : Site) (number : Nat) : Keyring := site.keyrings.getD number {}

/-- The site with a changed keyring. -/
def withKeyring (site : Site) (number : Nat) (change : Keyring → Keyring) : Site :=
  { site with keyrings := site.keyrings.modify number change }

/-- The path of the document that a keyring is loaded from, if one is configured. -/
def config? (site : Site) (number : Nat) : Option Text :=
  ((site.keyring number).configPath? site.environment).filter fun path => !path.isEmpty

theorem keyring_withKeyring (hnumber : number < site.keyrings.length) :
    (site.withKeyring number change).keyring number = change (site.keyring number) := by
  simp [keyring, withKeyring, hnumber]

@[simp] theorem length_withKeyring :
    (site.withKeyring number change).keyrings.length = site.keyrings.length := by
  simp [withKeyring]

end Site

namespace Keyring

variable {number : Nat} {site site' : Site}

/-! ## How a load ends -/

/-- The site after a document has been asked for. -/
def asked (site : Site) (config : Text) (rules : List Rule) : Site :=
  { site with calls := site.calls ++ [.readConfig config], rules }

/-- The outcomes of a load, each with what it takes and the site that it leaves. -/
inductive Loads (number : Nat) (force : Bool) (site : Site) :
    EStateM.Result Failure Site Loading → Prop where
  | cached (hforce : force = false) (hcached : (site.keyring number).cached = true) :
      Loads number force site (.ok .alreadyCached site)
  | unconfigured (hwanted : (site.keyring number).cached = true → force = true)
      (hconfig : site.config? number = none) :
      Loads number force site (.ok .noConfig (site.withKeyring number withoutTables))
  | loaded {config : Text} {content : ByteArray} {tables : KeyTables}
      (hwanted : (site.keyring number).cached = true → force = true)
      (hconfig : site.config? number = some config)
      (hread : site.disk.read config = .ok content)
      (htables : tablesOf site.nesting config content = .ok tables) :
      Loads number force site
        (.ok .loaded ((asked site config site.rules).withKeyring number (withTables tables)))
  | failed {config : Text} (failure : Failure) (rules : List Rule)
      (hwanted : (site.keyring number).cached = true → force = true)
      (hconfig : site.config? number = some config) :
      Loads number force site (.error failure (asked site config rules))

/-- A document that is there is read unless a rule applies to the call. -/
theorem readConfig_ok {config : Text} {content : ByteArray}
    (hstrike : Rule.strike? (Call.readConfig config).row site.rules = none)
    (hread : site.disk.read config = .ok content) :
    readConfig config site = .ok content (asked site config site.rules) := by
  apply recover_ok
  rw [bind_ok (perform_ok hstrike)]
  simp only [consult, hread]
  rfl

/-- Reading the tables of a document succeeds on its content, or fails; both are recorded. -/
theorem readTables_cases (config : Text) (site : Site) :
    (∃ content tables, site.disk.read config = .ok content ∧
        tablesOf site.nesting config content = .ok tables ∧
        readTables config site = .ok tables (asked site config site.rules)) ∨
      ∃ failure rules, readTables config site = .error failure (asked site config rules) := by
  cases hstrike : Rule.strike? (Call.readConfig config).row site.rules with
  | some struck =>
      obtain ⟨incident, rules⟩ := struck
      have hread : readConfig config site =
          .error (unreadable config (.incident incident)) (asked site config rules) :=
        recover_error (bind_error (perform_error hstrike))
      exact Or.inr ⟨_, _, bind_error hread⟩
  | none =>
      cases hcontent : site.disk.read config with
      | error incident =>
          have hread : readConfig config site =
              .error (unreadable config (.incident incident)) (asked site config site.rules) := by
            apply recover_error
            rw [bind_ok (perform_ok hstrike)]
            simp only [consult, hcontent]
            rfl
          exact Or.inr ⟨_, _, bind_error hread⟩
      | ok content =>
          have htables : readTables config site = _ := bind_ok (readConfig_ok hstrike hcontent)
          rw [get_bind] at htables
          cases hresult : tablesOf site.nesting config content with
          | ok tables =>
              simp only [asked, hresult] at htables
              exact Or.inl ⟨content, tables, rfl, hresult, htables⟩
          | error failure =>
              simp only [asked, hresult] at htables
              exact Or.inr ⟨failure, site.rules, htables⟩

/-- A load looks at the flag first and at the configured path then. -/
theorem load_eq (number : Nat) (force : Bool) (site : Site) :
    load number force site =
      if ((site.keyring number).cached && !force) = true then .ok .alreadyCached site
      else
        match site.config? number with
        | none => .ok .noConfig (site.withKeyring number withoutTables)
        | some config =>
            (do
              let tables ← readTables config
              update number (withTables tables)
              return .loaded : Action Loading) site := by
  unfold load
  rw [show (get number >>= _) site = _ from bind_ok rfl]
  change (if ((site.keyring number).cached && !force) = true then _ else _ : Action Loading)
    site = _
  split
  · rfl
  · rw [get_bind, Site.config?, Site.keyring]
    cases (site.keyrings.getD number {}).configPath? site.environment with
    | none => rfl
    | some path =>
        cases path with
        | nil => rfl
        | cons first rest => rfl

/-- Every load ends in one of the four ways. -/
theorem load_cases (number : Nat) (force : Bool) (site : Site) :
    Loads number force site (load number force site) := by
  rw [load_eq]
  by_cases hcached : ((site.keyring number).cached && !force) = true
  · rw [if_pos hcached]
    rw [Bool.and_eq_true, Bool.not_eq_true'] at hcached
    exact .cached hcached.2 hcached.1
  · rw [if_neg hcached]
    have hwanted : (site.keyring number).cached = true → force = true := by
      intro h
      simpa [h] using hcached
    cases hconfig : site.config? number with
    | none => exact .unconfigured hwanted hconfig
    | some config =>
        rcases readTables_cases config site with
          ⟨content, tables, hread, htables, hrun⟩ | ⟨failure, rules, hrun⟩
        · simp only [bind_ok hrun]
          exact .loaded hwanted hconfig hread htables
        · simp only [bind_error hrun]
          exact .failed failure rules hwanted hconfig

/-- After a document was loaded, the tables are those of its content, whatever they were before. -/
theorem tables_of_loaded {force : Bool} (hnumber : number < site.keyrings.length)
    (h : load number force site = .ok .loaded site') :
    ∃ config content, site.config? number = some config ∧ site.disk.read config = .ok content ∧
      tablesOf site.nesting config content = .ok (site'.keyring number).tables := by
  have hcases := load_cases number force site
  rw [h] at hcases
  cases hcases with
  | @loaded config content tables hwanted hconfig hread htables =>
      refine ⟨config, content, hconfig, hread, ?_⟩
      rw [Site.keyring_withKeyring (by exact hnumber)]
      exact htables

/-- A load that fails changes no keyring. -/
theorem keyrings_of_load_error {force : Bool} {failure : Failure}
    (h : load number force site = .error failure site') : site'.keyrings = site.keyrings := by
  have hcases := load_cases number force site
  rw [h] at hcases
  cases hcases
  rfl

/-- A forced load is never answered from what is there. -/
theorem load_forced_ne_cached : load number true site ≠ .ok .alreadyCached site' := by
  intro h
  have hcases := load_cases number true site
  rw [h] at hcases
  cases hcases with
  | cached hforce _ => cases hforce

/-- A loaded keyring is not loaded anew unless that is forced. -/
theorem load_cached (hcached : (site.keyring number).cached = true) :
    load number false site = .ok .alreadyCached site := by
  rw [load_eq, hcached]
  rfl

/-- A lookup changes nothing and depends on nothing but the tables. -/
theorem credentialFor_eq (number : Nat) (kind : Kind) (path : Text) (site : Site) :
    credentialFor number kind path site =
      match (site.keyring number).tables.match? kind path with
      | some credential => .ok credential site
      | none => .error (.fault (.noCredential kind path)) site := by
  rw [credentialFor, show (get number >>= _) site = _ from bind_ok rfl]
  change (match (site.keyring number).tables.match? kind path with
    | some credential => _
    | none => _ : Action Credential) site = _
  cases (site.keyring number).tables.match? kind path with
  | some credential => rfl
  | none => rfl

/-! ## Histories -/

/-- What can happen to a keyring, or around it. -/
inductive Act where
  | load (force : Bool)
  | invalidate
  | lookUp (kind : Kind) (path : Text)
  /-- Everything but the keyrings becomes as it is at some site. -/
  | surround (other : Site)

/-- The path and the content of a document that has been read, and how deep it could be read. -/
structure Reading where
  config : Text
  content : ByteArray
  nesting : Nat

/-- The document that a load reads, if one is configured and can be read. -/
def reading? (number : Nat) (site : Site) : Option Reading :=
  match site.config? number with
  | none => none
  | some config =>
      match site.disk.read config with
      | .ok content => some ⟨config, content, site.nesting⟩
      | .error _ => none

/--
A site, and the document that the last load to install any tables has read.  There is none before
the first of these loads, and after one that has found no document configured.
-/
structure History where
  site : Site
  source : Option Reading := none

namespace Act

/-- The site that an act leaves. -/
def perform (number : Nat) (site : Site) : Act → Site
  | .load force => after (Keyring.load number force) site
  | .invalidate => after (Keyring.invalidate number) site
  | .lookUp kind path => after (credentialFor number kind path) site
  | .surround other => { other with keyrings := site.keyrings }

/-- How the load that an act is ends; other acts do not load. -/
def loading? (number : Nat) (site : Site) : Act → Option Loading
  | .load force => ((Keyring.load number force).result site).toOption
  | _ => none

end Act

namespace History

/-- The history after one more act. -/
def next (number : Nat) (history : History) (act : Act) : History where
  site := act.perform number history.site
  source :=
    match act.loading? number history.site with
    | some .loaded => reading? number history.site
    | some .noConfig =>
        if history.site.config? number = none then none else history.source
    | some .alreadyCached | none => history.source

/-- The history after more acts. -/
def run (number : Nat) (history : History) (acts : List Act) : History :=
  acts.foldl (next number) history

/-- No load among the acts installs anything. -/
def Quiet (number : Nat) : History → List Act → Prop
  | _, [] => True
  | history, act :: acts =>
      (act.loading? number history.site ≠ some .loaded ∧
        act.loading? number history.site ≠ some .noConfig) ∧
        Quiet number (history.next number act) acts

end History

/-- The tables are those of the document, and empty without one. -/
def Installed (source : Option Reading) (tables : KeyTables) : Prop :=
  match source with
  | none => tables = {}
  | some document => tablesOf document.nesting document.config document.content = .ok tables

/-- A keyring holds what the last load that installed any tables has read. -/
structure Faithful (number : Nat) (history : History) : Prop where
  exists_keyring : number < history.site.keyrings.length
  installed : Installed history.source (history.site.keyring number).tables
  /-- Only a keyring that holds a document counts as loaded. -/
  source_of_cached : (history.site.keyring number).cached = true → history.source.isSome = true

/-- What an act can do to a keyring, by the way in which its load ends. -/
inductive Effect (number : Nat) (site : Site) : Option Loading → Keyring → Prop where
  | installs {document : Reading} {tables : KeyTables}
      (hreading : reading? number site = some document)
      (htables : tablesOf document.nesting document.config document.content = .ok tables) :
      Effect number site (some .loaded) (withTables tables (site.keyring number))
  | clears (hconfig : site.config? number = none) :
      Effect number site (some .noConfig) (withoutTables (site.keyring number))
  | leaves {loading : Option Loading} {keyring : Keyring}
      (hloading : loading ≠ some .loaded ∧ loading ≠ some .noConfig)
      (htables : keyring.tables = (site.keyring number).tables)
      (hcached : keyring.cached = true → (site.keyring number).cached = true) :
      Effect number site loading keyring

/-- No act does anything else to the keyring. -/
theorem Act.effect (act : Act) (hnumber : number < site.keyrings.length) :
    Effect number site (act.loading? number site) ((act.perform number site).keyring number) := by
  cases act with
  | load force =>
      have hcases := load_cases number force site
      simp only [Act.perform, Act.loading?, Action.after, Action.result]
      generalize Keyring.load number force site = outcome at hcases
      cases hcases with
      | cached hforce hcached => exact .leaves ⟨nofun, nofun⟩ rfl id
      | unconfigured hwanted hconfig =>
          rw [Site.keyring_withKeyring hnumber]
          exact .clears hconfig
      | @loaded config content tables hwanted hconfig hread htables =>
          rw [Site.keyring_withKeyring (by exact hnumber)]
          have hreading : reading? number site = some ⟨config, content, site.nesting⟩ := by
            simp only [reading?, hconfig, hread]
          exact .installs hreading htables
      | failed failure rules hwanted hconfig => exact .leaves ⟨nofun, nofun⟩ rfl id
  | invalidate =>
      have hflag : (Act.invalidate.perform number site).keyring number =
          { site.keyring number with cached := false } := Site.keyring_withKeyring hnumber
      rw [hflag]
      exact .leaves ⟨nofun, nofun⟩ rfl nofun
  | lookUp kind path =>
      have hsite : after (credentialFor number kind path) site = site := by
        simp only [Action.after, credentialFor_eq]
        cases (site.keyring number).tables.match? kind path <;> rfl
      rw [Act.perform, hsite]
      exact .leaves ⟨nofun, nofun⟩ rfl id
  | surround other => exact .leaves ⟨nofun, nofun⟩ rfl id

/-- No act adds or removes keyrings. -/
theorem Act.length_keyrings (act : Act) :
    (act.perform number site).keyrings.length = site.keyrings.length := by
  cases act with
  | load force =>
      have hcases := load_cases number force site
      simp only [Act.perform, Action.after]
      generalize Keyring.load number force site = outcome at hcases
      cases hcases <;> simp [asked]
  | invalidate => exact Site.length_withKeyring
  | lookUp kind path =>
      simp only [Act.perform, Action.after, credentialFor_eq]
      cases (site.keyring number).tables.match? kind path <;> rfl
  | surround other => rfl

/-! ## What holds after any history -/

variable {history : History}

/-- One act keeps a keyring faithful. -/
theorem Faithful.next (h : Faithful number history) (act : Act) :
    Faithful number (history.next number act) := by
  have hlength : number < (act.perform number history.site).keyrings.length := by
    rw [act.length_keyrings]
    exact h.exists_keyring
  have heffect := act.effect h.exists_keyring
  have hsource : (history.next number act).source =
      match act.loading? number history.site with
      | some .loaded => reading? number history.site
      | some .noConfig =>
          if history.site.config? number = none then none else history.source
      | some .alreadyCached | none => history.source := rfl
  have hsite : (history.next number act).site = act.perform number history.site := rfl
  rw [← hsite] at heffect hlength
  generalize act.loading? number history.site = loading at heffect hsource
  generalize hkeyring : (history.next number act).site.keyring number = keyring at heffect
  cases heffect with
  | @installs document tables hreading htables =>
      simp only [hreading] at hsource
      refine ⟨hlength, ?_, ?_⟩
      · rw [hkeyring, hsource]
        exact htables
      · rw [hsource]
        exact fun _ => rfl
  | clears hconfig =>
      simp only [hconfig, if_true] at hsource
      refine ⟨hlength, ?_, ?_⟩
      · rw [hkeyring, hsource]
        rfl
      · rw [hkeyring]
        exact nofun
  | leaves hloading htables hcached =>
      have hkept : (history.next number act).source = history.source := by
        rw [hsource]
        rcases loading with _ | _ | _ | _
        · rfl
        · exact absurd rfl hloading.1
        · rfl
        · exact absurd rfl hloading.2
      refine ⟨hlength, ?_, ?_⟩
      · rw [hkeyring, hkept, htables]
        exact h.installed
      · rw [hkeyring, hkept]
        exact fun hflag => h.source_of_cached (hcached hflag)

/-- A keyring is faithful after any acts if it was before. -/
theorem Faithful.run (h : Faithful number history) (acts : List Act) :
    Faithful number (history.run number acts) := by
  induction acts generalizing history with
  | nil => exact h
  | cons act acts ih => exact ih (h.next act)

/-- A keyring that has just been made is faithful. -/
theorem Faithful.of_fresh {config : Option Text}
    (hfresh : site.keyrings[number]? = some { config }) : Faithful number ⟨site, none⟩ := by
  have hkeyring : site.keyring number = { config } := by
    simp [Site.keyring, List.getD_eq_getElem?_getD, hfresh]
  refine ⟨(List.getElem?_eq_some_iff.1 hfresh).1, ?_, ?_⟩
  · rw [hkeyring]
    rfl
  · rw [hkeyring]
    exact nofun

/-- Acts that install nothing leave the tables as they are. -/
theorem Faithful.tables_of_quiet (h : Faithful number history) {acts : List Act}
    (hquiet : history.Quiet number acts) :
    ((history.run number acts).site.keyring number).tables = (history.site.keyring number).tables := by
  induction acts generalizing history with
  | nil => rfl
  | cons act acts ih =>
      have htail := ih (h.next act) hquiet.2
      have heffect := act.effect h.exists_keyring
      have hhead : ((act.perform number history.site).keyring number).tables =
          (history.site.keyring number).tables := by
        generalize (act.perform number history.site).keyring number = keyring at heffect
        have hloading := hquiet.1
        generalize act.loading? number history.site = loading at heffect hloading
        cases heffect with
        | installs => exact absurd rfl hloading.1
        | clears => exact absurd rfl hloading.2
        | leaves _ htables _ => exact htables
      exact htail.trans hhead

/-- A load finds no document exactly if none is configured and the keyring is not taken as it is. -/
theorem load_noConfig_iff {force : Bool} : (load number force).result site = .ok .noConfig ↔
    ((site.keyring number).cached = true → force = true) ∧ site.config? number = none := by
  have hcases := load_cases number force site
  unfold Action.result
  generalize hrun : load number force site = outcome at hcases
  cases hcases with
  | cached hforce hcached =>
      refine ⟨nofun, fun h => ?_⟩
      rw [hforce] at h
      exact absurd (h.1 hcached) Bool.false_ne_true
  | unconfigured hwanted hconfig => exact ⟨fun _ => ⟨hwanted, hconfig⟩, fun _ => rfl⟩
  | loaded hwanted hconfig => exact ⟨nofun, fun h => by cases hconfig.symm.trans h.2⟩
  | failed _ _ hwanted hconfig => exact ⟨nofun, fun h => by cases hconfig.symm.trans h.2⟩

/--
Whatever happened to a keyring since it was made: its tables are empty or those of the one document
that the last load to install any has read, and it only counts as loaded with such a document.  A
load that is not forced takes a loaded keyring as it is, a forced one never does, one that finds no
document has none configured, one that fails changes no keyring, and an invalidation changes a flag.
Until the next load that installs something every lookup has the same answer.
-/
theorem faithful_after_any_history (number : Nat) {config : Option Text} {site : Site}
    (hfresh : site.keyrings[number]? = some { config }) (acts : List Act) :
    let history := History.run number ⟨site, none⟩ acts
    Installed history.source (history.site.keyring number).tables ∧
      ((history.site.keyring number).cached = true → history.source.isSome = true) ∧
      ((history.site.keyring number).cached = true →
        load number false history.site = .ok .alreadyCached history.site) ∧
      (∀ site', load number true history.site ≠ .ok .alreadyCached site') ∧
      (∀ force, (load number force).result history.site = .ok .noConfig ↔
        ((history.site.keyring number).cached = true → force = true) ∧
          history.site.config? number = none) ∧
      (∀ force failure site', load number force history.site = .error failure site' →
        site'.keyrings = history.site.keyrings) ∧
      invalidate number history.site =
        .ok () (history.site.withKeyring number fun keyring => { keyring with cached := false }) ∧
      ∀ further, history.Quiet number further → ∀ kind path,
        (credentialFor number kind path).result (history.run number further).site =
          (credentialFor number kind path).result history.site := by
  intro history
  have hfaithful : Faithful number history := (Faithful.of_fresh hfresh).run acts
  refine ⟨hfaithful.installed, hfaithful.source_of_cached, load_cached,
    fun _ => load_forced_ne_cached, fun _ => load_noConfig_iff, fun _ _ _ => keyrings_of_load_error, rfl,
    fun further hquiet kind path => ?_⟩
  simp only [Action.result, credentialFor_eq, hfaithful.tables_of_quiet hquiet]
  cases (history.site.keyring number).tables.match? kind path <;> rfl

/-- A site with some bytes as the document of its keyring. -/
def documentSite (content : ByteArray) : Site where
  disk := Disk.fresh.putEntry (.file content 0) ⟨Disk.workPlace, "keys".toList⟩
  keyrings := [{ config := some "keys".toList }]

/-- A document with one credential. -/
def oneKey : String := "\x7b\"gs\":\x7b\"\":\"1\"\x7d\x7d"

/-- The document is loaded; then its file is spoilt, and it cannot be loaded again. -/
def spoiltHistory : History :=
  History.run 0 ⟨documentSite oneKey.toUTF8, none⟩
    [.load false, .surround (documentSite ⟨#[0xff]⟩), .load true, .lookUp .gcs "gs://b".toList]

theorem load_spoilt :
    load 0 true spoiltHistory.site =
      .error (.incident .notUtf8) (after (Keyring.load 0 true) spoiltHistory.site) := by
  with_unfolding_all rfl

/-- The tables of the first document stay while it is spoilt, and an invalidation changes nothing. -/
theorem faithful_after_failed_reload :
    (documentSite oneKey.toUTF8).keyrings[0]? = some { config := some "keys".toList } ∧
      Installed (some ⟨"keys".toList, oneKey.toUTF8, spoiltHistory.site.nesting⟩)
        (spoiltHistory.site.keyring 0).tables ∧
      load 0 false spoiltHistory.site = .ok .alreadyCached spoiltHistory.site ∧
      (after (Keyring.load 0 true) spoiltHistory.site).keyrings = spoiltHistory.site.keyrings ∧
      (credentialFor 0 .gcs "gs://b".toList).result
          (spoiltHistory.run 0 [.invalidate, .load false]).site = .ok (.gcs ⟨"1".toList⟩) := by
  have hsource : spoiltHistory.source =
      some ⟨"keys".toList, oneKey.toUTF8, spoiltHistory.site.nesting⟩ := by
    with_unfolding_all rfl
  have hcached : (spoiltHistory.site.keyring 0).cached = true := by with_unfolding_all rfl
  have hquiet : spoiltHistory.Quiet 0 [.invalidate, .load false] := by
    refine ⟨⟨nofun, nofun⟩, ⟨?_, ?_⟩, trivial⟩
    · with_unfolding_all exact nofun
    · with_unfolding_all exact nofun
  have hanswer : (credentialFor 0 .gcs "gs://b".toList).result spoiltHistory.site =
      .ok (.gcs ⟨"1".toList⟩) := by
    with_unfolding_all rfl
  have hfresh : (documentSite oneKey.toUTF8).keyrings[0]? =
      some { config := some "keys".toList } := rfl
  obtain ⟨htables, -, hkept, -, -, hfailed, -, hlookup⟩ := faithful_after_any_history 0 hfresh
    [.load false, .surround (documentSite ⟨#[0xff]⟩), .load true, .lookUp .gcs "gs://b".toList]
  rw [show (History.run 0 ⟨documentSite oneKey.toUTF8, none⟩ _).source = _ from hsource] at htables
  exact ⟨hfresh, htables, hkept hcached, hfailed _ _ _ load_spoilt,
    (hlookup _ hquiet _ _).trans hanswer⟩

end Keyring

end ArtifactDepot
