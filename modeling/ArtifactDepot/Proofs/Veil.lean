import ArtifactDepot.Proofs.Contents
import ArtifactDepot.Proofs.Blind
import ArtifactDepot.Proofs.Hidden

/-!
# Relations that operations preserve

A sight says what of contents and of secrets is shown.  Sites that agree to a
sight show the same, apart from the records, the rules and the settings of
tracing, which operations do not look at.  A comparison of agreeing sites is a
veil if the few actions that write there run alike under it, and if only what is
written there can tell that a run has gone astray; then every operation of the
depot runs alike under it, which the rules of this module let one prove
operation by operation.
-/

namespace ArtifactDepot

open ArtifactDepot.Action

/-- What is shown of the contents of files and of the secrets of credentials. -/
structure Sight where
  content : ByteArray → ByteArray
  secret : Text → Text
  isEmpty_secret : ∀ value, (secret value).isEmpty = value.isEmpty
  /-- It is made for sites that can have so many containers of a document open at once. -/
  Suits : Nat → Prop
  /-- It shows whether a content is text. -/
  legible : ∀ {first second : ByteArray}, content first = content second →
    (String.fromUTF8? first).isSome = (String.fromUTF8? second).isSome
  /-- It shows which tables a document stands for, up to secrets. -/
  tables : ∀ {first second : ByteArray} {nesting : Nat} (config : Text), Suits nesting →
    content first = content second →
      (Keyring.tablesOf nesting config first).map (KeyTables.hide secret) =
        (Keyring.tablesOf nesting config second).map (KeyTables.hide secret)

/-- Two contents show the same. -/
def Sight.SameContent (sight : Sight) (content content' : ByteArray) : Prop :=
  sight.content content' = sight.content content

/-- The sight that shows everything. -/
def Sight.clear : Sight where
  content := id
  secret := id
  isEmpty_secret := fun _ => rfl
  Suits := fun _ => True
  legible := fun h => congrArg (fun content => (String.fromUTF8? content).isSome) h
  tables := fun config _ h =>
    congrArg (fun content => (Keyring.tablesOf _ config content).map (KeyTables.hide id)) h

/-- The setting that switches tracing on. -/
def Trace.enabledSetting : String := "ARTIFACTFS_OTEL_ENABLED"

/-- Is it the call that opens an exporter of spans? -/
def Call.isExporting : Call → Bool
  | .openExporter .. => true
  | _ => false

namespace Site

/-- Two sites show the same to operations, but for records, rules and the settings of tracing. -/
structure Agree (sight : Sight) (site site' : Site) : Prop where
  disk_eq : site'.disk.map sight.content = site.disk.map sight.content
  past_eq : site'.past.map (Disk.map sight.content) = site.past.map (Disk.map sight.content)
  keyrings_eq : site'.keyrings.map (Keyring.hide sight.secret) =
    site.keyrings.map (Keyring.hide sight.secret)
  setting_eq : ∀ name, name ≠ Trace.enabledSetting →
    site'.environment.get? name = site.environment.get? name
  lastTemporary_eq : site'.lastTemporary = site.lastTemporary
  cloud_eq : site'.cloud = site.cloud
  installed_eq : site'.installed = site.installed
  defaultKeyring_eq : site'.defaultKeyring = site.defaultKeyring
  scripts_eq : site'.scripts = site.scripts
  serials_eq : site'.serials = site.serials
  openClients_eq : site'.openClients = site.openClients
  holdings_eq : site'.holdings = site.holdings
  nesting_eq : site'.nesting = site.nesting
  suits : sight.Suits site.nesting

/-- What operations do not look at: rules, records, and what tracing goes by. -/
def frame (site : Site) : Site where
  environment := site.environment
  rules := site.rules
  hasExporters := site.hasExporters
  lacksTelemetry := site.lacksTelemetry
  digestFlaw? := site.digestFlaw?
  calls := site.calls
  notices := site.notices
  refusals := site.refusals
  tracing := site.tracing

variable {sight : Sight} {site site' : Site}

/-- A site shows what it shows. -/
theorem Agree.refl (site : Site) : site.Agree .clear site :=
  ⟨rfl, rfl, rfl, fun _ _ => rfl, rfl, rfl, rfl, rfl, rfl, rfl, rfl, rfl, rfl, trivial⟩

theorem Agree.keyrings_at (h : site.Agree sight site') (number : Nat) :
    (site.keyrings[number]? = none ∧ site'.keyrings[number]? = none) ∨
      ∃ keyring keyring', site.keyrings[number]? = some keyring ∧
        site'.keyrings[number]? = some keyring' ∧
          keyring'.hide sight.secret = keyring.hide sight.secret := by
  have hnumber := congrArg (fun keyrings => keyrings[number]?) h.keyrings_eq
  simp only [List.getElem?_map] at hnumber
  cases hfirst : site.keyrings[number]? with
  | none =>
      rw [hfirst] at hnumber
      exact Or.inl ⟨rfl, Option.map_eq_none_iff.1 hnumber⟩
  | some keyring =>
      rw [hfirst] at hnumber
      obtain ⟨keyring', hsecond, hhidden⟩ := Option.map_eq_some_iff.1 hnumber
      exact Or.inr ⟨keyring, keyring', rfl, hsecond, hhidden⟩

theorem Agree.keyring_eq (h : site.Agree sight site') (number : Nat) :
    (site'.keyring number).hide sight.secret = (site.keyring number).hide sight.secret := by
  simp only [keyring, List.getD_eq_getElem?_getD]
  rcases h.keyrings_at number with ⟨hfirst, hsecond⟩ | ⟨_, _, hfirst, hsecond, hhidden⟩
  · rw [hfirst, hsecond]
  · rw [hfirst, hsecond]
    exact hhidden

/-- Agreement lasts where operations leave disks that show the same. -/
theorem Agree.withDisk (h : site.Agree sight site') {disk disk' : Disk}
    (hdisk : disk'.map sight.content = disk.map sight.content) :
    (site.withDisk disk).Agree sight (site'.withDisk disk') :=
  { h with
    disk_eq := hdisk
    past_eq := by
      simp only [Site.withDisk, List.map_append, List.map_cons, List.map_nil, h.past_eq,
        h.disk_eq] }

/-- Agreement lasts where keyrings are changed in ways that show the same. -/
theorem Agree.withKeyring (h : site.Agree sight site') (number : Nat)
    {change change' : Keyring → Keyring}
    (hchange : ∀ {keyring keyring' : Keyring},
      keyring'.hide sight.secret = keyring.hide sight.secret →
        (change' keyring').hide sight.secret = (change keyring).hide sight.secret) :
    (site.withKeyring number change).Agree sight (site'.withKeyring number change') := by
  refine { h with keyrings_eq := List.ext_getElem? fun other => ?_ }
  simp only [Site.withKeyring, List.getElem?_map, List.getElem?_modify, Option.map_eq_map]
  rcases h.keyrings_at other with ⟨hfirst, hsecond⟩ | ⟨_, _, hfirst, hsecond, hhidden⟩
  · rw [hfirst, hsecond]
    rfl
  · rw [hfirst, hsecond]
    by_cases hnumber : number = other
    · simp only [if_pos hnumber, Option.map_some, hchange hhidden]
    · simp only [if_neg hnumber, Option.map_some, hhidden]

/-- A clear sight shows whatever operations look at, and the frame is the rest. -/
theorem Agree.eq (h : site.Agree .clear site') (hframe : site'.frame = site.frame) :
    site' = site := by
  have hdisk : site'.disk = site.disk := by simpa only [Sight.clear, Disk.map_id] using h.disk_eq
  have hpast : site'.past = site.past := by
    have hsame : Disk.map id = id := funext Disk.map_id
    simpa only [Sight.clear, hsame, List.map_id] using h.past_eq
  have hkeyrings : site'.keyrings = site.keyrings := by
    simpa only [Sight.clear, funext Keyring.hide_id, List.map_id'] using h.keyrings_eq
  obtain ⟨-, -, -, -, hlast, hcloud, hinstalled, hdefault, hscripts, hserials, hclients, hholdings,
    hnesting, -⟩ := h
  cases site with
  | mk =>
      cases site' with
      | mk =>
          simp only [frame, Site.mk.injEq] at hframe
          simp only [Site.mk.injEq] at *
          simp only [*, and_self]

end Site

namespace Action

variable {α α' β β' : Type} {sight : Sight} {R : Comparison Site}

/-- A comparison of agreeing sites under which the records are written alike. -/
structure Veil (sight : Sight) (R : Comparison Site) : Prop where
  agree : ∀ {site site'}, R site site' → site.Agree sight site'
  become : ∀ {site site' next next' : Site}, R site site' →
    next.frame = site.frame → next'.frame = site'.frame → site.Leads next → site'.Leads next' →
      next.Agree sight next' → R next next'
  astray : ∀ {site next : Site}, R.Astray site → next.frame = site.frame → R.Astray next
  perform : ∀ {call : Call}, call.isBuilding = false → call.closed? = none →
    call.isExporting = false → Blind R (perform call)
  note : ∀ words, Blind R (note .warning words)
  traced : ∀ {α α' : Type} {V : α → α' → Prop} {action : Action α} {action' : Action α'}
    (operation : Operation) (kind : Kind) (path : Text), Couple V R action action' →
      Couple V R (Trace.traced operation kind path action)
        (Trace.traced operation kind path action')

/-- A veil under which clients are built alike, and under which keyrings are loaded alike. -/
structure Builder (sight : Sight) (R : Comparison Site) : Prop extends Veil sight R where
  build : ∀ {call call' : Call}, call'.hide sight.secret = call.hide sight.secret →
    call.isBuilding = true → Couple Eq R (Action.perform call) (Action.perform call')
  change : ∀ {site site' next next' : Site}, R site site' →
    next.frame = site.frame → next'.frame = site'.frame → next.Agree sight next' → R next next'

/-- Outcomes with one view are values with one view or one refusal. -/
theorem same_of_map_eq {ε : Type} {first second : Except ε α} {view : α → β}
    (h : second.map view = first.map view) :
    (∃ value value', first = .ok value ∧ second = .ok value' ∧ view value' = view value) ∨
      ∃ refusal, first = .error refusal ∧ second = .error refusal := by
  cases first with
  | ok value =>
      cases second with
      | ok value' => exact Or.inl ⟨value, value', rfl, rfl, Except.ok.inj h⟩
      | error refusal => cases h
  | error refusal =>
      cases second with
      | ok value' => cases h
      | error other =>
          cases h
          exact Or.inr ⟨refusal, rfl, rfl⟩

theorem couple_ofRule {rule rule' : Except Fault α} {view : α → β}
    (hrule : rule'.map view = rule.map view) :
    Couple (fun value value' => view value' = view value) R (ofRule rule) (ofRule rule') := by
  rcases same_of_map_eq hrule with ⟨_, _, hfirst, hsecond, hview⟩ | ⟨fault, hfirst, hsecond⟩
  · rw [hfirst, hsecond]
    exact couple_pure hview
  · rw [hfirst, hsecond]
    exact couple_throw _

namespace Veil

variable (h : Veil sight R)

include h

theorem blind_traced {operation : Operation} {kind : Kind} {path : Text} {action : Action α}
    (haction : Blind R action) : Blind R (Trace.traced operation kind path action) :=
  (h.traced operation kind path haction.couple).blind

/-- A look at what is shown sees the same. -/
theorem blind_get_bind {next : Site → Action β}
    (hview : ∀ {site site' : Site}, site.Agree sight site' → next site' = next site)
    (hnext : ∀ site, Blind R (next site)) : Blind R ((get : Action Site) >>= next) := by
  refine .of (fun site hsite => (hnext site).astray hsite) fun site site' hsites => ?_
  rw [get_bind, get_bind, hview (h.agree hsites)]
  exact (hnext site).alike hsites

theorem couple_modify {change change' : Site → Site}
    (hframe : ∀ site : Site, (change site).frame = site.frame)
    (hframe' : ∀ site : Site, (change' site).frame = site.frame)
    (hleads : ∀ site : Site, site.Leads (change site))
    (hleads' : ∀ site : Site, site.Leads (change' site))
    (hagree : ∀ {site site' : Site}, site.Agree sight site' →
      (change site).Agree sight (change' site')) :
    Couple Eq R (modify change : Action Unit) (modify change') where
  astray site hsite := .ok rfl (h.astray hsite (hframe site))
  alike _ _ hsites := Or.inr (.ok rfl
    (h.become hsites (hframe _) (hframe' _) (hleads _) (hleads' _) (hagree (h.agree hsites))))

theorem blind_modify {change : Site → Site}
    (hframe : ∀ site : Site, (change site).frame = site.frame)
    (hleads : ∀ site : Site, site.Leads (change site))
    (hagree : ∀ {site site' : Site}, site.Agree sight site' →
      (change site).Agree sight (change site')) :
    Blind R (modify change : Action Unit) :=
  (h.couple_modify hframe hframe hleads hleads hagree).blind

/-- A change of the disk that does not look into files runs alike. -/
theorem blind_alter (change : Disk → Disk)
    (hchange : ∀ disk, change (disk.map sight.content) = (change disk).map sight.content) :
    Blind R (modify fun site => { site with disk := change site.disk } : Action Unit) :=
  h.blind_modify (fun _ => rfl) (fun _ => ⟨rfl, rfl, Nat.le_refl _, fun _ => rfl⟩) fun hsites =>
    { hsites with disk_eq := by rw [← hchange, ← hchange, hsites.disk_eq] }

theorem blind_freshSerial : Blind R freshSerial := by
  refine .of (fun _ hsite => h.astray hsite (by rfl)) fun site site' hsites => Or.inr ?_
  have hagree := h.agree hsites
  have hnext : R { site with serials := site.serials.give }
      { site' with serials := site'.serials.give } :=
    h.become hsites rfl rfl ⟨rfl, rfl, Nat.le_succ _, fun _ => rfl⟩
      ⟨rfl, rfl, Nat.le_succ _, fun _ => rfl⟩
      { hagree with serials_eq := congrArg Serials.give hagree.serials_eq }
  unfold freshSerial
  rw [hagree.serials_eq] at hnext ⊢
  exact .ok hnext

/-! ## The disk -/

/-- Questions about the disk are answered alike up to what is shown. -/
theorem couple_consult {question : Disk → Except Incident α} {view : α → α}
    (hquestion : ∀ disk, question (disk.map sight.content) = (question disk).map view) :
    Couple (fun value value' => view value' = view value) R (consult question)
      (consult question) := by
  refine ⟨fun site hsite => ?_, fun site site' hsites => Or.inr ?_⟩
  · unfold consult
    cases question site.disk with
    | ok value => exact .ok rfl hsite
    | error incident => exact .error hsite
  have hanswer : (question site'.disk).map view = (question site.disk).map view := by
    rw [← hquestion, ← hquestion, (h.agree hsites).disk_eq]
  unfold consult
  rcases same_of_map_eq hanswer with ⟨_, _, hfirst, hsecond, hview⟩ | ⟨_, hfirst, hsecond⟩
  · rw [hfirst, hsecond]
    exact .ok hview hsites
  · rw [hfirst, hsecond]
    exact .error hsites

theorem blind_consult {question : Disk → Except Incident α}
    (hquestion : ∀ disk, question (disk.map sight.content) = question disk) :
    Blind R (consult question) := by
  have hsame (disk : Disk) :
      question (disk.map sight.content) = (question disk).map (fun value => value) := by
    rw [hquestion]
    cases question disk with
    | ok value => rfl
    | error incident => rfl
  exact ((h.couple_consult hsame).mono fun _ _ hvalue => hvalue.symm).blind

/-- Operations on the disk that show the same run alike. -/
theorem couple_onDisk {operation operation' shown : DiskAction Unit}
    (hoperation : DiskAction.Mapped sight.content operation shown)
    (hoperation' : DiskAction.Mapped sight.content operation' shown) :
    Couple Eq R (onDisk operation) (onDisk operation') := by
  refine ⟨fun site hsite => ?_, fun site site' hsites => Or.inr ?_⟩
  · have hkept (disk : Disk) : R.Astray (site.withDisk disk) := h.astray hsite (by rfl)
    unfold onDisk
    cases operation site.disk with
    | ok value disk => exact .ok rfl (hkept disk)
    | error incident disk => exact .error (hkept disk)
  have hagree := h.agree hsites
  have hresult : DiskAction.mapResult sight.content (operation' site'.disk) =
      DiskAction.mapResult sight.content (operation site.disk) := by
    rw [← hoperation, ← hoperation', hagree.disk_eq]
  have hnext {disk disk' : Disk} (hdisk : disk'.map sight.content = disk.map sight.content) :
      R (site.withDisk disk) (site'.withDisk disk') :=
    h.become hsites rfl rfl ⟨rfl, rfl, Nat.le_refl _, fun _ => rfl⟩
      ⟨rfl, rfl, Nat.le_refl _, fun _ => rfl⟩
      (hagree.withDisk hdisk)
  unfold onDisk
  cases hfirst : operation site.disk with
  | ok value disk =>
      rw [hfirst] at hresult
      cases hsecond : operation' site'.disk with
      | ok value' disk' =>
          rw [hsecond] at hresult
          exact .ok rfl (hnext (EStateM.Result.ok.inj hresult).2)
      | error incident disk' =>
          rw [hsecond] at hresult
          cases hresult
  | error incident disk =>
      rw [hfirst] at hresult
      cases hsecond : operation' site'.disk with
      | ok value' disk' =>
          rw [hsecond] at hresult
          cases hresult
      | error other disk' =>
          rw [hsecond] at hresult
          obtain ⟨rfl, hdisk⟩ := EStateM.Result.error.inj hresult
          exact .error (hnext hdisk)

theorem blind_onDisk {operation : DiskAction Unit}
    (hoperation : DiskAction.Mapped sight.content operation operation) :
    Blind R (onDisk operation) := (h.couple_onDisk hoperation hoperation).blind

end Veil

/-- Where keyrings are loaded alike every change of what operations look at runs alike. -/
theorem Builder.blind_change (h : Builder sight R) {change : Site → Site}
    (hframe : ∀ site : Site, (change site).frame = site.frame)
    (hagree : ∀ {site site' : Site}, site.Agree sight site' →
      (change site).Agree sight (change site')) :
    Blind R (modify change : Action Unit) :=
  .of (fun site hsite => h.astray hsite (hframe site)) fun _ _ hsites =>
    Or.inr (.ok (h.change hsites (hframe _) (hframe _) (hagree (h.agree hsites))))

end Action

/-! ## Tracing that runs alike -/

/-- The relation lets nothing differ that tracing looks at, and tracing writes alike under it. -/
structure Trace.Shared (R : Site → Site → Prop) : Prop where
  tracing_eq : ∀ {site site' : Site}, R site site' → site'.tracing = site.tracing
  environment_eq : ∀ {site site' : Site}, R site site' → site'.environment = site.environment
  hasExporters_eq : ∀ {site site' : Site}, R site site' → site'.hasExporters = site.hasExporters
  lacksTelemetry_eq : ∀ {site site' : Site}, R site site' →
    site'.lacksTelemetry = site.lacksTelemetry
  digestFlaw?_eq : ∀ {site site' : Site}, R site site' → site'.digestFlaw? = site.digestFlaw?
  update : ∀ change : Trace → Trace, Blind R (Trace.update change)
  perform : ∀ protocol endpoint, Blind R (perform (.openExporter protocol endpoint))
  note : ∀ words, Blind R (note .error words)
  refuse : ∀ path, Blind R (Trace.refuse path)

namespace Trace.Shared

variable {α α' β β' : Type} {R : Site → Site → Prop} (h : Trace.Shared R)

include h

/-- What follows a look at tracing and its settings is the same. -/
theorem blind_get_bind {next : Site → Action β}
    (hview : ∀ {site site' : Site}, site'.tracing = site.tracing →
      site'.environment = site.environment → site'.hasExporters = site.hasExporters →
        site'.lacksTelemetry = site.lacksTelemetry → next site' = next site)
    (hnext : ∀ site, Blind R (next site)) : Blind R ((get : Action Site) >>= next) := by
  refine blind_of_alike fun site site' hsites => ?_
  rw [get_bind, get_bind, hview (h.tracing_eq hsites) (h.environment_eq hsites)
    (h.hasExporters_eq hsites) (h.lacksTelemetry_eq hsites)]
  exact (hnext site).run hsites

theorem blind_openCollector : Blind R openCollector := by
  refine h.blind_get_bind (fun _ henvironment hexporters _ => by
    simp only [henvironment, hexporters]) fun site => ?_
  dsimp only
  exact blind_ite (blind_bind (blind_throw _) fun _ => h.perform _ _) (h.perform _ _)

theorem blind_install : Blind R install := by
  refine h.blind_get_bind (fun _ henvironment _ htelemetry => by
    simp only [henvironment, htelemetry]) fun site => ?_
  have hsink : Blind R (if keepsInMemory site.environment then
      Trace.update fun tracing =>
        { tracing with memory := some [], provider := some ⟨serviceName site.environment, .memory⟩ }
    else if site.environment.setting "ARTIFACTFS_OTEL_EXPORTER" "otlp" = "console".toList then
      Trace.update fun tracing =>
        { tracing with provider := some ⟨serviceName site.environment, .console⟩ }
    else do
      openCollector
      Trace.update fun tracing =>
        { tracing with provider := some ⟨serviceName site.environment, .collector⟩ }) := by
    refine blind_ite (h.update _) (blind_ite (h.update _) ?_)
    exact blind_bind h.blind_openCollector fun _ => h.update _
  dsimp only
  exact blind_ite (blind_bind (blind_throw _) fun _ => hsink) hsink

theorem blind_report (required : Bool) (failure : Failure) : Blind R (report required failure) := by
  refine blind_bind (h.note _) fun _ => ?_
  exact blind_ite (blind_bind (blind_throw _) fun _ => blind_pure _)
    (blind_bind (blind_pure _) fun _ => blind_pure _)

theorem blind_configure : Blind R configure := by
  refine h.blind_get_bind (fun htracing henvironment _ _ => by
    simp only [htracing, henvironment]) fun site => ?_
  refine blind_ite (blind_bind (h.update _) fun _ => blind_pure _) ?_
  refine blind_ite (blind_pure _) (blind_ite (blind_pure _) ?_)
  refine blind_bind (h.update _) fun _ => ?_
  refine blind_bind (blind_outcome h.blind_install) fun result => ?_
  cases result with
  | ok value => exact blind_pure _
  | error failure => exact h.blind_report _ failure

theorem blind_prepare : Blind R prepare := by
  refine h.blind_get_bind (fun htracing _ _ _ => by simp only [htracing]) fun site => ?_
  exact blind_ite (blind_discard h.blind_configure) (blind_pure _)

variable {V : α → α' → Prop} {action : Action α} {action' : Action α'}

/-- A path has a digest in both runs or in none. -/
theorem couple_digested (path : Text) (haction : Couple V R action action') :
    Couple V R (digested path action) (digested path action') := by
  refine couple_bind couple_get fun site site' hsites => ?_
  rw [h.digestFlaw?_eq hsites]
  cases site.digestFlaw? path with
  | none => exact haction
  | some words => exact (h.refuse path).couple_bind fun _ => couple_throw _

theorem couple_within {provider : Provider} {operation : Operation} {kind : Kind} {path : Text}
    (haction : Couple V R action action') :
    Couple V R (within provider operation kind path action)
      (within provider operation kind path action') := by
  refine couple_bind couple_get fun site site' hsites => ?_
  have hdigest : digest? site' path = digest? site path := by
    simp only [digest?, h.digestFlaw?_eq hsites]
  dsimp only
  rw [h.tracing_eq hsites, hdigest]
  refine (h.update _).couple_bind fun _ => ?_
  refine couple_bind (couple_outcome (h.couple_digested path haction))
    fun result result' hresult => ?_
  cases hresult with
  | ok hvalue => exact (h.update _).couple_bind fun _ => couple_pure hvalue
  | error failure => exact (h.update _).couple_bind fun _ => couple_throw _

/-- A span is opened for one of two coupled actions if it is for the other. -/
theorem couple_traced (operation : Operation) (kind : Kind) (path : Text)
    (haction : Couple V R action action') :
    Couple V R (traced operation kind path action) (traced operation kind path action') := by
  refine couple_bind couple_get fun site site' hsites => ?_
  rw [h.environment_eq hsites, h.lacksTelemetry_eq hsites]
  refine couple_ite haction (h.blind_prepare.couple_bind fun _ => ?_)
  refine couple_bind couple_get fun next next' hnext => ?_
  rw [h.tracing_eq hnext]
  cases next.tracing.provider with
  | none => exact h.couple_digested path haction
  | some provider => exact h.couple_within haction

end Trace.Shared

/-! ## Differences in rules and log -/

namespace Action.Unseen

variable {R : Site → Site → Prop} (h : Unseen R)

include h

theorem shared : Trace.Shared R where
  tracing_eq hsites := by rw [h.same hsites]; rfl
  environment_eq hsites := by rw [h.same hsites]; rfl
  hasExporters_eq hsites := by rw [h.same hsites]; rfl
  lacksTelemetry_eq hsites := by rw [h.same hsites]; rfl
  digestFlaw?_eq hsites := by rw [h.same hsites]; rfl
  update change := by
    refine blind_of_alike fun site site' hsites => ?_
    have hleads : site.Leads { site with tracing := change site.tracing } :=
      ⟨rfl, rfl, Nat.le_refl _, fun _ => rfl⟩
    have hnext := h.become hsites hleads
    rw [h.same hsites] at hnext ⊢
    exact .ok hnext
  perform protocol endpoint := h.perform rfl rfl
  note words := h.note .error words
  refuse path := by
    refine blind_of_alike fun site site' hsites => ?_
    have hleads : site.Leads (after (Trace.refuse path) site) :=
      ⟨rfl, rfl, Nat.le_refl _, fun _ => rfl⟩
    have hnext := h.become hsites hleads
    rw [h.same hsites] at hnext ⊢
    exact .ok hnext

omit h in
/-- Sites that become others in one way still differ in their rules and logs only. -/
theorem under_of_agree {site site' next next' : Site}
    (hsame : site' = site.under site'.rules site'.notices) (hframe : next.frame = site.frame)
    (hframe' : next'.frame = site'.frame) (hagree : next.Agree .clear next') :
    next = next.under site.rules site.notices ∧ next' = next.under site'.rules site'.notices := by
  constructor
  · have hrules : next.rules = site.rules := (congrArg Site.rules hframe :)
    have hnotices : next.notices = site.notices := (congrArg Site.notices hframe :)
    rw [← hrules, ← hnotices]
    rfl
  · have hunder := congrArg (fun frame : Site => frame.under site'.rules site'.notices) hframe
    have hsame' := hframe'.trans (congrArg Site.frame hsame)
    exact Site.Agree.eq { hagree with } (hsame'.trans hunder.symm)

/-- What lets only rules and log differ shows everything else. -/
theorem veil : Veil .clear R where
  agree hsites := by
    rw [h.same hsites]
    exact ⟨rfl, rfl, rfl, fun _ _ => rfl, rfl, rfl, rfl, rfl, rfl, rfl, rfl, rfl, rfl, trivial⟩
  become hsites hframe hframe' hleads _ hagree := by
    obtain ⟨hfirst, hsecond⟩ := under_of_agree (h.same hsites) hframe hframe' hagree
    rw [hfirst, hsecond]
    exact h.become hsites hleads
  astray hsite _ := hsite
  perform hbuilding hclosed _ := h.perform hbuilding hclosed
  note words := h.note .warning words
  traced operation kind path haction := h.shared.couple_traced operation kind path haction

/-- If clients are built alike as well, so are backends. -/
theorem builder (hbuild : ∀ {call : Call}, call.isBuilding = true → Blind R (Action.perform call))
    (hbecome : ∀ {site site' : Site} (next : Site), R site site' →
      R (next.under site.rules site.notices) (next.under site'.rules site'.notices)) :
    Builder .clear R where
  toVeil := h.veil
  build {call call'} hshown hbuilding := by
    simp only [Sight.clear, Call.hide_id] at hshown
    rw [hshown]
    exact (hbuild hbuilding).couple
  change {site site' next next'} hsites hframe hframe' hagree := by
    obtain ⟨hfirst, hsecond⟩ := under_of_agree (h.same hsites) hframe hframe' hagree
    rw [hfirst, hsecond]
    exact hbecome next hsites

end Action.Unseen

end ArtifactDepot
