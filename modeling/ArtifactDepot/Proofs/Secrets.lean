import ArtifactDepot.Proofs.Closings
import ArtifactDepot.Proofs.Documents
import ArtifactDepot.Proofs.Whole
import ArtifactDepot.Session.Start
import Mathlib.Data.List.Forall2

/-!
# Where secrets go

Two sessions are compared that start with credential documents which differ in
secrets only.  Their sites stay the same but for those documents, the secrets in
loaded tables, and the secrets among the arguments of the calls that were made
(`Site.Veiled`).  No rule may tell such calls apart, and then every step is
reported alike: a secret gets into the arguments of the calls that build
clients, and into what is given away on request.
-/

namespace ArtifactDepot

open ArtifactDepot.Action

/-! ## Rules that do not look at secrets -/

namespace Rule

variable {secret : Text → Text} {rule : Rule} {rules : List Rule} {call call' : Call}

/-- Whether the rule is meant for a call does not depend on secrets among its arguments. -/
def IsDiscreet (secret : Text → Text) (rule : Rule) : Prop :=
  ∀ call call' : Call, call'.hide secret = call.hide secret →
    Json.alikeFront rule.pattern call'.row = Json.alikeFront rule.pattern call.row

/-- A rule that is not meant for calls which hand over secrets does not look at any. -/
theorem isDiscreet_of_isEntrusted
    (h : ∀ call : Call, call.isEntrusted = true → Json.alikeFront rule.pattern call.row = false) :
    rule.IsDiscreet secret := by
  intro call call' hshown
  have hentrusted : call'.isEntrusted = call.isEntrusted := by
    rw [← call'.isEntrusted_hide secret, hshown, call.isEntrusted_hide]
  -- Calls that hand over nothing are shown as they are.
  cases hcall : call.isEntrusted with
  | true => rw [h call hcall, h call' (hentrusted.trans hcall)]
  | false =>
      rw [Call.hide_eq_self hcall, Call.hide_eq_self (hentrusted.trans hcall)] at hshown
      rw [hshown]

theorem IsDiscreet.applies_eq (h : rule.IsDiscreet secret)
    (hshown : call'.hide secret = call.hide secret) :
    rule.applies call'.row = rule.applies call.row := by
  rw [applies, applies, h call call' hshown]

/-- Calls that show the same are answered alike. -/
theorem struck?_of_discreet (h : ∀ rule ∈ rules, rule.IsDiscreet secret)
    (hshown : call'.hide secret = call.hide secret) : struck? rules call' = struck? rules call := by
  induction rules with
  | nil => rfl
  | cons first others ih =>
      rw [List.forall_mem_cons] at h
      rw [struck_cons, struck_cons, h.1.applies_eq hshown, ih h.2]

/-- Calls that show the same use up the same rules. -/
theorem spentBy_of_discreet (h : ∀ rule ∈ rules, rule.IsDiscreet secret)
    (hshown : call'.hide secret = call.hide secret) : spentBy rules call' = spentBy rules call := by
  induction rules with
  | nil => rfl
  | cons first others ih =>
      rw [List.forall_mem_cons] at h
      rw [spentBy_cons, spentBy_cons, h.1.applies_eq hshown, ih h.2]

/-- Rules that are used up stay discreet. -/
theorem discreet_spentBy (h : ∀ rule ∈ rules, rule.IsDiscreet secret) (call : Call) :
    ∀ rule ∈ spentBy rules call, rule.IsDiscreet secret := by
  induction rules with
  | nil => exact h
  | cons first others ih =>
      rw [List.forall_mem_cons] at h
      rw [spentBy_cons]
      split
      · exact List.forall_mem_cons.2 ⟨h.1, h.2⟩
      · exact List.forall_mem_cons.2 ⟨h.1, ih h.2⟩

end Rule

/-! ## Sites that differ in secrets -/

namespace Site

/-- The frames of two sites are the same, but for secrets among the arguments of calls. -/
structure SameFrame (secret : Text → Text) (frame frame' : Site) : Prop where
  environment_eq : frame'.environment = frame.environment
  rules_eq : frame'.rules = frame.rules
  hasExporters_eq : frame'.hasExporters = frame.hasExporters
  lacksTelemetry_eq : frame'.lacksTelemetry = frame.lacksTelemetry
  digestFlaw?_eq : frame'.digestFlaw? = frame.digestFlaw?
  calls_eq : frame'.calls.map (Call.hide secret) = frame.calls.map (Call.hide secret)
  notices_eq : frame'.notices = frame.notices
  refusals_eq : frame'.refusals = frame.refusals
  tracing_eq : frame'.tracing = frame.tracing
  discreet : ∀ rule ∈ frame.rules, rule.IsDiscreet secret

/-- Two sites show the same to operations, and their records show the same as well. -/
structure Veiled (sight : Sight) (site site' : Site) : Prop where
  agree : site.Agree sight site'
  records : SameFrame sight.secret site.frame site'.frame

variable {sight : Sight} {site site' next next' : Site}

theorem Veiled.change (h : Veiled sight site site') (hframe : next.frame = site.frame)
    (hframe' : next'.frame = site'.frame) (hagree : next.Agree sight next') :
    Veiled sight next next' where
  agree := hagree
  records := by
    rw [hframe, hframe']
    exact h.records

theorem Veiled.rules_eq (h : Veiled sight site site') : site'.rules = site.rules :=
  h.records.rules_eq

/-- Calls that show the same leave what shows the same. -/
theorem Veiled.having (h : Veiled sight site site') {call call' : Call}
    (hshown : call'.hide sight.secret = call.hide sight.secret) :
    Veiled sight (site.having call) (site'.having call') where
  agree := { h.agree with }
  records := { h.records with
    rules_eq := by
      have hspent := Rule.spentBy_of_discreet h.records.discreet hshown
      change Rule.spentBy site'.rules call' = Rule.spentBy site.rules call
      rw [h.rules_eq]
      exact hspent
    calls_eq := by
      change (site'.calls ++ [call']).map _ = (site.calls ++ [call]).map _
      rw [List.map_append, List.map_append]
      exact congrArg₂ (· ++ ·) h.records.calls_eq (congrArg (fun shown => [shown]) hshown)
    discreet := Rule.discreet_spentBy h.records.discreet call }

end Site

variable {sight : Sight}

theorem couple_perform_veiled {call call' : Call}
    (hshown : call'.hide sight.secret = call.hide sight.secret) :
    Couple Eq (Site.Veiled sight) (perform call) (perform call') := by
  refine couple_of_alike fun site site' hsites => alike_perform ?_ (hsites.having hshown)
  rw [hsites.rules_eq]
  exact Rule.struck?_of_discreet hsites.records.discreet hshown

theorem blind_note_veiled (severity : Severity) (words : String) :
    Blind (Site.Veiled sight) (note severity words) :=
  blind_of_alike fun _ _ hsites => .ok ⟨{ hsites.agree with }, { hsites.records with
    notices_eq := congrArg (· ++ [Notice.mk severity words]) hsites.records.notices_eq }⟩

theorem shared_veiled : Trace.Shared (Site.Veiled sight) where
  tracing_eq hsites := hsites.records.tracing_eq
  environment_eq hsites := hsites.records.environment_eq
  hasExporters_eq hsites := hsites.records.hasExporters_eq
  lacksTelemetry_eq hsites := hsites.records.lacksTelemetry_eq
  digestFlaw?_eq hsites := hsites.records.digestFlaw?_eq
  update change := blind_of_alike fun _ _ hsites =>
    .ok ⟨{ hsites.agree with }, { hsites.records with
      tracing_eq := congrArg change hsites.records.tracing_eq }⟩
  perform _ _ := (couple_perform_veiled rfl).blind
  note words := blind_note_veiled .error words
  refuse path := blind_of_alike fun _ _ hsites =>
    .ok ⟨{ hsites.agree with }, { hsites.records with
      refusals_eq := congrArg (· ++ [path]) hsites.records.refusals_eq }⟩

/-- Everything runs alike on sites that differ in secrets. -/
theorem whole_veiled : Whole sight (Site.Veiled sight) where
  agree hsites := hsites.agree
  become hsites hframe hframe' _ _ hagree := hsites.change hframe hframe' hagree
  change hsites hframe hframe' hagree := hsites.change hframe hframe' hagree
  astray hsite _ := hsite
  perform _ _ _ := (couple_perform_veiled rfl).blind
  build hshown _ := couple_perform_veiled hshown
  close _ _ := (couple_perform_veiled rfl).blind
  note words := blind_note_veiled .warning words
  traced operation kind path haction := shared_veiled.couple_traced operation kind path haction

/-! ## Steps that differ in secrets -/

/--
Two steps are the same, or they differ only in what is not shown of a content that is put in place
or of a credential that is handed to a backend.
-/
inductive Step.Like (sight : Sight) : Step → Step → Prop where
  | same (step : Step) : Like sight step step
  | writeFile (path : Text) {content content' : ByteArray}
      (h : sight.SameContent content content') :
      Like sight (.writeFile path content) (.writeFile path content')
  | newBackend (id : Text) (kind : Kind) (path : Option Text) (buildClient : Bool)
      {credential credential' : Option Credential}
      (h : sight.SameCredential credential credential') :
      Like sight (.newBackend id kind path credential buildClient)
        (.newBackend id kind path credential' buildClient)

namespace SessionAction

theorem blind_updateEnvironment_veiled (change : Environment → Environment) :
    Blind (Site.Veiled sight) (updateEnvironment change) := by
  refine blind_of_alike fun site site' hsites => ?_
  have henvironment : change site'.environment = change site.environment :=
    congrArg change hsites.records.environment_eq
  exact .ok ⟨{ hsites.agree with
      setting_eq := fun name _ =>
        congrArg (fun environment => environment.get? name) henvironment },
    { hsites.records with environment_eq := henvironment }⟩

/-- The same setting is changed in the same way in both runs. -/
theorem blind_setVariable_veiled (name : Text) (value : Option Text) :
    Blind (Site.Veiled sight) (setVariable name value) := by
  cases value with
  | none => exact blind_updateEnvironment_veiled _
  | some value => exact blind_ite (blind_throw _) (blind_updateEnvironment_veiled _)

theorem blind_addRule_veiled {rule : Rule} (hrule : rule.IsDiscreet sight.secret) :
    Blind (Site.Veiled sight)
      (modify fun site => { site with rules := site.rules ++ [rule] } : Action Unit) :=
  blind_of_alike fun _ _ hsites => .ok ⟨{ hsites.agree with }, { hsites.records with
    rules_eq := congrArg (· ++ [rule]) hsites.records.rules_eq
    discreet := List.forall_mem_append.2 ⟨hsites.records.discreet, fun _ hadded => by
      rw [List.mem_singleton.1 hadded]
      exact hrule⟩ }⟩

/-- A look at tracing or its settings is answered alike. -/
theorem blind_look_tracing (view : Trace → Environment → Reply) :
    Blind (Comparison.lift (Site.Veiled sight))
      ((get : SessionAction Session) >>= fun session =>
        pure (view session.site.tracing session.site.environment)) := by
  refine Couple.blind (couple_bind couple_get fun session session' hsessions => couple_pure ?_)
  have htracing : session'.site.tracing = session.site.tracing := hsessions.1.records.tracing_eq
  have henvironment : session'.site.environment = session.site.environment :=
    hsessions.1.records.environment_eq
  rw [htracing, henvironment]

/-- Steps that show the same run alike, and their answers show the same. -/
theorem couple_run_veiled {step step' : Step} (hstep : step.Like sight step')
    (hrules : ∀ rule ∈ step.rules, rule.IsDiscreet sight.secret) :
    Couple (Reply.Like sight step.readsFile) (Comparison.lift (Site.Veiled sight)) (run step)
      (run step') := by
  have hwhole : Whole sight (Site.Veiled sight) := whole_veiled
  have hsame {action : SessionAction Reply} {disclosed : Bool}
      (haction : Blind (Comparison.lift (Site.Veiled sight)) action) :
      Couple (Reply.Like sight disclosed) (Comparison.lift (Site.Veiled sight)) action action :=
    haction.couple.mono fun _ _ hreply => hreply ▸ .same _
  cases hstep with
  | writeFile path hcontent =>
      exact couple_answer (Upkeep.couple_writeFile hwhole.toVeil path hcontent) fun _ _ _ => .same _
  | newBackend id kind path buildClient hcredential =>
      refine couple_bind (couple_onSite (Backend.couple_openWith hwhole.toBuilder buildClient kind
        path hcredential)) ?_
      rintro backend _ rfl
      exact hsame (blind_introduce (some id) backend)
  | same =>
      cases step with
      | setVariable name value => exact hsame (blind_answer _ (blind_setVariable_veiled name value))
      | addRule rule =>
          have hrule := hrules rule (List.mem_singleton.2 rfl)
          exact hsame (blind_answer _ (blind_addRule_veiled hrule))
      | configureTracing => exact hsame (blind_answer _ shared_veiled.blind_configure)
      | clearSpans => exact hsame (blind_answer _ (shared_veiled.update _))
      | resetTracing => exact hsame (blind_answer _ (shared_veiled.update _))
      | tracingEnabled =>
          exact hsame (blind_look_tracing fun _ environment => .flag (Trace.isEnabled environment))
      | tracingService =>
          exact hsame (blind_look_tracing fun tracing _ =>
            .optionalText (tracing.provider.map (·.service)))
      | spans => exact hsame (blind_look_tracing fun tracing _ => .spans tracing.spans)
      | _ => exact couple_run hwhole _ rfl rfl

end SessionAction

/-! ## Sessions that differ in secrets -/

/-- The descriptions of the credentials that a reply gives away. -/
def Reply.descriptions : Reply → List String
  | .credential value => [value.describe]
  | .grants value => value.map (·.credential.describe)
  | _ => []

/-- Descriptions show no secrets. -/
theorem Reply.Like.descriptions_eq {disclosed : Bool} {reply reply' : Reply}
    (h : Reply.Like sight disclosed reply reply') : reply'.descriptions = reply.descriptions := by
  cases h with
  | same => rfl
  | credential hhidden =>
      have hdescribed := congrArg Credential.describe hhidden
      rw [Credential.describe_hide, Credential.describe_hide] at hdescribed
      exact congrArg (fun description => [description]) hdescribed
  | grants hhidden =>
      have hdescribed := congrArg (List.map fun grant : Grant => grant.credential.describe) hhidden
      simp only [List.map_map, Function.comp_def, Grant.hide, Credential.describe_hide]
        at hdescribed
      exact hdescribed
  | _ => rfl

/-- Two steps are reported alike but for what the sight does not show. -/
structure Report.Alike (sight : Sight) (disclosed : Bool) (report report' : Report) : Prop where
  outcome : SameOutcome (Reply.Like sight disclosed) report.outcome report'.outcome
  descriptions_eq : report'.outcome.map Reply.descriptions = report.outcome.map Reply.descriptions
  calls_eq : report'.calls.map (Call.hide sight.secret) = report.calls.map (Call.hide sight.secret)
  notices_eq : report'.notices = report.notices

namespace Session

variable {session session' : Session} {step step' : Step} {steps steps' : List Step}

/-- Two steps that show the same are reported alike, and the runs go on from there. -/
theorem advance_veiled (h : Lift (Site.Veiled sight) session session')
    (hstep : step.Like sight step') (hrules : ∀ rule ∈ step.rules, rule.IsDiscreet sight.secret) :
    (session.advance step).1.Alike sight step.readsFile (session'.advance step').1 ∧
      Lift (Site.Veiled sight) (session.advance step).2 (session'.advance step').2 := by
  have halike := advance_alike whole_veiled.toVeil
    ((SessionAction.couple_run_veiled hstep hrules).run h)
  obtain ⟨houtcome, hlast, site, site', hsites, -, hcalls, hcalls', hnotices, hnotices'⟩ :=
    halike.resolve_left id
  -- What a step is reported with is the end of the records, and these are equally long before it.
  refine ⟨⟨houtcome, ?_, ?_, ?_⟩, hlast⟩
  · generalize (session.advance step).1.outcome = outcome at houtcome
    generalize (session'.advance step').1.outcome = outcome' at houtcome
    cases houtcome with
    | ok hreply => exact congrArg Except.ok hreply.descriptions_eq
    | error failure => rfl
  · have hlength : session'.site.calls.length = session.site.calls.length := by
      have hcounted := congrArg List.length h.1.records.calls_eq
      rw [List.length_map, List.length_map] at hcounted
      exact hcounted
    rw [hcalls, hcalls', hlength, List.map_drop, List.map_drop]
    exact congrArg (List.drop session.site.calls.length) hsites.records.calls_eq
  · have hlength : session'.site.notices.length = session.site.notices.length :=
      congrArg List.length h.1.records.notices_eq
    rw [hnotices, hnotices', hlength]
    exact congrArg (List.drop session.site.notices.length) hsites.records.notices_eq

/-- Two sessions that take steps which show the same are reported alike to their end. -/
theorem reports_veiled (h : Lift (Site.Veiled sight) session session')
    (hsteps : List.Forall₂ (Step.Like sight) steps steps')
    (hrules : ∀ rule ∈ steps.flatMap Step.rules, rule.IsDiscreet sight.secret) :
    List.Forall₂ (fun taken report' => taken.2.Alike sight taken.1.readsFile report')
        (steps.zip (session.reports steps)) (session'.reports steps') ∧
      Lift (Site.Veiled sight) (session.after steps) (session'.after steps') := by
  induction hsteps generalizing session session' with
  | nil => exact ⟨.nil, h⟩
  | cons hstep _ ih =>
      rw [List.flatMap_cons, List.forall_mem_append] at hrules
      obtain ⟨hreport, hnext⟩ := advance_veiled h hstep hrules.1
      obtain ⟨hothers, hlast⟩ := ih hnext hrules.2
      exact ⟨.cons hreport hothers, hlast⟩

end Session

namespace Surroundings

variable {surroundings surroundings' : Surroundings}

/-- Two surroundings are the same but for files whose contents show the same. -/
structure Like (sight : Sight) (surroundings surroundings' : Surroundings) : Prop where
  files : List.Forall₂ (fun file file' => file'.1 = file.1 ∧ sight.SameContent file.2 file'.2)
    surroundings.files surroundings'.files
  others : surroundings' = { surroundings with files := surroundings'.files }

/-- Files whose contents show the same are put alike. -/
theorem veiled_addFiles {files files' : List (Text × ByteArray)} {site site' : Site}
    (h : Site.Veiled sight site site')
    (hfiles : List.Forall₂ (fun file file' => file'.1 = file.1 ∧ sight.SameContent file.2 file'.2)
      files files') :
    Site.Veiled sight (files.foldl addFile site) (files'.foldl addFile site') := by
  induction hfiles generalizing site site' with
  | nil => exact h
  | @cons file file' _ _ hfile _ ih =>
      refine ih ?_
      have halike := (Upkeep.couple_writeFile whole_veiled.toVeil file.1 hfile.2).run h
      unfold addFile
      rw [hfile.1]
      generalize Upkeep.writeFile file.1 file.2 site = first at halike ⊢
      generalize Upkeep.writeFile file.1 file'.2 site' = second at halike ⊢
      cases halike with
      | ok _ hlast => exact hlast
      | error hlast => exact hlast

/-- Sessions in surroundings that show the same start alike. -/
theorem Like.veiled_session (h : surroundings.Like sight surroundings')
    (hsuits : sight.Suits surroundings.nesting)
    (hrules : ∀ rule ∈ surroundings.rules, rule.IsDiscreet sight.secret) :
    Session.Lift (Site.Veiled sight) surroundings.session surroundings'.session := by
  have hbare : Site.Veiled sight surroundings.bareSite surroundings'.bareSite := by
    rw [h.others]
    exact ⟨⟨rfl, rfl, rfl, fun _ _ => rfl, rfl, rfl, rfl, rfl, rfl, rfl, rfl, rfl, rfl, hsuits⟩,
      ⟨rfl, rfl, rfl, rfl, rfl, rfl, rfl, rfl, rfl, hrules⟩⟩
  exact ⟨veiled_addFiles hbare h.files, rfl⟩

/--
In surroundings whose credential documents differ in secrets only, sessions that hand no more than
such documents and credentials to their steps are reported alike: failures and warnings are the
same, and so are results, apart from the secrets of a credential that is given away and from the
document that is read as a file, and calls, apart from secrets among their arguments.
-/
theorem secrets_reach_clients_only {first second : ByteArray}
    (h : Keyring.DifferInSecrets surroundings.nesting first second)
    (hsurroundings : surroundings.Like (.between h) surroundings') {steps steps' : List Step}
    (hsteps : List.Forall₂ (Step.Like (.between h)) steps steps')
    (hrules : ∀ rule ∈ surroundings.rules ++ steps.flatMap Step.rules,
      rule.IsDiscreet Text.masked) :
    List.Forall₂ (fun taken report' => taken.2.Alike (.between h) taken.1.readsFile report')
        (steps.zip (surroundings.session.reports steps)) (surroundings'.session.reports steps') ∧
      (surroundings'.session.after steps').site.tracing.spans =
        (surroundings.session.after steps).site.tracing.spans ∧
      (surroundings'.session.after steps').site.cloud =
        (surroundings.session.after steps).site.cloud ∧
      (surroundings'.session.after steps').site.disk.map (Sight.taking first second) =
        (surroundings.session.after steps).site.disk.map (Sight.taking first second) := by
  rw [List.forall_mem_append] at hrules
  obtain ⟨hreports, hlast⟩ :=
    Session.reports_veiled (hsurroundings.veiled_session rfl hrules.1) hsteps hrules.2
  have htracing : (surroundings'.session.after steps').site.tracing =
      (surroundings.session.after steps).site.tracing := hlast.1.records.tracing_eq
  exact ⟨hreports, congrArg Trace.spans htracing, hlast.1.agree.cloud_eq, hlast.1.agree.disk_eq⟩

/-! ## Two documents -/

/-- A document that grants an account of S3 for one bucket. -/
def keyDocument (key : String) : ByteArray :=
  ("\x7b\"s3\":\x7b\"b\":\x7b\"key_id\":\"k\",\"secret_key\":\"" ++ key ++ "\"\x7d\x7d\x7d").toUTF8

/-- The account that it grants. -/
def keyCredential (key : String) : Credential := .s3 { secretKey := key.toList, keyId := ['k'] }

/-- The value that it spells. -/
def keyValue (key : String) : Json :=
  .record [("s3".toList, .record [(['b'], .record [("key_id".toList, .text ['k']),
    ("secret_key".toList, .text key.toList)])])]

/-- Surroundings with the document and its bucket, which cannot be asked for the first time. -/
def keySurroundings (key : String) : Surroundings where
  files := [("keys".toList, keyDocument key)]
  cloud := ({} : Cloud).putBucket .s3 ['b'] []
  rules := [{ pattern := [Call.service .s3, Call.word "head_bucket"], times := 1 }]

theorem differ_keyDocuments :
    Keyring.DifferInSecrets (keySurroundings "1").nesting (keyDocument "1") (keyDocument "2") :=
  ⟨keyValue "1", keyValue "2", by with_unfolding_all rfl, by with_unfolding_all rfl, rfl⟩

/-- A credential is asked for, clients and scripted backends are built, and the document is read. -/
def givingSteps : List Step :=
  [.newKeyring ['k'] (some "keys".toList), .loadKeyring ['k'] false,
    .credentialFor ['k'] .s3 "b/x".toList,
    .newPool ['p'] (some ['k']) [], .resolve ['p'] "s3://b/x".toList none,
    .newPool ['q'] (some ['k']) [(.s3, {})], .resolve ['q'] "s3://b/x".toList none,
    .shortcut (.readBytes "keys".toList)]

/-- The same, and the account is handed to a backend. -/
def keySteps (key : String) : List Step :=
  .newBackend ['b'] .s3 (some "s3://b/x".toList) (some (keyCredential key)) true :: givingSteps

theorem like_keySurroundings :
    (keySurroundings "1").Like (.between differ_keyDocuments) (keySurroundings "2") where
  files := .cons ⟨rfl, (Sight.sameContent_between _).2 (Or.inr ⟨Or.inl rfl, Or.inr rfl⟩)⟩ .nil
  others := rfl

theorem like_keySteps :
    List.Forall₂ (Step.Like (.between differ_keyDocuments)) (keySteps "1") (keySteps "2") :=
  .cons (.newBackend _ _ _ _ rfl) (List.forall₂_same.2 fun step _ => .same step)

theorem discreet_keySurroundings (rule : Rule)
    (hrule : rule ∈ (keySurroundings "1").rules ++ (keySteps "1").flatMap Step.rules) :
    rule.IsDiscreet Text.masked := by
  cases List.mem_singleton.1 hrule
  refine Rule.isDiscreet_of_isEntrusted fun call hcall => ?_
  cases call with
  | openS3Session settings => rfl
  | openAzureClient client url credential => rfl
  | buildBackend kind path credential => rfl
  | _ => cases hcall

/-- With the two documents the sessions are reported alike. -/
theorem secrets_reach_clients_only_bucket :
    (keySurroundings "1").Like (.between differ_keyDocuments) (keySurroundings "2") ∧
      List.Forall₂ (Step.Like (.between differ_keyDocuments)) (keySteps "1") (keySteps "2") ∧
      List.Forall₂
        (fun taken report' =>
          taken.2.Alike (.between differ_keyDocuments) taken.1.readsFile report')
        ((keySteps "1").zip ((keySurroundings "1").session.reports (keySteps "1")))
        ((keySurroundings "2").session.reports (keySteps "2")) :=
  ⟨like_keySurroundings, like_keySteps,
    (secrets_reach_clients_only differ_keyDocuments like_keySurroundings like_keySteps
      discreet_keySurroundings).1⟩

/-- The credentials that a report gives away, to the caller or to a scripted factory. -/
def givenCredentials (report : Report) : List Credential :=
  (match report.outcome with
    | .ok (.credential value) => [value]
    | _ => []) ++
    report.calls.filterMap fun call =>
      match call with
      | .buildBackend _ _ credential => credential
      | _ => none

/-- The content that a report gives away. -/
def givenContent (report : Report) : Option ByteArray :=
  match report.outcome with
  | .ok (.bytes value) => some value
  | _ => none

/-- With the two documents the same steps give away different credentials and contents. -/
theorem secrets_given_on_request :
    Keyring.DifferInSecrets (keySurroundings "1").nesting (keyDocument "1") (keyDocument "2") ∧
      (∀ key ∈ ["1", "2"],
        ((keySurroundings key).session.reports givingSteps).map givenCredentials =
            [[], [], [keyCredential key], [], [], [], [keyCredential key], []] ∧
          (((keySurroundings key).session.reports givingSteps).map givenContent).getLast? =
            some (some (keyDocument key))) ∧
      keyCredential "1" ≠ keyCredential "2" ∧ keyDocument "1" ≠ keyDocument "2" := by
  refine ⟨differ_keyDocuments, ?_, ?_, ?_⟩
  · decide +kernel
  · decide
  · decide +kernel

end Surroundings

end ArtifactDepot
