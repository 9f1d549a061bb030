import ArtifactDepot.Proofs.Closings
import ArtifactDepot.Proofs.Whole
import Mathlib.Data.List.Forall2

/-!
# Tracing is transparent

A session that traces is compared with the same session with tracing switched
off and without its steps on tracing.  The sites of the two differ in what
tracing goes by, in the records of what tracing itself asked for and logged, and
in the rules that it used up (`Site.Untraced`).  Whatever tracing does on its own
keeps this relation in the one run while the other run stands still, so
operations run alike, whether they open a span or not, and so does every step.
Where tracing refuses a path the first run goes astray (`Site.untracing`), and the
list of the paths that were refused tells so to the end of the session.
-/

namespace ArtifactDepot

open ArtifactDepot.Action

/-! ## Rules that tracing uses up -/

/-- Only a text is alike to a text, and it is the same one. -/
theorem Json.eq_of_alike_text {value : Json} {text : Text}
    (h : alike value (.text text) = true) : value = .text text := by
  cases value with
  | text other =>
      simp only [alike, beq_iff_eq] at h
      rw [h]
  | _ => simp [alike, sameNumber, number?] at h

namespace Call

theorem isExporting_of_isBuilding {call : Call} (h : call.isBuilding = true) :
    call.isExporting = false := by
  cases call with
  | openExporter protocol endpoint => cases h
  | _ => rfl

/-- The row of any other call starts with something else than that of an exporter. -/
theorem row_eq_cons {call : Call} (h : call.isExporting = false) :
    ∃ first rest, call.row = first :: rest ∧ Json.alike (word "otlp") first = false := by
  cases call with
  | openExporter protocol endpoint => cases h
  | openGcsClient client keyFile =>
      cases keyFile with
      | none => exact ⟨_, _, rfl, by decide⟩
      | some path => exact ⟨_, _, rfl, by decide⟩
  | closeClient kind client =>
      cases kind with
      | _ => exact ⟨_, _, rfl, by decide⟩
  | _ => exact ⟨_, _, rfl, by decide⟩

end Call

namespace Rule

/-- The rule is not meant for every call whatsoever, unless it is never used up. -/
def IsParted (rule : Rule) : Prop := rule.pattern = [] → rule.times ≤ 0

/-- The rule is meant for calls that open exporters, if for any. -/
def IsForExporters (rule : Rule) : Prop :=
  ∀ call : Call, call.isExporting = false → Json.alikeFront rule.pattern call.row = false

/-- The rule is meant for other calls than those that open exporters, if for any. -/
def IsForOthers (rule : Rule) : Prop :=
  ∀ call : Call, call.isExporting = true → Json.alikeFront rule.pattern call.row = false

/-- The first word of a pattern tells which of the two a rule is meant for. -/
theorem IsParted.cases {rule : Rule} (h : rule.IsParted) :
    rule.times ≤ 0 ∨ rule.IsForExporters ∨ rule.IsForOthers := by
  obtain ⟨pattern, times, words, attributes⟩ := rule
  cases pattern with
  | nil => exact Or.inl (h rfl)
  | cons value pattern =>
      -- Only the rows of exporters start with this word, so it parts the rules in two.
      by_cases hvalue : Json.alike value (Call.word "otlp") = true
      · refine Or.inr (Or.inl fun call hcall => ?_)
        obtain ⟨first, rest, hrow, hfirst⟩ := Call.row_eq_cons hcall
        have hother : Json.alike value first = false := by
          rw [Json.eq_of_alike_text hvalue]
          exact hfirst
        rw [hrow, Json.alikeFront, hother, Bool.false_and]
      · refine Or.inr (Or.inr fun call hcall => ?_)
        cases call with
        | openExporter protocol endpoint =>
            rw [Call.row, Json.alikeFront, Bool.eq_false_iff.2 hvalue, Bool.false_and]
        | _ => cases hcall

/-- Two rules are one, but for uses that no call other than those of exporters can tell. -/
structure Matched (rule rule' : Rule) : Prop where
  pattern_eq : rule'.pattern = rule.pattern
  incident_eq : rule'.incident = rule.incident
  times : rule'.times = rule.times ∨ (rule.times < 0 ∧ rule'.times < 0) ∨ rule.IsForExporters
  parted : rule.times ≤ 0 ∨ rule.IsForExporters ∨ rule.IsForOthers

theorem Matched.refl {rule : Rule} (h : rule.IsParted) : Matched rule rule :=
  ⟨rfl, rfl, Or.inl rfl, h.cases⟩

variable {rule rule' : Rule} {rules rules' : List Rule} {call : Call}

/-- The rule with one use less. -/
def used (rule : Rule) : Rule := { rule with times := rule.times - 1 }

theorem Matched.applies_eq (h : Matched rule rule') (hcall : call.isExporting = false) :
    rule'.applies call.row = rule.applies call.row := by
  unfold applies
  rw [h.pattern_eq]
  rcases h.times with htimes | ⟨htimes, htimes'⟩ | hexporters
  · rw [htimes]
  · have hne : rule.times ≠ 0 := by omega
    have hne' : rule'.times ≠ 0 := by omega
    rw [bne_iff_ne.2 hne, bne_iff_ne.2 hne']
  · rw [hexporters call hcall, Bool.and_false, Bool.and_false]

/-- After a use of both they still match. -/
theorem Matched.used (h : Matched rule rule') : Matched rule.used rule'.used where
  pattern_eq := h.pattern_eq
  incident_eq := h.incident_eq
  times := by
    rcases h.times with htimes | ⟨htimes, htimes'⟩ | hexporters
    · exact Or.inl (congrArg (· - 1) htimes)
    · refine Or.inr (Or.inl ⟨?_, ?_⟩)
      · exact Int.lt_of_le_of_lt (Int.sub_le_self _ (by decide)) htimes
      · exact Int.lt_of_le_of_lt (Int.sub_le_self _ (by decide)) htimes'
    · exact Or.inr (Or.inr hexporters)
  parted := h.parted.imp_left fun htimes => Int.le_trans (Int.sub_le_self _ (by decide)) htimes

/-- After a use of one by an exporter they still match. -/
theorem Matched.used_left (h : Matched rule rule') (hcall : call.isExporting = true)
    (happlies : rule.applies call.row = true) : Matched rule.used rule' where
  pattern_eq := h.pattern_eq
  incident_eq := h.incident_eq
  times := by
    rw [applies, Bool.and_eq_true, bne_iff_ne] at happlies
    -- A rule that is never used up stays so, and one for exporters may differ in its uses.
    rcases h.parted with hnever | hexporters | hothers
    · have hused : rule.used.times = rule.times - 1 := rfl
      rcases h.times with htimes | ⟨htimes, htimes'⟩ | hexporters
      · exact Or.inr (Or.inl ⟨by omega, by omega⟩)
      · exact Or.inr (Or.inl ⟨by omega, htimes'⟩)
      · exact Or.inr (Or.inr hexporters)
    · exact Or.inr (Or.inr hexporters)
    · rw [hothers call hcall] at happlies
      cases happlies.2
  parted := h.parted.imp_left fun htimes => Int.le_trans (Int.sub_le_self _ (by decide)) htimes

theorem struck?_of_matched (h : List.Forall₂ Matched rules rules')
    (hcall : call.isExporting = false) : struck? rules' call = struck? rules call := by
  induction h with
  | nil => rfl
  | cons hfirst _ ih =>
      rw [struck_cons, struck_cons, hfirst.applies_eq hcall, hfirst.incident_eq, ih]

theorem matched_spentBy (h : List.Forall₂ Matched rules rules') (hcall : call.isExporting = false) :
    List.Forall₂ Matched (spentBy rules call) (spentBy rules' call) := by
  induction h with
  | nil => exact .nil
  | cons hfirst hrest ih =>
      rw [spentBy_cons, spentBy_cons, hfirst.applies_eq hcall]
      split
      · exact .cons hfirst.used hrest
      · exact .cons hfirst ih

theorem matched_spentBy_left (h : List.Forall₂ Matched rules rules')
    (hcall : call.isExporting = true) : List.Forall₂ Matched (spentBy rules call) rules' := by
  induction h with
  | nil => exact .nil
  | cons hfirst hrest ih =>
      rw [spentBy_cons]
      split
      · next happlies => exact .cons (hfirst.used_left hcall happlies) hrest
      · exact .cons hfirst ih

end Rule

/-! ## What tracing does on its own -/

/-- Is it logged that tracing could not be configured? -/
def Notice.isOfTracing (notice : Notice) : Bool := notice.severity = .error

/-- Two lists have grown by the same entries, but the second one is spared some. -/
def Grown {α : Type} (spared : α → Bool) (start start' last last' : List α) : Prop :=
  ∃ more, last = start ++ more ∧ last' = start' ++ more.filter (!spared ·)

namespace Grown

variable {α : Type} {spared : α → Bool} {start start' last last' : List α} {entry : α}

theorem refl (start start' : List α) : Grown spared start start' start start' :=
  ⟨[], (List.append_nil start).symm, (List.append_nil start').symm⟩

theorem both (h : Grown spared start start' last last') (hentry : spared entry = false) :
    Grown spared start start' (last ++ [entry]) (last' ++ [entry]) := by
  obtain ⟨more, rfl, rfl⟩ := h
  refine ⟨more ++ [entry], List.append_assoc .., ?_⟩
  simp [List.filter_append, hentry]

theorem first (h : Grown spared start start' last last') (hentry : spared entry = true) :
    Grown spared start start' (last ++ [entry]) last' := by
  obtain ⟨more, rfl, rfl⟩ := h
  refine ⟨more ++ [entry], List.append_assoc .., ?_⟩
  simp [List.filter_append, hentry]

/-- What the second one has grown by is what the first one has, without what is spared. -/
theorem drop_eq (h : Grown spared start start' last last') :
    last'.drop start'.length = (last.drop start.length).filter (!spared ·) := by
  obtain ⟨more, rfl, rfl⟩ := h
  rw [List.drop_left, List.drop_left]

end Grown

namespace Site

/--
The frames of two runs that began at two sites: the second one is without tracing, and it is spared
what tracing asks for and logs.
-/
structure Spared (start start' frame frame' : Site) : Prop where
  isEnabled_eq : Trace.isEnabled frame'.environment = false
  isRequired_eq : Trace.isRequired frame.environment = false
  matched : List.Forall₂ Rule.Matched frame.rules frame'.rules
  calls : Grown Call.isExporting start.calls start'.calls frame.calls frame'.calls
  notices : Grown Notice.isOfTracing start.notices start'.notices frame.notices frame'.notices

/--
The second site is where a run is without tracing that began at `start'`, if the first one is where
it is with tracing and began at `start`.
-/
structure Untraced (start start' site site' : Site) : Prop where
  agree : site.Agree .clear site'
  records : Spared start start' site.frame site'.frame

variable {start start' site site' next next' : Site}

/-- The relation asks nothing of the records but what the frames show. -/
theorem Untraced.change (h : Untraced start start' site site') (hframe : next.frame = site.frame)
    (hframe' : next'.frame = site'.frame) (hagree : next.Agree .clear next') :
    Untraced start start' next next' where
  agree := hagree
  records := by
    rw [hframe, hframe']
    exact h.records

/-- A call that both make leaves them as they are to each other. -/
theorem Untraced.having (h : Untraced start start' site site') {call : Call}
    (hcall : call.isExporting = false) :
    Untraced start start' (site.having call) (site'.having call) where
  agree := { h.agree with }
  records := { h.records with
    matched := Rule.matched_spentBy h.records.matched hcall
    calls := h.records.calls.both hcall }

/-- So does the opening of an exporter in the first. -/
theorem Untraced.having_left (h : Untraced start start' site site') {call : Call}
    (hcall : call.isExporting = true) : Untraced start start' (site.having call) site' where
  agree := { h.agree with }
  records := { h.records with
    matched := Rule.matched_spentBy_left h.records.matched hcall
    calls := h.records.calls.first hcall }

/-- Whatever the second run is like after the first site, it is like that after the second one; and
what has been refused stays so. -/
structure Passes (start start' before after : Site) : Prop where
  alike : ∀ site', Untraced start start' before site' → Untraced start start' after site'
  astray : before.refusals ≠ [] → after.refusals ≠ []

instance : IsPreorder Site (Passes start start') where
  refl _ := ⟨fun _ => id, id⟩
  trans _ _ _ h h' := ⟨fun site' hsites => h'.alike site' (h.alike site' hsites),
    fun hrefused => h'.astray (h.astray hrefused)⟩

/-- The two runs are compared until tracing refuses a path. -/
def untracing (start start' : Site) : Comparison Site where
  Related site site' := Untraced start start' site site' ∨ site.refusals ≠ [] ∧ site' = site
  Astray site := site.refusals ≠ []
  partner h := ⟨_, Or.inr ⟨h, rfl⟩⟩

/-- What has been refused in a frame has been refused on its site. -/
theorem refusals_of_frame {site next : Site} (h : next.frame = site.frame) :
    next.refusals = site.refusals := (congrArg Site.refusals h :)

/-- So no change of what operations look at ends the comparison. -/
theorem untracing_change (h : untracing start start' site site') (hframe : next.frame = site.frame)
    (hframe' : next'.frame = site'.frame) (hagree : next.Agree .clear next') :
    untracing start start' next next' := by
  rcases h with hsites | ⟨hrefused, rfl⟩
  · exact Or.inl (hsites.change hframe hframe' hagree)
  · exact Or.inr ⟨refusals_of_frame hframe ▸ hrefused, hagree.eq (hframe'.trans hframe.symm)⟩

end Site

namespace Action

variable {α α' : Type} {V : α → α' → Prop} {start start' : Site}

/-- Actions that run alike up to a refusal are coupled. -/
theorem couple_untracing {action : Action α} {action' : Action α'}
    (hastray : ∀ site, site.refusals ≠ [] → Strayed V (Site.untracing start start') (action site))
    (halike : ∀ site site', Site.Untraced start start' site site' →
      Strayed V (Site.untracing start start') (action site) ∨
        AlikeBy V (Site.untracing start start') (action site) (action' site')) :
    Couple V (Site.untracing start start') action action' where
  astray := hastray
  alike site site' hsites := hsites.elim (halike site site') fun h => Or.inl (hastray site h.1)

/-- An action that runs alike and forgets no refusal is blind. -/
theorem blind_untracing {action : Action α}
    (hastray : ∀ site, (after action site).refusals = site.refusals)
    (halike : ∀ site site', Site.Untraced start start' site site' →
      Alike (Site.Untraced start start') (action site) (action site')) :
    Blind (Site.untracing start start') action := by
  refine Couple.blind (couple_untracing (fun site hsite => ?_) fun site site' hsites => ?_)
  · refine strayed_eq_iff.2 ?_
    change (left (action site)).refusals ≠ []
    rwa [left_eq_after, hastray]
  · have hruns := halike site site' hsites
    generalize action site = first at hruns ⊢
    generalize action site' = second at hruns ⊢
    cases hruns with
    | ok hlast => exact Or.inr (.ok rfl (Or.inl hlast))
    | error hlast => exact Or.inr (.error (Or.inl hlast))

end Action

namespace Trace

variable {start start' : Site}

/-- What tracing knows is of no concern. -/
theorem passes_update (change : Trace → Trace) :
    Keeps (Site.Passes start start') (update change) :=
  keeps_modify fun _ => ⟨fun _ h => ⟨{ h.agree with }, { h.records with }⟩, id⟩

/-- Whatever tracing does on its own is passed over. -/
theorem writes_passes : Writes (Site.Passes start start') where
  update _ := passes_update _
  perform protocol endpoint := by
    intro site
    rw [after_perform]
    exact ⟨fun _ h => h.having_left rfl, id⟩
  note words := keeps_modify fun _ => ⟨fun _ h =>
    ⟨{ h.agree with }, { h.records with notices := h.records.notices.first rfl }⟩, id⟩
  refuse path := keeps_modify fun _ => ⟨fun _ h => ⟨{ h.agree with }, { h.records with }⟩,
    fun _ => List.append_ne_nil_of_right_ne_nil _ (List.cons_ne_nil _ _)⟩

/-- A framed action ends as the action does, on a site that is allowed after the one it leaves. -/
theorem FramedBy.eq_leaving {α : Type} {K : Site → Site → Prop} {action framed : Action α}
    {site : Site} (h : FramedBy K action framed site) :
    ∃ first last, K site first ∧ K (left (action first)) last ∧
      framed site = leaving last (action first) := by
  cases h with
  | @ok first _ last value before run after result =>
      refine ⟨first, last, before, ?_, ?_⟩
      · rwa [run]
      · rw [result, run]
        rfl
  | @error first _ last failure before run after result =>
      refine ⟨first, last, before, ?_, ?_⟩
      · rwa [run]
      · rw [result, run]
        rfl

/-- An action that is traced runs like another one that is not, if it does so by itself and is not
refused. -/
theorem couple_traced_left {α α' : Type} {V : α → α' → Prop} {action : Action α}
    {action' : Action α'} (operation : Operation) (kind : Kind) (path : Text)
    (h : Couple V (Site.untracing start start') action action') :
    Couple V (Site.untracing start start') (traced operation kind path action)
      (traced operation kind path action') := by
  have hwrites : Writes (Site.Passes start start') := writes_passes
  refine couple_untracing (fun site hsite => ?_) fun site site' hsites => ?_
  · -- What surrounds an action forgets no refusal.
    rcases traced_by hwrites operation kind path action site with
      ⟨_, _, hrun, hkept, -, -⟩ | hframed
    · rw [hrun]
      exact .error (hkept.astray hsite)
    · obtain ⟨first, last, hbefore, hafter, hrun⟩ := hframed.eq_leaving
      have hstrayed := h.astray first (hbefore.astray hsite)
      rw [hrun]
      exact hstrayed.leaving (hafter.astray hstrayed.left)
  · -- Tracing is off in the second run, so there the action stands alone.
    have hoff : isEnabled site'.environment = false := hsites.records.isEnabled_eq
    have hsecond : traced operation kind path action' site' = action' site' := by
      unfold traced
      rw [get_bind, hoff]
      rfl
    rw [hsecond]
    -- In the first run what surrounds the action is passed over, unless the path is refused.
    rcases traced_by hwrites operation kind path action site with
      ⟨_, _, hrun, -, hstops, hnoted⟩ | hframed
    · cases hstops with
      | required _ hwanting =>
          refine absurd (fun _ _ hrequired => ?_) hwanting
          exact Bool.noConfusion (hrequired.symm.trans hsites.records.isRequired_eq)
      | unencodable _ =>
          rw [hrun]
          exact Or.inl (.error (List.ne_nil_of_mem (hnoted _ rfl)))
    · obtain ⟨first, last, hbefore, hafter, hrun⟩ := hframed.eq_leaving
      rw [hrun]
      rcases h.alike first site' (Or.inl (hbefore.alike _ hsites)) with hstrayed | halike
      · exact Or.inl (hstrayed.leaving (hafter.astray hstrayed.left))
      · by_cases hleft : (left (action first)).refusals = []
        · refine Or.inr (halike.leaving fun _ hlast => Or.inl (hafter.alike _ ?_))
          exact hlast.resolve_right fun hrefused => hrefused.1 hleft
        · exact Or.inl ((halike.strayed hleft).leaving (hafter.astray hleft))

end Trace

/-- A call that is not one of tracing is answered alike. -/
theorem blind_perform_untracing {start start' : Site} {call : Call}
    (hcall : call.isExporting = false) : Blind (Site.untracing start start') (perform call) := by
  refine blind_untracing (fun site => by rw [after_perform]; rfl) fun site site' hsites => ?_
  exact alikeBy_eq_iff.1 (alike_perform (Rule.struck?_of_matched hsites.records.matched hcall)
    (hsites.having hcall))

/-- Everything runs alike with and without tracing, until tracing refuses a path. -/
theorem whole_untracing (start start' : Site) : Whole .clear (Site.untracing start start') where
  agree := by
    rintro site site' (hsites | ⟨-, rfl⟩)
    · exact hsites.agree
    · exact .refl site'
  become hsites hframe hframe' _ _ hagree := Site.untracing_change hsites hframe hframe' hagree
  change hsites hframe hframe' hagree := Site.untracing_change hsites hframe hframe' hagree
  astray {site next} hrefused hframe := by
    change next.refusals ≠ []
    rw [Site.refusals_of_frame hframe]
    exact hrefused
  perform _ _ hcall := blind_perform_untracing hcall
  build hshown hbuilding := by
    simp only [Sight.clear, Call.hide_id] at hshown
    rw [hshown]
    exact (blind_perform_untracing (Call.isExporting_of_isBuilding hbuilding)).couple
  close _ _ := blind_perform_untracing rfl
  note words := blind_untracing (fun _ => rfl) fun _ _ hsites =>
    .ok ⟨{ hsites.agree with }, { hsites.records with notices := hsites.records.notices.both rfl }⟩
  traced operation kind path haction := Trace.couple_traced_left operation kind path haction

/-! ## Steps with and without tracing -/

/-- The setting that demands tracing. -/
def Trace.requiredSetting : String := "ARTIFACTFS_REQUIRE_OTEL"

namespace Step

/-- Does the step look at tracing, change it, or switch it on or off? -/
def concernsTracing : Step → Bool
  | .setVariable name _ => name = Trace.enabledSetting.toList
  | step => step.isOfTracing

/-- Does the step give a value to the setting that demands tracing? -/
def demandsTracing : Step → Bool
  | .setVariable name (some _) => name = Trace.requiredSetting.toList
  | _ => false

end Step

/-- The report without what tracing itself asked for and logged. -/
def Report.plain (report : Report) : Report :=
  { report with
    calls := report.calls.filter (!·.isExporting)
    notices := report.notices.filter (!·.isOfTracing) }

theorem Report.eq_plain {report report' : Report} (houtcome : report'.outcome = report.outcome)
    (hcalls : report'.calls = report.calls.filter (!·.isExporting))
    (hnotices : report'.notices = report.notices.filter (!·.isOfTracing)) :
    report' = report.plain := by
  cases report' with
  | mk outcome calls notices =>
      rw [plain, mk.injEq]
      exact ⟨houtcome, hcalls, hnotices⟩

/-- To a clear sight outcomes that are related are one. -/
theorem Action.SameOutcome.eq {disclosed : Bool} {outcome outcome' : Except Failure Reply}
    (h : SameOutcome (Reply.Like .clear disclosed) outcome outcome') : outcome' = outcome := by
  cases h with
  | ok hreply => rw [hreply.eq]
  | error failure => rfl

namespace Environment

variable {environment other : Environment} {name : String}

theorem flag_congr (h : other.get? name = environment.get? name) :
    other.flag name = environment.flag name := by
  unfold flag
  rw [h]

/-- A setting that is not there is not switched on. -/
theorem flag_of_none (h : environment.get? name = none) : environment.flag name = false := by
  unfold flag
  rw [h]
  rfl

end Environment

namespace SessionAction

variable {start start' : Site}

/-- A change of the environment is the same without tracing if it is not about tracing. -/
theorem blind_updateEnvironment_untraced (change : Environment → Environment)
    (hchange : ∀ {environment environment' : Environment} {name : String},
      environment'.get? name = environment.get? name →
        (change environment').get? name = (change environment).get? name)
    (henabled : ∀ environment, (change environment).get? Trace.enabledSetting =
      environment.get? Trace.enabledSetting)
    (hrequired : ∀ environment, Trace.isRequired environment = false →
      Trace.isRequired (change environment) = false) :
    Blind (Site.untracing start start') (updateEnvironment change) := by
  refine blind_untracing (fun _ => rfl) fun site site' h => ?_
  have hagree : Site.Agree .clear { site with environment := change site.environment }
      { site' with environment := change site'.environment } := { h.agree with
    setting_eq := fun name hname => hchange (h.agree.setting_eq name hname) }
  exact .ok ⟨hagree, { h.records with
    isEnabled_eq :=
      (Environment.flag_congr (henabled site'.environment)).trans h.records.isEnabled_eq
    isRequired_eq := hrequired _ h.records.isRequired_eq }⟩

/-- A change of one setting is the same change without tracing, unless it is about tracing. -/
theorem blind_setVariable_untraced {name : Text} {value : Option Text}
    (hname : name ≠ Trace.enabledSetting.toList)
    (hvalue : (Step.setVariable name value).demandsTracing = false) :
    Blind (Site.untracing start start') (setVariable name value) := by
  cases value with
  | none =>
      refine blind_updateEnvironment_untraced (·.unset name) (fun h => ?_) (fun environment => ?_)
        fun environment h => ?_
      · simp only [Environment.get?_unset, h]
      · simp only [Environment.get?_unset, if_neg (Ne.symm hname)]
      · by_cases hrequired : Trace.requiredSetting.toList = name
        · exact Environment.flag_of_none ((Environment.get?_unset ..).trans (if_pos hrequired))
        · refine (Environment.flag_congr ?_).trans h
          exact (Environment.get?_unset ..).trans (if_neg hrequired)
  | some value =>
      refine blind_ite (blind_throw _) ?_
      have hother : Trace.requiredSetting.toList ≠ name := Ne.symm (of_decide_eq_false hvalue)
      refine blind_updateEnvironment_untraced (·.set name value) (fun h => ?_)
        (fun environment => ?_) fun environment h => ?_
      · simp only [Environment.get?_set, h]
      · simp only [Environment.get?_set, if_neg (Ne.symm hname)]
      · refine (Environment.flag_congr ?_).trans h
        exact (Environment.get?_set ..).trans (if_neg hother)

/-- To switch tracing on or off is passed over. -/
theorem passes_setVariable (value : Option Text) :
    Keeps (Site.Passes start start') (setVariable Trace.enabledSetting.toList value) := by
  have hupdate (change : Environment → Environment)
      (hchange : ∀ environment name, name ≠ Trace.enabledSetting →
        (change environment).get? name = environment.get? name) :
      Keeps (Site.Passes start start') (updateEnvironment change) := by
    refine keeps_modify fun site => ⟨fun site' h =>
      ⟨{ h.agree with setting_eq := fun name hname => ?_ },
        { h.records with isRequired_eq := ?_ }⟩, id⟩
    · exact (h.agree.setting_eq name hname).trans (hchange site.environment name hname).symm
    · have hsame := hchange site.environment Trace.requiredSetting (by decide)
      exact (Environment.flag_congr hsame).trans h.records.isRequired_eq
  have hne {name : String} (hname : name ≠ Trace.enabledSetting) :
      name.toList ≠ Trace.enabledSetting.toList := fun h => hname (String.toList_inj.1 h)
  cases value with
  | none =>
      refine hupdate (·.unset _) fun environment name hname => ?_
      exact (Environment.get?_unset ..).trans (if_neg (hne hname))
  | some value =>
      refine keeps_ite (keeps_throw _) (hupdate (·.set _ value) fun environment name hname => ?_)
      exact (Environment.get?_set ..).trans (if_neg (hne hname))

/-- A rule that is laid down in both runs is the same in both. -/
theorem blind_addRule_untraced {rule : Rule} (hrule : rule.IsParted) :
    Blind (Site.untracing start start')
      (modify fun site => { site with rules := site.rules ++ [rule] } : Action Unit) := by
  refine blind_untracing (fun _ => rfl) fun site site' h => ?_
  exact .ok ⟨{ h.agree with }, { h.records with
    matched := List.rel_append h.records.matched (.cons (.refl hrule) .nil) }⟩

/-- A step that does not concern tracing runs alike without it. -/
theorem blind_run_untraced {step : Step} (hstep : step.concernsTracing = false)
    (hdemands : step.demandsTracing = false) (hrules : ∀ rule ∈ step.rules, rule.IsParted) :
    Blind (Site.untracing start start').lift (run step) := by
  have hother (hsetting : step.isSetting = false) (htracing : step.isOfTracing = false) :
      Blind (Site.untracing start start').lift (run step) :=
    ((couple_run (whole_untracing start start') step hsetting htracing).mono
      fun _ _ => Reply.Like.eq).blind
  cases step with
  | setVariable name value =>
      exact blind_answer _ (blind_setVariable_untraced (of_decide_eq_false hstep) hdemands)
  | addRule rule =>
      have hrule := hrules rule (List.mem_singleton.2 rfl)
      exact blind_answer _ (blind_addRule_untraced hrule)
  | _ => exact hother rfl hstep

end SessionAction

/-! ## Sessions with and without tracing -/

namespace Site

variable {start start' site site' : Site}

/-- From where two runs are another comparison can begin. -/
theorem Untraced.restart (h : Untraced start start' site site') :
    Untraced site site' site site' where
  agree := h.agree
  records := { h.records with
    calls := .refl _ _
    notices := .refl _ _ }

end Site

namespace Session

/-- The second session is where a run is without tracing, the first one where it is with it. -/
def Untraced : Session → Session → Prop :=
  Lift fun site site' => Site.Untraced site site' site site'

variable {session session' : Session} {step : Step}

theorem Untraced.lift (h : Untraced session session') :
    (Site.untracing session.site session'.site).lift session session' := ⟨Or.inl h.1, h.2⟩

/-- With and without tracing a step that does not concern it runs in one way. -/
theorem couple_run_untracing (start start' : Site) (hstep : step.concernsTracing = false)
    (hdemands : step.demandsTracing = false) (hrules : ∀ rule ∈ step.rules, rule.IsParted) :
    Couple (Reply.Like .clear false) (Site.untracing start start').lift (SessionAction.run step)
      (SessionAction.run step) :=
  (SessionAction.blind_run_untraced hstep hdemands hrules).couple.mono
    fun reply _ heq => heq ▸ Reply.Like.same reply

/-- A step that does not concern tracing is reported alike, and the runs go on from there, unless
tracing refuses a path. -/
theorem Untraced.advance (h : Untraced session session') (hstep : step.concernsTracing = false)
    (hdemands : step.demandsTracing = false) (hrules : ∀ rule ∈ step.rules, rule.IsParted) :
    (session.advance step).2.site.refusals ≠ [] ∨
      (session'.advance step).1 = (session.advance step).1.plain ∧
        Untraced (session.advance step).2 (session'.advance step).2 := by
  have hwhole := whole_untracing session.site session'.site
  have hrun := (couple_run_untracing session.site session'.site hstep hdemands hrules).alike
    session session' h.lift
  rcases hrun with hstrayed | halike
  · exact Or.inl (advance_strayed hwhole.toVeil hstrayed)
  · refine (advance_alike hwhole.toVeil halike).elim Or.inl ?_
    rintro ⟨houtcome, hlast, site, site', hsites, hpassed, hcalls, hcalls', hnotices, hnotices'⟩
    rcases hlast.1 with hnext | ⟨hrefused, -⟩
    · have hbetween := hsites.resolve_right fun hrefused => hpassed hrefused.1
      refine Or.inr ⟨Report.eq_plain houtcome.eq ?_ ?_, hnext.restart, hlast.2⟩
      · rw [hcalls, hcalls']
        exact hbetween.records.calls.drop_eq
      · rw [hnotices, hnotices']
        exact hbetween.records.notices.drop_eq
    · exact Or.inl hrefused

/-- A step that acts on the site leaves the names as they are, unless it makes a directory. -/
theorem advance_of_answer {α : Type} {reply : α → Reply} {action : Action α}
    (hrun : SessionAction.run step = SessionAction.answer reply action)
    (hreply : ∀ value directory released, reply value ≠ .directory directory released) :
    (session.advance step).2 = { session with site := Action.after action session.site } := by
  have hmapped : SessionAction.run step session =
      EStateM.map reply (SessionAction.onSite action) session := by
    rw [hrun]
    rfl
  unfold advance
  rw [hmapped]
  cases haction : action session.site with
  | error failure site => simp only [EStateM.map, SessionAction.onSite, Action.after, haction]
  | ok value site =>
      have hdropped (next : Session) : dropUnnamed (reply value) next = .ok () next := by
        unfold dropUnnamed
        cases hreplied : reply value with
        | directory directory released => exact absurd hreplied (hreply value directory released)
        | _ => rfl
      simp only [EStateM.map, SessionAction.onSite, Action.after, haction, hdropped]

/-- A step that concerns tracing is passed over. -/
theorem passes_advance (start' : Site) (hstep : step.concernsTracing = true) :
    Site.Passes session.site start' session.site (session.advance step).2.site ∧
      (session.advance step).2 = { session with site := (session.advance step).2.site } := by
  have hacted {α : Type} {reply : α → Reply} {action : Action α}
      (hpasses : Keeps (Site.Passes session.site start') action)
      (hrun : SessionAction.run step = SessionAction.answer reply action)
      (hreply : ∀ value directory released, reply value ≠ .directory directory released) :
      Site.Passes session.site start' session.site (session.advance step).2.site ∧
        (session.advance step).2 = { session with site := (session.advance step).2.site } := by
    rw [advance_of_answer hrun hreply]
    exact ⟨hpasses session.site, rfl⟩
  cases step with
  | setVariable name value =>
      cases of_decide_eq_true hstep
      exact hacted (SessionAction.passes_setVariable value) rfl fun _ _ _ => Reply.noConfusion
  | configureTracing =>
      exact hacted (Trace.keeps_configure Trace.writes_passes) rfl fun _ _ _ => Reply.noConfusion
  | clearSpans => exact hacted (Trace.passes_update _) rfl fun _ _ _ => Reply.noConfusion
  | resetTracing => exact hacted (Trace.passes_update _) rfl fun _ _ _ => Reply.noConfusion
  | tracingEnabled => exact ⟨refl_of (Site.Passes session.site start') session.site, rfl⟩
  | tracingService => exact ⟨refl_of (Site.Passes session.site start') session.site, rfl⟩
  | spans => exact ⟨refl_of (Site.Passes session.site start') session.site, rfl⟩
  | _ => cases hstep

theorem Untraced.skip (h : Untraced session session') (hstep : step.concernsTracing = true) :
    Untraced (session.advance step).2 session' := by
  obtain ⟨hpasses, hnames⟩ := passes_advance session'.site hstep
  refine ⟨(hpasses.alike session'.site h.1).restart, ?_⟩
  rw [hnames]
  exact h.2

/-- No step forgets what has been refused. -/
theorem advance_astray (hrefused : session.site.refusals ≠ [])
    (hdemands : step.demandsTracing = false) (hrules : ∀ rule ∈ step.rules, rule.IsParted) :
    (session.advance step).2.site.refusals ≠ [] := by
  cases hstep : step.concernsTracing with
  | true => exact (passes_advance session.site hstep).1.astray hrefused
  | false =>
      have hwhole := whole_untracing session.site session.site
      have hrun := (couple_run_untracing session.site session.site hstep hdemands hrules).astray
        session hrefused
      exact advance_strayed hwhole.toVeil hrun

theorem after_astray {steps : List Step} (hrefused : session.site.refusals ≠ [])
    (hdemands : ∀ step ∈ steps, step.demandsTracing = false)
    (hrules : ∀ rule ∈ steps.flatMap Step.rules, rule.IsParted) :
    (session.after steps).site.refusals ≠ [] := by
  induction steps generalizing session with
  | nil => exact hrefused
  | cons step others ih =>
      rw [List.forall_mem_cons] at hdemands
      rw [List.flatMap_cons, List.forall_mem_append] at hrules
      exact ih (advance_astray hrefused hdemands.1 hrules.1) hdemands.2 hrules.2

/-- The session with tracing switched off. -/
def untraced (session : Session) : Session :=
  { session with
    site := { session.site with
      environment := session.site.environment.unset Trace.enabledSetting.toList } }

/-- A session may be compared with itself with tracing switched off. -/
theorem Untraced.start (hrequired : Trace.isRequired session.site.environment = false)
    (hrules : ∀ rule ∈ session.site.rules, rule.IsParted) : Untraced session session.untraced where
  left := {
    agree := {
      disk_eq := rfl
      past_eq := rfl
      keyrings_eq := rfl
      setting_eq := fun name hname => by
        refine (Environment.get?_unset ..).trans (if_neg fun hsame => ?_)
        exact hname (String.toList_inj.1 hsame)
      lastTemporary_eq := rfl
      cloud_eq := rfl
      installed_eq := rfl
      defaultKeyring_eq := rfl
      scripts_eq := rfl
      serials_eq := rfl
      openClients_eq := rfl
      holdings_eq := rfl
      nesting_eq := rfl
      suits := trivial }
    records := {
      isEnabled_eq := Environment.flag_of_none ((Environment.get?_unset ..).trans (if_pos rfl))
      isRequired_eq := hrequired
      matched := List.forall₂_same.2 fun rule hrule => .refl (hrules rule hrule)
      calls := .refl _ _
      notices := .refl _ _ } }
  right := rfl

/-- What the steps that do not concern tracing are reported with, apart from tracing itself. -/
def plainReports (session : Session) (steps : List Step) : List Report :=
  ((steps.zip (session.reports steps)).filter (!·.1.concernsTracing)).map (·.2.plain)

/-- Two compared runs are reported alike and end where they can be compared, unless tracing refuses
a path. -/
theorem Untraced.run {steps : List Step} (h : Untraced session session')
    (hrefusals : (session.after steps).site.refusals = [])
    (hdemands : ∀ step ∈ steps, step.demandsTracing = false)
    (hrules : ∀ rule ∈ steps.flatMap Step.rules, rule.IsParted) :
    session'.reports (steps.filter (!·.concernsTracing)) = session.plainReports steps ∧
      Untraced (session.after steps) (session'.after (steps.filter (!·.concernsTracing))) := by
  induction steps generalizing session session' with
  | nil => exact ⟨rfl, h⟩
  | cons step others ih =>
      rw [List.forall_mem_cons] at hdemands
      rw [List.flatMap_cons, List.forall_mem_append] at hrules
      have hreports : session.reports (step :: others) =
        (session.advance step).1 :: (session.advance step).2.reports others := rfl
      have hafter : session.after (step :: others) = (session.advance step).2.after others := rfl
      rw [hafter] at hrefusals
      unfold plainReports
      rw [hreports, List.zip_cons_cons, List.filter_cons, List.filter_cons, hafter]
      cases hstep : step.concernsTracing with
      -- The second run has no such step and stands still.
      | true => exact ih (h.skip hstep) hrefusals hdemands.2 hrules.2
      | false =>
          -- What this step had refused would still be on the list at the end.
          have hadvanced := (h.advance hstep hdemands.1 hrules.1).resolve_left fun hrefused =>
            after_astray hrefused hdemands.2 hrules.2 hrefusals
          obtain ⟨hreport, hnext⟩ := hadvanced
          obtain ⟨hothers, hlast⟩ := ih hnext hrefusals hdemands.2 hrules.2
          refine ⟨?_, hlast⟩
          have hreports' : session'.reports (step :: others.filter (!·.concernsTracing)) =
            (session'.advance step).1 ::
              (session'.advance step).2.reports (others.filter (!·.concernsTracing)) := rfl
          rw [plainReports] at hothers
          simp only [Bool.not_false, if_true, List.map_cons, hreports', hreport, hothers]

end Session

end ArtifactDepot
