import ArtifactDepot.Proofs.Logged
import ArtifactDepot.Proofs.Transparent

/-!
# Relations that a session keeps

A relation between sites follows tracing if it is kept by whatever leaves alone
what tracing goes by, and by the few changes that tracing makes itself: when it
is set up, when a span is opened and when one is handed to a sink.  Every step of
a session but those on settings and on tracing keeps such a relation
(`Session.advance_follows`).
-/

namespace ArtifactDepot

open ArtifactDepot.Action

/-! ## Runs by their results -/

namespace Action

variable {α α' : Type} {V : α → α' → Prop} {R : Site → Site → Prop} {action : Action α}
  {action' : Action α'} {site site' : Site}

/-- Two runs are alike if their results and the sites that they leave are. -/
theorem alikeBy_iff : AlikeBy V R (action site) (action' site') ↔
    SameOutcome V (action.result site) (action'.result site') ∧
      R (after action site) (after action' site') := by
  unfold result after
  generalize action site = first
  generalize action' site' = second
  constructor
  · intro h
    cases h with
    | ok hvalue hlast => exact ⟨.ok hvalue, hlast⟩
    | error hlast => exact ⟨.error _, hlast⟩
  · rintro ⟨houtcome, hlast⟩
    cases first with
    | ok value last =>
        cases second with
        | ok value' last' =>
            cases houtcome with
            | ok hvalue => exact .ok hvalue hlast
        | error failure last' => cases houtcome
    | error failure last =>
        cases second with
        | ok value' last' => cases houtcome
        | error failure' last' =>
            cases houtcome with
            | error => exact .error hlast

end Action

theorem Ended.of_eq {α α' : Type} {V : α → α' → Prop} {result : Except Failure α}
    {result' : Except Failure α'} (h : SameOutcome V result result') (operation : Operation)
    (kind : Kind) (path : Text) (start : Site) :
    Ended.of operation kind path start result' = .of operation kind path start result := by
  cases h with
  | ok => rfl
  | error => rfl

namespace Trace

variable {K : Site → Site → Prop}

/-- The relation is kept by what leaves tracing alone and by what tracing does itself. -/
structure Follows (K : Site → Site → Prop) : Prop where
  same : ∀ {before after}, Site.SameTracing before after → K before after
  prepare : ∀ {site}, isOff site = false → K site (after prepare site)
  enter : ∀ (site : Site) name, K site { site with tracing := enter site.tracing name }
  leave : ∀ (site : Site) sink (ended : Ended),
    K site { site with tracing := leave site.tracing sink ended.span }

namespace Follows

variable [IsPreorder Site K] (h : Follows K)

include h

omit [IsPreorder Site K] in
theorem keeps_perform (call : Call) : Keeps K (perform call) :=
  Keeps.mono (KeepsCalls.perform (K := Site.SameTracing) call) h.same

omit [IsPreorder Site K] in
theorem keeps_note (words : String) : Keeps K (note .warning words) :=
  keeps_modify fun _ => h.same ⟨rfl, rfl, rfl⟩

theorem handOver (provider : Option Provider) (ended : Ended) (site : Site) :
    K site (handOver provider ended site) := by
  cases provider with
  | none => exact refl_of K site
  | some provider => exact h.leave site provider.sink ended

theorem begin {operation : Operation} {site start : Site} {provider : Option Provider}
    (hbegin : begin? operation site = some (provider, start)) : K site start := by
  unfold begin? at hbegin
  cases hoff : isOff site with
  | true =>
      rw [if_pos hoff] at hbegin
      cases hbegin
      exact refl_of K site
  | false =>
      have hprepared := h.prepare hoff
      rw [if_neg (Bool.eq_false_iff.1 hoff)] at hbegin
      split at hbegin
      · cases hbegin
      · next _ prepared hprepare =>
          rw [after_ok hprepare] at hprepared
          split at hbegin
          · cases hbegin
            exact hprepared
          · cases hbegin
            exact trans_of K hprepared (h.enter prepared operation.spanName)

/-- Of two operations that run alike tracing refuses both or none. -/
theorem couple_entered {α α' : Type} {V : α → α' → Prop} {start : Site} {action : Action α}
    {action' : Action α'} (path : Text) (haction : Couple V (Pursued K start) action action') :
    Couple V (Pursued K start) (entered path action) (entered path action') := by
  refine couple_of_alike ?_
  rintro site _ ⟨rfl, hsite⟩
  have hsame : Pursued K start site site := ⟨rfl, hsite⟩
  cases hflaw : flaw? site path with
  | none =>
      rw [entered_ok hflaw, entered_ok hflaw]
      exact haction.run hsame
  | some words =>
      rw [entered_error hflaw, entered_error hflaw]
      exact .error ⟨rfl, trans_of K hsite (h.same (sameTracing_refuse path site))⟩

theorem couple_traced {α α' : Type} {V : α → α' → Prop} {start : Site} {action : Action α}
    {action' : Action α'} (operation : Operation) (kind : Kind) (path : Text)
    (haction : Couple V (Pursued K start) action action') :
    Couple V (Pursued K start) (traced operation kind path action)
      (traced operation kind path action') := by
  refine couple_of_alike ?_
  rintro site _ ⟨rfl, hsite⟩
  cases hbegin : begin? operation site with
  | none =>
      obtain ⟨reason, last, hrun, hprepare⟩ := traced_none kind path action hbegin
      obtain ⟨_, _, hrun', hprepare'⟩ := traced_none kind path action' hbegin
      cases hprepare.symm.trans hprepare'
      have hlast : K site last := by
        have hoff : isOff site = false := by
          by_contra hon
          rw [begin?, if_pos (Bool.not_eq_false _ ▸ hon)] at hbegin
          cases hbegin
        exact after_error hprepare ▸ h.prepare hoff
      rw [hrun, hrun']
      exact .error ⟨rfl, trans_of K hsite hlast⟩
  | some began =>
      obtain ⟨provider, first⟩ := began
      obtain ⟨hresult, hafter⟩ := traced_some kind path action hbegin
      obtain ⟨hresult', hafter'⟩ := traced_some kind path action' hbegin
      have hfirst : Pursued K start first first := ⟨rfl, trans_of K hsite (h.begin hbegin)⟩
      obtain ⟨houtcome, hlast, hkept⟩ :=
        alikeBy_iff.1 ((h.couple_entered path haction).run hfirst)
      rw [alikeBy_iff, hresult, hresult', hafter, hafter', ← hlast, Ended.of_eq houtcome]
      exact ⟨houtcome, rfl, trans_of K hkept (h.handOver provider _ _)⟩

/-- What leaves the frame of a site as it is can be pursued. -/
theorem become {start site next next' : Site} (hsite : K start site)
    (hframe : next.frame = site.frame) (hframe' : next'.frame = site.frame)
    (hagree : next.Agree .clear next') : Pursued K start next next' := by
  have hsame : Site.SameTracing site next :=
    ⟨(congrArg Site.environment hframe :), (congrArg Site.lacksTelemetry hframe :),
      (congrArg Site.tracing hframe :)⟩
  exact ⟨(hagree.eq (hframe'.trans hframe.symm)).symm, trans_of K hsite (h.same hsame)⟩

/-- Where the relation is pursued every operation runs alike. -/
theorem whole (start : Site) : Whole .clear (Pursued K start) where
  agree := by
    rintro site _ ⟨rfl, -⟩
    exact .refl site
  become := by
    rintro site _ next next' ⟨rfl, hsite⟩ hframe hframe' - - hagree
    exact h.become hsite hframe hframe' hagree
  change := by
    rintro site _ next next' ⟨rfl, hsite⟩ hframe hframe' hagree
    exact h.become hsite hframe hframe' hagree
  astray hsite _ := hsite
  perform _ _ _ := (h.keeps_perform _).blind_pursued start
  build hshown hbuilding := by
    simp only [Sight.clear, Call.hide_id] at hshown
    rw [hshown]
    exact ((h.keeps_perform _).blind_pursued start).couple
  close _ _ := (h.keeps_perform _).blind_pursued start
  note words := (h.keeps_note words).blind_pursued start
  traced operation kind path haction := h.couple_traced operation kind path haction

end Follows

end Trace

/-! ## Steps -/

namespace Session

variable {K : Site → Site → Prop} [IsPreorder Site K]

/-- A step that is not about settings or tracing keeps every relation that follows tracing. -/
theorem advance_follows (h : Trace.Follows K) {session : Session} {step : Step}
    (hsetting : step.isSetting = false) (htracing : step.isOfTracing = false) :
    K session.site (session.advance step).2.site := by
  have hwhole := h.whole session.site
  have hsame : Lift (Pursued K session.site) session session := ⟨⟨rfl, refl_of K _⟩, rfl⟩
  have hrun := (SessionAction.couple_run hwhole step hsetting htracing).run hsame
  exact ((advance_alike hwhole.toVeil hrun).resolve_left id).2.1.1.2

end Session

end ArtifactDepot
