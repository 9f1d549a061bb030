import ArtifactDepot.Proofs.Lifetime

/-!
# Closings that fail

Two sites are twins if they differ only in how the closing of clients is
answered, and in what has been logged about it.  From twins every request of a
pool and every shortcut runs alike, with one exception: a client that its
probe has rejected is closed without a guard, so a run in which that fails is
stopped there, with the refusal to close in the place of the reason for the
rejection (`Pool.steady_serve`, `Pool.check_of_failed_close`).
-/

namespace ArtifactDepot

open ArtifactDepot.Action

/-! ## Rules about closings -/

namespace Rule

/-- Whatever is called first, every call that closes nothing is answered in the same way. -/
def Concur (rules others : List Rule) : Prop :=
  ∀ calls call, Call.closed? call = none →
    struck? (spent rules calls) call = struck? (spent others calls) call

theorem Concur.refl (rules : List Rule) : Concur rules rules := fun _ _ _ => rfl

/-- Any call leaves such rules. -/
theorem Concur.spentBy {rules others : List Rule} (h : Concur rules others) (call : Call) :
    Concur (spentBy rules call) (spentBy others call) := fun calls => h (call :: calls)

variable {rule first : Rule} {call : Call} {rules others : List Rule}

theorem struck_cons : struck? (first :: others) call =
    if first.applies call.row then some first.incident else struck? others call := by
  unfold struck?
  rw [strike?]
  split
  · rfl
  · exact Option.map_map ..

theorem spentBy_cons : spentBy (first :: others) call =
    if first.applies call.row then { first with times := first.times - 1 } :: others
    else first :: spentBy others call := by
  unfold spentBy
  rw [strike?]
  cases first.applies call.row with
  | true => rfl
  | false => cases strike? call.row others <;> rfl

/-- A rule that does not apply to a call changes nothing for it. -/
theorem struck_concat (rules : List Rule) (h : rule.applies call.row = false) :
    struck? (rules ++ [rule]) call = struck? rules call := by
  induction rules with
  | nil =>
      rw [List.nil_append, struck_cons, h]
      rfl
  | cons first others ih => rw [List.cons_append, struck_cons, struck_cons, ih]

/-- A call uses up the last rule at most. -/
theorem spentBy_concat (rules : List Rule) (rule : Rule) (call : Call) :
    ∃ last : Rule, last.pattern = rule.pattern ∧
      spentBy (rules ++ [rule]) call = spentBy rules call ++ [last] := by
  induction rules with
  | nil =>
      rw [List.nil_append, spentBy_cons]
      split
      · exact ⟨{ rule with times := rule.times - 1 }, rfl, rfl⟩
      · exact ⟨rule, rfl, rfl⟩
  | cons first others ih =>
      rw [List.cons_append, spentBy_cons, spentBy_cons]
      split
      · exact ⟨rule, rfl, rfl⟩
      · obtain ⟨last, hpattern, hspent⟩ := ih
        exact ⟨last, hpattern, by rw [hspent, List.cons_append]⟩

/-- A rule that means closings only may be added. -/
theorem concur_concat (rules : List Rule)
    (h : ∀ call : Call, call.closed? = none → Json.alikeFront rule.pattern call.row = false) :
    Concur rules (rules ++ [rule]) := by
  intro calls call hcall
  induction calls generalizing rules rule with
  | nil =>
      refine (struck_concat rules ?_).symm
      rw [applies, h call hcall, Bool.and_false]
  | cons first calls ih =>
      obtain ⟨last, hpattern, hspent⟩ := spentBy_concat rules rule first
      have hlast : ∀ call : Call, call.closed? = none →
          Json.alikeFront last.pattern call.row = false :=
        fun call => hpattern ▸ h call
      have hrest := ih (spentBy rules first) hlast
      rw [← hspent] at hrest
      exact hrest

end Rule

/-- Is it logged that a client could not be closed? -/
def Notice.isOfClosing (notice : Notice) : Bool :=
  "Failed to close ".toList.isPrefixOf notice.words.toList

namespace Site

/-- The sites differ only in how closings are answered and in what has been logged about them. -/
structure Twin (site site' : Site) : Prop where
  same : site' = site.under site'.rules site'.notices
  concur : Rule.Concur site.rules site'.rules
  log_eq : site'.notices.filter (!·.isOfClosing) = site.notices.filter (!·.isOfClosing)

variable {site site' next : Site}

/-- Twins stay twins whatever happens to both. -/
theorem Twin.become (h : Twin site site') (next : Site) :
    Twin (next.under site.rules site.notices) (next.under site'.rules site'.notices) :=
  ⟨rfl, h.concur, h.log_eq⟩

/-- A call leaves twins, even if only one of them answers it. -/
theorem Twin.having (h : Twin site site') (call : Call) :
    Twin (site.having call) (site'.having call) where
  same := by rw [h.same]; rfl
  concur := h.concur.spentBy call
  log_eq := h.log_eq

/-- What is logged about a closing may differ. -/
theorem Twin.logged (h : Twin site site') {notices notices' : List Notice}
    (hnotices : ∀ notice ∈ notices, notice.isOfClosing = true)
    (hnotices' : ∀ notice ∈ notices', notice.isOfClosing = true) :
    Twin { site with notices := site.notices ++ notices }
      { site' with notices := site'.notices ++ notices' } where
  same := by rw [h.same]; rfl
  concur := h.concur
  log_eq := by
    have hnone {more : List Notice} (hmore : ∀ notice ∈ more, notice.isOfClosing = true) :
        more.filter (!·.isOfClosing) = [] :=
      List.filter_eq_nil_iff.2 fun notice hnotice => by simp [hmore notice hnotice]
    rw [List.filter_append, List.filter_append, h.log_eq, hnone hnotices, hnone hnotices']

end Site

namespace Backend

/-- To close a backend with a client is to count it as closed and to ask for it. -/
theorem close_eq (backend : Backend) (site : Site) (h : hasClient backend.kind = true) :
    backend.close site = perform (.closeClient backend.kind backend.serial)
      (site.closing (backend.kind, backend.serial)) := by
  unfold close
  rw [if_pos h]
  rfl

/-- A closing fails with what the client answers. -/
theorem incident_of_close {backend : Backend} {site site' : Site} {failure : Failure}
    (h : backend.close site = .error failure site') : ∃ incident, failure = .incident incident := by
  cases hclient : hasClient backend.kind with
  | false =>
      unfold close at h
      rw [hclient] at h
      cases h
  | true =>
      rw [close_eq backend site hclient, perform_eq] at h
      split at h
      · cases h
      · cases h
        exact ⟨_, rfl⟩

end Backend

namespace Action

variable {α β : Type}

/-! ## Blind to closings -/

/-- Two calls that the rules answer alike run alike if they leave related sites. -/
theorem alike_perform {R : Site → Site → Prop} {call call' : Call} {site site' : Site}
    (hstruck : Rule.struck? site'.rules call' = Rule.struck? site.rules call)
    (hlast : R (site.having call) (site'.having call')) :
    AlikeBy Eq R (perform call site) (perform call' site') := by
  rw [perform_eq, perform_eq]
  unfold Rule.struck? at hstruck
  cases hfirst : Rule.strike? call.row site.rules with
  | none =>
      rw [hfirst] at hstruck
      rw [Option.map_eq_none_iff.1 hstruck]
      exact .ok rfl hlast
  | some struck =>
      rw [hfirst] at hstruck
      obtain ⟨other, hsecond, hincident⟩ := Option.map_eq_some_iff.1 hstruck
      rw [hsecond]
      dsimp only
      rw [hincident]
      exact .error hlast

/-- Any other call is answered alike. -/
theorem twin_perform {call : Call} (h : call.closed? = none) : Blind Site.Twin (perform call) :=
  Couple.blind (couple_of_alike fun _ _ hsites =>
    alike_perform (hsites.concur [] call h).symm (hsites.having call))

/-- No operation sees the difference between twins. -/
theorem unseen_twin : Unseen Site.Twin where
  same := Site.Twin.same
  become hsites _ := hsites.become _
  perform _ hclosed := twin_perform hclosed
  note severity words := by
    refine blind_of_alike fun site site' hsites => .ok ⟨?_, hsites.concur, ?_⟩
    · rw [hsites.same]; rfl
    · simp only [List.filter_append, hsites.log_eq]

/-- Neither does the opening of a backend, nor the load of a keyring. -/
theorem builder_twin : Builder .clear Site.Twin :=
  unseen_twin.builder (fun hbuilding => twin_perform (Call.closed?_of_isBuilding hbuilding))
    fun next hsites => hsites.become next

/-! ## Runs that are stopped -/

/-- A client that its probe had rejected was asked to close and failed to: the failure and the site
that it left. -/
def CloseRefused (failure : Failure) (site : Site) : Prop :=
  ∃ (backend : Backend) (path : Text) (fault : Fault) (before rejected : Site),
    backend.probe path before = .error (.fault fault) rejected ∧
      backend.close rejected = .error failure site

/-- The run has been stopped by a rejected client that did not close. -/
def Stopped (result : EStateM.Result Failure Site α) : Prop :=
  ∃ failure site, result = .error failure site ∧ CloseRefused failure site

/-- From twins the action runs alike, unless one of its runs is stopped. -/
def Steady (action : Action α) : Prop :=
  ∀ site site', Site.Twin site site' →
    Alike Site.Twin (action site) (action site') ∨ Stopped (action site) ∨ Stopped (action site')

theorem Blind.steady {action : Action α} (h : Blind Site.Twin action) : Steady action :=
  fun _ _ hsites => Or.inl (h.run hsites)

theorem steady_ite {condition : Prop} [Decidable condition] {action other : Action α}
    (h : Steady action) (hother : Steady other) :
    Steady (if condition then action else other) := by
  split
  · exact h
  · exact hother

theorem stopped_bind {action : Action α} {next : α → Action β} {site : Site}
    (h : Stopped (action site)) : Stopped ((action >>= next) site) := by
  obtain ⟨failure, site', hrun, hrefused⟩ := h
  exact ⟨failure, site', bind_error hrun, hrefused⟩

theorem steady_bind {action : Action α} {next : α → Action β} (h : Steady action)
    (hnext : ∀ value, Steady (next value)) : Steady (action >>= next) := by
  intro site site' hsites
  rcases h site site' hsites with halike | hstopped | hstopped
  · generalize hrun : action site = first at halike
    generalize hrun' : action site' = second at halike
    cases halike with
    | ok hlast =>
        rw [bind_ok hrun, bind_ok hrun']
        exact hnext _ _ _ hlast
    | error hlast =>
        rw [bind_error hrun, bind_error hrun']
        exact Or.inl (.error hlast)
  · exact Or.inr (Or.inl (stopped_bind hstopped))
  · exact Or.inr (Or.inr (stopped_bind hstopped))

/-- A recovery that lets incidents through lets a run be stopped. -/
theorem steady_recover {action : Action α} {handler : Failure → Action α} (h : Steady action)
    (hhandler : ∀ failure, Steady (handler failure))
    (hincident : ∀ incident, handler (.incident incident) = throw (.incident incident)) :
    Steady (recover action handler) := by
  have hstop {site : Site} (hstopped : Stopped (action site)) :
      Stopped (recover action handler site) := by
    obtain ⟨failure, site', hrun, hrefused⟩ := hstopped
    refine ⟨failure, site', ?_, hrefused⟩
    obtain ⟨backend, path, fault, before, rejected, hprobe, hclose⟩ := hrefused
    obtain ⟨incident, rfl⟩ := Backend.incident_of_close hclose
    rw [recover_error hrun, hincident]
    rfl
  intro site site' hsites
  rcases h site site' hsites with halike | hstopped | hstopped
  · generalize hrun : action site = first at halike
    generalize hrun' : action site' = second at halike
    cases halike with
    | ok hlast =>
        rw [recover_ok hrun, recover_ok hrun']
        exact Or.inl (.ok hlast)
    | error hlast =>
        rw [recover_error hrun, recover_error hrun']
        exact hhandler _ _ _ hlast
  · exact Or.inr (Or.inl (hstop hstopped))
  · exact Or.inr (Or.inr (hstop hstopped))

end Action

/-! ## Backends -/

namespace Backend

/-- However the closing of a client ends, it leaves twins. -/
theorem close_twins (backend : Backend) {site site' : Site} (hsites : Site.Twin site site') :
    Site.Twin (after backend.close site) (after backend.close site') := by
  cases hclient : hasClient backend.kind with
  | false =>
      have hclose (site : Site) : after backend.close site = site := by
        unfold after close
        rw [hclient]
        rfl
      rwa [hclose, hclose]
  | true =>
      have hclose (site : Site) : after backend.close site =
          (site.closing (backend.kind, backend.serial)).having
            (.closeClient backend.kind backend.serial) := by
        rw [← after_perform]
        unfold after
        rw [close_eq backend site hclient]
      have hcounted : Site.Twin (site.closing (backend.kind, backend.serial))
          (site'.closing (backend.kind, backend.serial)) :=
        ⟨by rw [hsites.same]; rfl, hsites.concur, hsites.log_eq⟩
      rw [hclose, hclose]
      exact hcounted.having _

end Backend

/-! ## Pools -/

namespace Pool

/-- That a client could not be closed is at most logged. -/
theorem closeBackend_eq (backend : Backend) (site : Site) :
    ∃ more, (∀ notice ∈ more, Notice.isOfClosing notice = true) ∧
      closeBackend backend site = .ok () { after backend.close site with
        notices := (after backend.close site).notices ++ more } := by
  unfold closeBackend
  cases hclose : backend.close site with
  | ok value site' =>
      refine ⟨[], nofun, ?_⟩
      rw [recover_ok hclose, after_ok hclose, List.append_nil]
  | error failure site' =>
      refine ⟨[⟨.warning, "Failed to close " ++ backend.describe ++ ": " ++ failure.message⟩],
        ?_, ?_⟩
      · intro notice hnotice
        rw [List.mem_singleton.1 hnotice, Notice.isOfClosing]
        simp only [String.toList_append, List.append_assoc]
        exact List.isPrefixOf_iff_prefix.2 (List.prefix_append _ _)
      · rw [recover_error hclose, after_error hclose]
        rfl

theorem twin_closeBackend (backend : Backend) : Blind Site.Twin (closeBackend backend) := by
  refine blind_of_alike fun site site' hsites => ?_
  obtain ⟨more, hmore, hrun⟩ := closeBackend_eq backend site
  obtain ⟨more', hmore', hrun'⟩ := closeBackend_eq backend site'
  rw [hrun, hrun']
  exact .ok ((backend.close_twins hsites).logged hmore hmore')

theorem twin_install (pool : Pool) (kind : Kind) (backend : Backend) :
    Blind Site.Twin (pool.install kind backend) := by
  refine unseen_twin.veil.blind_get_bind
    (fun hsites => by simp only [held, hsites.holdings_eq]) fun site => ?_
  refine blind_bind (blind_hold builder_twin pool _) fun _ => ?_
  cases (pool.held site).lookup kind with
  | none => exact blind_pure _
  | some previous =>
      exact blind_ite (blind_bind (twin_closeBackend previous) fun _ => blind_pure _) (blind_pure _)

theorem twin_close (pool : Pool) : Blind Site.Twin pool.close := by
  refine unseen_twin.veil.blind_get_bind
    (fun hsites => by simp only [held, hsites.holdings_eq]) fun site => ?_
  refine blind_bind (blind_hold builder_twin pool []) fun _ => ?_
  exact blind_forM (fun entry : Kind × Backend => twin_closeBackend entry.2) _

theorem twin_construct (pool : Pool) (kind : Kind) (path : Option Text)
    (credential : Option Credential) : Blind Site.Twin (pool.construct kind path credential) :=
  (pool.couple_construct builder_twin kind path rfl).blind

/-- A client that is rejected and does not close stops the run, and nothing is tried again. -/
theorem check_of_failed_close {backend : Backend} {path : Text} {site site₁ site₂ : Site}
    {fault : Fault} {failure : Failure}
    (hprobe : backend.probe path site = .error (.fault fault) site₁)
    (hclose : backend.close site₁ = .error failure site₂) :
    check backend (some path) site = .error failure site₂ ∧ isRetried failure = false := by
  obtain ⟨incident, rfl⟩ := Backend.incident_of_close hclose
  exact ⟨(recover_error hprobe).trans (bind_error hclose), rfl⟩

theorem steady_check (backend : Backend) (path : Option Text) : Steady (check backend path) := by
  cases path with
  | none => exact (blind_pure _).steady
  | some path =>
      intro site site' hsites
      have halike := (Backend.blind_probe unseen_twin.veil backend path).run hsites
      generalize hprobe : backend.probe path site = first at halike
      generalize hprobe' : backend.probe path site' = second at halike
      cases halike with
      | ok hlast =>
          have hrun : check backend (some path) site = _ := recover_ok hprobe
          have hrun' : check backend (some path) site' = _ := recover_ok hprobe'
          rw [hrun, hrun']
          exact Or.inl (.ok hlast)
      | @error failure site₁ site₁' hlast =>
          cases failure with
          | incident incident =>
              have hrun : check backend (some path) site = _ := recover_error hprobe
              have hrun' : check backend (some path) site' = _ := recover_error hprobe'
              rw [hrun, hrun']
              exact Or.inl (.error hlast)
          | fault fault =>
              have htwins := backend.close_twins hlast
              cases hclose : backend.close site₁ with
              | error failure site₂ =>
                  exact Or.inr (Or.inl ⟨failure, site₂, (check_of_failed_close hprobe hclose).1,
                    backend, path, fault, site, site₁, hprobe, hclose⟩)
              | ok value site₂ =>
                  cases hclose' : backend.close site₁' with
                  | error failure site₂' =>
                      exact Or.inr (Or.inr ⟨failure, site₂',
                        (check_of_failed_close hprobe' hclose').1, backend, path, fault, site', site₁',
                        hprobe', hclose'⟩)
                  | ok value' site₂' =>
                      rw [after_ok hclose, after_ok hclose'] at htwins
                      have hrun : check backend (some path) site = .error (.fault fault) site₂ :=
                        (recover_error hprobe).trans (bind_ok hclose)
                      have hrun' : check backend (some path) site' = .error (.fault fault) site₂' :=
                        (recover_error hprobe').trans (bind_ok hclose')
                      rw [hrun, hrun']
                      exact Or.inl (.error htwins)

variable (pool : Pool) (kind : Kind) (path : Option Text)

theorem steady_build (credential : Option Credential) : Steady (do
    let backend ← pool.construct kind path credential
    check backend path
    return backend) :=
  steady_bind (pool.twin_construct kind path credential).steady fun backend =>
    steady_bind (steady_check backend path) fun _ => (blind_pure _).steady

theorem steady_attempt : Steady (pool.attempt kind path) :=
  steady_bind (Keyring.blind_credentialFor unseen_twin.veil _ _ _).steady fun credential =>
    pool.steady_build kind path (some credential)

theorem steady_attemptAmbient : Steady (pool.attemptAmbient kind path) := by
  have hbuild := steady_bind (Keyring.blind_warnAmbient unseen_twin.veil pool.keyring kind).steady
    fun _ => pool.steady_build kind path none
  exact steady_ite (steady_bind (blind_throw _).steady fun _ => hbuild) hbuild

theorem steady_attemptOnce (loading : Keyring.Loading) :
    Steady (pool.attemptOnce kind path loading) :=
  steady_ite (pool.steady_attemptAmbient kind path) (pool.steady_attempt kind path)

theorem steady_attemptTwice (loading : Keyring.Loading) :
    Steady (pool.attemptTwice kind path loading) := by
  refine steady_ite (pool.steady_attemptAmbient kind path) ?_
  refine steady_recover (pool.steady_attempt kind path) (fun failure => ?_) fun incident => rfl
  refine steady_ite ?_ (blind_throw _).steady
  exact steady_bind (Keyring.blind_loading builder_twin pool.keyring true).steady
    (pool.steady_attemptOnce kind path)

theorem steady_resolveKind : Steady (pool.resolveKind kind path) := by
  refine steady_ite ?_ ?_
  · exact (blind_bind (pool.twin_construct .disk path none) (pool.twin_install .disk)).steady
  · refine steady_bind (Keyring.blind_loading builder_twin pool.keyring false).steady fun loading => ?_
    exact steady_bind (pool.steady_attemptTwice kind path loading) fun backend =>
      (pool.twin_install kind backend).steady

theorem steady_serve (request : Request) : Steady (pool.serve request) := by
  intro site site' hsites
  have hinstalled : site'.installed = site.installed := by rw [hsites.same]; rfl
  rw [serve_eq, serve_eq, hinstalled]
  cases request.route site.installed with
  | error fault => exact Or.inl (.error hsites)
  | ok target => exact pool.steady_resolveKind target.1 target.2 site site' hsites

/-! ## Shortcuts -/

theorem twin_closing {α : Type} (pool : Pool) {action : Action α} (h : Blind Site.Twin action) :
    Blind Site.Twin (Shortcuts.closing pool action) := by
  refine blind_bind (blind_outcome h) fun result => ?_
  refine blind_bind (blind_discard pool.twin_close) fun _ => ?_
  cases result with
  | ok value => exact blind_pure _
  | error failure => exact blind_throw _

theorem steady_serving {α : Type} (request : Request) {operation : Kind → Action α}
    (h : ∀ kind {R : Site → Site → Prop}, Unseen R → Blind R (operation kind)) :
    Steady (do
      let pool ← create none []
      let backend ← pool.serve request
      Shortcuts.closing pool (operation backend.kind)) :=
  steady_bind (blind_create builder_twin none []).steady fun pool =>
    steady_bind (pool.steady_serve request) fun backend =>
      (twin_closing pool (h backend.kind unseen_twin)).steady

theorem steady_shortcut {α : Type} {action : Action α} (h : SessionAction.Shortcut action) :
    Steady action := by
  cases h with
  | serving path h => exact steady_serving (.ofPath path) h
  | servingKind kind h => exact steady_serving (.ofKind kind) h
  | alone h => exact (h unseen_twin).steady

/-- Every shortcut runs alike in twins, unless one of its runs is stopped. -/
theorem steady_answerShortcut (request : ArtifactDepot.Request) {session session' : Session}
    (hsessions : Session.Lift Site.Twin session session') :
    Alike (Session.Lift Site.Twin) (SessionAction.answerShortcut request session)
        (SessionAction.answerShortcut request session') ∨
      (∃ failure last, SessionAction.answerShortcut request session = .error failure last ∧
        CloseRefused failure last.site) ∨
      ∃ failure last, SessionAction.answerShortcut request session' = .error failure last ∧
        CloseRefused failure last.site := by
  obtain ⟨α, action, reply, hshortcut, hrequest, hreply⟩ :=
    SessionAction.answerShortcut_cases request
  have hstop {session : Session} (hstopped : Stopped (action session.site)) :
      ∃ failure last, (SessionAction.onSite action >>= reply) session = .error failure last ∧
        CloseRefused failure last.site := by
    obtain ⟨failure, site, hrun, hrefused⟩ := hstopped
    refine ⟨failure, { session with site }, ?_, hrefused⟩
    simp only [bind, EStateM.bind, SessionAction.onSite, hrun]
  rw [hrequest]
  rcases steady_shortcut hshortcut _ _ hsessions.1 with halike | hstopped | hstopped
  · exact Or.inl ((SessionAction.alike_onSite halike hsessions.2).bind fun value =>
      hreply value unseen_twin)
  · exact Or.inr (Or.inl (hstop hstopped))
  · exact Or.inr (Or.inr (hstop hstopped))

/-! ## Two runs -/

/--
Two sites differ only in which closings of clients fail.  Every request and every shortcut has the
same value or the same failure in both, makes the same calls and leaves sites that again differ only
so, unless one of the two runs is stopped by a client that its probe has rejected and that did not
close.  Closing the pool has no such exception.  A run that is stopped ends with the refusal to
close in the place of the reason for the rejection, and it is not repeated.
-/
theorem only_rejected_closings_show (pool : Pool) {site site' : Site}
    (hsites : Site.Twin site site') :
    (∀ request, Alike Site.Twin (pool.serve request site) (pool.serve request site') ∨
        Stopped (pool.serve request site) ∨ Stopped (pool.serve request site')) ∧
      Alike Site.Twin (pool.close site) (pool.close site') ∧
      (∀ request (session : Session),
        Alike (Session.Lift Site.Twin) (SessionAction.answerShortcut request { session with site })
            (SessionAction.answerShortcut request { session with site := site' }) ∨
          (∃ failure last,
            SessionAction.answerShortcut request { session with site } = .error failure last ∧
              CloseRefused failure last.site) ∨
          ∃ failure last,
            SessionAction.answerShortcut request { session with site := site' } =
                .error failure last ∧
              CloseRefused failure last.site) ∧
      ∀ (backend : Backend) path fault failure site₁ site₂,
        backend.probe path site = .error (.fault fault) site₁ →
          backend.close site₁ = .error failure site₂ →
            check backend (some path) site = .error failure site₂ ∧ isRetried failure = false :=
  ⟨fun request => pool.steady_serve request site site' hsites, pool.twin_close.run hsites,
    fun request _ => steady_answerShortcut request ⟨hsites, rfl⟩,
    fun _ _ _ _ _ _ => check_of_failed_close⟩

/-- The rule that no S3 client can be closed. -/
def noS3Closing : Rule where
  pattern := [Call.service .s3, Call.word "close"]

/-- A site with one keyring and no document, on which no S3 bucket can be asked for. -/
def deafSite : Site where
  keyrings := [{}]
  rules := [{ pattern := [Call.service .s3, Call.word "head_bucket"] }]

theorem twin_deafSite :
    Site.Twin deafSite { deafSite with rules := deafSite.rules ++ [noS3Closing] } := by
  refine ⟨rfl, Rule.concur_concat _ fun call hcall => ?_, rfl⟩
  cases call with
  | closeClient kind client => cases hcall
  | openGcsClient client keyFile => cases keyFile <;> rfl
  | _ => rfl

/-- There the client of an S3 path is rejected with a fault, unless it does not close. -/
theorem only_rejected_closings_show_s3 :
    Site.Twin deafSite { deafSite with rules := deafSite.rules ++ [noS3Closing] } ∧
      (∃ fault site,
        ({ number := 0, keyring := 0 } : Pool).serve (.ofPath "s3://b/x".toList) deafSite =
          .error (.fault fault) site) ∧
      Stopped (({ number := 0, keyring := 0 } : Pool).serve (.ofPath "s3://b/x".toList)
        { deafSite with rules := deafSite.rules ++ [noS3Closing] }) := by
  have hrejected : ∃ fault site,
      ({ number := 0, keyring := 0 } : Pool).serve (.ofPath "s3://b/x".toList) deafSite =
        .error (.fault fault) site := ⟨_, _, by with_unfolding_all rfl⟩
  have hunclosed : ∃ incident site,
      ({ number := 0, keyring := 0 } : Pool).serve (.ofPath "s3://b/x".toList)
          { deafSite with rules := deafSite.rules ++ [noS3Closing] } =
        .error (.incident incident) site := ⟨_, _, by with_unfolding_all rfl⟩
  refine ⟨twin_deafSite, hrejected, ?_⟩
  obtain ⟨fault, site, hrejected⟩ := hrejected
  obtain ⟨incident, site', hunclosed⟩ := hunclosed
  rcases (only_rejected_closings_show { number := 0, keyring := 0 } twin_deafSite).1
    (.ofPath "s3://b/x".toList) with halike | hstopped | hstopped
  · rw [hrejected, hunclosed] at halike
    cases halike
  · obtain ⟨failure, last, hrun, backend, path, reason, before, rejected, -, hclose⟩ := hstopped
    obtain ⟨refusal, rfl⟩ := Backend.incident_of_close hclose
    rw [hrejected] at hrun
    cases hrun
  · exact hstopped

end Pool

end ArtifactDepot
