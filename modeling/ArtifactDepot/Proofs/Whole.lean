import ArtifactDepot.Proofs.Opening
import ArtifactDepot.Session.Report

/-!
# Sessions that run alike

Where clients are closed alike as well, everything that a pool or a shortcut
does runs alike, and so does every step of a session but those that change the
settings, lay down a failure, or look at tracing (`SessionAction.couple_run`).
A step that a session takes and the release of what it did not name are one
advance, which ends alike too (`Session.advance_alike`).
-/

namespace ArtifactDepot

open ArtifactDepot.Action

variable {α : Type} {sight : Sight} {R : Comparison Site}

namespace Action

/-- A veil under which clients are built and closed alike. -/
structure Whole (sight : Sight) (R : Comparison Site) : Prop extends Builder sight R where
  close : ∀ kind client, Blind R (Action.perform (.closeClient kind client))

end Action

section Pools

variable (h : Whole sight R)

include h

/-! ## Backends and pools -/

theorem Backend.blind_close (backend : Backend) : Blind R backend.close := by
  refine blind_ite (blind_bind ?_ fun _ => h.close _ _) (blind_pure _)
  exact h.blind_change (fun _ => rfl) fun hsites =>
    { hsites with
      openClients_eq := by simp only [Site.closing, hsites.openClients_eq]
      holdings_eq := by simp only [Site.closing, hsites.holdings_eq] }

namespace Pool

theorem blind_check (backend : Backend) (path : Option Text) : Blind R (check backend path) := by
  cases path with
  | none => exact blind_pure _
  | some path =>
      refine blind_recover (Backend.blind_probe h.toVeil backend path) fun failure => ?_
      cases failure with
      | fault fault => exact blind_bind (Backend.blind_close h backend) fun _ => blind_throw _
      | incident incident => exact blind_throw _

theorem blind_closeBackend (backend : Backend) : Blind R (closeBackend backend) :=
  blind_recover (Backend.blind_close h backend) fun _ => h.note _

theorem blind_install (pool : Pool) (kind : Kind) (backend : Backend) :
    Blind R (pool.install kind backend) := by
  refine h.blind_get_bind (fun hsites => by simp only [held, hsites.holdings_eq]) fun site => ?_
  refine blind_bind (blind_hold h.toBuilder pool _) fun _ => ?_
  cases (pool.held site).lookup kind with
  | none => exact blind_pure _
  | some previous =>
      exact blind_ite (blind_bind (blind_closeBackend h previous) fun _ => blind_pure _)
        (blind_pure _)

theorem blind_close (pool : Pool) : Blind R pool.close := by
  refine h.blind_get_bind (fun hsites => by simp only [held, hsites.holdings_eq]) fun site => ?_
  refine blind_bind (blind_hold h.toBuilder pool []) fun _ => ?_
  exact blind_forM (fun entry : Kind × Backend => blind_closeBackend h entry.2) _

/-- A backend that was constructed alike is checked alike. -/
theorem couple_built (pool : Pool) (kind : Kind) (path : Option Text)
    {credential credential' : Option Credential}
    (hshown : sight.SameCredential credential credential') :
    Couple Eq R
      (do
        let backend ← pool.construct kind path credential
        check backend path
        return backend)
      (do
        let backend ← pool.construct kind path credential'
        check backend path
        return backend) := by
  refine couple_bind (pool.couple_construct h.toBuilder kind path hshown) ?_
  rintro backend _ rfl
  exact (blind_bind (blind_check h backend path) fun _ => blind_pure _).couple

theorem blind_attempt (pool : Pool) (kind : Kind) (path : Option Text) :
    Blind R (pool.attempt kind path) :=
  (couple_bind (Keyring.couple_credentialFor h.toVeil pool.keyring kind (lookupPath kind path))
    fun _ _ hshown => couple_built h pool kind path (.some hshown)).blind

theorem blind_attemptAmbient (pool : Pool) (kind : Kind) (path : Option Text) :
    Blind R (pool.attemptAmbient kind path) := by
  have hnone : sight.SameCredential none none := rfl
  have hbuilt := blind_bind (Keyring.blind_warnAmbient h.toVeil pool.keyring kind) fun _ =>
    (couple_built h pool kind path hnone).blind
  exact blind_ite (blind_bind (blind_throw _) fun _ => hbuilt) hbuilt

theorem blind_resolveRemote (pool : Pool) (kind : Kind) (path : Option Text) :
    Blind R (pool.resolveRemote kind path) := by
  refine blind_bind (Keyring.blind_loading h.toBuilder _ _) fun loading => ?_
  refine blind_bind ?_ fun backend => blind_install h pool kind backend
  refine blind_ite (blind_attemptAmbient h pool kind path) ?_
  refine blind_recover (blind_attempt h pool kind path) fun failure => ?_
  refine blind_ite ?_ (blind_throw _)
  refine blind_bind (Keyring.blind_loading h.toBuilder _ _) fun loading => ?_
  exact blind_ite (blind_attemptAmbient h pool kind path) (blind_attempt h pool kind path)

theorem blind_resolveKind (pool : Pool) (kind : Kind) (path : Option Text) :
    Blind R (pool.resolveKind kind path) := by
  refine blind_ite ?_ (blind_resolveRemote h pool kind path)
  refine blind_bind (pool.couple_construct h.toBuilder .disk path rfl).blind fun backend => ?_
  exact blind_install h pool .disk backend

theorem blind_resolve (pool : Pool) (path : Text) : Blind R (pool.resolve path) := by
  refine h.blind_get_bind (fun hsites => by simp only [hsites.installed_eq]) fun site => ?_
  exact blind_bind (blind_ofRule _) fun kind => blind_resolveKind h pool kind _

theorem blind_resolveForKind (pool : Pool) (kind : Kind) : Blind R (pool.resolveForKind kind) := by
  refine h.blind_get_bind (fun hsites => by simp only [hsites.installed_eq]) fun site => ?_
  exact blind_bind (blind_ofRule _) fun _ => blind_resolveKind h pool kind _

end Pool

/-! ## Shortcuts -/

namespace Shortcuts

variable {V : α → α → Prop}

theorem couple_closing (pool : Pool) {action action' : Action α}
    (haction : Couple V R action action') :
    Couple V R (closing pool action) (closing pool action') := by
  refine couple_bind (couple_outcome haction) fun result result' hresult => ?_
  refine (blind_discard (pool.blind_close h)).couple_bind fun _ => ?_
  cases hresult with
  | ok hvalue => exact couple_pure hvalue
  | error failure => exact couple_throw _

theorem couple_serving (path : Text) {operation : Kind → Action α}
    (hoperation : ∀ kind, Couple V R (operation kind) (operation kind)) :
    Couple V R (serving path operation) (serving path operation) := by
  refine (Pool.blind_create h.toBuilder none []).couple_bind fun pool => ?_
  refine (pool.blind_resolve h path).couple_bind fun backend => ?_
  exact couple_closing h pool (hoperation backend.kind)

theorem couple_servingKind (kind : Kind) {operation : Kind → Action α}
    (hoperation : ∀ kind, Couple V R (operation kind) (operation kind)) :
    Couple V R (servingKind kind operation) (servingKind kind operation) := by
  refine (Pool.blind_create h.toBuilder none []).couple_bind fun pool => ?_
  refine (pool.blind_resolveForKind h kind).couple_bind fun backend => ?_
  exact couple_closing h pool (hoperation backend.kind)

/-- An operation that sees nothing is served alike. -/
theorem blind_serving (path : Text) {operation : Kind → Action α}
    (hoperation : ∀ kind, Blind R (operation kind)) : Blind R (serving path operation) :=
  (couple_serving h path fun kind => (hoperation kind).couple).blind

end Shortcuts

end Pools

/-! ## Upkeep of the disk -/

namespace Upkeep

variable (h : Veil sight R)

include h

theorem blind_ensureDirectory (path : Text) : Blind R (ensureDirectory path) :=
  h.blind_onDisk (DiskAction.mapped_ensureDirectory path)

/-- Contents that show the same are put alike. -/
theorem couple_writeFile (path : Text) {content content' : ByteArray}
    (hcontent : sight.SameContent content content') :
    Couple Eq R (writeFile path content) (writeFile path content') := by
  have hwrite : Couple Eq R (onDisk (DiskAction.change (fun disk => disk.write path content)))
      (onDisk (DiskAction.change (fun disk => disk.write path content'))) := by
    refine h.couple_onDisk (DiskAction.mapped_write path content) ?_
    rw [← hcontent]
    exact DiskAction.mapped_write path content'
  exact couple_ite ((blind_ensureDirectory h _).couple_bind fun _ => hwrite) hwrite

theorem blind_touch (path : Text) (nanosecond : Int) : Blind R (touch path nanosecond) := by
  have htouch : touch path nanosecond = discard (nodeAt path) >>= fun _ =>
      modify fun site => { site with disk := touched path site.disk nanosecond } := by
    refine congrArg (discard (nodeAt path) >>= ·) (funext fun _ => ?_)
    refine congrArg modify (funext fun site => ?_)
    unfold touched
    cases place? path site.disk with
    | none => rfl
    | some place => rfl
  rw [htouch]
  refine blind_bind (couple_discard (Local.couple_stat h path)).blind fun _ => ?_
  exact h.blind_alter (touched path · nanosecond) fun disk => touched_map path disk nanosecond

theorem blind_remove (path : Text) : Blind R (remove path) := by
  have hremove : remove path =
      modify fun site => { site with disk := removed path site.disk } := by
    refine congrArg modify (funext fun site => ?_)
    unfold removed
    cases place? path site.disk with
    | none => rfl
    | some place =>
        dsimp only
        cases place.getLast? with
        | none => rfl
        | some name =>
            dsimp only
            split
            · rfl
            · rfl
  rw [hremove]
  exact h.blind_alter (removed path) fun disk => removed_map path disk

end Upkeep

/-! ## Steps of a session -/

/-- Does the step change the settings or lay down a failure? -/
def Step.isSetting : Step → Bool
  | .setVariable .. | .addRule _ => true
  | _ => false

/-- Is the step about tracing? -/
def Step.isOfTracing : Step → Bool
  | .configureTracing | .tracingEnabled | .tracingService | .spans | .clearSpans
  | .resetTracing => true
  | _ => false

/-- The rules that the step lays down. -/
def Step.rules : Step → List Rule
  | .addRule rule => [rule]
  | _ => []

/-- Is the step answered with contents of files? -/
def Step.readsFile : Step → Bool
  | .tree _ => true
  | .request _ asked | .shortcut asked => asked.readsFile
  | _ => false

namespace SessionAction

/-- A change of the names that have been given. -/
theorem blind_rename {change : Session → Session}
    (hchange : ∀ (session : Session) (site : Site),
      change { session with site } = { change session with site })
    (hsite : ∀ session : Session, (change session).site = session.site) :
    Blind R.lift (modify change : SessionAction Unit) := by
  refine .of (fun session hsession => ?_) ?_
  · change R.Astray (change session).site
    rw [hsite]
    exact hsession
  rintro session session' ⟨hsites, hsame⟩
  have hnext : change session' = { change session with site := session'.site } := by
    rw [hsame]
    exact hchange session session'.site
  refine Or.inr (.ok ⟨?_, ?_⟩)
  · rw [hsite, hsite]
    exact hsites
  · rw [hsite]
    exact hnext

/-- A look at the names sees the same. -/
theorem blind_look {next : Session → SessionAction α}
    (hview : ∀ (session : Session) (site : Site), next { session with site } = next session)
    (hnext : ∀ session, Blind R.lift (next session)) :
    Blind R.lift ((get : SessionAction Session) >>= next) := by
  refine .of (fun session hsession => (hnext session).astray hsession) ?_
  intro session session' hsessions
  have hsame : next session' = next session :=
    (congrArg next hsessions.2).trans (hview session session'.site)
  change _ ∨ Alike _ (next session session) (next session' session')
  rw [hsame]
  exact (hnext session).alike hsessions

theorem blind_named {objects : Session → List (Text × α)}
    (hobjects : ∀ (session : Session) (site : Site),
      objects { session with site } = objects session) (name : Text) :
    Blind R.lift (named objects name) := by
  refine blind_look (fun session site => by simp only [hobjects]) fun session => ?_
  cases (objects session).lookup name with
  | none => exact blind_throw _
  | some object => exact blind_pure _

theorem blind_nameKeyring (name : Text) (keyring : Nat) :
    Blind R.lift (nameKeyring name keyring) :=
  blind_rename (fun _ _ => rfl) fun _ => rfl

theorem blind_namePool (name : Text) (pool : Pool) :
    Blind R.lift (namePool name pool) := blind_rename (fun _ _ => rfl) fun _ => rfl

theorem blind_introduce (name : Option Text) (backend : Backend) :
    Blind R.lift (introduce name backend) :=
  blind_bind (blind_rename (fun _ _ => rfl) fun _ => rfl) fun _ =>
    blind_look (fun _ _ => rfl) fun _ => blind_pure _

/-- Whether a directory has been given up is seen in every agreeing session. -/
theorem blind_released (h : Veil sight R) (reply : Bool → Reply) (directory : LocalDirectory) :
    Blind R.lift (do return reply (directory.isReleased (← get).site)) := by
  refine Couple.blind (couple_bind couple_get fun session session' hsessions => ?_)
  simp only [LocalDirectory.isReleased, (h.agree hsessions.1).serials_eq]
  exact couple_pure rfl

theorem blind_resolveWith (id : Text) (name : Option Text)
    {operation : Pool → Action Backend} (hoperation : ∀ pool, Blind R (operation pool)) :
    Blind R.lift (resolveWith id name operation) := by
  refine blind_bind (blind_named (fun _ _ => rfl) id) fun pool => ?_
  exact blind_bind (blind_onSite (hoperation pool)) fun backend => blind_introduce name backend

/-- Whether a backend is held is seen in every agreeing session. -/
theorem blind_held (h : Veil sight R) (pool : Pool) (kind : Kind) :
    Blind R.lift (do
      match (pool.held (← get).site).lookup kind with
      | some backend => return .backend (Session.nameOf backend (← get).backends) backend
      | none => return Reply.nothing) := by
  refine Couple.blind (couple_bind couple_get fun session session' hsessions => ?_)
  simp only [Pool.held, (h.agree hsessions.1).holdings_eq]
  cases (session.site.holdings.held pool.number).lookup kind with
  | none => exact couple_pure rfl
  | some backend => exact (blind_look (fun _ _ => rfl) fun _ => blind_pure _).couple

variable (h : Whole sight R)

include h

theorem blind_closePool (id : Text) : Blind R.lift (closePool id) := by
  refine blind_bind (blind_named (fun _ _ => rfl) id) fun pool => ?_
  exact blind_onSite (pool.blind_close h)

theorem blind_closingPool (id : Text) {action : SessionAction Reply}
    (haction : Blind R.lift action) :
    Blind R.lift (closingPool id action) := by
  have hclosing {β : Type} {last : SessionAction β} (hlast : Blind R.lift last) :
      Blind R.lift (closePool id *> last) :=
    blind_bind (blind_closePool h id) fun _ => hlast
  have hastray (session : Session) (hfirst : R.Astray (left (action session)).site) :
      R.Astray (left (closingPool id action session)).site := by
    unfold closingPool
    generalize action session = first at hfirst
    cases first with
    | ok reply last => exact (hclosing (blind_pure reply)).astray hfirst
    | error failure last => exact (hclosing (blind_throw failure)).astray hfirst
  refine .of (fun session hsession => hastray session (haction.astray hsession)) ?_
  intro session session' hsessions
  rcases haction.alike hsessions with hfirst | halike
  · exact Or.inl (hastray session hfirst)
  · unfold closingPool
    generalize action session = first at halike
    generalize action session' = second at halike
    cases halike with
    | ok hnext => exact (hclosing (blind_pure _)).alike hnext
    | error hnext => exact (hclosing (blind_throw _)).alike hnext

theorem blind_addScripts (scripts : List (Kind × Script)) : Blind R (addScripts scripts) := by
  refine .of (fun _ hsite => h.astray hsite (by rfl)) fun site site' hsites => Or.inr ?_
  have hagree := h.agree hsites
  unfold addScripts
  rw [hagree.scripts_eq]
  exact .ok (h.change hsites rfl rfl { hagree with scripts_eq := rfl })

theorem blind_updateCloud (change : Cloud → Cloud) : Blind R (updateCloud change) :=
  h.blind_modify (fun _ => rfl) (fun _ => ⟨rfl, rfl, Nat.le_refl _, fun _ => rfl⟩)
    fun hsites => { hsites with cloud_eq := by rw [hsites.cloud_eq] }

/-- A look at whether a path is a directory sees the same. -/
theorem couple_flag (path : Text) :
    Couple (fun site site' : Site => site'.disk.isDirectory path = site.disk.isDirectory path) R
      (get : Action Site) get := by
  refine ⟨fun _ hsite => .ok rfl hsite, fun site site' hsites => Or.inr (.ok ?_ hsites)⟩
  rw [← Disk.isDirectory_map, (h.agree hsites).disk_eq, Disk.isDirectory_map]

theorem blind_useDirectory (directory : LocalDirectory) : Blind R (useDirectory directory) := by
  refine (couple_bind (couple_flag h directory.path) fun site site' hbefore => ?_).blind
  refine (LocalDirectory.blind_release h.toVeil directory).couple_bind fun _ => ?_
  refine couple_bind (couple_flag h directory.path) fun next next' hafter => ?_
  rw [hbefore, hafter]
  exact couple_pure rfl

/-- What a shortcut answers shows no more than the sight does. -/
theorem couple_answerShortcut (request : Request) :
    Couple (Reply.Like sight request.readsFile) R.lift (answerShortcut request)
      (answerShortcut request) := by
  have hserved {β : Type} {disclosed : Bool} (path : Text) (reply : β → Reply)
      {operation : Kind → Action β} (hoperation : ∀ kind, Blind R (operation kind)) :
      Couple (Reply.Like sight disclosed) R.lift
        (answer reply (Shortcuts.serving path operation))
        (answer reply (Shortcuts.serving path operation)) :=
    couple_answer (Shortcuts.blind_serving h path hoperation).couple fun _ _ hvalue =>
      hvalue ▸ .same _
  have hveil := h.toVeil
  cases request with
  | isPresent path => exact hserved path _ fun kind => Backend.blind_isPresent hveil kind path
  | isDirectory path => exact hserved path _ fun kind => Backend.blind_isDirectory hveil kind path
  | modified path => exact hserved path _ fun kind => Backend.blind_modified hveil kind path
  | contents path => exact hserved path _ fun kind => Backend.blind_contents hveil kind path
  | subdirectories path =>
      exact hserved path _ fun kind => Backend.blind_subdirectories hveil kind path
  | files path skipHidden =>
      refine couple_answer (Blind.couple ?_) fun _ _ hvalue => hvalue ▸ .same _
      refine blind_bind (Shortcuts.blind_serving h path fun kind => ?_) fun _ => blind_pure _
      exact Backend.blind_files hveil kind path
  | readBytes path =>
      exact couple_answer (Shortcuts.couple_serving h path fun kind =>
        Backend.couple_readBytes hveil kind path) fun _ _ hvalue => .bytes hvalue
  | readText path =>
      exact couple_answer (Shortcuts.couple_serving h path fun kind =>
        Backend.couple_readText hveil kind path) fun _ _ hvalue => .text hvalue
  | writeText path text =>
      exact hserved path _ fun kind => Backend.blind_writeText hveil kind path text
  | writeBytes path content =>
      exact hserved path _ fun kind => Backend.blind_writeBytes hveil kind path content
  | makeDirectory path recursive =>
      exact hserved path _ fun kind => Backend.blind_makeDirectory hveil kind path recursive
  | makeTemporary kind =>
      refine couple_answer (V := Eq) (Shortcuts.couple_servingKind h kind fun kind => ?_)
        fun _ _ hvalue => hvalue ▸ .same _
      exact (Backend.blind_makeTemporary hveil kind).couple
  | deleteTree path => exact hserved path _ fun kind => Backend.blind_deleteTree hveil kind path
  | localize path name =>
      have hkept : Blind R.lift (answerShortcut (.localize path name)) :=
        blind_bind (blind_onSite (Shortcuts.blind_serving h path fun kind =>
          Backend.blind_localize hveil kind path)) fun directory => blind_keep hveil name directory
      exact hkept.couple.mono fun _ _ hreply => hreply ▸ .same _
  | kindOfPath path =>
      exact couple_answer (blind_ofRule (Kind.ofPath path)).couple fun _ _ hvalue =>
        hvalue ▸ .same _
  | kindName wanted => exact couple_pure (.same _)
  | probe path => exact couple_pure (.same _)
  | normalize path => exact couple_pure (.same _)
  | close => exact couple_pure (.same _)

/-- A step that is not about settings or tracing runs alike, and its answer shows no more. -/
theorem couple_run (step : Step) (hsetting : step.isSetting = false)
    (htracing : step.isOfTracing = false) :
    Couple (Reply.Like sight step.readsFile) R.lift (run step) (run step) := by
  have hsame {action : SessionAction Reply} {disclosed : Bool}
      (haction : Blind R.lift action) :
      Couple (Reply.Like sight disclosed) R.lift action action :=
    haction.couple.mono fun _ _ hreply => hreply ▸ .same _
  have hveil := h.toVeil
  have hkeyring (id : Text) : Blind R.lift (named Session.keyrings id) :=
    blind_named (fun _ _ => rfl) id
  have hpool (id : Text) : Blind R.lift (named Session.pools id) :=
    blind_named (fun _ _ => rfl) id
  have hbackend (id : Text) : Blind R.lift (named Session.backends id) :=
    blind_named (fun _ _ => rfl) id
  have hdirectory (id : Text) : Blind R.lift (named Session.directories id) :=
    blind_named (fun _ _ => rfl) id
  cases step with
  | setVariable name value => cases hsetting
  | addRule rule => cases hsetting
  | configureTracing => cases htracing
  | tracingEnabled => cases htracing
  | tracingService => cases htracing
  | spans => cases htracing
  | clearSpans => cases htracing
  | resetTracing => cases htracing
  | writeFile path content =>
      exact hsame (blind_answer _ (Upkeep.couple_writeFile hveil path rfl).blind)
  | makeDirectory path => exact hsame (blind_answer _ (Upkeep.blind_ensureDirectory hveil path))
  | remove path => exact hsame (blind_answer _ (Upkeep.blind_remove hveil path))
  | touch path nanosecond => exact hsame (blind_answer _ (Upkeep.blind_touch hveil path nanosecond))
  | mode path =>
      refine couple_bind (couple_onSite (Local.couple_stat hveil path)) fun node node' hnode => ?_
      rw [← node.mode_map, ← hnode, node'.mode_map]
      exact couple_pure (.same _)
  | tree path =>
      refine couple_bind couple_get fun session session' hsessions => couple_pure (.tree ?_)
      rw [← Upkeep.treeOf_map, ← Upkeep.treeOf_map, (h.agree hsessions.1).disk_eq]
  | putObject kind bucket key object => exact hsame (blind_answer _ (blind_updateCloud h _))
  | eraseObject kind bucket key => exact hsame (blind_answer _ (blind_updateCloud h _))
  | newKeyring id config =>
      refine hsame (blind_bind (blind_onSite (Keyring.blind_create hveil config)) fun keyring => ?_)
      exact blind_bind (blind_nameKeyring id keyring) fun _ => blind_pure _
  | defaultKeyring id =>
      refine hsame (blind_bind (blind_onSite (Keyring.blind_default hveil)) fun keyring => ?_)
      refine blind_look (fun _ _ => rfl) fun session => ?_
      exact blind_ite (blind_bind (blind_nameKeyring id keyring) fun _ => blind_pure _)
        (blind_pure _)
  | forgetDefaultKeyring =>
      refine hsame (blind_answer _ (h.blind_modify (fun _ => rfl) (fun _ => ?_) fun hsites => ?_))
      · exact ⟨rfl, rfl, Nat.le_refl _, fun _ => rfl⟩
      · exact { hsites with defaultKeyring_eq := rfl }
  | loadKeyring id force =>
      exact hsame (blind_bind (hkeyring id) fun keyring =>
        blind_answer _ (Keyring.blind_loading h.toBuilder keyring force))
  | invalidateKeyring id =>
      exact hsame (blind_bind (hkeyring id) fun keyring =>
        blind_answer _ (Keyring.blind_invalidate hveil keyring))
  | credentialFor id kind path =>
      exact (hkeyring id).couple_bind fun keyring =>
        couple_answer (Keyring.couple_credentialFor hveil keyring kind path) fun _ _ => .credential
  | grants id kind =>
      refine (hkeyring id).couple_bind fun number =>
        couple_answer (Keyring.couple_get hveil number) fun keyring keyring' hhidden => .grants ?_
      rw [← KeyTables.of_hide, ← KeyTables.of_hide]
      exact congrArg (fun keyring : Keyring => keyring.tables.of kind) hhidden
  | keyringState id =>
      refine (hkeyring id).couple_bind fun number => ?_
      refine couple_bind (couple_onSite (Keyring.couple_get hveil number)) ?_
      intro keyring keyring' hhidden
      refine couple_bind couple_get fun session session' hsessions => ?_
      rw [Keyring.configPath?_of_agree (h.agree hsessions.1) hhidden]
      have hcached : keyring'.cached = keyring.cached := (congrArg Keyring.cached hhidden :)
      rw [hcached]
      exact couple_pure (.same _)
  | warnAmbient id kind =>
      exact hsame (blind_bind (hkeyring id) fun keyring =>
        blind_answer _ (Keyring.blind_warnAmbient hveil keyring kind))
  | newPool id keyring scripts =>
      refine hsame (blind_bind ?_ fun keyring => blind_bind (blind_onSite ?_) fun pool => ?_)
      · cases keyring with
        | none => exact blind_pure _
        | some name => exact blind_bind (hkeyring name) fun _ => blind_pure _
      · exact blind_bind (blind_addScripts h scripts) fun _ => Pool.blind_create h.toBuilder _ _
      · exact blind_bind (blind_namePool id pool) fun _ =>
          blind_look (fun _ _ => rfl) fun _ => blind_pure _
  | resolve id path name => exact hsame (blind_resolveWith id name (·.blind_resolve h path))
  | resolveKind id kind name =>
      exact hsame (blind_resolveWith id name (·.blind_resolveForKind h kind))
  | held id kind =>
      exact hsame (blind_bind (hpool id) fun pool => blind_held hveil pool kind)
  | localizeBy id path name =>
      refine hsame (blind_bind (hpool id) fun pool => ?_)
      refine blind_bind (blind_onSite (pool.blind_resolve h path)) fun backend => ?_
      refine blind_bind (blind_onSite (Backend.blind_localize hveil _ path)) fun directory => ?_
      exact blind_keep hveil name directory
  | closePool id => exact hsame (blind_bind (blind_closePool h id) fun _ => blind_pure _)
  | withPool id path =>
      exact hsame (blind_closingPool h id (blind_resolveWith id none (·.blind_resolve h path)))
  | newBackend id kind path credential buildClient =>
      refine hsame (blind_bind (blind_onSite ?_) fun backend => blind_introduce (some id) backend)
      exact (Backend.couple_openWith h.toBuilder buildClient kind path rfl).blind
  | request id request =>
      refine (hbackend id).couple_bind fun backend => ?_
      by_cases hrequest : request = .close
      · subst hrequest
        exact hsame (blind_answer _ (Backend.blind_close h backend))
      · exact couple_answerBackend hveil backend request hrequest
  | withBackend id =>
      exact hsame (blind_bind (hbackend id) fun backend =>
        blind_answer _ (Backend.blind_close h backend))
  | shortcut request => exact couple_answerShortcut h request
  | newDirectory id source replica =>
      exact hsame (blind_bind (blind_onSite (LocalDirectory.blind_create hveil source replica))
        fun directory => blind_keep hveil (some id) directory)
  | replicate id backend path =>
      refine hsame (blind_bind (hbackend backend) fun backend => ?_)
      exact blind_bind (blind_onSite (Replica.blind_make hveil backend.kind path))
        fun directory => blind_keep hveil (some id) directory
  | directoryState id =>
      refine hsame (blind_bind (hdirectory id) fun directory => ?_)
      exact blind_released hveil (fun released => .directory directory released) directory
  | release id =>
      refine hsame (blind_bind (hdirectory id) fun directory => ?_)
      refine blind_bind (blind_onSite (LocalDirectory.blind_release hveil directory)) fun _ => ?_
      exact blind_released hveil .flag directory
  | withDirectory id =>
      exact hsame (blind_bind (hdirectory id) fun directory =>
        blind_onSite (blind_useDirectory h directory))

end SessionAction

/-! ## Advances -/

namespace Session

theorem couple_dropUnnamed (h : Veil sight R) {disclosed : Bool} {reply reply' : Reply}
    (hreply : Reply.Like sight disclosed reply reply') :
    Couple Eq R.lift (dropUnnamed reply) (dropUnnamed reply') := by
  cases hreply with
  | same =>
      cases reply with
      | directory directory released =>
          refine Blind.couple (SessionAction.blind_look (fun _ _ => rfl) fun session => ?_)
          exact blind_ite
            (SessionAction.blind_onSite (LocalDirectory.blind_release h directory)) (blind_pure _)
      | _ => exact couple_pure rfl
  | _ => exact couple_pure rfl

/-- A step that goes astray leaves a session that has. -/
theorem advance_strayed (h : Veil sight R) {disclosed : Bool} {session : Session} {step : Step}
    (hrun : Strayed (Reply.Like sight disclosed) R.lift (SessionAction.run step session)) :
    R.Astray (session.advance step).2.site := by
  unfold advance
  generalize SessionAction.run step session = first at hrun
  cases hrun with
  | error hlast => exact hlast
  | @ok reply _ next hreply hlast =>
      have hdropped := ((couple_dropUnnamed h hreply).astray next hlast).left
      dsimp only
      generalize dropUnnamed reply next = dropped at hdropped
      cases dropped with
      | ok _ last => exact hdropped
      | error failure last => exact hdropped

/--
Two steps that run alike are reported alike, with what was recorded up to two related sites, and
leave sessions that are related again, unless the first one goes astray.
-/
theorem advance_alike (h : Veil sight R) {disclosed : Bool} {session session' : Session}
    {step step' : Step}
    (hrun : AlikeBy (Reply.Like sight disclosed) (Lift R) (SessionAction.run step session)
      (SessionAction.run step' session')) :
    R.Astray (session.advance step).2.site ∨
      SameOutcome (Reply.Like sight disclosed) (session.advance step).1.outcome
          (session'.advance step').1.outcome ∧
        Lift R (session.advance step).2 (session'.advance step').2 ∧
        ∃ site site', R site site' ∧ ¬ R.Astray site ∧
          (session.advance step).1.calls = site.calls.drop session.site.calls.length ∧
          (session'.advance step').1.calls = site'.calls.drop session'.site.calls.length ∧
          (session.advance step).1.notices = site.notices.drop session.site.notices.length ∧
          (session'.advance step').1.notices =
            site'.notices.drop session'.site.notices.length := by
  unfold advance
  generalize SessionAction.run step session = first at hrun
  generalize SessionAction.run step' session' = second at hrun
  cases hrun with
  | @error failure next next' hlast =>
      by_cases hnext : R.Astray next.site
      · exact Or.inl hnext
      · exact Or.inr ⟨.error _, hlast, _, _, hlast.1, hnext, rfl, rfl, rfl, rfl⟩
  | @ok reply reply' next next' hreply hlast =>
      have hstrayed (hnext : R.Astray next.site) :=
        ((couple_dropUnnamed h hreply).astray next hnext).left
      have hdropped := (couple_dropUnnamed h hreply).alike next next' hlast
      dsimp only
      generalize dropUnnamed reply next = dropped at hdropped hstrayed
      generalize dropUnnamed reply' next' = dropped' at hdropped
      rcases hdropped with hstray | halike
      · cases hstray with
        | ok _ hend => exact Or.inl hend
        | error hend => exact Or.inl hend
      · by_cases hnext : R.Astray next.site
        · cases halike with
          | ok _ hend => exact Or.inl (hstrayed hnext)
          | error hend => exact Or.inl (hstrayed hnext)
        · cases halike with
          | ok _ hend =>
              exact Or.inr ⟨.ok hreply, hend, _, _, hlast.1, hnext, rfl, rfl, rfl, rfl⟩
          | error hend =>
              exact Or.inr ⟨.ok hreply, hend, _, _, hlast.1, hnext, rfl, rfl, rfl, rfl⟩

end Session

end ArtifactDepot
