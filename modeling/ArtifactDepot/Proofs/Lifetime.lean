import ArtifactDepot.Proofs.Clients
import ArtifactDepot.Proofs.Resolution

/-!
# How long clients live

A pool keeps the clients of the backends that it holds open, and no others.
An attempt that fails closes what it has built, a backend that takes the place
of another one is held before the other one is closed, and closing the pool
closes the rest.
`Stage` follows a pool through any sequence of acts and keeps account of the
clients that were built and of those that were asked to close; `Sound` says
how the two accounts differ, and every act keeps it (`Sound.next`).
-/

namespace ArtifactDepot

open ArtifactDepot.Action

/-- The session that an action leaves, failed or not. -/
def SessionAction.after {α : Type} (action : SessionAction α) (session : Session) : Session :=
  match action session with
  | .ok _ session' => session'
  | .error _ session' => session'

/-- What sees neither rules nor log builds and closes nothing in a session either. -/
theorem clientless_of_blind {α : Type} {action : SessionAction α}
    (h : ∀ {R : Site → Site → Prop}, Unseen R → Blind (Comparison.lift R) action)
    (session : Session) :
    Site.Clientless session.site (SessionAction.after action session).site := by
  have hsame : Session.Lift (Pursued Site.Clientless session.site) session session :=
    ⟨⟨rfl, .refl _⟩, rfl⟩
  have halike := (h (unseen_clientless session.site)).run hsame
  unfold SessionAction.after
  generalize action session = result at halike
  cases halike with
  | ok hlast => exact hlast.1.2
  | error hlast => exact hlast.1.2

/-! ## Actions that fail with faults only -/

namespace Action

variable {α β : Type}

/-- No incident comes out of the action. -/
def Shielded (action : Action α) : Prop :=
  ∀ site incident site', action site ≠ .error (.incident incident) site'

theorem shielded_pure (value : α) : Shielded (pure value : Action α) := fun _ _ _ h => by cases h

theorem shielded_raise (fault : Fault) : Shielded (raise fault : Action α) :=
  fun _ _ _ h => by cases h

theorem shielded_ofRule (rule : Except Fault α) : Shielded (ofRule rule) := by
  cases rule with
  | ok value => exact shielded_pure value
  | error fault => exact shielded_raise fault

theorem shielded_bind {action : Action α} {next : α → Action β} (h : Shielded action)
    (hnext : ∀ value, Shielded (next value)) : Shielded (action >>= next) := by
  intro site incident site' hbind
  cases hrun : action site with
  | ok value site₁ =>
      rw [bind_ok hrun] at hbind
      exact hnext value site₁ incident site' hbind
  | error failure site₁ =>
      rw [bind_error hrun] at hbind
      cases hbind
      exact h site incident _ hrun

theorem shielded_wrapping (wrap : Incident → Fault) (action : Action α) :
    Shielded (wrapping wrap action) := by
  intro site incident site' hwrapping
  unfold wrapping recover at hwrapping
  cases hrun : action site with
  | ok value site₁ =>
      rw [hrun] at hwrapping
      cases hwrapping
  | error failure site₁ =>
      rw [hrun] at hwrapping
      cases failure <;> cases hwrapping

end Action

/-- Whatever keeps S3 from answering, the question fails with a fault. -/
theorem S3.shielded_isDirectory (path : Text) : Shielded (isDirectory path) := by
  refine shielded_bind (shielded_ofRule _) fun address => ?_
  refine shielded_bind (shielded_wrapping _ _) fun _ => ?_
  split
  · exact shielded_pure _
  · exact shielded_bind (shielded_wrapping _ _) fun _ => shielded_pure _

theorem S3.shielded_probe (path : Text) : Shielded (probe path) := by
  intro site incident site' hprobe
  unfold probe at hprobe
  cases hrun : isDirectory path site with
  | ok found site₁ =>
      rw [recover_ok (discard_ok hrun)] at hprobe
      cases hprobe
  | error failure site₁ =>
      rw [recover_error (discard_error hrun)] at hprobe
      cases failure with
      | fault fault => cases hprobe
      | incident found => exact shielded_isDirectory path site found site₁ hrun

/-- A backend without a script is rejected with a fault only. -/
theorem Backend.shielded_probe {backend : Backend} (hscript : backend.script = none) (path : Text) :
    Shielded (backend.probe path) := by
  unfold probe
  rw [hscript]
  dsimp only
  cases backend.kind with
  | s3 => exact S3.shielded_probe path
  | disk => exact shielded_pure _
  | gcs => exact shielded_pure _
  | azure => exact shielded_pure _

/-! ## What is held -/

namespace Held

/-- The clients of the backends that are held. -/
def clients (held : Held) : List (Kind × Nat) := held.flatMap fun entry => entry.2.clients

/-- One more backend is held, in the place of the one of its kind. -/
def adding (held : Held) (backend : Backend) : Held := Entries.put backend.kind backend held

/-- The clients of the backend that another one takes the place of. -/
def replaced (held : Held) (backend : Backend) : List (Kind × Nat) :=
  match held.lookup backend.kind with
  | none => []
  | some previous => previous.clients

/-- Of every kind one backend is held at most, and it is of that kind. -/
structure Sorted (held : Held) : Prop where
  kinds_nodup : (held.map Prod.fst).Nodup
  kind_eq : ∀ entry ∈ held, entry.2.kind = entry.1

variable {held : Held}

theorem sorted_nil : Sorted [] := ⟨List.nodup_nil, fun _ h => absurd h List.not_mem_nil⟩

theorem mem_clients_of_replaced {backend : Backend} {client : Kind × Nat}
    (h : client ∈ held.replaced backend) : client ∈ held.clients := by
  unfold replaced at h
  split at h
  · cases h
  · next previous hprevious =>
      obtain ⟨before, after, hheld, -⟩ := List.lookup_eq_some_iff.1 hprevious
      have hmem : (backend.kind, previous) ∈ held := by simp [hheld]
      exact List.mem_flatMap.2 ⟨_, hmem, h⟩

theorem mem_put {key : Kind} {value : Backend} {entries : List (Kind × Backend)}
    {entry : Kind × Backend} (h : entry ∈ Entries.put key value entries) :
    entry = (key, value) ∨ entry ∈ entries := by
  induction entries with
  | nil => exact Or.inl (List.mem_singleton.1 h)
  | cons first others ih =>
      unfold Entries.put at h
      split at h
      · exact (List.mem_cons.1 h).imp_right (List.mem_cons_of_mem _)
      · rcases List.mem_cons.1 h with rfl | h
        · exact Or.inr List.mem_cons_self
        · exact (ih h).imp_right (List.mem_cons_of_mem _)

/-- Of every kind one backend is held at most after another one has come. -/
theorem Sorted.adding (h : Sorted held) (backend : Backend) : Sorted (held.adding backend) where
  kinds_nodup := by
    unfold Held.adding
    rw [Entries.keys_put]
    split
    · exact h.kinds_nodup
    · next habsent =>
        rw [Bool.not_eq_true, List.contains_eq_mem, decide_eq_false_iff_not] at habsent
        refine List.nodup_append.2 ⟨h.kinds_nodup, List.nodup_cons.2 ⟨nofun, List.nodup_nil⟩, ?_⟩
        rintro kind hkind _ hnew rfl
        exact habsent (List.mem_singleton.1 hnew ▸ hkind)
  kind_eq := by
    intro entry hentry
    rcases mem_put hentry with rfl | hold
    · rfl
    · exact h.kind_eq entry hold

/-- No two clients of a kind are held. -/
theorem Sorted.kinds_of_clients (h : Sorted held) : (held.clients.map Prod.fst).Nodup := by
  obtain ⟨hkinds, hkind⟩ := h
  refine List.Sublist.nodup ?_ hkinds
  clear hkinds
  induction held with
  | nil => exact .refl _
  | cons entry entries ih =>
      have hrest := ih fun other hother => hkind other (List.mem_cons_of_mem _ hother)
      have hfirst : (entry.2.clients.map Prod.fst).Sublist [entry.1] := by
        unfold Backend.clients
        rw [hkind entry List.mem_cons_self]
        split
        · exact .refl _
        · exact List.nil_sublist _
      unfold clients
      rw [List.flatMap_cons, List.map_append]
      exact hfirst.append hrest

/-- The new clients are held instead of those that they replace. -/
theorem clients_adding (held : Held) (backend : Backend) :
    (held.clients ++ backend.clients).Perm
      (held.replaced backend ++ (held.adding backend).clients) := by
  unfold clients replaced adding
  generalize backend.kind = kind
  induction held with
  | nil => simp [Entries.put]
  | cons first others ih =>
      obtain ⟨there, previous⟩ := first
      unfold Entries.put
      rw [List.lookup_cons, BEq.comm]
      cases hthere : there == kind with
      | true =>
          simp only [if_true, List.flatMap_cons, List.append_assoc]
          exact List.perm_append_comm.append_left _
      | false =>
          simp only [Bool.false_eq_true, if_false, List.flatMap_cons, List.append_assoc]
          exact (ih.append_left _).trans (List.perm_append_comm_assoc ..)

end Held

namespace Pool

/-! ## Obtaining a backend -/

variable {pool : Pool} {kind : Kind} {path : Option Text} {site site₁ : Site}
  {result : EStateM.Result Failure Site Backend}

/--
A backend of the kind was obtained and its client is open, or none was.  Clients that were rejected
on the way have been asked to close.
-/
inductive Obtained (kind : Kind) (site : Site) : EStateM.Result Failure Site Backend → Prop where
  | ok {backend : Backend} {site' : Site} (rejected : List (Kind × Nat))
      (hkind : backend.kind = kind)
      (h : Site.Tended (rejected ++ backend.clients) rejected site site') :
      Obtained kind site (.ok backend site')
  | error {failure : Failure} {site' : Site} (h : Site.Settled site site') :
      Obtained kind site (.error failure site')

/-- What is settled may come first. -/
theorem Obtained.later (hfirst : Site.Settled site site₁) (h : Obtained kind site₁ result) :
    Obtained kind site result := by
  cases h with
  | ok rejected hkind h =>
      obtain ⟨clients, hfirst⟩ := hfirst
      refine .ok (clients ++ rejected) hkind ?_
      rw [List.append_assoc]
      exact hfirst.append h
  | error h => exact .error (trans_of Site.Settled hfirst h)

/-- What neither builds nor closes may come first. -/
theorem obtained_bind {α : Type} {action : Action α} {next : α → Action Backend}
    (h : Keeps Site.Clientless action) (hnext : ∀ value site, Obtained kind site (next value site))
    (site : Site) : Obtained kind site ((action >>= next) site) := by
  cases hrun : action site with
  | ok value site₁ =>
      rw [bind_ok hrun]
      exact (hnext value site₁).later (h.ok hrun).settled
  | error failure site₁ =>
      rw [bind_error hrun]
      exact .error (h.error hrun).settled

/-- A new backend is handed out, or it is rejected and its client has been asked to close. -/
theorem obtained_check {backend : Backend} (hscript : backend.script = none) (path : Option Text)
    (h : Site.Tended backend.clients [] site site₁) :
    Obtained backend.kind site ((do
      check backend path
      return backend : Action Backend) site₁) := by
  cases path with
  | none => exact .ok [] rfl h
  | some path =>
      have hkeeps := keeps_clientless fun h => Backend.blind_probe h.veil backend path
      cases hprobe : backend.probe path site₁ with
      | ok value site₂ =>
          have hcheck : check backend (some path) site₁ = _ := recover_ok hprobe
          rw [bind_ok hcheck]
          exact .ok [] rfl (h.idle (hkeeps.ok hprobe))
      | error failure site₂ =>
          cases failure with
          | incident incident =>
              exact absurd hprobe (Backend.shielded_probe hscript path site₁ incident site₂)
          | fault fault =>
              have hclose := backend.close_tended site₂
              have hlast := (h.idle (hkeeps.error hprobe)).append hclose
              rw [List.append_nil, List.nil_append] at hlast
              have hcheck : check backend (some path) site₁ =
                  (do
                    backend.close
                    raise fault : Action Unit) site₂ := recover_error hprobe
              cases hrun : backend.close site₂ with
              | ok value site₃ =>
                  rw [after_ok hrun] at hlast
                  rw [bind_error (hcheck.trans (bind_ok hrun))]
                  exact .error ⟨_, hlast⟩
              | error failure site₃ =>
                  rw [after_error hrun] at hlast
                  rw [bind_error (hcheck.trans (bind_error hrun))]
                  exact .error ⟨_, hlast⟩

variable (hscripts : pool.scripts = [])

include hscripts

/-- A backend is built with its client, or nothing is built. -/
theorem construct_tended (kind : Kind) (path : Option Text) (credential : Option Credential)
    (site : Site) :
    match pool.construct kind path credential site with
    | .ok backend site' => backend.kind = kind ∧ backend.script = none ∧
        Site.Tended backend.clients [] site site'
    | .error _ site' => Site.Clientless site site' := by
  have hopen := Backend.openWith_tended kind path credential site
  unfold construct wrapping
  rw [hscripts]
  rw [List.lookup_nil]
  cases hrun : Backend.openWith true kind path credential site with
  | ok backend site₁ =>
      rw [recover_ok hrun]
      rwa [hrun] at hopen
  | error failure site₁ =>
      rw [hrun] at hopen
      rw [recover_error hrun]
      cases failure with
      | incident incident => exact hopen
      | fault fault => exact hopen

/-- A backend is built and checked. -/
theorem obtained_build (kind : Kind) (path : Option Text) (credential : Option Credential)
    (site : Site) :
    Obtained kind site ((do
      let backend ← pool.construct kind path credential
      check backend path
      return backend : Action Backend) site) := by
  have hbuilt := construct_tended hscripts kind path credential site
  cases hrun : pool.construct kind path credential site with
  | ok backend site₁ =>
      rw [hrun] at hbuilt
      obtain ⟨rfl, hscript, htended⟩ := hbuilt
      rw [bind_ok hrun]
      exact obtained_check hscript path htended
  | error failure site₁ =>
      rw [hrun] at hbuilt
      rw [bind_error hrun]
      exact .error hbuilt.settled

theorem obtained_attempt (kind : Kind) (path : Option Text) (site : Site) :
    Obtained kind site (pool.attempt kind path site) :=
  obtained_bind (keeps_clientless fun h => Keyring.blind_credentialFor h.veil _ _ _)
    (fun credential => obtained_build hscripts kind path (some credential)) site

theorem obtained_attemptAmbient (kind : Kind) (path : Option Text) (site : Site) :
    Obtained kind site (pool.attemptAmbient kind path site) := by
  have hbuild := obtained_bind (keeps_clientless fun h =>
    Keyring.blind_warnAmbient h.veil pool.keyring kind) fun _ => obtained_build hscripts kind path none
  unfold attemptAmbient
  split
  · exact obtained_bind (keeps_throw _) (fun _ => hbuild) site
  · exact hbuild site

theorem obtained_attemptOnce (kind : Kind) (path : Option Text) (loading : Keyring.Loading)
    (site : Site) : Obtained kind site (pool.attemptOnce kind path loading site) := by
  unfold attemptOnce
  split
  · exact obtained_attemptAmbient hscripts kind path site
  · exact obtained_attempt hscripts kind path site

/-- The second attempt starts when the first one has settled everything. -/
theorem obtained_attemptTwice (kind : Kind) (path : Option Text) (loading : Keyring.Loading)
    (site : Site) : Obtained kind site (pool.attemptTwice kind path loading site) := by
  unfold attemptTwice
  split
  · exact obtained_attemptAmbient hscripts kind path site
  · have hfirst := obtained_attempt hscripts kind path site
    cases hrun : pool.attempt kind path site with
    | ok backend site₁ =>
        rw [recover_ok hrun]
        rwa [hrun] at hfirst
    | error failure site₁ =>
        rw [hrun] at hfirst
        rw [recover_error hrun]
        cases hfirst with
        | error hsettled =>
            refine Obtained.later hsettled ?_
            split
            · exact obtained_bind (Keyring.clientless_load _ _)
                (obtained_attemptOnce hscripts kind path) site₁
            · exact .error (refl_of Site.Settled site₁)

omit hscripts

/-! ## Holding a backend -/

/-- A failure to close a backend stops nothing. -/
theorem closeBackend_tended (backend : Backend) (site : Site) :
    ∃ site', closeBackend backend site = .ok () site' ∧
      Site.Tended [] backend.clients site site' := by
  have hclose := backend.close_tended site
  unfold closeBackend
  cases hrun : backend.close site with
  | ok value site₁ =>
      rw [after_ok hrun] at hclose
      exact ⟨site₁, recover_ok hrun, hclose⟩
  | error failure site₁ =>
      rw [after_error hrun] at hclose
      have hnoted := (keeps_clientless fun h => h.note .warning ("Failed to close " ++
        backend.describe ++ ": " ++ failure.message)) site₁
      exact ⟨_, recover_error hrun, hclose.idle hnoted⟩

/-- The new backend is held, and from there on the one whose place it takes is closed. -/
theorem install_tended (pool : Pool) (backend : Backend) (site : Site)
    (hnew : ∀ client ∈ backend.clients, client ∉ (pool.held site).replaced backend) :
    ∃ site', pool.install backend.kind backend site = .ok backend site' ∧
      Site.Tended [] ((pool.held site).replaced backend)
        (site.hold pool.number ((pool.held site).adding backend)) site' := by
  have hget : (get : Action Site) site = .ok site site := rfl
  have hhold : pool.hold (Entries.put backend.kind backend (pool.held site)) site =
      .ok () (site.hold pool.number ((pool.held site).adding backend)) := rfl
  rw [install, bind_ok hget, bind_ok hhold]
  unfold Held.replaced at *
  cases hprevious : (pool.held site).lookup backend.kind with
  | none => exact ⟨_, rfl, .refl _⟩
  | some previous =>
      rw [hprevious] at hnew
      dsimp only at hnew ⊢
      by_cases hsame : previous = backend
      · subst hsame
        have hnone : previous.clients = [] :=
          List.eq_nil_iff_forall_not_mem.2 fun client hclient => hnew client hclient hclient
        rw [if_neg (not_not_intro rfl), hnone]
        exact ⟨_, rfl, .refl _⟩
      · obtain ⟨site', hclose, htended⟩ := closeBackend_tended previous
          (site.hold pool.number ((pool.held site).adding backend))
        rw [if_pos hsame, bind_ok hclose]
        exact ⟨site', rfl, htended⟩

/--
A kind was resolved to a new backend, which is held before the one whose place it takes is closed;
or it was not, and everything is settled.
-/
inductive Served (pool : Pool) (kind : Kind) (site : Site) :
    EStateM.Result Failure Site Backend → Prop where
  | ok {backend : Backend} {site₁ site' : Site} (rejected : List (Kind × Nat))
      (hkind : backend.kind = kind)
      (hopen : Site.Tended (rejected ++ backend.clients) rejected site site₁)
      (hclose : Site.Tended [] ((pool.held site).replaced backend)
        (site₁.hold pool.number ((pool.held site).adding backend)) site') :
      Served pool kind site (.ok backend site')
  | error {failure : Failure} {site' : Site} (h : Site.Settled site site') :
      Served pool kind site (.error failure site')

/-- All numbers of the pool's clients have been given. -/
def Given (pool : Pool) (site : Site) : Prop :=
  ∀ client ∈ (pool.held site).clients, client.2 < site.serials.next

/-- While clients are built and asked to close a pool holds what it held. -/
theorem held_of_tended {built closed : List (Kind × Nat)} (pool : Pool)
    (h : Site.Tended built closed site site₁) : pool.held site₁ = pool.held site := by
  rw [held, h.holdings_eq, Holdings.held_closing]
  rfl

/-- A backend that is obtained is held. -/
theorem Obtained.served (hgiven : pool.Given site) {action : Action Backend}
    (h : Obtained kind site (action site)) :
    Served pool kind site ((action >>= pool.install kind) site) := by
  generalize hrun : action site = result at h
  cases h with
  | error hsettled =>
      rw [bind_error hrun]
      exact .error hsettled
  | @ok backend site₁ rejected hkind htended =>
      subst hkind
      have hheld := pool.held_of_tended htended
      -- The client of a held backend has an older number than the new one.
      have hnew : ∀ client ∈ backend.clients, client ∉ (pool.held site₁).replaced backend := by
        intro client hclient hreplaced
        rw [hheld] at hreplaced
        have hle := htended.fresh.le client (List.mem_append_right _ hclient)
        exact absurd (hgiven client (Held.mem_clients_of_replaced hreplaced)) (Nat.not_lt_of_le hle)
      obtain ⟨site', hinstall, hclose⟩ := install_tended pool backend site₁ hnew
      rw [hheld] at hclose
      rw [bind_ok hrun, hinstall]
      exact .ok rejected rfl htended hclose

/-- What is settled may come before a kind is resolved. -/
theorem Served.later (hfirst : Site.Settled site site₁) (h : Served pool kind site₁ result) :
    Served pool kind site result := by
  obtain ⟨clients, hfirst⟩ := hfirst
  have hheld := pool.held_of_tended hfirst
  cases h with
  | ok rejected hkind hopen hclose =>
      rw [hheld] at hclose
      refine .ok (clients ++ rejected) hkind ?_ hclose
      rw [List.append_assoc]
      exact hfirst.append hopen
  | error h => exact .error (trans_of Site.Settled ⟨clients, hfirst⟩ h)

theorem served_resolveRemote (hscripts : pool.scripts = []) (hgiven : pool.Given site) (kind : Kind)
    (path : Option Text) : Served pool kind site (pool.resolveRemote kind path site) := by
  have hkeeps := Keyring.clientless_load pool.keyring false
  unfold resolveRemote
  cases hload : Keyring.load pool.keyring false site with
  | error failure site₁ =>
      rw [bind_error hload]
      exact .error (hkeeps.error hload).settled
  | ok loading site₁ =>
      have hfirst := hkeeps.ok hload
      have hgiven' : pool.Given site₁ := fun client hclient => by
        rw [pool.held_of_tended hfirst] at hclient
        exact Nat.lt_of_lt_of_le (hgiven client hclient) hfirst.next_le
      rw [bind_ok hload]
      exact ((obtained_attemptTwice hscripts kind path loading site₁).served hgiven').later
        hfirst.settled

theorem served_resolveKind (hscripts : pool.scripts = []) (hgiven : pool.Given site) (kind : Kind)
    (path : Option Text) : Served pool kind site (pool.resolveKind kind path site) := by
  unfold resolveKind
  split
  · next hdisk =>
      subst hdisk
      refine Obtained.served hgiven ?_
      have hbuilt := construct_tended hscripts .disk path none site
      generalize pool.construct .disk path none site = result at hbuilt
      cases result with
      | ok backend site₁ => exact .ok [] hbuilt.1 hbuilt.2.2
      | error failure site₁ => exact .error hbuilt.settled
  · exact served_resolveRemote hscripts hgiven kind path

/-- Every request is refused at once, or its kind is resolved like this. -/
theorem served (hscripts : pool.scripts = []) (hgiven : pool.Given site) (request : Request) :
    (∃ failure, pool.serve request site = .error failure site) ∨
      ∃ kind path, request.route site.installed = .ok (kind, path) ∧
        Served pool kind site (pool.serve request site) := by
  rw [serve_eq]
  cases request.route site.installed with
  | error fault => exact Or.inl ⟨_, rfl⟩
  | ok target => exact Or.inr ⟨_, _, rfl, served_resolveKind hscripts hgiven target.1 target.2⟩

/-- A closed pool holds nothing, and has then closed what it held, whatever the clients answer. -/
theorem close_tended (pool : Pool) (site : Site) :
    ∃ site', pool.close site = .ok () site' ∧
      Site.Tended [] (pool.held site).clients (site.hold pool.number []) site' := by
  have hall (entries : Held) (site : Site) :
      ∃ site', entries.forM (fun entry => closeBackend entry.2) site = .ok () site' ∧
        Site.Tended [] entries.clients site site' := by
    induction entries generalizing site with
    | nil => exact ⟨site, rfl, .refl site⟩
    | cons entry entries ih =>
        obtain ⟨site₁, hclose, hfirst⟩ := closeBackend_tended entry.2 site
        obtain ⟨site₂, hrest, hlast⟩ := ih site₁
        exact ⟨site₂, (bind_ok hclose).trans hrest, hfirst.append hlast⟩
  exact hall (pool.held site) (site.hold pool.number [])

/-! ## Following a pool -/

/-- What can happen to a pool, or around it. -/
inductive Act where
  | serve (request : Request)
  | close
  /-- A backend is asked for anything but to close. -/
  | use (backend : Backend) (request : ArtifactDepot.Request) (other_than_close : request ≠ .close)
  /-- Everything becomes as it is at some site, but no number is given again, and the pool holds
  what it held. -/
  | surround (other : Site)

/-- A site and a pool, with the clients that have been built and asked to close so far. -/
structure Stage where
  site : Site
  pool : Pool
  built : List (Kind × Nat) := []
  closed : List (Kind × Nat) := []

namespace Stage

/-- The stage where a pool has just been made. -/
def start (site : Site) (keyring : Nat) : Stage where
  site := after (create (some keyring) []) site
  pool := { number := site.holdings.pools.length, keyring }

/-- What the pool holds. -/
def held (stage : Stage) : Held := stage.pool.held stage.site

/-- The stage after some calls, which tell what was built and closed. -/
def follow (stage : Stage) (site : Site) : Stage :=
  let made := site.calls.drop stage.site.calls.length
  { stage with
    site
    built := stage.built ++ Call.built stage.site.rules made
    closed := stage.closed ++ Call.closed made }

/-- The stage after one more act. -/
def next (stage : Stage) : Act → Stage
  | .serve request => stage.follow (after (stage.pool.serve request) stage.site)
  | .close => stage.follow (after stage.pool.close stage.site)
  | .use backend request _ =>
      stage.follow (SessionAction.after (SessionAction.answerBackend backend request)
        { site := stage.site }).site
  | .surround other =>
      { stage with
        site := { other.hold stage.pool.number stage.held with serials := stage.site.serials } }

/-- The stage after more acts. -/
def run (stage : Stage) (acts : List Act) : Stage := acts.foldl next stage

variable {stage : Stage}

/-- The calls are those that were made since. -/
theorem follow_eq {built closed : List (Kind × Nat)} {site : Site}
    (h : Site.Accounted built closed stage.site site) :
    stage.follow site =
      ⟨site, stage.pool, stage.built ++ built, stage.closed ++ closed⟩ := by
  obtain ⟨made, hmade, rfl, rfl⟩ := h.logged
  rw [follow, hmade.calls_eq, List.drop_left]

/-- The clients that were built and not asked to close are those of the backends that are held. -/
structure Sound (stage : Stage) : Prop where
  scripts_eq : stage.pool.scripts = []
  sorted : stage.held.Sorted
  balance : stage.built.Perm (stage.closed ++ stage.held.clients)
  fresh : Site.Fresh 0 stage.site.serials.next stage.built

/-- A pool that has just been made holds nothing. -/
theorem held_start (site : Site) (keyring : Nat) : (start site keyring).held = [] :=
  Holdings.held_put _ _ _

theorem sound_start (site : Site) (keyring : Nat) : Sound (start site keyring) where
  scripts_eq := rfl
  sorted := by
    rw [held_start]
    exact Held.sorted_nil
  balance := by
    rw [held_start]
    exact .refl _
  fresh := .nil _ _

namespace Sound

variable (h : Sound stage)

include h

theorem split_nodup : (stage.closed ++ stage.held.clients).Nodup :=
  h.balance.nodup_iff.1 h.fresh.nodup

theorem given : stage.pool.Given stage.site := fun client hclient =>
  h.fresh.lt client (h.balance.mem_iff.2 (List.mem_append_right _ hclient))

/-- The two accounts differ by what is held. -/
theorem mem_clients_iff (client : Kind × Nat) :
    client ∈ stage.built ∧ client ∉ stage.closed ↔ client ∈ stage.held.clients := by
  rw [h.balance.mem_iff, List.mem_append]
  refine ⟨fun ⟨hbuilt, hopen⟩ => hbuilt.resolve_left hopen, fun hheld => ⟨Or.inr hheld, ?_⟩⟩
  exact fun hclosed => (List.nodup_append.1 h.split_nodup).2.2 client hclosed client hheld rfl

/-- What is built and closed adds to the accounts. -/
theorem follow {built closed : List (Kind × Nat)} {site : Site}
    (haccounted : Site.Accounted built closed stage.site site)
    (hsorted : (stage.pool.held site).Sorted)
    (hbalance : (stage.held.clients ++ built).Perm
      (closed ++ (stage.pool.held site).clients)) :
    Sound (stage.follow site) := by
  rw [follow_eq haccounted]
  refine ⟨h.scripts_eq, hsorted, ?_,
    h.fresh.append haccounted.fresh (Nat.zero_le _) haccounted.next_le⟩
  have hfirst := h.balance.append_right built
  rw [List.append_assoc] at hfirst
  have hlast := hfirst.trans (hbalance.append_left stage.closed)
  rwa [← List.append_assoc] at hlast

/-- What is settled leaves the accounts as far apart as they were. -/
theorem follow_settled {site : Site} (hsettled : Site.Settled stage.site site) :
    Sound (stage.follow site) := by
  obtain ⟨clients, htended⟩ := hsettled
  have hheld := stage.pool.held_of_tended htended
  refine h.follow htended.accounted ?_ ?_
  · rw [hheld]
    exact h.sorted
  · rw [hheld]
    exact List.perm_append_comm

/-- A request that is served adds what it says to the accounts. -/
theorem serve_ok {request : Request} {backend : Backend} {site' : Site}
    (hserve : stage.pool.serve request stage.site = .ok backend site') :
    stage.pool.held site' = stage.held.adding backend ∧
      (∃ path, request.route stage.site.installed = .ok (backend.kind, path)) ∧
        ∃ rejected,
          Site.Accounted (rejected ++ backend.clients)
            (rejected ++ stage.held.replaced backend) stage.site site' ∧
          (∀ client ∈ stage.held.clients, client ∉ rejected) ∧
          site'.holdings.closings = stage.site.holdings.closings ++
            (rejected.map fun client => (client, stage.site.holdings.pools)) ++
              (stage.held.replaced backend).map fun client => (client, site'.holdings.pools) := by
  rcases served h.scripts_eq h.given request with ⟨failure, hfailed⟩ | ⟨kind, path, hroute, hserved⟩
  · rw [hserve] at hfailed
    cases hfailed
  · rw [hserve] at hserved
    cases hserved with
    | @ok _ site₁ _ rejected hkind hopen hclose =>
        subst hkind
        have hheld : stage.pool.held site' = stage.held.adding backend :=
          (stage.pool.held_of_tended hclose).trans (Holdings.held_put _ _ _)
        have hlast := (hopen.accounted.append (Site.accounted_hold site₁ stage.pool.number
          (stage.held.adding backend))).append hclose.accounted
        rw [List.append_nil, List.append_nil, List.append_nil] at hlast
        refine ⟨hheld, ⟨path, hroute⟩, rejected, hlast, fun client hclient hrejected => ?_, ?_⟩
        · have hle := hopen.fresh.le client (List.mem_append_left _ hrejected)
          exact absurd (h.given client hclient) (Nat.not_lt_of_le hle)
        · rw [hclose.holdings_eq]
          simp only [Site.hold, Holdings.put, Holdings.closing, hopen.holdings_eq]
          rfl

/-- A request that fails leaves what is held and settles the rest. -/
theorem serve_error {request : Request} {failure : Failure} {site' : Site}
    (hserve : stage.pool.serve request stage.site = .error failure site') :
    Site.Settled stage.site site' := by
  rcases served h.scripts_eq h.given request with ⟨failure, hfailed⟩ | ⟨kind, path, -, hserved⟩
  · rw [hserve] at hfailed
    cases hfailed
    exact refl_of Site.Settled stage.site
  · rw [hserve] at hserved
    cases hserved with
    | error hsettled => exact hsettled

/-- Every act keeps the accounts. -/
theorem next (act : Act) : Sound (stage.next act) := by
  cases act with
  | serve request =>
      cases hserve : stage.pool.serve request stage.site with
      | ok backend site' =>
          obtain ⟨hheld, -, rejected, haccounted, -⟩ := h.serve_ok hserve
          rw [Stage.next, after_ok hserve]
          refine h.follow haccounted ?_ ?_
          · rw [hheld]
            exact h.sorted.adding backend
          · rw [hheld, List.append_assoc]
            refine List.perm_append_comm_assoc _ _ _ |>.trans ?_
            exact (stage.held.clients_adding backend).append_left rejected
      | error failure site' =>
          rw [Stage.next, after_error hserve]
          exact h.follow_settled (h.serve_error hserve)
  | close =>
      obtain ⟨site', hrun, htended⟩ := stage.pool.close_tended stage.site
      have hheld : stage.pool.held site' = [] :=
        (stage.pool.held_of_tended htended).trans (Holdings.held_put _ _ _)
      have haccounted :=
        (Site.accounted_hold stage.site stage.pool.number []).append htended.accounted
      rw [Stage.next, after_ok hrun]
      refine h.follow haccounted ?_ ?_
      · rw [hheld]
        exact Held.sorted_nil
      · rw [hheld]
        exact .refl _
  | use backend request hrequest =>
      exact h.follow_settled (clientless_of_blind (fun hunseen =>
        SessionAction.blind_answerBackend hunseen backend request hrequest)
          { site := stage.site }).settled
  | surround other =>
      have hheld : (stage.next (.surround other)).held = stage.held := Holdings.held_put _ _ _
      refine ⟨h.scripts_eq, ?_, ?_, h.fresh⟩
      · rw [hheld]
        exact h.sorted
      · rw [hheld]
        exact h.balance

/-- So does any sequence of acts. -/
theorem run (acts : List Act) : Sound (stage.run acts) := by
  induction acts generalizing stage with
  | nil => exact h
  | cons act acts ih => exact ih (h.next act)

end Sound

end Stage

/-! ## Shortcuts -/

/-- Whatever becomes of the operation, the pool is closed after it. -/
theorem closing_accounted {α : Type} (pool : Pool) {action : Action α}
    (h : Keeps Site.Clientless action) (site : Site) :
    Site.Accounted [] (pool.held site).clients site
      (after (Shortcuts.closing pool action) site) := by
  obtain ⟨result, site₁, hfirst, hidle⟩ : ∃ result site₁,
      outcome action site = .ok result site₁ ∧ Site.Clientless site site₁ := by
    cases hrun : action site with
    | ok value site₁ => exact ⟨_, site₁, outcome_of_ok hrun, h.ok hrun⟩
    | error failure site₁ => exact ⟨_, site₁, outcome_of_error hrun, h.error hrun⟩
  obtain ⟨site', hclose, htended⟩ := pool.close_tended site₁
  rw [pool.held_of_tended hidle] at htended
  have hlast := hidle.accounted.append
    ((Site.accounted_hold site₁ pool.number []).append htended.accounted)
  cases result with
  | ok value =>
      have hrun : Shortcuts.closing pool action site = .ok value site' :=
        (bind_ok hfirst).trans (bind_ok (discard_ok hclose))
      rwa [after_ok hrun]
  | error failure =>
      have hrun : Shortcuts.closing pool action site = .error failure site' :=
        (bind_ok hfirst).trans (bind_ok (discard_ok hclose))
      rwa [after_error hrun]

/-- A new pool has no scripts and holds nothing, and nothing is built for it. -/
theorem create_cases (site : Site) :
    ∃ keyring site₁, create none [] site =
        .ok { number := site₁.holdings.pools.length, keyring }
          (site₁.hold site₁.holdings.pools.length []) ∧
      Site.Clientless site site₁ := by
  have hkeeps := keeps_clientless fun h => Keyring.blind_default h.veil
  cases hkeyring : Keyring.default site with
  | ok keyring site₁ => exact ⟨keyring, site₁, bind_ok hkeyring, hkeeps.ok hkeyring⟩
  | error failure site₁ =>
      rw [Keyring.default, get_bind] at hkeyring
      cases hdefault : site.defaultKeyring with
      | some number =>
          rw [hdefault] at hkeyring
          cases hkeyring
      | none =>
          rw [hdefault] at hkeyring
          cases hkeyring

/-- A pool that is made for one request closes every client that was built for it. -/
theorem balanced_serving {α : Type} (request : Request) {operation : Kind → Action α}
    (h : ∀ kind {R : Site → Site → Prop}, Unseen R → Blind R (operation kind)) :
    Keeps Site.Balanced (do
      let pool ← create none []
      let backend ← pool.serve request
      Shortcuts.closing pool (operation backend.kind)) := by
  intro site
  obtain ⟨keyring, site₁, hcreate, hidle⟩ := create_cases site
  generalize hnumber : site₁.holdings.pools.length = number at hcreate
  have hsound : Stage.Sound ⟨site₁.hold number [], { number, keyring }, [], []⟩ := by
    rw [← hnumber]
    exact Stage.sound_start site₁ keyring
  have hfirst : Site.Balanced site (site₁.hold number []) :=
    trans_of Site.Balanced hidle.settled.balanced (Site.balanced_hold site₁ number [])
  unfold after
  rw [bind_ok hcreate]
  cases hserve : Pool.serve { number, keyring } request (site₁.hold number []) with
  | error failure site₂ =>
      rw [bind_error hserve]
      exact trans_of Site.Balanced hfirst (hsound.serve_error hserve).balanced
  | ok backend site₂ =>
      obtain ⟨hheld, -, rejected, haccounted, -⟩ := hsound.serve_ok hserve
      have hnone : (⟨site₁.hold number [], { number, keyring }, [], []⟩ : Stage).held = [] :=
        Holdings.held_put _ _ _
      rw [hnone] at hheld haccounted
      have hlast := closing_accounted { number, keyring } (keeps_clientless (h backend.kind)) site₂
      rw [hheld] at hlast
      have hclients : (Held.adding [] backend).clients = backend.clients := List.append_nil _
      have hreplaced : Held.replaced [] backend = [] := rfl
      have hall := haccounted.append hlast
      rw [hclients, hreplaced, List.append_nil, List.append_nil] at hall
      rw [bind_ok hserve]
      exact trans_of Site.Balanced hfirst ⟨_, hall⟩

theorem balanced_shortcut {α : Type} {action : Action α} (h : SessionAction.Shortcut action) :
    Keeps Site.Balanced action := by
  cases h with
  | serving path h => exact balanced_serving (.ofPath path) h
  | servingKind kind h => exact balanced_serving (.ofKind kind) h
  | alone h => exact (keeps_clientless h).mono fun hidle => hidle.settled.balanced

/-- Every shortcut closes, in the same order, the clients that it has built. -/
theorem balanced_answerShortcut (request : ArtifactDepot.Request) (session : Session) :
    Site.Balanced session.site
      (SessionAction.after (SessionAction.answerShortcut request) session).site := by
  obtain ⟨α, action, reply, hshortcut, hrequest, hreply⟩ :=
    SessionAction.answerShortcut_cases request
  have hkeeps := balanced_shortcut hshortcut
  rw [hrequest]
  cases hrun : action session.site with
  | ok value site =>
      have hlast := clientless_of_blind (hreply value) { session with site }
      have hafter : SessionAction.after (SessionAction.onSite action >>= reply) session =
          SessionAction.after (reply value) { session with site } := by
        simp only [SessionAction.after, bind, EStateM.bind, SessionAction.onSite, hrun]
      rw [hafter]
      exact trans_of Site.Balanced (hkeeps.ok hrun) hlast.settled.balanced
  | error failure site =>
      have hafter : SessionAction.after (SessionAction.onSite action >>= reply) session =
          { session with site } := by
        simp only [SessionAction.after, bind, EStateM.bind, SessionAction.onSite, hrun]
      rw [hafter]
      exact hkeeps.error hrun

/-! ## The lifetime of clients -/

/--
Whatever has happened to a pool since it was made, with whatever documents and failures: the clients
that were built for it and never asked to close are those of the backends that it holds, one at most
of each kind, and none was asked to close twice.  A request that fails leaves the pool holding what
it held, and asks none of those clients to close.  One that is served has asked two sorts of clients
to close: those that it has rejected, while the pool held what it had held, and then the one whose
place the new backend takes, when the pool already held the new one.  A pool that is closed holds
nothing, then asks all the clients that are left to close, and does not fail.  A shortcut has
closed, once each, the clients that it has built, whether it fails or not.
-/
theorem open_clients_are_held (site : Site) (keyring : Nat) (acts : List Act) :
    let stage := (Stage.start site keyring).run acts
    (∀ client, client ∈ stage.built ∧ client ∉ stage.closed ↔ client ∈ stage.held.clients) ∧
      (stage.held.clients.map Prod.fst).Nodup ∧ stage.built.Nodup ∧ stage.closed.Nodup ∧
      (∀ request failure site', stage.pool.serve request stage.site = .error failure site' →
        stage.pool.held site' = stage.held ∧
          ∀ client ∈ stage.held.clients, client ∉ (stage.next (.serve request)).closed) ∧
      (∀ request backend site', stage.pool.serve request stage.site = .ok backend site' →
        stage.pool.held site' = stage.held.adding backend ∧
          (∃ path, request.route stage.site.installed = .ok (backend.kind, path)) ∧
          ∃ rejected, (∀ client ∈ stage.held.clients, client ∉ rejected) ∧
            (stage.next (.serve request)).built = stage.built ++ (rejected ++ backend.clients) ∧
            (stage.next (.serve request)).closed =
              stage.closed ++ (rejected ++ stage.held.replaced backend) ∧
            site'.holdings.closings = stage.site.holdings.closings ++
              (rejected.map fun client => (client, stage.site.holdings.pools)) ++
                (stage.held.replaced backend).map fun client => (client, site'.holdings.pools)) ∧
      (∃ site', stage.pool.close stage.site = .ok () site' ∧ stage.pool.held site' = [] ∧
        site'.holdings.closings = stage.site.holdings.closings ++
          (stage.held.clients.map fun client => (client, site'.holdings.pools)) ∧
        ∀ client ∈ (stage.next .close).built, client ∈ (stage.next .close).closed) ∧
      ∀ request session, ∃ clients, Site.Accounted clients clients session.site
        (SessionAction.after (SessionAction.answerShortcut request) session).site := by
  intro stage
  have hsound : Stage.Sound stage := (Stage.sound_start site keyring).run acts
  refine ⟨hsound.mem_clients_iff, hsound.sorted.kinds_of_clients, hsound.fresh.nodup,
    (List.nodup_append.1 hsound.split_nodup).1, fun request failure site' hfailed => ?_,
    fun request backend site' hserve => ?_, ?_, balanced_answerShortcut⟩
  · obtain ⟨clients, htended⟩ := hsound.serve_error hfailed
    have hheld : stage.pool.held site' = stage.held := stage.pool.held_of_tended htended
    refine ⟨hheld, fun client hclient => ?_⟩
    have hnext : (stage.next (.serve request)).held = stage.held := by
      rw [Stage.next, after_error hfailed]
      exact hheld
    rw [← hnext] at hclient
    exact (((hsound.next (.serve request)).mem_clients_iff client).2 hclient).2
  · obtain ⟨hheld, hroute, rejected, haccounted, hother, hclosings⟩ := hsound.serve_ok hserve
    have hfollow := Stage.follow_eq haccounted
    rw [Stage.next, after_ok hserve, hfollow]
    exact ⟨hheld, hroute, rejected, hother, rfl, rfl, hclosings⟩
  · obtain ⟨site', hrun, htended⟩ := stage.pool.close_tended stage.site
    have hheld : stage.pool.held site' = [] :=
      (stage.pool.held_of_tended htended).trans (Holdings.held_put _ _ _)
    refine ⟨site', hrun, hheld, ?_, fun client hbuilt => Decidable.byContradiction fun hopen => ?_⟩
    · rw [htended.holdings_eq]
      rfl
    · have hnext := ((hsound.next .close).mem_clients_iff client).1 ⟨hbuilt, hopen⟩
      have hnone : (stage.next .close).held = [] := by
        rw [Stage.next, after_ok hrun]
        exact hheld
      rw [hnone] at hnext
      cases hnext

end Pool

end ArtifactDepot
