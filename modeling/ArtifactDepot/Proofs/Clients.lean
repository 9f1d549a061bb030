import ArtifactDepot.Proofs.Asking
import ArtifactDepot.Proofs.Opening

/-!
# Clients that are built and closed

Which clients were built and which were asked to close can be read off the
recorded calls: a client is built when the call that opens it is answered, and
the rules tell which calls were.  `Site.Tended` says this of everything that
happened between two sites.  Every operation of a backend builds and closes
nothing; an attempt of a pool builds at most one client for itself and closes
it again unless it hands it out.
-/

namespace ArtifactDepot

open ArtifactDepot.Action

/-! ## Calls that were answered -/

namespace Rule

/-- The failure that is laid down for a call. -/
def struck? (rules : List Rule) (call : Call) : Option Incident :=
  (strike? call.row rules).map Prod.fst

/-- The rules that a call leaves. -/
def spentBy (rules : List Rule) (call : Call) : List Rule :=
  match strike? call.row rules with
  | none => rules
  | some struck => struck.2

/-- The rules that calls leave. -/
def spent (rules : List Rule) (calls : List Call) : List Rule := calls.foldl spentBy rules

/-- The calls that no rule applied to when they were made. -/
def answered (rules : List Rule) : List Call → List Call
  | [] => []
  | call :: calls =>
      if (strike? call.row rules).isNone then call :: answered (spentBy rules call) calls
      else answered (spentBy rules call) calls

theorem spent_append (rules : List Rule) (calls more : List Call) :
    spent rules (calls ++ more) = spent (spent rules calls) more := List.foldl_append ..

theorem answered_append (rules : List Rule) (calls more : List Call) :
    answered rules (calls ++ more) = answered rules calls ++ answered (spent rules calls) more := by
  induction calls generalizing rules with
  | nil => rfl
  | cons call calls ih =>
      simp only [List.cons_append, answered, ih]
      split <;> rfl

end Rule

namespace Call

/-- The clients that the calls have built. -/
def built (rules : List Rule) (calls : List Call) : List (Kind × Nat) :=
  (Rule.answered rules calls).filterMap opened?

/-- The clients that the calls have asked to close. -/
def closed (calls : List Call) : List (Kind × Nat) := calls.filterMap closed?

theorem built_append (rules : List Rule) (calls more : List Call) :
    built rules (calls ++ more) = built rules calls ++ built (Rule.spent rules calls) more := by
  rw [built, Rule.answered_append, List.filterMap_append]
  rfl

theorem closed_append (calls more : List Call) :
    closed (calls ++ more) = closed calls ++ closed more := List.filterMap_append

/-- A call that is no part of building opens no client. -/
theorem opened?_of_not_isBuilding {call : Call} (h : call.isBuilding = false) :
    call.opened? = none := by
  cases call with
  | openGcsClient => cases h
  | openS3Client => cases h
  | openAzureClient => cases h
  | _ => rfl

/-- A call that opens no client builds none. -/
theorem built_single {call : Call} (h : call.opened? = none) (rules : List Rule) :
    built rules [call] = [] := by
  unfold built Rule.answered
  split <;> simp [Rule.answered, h]

end Call

/-- The site after a call, answered or not. -/
def Site.having (site : Site) (call : Call) : Site :=
  { site with calls := site.calls ++ [call], rules := Rule.spentBy site.rules call }

theorem Action.perform_eq (call : Call) (site : Site) :
    perform call site =
      match Rule.strike? call.row site.rules with
      | none => .ok () (site.having call)
      | some struck => .error (.incident struck.1) (site.having call) := by
  unfold perform Site.having Rule.spentBy
  dsimp only
  cases Rule.strike? call.row site.rules with
  | none => rfl
  | some struck => rfl

theorem Action.after_perform (call : Call) (site : Site) :
    after (perform call) site = site.having call := by
  unfold after
  rw [perform_eq]
  cases Rule.strike? call.row site.rules with
  | none => rfl
  | some struck => rfl

/-! ## What happened between two sites -/

namespace Site

variable {built built' closed closed' : List (Kind × Nat)} {first second third : Site}

/-- The calls were made between the two sites, and nothing else used up rules. -/
structure Made (made : List Call) (before after : Site) : Prop where
  calls_eq : after.calls = before.calls ++ made
  rules_eq : after.rules = Rule.spent before.rules made
  next_le : before.serials.next ≤ after.serials.next

theorem Made.append {made more : List Call} (h : Made made first second)
    (h' : Made more second third) : Made (made ++ more) first third where
  calls_eq := by rw [h'.calls_eq, h.calls_eq, List.append_assoc]
  rules_eq := by rw [h'.rules_eq, h.rules_eq, Rule.spent_append]
  next_le := Nat.le_trans h.next_le h'.next_le

theorem made_having (call : Call) (site : Site) : Made [call] site (site.having call) :=
  ⟨rfl, rfl, Nat.le_refl _⟩

/-- In addition the pools hold what they held, and the closings are on record. -/
structure Handled (made : List Call) (before after : Site) : Prop extends
    Made made before after where
  holdings_eq : after.holdings = before.holdings.closing (Call.closed made)

theorem Handled.append {made more : List Call} (h : Handled made first second)
    (h' : Handled more second third) : Handled (made ++ more) first third where
  toMade := h.toMade.append h'.toMade
  holdings_eq := by
    rw [h'.holdings_eq, h.holdings_eq, Holdings.closing_closing, Call.closed_append]

theorem handled_having {call : Call} (h : call.closed? = none) (site : Site) :
    Handled [call] site (site.having call) where
  toMade := made_having call site
  holdings_eq := by simp [Call.closed, h, having]

/-- The clients were built and asked to close, in this order, between the two sites. -/
def Logged (built closed : List (Kind × Nat)) (before after : Site) : Prop :=
  ∃ made, Handled made before after ∧ Call.built before.rules made = built ∧
    Call.closed made = closed

theorem Logged.append (h : Logged built closed first second)
    (h' : Logged built' closed' second third) :
    Logged (built ++ built') (closed ++ closed') first third := by
  obtain ⟨made, hmade, rfl, rfl⟩ := h
  obtain ⟨more, hmore, rfl, rfl⟩ := h'
  refine ⟨made ++ more, hmade.append hmore, ?_, Call.closed_append made more⟩
  rw [Call.built_append, hmade.rules_eq]

theorem Logged.next_le (h : Logged built closed first second) :
    first.serials.next ≤ second.serials.next := by
  obtain ⟨made, hmade, -⟩ := h
  exact hmade.next_le

/-- Nothing is logged where nothing was asked for. -/
theorem logged_of_calls_eq {before after : Site} (hcalls : after.calls = before.calls)
    (hrules : after.rules = before.rules) (hholdings : after.holdings = before.holdings)
    (hnext : before.serials.next ≤ after.serials.next) : Logged [] [] before after :=
  ⟨[], ⟨⟨by rw [hcalls, List.append_nil], hrules, hnext⟩, hholdings.trans
    (Holdings.closing_nil _).symm⟩, rfl, rfl⟩

/-- The numbers of the clients were given between the two, each to one client. -/
structure Fresh (low high : Nat) (clients : List (Kind × Nat)) : Prop where
  nodup : clients.Nodup
  le : ∀ client ∈ clients, low ≤ client.2
  lt : ∀ client ∈ clients, client.2 < high

theorem Fresh.nil (low high : Nat) : Fresh low high [] := ⟨List.nodup_nil, nofun, nofun⟩

theorem Fresh.append {low middle high : Nat} {clients more : List (Kind × Nat)}
    (h : Fresh low middle clients) (h' : Fresh middle high more) (hlow : low ≤ middle)
    (hhigh : middle ≤ high) : Fresh low high (clients ++ more) where
  nodup := by
    refine List.nodup_append.2 ⟨h.nodup, h'.nodup, fun client hclient other hother heq => ?_⟩
    have hlt := h.lt client hclient
    have hle := h'.le other hother
    rw [heq] at hlt
    exact Nat.lt_irrefl _ (Nat.lt_of_lt_of_le hlt hle)
  le client hclient := by
    rcases List.mem_append.1 hclient with hclient | hclient
    · exact h.le client hclient
    · exact Nat.le_trans hlow (h'.le client hclient)
  lt client hclient := by
    rcases List.mem_append.1 hclient with hclient | hclient
    · exact Nat.lt_of_lt_of_le (h.lt client hclient) hhigh
    · exact h'.lt client hclient

/-- In addition every client that was built has a number of its own. -/
structure Tended (built closed : List (Kind × Nat)) (before after : Site) : Prop where
  logged : Logged built closed before after
  fresh : Fresh before.serials.next after.serials.next built

theorem Tended.next_le (h : Tended built closed first second) :
    first.serials.next ≤ second.serials.next := h.logged.next_le

theorem Tended.append (h : Tended built closed first second)
    (h' : Tended built' closed' second third) :
    Tended (built ++ built') (closed ++ closed') first third :=
  ⟨h.logged.append h'.logged, h.fresh.append h'.fresh h.next_le h'.next_le⟩

/-- Where nothing is built no number is needed. -/
theorem Logged.tended (h : Logged [] closed first second) : Tended [] closed first second :=
  ⟨h, .nil _ _⟩

/-- No client is built or closed. -/
abbrev Clientless : Site → Site → Prop := Tended [] []

theorem clientless_of_calls_eq {before after : Site} (hcalls : after.calls = before.calls)
    (hrules : after.rules = before.rules) (hholdings : after.holdings = before.holdings)
    (hnext : before.serials.next ≤ after.serials.next) : Clientless before after :=
  (logged_of_calls_eq hcalls hrules hholdings hnext).tended

theorem Tended.refl (site : Site) : Clientless site site :=
  clientless_of_calls_eq rfl rfl rfl (Nat.le_refl _)

/-- Meanwhile every pool has held the same. -/
theorem Tended.holdings_eq (h : Tended built closed first second) :
    second.holdings = first.holdings.closing closed := by
  obtain ⟨made, hmade, -, rfl⟩ := h.logged
  exact hmade.holdings_eq

/-- What builds and closes nothing may follow. -/
theorem Tended.idle (h : Tended built closed first second) (h' : Clientless second third) :
    Tended built closed first third := by
  simpa only [List.append_nil] using h.append h'

/-- The clients were built and asked to close, whatever pools have held meanwhile. -/
structure Accounted (built closed : List (Kind × Nat)) (before after : Site) : Prop where
  logged : ∃ made, Made made before after ∧ Call.built before.rules made = built ∧
    Call.closed made = closed
  fresh : Fresh before.serials.next after.serials.next built

theorem Tended.accounted (h : Tended built closed first second) :
    Accounted built closed first second := by
  obtain ⟨made, hmade, hbuilt, hclosed⟩ := h.logged
  exact ⟨⟨made, hmade.toMade, hbuilt, hclosed⟩, h.fresh⟩

theorem Accounted.next_le (h : Accounted built closed first second) :
    first.serials.next ≤ second.serials.next := by
  obtain ⟨made, hmade, -⟩ := h.logged
  exact hmade.next_le

theorem Accounted.append (h : Accounted built closed first second)
    (h' : Accounted built' closed' second third) :
    Accounted (built ++ built') (closed ++ closed') first third := by
  refine ⟨?_, h.fresh.append h'.fresh h.next_le h'.next_le⟩
  obtain ⟨made, hmade, rfl, rfl⟩ := h.logged
  obtain ⟨more, hmore, rfl, rfl⟩ := h'.logged
  refine ⟨made ++ more, hmade.append hmore, ?_, Call.closed_append made more⟩
  rw [Call.built_append, hmade.rules_eq]

/-- A pool that changes what it holds asks for nothing. -/
theorem accounted_hold (site : Site) (number : Nat) (held : Held) :
    Accounted [] [] site (site.hold number held) :=
  ⟨⟨[], ⟨(List.append_nil _).symm, rfl, Nat.le_refl _⟩, rfl, rfl⟩, .nil _ _⟩

instance : IsPreorder Site Clientless where
  refl := Tended.refl
  trans _ _ _ h h' := h.append h'

/-- Every client that is built is closed again. -/
def Settled (before after : Site) : Prop := ∃ clients, Tended clients clients before after

theorem Clientless.settled (h : Clientless first second) : Settled first second := ⟨[], h⟩

instance : IsPreorder Site Settled where
  refl site := ⟨[], .refl site⟩
  trans := by
    rintro first second third ⟨clients, h⟩ ⟨more, h'⟩
    exact ⟨clients ++ more, h.append h'⟩

/-- Every client that is built is closed again, whatever pools have held meanwhile. -/
def Balanced (before after : Site) : Prop := ∃ clients, Accounted clients clients before after

theorem Settled.balanced (h : Settled first second) : Balanced first second := by
  obtain ⟨clients, h⟩ := h
  exact ⟨clients, h.accounted⟩

theorem balanced_hold (site : Site) (number : Nat) (held : Held) :
    Balanced site (site.hold number held) := ⟨[], accounted_hold site number held⟩

instance : IsPreorder Site Balanced where
  refl site := (refl_of Settled site).balanced
  trans := by
    rintro first second third ⟨clients, h⟩ ⟨more, h'⟩
    exact ⟨clients ++ more, h.append h'⟩

theorem clientless_of_leads {site next : Site} (notices : List Notice) (h : site.Leads next) :
    Clientless site (next.under site.rules notices) :=
  clientless_of_calls_eq h.calls_eq rfl h.holdings_eq h.next_le

end Site

namespace Action

variable {α : Type}

/-- A call that opens and closes no client builds and closes nothing. -/
theorem clientless_perform {call : Call} (hopened : call.opened? = none)
    (hclosed : call.closed? = none) : Keeps Site.Clientless (perform call) := by
  intro site
  rw [after_perform]
  exact Site.Logged.tended ⟨[call], Site.handled_having hclosed site, Call.built_single hopened _,
    by simp [Call.closed, hclosed]⟩

theorem unseen_clientless (start : Site) : Unseen (Pursued Site.Clientless start) :=
  unseen_pursued (fun notices => Site.clientless_of_leads notices)
    (fun hbuilding => clientless_perform (Call.opened?_of_not_isBuilding hbuilding)) start

/-- An action that sees neither rules nor log builds and closes nothing. -/
theorem keeps_clientless {action : Action α}
    (h : ∀ {R : Site → Site → Prop}, Unseen R → Blind R action) :
    Keeps Site.Clientless action := keeps_of_pursued fun start => h (unseen_clientless start)

end Action

/-- A load builds and closes nothing either. -/
theorem Keyring.clientless_load (number : Nat) (force : Bool) :
    Keeps Site.Clientless (Keyring.load number force) := by
  refine keeps_of_pursued fun start => blind_load_of_unseen (unseen_clientless start) force ?_
  rintro site _ change ⟨rfl, hsite⟩
  exact ⟨rfl, hsite.idle (Site.clientless_of_calls_eq rfl rfl rfl (Nat.le_refl _))⟩

/-! ## Building -/

namespace Action

variable {α : Type} {clients : List (Kind × Nat)}

/-- The action builds the clients, or nothing if it fails. -/
def Builds (clients : List (Kind × Nat)) (action : Action α) : Prop := ∀ site,
  match action site with
  | .ok _ site' => Site.Logged clients [] site site'
  | .error _ site' => Site.Logged [] [] site site'

theorem builds_perform {call : Call} (hclosed : call.closed? = none) :
    Builds call.opened?.toList (perform call) := by
  intro site
  have hcalls : Call.closed [call] = [] := by simp [Call.closed, hclosed]
  rw [perform_eq]
  cases hstrike : Rule.strike? call.row site.rules with
  | none =>
      refine ⟨[call], Site.handled_having hclosed site, ?_, hcalls⟩
      cases hopened : call.opened? <;> simp [Call.built, Rule.answered, hstrike, hopened]
  | some struck =>
      refine ⟨[call], Site.handled_having hclosed site, ?_, hcalls⟩
      simp [Call.built, Rule.answered, hstrike]

/-- What builds nothing may come first. -/
theorem builds_bind {β : Type} {action : Action β} {next : β → Action α}
    (h : Keeps Site.Clientless action) (hnext : ∀ value, Builds clients (next value)) :
    Builds clients (action >>= next) := by
  intro site
  cases hrun : action site with
  | ok value site₁ =>
      have hfirst := (h.ok hrun).logged
      have hrest := hnext value site₁
      rw [bind_ok hrun]
      cases hlast : next value site₁ with
      | ok result site₂ =>
          rw [hlast] at hrest
          exact hfirst.append hrest
      | error failure site₂ =>
          rw [hlast] at hrest
          exact hfirst.append hrest
  | error failure site₁ =>
      rw [bind_error hrun]
      exact (h.error hrun).logged

theorem builds_wrapping {wrap : Incident → Fault} {action : Action α} (h : Builds clients action) :
    Builds clients (wrapping wrap action) := by
  intro site
  have hsite := h site
  unfold wrapping recover
  cases hrun : action site with
  | ok value site' =>
      rw [hrun] at hsite
      exact hsite
  | error failure site' =>
      rw [hrun] at hsite
      cases failure with
      | incident incident => exact hsite
      | fault fault => exact hsite

end Action

namespace Backend

variable {kind : Kind} {path : Option Text} {credential : Option Credential}

/-- The clients of the backend: one, or none for the local disk. -/
def clients (backend : Backend) : List (Kind × Nat) :=
  if hasClient backend.kind then [(backend.kind, backend.serial)] else []

theorem eq_of_mem_clients {backend : Backend} {client : Kind × Nat}
    (h : client ∈ backend.clients) : client = (backend.kind, backend.serial) := by
  unfold clients at h
  split at h
  · exact List.mem_singleton.1 h
  · cases h

/-- A backend has one client at most, with a number that is as fresh as its own. -/
theorem fresh_clients {backend : Backend} {low high : Nat} (hle : low ≤ backend.serial)
    (hlt : backend.serial < high) : Site.Fresh low high backend.clients where
  nodup := by
    unfold clients
    split
    · exact List.nodup_cons.2 ⟨nofun, List.nodup_nil⟩
    · exact List.nodup_nil
  le client hclient := by
    rw [eq_of_mem_clients hclient]
    exact hle
  lt client hclient := by
    rw [eq_of_mem_clients hclient]
    exact hlt

/-- Without a client library the client of a kind cannot be built. -/
theorem builds_installed {clients : List (Kind × Nat)} (kind : Kind) {action : Action Unit}
    (h : Builds clients action) :
    Builds clients (do
      if !(← get).installed.contains kind then meet (.moduleMissing kind.clientModule)
      action) := by
  refine builds_bind keeps_get fun site => ?_
  split
  · exact builds_bind (keeps_throw _) fun _ => h
  · exact h

/-- The client of a backend is built, or nothing is. -/
theorem builds_openClient (serial : Nat) (binding : Binding) (path : Option Text)
    (credential : Option Credential) :
    Builds (clients { serial, binding }) (openClient serial binding path credential) := by
  cases binding with
  | disk => exact fun site => Site.logged_of_calls_eq rfl rfl rfl (Nat.le_refl _)
  | gcs => exact builds_wrapping (builds_installed .gcs (builds_perform rfl))
  | s3 endpoint =>
      refine builds_wrapping (builds_installed .s3 ?_)
      exact builds_bind (clientless_perform rfl rfl) fun _ => builds_perform rfl
  | azure name =>
      refine builds_bind keeps_get fun site => builds_bind (keeps_ofRule _) fun account => ?_
      exact builds_wrapping (builds_installed .azure (builds_perform rfl))

/-- A script builds nothing but what its one call says. -/
theorem openScripted_eq (number : Nat) (kind : Kind) (path : Option Text)
    (credential : Option Credential) :
    ∃ rest : Action Backend,
      openScripted number kind path credential =
          (perform (.buildBackend kind path credential) >>= fun _ => rest) ∧
        ∀ {R : Site → Site → Prop}, Unseen R → Blind R rest :=
  ⟨followScript number kind path credential, rfl, fun h =>
    (couple_followScript h.veil number kind path rfl).blind⟩

/-- A backend is bound to its kind. -/
theorem kind_of_bindingOf (kind : Kind) (path : Option Text) (credential : Option Credential) :
    Ends (fun _ => True) (bindingOf kind path credential) (fun binding _ => binding.kind = kind)
      (fun _ => True) := by
  cases kind with
  | disk => exact ends_pure fun _ _ => rfl
  | gcs => exact ends_pure fun _ _ => rfl
  | s3 => exact (ends_trivial _).bind fun _ => ends_pure fun _ _ => rfl
  | azure =>
      exact (ends_trivial _).bind fun _ => (ends_trivial _).bind fun _ => ends_pure fun _ _ => rfl

/-- A client is always counted, and this asks for nothing. -/
theorem registerClient_ok (kind : Kind) (serial : Nat) (site : Site) :
    ∃ site', registerClient kind serial site = .ok () site' ∧ Site.Clientless site site' := by
  unfold registerClient
  split
  · exact ⟨_, rfl, Site.clientless_of_calls_eq rfl rfl rfl (Nat.le_refl _)⟩
  · exact ⟨_, rfl, .refl site⟩

/-- A backend is opened with its client, or nothing is built. -/
theorem openWith_tended (kind : Kind) (path : Option Text) (credential : Option Credential)
    (site : Site) :
    match openWith true kind path credential site with
    | .ok backend site' => backend.kind = kind ∧ backend.script = none ∧
        Site.Tended backend.clients [] site site'
    | .error _ site' => Site.Clientless site site' := by
  unfold openWith
  have hkeeps := keeps_clientless fun h => blind_bindingOf h.veil kind path credential
  cases hbinding : bindingOf kind path credential site with
  | error failure site₁ =>
      rw [bind_error hbinding]
      exact hkeeps.error hbinding
  | ok binding site₁ =>
      have hfirst : Site.Clientless site site₁ := hkeeps.ok hbinding
      have hkind := (kind_of_bindingOf kind path credential).ok trivial hbinding
      have hserial : freshSerial site₁ =
          .ok site₁.serials.next { site₁ with serials := site₁.serials.give } := rfl
      rw [bind_ok hbinding, bind_ok hserial, if_pos rfl]
      have hopens := builds_openClient site₁.serials.next binding path credential
        { site₁ with serials := site₁.serials.give }
      have hgiven : Site.Clientless site₁ { site₁ with serials := site₁.serials.give } :=
        Site.clientless_of_calls_eq rfl rfl rfl (Nat.le_succ _)
      cases hopen : openClient site₁.serials.next binding path credential
          { site₁ with serials := site₁.serials.give } with
      | error failure site₂ =>
          rw [hopen] at hopens
          rw [bind_error hopen]
          exact (hfirst.idle hgiven).idle hopens.tended
      | ok value site₂ =>
          rw [hopen] at hopens
          obtain ⟨site₃, hregister, hlast⟩ := registerClient_ok kind site₁.serials.next site₂
          rw [bind_ok hopen]
          dsimp only
          rw [bind_ok hregister]
          refine ⟨hkind, rfl, ?_⟩
          -- The number of the client is the one that was given before it was opened.
          have hnext : site₁.serials.next < site₃.serials.next :=
            Nat.lt_of_lt_of_le (Nat.lt_succ_self _) (Nat.le_trans hopens.next_le hlast.next_le)
          have hlogged := (hgiven.logged.append hopens).append hlast.logged
          rw [List.nil_append, List.append_nil] at hlogged
          exact hfirst.append ⟨hlogged, fresh_clients (Nat.le_refl _) hnext⟩

/-! ## Closing -/

/-- The client of a backend has been asked to close, whether it did or not. -/
theorem close_tended (backend : Backend) (site : Site) :
    Site.Tended [] backend.clients site (after backend.close site) := by
  unfold close clients
  split
  · have hclose : after (do
        modify fun site : Site => site.closing (backend.kind, backend.serial)
        perform (.closeClient backend.kind backend.serial)) site = _ :=
      after_perform (.closeClient backend.kind backend.serial)
        (site.closing (backend.kind, backend.serial))
    rw [hclose]
    exact Site.Logged.tended ⟨[.closeClient backend.kind backend.serial],
      ⟨⟨rfl, rfl, Nat.le_refl _⟩, rfl⟩, Call.built_single rfl _, rfl⟩
  · exact .refl site

end Backend

end ArtifactDepot
