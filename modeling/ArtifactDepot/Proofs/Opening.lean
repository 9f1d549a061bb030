import ArtifactDepot.Proofs.Unseen

/-!
# How backends are opened

A backend is bound without a look at secrets, and its client is built by calls
that hand them over.  So where those calls run alike backends are opened alike
with any two credentials that show the same, by the classes of the depot as by
scripted factories, and pools construct them alike.
-/

namespace ArtifactDepot

open ArtifactDepot.Action

variable {sight : Sight} {R : Comparison Site} {credential credential' : Option Credential}

/-! ## Credentials that show the same -/

/-- Two credentials that may be missing show the same. -/
def Sight.SameCredential (sight : Sight) (credential credential' : Option Credential) : Prop :=
  credential'.map (Credential.hide sight.secret) = credential.map (Credential.hide sight.secret)

theorem Sight.SameCredential.some {credential credential' : Credential}
    (h : credential'.hide sight.secret = credential.hide sight.secret) :
    sight.SameCredential (.some credential) (.some credential') := congrArg Option.some h

namespace Sight.SameCredential

variable (h : sight.SameCredential credential credential')

include h

/-- A part that shows in the hidden record is the same for both. -/
theorem bind_eq {β : Type} {part shown : Credential → Option β}
    (hpart : ∀ found : Credential, part found = shown (found.hide sight.secret)) :
    credential'.bind part = credential.bind part := by
  have hbind (found : Option Credential) :
      found.bind part = (found.map (Credential.hide sight.secret)).bind shown := by
    cases found with
    | none => rfl
    | some found => exact hpart found
  rw [hbind, hbind, h]

theorem gcs?_eq : credential'.bind Credential.gcs? = credential.bind Credential.gcs? :=
  h.bind_eq fun found => found.gcs?_hide.symm

theorem s3?_eq :
    (credential'.bind Credential.s3?).map (S3Key.hide sight.secret) =
      (credential.bind Credential.s3?).map (S3Key.hide sight.secret) := by
  rw [Option.map_bind, Option.map_bind]
  exact h.bind_eq fun found => found.s3?_hide.symm

theorem azure?_eq :
    (credential'.bind Credential.azure?).map (AzureKey.hide sight.secret) =
      (credential.bind Credential.azure?).map (AzureKey.hide sight.secret) := by
  rw [Option.map_bind, Option.map_bind]
  exact h.bind_eq fun found => found.azure?_hide.symm

/-- On agreeing sites both tell the same account, but for its key. -/
theorem accountFor_eq {site site' : Site} (hsites : site.Agree sight site') (path : Option Text) :
    (Azure.accountFor site'.environment path (credential'.bind Credential.azure?)).map
        (Azure.Account.hide sight.secret) =
      (Azure.accountFor site.environment path (credential.bind Credential.azure?)).map
        (Azure.Account.hide sight.secret) := by
  have hstated (key : Option AzureKey) :
      Azure.accountStated site'.environment key = Azure.accountStated site.environment key := by
    simp only [Azure.accountStated, hsites.setting_eq "AZURE_STORAGE_ACCOUNT" (by decide),
      hsites.setting_eq "AZURE_STORAGE_KEY" (by decide)]
  have henvironment (key : Option AzureKey) :
      Azure.accountFor site'.environment path key = Azure.accountFor site.environment path key := by
    unfold Azure.accountFor
    rw [hstated]
  have hkeys := h.azure?_eq
  rw [henvironment]
  cases hfirst : credential.bind Credential.azure? with
  | none =>
      rw [hfirst] at hkeys
      rw [Option.map_eq_none_iff.1 hkeys]
  | some key =>
      rw [hfirst] at hkeys
      obtain ⟨key', hsecond, hhidden⟩ := Option.map_eq_some_iff.1 hkeys
      rw [hsecond, ← Azure.accountFor_hide, ← Azure.accountFor_hide, hhidden]

end Sight.SameCredential

namespace Backend

/-! ## Backends -/

section Binding

variable (h : Veil sight R)

include h

/-- What a backend is bound to does not depend on secrets. -/
theorem couple_bindingOf (kind : Kind) (path : Option Text)
    (hshown : sight.SameCredential credential credential') :
    Couple Eq R (bindingOf kind path credential) (bindingOf kind path credential') := by
  cases kind with
  | disk => exact couple_pure rfl
  | gcs => exact couple_pure rfl
  | s3 => exact (blind_bind (blind_ofRule _) fun _ => blind_pure _).couple
  | azure =>
      refine couple_bind couple_get fun site site' hsites => ?_
      have haccounts := hshown.accountFor_eq (h.agree hsites) path
      refine couple_bind (couple_ofRule haccounts) fun account account' haccount => ?_
      have hname : account'.name = account.name := (congrArg Azure.Account.name haccount :)
      rw [hname]
      exact couple_pure rfl

theorem blind_bindingOf (kind : Kind) (path : Option Text) (credential : Option Credential) :
    Blind R (bindingOf kind path credential) := (couple_bindingOf h kind path rfl).blind

theorem blind_registerClient (kind : Kind) (serial : Nat) : Blind R (registerClient kind serial) :=
  blind_ite (h.blind_modify (fun _ => rfl) (fun _ => ⟨rfl, rfl, Nat.le_refl _, fun _ => rfl⟩)
    fun hsites => { hsites with openClients_eq := by rw [hsites.openClients_eq] }) (blind_pure _)

/-- Nothing is built where a ready client is taken. -/
theorem couple_openReady (kind : Kind) (path : Option Text)
    (hshown : sight.SameCredential credential credential') :
    Couple Eq R (openWith false kind path credential) (openWith false kind path credential') := by
  refine couple_bind (couple_bindingOf h kind path hshown) ?_
  rintro binding _ rfl
  refine h.blind_freshSerial.couple_bind fun serial => ?_
  exact (blind_bind (blind_registerClient h kind serial) fun _ => blind_pure _).couple

/-- What a script does once its call is recorded. -/
def followScript (number : Nat) (kind : Kind) (path : Option Text)
    (credential : Option Credential) : Action Backend := do
  obey (← nextBuild number) "build failed"
  let script := (← get).scripts.getD number {}
  match script.reuse, script.first with
  | true, some backend => return backend
  | _, _ =>
      let backend := { (← openWith false kind path credential) with script := some number }
      updateScript number fun script => { script with first := some (script.first.getD backend) }
      return backend

theorem couple_followScript (number : Nat) (kind : Kind) (path : Option Text)
    (hshown : sight.SameCredential credential credential') :
    Couple Eq R (followScript number kind path credential)
      (followScript number kind path credential') := by
  refine (blind_nextBuild h number).couple_bind fun verdict => ?_
  refine (blind_obey verdict _).couple_bind fun _ => ?_
  refine couple_bind couple_get fun site site' hsites => ?_
  rw [(h.agree hsites).scripts_eq]
  dsimp only
  split
  · exact couple_pure rfl
  · refine couple_bind (couple_openReady h kind path hshown) ?_
    rintro backend _ rfl
    exact (blind_bind (blind_updateScript h _ _) fun _ => blind_pure _).couple

end Binding

variable (h : Builder sight R)

include h

theorem couple_openClient (serial : Nat) (binding : Binding) (path : Option Text)
    (hshown : sight.SameCredential credential credential') :
    Couple Eq R (openClient serial binding path credential)
      (openClient serial binding path credential') := by
  have hinstalled (kind : Kind) {action action' : Action Unit}
      (haction : Couple Eq R action action') :
      Couple Eq R
        (do
          if !(← get).installed.contains kind then meet (.moduleMissing kind.clientModule)
          action)
        (do
          if !(← get).installed.contains kind then meet (.moduleMissing kind.clientModule)
          action') := by
    refine couple_bind couple_get fun site site' hsites => ?_
    rw [(h.agree hsites).installed_eq]
    exact couple_ite ((blind_throw _).couple_bind fun _ => haction) haction
  cases binding with
  | disk => exact couple_pure rfl
  | gcs =>
      refine couple_wrapping (hinstalled .gcs (h.build ?_ rfl))
      rw [hshown.gcs?_eq]
  | s3 endpoint =>
      refine couple_wrapping (hinstalled .s3 ?_)
      refine couple_bind (h.build ?_ rfl) fun _ _ _ => h.build rfl rfl
      simp only [Call.hide, ← S3.sessionSettings_hide sight.isEmpty_secret, hshown.s3?_eq]
  | azure name =>
      refine couple_bind couple_get fun site site' hsites => ?_
      have haccounts := hshown.accountFor_eq (h.agree hsites) path
      refine couple_bind (couple_ofRule haccounts) fun account account' haccount => ?_
      refine couple_wrapping (hinstalled .azure (h.build ?_ rfl))
      rw [Azure.hide_openAzureClient sight.isEmpty_secret,
        Azure.hide_openAzureClient sight.isEmpty_secret, haccount]

theorem couple_openWith (buildClient : Bool) (kind : Kind) (path : Option Text)
    (hshown : sight.SameCredential credential credential') :
    Couple Eq R (openWith buildClient kind path credential)
      (openWith buildClient kind path credential') := by
  cases buildClient with
  | false => exact couple_openReady h.toVeil kind path hshown
  | true =>
      refine couple_bind (couple_bindingOf h.toVeil kind path hshown) ?_
      rintro binding _ rfl
      refine h.blind_freshSerial.couple_bind fun serial => ?_
      refine couple_bind (couple_openClient h serial binding path hshown) fun _ _ _ => ?_
      exact (blind_bind (blind_registerClient h.toVeil kind serial) fun _ => blind_pure _).couple

theorem couple_openScripted (number : Nat) (kind : Kind) (path : Option Text)
    (hshown : sight.SameCredential credential credential') :
    Couple Eq R (openScripted number kind path credential)
      (openScripted number kind path credential') :=
  couple_bind (h.build (congrArg (Call.buildBackend kind path) hshown) rfl) fun _ _ _ =>
    couple_followScript h.toVeil number kind path hshown

end Backend

variable (h : Builder sight R)

include h

/-- A pool constructs the same backend with credentials that show the same. -/
theorem Pool.couple_construct (pool : Pool) (kind : Kind) (path : Option Text)
    (hshown : sight.SameCredential credential credential') :
    Couple Eq R (pool.construct kind path credential) (pool.construct kind path credential') := by
  apply couple_wrapping
  cases pool.scripts.lookup kind with
  | none => exact Backend.couple_openWith h true kind path hshown
  | some script => exact Backend.couple_openScripted h script kind path hshown

/-- A keyring is loaded alike. -/
theorem Keyring.blind_loading (number : Nat) (force : Bool) : Blind R (load number force) :=
  Keyring.blind_load h.toVeil force fun hsites hchange =>
    h.change hsites rfl rfl ((h.agree hsites).withKeyring number hchange)

/-- What a pool holds is changed alike. -/
theorem Pool.blind_hold (pool : Pool) (held : Held) : Blind R (pool.hold held) :=
  h.blind_change (fun _ => rfl) fun hsites =>
    { hsites with holdings_eq := by simp only [Site.hold, hsites.holdings_eq] }

theorem Pool.blind_create (keyring : Option Nat) (scripts : List (Kind × Nat)) :
    Blind R (create keyring scripts) := by
  have hlast (keyring : Nat) : Blind R (do
      let pool : Pool := { number := (← get).holdings.pools.length, keyring, scripts }
      pool.hold []
      return pool : Action Pool) := by
    refine h.blind_get_bind (fun hsites => by simp only [hsites.holdings_eq]) fun site => ?_
    exact blind_bind (Pool.blind_hold h _ []) fun _ => blind_pure _
  cases keyring with
  | some keyring => exact hlast keyring
  | none => exact blind_bind (Keyring.blind_default h.toVeil) hlast

end ArtifactDepot
