import ArtifactDepot.Proofs.Making
import ArtifactDepot.Disk.Upkeep

/-!
# Numbers that are given once

Local directories and temporary directories are numbered.  No operation gives
a number a second time, and none releases a directory but the one that made
it (`Site.Aside`).  Most operations touch no number at all; the localization
of a directory gives it a new number, and a new temporary directory if it is
remote (`Backend.localize_ends`).
-/

namespace ArtifactDepot

open ArtifactDepot.Action

/-! ## Numbers -/

namespace Site

/-- No number has been given or released, and no temporary directory has been tried. -/
structure SameNumbers (before after : Site) : Prop where
  serials_eq : after.serials = before.serials
  last_eq : after.lastTemporary = before.lastTemporary

/-- No number is given again, and of the numbers below the bound none has been released. -/
structure AsideBelow (bound : Nat) (before after : Site) : Prop where
  next_le : before.serials.next ≤ after.serials.next
  released_iff : ∀ serial < bound,
    serial ∈ after.serials.released ↔ serial ∈ before.serials.released
  last_le : before.lastTemporary ≤ after.lastTemporary

/-- No number is given again, and none that has been given is released. -/
abbrev Aside (before after : Site) : Prop := AsideBelow before.serials.next before after

variable {bound : Nat} {before after : Site}

theorem Recorded.sameNumbers (h : Recorded before after) : SameNumbers before after :=
  ⟨h.serials_eq, h.lastTemporary_eq⟩

theorem Silent.sameNumbers (h : Silent before after) : SameNumbers before after :=
  h.toRecorded.sameNumbers

theorem SameNumbers.asideBelow (h : SameNumbers before after) (bound : Nat) :
    AsideBelow bound before after := by
  constructor
  · exact Nat.le_of_eq (congrArg Serials.next h.serials_eq.symm)
  · intro serial _
    rw [h.serials_eq]
  · exact Nat.le_of_eq h.last_eq.symm

instance : IsPreorder Site SameNumbers where
  refl _ := ⟨rfl, rfl⟩
  trans _ _ _ h h' := ⟨h'.serials_eq.trans h.serials_eq, h'.last_eq.trans h.last_eq⟩

instance : IsPreorder Site (AsideBelow bound) where
  refl _ := ⟨Nat.le_refl _, fun _ _ => Iff.rfl, Nat.le_refl _⟩
  trans _ _ _ h h' :=
    ⟨Nat.le_trans h.next_le h'.next_le,
      fun serial hserial => (h'.released_iff serial hserial).trans (h.released_iff serial hserial),
      Nat.le_trans h.last_le h'.last_le⟩

theorem Aside.trans {later : Site} (h : Aside before after) (h' : Aside after later) :
    Aside before later := by
  refine ⟨Nat.le_trans h.next_le h'.next_le, fun serial hserial => ?_,
    Nat.le_trans h.last_le h'.last_le⟩
  have hlater := h'.released_iff serial (Nat.lt_of_lt_of_le hserial h.next_le)
  exact hlater.trans (h.released_iff serial hserial)

end Site

/-! ## Actions that touch no number -/

namespace Action

variable {α β : Type} {R : Site → Site → Prop} [IsPreorder Site R]

theorem keeps_foldlM {step : β → α → Action β} (h : ∀ state value, Keeps R (step state value))
    (values : List α) (state : β) : Keeps R (values.foldlM step state) := by
  induction values generalizing state with
  | nil => exact keeps_pure _
  | cons value values ih => exact keeps_bind (h state value) ih

theorem keeps_filterM {choose : α → Action Bool} (h : ∀ value, Keeps R (choose value))
    (values : List α) : Keeps R (values.filterM choose) := by
  have haux (chosen : List α) : Keeps R (values.filterAuxM choose chosen) := by
    induction values generalizing chosen with
    | nil => exact keeps_pure _
    | cons value values ih => exact keeps_bind (h value) fun _ => ih _
  exact keeps_bind (haux []) fun _ => keeps_pure _

theorem keeps_consult (question : Disk → Except Incident α) : Keeps R (consult question) :=
  fun site => keeps_ofCall (question site.disk) site

/-- The relation is kept by every change of the disk. -/
class KeepsDisk (R : Site → Site → Prop) : Prop where
  change : ∀ (site : Site) (disk : Disk), R site (site.withDisk disk)

instance : KeepsDisk Site.SameNumbers := ⟨fun _ _ => ⟨rfl, rfl⟩⟩

instance (bound : Nat) : KeepsDisk (Site.AsideBelow bound) :=
  ⟨fun _ _ => ⟨Nat.le_refl _, fun _ _ => Iff.rfl, Nat.le_refl _⟩⟩

omit [IsPreorder Site R] in
theorem keeps_onDisk [KeepsDisk R] (operation : DiskAction Unit) : Keeps R (onDisk operation) := by
  intro site
  unfold after onDisk
  cases operation site.disk with
  | ok value disk => exact KeepsDisk.change site disk
  | error incident disk => exact KeepsDisk.change site disk

theorem keeps_traced_numbers (operation : Operation) (kind : Kind) (path : Text)
    {action : Action α} (h : Keeps Site.SameNumbers action) :
    Keeps Site.SameNumbers (Trace.traced operation kind path action) :=
  Trace.keeps_traced Site.Silent.sameNumbers h

end Action

namespace Local

theorem keeps_refused {α : Type} {R : Site → Site → Prop} [IsPreorder Site R]
    {wrap : Incident → Fault} {action : Action α} (h : Keeps R action) :
    Keeps R (refused wrap action) := by
  refine keeps_recover h fun failure => ?_
  split
  · exact keeps_throw _
  · exact keeps_throw _

theorem keeps_isPresent (path : Text) : Keeps Site.SameNumbers (isPresent path) :=
  keeps_consult _

theorem keeps_isDirectory (path : Text) : Keeps Site.SameNumbers (isDirectory path) :=
  keeps_refused (keeps_bind (keeps_consult _) fun _ => keeps_pure _)

theorem keeps_modified (path : Text) : Keeps Site.SameNumbers (modified path) :=
  keeps_refused (keeps_bind (keeps_consult _) fun _ => keeps_pure _)

theorem keeps_contents (path : Text) : Keeps Site.SameNumbers (contents path) :=
  keeps_traced_numbers _ _ _ (keeps_refused (keeps_consult _))

theorem keeps_readBytes (path : Text) : Keeps Site.SameNumbers (readBytes path) :=
  keeps_traced_numbers _ _ _ (keeps_refused (keeps_consult _))

theorem keeps_writeBytes (path : Text) (content : ByteArray) :
    Keeps Site.SameNumbers (writeBytes path content) :=
  keeps_traced_numbers _ _ _ (keeps_refused (keeps_onDisk _))

theorem keeps_makeDirectory (path : Text) (recursive : Bool) :
    Keeps Site.SameNumbers (makeDirectory path recursive) :=
  keeps_refused (keeps_onDisk _)

theorem keeps_deleteTree (path : Text) : Keeps Site.SameNumbers (deleteTree path) :=
  keeps_traced_numbers _ _ _ (keeps_refused (keeps_onDisk _))

/-- Every attempt at a temporary directory takes the next number. -/
theorem keeps_tryTemporary {R : Site → Site → Prop} [IsPreorder Site R] [KeepsDisk R]
    (h : ∀ site : Site, R site { site with lastTemporary := site.lastTemporary + 1 })
    (attempts : Nat) : Keeps R (tryTemporary attempts) := by
  induction attempts with
  | zero => exact keeps_throw _
  | succ attempts ih =>
      intro site
      simp only [after, tryTemporary]
      split
      · next hrun =>
          split at hrun
          · cases hrun
            exact trans_of R (h site) (KeepsDisk.change _ _)
          · exact trans_of R (h site) (ih.ok hrun)
          · cases hrun
      · next hrun =>
          split at hrun
          · cases hrun
          · exact trans_of R (h site) (ih.error hrun)
          · cases hrun
            exact h site

theorem keeps_makeTemporary (bound : Nat) : Keeps (Site.AsideBelow bound) makeTemporary :=
  keeps_refused (keeps_tryTemporary
    (fun _ => ⟨Nat.le_refl _, fun _ _ => Iff.rfl, Nat.le_succ _⟩) _)

end Local

/-! ## Releasing -/

namespace LocalDirectory

variable {directory : LocalDirectory}

theorem keeps_deleteReplica {R : Site → Site → Prop} [IsPreorder Site R] [KeepsDisk R]
    (hnote : ∀ words, Keeps R (note .warning words)) (path : Text) :
    Keeps R (deleteReplica path) := by
  refine keeps_recover (keeps_onDisk _) fun failure => ?_
  split
  · exact keeps_pure _
  · exact hnote _
  · exact keeps_throw _

/-- What is not owned, or has been released, is not touched by a release. -/
theorem release_idle {site : Site}
    (h : directory.owned = false ∨ directory.serial ∈ site.serials.released) :
    directory.release site = .ok () site := by
  have hidle : (!directory.owned || site.serials.released.contains directory.serial) = true := by
    simpa using h
  have hunfold : directory.release site =
      (if !directory.owned || site.serials.released.contains directory.serial then pure ()
        else do
          modify fun site => { site with serials := site.serials.release directory.serial }
          deleteReplica directory.path : Action Unit) site := rfl
  rw [hunfold, if_pos hidle]
  rfl

/-- What is known of numbers after a release: an owned directory is released, and no other one. -/
structure Releases (directory : LocalDirectory) (before after : Site) : Prop where
  next_le : before.serials.next ≤ after.serials.next
  last_eq : after.lastTemporary = before.lastTemporary
  released_iff : ∀ serial, serial ∈ after.serials.released ↔
    (directory.owned = true ∧ serial = directory.serial) ∨ serial ∈ before.serials.released

theorem keeps_releases (directory : LocalDirectory) :
    Keeps (Releases directory) directory.release := by
  intro site
  by_cases hidle : directory.owned = false ∨ directory.serial ∈ site.serials.released
  · rw [after_ok (release_idle hidle)]
    refine ⟨Nat.le_refl _, rfl, fun serial => ⟨Or.inr, ?_⟩⟩
    rintro (⟨howned, rfl⟩ | hmem)
    · exact hidle.resolve_left (by simp [howned])
    · exact hmem
  · obtain ⟨hnot, hfirst⟩ := not_or.1 hidle
    have howned : directory.owned = true := by simpa using hnot
    have hnote (words : String) : Keeps Site.SameNumbers (note .warning words) :=
      (keeps_note _ _).mono Site.Silent.sameNumbers
    have hkept := keeps_deleteReplica hnote directory.path
      { site with serials := site.serials.release directory.serial }
    have hafter : after directory.release site = after (deleteReplica directory.path)
        { site with serials := site.serials.release directory.serial } := by
      rw [after, after, release_eq howned hfirst]
    rw [hafter]
    constructor
    · rw [hkept.serials_eq]
      exact Nat.le_max_left _ _
    · exact hkept.last_eq
    · intro serial
      rw [hkept.serials_eq]
      simp [Serials.release, howned]

/-- A release releases no directory with a smaller number. -/
theorem keeps_release {bound : Nat} (h : bound ≤ directory.serial) :
    Keeps (Site.AsideBelow bound) directory.release := by
  refine (keeps_releases directory).mono fun hreleases => ?_
  refine ⟨hreleases.next_le, fun serial hserial => ?_, Nat.le_of_eq hreleases.last_eq.symm⟩
  rw [hreleases.released_iff]
  exact or_iff_right fun ⟨_, heq⟩ => Nat.lt_irrefl _ (heq ▸ Nat.lt_of_lt_of_le hserial h)

end LocalDirectory

/-! ## Replicas -/

namespace Replica

variable {kind : Kind} (hkind : kind ≠ .disk)

include hkind

theorem keeps_visit (source replica entry : Text) :
    Keeps Site.SameNumbers (visit kind source replica entry) := by
  have hasked {α : Type} {action : Action α} (h : Keeps Site.Recorded action) :
      Keeps Site.SameNumbers action := h.mono Site.Recorded.sameNumbers
  have htarget : Keeps Site.SameNumbers (target source replica entry) := by
    unfold target
    split
    · exact keeps_pure _
    · exact keeps_throw _
  refine keeps_bind htarget fun place => ?_
  refine keeps_bind (hasked (Backend.keeps_isDirectory hkind entry).recorded) fun found => ?_
  refine keeps_ite ?_ ?_
  · exact keeps_bind (Local.keeps_makeDirectory place false) fun _ =>
      hasked (keeps_entriesOf hkind entry).recorded
  · exact keeps_bind (hasked (Backend.keeps_readBytes hkind entry)) fun content =>
      keeps_bind (Local.keeps_writeBytes place content) fun _ => keeps_pure _

theorem keeps_levels (source replica : Text) (bound : Nat) (entries : Names) :
    Keeps Site.SameNumbers (levels kind source replica bound entries) := by
  induction bound generalizing entries with
  | zero => exact keeps_throw _
  | succ bound ih =>
      refine keeps_ite (keeps_pure _) (keeps_bind ?_ fun _ => ih _)
      exact keeps_foldlM (fun _ entry =>
        keeps_bind (keeps_visit hkind source replica entry) fun _ => keeps_pure _) _ _

/-- Copying touches no number. -/
theorem keeps_copy (source replica : Text) : Keeps Site.SameNumbers (copy kind source replica) := by
  have hentries := (keeps_entriesOf hkind source).mono
    Site.Silent.sameNumbers
  exact keeps_bind hentries fun _ => keeps_levels hkind source replica _ _

/-- Only the directory that is filled can be released by it. -/
theorem keeps_fill {bound : Nat} (source : Text) {directory : LocalDirectory}
    (h : bound ≤ directory.serial) :
    Keeps (Site.AsideBelow bound) (fill kind source directory) := by
  have hcopy := (keeps_copy hkind source directory.path).mono
    (fun hsame => hsame.asideBelow bound)
  refine keeps_bind (keeps_recover hcopy fun failure => ?_) fun _ => keeps_pure _
  exact keeps_bind (LocalDirectory.keeps_release h) fun _ => keeps_throw _

omit hkind in
/-- A copy that fails is not handed out. -/
theorem fill_error {source : Text} {directory : LocalDirectory} {failure : Failure}
    {site copied : Site} (h : copy kind source directory.path site = .error failure copied) :
    ∃ failure' site', fill kind source directory site = .error failure' site' := by
  have hhandled : recover (copy kind source directory.path) (fun failure => do
      directory.release
      throw failure) site = (directory.release >>= fun _ => throw failure) copied :=
    recover_error h
  cases hrelease : directory.release copied with
  | ok value site' => exact ⟨_, _, bind_error (hhandled.trans (bind_ok hrelease))⟩
  | error failure' site' => exact ⟨_, _, bind_error (hhandled.trans (bind_error hrelease))⟩

theorem keeps_establish (bound : Nat) (path : Text) :
    Keeps (Site.AsideBelow bound) (establish kind path) := by
  have hasked {α : Type} {action : Action α} (h : Keeps Site.Silent action) :
      Keeps (Site.AsideBelow bound) action :=
    h.mono fun hsilent => hsilent.sameNumbers.asideBelow bound
  have hdemand {question : Action Bool} (fault : Fault) {next : Action LocalDirectory}
      (hquestion : Keeps Site.Silent question) (hnext : Keeps (Site.AsideBelow bound) next) :
      Keeps (Site.AsideBelow bound) (demand question fault next) :=
    keeps_bind (hasked hquestion) fun _ =>
      keeps_ite (keeps_bind (keeps_throw _) fun _ => hnext) hnext
  refine keeps_bind (keeps_ofRule _) fun source => hdemand _ (Backend.keeps_isPresent hkind source)
    (hdemand _ (Backend.keeps_isDirectory hkind source) ?_)
  refine keeps_bind (Local.keeps_makeTemporary bound) fun name site => ?_
  exact ⟨Nat.le_succ _, fun _ _ => Iff.rfl, Nat.le_refl _⟩

end Replica

/-! ## Localizing -/

/-- A local directory has been handed out between two sites, with a number of its own. -/
structure LocalDirectory.Handed (kind : Kind) (directory : LocalDirectory) (before after : Site) :
    Prop where
  aside : Site.Aside before after
  le : before.serials.next ≤ directory.serial
  lt : directory.serial < after.serials.next
  kept : directory.serial ∉ after.serials.released
  in_place : kind = .disk → directory.owned = false
  replica : kind ≠ .disk → directory.owned = true ∧
    ∃ number, before.lastTemporary < number ∧ number ≤ after.lastTemporary ∧
      directory.path = Local.temporaryName number ∧ Local.Fits number

namespace LocalDirectory.Handed

variable {kind : Kind} {directory : LocalDirectory} {before after : Site}

/-- What touches no number before does not matter. -/
theorem earlier {start : Site} (hsame : Site.SameNumbers start before)
    (h : directory.Handed kind before after) : directory.Handed kind start after where
  aside := Site.Aside.trans (hsame.asideBelow _) h.aside
  le := hsame.serials_eq ▸ h.le
  lt := h.lt
  kept := h.kept
  in_place := h.in_place
  replica := hsame.last_eq ▸ h.replica

/-- What touches no number after does not matter. -/
theorem later {site : Site} (h : directory.Handed kind before after)
    (hsame : Site.SameNumbers after site) : directory.Handed kind before site where
  aside := h.aside.trans (hsame.asideBelow _)
  le := h.le
  lt := hsame.serials_eq ▸ h.lt
  kept := hsame.serials_eq ▸ h.kept
  in_place := h.in_place
  replica := hsame.last_eq ▸ h.replica

/-- A directory that is used in place gets the next number. -/
theorem used (path : Text) (site : Site) :
    (⟨site.serials.next, path, path, false⟩ : LocalDirectory).Handed .disk site
      { site with serials := site.serials.give } where
  aside := ⟨Nat.le_succ _, fun _ _ => Iff.rfl, Nat.le_refl _⟩
  le := Nat.le_refl _
  lt := Nat.lt_succ_self _
  kept := site.serials.next_not_released
  in_place := fun _ => rfl
  replica := fun hkind => absurd rfl hkind

/-- A replica gets the next number, and a temporary directory that has not been tried before. -/
theorem prepared (hkind : kind ≠ .disk) (source : Text) {site : Site} {number : Nat}
    (hlater : site.lastTemporary < number) (hfits : Local.Fits number) :
    (Replica.directoryAt site source number).Handed kind site (Replica.prepared site number) where
  aside := ⟨Nat.le_succ _, fun _ _ => Iff.rfl, Nat.le_of_lt hlater⟩
  le := Nat.le_refl _
  lt := Nat.lt_succ_self _
  kept := site.serials.next_not_released
  in_place := fun hdisk => absurd hdisk hkind
  replica := fun _ => ⟨rfl, number, hlater, Nat.le_refl _, rfl, hfits⟩

end LocalDirectory.Handed

namespace Backend

open LocalDirectory

/-- The replica of a remote directory gets a new number and a new temporary directory. -/
theorem make_ends {kind : Kind} (hkind : kind ≠ .disk) (path : Text) (site : Site) :
    Ends (Site.SameNumbers site) (Replica.make kind path) (Handed kind · site)
      (Site.Aside site) := by
  intro start hstart
  have haside := hstart.asideBelow site.serials.next
  rcases Replica.establish_cases hkind path start with
    ⟨source, number, asked, hbegun, hestablish⟩ | ⟨failure, site', hestablish, -⟩
  · have hasked : Site.SameNumbers site asked :=
      trans_of _ hstart hbegun.silent.sameNumbers
    rw [hbegun.make_eq]
    cases hcopy : Replica.copy kind source (Local.temporaryName number)
        (Replica.prepared asked number) with
    | ok value copied =>
        have hfill : Replica.fill kind source (Replica.directoryAt asked source number)
            (Replica.prepared asked number) =
              .ok (Replica.directoryAt asked source number) copied := bind_ok (recover_ok hcopy)
        have hlater : asked.lastTemporary < number := by
          rw [hasked.last_eq, ← hstart.last_eq]
          exact hbegun.later
        rw [hfill]
        exact ((Handed.prepared hkind source hlater hbegun.room.fits).earlier hasked).later
          ((Replica.keeps_copy hkind source _).ok hcopy)
    | error failure copied =>
        obtain ⟨failure', site', hfill⟩ : ∃ failure' site',
            Replica.fill kind source (Replica.directoryAt asked source number)
              (Replica.prepared asked number) = .error failure' site' := Replica.fill_error hcopy
        have hle : site.serials.next ≤ (Replica.directoryAt asked source number).serial :=
          Nat.le_of_eq (congrArg Serials.next hasked.serials_eq.symm)
        have hstarted := (Replica.keeps_establish hkind site.serials.next path).ok hestablish
        rw [hfill]
        exact trans_of _ haside
          (trans_of _ hstarted ((Replica.keeps_fill hkind source hle).error hfill))
  · have hrun : Replica.make kind path start = .error failure site' := by
      rw [Replica.make_eq_establish, bind_error hestablish]
    rw [hrun]
    exact trans_of _ haside ((Replica.keeps_establish hkind _ path).error hestablish)

/-- A directory that is used in place gets a new number. -/
theorem localizeLocal_ends (path : Text) (site : Site) :
    Ends (Site.SameNumbers site) (localizeLocal path) (Handed .disk · site)
      (Site.Aside site) := by
  have hpass {action : Action Bool} (h : Keeps Site.SameNumbers action) :
      Ends (Site.SameNumbers site) action (fun _ => Site.SameNumbers site) (Site.Aside site) :=
    (h.ends (Site.SameNumbers site) fun hsame hsite => trans_of _ hsite hsame).mono
      (fun _ => id) (fun _ _ => id) fun _ hsame => hsame.asideBelow _
  have hcreate : Ends (Site.SameNumbers site) (LocalDirectory.create path none)
      (Handed .disk · site) (Site.Aside site) :=
    fun start hstart => (Handed.used path start).earlier hstart
  have hrefused {next : Action LocalDirectory} (fault : Fault) (refused : Bool)
      (h : Ends (Site.SameNumbers site) next (Handed .disk · site) (Site.Aside site)) :
      Ends (Site.SameNumbers site) (if refused then raise fault >>= fun _ : Unit => next else next)
        (Handed .disk · site) (Site.Aside site) := by
    cases refused with
    | true => exact ends_throw fun _ hsame => hsame.asideBelow _
    | false => exact h
  refine (hpass (Local.keeps_isPresent path)).bind fun found => hrefused _ _ ?_
  exact (hpass (Local.keeps_isDirectory path)).bind fun found => hrefused _ _ hcreate

/-- A localization hands out a directory with new numbers, or none. -/
theorem localize_ends (kind : Kind) (path : Text) (site : Site) :
    Ends (Site.SameNumbers site) (localize kind path) (Handed kind · site) (Site.Aside site) := by
  refine Trace.ends_traced ?_ (fun hsilent hsite => trans_of _ hsite hsilent.sameNumbers)
    (fun hsilent hhanded => hhanded.later hsilent.sameNumbers)
    (fun hsilent haside => haside.trans (hsilent.sameNumbers.asideBelow _))
    fun _ hsite => hsite.asideBelow _
  cases kind with
  | disk => exact localizeLocal_ends path site
  | gcs => exact make_ends (by decide) path site
  | s3 => exact make_ends (by decide) path site
  | azure => exact make_ends (by decide) path site

end Backend

end ArtifactDepot
