import ArtifactDepot.Proofs.Address
import ArtifactDepot.Proofs.Confined

/-!
# Making and releasing a replica

A replica is made in two steps.  Nothing is changed on the disk until the
source has turned out to be a directory and an empty temporary directory has
been made for it; then the copy fills that directory, and a copy that fails
is released again.  `Replica.make_cases` and `Replica.Begun.make_run` say what
becomes of the disk in each of them.
-/

namespace ArtifactDepot

open ArtifactDepot.Action

/-! ## Releasing -/

namespace LocalDirectory

variable {directory : LocalDirectory} {site : Site}

/-- The first release of a replica deletes it. -/
theorem release_eq (howned : directory.owned = true)
    (hnot : directory.serial ∉ site.serials.released) :
    directory.release site =
      deleteReplica directory.path
        { site with serials := site.serials.release directory.serial } := by
  have hcontains : site.serials.released.contains directory.serial = false := by
    simpa using hnot
  have hunfold : directory.release site =
      (if !directory.owned || site.serials.released.contains directory.serial then pure ()
        else do
          modify fun site => { site with serials := site.serials.release directory.serial }
          deleteReplica directory.path : Action Unit) site := rfl
  rw [hunfold, howned, hcontains, if_neg (by decide)]
  rfl

/-- What the system removes is deleted. -/
theorem deleteReplica_ok {path : Text} {disk : Disk}
    (h : DiskAction.removeTree path site.disk = .ok () disk) :
    deleteReplica path site = .ok () (site.withDisk disk) := by
  have hremove : onDisk (DiskAction.removeTree path) site = .ok () (site.withDisk disk) := by
    simp only [onDisk, h]
  exact recover_ok hremove

/-- What lies too deep breaks the removal off, and the failure is not caught. -/
theorem deleteReplica_exhausted {path : Text} {disk : Disk}
    (h : DiskAction.removeTree path site.disk = .error .stackExhausted disk) :
    deleteReplica path site = .error (.incident .stackExhausted) (site.withDisk disk) := by
  have hremove : onDisk (DiskAction.removeTree path) site =
      .error (.incident .stackExhausted) (site.withDisk disk) := by
    simp only [onDisk, h]
  exact recover_error hremove

end LocalDirectory

namespace Replica

variable {kind : Kind} {path source : Text} {disk : Disk} {number : Nat}

/-! ## Starting -/

/-- Fill a local directory with what lies below a source, or release it. -/
def fill (kind : Kind) (source : Text) (directory : LocalDirectory) : Action LocalDirectory := do
  recover (copy kind source directory.path) fun failure => do
    directory.release
    throw failure
  return directory

/-- The local directory with a number that stands for a source. -/
def directoryAt (site : Site) (source : Text) (number : Nat) : LocalDirectory :=
  ⟨site.serials.next, source, Local.temporaryName number, true⟩

/-- The site with an empty temporary directory for which a serial has been given. -/
def prepared (site : Site) (number : Nat) : Site :=
  { Local.withTemporary site number with serials := site.serials.give }

/-- A replica has been started: its source is a directory, and there is room for it. -/
structure Begun (kind : Kind) (path : Text) (site : Site) (source : Text) (number : Nat)
    (asked : Site) : Prop where
  source_eq : Backend.normalize kind path = .ok source
  present : ∃ site', Site.Silent site site' ∧
    Backend.isDirectory kind source site' = .ok true asked
  silent : Site.Silent site asked
  later : site.lastTemporary < number
  room : site.disk.HasRoom number
  make_eq : make kind path site =
    fill kind source (directoryAt asked source number) (prepared asked number)

/-- Go on if a question is answered by yes, and fail otherwise. -/
def demand (question : Action Bool) (fault : Fault) (next : Action LocalDirectory) :
    Action LocalDirectory :=
  question >>= fun answer => if !answer then raise fault >>= fun _ : Unit => next else next

/-- What is demanded and met goes on. -/
theorem demand_ok {question : Action Bool} {fault : Fault} {next : Action LocalDirectory}
    {site site' : Site} (h : question site = .ok true site') :
    demand question fault next site = next site' := bind_ok h

/-- What is demanded changes nothing but records, whether it is met or not. -/
theorem demand_cases {question : Action Bool} (fault : Fault) (next : Action LocalDirectory)
    (hkeeps : Keeps Site.Silent question) (site : Site) :
    (∃ site', question site = .ok true site' ∧ Site.Silent site site' ∧
        demand question fault next site = next site') ∨
      ∃ failure site', demand question fault next site = .error failure site' ∧
        Site.Silent site site' := by
  cases hanswer : question site with
  | error failure site' =>
      exact Or.inr ⟨failure, site', bind_error hanswer, hkeeps.error hanswer⟩
  | ok answer site' =>
      cases answer with
      | true => exact Or.inl ⟨site', rfl, hkeeps.ok hanswer, demand_ok hanswer⟩
      | false => exact Or.inr ⟨_, site', bind_ok hanswer, hkeeps.ok hanswer⟩

/-- Make a temporary directory for a source. -/
def allot (source : Text) : Action LocalDirectory :=
  Local.makeTemporary >>= fun name => LocalDirectory.create source (some name)

/-- The source must be there and must be a directory before anything is made for it. -/
def establish (kind : Kind) (path : Text) : Action LocalDirectory :=
  ofRule (Backend.normalize kind path) >>= fun source =>
    demand (Backend.isPresent kind source) (.missing .directoryToLocalize source none)
      (demand (Backend.isDirectory kind source) (.missing .directoryToLocalize source none)
        (allot source))

/-- What follows a demand is demanded as well. -/
theorem demand_bind (question : Action Bool) (fault : Fault) (next : Action LocalDirectory)
    (last : LocalDirectory → Action LocalDirectory) :
    demand question fault next >>= last = demand question fault (next >>= last) := by
  rw [demand, demand, bind_assoc]
  congr
  funext answer
  cases answer with
  | false => rfl
  | true => rfl

/-- What is made for a source is filled from it. -/
theorem allot_bind (kind : Kind) (source : Text) :
    allot source >>= (fun directory => fill kind directory.source directory) =
      Local.makeTemporary >>= fun name =>
        LocalDirectory.create source (some name) >>= fun directory => fill kind source directory := by
  refine (bind_assoc _ _ _).trans (bind_congr fun name => funext fun site => ?_)
  have hcreate : LocalDirectory.create source (some name) site =
      .ok ⟨site.serials.next, source, name, true⟩ { site with serials := site.serials.give } := rfl
  rw [bind_ok hcreate, bind_ok hcreate]

/-- A replica is established and then filled. -/
theorem make_eq_establish (kind : Kind) (path : Text) :
    make kind path = establish kind path >>= fun directory =>
      fill kind directory.source directory := by
  rw [establish, bind_assoc]
  simp only [demand_bind, allot_bind]
  rfl

theorem establish_of_normalize (hsource : Backend.normalize kind path = .ok source) (site : Site) :
    establish kind path site =
      demand (Backend.isPresent kind source) (.missing .directoryToLocalize source none)
        (demand (Backend.isDirectory kind source) (.missing .directoryToLocalize source none)
          (allot source)) site := by
  rw [establish, hsource]
  rfl

/-- Once the source is known to be a directory, there is a temporary one for it. -/
theorem establish_eq {site site₁ site₂ : Site} (hsource : Backend.normalize kind path = .ok source)
    (hpresent : Backend.isPresent kind source site = .ok true site₁)
    (hdirectory : Backend.isDirectory kind source site₁ = .ok true site₂)
    (htemporary : Local.makeTemporary site₂ =
      .ok (Local.temporaryName number) (Local.withTemporary site₂ number)) :
    establish kind path site = .ok (directoryAt site₂ source number) (prepared site₂ number) := by
  rw [establish_of_normalize hsource, demand_ok hpresent, demand_ok hdirectory, allot,
    bind_ok htemporary]
  rfl

/-- A replica that has been established is made by filling it. -/
theorem make_of_established {site asked : Site}
    (h : establish kind path site = .ok (directoryAt asked source number) (prepared asked number)) :
    make kind path site =
      fill kind source (directoryAt asked source number) (prepared asked number) := by
  rw [make_eq_establish, bind_ok h]
  rfl

/-- Once the source is known to be a directory, a replica is made by filling a temporary one. -/
theorem make_eq {site site₁ site₂ : Site} (hsource : Backend.normalize kind path = .ok source)
    (hpresent : Backend.isPresent kind source site = .ok true site₁)
    (hdirectory : Backend.isDirectory kind source site₁ = .ok true site₂)
    (htemporary : Local.makeTemporary site₂ =
      .ok (Local.temporaryName number) (Local.withTemporary site₂ number)) :
    make kind path site =
      fill kind source (directoryAt site₂ source number) (prepared site₂ number) :=
  make_of_established (establish_eq hsource hpresent hdirectory htemporary)

/-- A replica is established, or no operation on the disk has been granted. -/
theorem establish_cases (hkind : kind ≠ .disk) (path : Text) (site : Site) :
    (∃ source number asked, Begun kind path site source number asked ∧
        establish kind path site =
          .ok (directoryAt asked source number) (prepared asked number)) ∨
      ∃ failure site', establish kind path site = .error failure site' ∧
        site'.disk = site.disk ∧ site'.past = site.past := by
  cases hsource : Backend.normalize kind path with
  | error fault =>
      refine Or.inr ⟨.fault fault, site, ?_, rfl, rfl⟩
      rw [establish, hsource]
      rfl
  | ok source =>
      have hestablish := establish_of_normalize hsource site
      rcases demand_cases _ _ (Backend.keeps_isPresent hkind source) site with
        ⟨site₁, hpresent, hsilent₁, hrun₁⟩ | ⟨failure, site', hrun, hsilent⟩
      · rcases demand_cases _ _ (Backend.keeps_isDirectory hkind source) site₁ with
          ⟨site₂, hdirectory, hsilent₂, hrun₂⟩ | ⟨failure, site', hrun, hsilent⟩
        · have hsilent : Site.Silent site site₂ := hsilent₁.trans hsilent₂
          rcases Local.makeTemporary_cases site₂ with
            ⟨number, hlater, hroom, htemporary⟩ | ⟨failure, last, htemporary⟩
          · have hestablished := establish_eq hsource hpresent hdirectory htemporary
            refine Or.inl ⟨source, number, site₂, ⟨hsource, ⟨site₁, hsilent₁, hdirectory⟩, hsilent,
              ?_, ?_, make_of_established hestablished⟩, hestablished⟩
            · rwa [hsilent.lastTemporary_eq] at hlater
            · rwa [hsilent.disk_eq] at hroom
          · refine Or.inr ⟨failure, { site₂ with lastTemporary := last }, ?_, hsilent.disk_eq,
              hsilent.past_eq⟩
            rw [hestablish, hrun₁, hrun₂]
            exact bind_error htemporary
        · refine Or.inr ⟨failure, site', ?_, (hsilent₁.trans hsilent).disk_eq,
            (hsilent₁.trans hsilent).past_eq⟩
          rw [hestablish, hrun₁, hrun]
      · exact Or.inr ⟨failure, site', hestablish.trans hrun, hsilent.disk_eq, hsilent.past_eq⟩

/-- A replica is started, or no operation on the disk has been granted. -/
theorem make_cases (hkind : kind ≠ .disk) (path : Text) (site : Site) :
    (∃ source number asked, Begun kind path site source number asked) ∨
      ∃ failure site', make kind path site = .error failure site' ∧
        site'.disk = site.disk ∧ site'.past = site.past := by
  rcases establish_cases hkind path site with
    ⟨source, number, asked, hbegun, -⟩ | ⟨failure, site', hrun, hdisk⟩
  · exact Or.inl ⟨source, number, asked, hbegun⟩
  · refine Or.inr ⟨failure, site', ?_, hdisk⟩
    rw [make_eq_establish]
    exact bind_error hrun

/-! ## Filling -/

namespace Begun

variable {site asked : Site} (h : Begun kind path site source number asked)

include h

theorem isRoot (hkind : kind ≠ .disk) : Path.IsRoot source :=
  Backend.isRoot_of_normalize hkind h.source_eq

/-- The copy starts from an empty replica. -/
theorem carries_blank :
    Carries site.disk number site.serials.give site.past .blank (prepared asked number) := by
  have hserials := h.silent.serials_eq
  have hdisk := h.silent.disk_eq
  have hpast := h.silent.past_eq
  constructor
  · simp only [prepared, hserials]
  · simp only [prepared, Local.withTemporary, Site.withDisk, hdisk]
  · refine ⟨[site.disk], ?_, fun former hformer => Or.inl (List.mem_singleton.1 hformer)⟩
    simp only [prepared, Local.withTemporary, Site.withDisk, hdisk, hpast]

theorem confined : Confined site.disk number site.serials.give site.past source []
    (prepared asked number) :=
  ⟨.blank, h.carries_blank, ⟨⟨_, rfl, rfl⟩, nofun⟩, nofun⟩

/--
A copy that succeeds leaves a replica.  One that fails is deleted again, unless the directories
in it lie too deep inside each other: then a part of the replica stays, and the failure is that
of its deletion.
-/
theorem make_run (hkind : kind ≠ .disk) :
    ∃ replica : Disk, replica.Stands [] ∧
      ((∃ site', copy kind source (Local.temporaryName number) (prepared asked number) =
            .ok () site' ∧
          site'.disk = site.disk.hosting number replica ∧
          Hosted site.disk number site.past site' ∧
          make kind path site = .ok (directoryAt asked source number) site') ∨
        ∃ failure copied, copy kind source (Local.temporaryName number) (prepared asked number) =
            .error failure copied ∧
          copied.disk = site.disk.hosting number replica ∧
          Hosted site.disk number site.past copied ∧
          ∃ site', Hosted site.disk number site.past site' ∧
            site'.past = copied.past ++ [copied.disk] ∧
            ((replica.top.spare site.disk.before site.disk.reach = none ∧
                make kind path site = .error failure site' ∧ site'.disk = site.disk) ∨
              ∃ rest, replica.top.spare site.disk.before site.disk.reach = some rest ∧
                make kind path site = .error (.incident .stackExhausted) site' ∧
                  site'.disk = site.disk.putEntry rest (site.disk.temporaryEntry number))) := by
  have hcopy := copy_confined site.serials.give site.past hkind h.room (h.isRoot hkind)
  rw [h.make_eq]
  cases hrun : copy kind source (Local.temporaryName number) (prepared asked number) with
  | ok value site' =>
      obtain ⟨replica, hcarries, htop, -⟩ := hcopy.ok h.confined hrun
      refine ⟨replica, htop, Or.inl ⟨site', rfl, hcarries.disk_eq, hcarries.hosted, ?_⟩⟩
      exact bind_ok (recover_ok hrun)
  | error failure copied =>
      obtain ⟨replica, hcarries, htop, -⟩ := hcopy.error h.confined hrun
      refine ⟨replica, htop, Or.inr ⟨failure, copied, rfl, hcarries.disk_eq, hcarries.hosted, ?_⟩⟩
      have hnot : (directoryAt asked source number).serial ∉ copied.serials.released := by
        rw [hcarries.serials_eq, directoryAt, h.silent.serials_eq]
        exact site.serials.next_not_released
      have howned : (directoryAt asked source number).owned = true := rfl
      have hrelease := LocalDirectory.release_eq howned hnot
      have hremove := h.room.removeTree_temporary htop
      rw [← hcarries.disk_eq] at hremove
      have hhandled : recover (copy kind source (Local.temporaryName number))
          (fun failure => do
            (directoryAt asked source number).release
            throw failure) (prepared asked number) =
          ((directoryAt asked source number).release >>= fun _ => throw failure) copied :=
        recover_error hrun
      -- Whatever is left of the replica, the whole of it was there before.
      have hhosted (disk : Disk) : Hosted site.disk number site.past (copied.withDisk disk) :=
        hcarries.hosted.withDisk (Or.inr ⟨replica, hcarries.disk_eq⟩) disk
      cases hspare : replica.top.spare site.disk.before site.disk.reach with
      | none =>
          rw [hspare] at hremove
          have hreleased := hrelease.trans (LocalDirectory.deleteReplica_ok hremove)
          refine ⟨_, ?_, rfl, Or.inl ⟨rfl, bind_error (hhandled.trans (bind_ok hreleased)), rfl⟩⟩
          exact hhosted site.disk
      | some rest =>
          rw [hspare] at hremove
          have hreleased := hrelease.trans (LocalDirectory.deleteReplica_exhausted hremove)
          refine ⟨_, ?_, rfl,
            Or.inr ⟨rest, rfl, bind_error (hhandled.trans (bind_error hreleased)), rfl⟩⟩
          exact hhosted (site.disk.putEntry rest (site.disk.temporaryEntry number))

end Begun

end Replica

end ArtifactDepot
