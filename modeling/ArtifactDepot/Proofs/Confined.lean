import ArtifactDepot.Proofs.Asking
import ArtifactDepot.Proofs.Temporary
import ArtifactDepot.Replica

/-!
# The walk stays in the replica

Nothing in the walk looks for names that lead elsewhere.  It stays in its
replica because a listing gives single components, because a directory is
made before anything is put into it, and because the system makes nothing
under a name that stands for a directory which is already there.  The
invariant `Replica.Confined` says so of every entry that is still to be
copied; `Replica.visit_confined` is its step.
-/

namespace ArtifactDepot

open Text (slash)
open ArtifactDepot.Action

/-! ## Local operations -/

/-- Nothing has been done but that at most one operation on the disk was refused. -/
def Site.Unmoved (before after : Site) : Prop :=
  Silent before after ∨ Silent (before.withDisk before.disk) after

namespace Local

/-- A change of the disk that the system grants. -/
theorem onDisk_change_ok {operation : Disk → Except Incident Disk} {site : Site} {disk : Disk}
    (h : operation site.disk = .ok disk) :
    onDisk (DiskAction.change operation) site = .ok () (site.withDisk disk) := by
  simp only [onDisk, DiskAction.change, h]

/-- A change of the disk that the system refuses. -/
theorem onDisk_change_error {operation : Disk → Except Incident Disk} {site : Site}
    {incident : Incident} (h : operation site.disk = .error incident) :
    onDisk (DiskAction.change operation) site =
      .error (.incident incident) (site.withDisk site.disk) := by
  simp only [onDisk, DiskAction.change, h]

/-- Making a directory does what the system does, or nothing. -/
theorem makeDirectory_cases (path : Text) (site : Site) :
    (∃ disk, site.disk.makeDirectory path directoryMode = .ok disk ∧
        makeDirectory path false site = .ok () (site.withDisk disk)) ∨
      (∃ failure, makeDirectory path false site = .error failure (site.withDisk site.disk)) ∧
        ∀ disk, site.disk.makeDirectory path directoryMode ≠ .ok disk := by
  cases hmake : site.disk.makeDirectory path directoryMode with
  | ok disk => exact Or.inl ⟨disk, rfl, recover_ok (onDisk_change_ok hmake)⟩
  | error incident => exact Or.inr ⟨refused_error _ (onDisk_change_error hmake), nofun⟩

/-- Writing a file does what the system does, or nothing. -/
theorem writeBytes_cases (path : Text) (content : ByteArray) (site : Site) :
    (∃ disk site', site.disk.write path content = .ok disk ∧
        Site.Silent (site.withDisk disk) site' ∧ writeBytes path content site = .ok () site') ∨
      (∃ failure site', Site.Unmoved site site' ∧
          writeBytes path content site = .error failure site') ∧
        ((∀ disk, site.disk.write path content ≠ .ok disk) ∨ ¬ Trace.Passable site path) := by
  rcases Trace.traced_cases .write .disk path (refused (.failed .openForWrite path)
      (onDisk (DiskAction.change (fun disk => disk.write path content)))) site with
    ⟨failure, site', hrun, hsilent, hstopped⟩ | hframed
  · exact Or.inr ⟨⟨failure, site', Or.inl hsilent, hrun⟩, Or.inr hstopped⟩
  · cases hwrite : site.disk.write path content with
    | ok disk =>
        have hgranted (site₁ : Site) (hsilent : Site.Silent site site₁) :
            refused (.failed .openForWrite path)
              (onDisk (DiskAction.change (fun disk => disk.write path content))) site₁ =
                .ok () (site₁.withDisk disk) := by
          rw [← hsilent.disk_eq] at hwrite
          exact recover_ok (onDisk_change_ok hwrite)
        cases hframed with
        | ok hto hrun hfrom hresult =>
            rw [hgranted _ hto] at hrun
            cases hrun
            exact Or.inl ⟨disk, _, rfl, (hto.withDisk disk).trans hfrom, hresult⟩
        | error hto hrun hfrom hresult =>
            rw [hgranted _ hto] at hrun
            cases hrun
    | error incident =>
        have hrefused (site₁ : Site) (hsilent : Site.Silent site site₁) :
            ∃ reported, refused (.failed .openForWrite path)
              (onDisk (DiskAction.change (fun disk => disk.write path content))) site₁ =
                .error reported (site₁.withDisk site₁.disk) := by
          rw [← hsilent.disk_eq] at hwrite
          exact refused_error _ (onDisk_change_error hwrite)
        refine Or.inr ⟨?_, Or.inl nofun⟩
        cases hframed with
        | ok hto hrun hfrom hresult =>
            obtain ⟨reported, hreported⟩ := hrefused _ hto
            rw [hreported] at hrun
            cases hrun
        | error hto hrun hfrom hresult =>
            obtain ⟨reported, hreported⟩ := hrefused _ hto
            rw [hreported] at hrun
            cases hrun
            refine ⟨_, _, Or.inr ?_, hresult⟩
            rw [hto.disk_eq] at hfrom
            exact (hto.withDisk site.disk).trans hfrom

end Local

/-! ## The walk -/

namespace Replica

variable {kind : Kind} {source replica entry : Text} {names : List Text}

/-- The place in the replica of what names lead to from the source. -/
theorem target_below (hsource : Path.IsRoot source) (hreplica : Path.IsRoot replica)
    (hne : names ≠ []) (hnames : Text.Solid names) :
    target source replica (Path.below source names) = pure (Path.below replica names) := by
  rw [target, hsource.relative?_below hnames]
  dsimp only
  rw [hreplica.join_names hne hnames]

/-- An entry is copied as a directory or as a file to its place in the replica. -/
theorem visit_below (hsource : Path.IsRoot source) (hreplica : Path.IsRoot replica)
    (hne : names ≠ []) (hnames : Text.Solid names) :
    visit kind source replica (Path.below source names) = (do
      if ← Backend.isDirectory kind (Path.below source names) then
        Local.makeDirectory (Path.below replica names) false
        entriesOf kind (Path.below source names)
      else
        Local.writeBytes (Path.below replica names)
          (← Backend.readBytes kind (Path.below source names))
        return .empty) := by
  rw [visit, target_below hsource hreplica hne hnames, pure_bind]

/-- The entries in a directory continue its path by one name. -/
theorem entriesOf_confined (hkind : kind ≠ .disk) (hsource : Path.IsRoot source)
    (hnames : Text.Solid names) :
    Ends (fun _ => True) (entriesOf kind (Path.below source names))
      (fun found _ => ∀ entry ∈ found.toList, ∃ last, Text.Solid [last] ∧
        entry = Path.below source (names ++ [last]))
      (fun _ => True) := by
  apply (Backend.solid_contents hkind _).bind
  intro listed
  apply ends_pure
  intro _ hlisted entry hentry
  obtain ⟨last, hlast, rfl⟩ := List.mem_map.1 (Names.mem_ofList.1 hentry)
  refine ⟨last, .singleton (hlisted last hlast), ?_⟩
  rw [(hsource.below hnames).join_name (hlisted last hlast), Path.below_append]

/-- Looking for the entries in a directory transfers nothing. -/
theorem keeps_entriesOf (hkind : kind ≠ .disk) (directory : Text) :
    Keeps Site.Silent (entriesOf kind directory) :=
  keeps_bind (Backend.keeps_contents hkind directory) fun _ => keeps_pure _

/-- The entry leads into a directory that stands in the replica. -/
def Reaches (source : Text) (replica : Disk) (entry : Text) : Prop :=
  ∃ names last, entry = Path.below source (names ++ [last]) ∧ Text.Solid [last] ∧
    replica.Stands names

/-- The disk has been the old one since then, with some replica or without one. -/
def Hosted (disk : Disk) (number : Nat) (past : List Disk) (site : Site) : Prop :=
  ∃ later, site.past = past ++ later ∧
    ∀ former ∈ later, former = disk ∨ ∃ replica, former = disk.hosting number replica

/-- A disk that was recorded meanwhile is like the others. -/
theorem Hosted.withDisk {disk : Disk} {number : Nat} {past : List Disk} {site : Site}
    (h : Hosted disk number past site)
    (hdisk : site.disk = disk ∨ ∃ replica, site.disk = disk.hosting number replica)
    (other : Disk) : Hosted disk number past (site.withDisk other) := by
  obtain ⟨later, hpast, hlater⟩ := h
  refine ⟨later ++ [site.disk], ?_, fun former hformer => ?_⟩
  · rw [← List.append_assoc, ← hpast]
    rfl
  · rcases List.mem_append.1 hformer with hformer | hformer
    · exact hlater former hformer
    · rwa [List.mem_singleton.1 hformer]

/--
The disk is the old one with the replica, and was so with other ones; no serial has been given
or released.
-/
structure Carries (disk : Disk) (number : Nat) (serials : Serials) (past : List Disk)
    (replica : Disk) (site : Site) : Prop where
  serials_eq : site.serials = serials
  disk_eq : site.disk = disk.hosting number replica
  hosted : Hosted disk number past site

/-- The disk is the old one with a replica into which all entries lead. -/
def Confined (disk : Disk) (number : Nat) (serials : Serials) (past : List Disk) (source : Text)
    (entries : List Text) (site : Site) : Prop :=
  ∃ replica : Disk, Carries disk number serials past replica site ∧ replica.Stands [] ∧
    ∀ entry ∈ entries, Reaches source replica entry

section Confinement

variable {disk : Disk} {number : Nat} {serials : Serials}
  {past : List Disk} {replica : Disk} {last : Text}
  {entries others : List Text}

/-- Records do not matter for what a site carries. -/
theorem Carries.recorded {before after : Site} (hrecorded : Site.Recorded before after)
    (h : Carries disk number serials past replica before) :
    Carries disk number serials past replica after where
  serials_eq := hrecorded.serials_eq.trans h.serials_eq
  disk_eq := hrecorded.disk_eq.trans h.disk_eq
  hosted := by
    rw [Hosted, hrecorded.past_eq]
    exact h.hosted

/-- An operation that changes nothing but the replica. -/
theorem Carries.withDisk {site : Site} (h : Carries disk number serials past replica site)
    (other : Disk) :
    Carries disk number serials past other (site.withDisk (disk.hosting number other)) :=
  ⟨h.serials_eq, rfl, h.hosted.withDisk (Or.inr ⟨replica, h.disk_eq⟩) _⟩

/-- An operation that was refused has changed nothing. -/
theorem Carries.refused {site : Site} (h : Carries disk number serials past replica site) :
    Carries disk number serials past replica (site.withDisk site.disk) := by
  have hsame := h.withDisk replica
  rwa [← h.disk_eq] at hsame

theorem Carries.unmoved {before after : Site} (h : Carries disk number serials past replica before)
    (hunmoved : Site.Unmoved before after) : Carries disk number serials past replica after :=
  hunmoved.elim (fun hsilent => h.recorded hsilent.toRecorded)
    fun hsilent => h.refused.recorded hsilent.toRecorded

/-- Fewer entries may be looked at. -/
theorem Confined.subset {site : Site} (h : Confined disk number serials past source entries site)
    (hsub : others ⊆ entries) : Confined disk number serials past source others site := by
  obtain ⟨replica, hcarries, htop, hentries⟩ := h
  exact ⟨replica, hcarries, htop, fun entry hentry => hentries entry (hsub hentry)⟩

/-- What is put where no directory lies leaves every entry leading into a directory. -/
theorem Reaches.putEntry (h : Reaches source replica entry)
    (hfile : ∀ node, replica.find? (names ++ [last]) = some node → node.isDirectory = false)
    (node : Node) : Reaches source (replica.putEntry node ⟨names, last⟩) entry := by
  obtain ⟨front, name, heq, hname, hstands⟩ := h
  exact ⟨front, name, heq, hname, hstands.putEntry hfile node⟩

variable (serials past) in
/-- A directory is made in the replica, under an ordinary name that was free, or nothing is. -/
theorem makeDirectory_carries (hroom : disk.HasRoom number) (hlast : Text.Solid [last])
    (hstands : replica.Stands names) :
    Ends (Carries disk number serials past replica)
      (Local.makeDirectory (Path.below (Local.temporaryName number) (names ++ [last])) false)
      (fun _ site => Disk.Ordinary last ∧ replica.find? (names ++ [last]) = none ∧
        Carries disk number serials past
          (replica.putEntry (.directory Local.directoryMode 0 []) ⟨names, last⟩) site)
      (Carries disk number serials past replica) := by
  intro site hsite
  have hsolid := hstands.solid.append hlast
  rcases Local.makeDirectory_cases
      (Path.below (Local.temporaryName number) (names ++ [last])) site with
    ⟨disk', hmake, hrun⟩ | ⟨⟨failure, hrun⟩, -⟩
  · rw [hrun]
    rw [hsite.disk_eq] at hmake
    obtain ⟨-, hordinary, hfree, rfl⟩ := (hroom.makeDirectory_ok_iff hsolid hstands).1 hmake
    exact ⟨hordinary, hfree, hsite.withDisk _⟩
  · rw [hrun]
    exact hsite.refused

variable (serials past) in
/-- A file is written in the replica, under an ordinary name that no directory has, or nothing is. -/
theorem writeBytes_carries (hroom : disk.HasRoom number) (hlast : Text.Solid [last])
    (hstands : replica.Stands names) (content : ByteArray) :
    Ends (Carries disk number serials past replica)
      (Local.writeBytes (Path.below (Local.temporaryName number) (names ++ [last])) content)
      (fun _ site => (∀ node, replica.find? (names ++ [last]) = some node →
          node.isDirectory = false) ∧
        Carries disk number serials past
          (replica.putEntry (.file content 0) ⟨names, last⟩) site)
      (Carries disk number serials past replica) := by
  intro site hsite
  have hsolid := hstands.solid.append hlast
  rcases Local.writeBytes_cases
      (Path.below (Local.temporaryName number) (names ++ [last])) content site with
    ⟨disk', site', hwrite, hsilent, hrun⟩ | ⟨⟨failure, site', hunmoved, hrun⟩, -⟩
  · rw [hrun]
    rw [hsite.disk_eq] at hwrite
    obtain ⟨-, -, hfile, rfl⟩ := hroom.write_ok hsolid hstands hwrite
    exact ⟨hfile, (hsite.withDisk _).recorded hsilent.toRecorded⟩
  · rw [hrun]
    exact hsite.unmoved hunmoved

variable (disk number serials past replica) in
/-- Looking for the entries in a directory leaves the replica as it is. -/
theorem entriesOf_carries (hkind : kind ≠ .disk) (hsource : Path.IsRoot source)
    (hnames : Text.Solid names) :
    Ends (Carries disk number serials past replica) (entriesOf kind (Path.below source names))
      (fun found site => (∀ entry ∈ found.toList, ∃ last, Text.Solid [last] ∧
          entry = Path.below source (names ++ [last])) ∧
        Carries disk number serials past replica site)
      (Carries disk number serials past replica) :=
  ends_of_cases
    (fun hsite hrun => ⟨(entriesOf_confined hkind hsource hnames).ok trivial hrun,
      hsite.recorded ((keeps_entriesOf hkind _).ok hrun).toRecorded⟩)
    (fun hsite hrun => hsite.recorded ((keeps_entriesOf hkind _).error hrun).toRecorded)

variable (hkind : kind ≠ .disk) (hroom : disk.HasRoom number) (hsource : Path.IsRoot source)

include hkind hroom hsource

/-- Copying one entry keeps the walk in the replica: the entries in it lead there too. -/
theorem visit_confined (entry : Text) (others : List Text) :
    Ends (Confined disk number serials past source (entry :: others))
      (visit kind source (Local.temporaryName number) entry)
      (fun found => Confined disk number serials past source (found.toList ++ others))
      (Confined disk number serials past source []) := by
  rintro site ⟨replica, hsite, htop, hentries⟩
  obtain ⟨names, last, rfl, hlast, hstands⟩ := hentries entry (List.mem_cons_self ..)
  have hsolid : Text.Solid (names ++ [last]) := hstands.solid.append hlast
  have hothers (other : Text) (hother : other ∈ others) : Reaches source replica other :=
    hentries other (List.mem_cons_of_mem _ hother)
  have hfailed {replica : Disk} (htop : replica.Stands []) (site : Site)
      (hsite : Carries disk number serials past replica site) :
      Confined disk number serials past source [] site := ⟨replica, hsite, htop, nofun⟩
  rw [visit_below hsource (Local.isRoot_temporaryName number) (by simp) hsolid]
  have hsilent : Keeps Site.Silent (Backend.isDirectory kind (Path.below source (names ++ [last]))) :=
    Backend.keeps_isDirectory hkind _
  have hasked := hsilent.ends (Carries disk number serials past replica)
    fun hsilent => .recorded hsilent.toRecorded
  refine (hasked.mono (fun _ => id) (fun _ _ => id) (hfailed htop)).bind
    (fun isDirectory => ?_) site hsite
  cases isDirectory with
  | true =>
      have hmade := makeDirectory_carries serials past hroom hlast hstands
      apply (hmade.mono (fun _ => id) (fun _ _ => id) (hfailed htop)).bind
      intro _
      rintro site ⟨hordinary, hfree, hcarries⟩
      have hfile (node : Node) (hnode : replica.find? (names ++ [last]) = some node) :
          node.isDirectory = false := absurd (hnode.symm.trans hfree) nofun
      -- The new directory stands, so the entries in it lead into the replica as well.
      have hnew := hstands.putEntry_directory hordinary Local.directoryMode 0 []
      have htop' := htop.putEntry hfile (.directory Local.directoryMode 0 [])
      refine (entriesOf_carries _ _ _ _ _ hkind hsource hsolid).mono (fun _ => id)
        (fun found site hfound => ?_)
        (hfailed htop') site hcarries
      refine ⟨_, hfound.2, htop', fun other hother => ?_⟩
      rcases List.mem_append.1 hother with hother | hother
      · obtain ⟨name, hname, rfl⟩ := hfound.1 other hother
        exact ⟨_, name, rfl, hname, hnew⟩
      · exact (hothers other hother).putEntry hfile _
  | false =>
      have hread := (Backend.keeps_readBytes hkind (Path.below source (names ++ [last]))).ends
        (Carries disk number serials past replica) .recorded
      apply (hread.mono (fun _ => id) (fun _ _ => id) (hfailed htop)).bind
      intro content
      have hwritten := writeBytes_carries serials past hroom hlast hstands content
      apply (hwritten.mono (fun _ => id) (fun _ _ => id) (hfailed htop)).bind
      intro _
      refine ends_pure fun site hsite => ⟨_, hsite.2, htop.putEntry hsite.1 _, fun other hother => ?_⟩
      exact (hothers other hother).putEntry hsite.1 _

/-- Copying the entries of a level keeps the walk in the replica. -/
theorem level_confined (entries : Names) :
    Ends (Confined disk number serials past source entries.toList)
      (level kind source (Local.temporaryName number) entries)
      (fun found => Confined disk number serials past source found.toList)
      (Confined disk number serials past source []) := by
  have hfold (todo : List Text) (below : Names) :
      Ends (Confined disk number serials past source (todo ++ below.toList))
        (todo.foldlM (fun below entry =>
          visit kind source (Local.temporaryName number) entry >>= fun found =>
            pure (found.union below)) below)
        (fun found => Confined disk number serials past source found.toList)
        (Confined disk number serials past source []) := by
    induction todo generalizing below with
    | nil => exact ends_pure fun _ => id
    | cons entry todo ih =>
        rw [List.foldlM_cons, bind_assoc]
        apply (visit_confined hkind hroom hsource entry (todo ++ below.toList)).bind
        intro found
        rw [pure_bind]
        refine (ih (found.union below)).mono (fun site hsite => hsite.subset fun other hother => ?_)
          (fun _ _ => id) (fun _ => id)
        rcases List.mem_append.1 hother with hother | hother
        · simp [hother]
        · rcases Names.mem_union.1 (Names.mem_def.2 hother) with hother | hother
          · exact List.mem_append_left _ hother
          · exact List.mem_append_right _ (List.mem_append_right _ hother)
  refine (hfold entries.toList .empty).mono (fun site hsite => ?_) (fun _ _ => id) (fun _ => id)
  rwa [Names.empty, List.append_nil]

/-- Copying level after level keeps the walk in the replica. -/
theorem levels_confined (bound : Nat) (entries : Names) :
    Ends (Confined disk number serials past source entries.toList)
      (levels kind source (Local.temporaryName number) bound entries)
      (fun _ => Confined disk number serials past source [])
      (Confined disk number serials past source []) := by
  induction bound generalizing entries with
  | zero => exact ends_throw fun site hsite => hsite.subset nofun
  | succ bound ih =>
      rw [levels]
      by_cases hempty : entries.toList.isEmpty = true
      · rw [if_pos hempty]
        exact ends_pure fun site hsite => hsite.subset nofun
      · rw [if_neg hempty]
        exact (level_confined hkind hroom hsource entries).bind ih

variable (serials past) in
/-- Whether the copy succeeds or fails, the disk is the old one with some replica. -/
theorem copy_confined :
    Ends (Confined disk number serials past source [])
      (copy kind source (Local.temporaryName number))
      (fun _ => Confined disk number serials past source [])
      (Confined disk number serials past source []) := by
  rintro site ⟨replica, hsite, htop, -⟩
  have hentries := entriesOf_carries disk number serials past replica hkind hsource
    Text.Solid.nil
  rw [Path.below_nil] at hentries
  refine Ends.bind (hentries.mono (fun _ => id) (fun _ _ => id)
    (fun site hsite => ⟨replica, hsite, htop, nofun⟩)) (fun found => ?_) site hsite
  refine (levels_confined hkind hroom hsource Disk.pathLimit found).mono (fun site hfound => ?_)
    (fun _ _ => id) (fun _ => id)
  refine ⟨replica, hfound.2, htop, fun entry hentry => ?_⟩
  obtain ⟨last, hlast, rfl⟩ := hfound.1 entry hentry
  exact ⟨[], last, rfl, hlast, htop⟩

end Confinement

end Replica

end ArtifactDepot
