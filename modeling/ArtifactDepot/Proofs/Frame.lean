import ArtifactDepot.Proofs.Complete

/-!
# What localization leaves alone

Localizing a remote directory touches nothing on the local disk but the
temporary directory that it makes, at no time (`Backend.localize_frame`).  If
it fails, the disk is as before; the one exception is a replica whose
directories lie so deep inside each other that its removal breaks off
(`Backend.localize_error_disk`).
-/

namespace ArtifactDepot

/-- Whatever operations there were on the disk meanwhile, nothing changed but at a place. -/
def Site.SameBut (place : List Text) (before after : Site) : Prop :=
  ∃ later, after.past = before.past ++ later ∧
    ∀ disk ∈ later ++ [after.disk], Disk.SameBut place before.disk disk

/-- There was no operation on the disk meanwhile. -/
def Site.SameDisk (before after : Site) : Prop :=
  after.disk = before.disk ∧ after.past = before.past

namespace Backend

open ArtifactDepot.Action ArtifactDepot.Local

variable {kind : Kind} {path : Text} {site site' : Site}

/-- A remote directory is localized by a replica. -/
theorem localize_eq (hkind : kind ≠ .disk) :
    localize kind path = Trace.traced .localize kind path (Replica.make kind path) := by
  cases kind with
  | disk => exact absurd rfl hkind
  | gcs => rfl
  | s3 => rfl
  | azure => rfl

/-- Tracing stops the localization before it has begun, or a replica is made inside of it. -/
theorem localize_cases (hkind : kind ≠ .disk) (path : Text) (site : Site) :
    (∃ failure site', localize kind path site = .error failure site' ∧
        Site.Silent site site') ∨
      Trace.Framed (Replica.make kind path) (localize kind path) site := by
  rw [localize_eq hkind]
  rcases Trace.traced_cases .localize kind path (Replica.make kind path) site with
    ⟨failure, site', hrun, hsilent, -⟩ | hframed
  · exact Or.inl ⟨failure, site', hrun, hsilent⟩
  · exact Or.inr hframed

/-- There was no operation on the disk, or all that changed is a replica where there was room. -/
def Untouched (site site' : Site) : Prop :=
  site.SameDisk site' ∨ ∃ number, site.lastTemporary < number ∧ site.disk.HasRoom number ∧
    Replica.Hosted site.disk number site.past site' ∧
      (site'.disk = site.disk ∨ ∃ replica, site'.disk = site.disk.hosting number replica)

/-- Silent changes before and after make no difference to what is untouched. -/
theorem Untouched.of_silent {asked made : Site} (hto : Site.Silent site asked)
    (h : Untouched asked made) (hfrom : Site.Silent made site') : Untouched site site' := by
  unfold Untouched Site.SameDisk Replica.Hosted at h ⊢
  rwa [hfrom.disk_eq, hfrom.past_eq, ← hto.disk_eq, ← hto.past_eq, ← hto.lastTemporary_eq]

/-- Making a replica changes the disk by that replica at most. -/
theorem make_untouched (hkind : kind ≠ .disk) (path : Text) (site : Site) :
    Untouched site (after (Replica.make kind path) site) := by
  rcases Replica.make_cases hkind path site with
    ⟨source, number, asked, hbegun⟩ | ⟨failure, site', hrun, hsame⟩
  · obtain ⟨replica, -, hcases⟩ := hbegun.make_run hkind
    refine Or.inr ⟨number, hbegun.later, hbegun.room, ?_⟩
    rcases hcases with
      ⟨site', -, hdisk, hhosted, hrun⟩ | ⟨failure, copied, -, -, -, site', hhosted, -, hcases⟩
    · rw [after_ok hrun]
      exact ⟨hhosted, Or.inr ⟨replica, hdisk⟩⟩
    · rcases hcases with ⟨-, hrun, hdisk⟩ | ⟨rest, -, hrun, hdisk⟩
      · rw [after_error hrun]
        exact ⟨hhosted, Or.inl hdisk⟩
      · rw [after_error hrun]
        exact ⟨hhosted, Or.inr ⟨{ top := rest }, hdisk⟩⟩
  · rw [after_error hrun]
    exact Or.inl hsame

/--
Whatever the store holds and however the localization of a remote directory ends, the disk has
not been touched, or a temporary directory whose name was free has been made, and nothing on the
disk was any different outside of it at any time.
-/
theorem localize_frame (hkind : kind ≠ .disk) (path : Text) (site : Site) :
    site.SameDisk (after (localize kind path) site) ∨
      ∃ number, site.lastTemporary < number ∧
        site.disk.find? (site.disk.temporaryPlace number) = none ∧
        site.SameBut (site.disk.temporaryPlace number) (after (localize kind path) site) := by
  have huntouched : Untouched site (after (localize kind path) site) := by
    rcases localize_cases hkind path site with ⟨failure, site', hrun, hsilent⟩ | hframed
    · rw [after_error hrun]
      exact Or.inl ⟨hsilent.disk_eq, hsilent.past_eq⟩
    · cases hframed with
      | @ok site₁ site₂ site₃ directory hto hrun hfrom hresult =>
          have hmade := make_untouched hkind path site₁
          rw [after_ok hrun] at hmade
          rw [after_ok hresult]
          exact hmade.of_silent hto hfrom
      | @error site₁ site₂ site₃ failure hto hrun hfrom hresult =>
          have hmade := make_untouched hkind path site₁
          rw [after_error hrun] at hmade
          rw [after_error hresult]
          exact hmade.of_silent hto hfrom
  refine huntouched.imp_right fun ⟨number, hlater, hroom, ⟨later, hpast, hhosted⟩, hdisk⟩ => ?_
  have hsame {disk : Disk}
      (hcases : disk = site.disk ∨ ∃ replica, disk = site.disk.hosting number replica) :
      Disk.SameBut (site.disk.temporaryPlace number) site.disk disk := by
    rcases hcases with rfl | ⟨replica, rfl⟩
    · exact fun _ _ => rfl
    · exact fun _ => Disk.item?_putEntry site.disk replica.top (site.disk.temporaryEntry number)
  refine ⟨number, hlater, hroom.free, later, hpast, fun disk hmem => ?_⟩
  rcases List.mem_append.1 hmem with hmem | hmem
  · exact hsame (hhosted disk hmem)
  · rw [List.mem_singleton.1 hmem]
    exact hsame hdisk

/-- A remote directory gets a temporary one, whatever becomes of it afterwards. -/
theorem localize_makes {origin : Origin} {key folder : Text} {made : Site}
    (hlocated : origin.Located path key site) (hdirectory : origin.bucket.hasDirectory key = true)
    (hanswers : site.Answers origin.kind origin.name) (hpassable : Trace.Passable site path)
    (hroot : Trace.Passable site origin.root)
    (htemporary : Local.makeTemporary site = .ok folder made) :
    ∃ disk ∈ (after (localize origin.kind path) site).past ++
        [(after (localize origin.kind path) site).disk],
      disk.isDirectoryAt (site.disk.placeOf folder) = true := by
  rw [localize_eq hlocated.remote]
  rcases Trace.traced_cases .localize origin.kind path (Replica.make origin.kind path) site with
    ⟨-, -, -, -, hstopped⟩ | hframed
  · exact absurd hpassable hstopped
  · have hmade (site₁ : Site) (hto : Site.Silent site site₁) :
        ∃ disk ∈ (after (Replica.make origin.kind path) site₁).past ++
            [(after (Replica.make origin.kind path) site₁).disk],
          disk.isDirectoryAt (site.disk.placeOf folder) = true := by
      obtain ⟨number, rfl, -, -, hother⟩ :=
        makeTemporary_congr hto.disk_eq hto.lastTemporary_eq htemporary
      obtain ⟨number', asked, hname, hbegun⟩ := (hlocated.recorded hto.toRecorded).make_begins
        hdirectory (hto.toRecorded.answers hanswers) (hroot.recorded hto.toRecorded) hother
      obtain ⟨replica, hstands, hcases⟩ := hbegun.make_run hlocated.remote
      have hthere : (site₁.disk.hosting number' replica).isDirectoryAt
          (site.disk.placeOf (temporaryName number)) = true := by
        have hplace : site.disk.placeOf (temporaryName number) =
            site₁.disk.home ++ (temporaryNames number' ++ []) := by
          rw [← Disk.temporaryPlace_append, List.append_nil, ← Disk.placeOf_temporaryName, hname,
            hto.disk_eq]
        rw [hplace]
        exact (hbegun.room.stands_below hstands).isDirectoryAt
      refine ⟨_, ?_, hthere⟩
      rcases hcases with
        ⟨site', -, hdisk, -, hrun⟩ | ⟨failure, copied, -, hdisk, -, site', -, hpast, hcases⟩
      · rw [after_ok hrun, hdisk]
        exact List.mem_append_right _ (List.mem_singleton_self _)
      · rcases hcases with ⟨-, hrun, -⟩ | ⟨rest, -, hrun, -⟩ <;>
          rw [after_error hrun, hpast, hdisk] <;> simp
    cases hframed with
    | ok hto hrun hfrom hresult =>
        rw [after_ok hresult, hfrom.disk_eq, hfrom.past_eq, ← after_ok hrun]
        exact hmade _ hto
    | error hto hrun hfrom hresult =>
        rw [after_error hresult, hfrom.disk_eq, hfrom.past_eq, ← after_error hrun]
        exact hmade _ hto

/-- A bucket with keys that name places elsewhere, or nothing that the system accepts. -/
def hostileBucket : Bucket :=
  ["..".toList, "../x".toList, "./y".toList, "a/../../z".toList, "/etc".toList, "b//c".toList,
    "n\x00".toList, List.replicate 300 'l'].map fun key => (key, ⟨⟨#[49]⟩, Object.usualMoment⟩)

/-- A site that has nothing but that bucket. -/
def hostileSite : Site := .storing .gcs "b".toList hostileBucket

/-- A temporary directory is made for the bucket, and nothing outside of it is ever touched. -/
theorem localize_frame_hostile :
    Kind.gcs ≠ .disk ∧
      (∃ disk ∈ (after (localize .gcs "gs://b".toList) hostileSite).past ++
          [(after (localize .gcs "gs://b".toList) hostileSite).disk],
        disk.isDirectoryAt (hostileSite.disk.placeOf (temporaryName 1)) = true) ∧
      (hostileSite.SameDisk (after (localize .gcs "gs://b".toList) hostileSite) ∨
        ∃ number, hostileSite.lastTemporary < number ∧
          hostileSite.disk.find? (hostileSite.disk.temporaryPlace number) = none ∧
          hostileSite.SameBut (hostileSite.disk.temporaryPlace number)
            (after (localize .gcs "gs://b".toList) hostileSite)) := by
  have hlocated : Origin.Located ⟨.gcs, "gs://b".toList, "b".toList, hostileBucket⟩
      "gs://b".toList [] hostileSite :=
    ⟨by decide, rfl, rfl, Site.bucket?_storing, nofun⟩
  have htemporary : Local.makeTemporary hostileSite =
      .ok (temporaryName 1) (withTemporary hostileSite 1) := makeTemporary_storing
  have hmakes := localize_makes hlocated rfl Site.answers_storing (Site.passable_storing _)
    (Site.passable_storing _) htemporary
  exact ⟨by decide, hmakes, localize_frame (by decide) "gs://b".toList hostileSite⟩

/-- A copy of a source into a temporary directory that was free has broken off with a replica in it. -/
structure BreaksOff (kind : Kind) (site : Site) (number : Nat) (replica : Node) : Prop where
  free : site.disk.find? (site.disk.temporaryPlace number) = none
  copy : ∃ source asked cause copied, Site.Silent site asked ∧
    Replica.copy kind source (temporaryName number) (Replica.prepared asked number) =
      .error cause copied ∧
    copied.disk = site.disk.putEntry replica (site.disk.temporaryEntry number)

/--
What a failure leaves of a replica: nothing, unless the directories in it lie too deep inside each
other; then what a removal spares, and the failure is that of the removal.
-/
def Cleared (kind : Kind) (site : Site) (failure : Failure) (disk : Disk) : Prop :=
  ∃ number replica, BreaksOff kind site number replica ∧
    if Node.depth replica ≤ site.disk.reach then disk = site.disk
    else failure = .incident .stackExhausted ∧
      ∃ rest, replica.spare site.disk.before site.disk.reach = some rest ∧
        disk = site.disk.putEntry rest (site.disk.temporaryEntry number)

/-- A replica that is not made is cleared away. -/
theorem make_cleared {failure : Failure} (hkind : kind ≠ .disk)
    (h : Replica.make kind path site = .error failure site') :
    site.SameDisk site' ∨ Cleared kind site failure site'.disk := by
  rcases Replica.make_cases hkind path site with
    ⟨source, number, asked, hbegun⟩ | ⟨failure', failed, hrun, hsame⟩
  · obtain ⟨replica, -, hcases⟩ := hbegun.make_run hkind
    rcases hcases with
      ⟨made, -, -, -, hrun⟩ | ⟨cause, copied, hcopy, hcopied, -, failed, -, -, hcases⟩
    · rw [h] at hrun
      cases hrun
    · refine Or.inr ⟨number, replica.top,
        ⟨hbegun.room.free, source, asked, cause, copied, hbegun.silent, hcopy, hcopied⟩, ?_⟩
      rcases hcases with ⟨hspare, hrun, hdisk⟩ | ⟨rest, hspare, hrun, hdisk⟩
      · rw [h] at hrun
        cases hrun
        rwa [if_pos (Node.spare_eq_none.1 hspare)]
      · rw [h] at hrun
        cases hrun
        have hdeep : ¬ replica.top.depth ≤ site.disk.reach := fun hshallow =>
          absurd (hspare.symm.trans (Node.spare_eq_none.2 hshallow)) nofun
        rw [if_neg hdeep]
        exact ⟨rfl, rest, hspare, hdisk⟩
  · rw [h] at hrun
    cases hrun
    exact Or.inl hsame

/-- Silent changes make no difference to what is cleared. -/
theorem Cleared.of_silent {asked : Site} {failure : Failure} {disk : Disk}
    (hsilent : Site.Silent site asked) (h : Cleared kind asked failure disk) :
    Cleared kind site failure disk := by
  unfold Cleared at h ⊢
  rw [hsilent.disk_eq] at h
  obtain ⟨number, replica, hbreaks, hleft⟩ := h
  refine ⟨number, replica, ?_, hleft⟩
  obtain ⟨hfree, source, later, cause, copied, hlater, hcopy, hcopied⟩ := hbreaks
  rw [hsilent.disk_eq] at hfree hcopied
  exact ⟨hfree, source, later, cause, copied, hsilent.trans hlater, hcopy, hcopied⟩

/--
If the localization of a remote directory fails, at whatever point and with whatever failure that
can be caught, the disk has not been touched or is as before.  The one exception is a copy that
has broken off with directories deeper inside each other than a removal goes down: then the
failure is that of the removal, and what it spared of the replica stays.
-/
theorem localize_error_disk {failure : Failure} (hkind : kind ≠ .disk)
    (h : localize kind path site = .error failure site') :
    site.SameDisk site' ∨
      ∃ number replica, BreaksOff kind site number replica ∧
        if Node.depth replica ≤ site.disk.reach then site'.disk = site.disk
        else failure = .incident .stackExhausted ∧
          ∃ rest, replica.spare site.disk.before site.disk.reach = some rest ∧
            site'.disk = site.disk.putEntry rest (site.disk.temporaryEntry number) := by
  rcases localize_cases hkind path site with ⟨failure', stopped, hrun, hsilent⟩ | hframed
  · rw [hrun] at h
    cases h
    exact Or.inl ⟨hsilent.disk_eq, hsilent.past_eq⟩
  · cases hframed with
    | ok hto hrun hfrom hresult =>
        rw [hresult] at h
        cases h
    | error hto hrun hfrom hresult =>
        rw [hresult] at h
        cases h
        rcases make_cleared hkind hrun with hsame | hcleared
        · refine Or.inl ⟨?_, ?_⟩
          · rw [hfrom.disk_eq, hsame.1, hto.disk_eq]
          · rw [hfrom.past_eq, hsame.2, hto.past_eq]
        · have hleft := hcleared.of_silent hto
          rw [← hfrom.disk_eq] at hleft
          exact Or.inr hleft

/-- The only key of the bucket is no name that a file can have. -/
def parentBucket : Bucket := [("..".toList, ⟨⟨#[49]⟩, Object.usualMoment⟩)]

/-- A bucket whose key names the directory above cannot be localized, and leaves nothing behind. -/
theorem localize_error_disk_parent :
    ∃ failure site',
      localize .gcs "gs://b".toList (.storing .gcs "b".toList parentBucket) =
        .error failure site' ∧
      ((Site.storing .gcs "b".toList parentBucket).SameDisk site' ∨
        ∃ number replica,
          BreaksOff .gcs (.storing .gcs "b".toList parentBucket) number replica ∧
            if Node.depth replica ≤ 980 then site'.disk = Disk.fresh
            else failure = .incident .stackExhausted ∧
              ∃ rest, replica.spare Disk.fresh.before 980 = some rest ∧
                site'.disk = Disk.fresh.putEntry rest (Disk.fresh.temporaryEntry number)) := by
  have hlocated : Origin.Located ⟨.gcs, "gs://b".toList, "b".toList, parentBucket⟩
      "gs://b".toList [] (.storing .gcs "b".toList parentBucket) :=
    ⟨by decide, rfl, rfl, Site.bucket?_storing, nofun⟩
  have hholds : parentBucket.Holds (Key.below [] ["..".toList]) := Or.inl (List.mem_singleton_self _)
  have hreachable : Origin.Reachable ⟨.gcs, "gs://b".toList, "b".toList, parentBucket⟩
      ["..".toList] :=
    (hlocated.reachable_iff nofun).2 ⟨by decide, by decide, hholds⟩
  have hmake (site₁ : Site)
      (hsilent : Site.Silent (.storing .gcs "b".toList parentBucket) site₁)
      (directory : LocalDirectory) (made : Site) :
      Replica.make .gcs "gs://b".toList site₁ ≠ .ok directory made := by
    intro hmade
    obtain ⟨number, trail, -, hreplicated⟩ :=
      (hlocated.recorded hsilent.toRecorded).replicated_of_ok hmade
    have hplaceable := hreplicated.placeable _ ((hreplicated.mem_iff _).2 hreachable)
    exact (hplaceable.ordinary _ (List.mem_singleton_self _)).ne_parent rfl
  cases hrun : localize .gcs "gs://b".toList (.storing .gcs "b".toList parentBucket) with
  | error failure site' =>
      exact ⟨failure, site', rfl, localize_error_disk (by decide) hrun⟩
  | ok directory site' =>
      have hremote : Kind.gcs ≠ .disk := by decide
      rcases localize_cases hremote "gs://b".toList (.storing .gcs "b".toList parentBucket) with
        ⟨failure, stopped, hstopped, -⟩ | hframed
      · rw [hstopped] at hrun
        cases hrun
      · cases hframed with
        | ok hto hmade hfrom hresult => exact absurd hmade (hmake _ hto _ _)
        | error hto hmade hfrom hresult =>
            rw [hrun] at hresult
            cases hresult

end Backend

end ArtifactDepot
