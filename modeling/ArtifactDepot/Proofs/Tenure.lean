import ArtifactDepot.Proofs.Numbers

/-!
# Local directories through a session

A session hands out local directories, releases them in any order and any
number of times, and does other things to the disk in between.  `Tenure` is
the site with what has been handed out on it, and `Tenure.Owned` is what holds
of every session (`Tenure.run_owned`): replicas have paths of their own, the
first release of a replica removes what lies at its own path and nothing else,
and no other release changes anything.
-/

namespace ArtifactDepot

open ArtifactDepot.Action ArtifactDepot.Local

/-! ## First releases -/

namespace LocalDirectory

/--
What the first release of a replica does: it removes the tree at the place of the replica, or
nothing if no directory lies there.  A tree whose directories lie too deep inside each other
stays, and this is the one failure that there is.  Which of its files are left then is not said:
it depends on the order in which the system lists them.
-/
inductive FirstRelease (place : List Text) (before : Disk) :
    EStateM.Result Failure Site Unit → Prop
  | deleted {node : Node} {after : Site} (hfound : before.find? place = some node)
      (hdirectory : node.isDirectory = true) (hshallow : node.depth ≤ before.reach)
      (hlost : ∀ names, after.disk.find? (place ++ names) = none)
      (helsewhere : Disk.SameBut place before after.disk) : FirstRelease place before (.ok () after)
  | gone {after : Site} (hnone : ∀ node, before.find? place = some node → node.isDirectory = false)
      (hdisk : after.disk = before) : FirstRelease place before (.ok () after)
  | tooDeep {node left : Node} {after : Site} (hfound : before.find? place = some node)
      (hdeep : before.reach < node.depth) (hleft : after.disk.find? place = some left)
      (hdirectory : left.isDirectory = true) (helsewhere : Disk.SameBut place before after.disk) :
      FirstRelease place before (.error (.incident .stackExhausted) after)

/-- Whatever becomes of a replica, nothing outside of its place changes. -/
theorem FirstRelease.spares {place : List Text} {action : Action Unit} {site : Site}
    (h : FirstRelease place site.disk (action site)) :
    Disk.SameBut place site.disk (after action site).disk := by
  unfold after
  generalize action site = result at h
  cases h with
  | deleted hfound hdirectory hshallow hlost helsewhere => exact helsewhere
  | gone hnone hdisk =>
      dsimp only
      rw [hdisk]
      exact fun _ _ => rfl
  | tooDeep hfound hdeep hleft hdirectory helsewhere => exact helsewhere

/-- What the system refuses to remove stays, and the refusal is logged or passed over. -/
theorem deleteReplica_refused {path name : Text} {refusal : Refusal} {site : Site} {disk : Disk}
    (h : DiskAction.removeTree path site.disk = .error (.system refusal name) disk) :
    ∃ notices, deleteReplica path site = .ok () { site.withDisk disk with notices } := by
  have hremove : onDisk (DiskAction.removeTree path) site =
      .error (.incident (.system refusal name)) (site.withDisk disk) := by
    simp only [onDisk, h]
  unfold deleteReplica
  rw [recover_error hremove]
  cases refusal with
  | noEntry => exact ⟨site.notices, rfl⟩
  | _ => exact ⟨_, rfl⟩

theorem deleteReplica_first {number : Nat} (hfits : Fits number) (site : Site) :
    FirstRelease (site.disk.temporaryPlace number) site.disk
      (deleteReplica (temporaryName number) site) := by
  have hleads := Disk.leadsTo_temporary hfits
  by_cases hthere : ∃ node, site.disk.find? (site.disk.temporaryPlace number) = some node ∧
      node.isDirectory = true
  · obtain ⟨node, hnode, hdirectory⟩ := hthere
    have hremove := hleads.removeTree_eq hnode hdirectory
    cases hspare : node.spare site.disk.before site.disk.reach with
    | some rest =>
        rw [hspare] at hremove
        rw [deleteReplica_exhausted hremove]
        have hdeep : ¬ node.depth ≤ site.disk.reach := fun hshallow =>
          absurd (hspare.symm.trans (Node.spare_eq_none.2 hshallow)) nofun
        have hleft := Disk.find?_putEntry (site.disk.temporaryEntry number)
          (Disk.parent_of_find? hnode) rest []
        rw [List.append_nil] at hleft
        exact .tooDeep hnode (Nat.lt_of_not_le hdeep) hleft
          (Node.isDirectory_of_item (Node.item_of_spare hspare) hdirectory)
          fun _ => Disk.item?_putEntry site.disk rest (site.disk.temporaryEntry number)
    | none =>
        rw [hspare] at hremove
        rw [deleteReplica_ok hremove]
        exact .deleted hnode hdirectory (Node.spare_eq_none.1 hspare)
          (Disk.find?_dropEntry site.disk (site.disk.temporaryEntry number))
          fun _ => Disk.item?_dropEntry site.disk (site.disk.temporaryEntry number)
  · have hnone (node : Node)
        (hnode : site.disk.find? (site.disk.temporaryPlace number) = some node) :
        node.isDirectory = false := by
      simpa using fun hdirectory => hthere ⟨node, hnode, hdirectory⟩
    obtain ⟨refusal, hremove⟩ := hleads.removeTree_refused hnone
    obtain ⟨notices, hrun⟩ := deleteReplica_refused hremove
    rw [hrun]
    exact .gone hnone rfl

theorem release_first {directory : LocalDirectory} {site : Site} {number : Nat}
    (howned : directory.owned = true) (hnot : directory.serial ∉ site.serials.released)
    (hpath : directory.path = temporaryName number) (hfits : Fits number) :
    FirstRelease (site.disk.temporaryPlace number) site.disk (directory.release site) := by
  rw [release_eq howned hnot, hpath]
  exact deleteReplica_first hfits { site with serials := site.serials.release directory.serial }

end LocalDirectory

/-! ## Other operations on local files -/

/-- What can be done to local files by their backend, and past it. -/
inductive FileOperation
  | isPresent (path : Text)
  | isDirectory (path : Text)
  | modified (path : Text)
  | contents (path : Text)
  | subdirectories (path : Text)
  | files (path : Text)
  | readBytes (path : Text)
  | readText (path : Text)
  | writeText (path : Text) (text : String)
  | writeBytes (path : Text) (content : ByteArray)
  | makeDirectory (path : Text) (recursive : Bool)
  | makeTemporary
  | deleteTree (path : Text)
  /- past the backend -/
  | placeFile (path : Text) (content : ByteArray)
  | ensureDirectory (path : Text)
  | remove (path : Text)
  | touch (path : Text) (nanosecond : Int)

namespace FileOperation

/-- Do it, whatever comes of it. -/
def run : FileOperation → Action Unit
  | isPresent path => discard (Backend.isPresent .disk path)
  | isDirectory path => discard (Backend.isDirectory .disk path)
  | modified path => discard (Backend.modified .disk path)
  | contents path => discard (Backend.contents .disk path)
  | subdirectories path => discard (Backend.subdirectories .disk path)
  | files path => discard (Backend.files .disk path)
  | readBytes path => discard (Backend.readBytes .disk path)
  | readText path => discard (Backend.readText .disk path)
  | writeText path text => Backend.writeText .disk path text
  | writeBytes path content => Backend.writeBytes .disk path content
  | makeDirectory path recursive => Backend.makeDirectory .disk path recursive
  | makeTemporary => discard (Backend.makeTemporary .disk)
  | deleteTree path => Backend.deleteTree .disk path
  | placeFile path content => Upkeep.writeFile path content
  | ensureDirectory path => Upkeep.ensureDirectory path
  | remove path => Upkeep.remove path
  | touch path nanosecond => Upkeep.touch path nanosecond

theorem keeps_select (path : Text) (wanted : Bool) :
    Keeps Site.SameNumbers (Backend.select .disk path wanted) := by
  refine keeps_bind (Local.keeps_contents path) fun names => ?_
  refine keeps_bind (keeps_filterM (fun name => ?_) _) fun _ => keeps_pure _
  exact keeps_bind (Local.keeps_isDirectory _) fun _ => keeps_pure _

/-- No such operation gives a number again or releases a local directory. -/
theorem aside (operation : FileOperation) : Keeps Site.Aside operation.run := by
  have hsame {action : Action Unit} (h : Keeps Site.SameNumbers action) : Keeps Site.Aside action :=
    h.mono fun hnumbers => hnumbers.asideBelow _
  cases operation with
  | isPresent path => exact hsame (keeps_discard (Local.keeps_isPresent path))
  | isDirectory path => exact hsame (keeps_discard (Local.keeps_isDirectory path))
  | modified path => exact hsame (keeps_discard (Local.keeps_modified path))
  | contents path => exact hsame (keeps_discard (Local.keeps_contents path))
  | subdirectories path => exact hsame (keeps_discard (keeps_select path true))
  | files path => exact hsame (keeps_discard (keeps_select path false))
  | readBytes path => exact hsame (keeps_discard (Local.keeps_readBytes path))
  | readText path =>
      refine hsame (keeps_discard (keeps_bind (Local.keeps_readBytes path) fun content => ?_))
      split
      · exact keeps_pure _
      · exact keeps_throw _
  | writeText path text => exact hsame (Local.keeps_writeBytes path _)
  | writeBytes path content => exact hsame (Local.keeps_writeBytes path content)
  | makeDirectory path recursive => exact hsame (Local.keeps_makeDirectory path recursive)
  | makeTemporary => exact fun site => keeps_discard (Local.keeps_makeTemporary _) site
  | deleteTree path => exact hsame (Local.keeps_deleteTree path)
  | placeFile path content =>
      have hwrite : Keeps Site.SameNumbers
          (onDisk (DiskAction.change (fun disk => disk.write path content))) := keeps_onDisk _
      exact hsame (keeps_ite (keeps_bind (keeps_onDisk _) fun _ => hwrite) hwrite)
  | ensureDirectory path => exact hsame (keeps_onDisk _)
  | remove path =>
      refine hsame (keeps_modify fun site => ?_)
      split
      · exact refl_of _ site
      · split
        · exact refl_of _ site
        · split
          · exact refl_of _ site
          · exact ⟨rfl, rfl⟩
  | touch path nanosecond =>
      refine hsame (keeps_bind (keeps_discard (keeps_consult _)) fun _ => keeps_modify fun site => ?_)
      split
      · exact ⟨rfl, rfl⟩
      · exact refl_of _ site

end FileOperation

/-! ## Sessions -/

/-- A site on which local directories are handed out. -/
structure Tenure where
  site : Site
  /-- The local directories that have been handed out, with the kinds of their sources. -/
  handed : List (Kind × LocalDirectory) := []
  /-- The positions of those that have been released. -/
  released : List Nat := []

namespace Tenure

/-- A step of a session. -/
inductive Deed
  | localize (kind : Kind) (path : Text)
  /-- Release the local directory at a position, whether it has been released or not. -/
  | release (index : Nat)
  /-- Anything else that gives no number again and releases nothing. -/
  | other (action : Action Unit) (haside : Keeps Site.Aside action)

/-- An operation on local files as a step. -/
abbrev Deed.file (operation : FileOperation) : Deed := .other operation.run operation.aside

/-- The session after one more step. -/
def next (tenure : Tenure) : Deed → Tenure
  | .localize kind path =>
      match Backend.localize kind path tenure.site with
      | .ok directory site => { tenure with site, handed := tenure.handed ++ [(kind, directory)] }
      | .error _ site => { tenure with site }
  | .release index =>
      match tenure.handed[index]? with
      | none => tenure
      | some (_, directory) =>
          { tenure with
            site := after directory.release tenure.site
            released := index :: tenure.released }
  | .other action _ => { tenure with site := after action tenure.site }

/-- The session after some steps. -/
def run (tenure : Tenure) (deeds : List Deed) : Tenure := deeds.foldl next tenure

/-- The place in which a local directory lies. -/
abbrev placeOf (tenure : Tenure) (directory : LocalDirectory) : List Text :=
  tenure.site.disk.placeOf directory.path

/-- The local directory at a position, and the kind of its source. -/
def At (tenure : Tenure) (index : Nat) (kind : Kind) (directory : LocalDirectory) : Prop :=
  tenure.handed[index]? = some (kind, directory)

/-- What holds of the local directories of a session. -/
structure Owned (tenure : Tenure) : Prop where
  /-- Replicas have paths of their own. -/
  distinct : ∀ {index index' kind kind' directory directory'}, tenure.At index kind directory →
    tenure.At index' kind' directory' → index ≠ index' → kind ≠ .disk → kind' ≠ .disk →
      directory.path ≠ directory'.path
  /-- A local source is never touched. -/
  in_place : ∀ {index directory}, tenure.At index .disk directory →
    directory.release tenure.site = .ok () tenure.site
  /-- What has been released is not touched again. -/
  again : ∀ {index kind directory}, tenure.At index kind directory → index ∈ tenure.released →
    directory.release tenure.site = .ok () tenure.site
  /-- A replica is removed as a whole by its first release. -/
  first : ∀ {index kind directory}, tenure.At index kind directory → kind ≠ .disk →
    index ∉ tenure.released →
      LocalDirectory.FirstRelease (tenure.placeOf directory) tenure.site.disk
        (directory.release tenure.site)
  /-- The release of a replica touches no other one. -/
  apart : ∀ {index index' kind kind' directory directory'}, tenure.At index kind directory →
    tenure.At index' kind' directory' → index ≠ index' → kind ≠ .disk → kind' ≠ .disk →
      ∀ names, Node.item? (tenure.placeOf directory' ++ names)
          (after directory.release tenure.site).disk.top =
        Node.item? (tenure.placeOf directory' ++ names) tenure.site.disk.top

/-! ## The invariant -/

/-- Where a local directory lies, and whether it is a replica. -/
structure Lies (last : Nat) (kind : Kind) (directory : LocalDirectory) : Prop where
  in_place : kind = .disk → directory.owned = false
  replica : kind ≠ .disk → directory.owned = true ∧
    ∃ number ≤ last, directory.path = temporaryName number ∧ Fits number

/-- Numbers tell the local directories apart, and what has been released is known by its number. -/
structure Sound (tenure : Tenure) : Prop where
  serial_lt : ∀ {index kind directory}, tenure.At index kind directory →
    directory.serial < tenure.site.serials.next
  serial_ne : ∀ {index index' kind kind' directory directory'}, tenure.At index kind directory →
    tenure.At index' kind' directory' → index ≠ index' → directory.serial ≠ directory'.serial
  lies : ∀ {index kind directory}, tenure.At index kind directory →
    Lies tenure.site.lastTemporary kind directory
  path_ne : ∀ {index index' kind kind' directory directory'}, tenure.At index kind directory →
    tenure.At index' kind' directory' → index ≠ index' → kind ≠ .disk → kind' ≠ .disk →
      directory.path ≠ directory'.path
  released_lt : ∀ index ∈ tenure.released, index < tenure.handed.length
  released_iff : ∀ {index kind directory}, tenure.At index kind directory →
    directory.owned = true →
      (directory.serial ∈ tenure.site.serials.released ↔ index ∈ tenure.released)

theorem temporaryName_injective {number other : Nat}
    (h : temporaryName number = temporaryName other) : number = other := by
  have hsame : (toString number).toList = (toString other).toList := List.append_cancel_left h
  have hdigits : Nat.toDigits 10 number = Nat.toDigits 10 other := by simpa [toString] using hsame
  have hvalue := congrArg (Nat.ofDigitChars 10 · 0) hdigits
  simpa using hvalue

theorem sound_start (site : Site) : Sound { site } where
  serial_lt h := by cases h
  serial_ne h := by cases h
  lies h := by cases h
  path_ne h := by cases h
  released_lt := nofun
  released_iff h := by cases h

variable {tenure : Tenure}

/-- What gives no number again and releases nothing changes nothing that is known. -/
theorem Sound.aside (h : Sound tenure) {site : Site} (haside : Site.Aside tenure.site site) :
    Sound { tenure with site } where
  serial_lt hat := Nat.lt_of_lt_of_le (h.serial_lt hat) haside.next_le
  serial_ne := h.serial_ne
  lies {index kind directory} hat :=
    { in_place := (h.lies hat).in_place
      replica := fun hkind => by
        obtain ⟨howned, number, hle, hplace⟩ := (h.lies hat).replica hkind
        exact ⟨howned, number, Nat.le_trans hle haside.last_le, hplace⟩ }
  path_ne := h.path_ne
  released_lt := h.released_lt
  released_iff hat howned :=
    (haside.released_iff _ (h.serial_lt hat)).trans (h.released_iff hat howned)

theorem at_append {index : Nat} {kind kind' : Kind} {directory directory' : LocalDirectory}
    {site : Site}
    (h : At { tenure with site, handed := tenure.handed ++ [(kind', directory')] }
      index kind directory) :
    tenure.At index kind directory ∨
      index = tenure.handed.length ∧ kind = kind' ∧ directory = directory' := by
  unfold At at h ⊢
  rcases Nat.lt_trichotomy index tenure.handed.length with hlt | rfl | hgt
  · rw [List.getElem?_append_left hlt] at h
    exact Or.inl h
  · rw [List.getElem?_concat_length] at h
    cases h
    exact Or.inr ⟨rfl, rfl, rfl⟩
  · rw [List.getElem?_eq_none (by simp; omega)] at h
    cases h

/-- A directory that is handed out has numbers that no earlier one has. -/
theorem Sound.hand (h : Sound tenure) {kind : Kind} {directory : LocalDirectory} {site : Site}
    (hhanded : directory.Handed kind tenure.site site) :
    Sound { tenure with site, handed := tenure.handed ++ [(kind, directory)] } := by
  have hkept := h.aside hhanded.aside
  have hserial {index : Nat} {kind' : Kind} {directory' : LocalDirectory}
      (hat : tenure.At index kind' directory') : directory'.serial ≠ directory.serial :=
    Nat.ne_of_lt (Nat.lt_of_lt_of_le (h.serial_lt hat) hhanded.le)
  have hpath {index : Nat} {kind' : Kind} {directory' : LocalDirectory}
      (hat : tenure.At index kind' directory') (hkind' : kind' ≠ .disk) (hkind : kind ≠ .disk) :
      directory'.path ≠ directory.path := by
    obtain ⟨-, number', hle, hpath', -⟩ := (h.lies hat).replica hkind'
    obtain ⟨-, number, hlt, -, hpath, -⟩ := hhanded.replica hkind
    rw [hpath, hpath']
    exact fun heq => absurd (temporaryName_injective heq) (by omega)
  constructor
  · intro index kind' directory' hat
    rcases at_append hat with hold | ⟨-, rfl, rfl⟩
    · exact hkept.serial_lt hold
    · exact hhanded.lt
  · intro index index' kind₁ kind₂ directory₁ directory₂ hat hat' hne
    rcases at_append hat with hold | ⟨rfl, rfl, rfl⟩
    · rcases at_append hat' with hold' | ⟨-, rfl, rfl⟩
      · exact h.serial_ne hold hold' hne
      · exact hserial hold
    · rcases at_append hat' with hold' | ⟨rfl, -, -⟩
      · exact (hserial hold').symm
      · exact absurd rfl hne
  · intro index kind' directory' hat
    rcases at_append hat with hold | ⟨-, rfl, rfl⟩
    · exact hkept.lies hold
    · refine ⟨hhanded.in_place, fun hkind => ?_⟩
      obtain ⟨howned, number, -, hle, hplace⟩ := hhanded.replica hkind
      exact ⟨howned, number, hle, hplace⟩
  · intro index index' kind₁ kind₂ directory₁ directory₂ hat hat' hne hkind₁ hkind₂
    rcases at_append hat with hold | ⟨rfl, rfl, rfl⟩
    · rcases at_append hat' with hold' | ⟨-, rfl, rfl⟩
      · exact h.path_ne hold hold' hne hkind₁ hkind₂
      · exact hpath hold hkind₁ hkind₂
    · rcases at_append hat' with hold' | ⟨rfl, -, -⟩
      · exact (hpath hold' hkind₂ hkind₁).symm
      · exact absurd rfl hne
  · intro index hindex
    have hlt := h.released_lt index hindex
    simp only [List.length_append]
    omega
  · intro index kind' directory' hat howned
    rcases at_append hat with hold | ⟨rfl, rfl, rfl⟩
    · exact hkept.released_iff hold howned
    · exact iff_of_false hhanded.kept fun hindex => Nat.lt_irrefl _ (h.released_lt _ hindex)

/-- A release marks the directory at its position, and no other one. -/
theorem Sound.release (h : Sound tenure) {index : Nat} {kind : Kind} {directory : LocalDirectory}
    (hat : tenure.At index kind directory) :
    Sound { tenure with
      site := after directory.release tenure.site
      released := index :: tenure.released } := by
  have hreleases := LocalDirectory.keeps_releases directory tenure.site
  constructor
  · exact fun hat' => Nat.lt_of_lt_of_le (h.serial_lt hat') hreleases.next_le
  · exact h.serial_ne
  · intro index' kind' directory' hat'
    dsimp only
    rw [hreleases.last_eq]
    exact h.lies hat'
  · exact h.path_ne
  · intro index' hindex'
    rcases List.mem_cons.1 hindex' with rfl | hindex'
    · exact (List.getElem?_eq_some_iff.1 hat).1
    · exact h.released_lt index' hindex'
  · intro index' kind' directory' hat' howned
    dsimp only
    rw [hreleases.released_iff, List.mem_cons, ← h.released_iff hat' howned]
    refine or_congr ?_ Iff.rfl
    constructor
    · rintro ⟨-, heq⟩
      exact Decidable.byContradiction fun hne => h.serial_ne hat' hat hne heq
    · rintro rfl
      cases hat.symm.trans hat'
      exact ⟨howned, rfl⟩

theorem Sound.next (h : Sound tenure) (deed : Deed) : Sound (tenure.next deed) := by
  cases deed with
  | localize kind path =>
      have hends := Backend.localize_ends kind path tenure.site
      have hstart : Site.SameNumbers tenure.site tenure.site := refl_of _ tenure.site
      rw [Tenure.next]
      cases hrun : Backend.localize kind path tenure.site with
      | ok directory site => exact h.hand (hends.ok hstart hrun)
      | error failure site => exact h.aside (hends.error hstart hrun)
  | release index =>
      rw [Tenure.next]
      cases hat : tenure.handed[index]? with
      | none => exact h
      | some entry => exact h.release hat
  | other action haside => exact h.aside (haside tenure.site)

theorem Sound.run (h : Sound tenure) (deeds : List Deed) : Sound (tenure.run deeds) := by
  induction deeds generalizing tenure with
  | nil => exact h
  | cons deed deeds ih => exact ih (h.next deed)

/-! ## Ownership -/

theorem Sound.again (h : Sound tenure) {index : Nat} {kind : Kind} {directory : LocalDirectory}
    (hat : tenure.At index kind directory) (hreleased : index ∈ tenure.released) :
    directory.release tenure.site = .ok () tenure.site := by
  refine LocalDirectory.release_idle ?_
  cases howned : directory.owned with
  | false => exact Or.inl rfl
  | true => exact Or.inr ((h.released_iff hat howned).2 hreleased)

theorem Sound.first (h : Sound tenure) {index : Nat} {kind : Kind} {directory : LocalDirectory}
    (hat : tenure.At index kind directory) (hkind : kind ≠ .disk)
    (hindex : index ∉ tenure.released) :
    LocalDirectory.FirstRelease (tenure.placeOf directory) tenure.site.disk
      (directory.release tenure.site) := by
  obtain ⟨howned, number, -, hpath, hfits⟩ := (h.lies hat).replica hkind
  have hnot := mt (h.released_iff hat howned).1 hindex
  have hfirst := LocalDirectory.release_first howned hnot hpath hfits
  rwa [placeOf, hpath, Disk.placeOf_temporaryName]

/-- A replica does not lie in another one. -/
theorem Sound.not_within (h : Sound tenure) {index index' : Nat} {kind kind' : Kind}
    {directory directory' : LocalDirectory} (hat : tenure.At index kind directory)
    (hat' : tenure.At index' kind' directory') (hne : index ≠ index') (hkind : kind ≠ .disk)
    (hkind' : kind' ≠ .disk) (names : List Text) :
    ¬ tenure.placeOf directory <+: tenure.placeOf directory' ++ names := by
  obtain ⟨-, number, -, hpath, -⟩ := (h.lies hat).replica hkind
  obtain ⟨-, number', -, hpath', -⟩ := (h.lies hat').replica hkind'
  have hpaths := h.path_ne hat hat' hne hkind hkind'
  rw [placeOf, placeOf, hpath, hpath', Disk.placeOf_temporaryName, Disk.placeOf_temporaryName]
  intro hprefix
  have hname : folderName number = folderName number' := by
    simpa [Disk.temporaryPlace, Disk.temporaryEntry, Disk.Entry.full] using hprefix
  rw [hpath, hpath', temporaryName_eq_append, temporaryName_eq_append, hname] at hpaths
  exact hpaths rfl

theorem Sound.owned (h : Sound tenure) : Owned tenure where
  distinct := h.path_ne
  in_place hat := LocalDirectory.release_idle (Or.inl ((h.lies hat).in_place rfl))
  again := h.again
  first := h.first
  apart {index index' kind kind' directory directory'} hat hat' hne hkind hkind' names := by
    by_cases hindex : index ∈ tenure.released
    · rw [after_ok (h.again hat hindex)]
    · exact (h.first hat hkind hindex).spares _ (h.not_within hat hat' hne hkind hkind' names)

/--
However directories are localized and released in a session, and whatever else is done: replicas
have paths of their own, the first release of one removes exactly what lies there, every other
release changes nothing, and so does that of a directory that is used in place.
-/
theorem run_owned (site : Site) (deeds : List Deed) : Owned (run { site } deeds) :=
  ((sound_start site).run deeds).owned

end Tenure

end ArtifactDepot
