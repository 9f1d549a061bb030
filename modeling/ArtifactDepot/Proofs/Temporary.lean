import ArtifactDepot.Proofs.Removal
import ArtifactDepot.Local.Operations

/-!
# Temporary directories

A temporary directory is made under the first name that is free.  From then
on the disk is the old one with a node put in its place, and removing the
directory gives the old disk back, unless the directories in it lie too deep
inside each other: `Local.makeTemporary_cases` and
`Disk.HasRoom.removeTree_temporary`.
-/

namespace ArtifactDepot

open Text (slash)
open ArtifactDepot.Action

namespace Local

/-- The name of a temporary directory in the directory of all of them. -/
def folderName (number : Nat) : Text := "folder".toList ++ (toString number).toList

/-- The names that lead to a temporary directory from the working directory. -/
def temporaryNames (number : Nat) : List Text := ["scratch".toList, folderName number]

/-- The number of a directory is written with digits. -/
theorem mem_folderName {number : Nat} {c : Char} (h : c ∈ folderName number) :
    c ∈ "folder".toList ∨ c.isDigit = true := by
  apply (List.mem_append.1 h).imp_right
  intro hmem
  exact Nat.isDigit_of_mem_toDigits (b := 10) (n := number) (by decide) (by decide)
    (by simpa [toString] using hmem)

theorem solid_folderName (number : Nat) : folderName number ≠ [] ∧ slash ∉ folderName number := by
  constructor
  · exact List.append_ne_nil_of_left_ne_nil (s := "folder".toList) (by decide) _
  · intro hmem
    have hcases := mem_folderName hmem
    revert hcases
    decide

theorem solid_temporaryNames (number : Nat) : Text.Solid (temporaryNames number) := by
  intro name hname
  rcases List.mem_cons.1 hname with rfl | hname
  · decide
  · rw [List.mem_singleton.1 hname]
    exact solid_folderName number

/-- The name of a temporary directory is one of the directory of all of them. -/
theorem temporaryName_eq_append (number : Nat) :
    temporaryName number = ("scratch".toList ++ [slash]) ++ folderName number := by
  have hfront : "scratch/folder".toList = ("scratch".toList ++ [slash]) ++ "folder".toList := by
    decide
  unfold temporaryName folderName
  rw [hfront, List.append_assoc]

/-- A temporary directory is named by the way to it. -/
theorem temporaryName_eq (number : Nat) :
    temporaryName number = Text.join (temporaryNames number) := by
  rw [temporaryName_eq_append, temporaryNames, Text.join, Text.join, List.append_assoc,
    List.singleton_append]

theorem isRoot_temporaryName (number : Nat) : Path.IsRoot (temporaryName number) := by
  rw [temporaryName_eq_append]
  exact .append_name _ (solid_folderName number)

/-- What lies in a temporary directory is named by the way to it as well. -/
theorem below_temporaryName (number : Nat) (names : List Text) :
    Path.below (temporaryName number) names = Text.join (temporaryNames number ++ names) := by
  rw [temporaryName_eq, temporaryNames, List.cons_append, Path.join_eq_below, Path.join_eq_below,
    ← Path.below_append]

theorem solidComponents_temporaryName (number : Nat) :
    Text.solidComponents (temporaryName number) = temporaryNames number := by
  rw [temporaryName_eq, Text.solidComponents_join (solid_temporaryNames number)]

/-- The name of a temporary directory can be given to the system. -/
theorem noNul_temporaryName (number : Nat) : '\x00' ∉ temporaryName number := by
  rw [temporaryName_eq_append]
  intro hmem
  rcases List.mem_append.1 hmem with hmem | hmem
  · revert hmem
    decide
  · have hcases := mem_folderName hmem
    revert hcases
    decide

theorem temporaryName_relative (number : Nat) : Path.isAbsolute (temporaryName number) = false := by
  rw [temporaryName_eq]
  exact Text.join_not_open (solid_temporaryNames number)

/-- The system takes the name of the temporary directory with the number. -/
structure Fits (number : Nat) : Prop where
  passes : Disk.Passes (temporaryName number)
  ordinary : Disk.Ordinary (folderName number)

end Local

open Local

namespace Disk

/-- The entry of a temporary directory. -/
def temporaryEntry (disk : Disk) (number : Nat) : Entry :=
  ⟨disk.home ++ ["scratch".toList], folderName number⟩

/-- The place of a temporary directory. -/
def temporaryPlace (disk : Disk) (number : Nat) : List Text := (disk.temporaryEntry number).full

/-- The place to which the components of a path lead if each is a name. -/
def placeOf (disk : Disk) (path : Text) : List Text := disk.start path ++ Text.solidComponents path

theorem placeOf_temporaryName (disk : Disk) (number : Nat) :
    disk.placeOf (temporaryName number) = disk.temporaryPlace number := by
  rw [placeOf, start_eq (temporaryName_relative number), solidComponents_temporaryName]
  simp [temporaryPlace, temporaryEntry, Entry.full, temporaryNames]

/-- The place of a temporary directory is seen from the working directory. -/
theorem temporaryPlace_append (disk : Disk) (number : Nat) (names : List Text) :
    disk.temporaryPlace number ++ names = disk.home ++ (temporaryNames number ++ names) := by
  simp [temporaryPlace, temporaryEntry, Entry.full, temporaryNames]

/-- The name of the directory of all temporary ones is ordinary. -/
theorem ordinary_scratch : Ordinary "scratch".toList := by decide

/-- A name that the system takes leads to the place of the temporary directory. -/
theorem leadsTo_temporary {number : Nat} (h : Fits number) :
    LeadsTo (temporaryName number) ["scratch".toList] (folderName number) where
  passes := h.passes
  relative := temporaryName_relative number
  closed := (isRoot_temporaryName number).2
  components := solidComponents_temporaryName number
  ordinary name hname := by
    rcases List.mem_append.1 hname with hname | hname
    · rw [List.mem_singleton.1 hname]
      exact ordinary_scratch
    · rw [List.mem_singleton.1 hname]
      exact h.ordinary

/-- A temporary directory with the number can be made. -/
structure HasRoom (disk : Disk) (number : Nat) : Prop where
  passes : Passes (temporaryName number)
  stands : disk.Stands (disk.home ++ ["scratch".toList])
  ordinary : Ordinary (folderName number)
  free : disk.entryNode? (disk.temporaryEntry number) = none

variable {disk disk' : Disk} {number : Nat}

theorem HasRoom.fits (h : disk.HasRoom number) : Fits number := ⟨h.passes, h.ordinary⟩

/-- Room for a temporary directory is a free place for a node. -/
theorem HasRoom.vacant (h : disk.HasRoom number) : disk.Vacant (disk.temporaryEntry number) :=
  ⟨h.stands.directory, h.free⟩

/-- A directory in which a call succeeds is there. -/
theorem stands_of_locateTarget {path name last : Text} {target : Target} (hname : Ordinary name)
    (hrelative : Path.isAbsolute path = false)
    (hpath : Text.solidComponents path = [name, last])
    (htarget : disk.locateTarget path = .ok target) : disk.Stands (disk.home ++ [name]) := by
  have hwalk : disk.walk (disk.start path) [name] = disk.follow disk.home name := by
    rw [start_eq hrelative, walk, List.foldlM_cons]
    exact bind_pure _
  simp only [locateTarget, hpath, List.getLast?_cons_cons, List.getLast?_singleton,
    List.dropLast_cons_cons, List.dropLast_singleton, hwalk] at htarget
  cases hstep : disk.follow disk.home name with
  | error refusal =>
      rw [hstep] at htarget
      cases htarget
  | ok place =>
      obtain ⟨rfl, node, hnode⟩ := find?_of_follow hname hstep
      rw [hstep] at htarget
      cases hthere : disk.isDirectoryAt (disk.home ++ [name]) with
      | false => simp [bind, Except.bind, hthere] at htarget
      | true =>
          refine ⟨⟨node, hnode, by simpa [isDirectoryAt, hnode] using hthere⟩,
            fun other hother => ?_⟩
          rcases List.mem_append.1 hother with hother | hother
          · exact disk.home_ordinary other hother
          · rw [List.mem_singleton.1 hother]
            exact hname

/-- The disk with a disk of its own in the place of a temporary directory. -/
def hosting (disk : Disk) (number : Nat) (replica : Disk) : Disk :=
  disk.putEntry replica.top (disk.temporaryEntry number)

@[simp] theorem hosting_home (disk : Disk) (number : Nat) (replica : Disk) :
    (disk.hosting number replica).home = disk.home := rfl

/-- An empty directory as a disk of its own. -/
def blank : Disk where top := .directory directoryMode 0 []

/-- A temporary directory is made just when there is room for it. -/
theorem makeDirectory_temporary_ok_iff :
    disk.makeDirectory (temporaryName number) directoryMode = .ok disk' ↔
      disk.HasRoom number ∧ disk' = disk.hosting number blank := by
  have hrelative := temporaryName_relative number
  have hpath : Text.solidComponents (temporaryName number) =
      ["scratch".toList] ++ [folderName number] := solidComponents_temporaryName number
  constructor
  · intro hmake
    have hstands : disk.Stands (disk.home ++ ["scratch".toList]) := by
      cases hlocate : disk.locateTarget (temporaryName number) with
      | ok target => exact stands_of_locateTarget ordinary_scratch hrelative hpath hlocate
      | error refusal =>
          have htarget : disk.directoryTarget (temporaryName number) = .error refusal := by
            rw [directoryTarget, hlocate]
            rfl
          cases hcall : call (temporaryName number) (disk.directoryTarget (temporaryName number)) with
          | error incident =>
              rw [makeDirectory, hcall] at hmake
              cases hmake
          | ok entry =>
              have hentry := (call_ok_iff.1 hcall).2
              rw [htarget] at hentry
              cases hentry
    obtain ⟨hpasses, hordinary, hfree, hdisk⟩ :=
      (makeDirectory_ok_iff hrelative hpath hstands).1 hmake
    exact ⟨⟨hpasses, hstands, hordinary, hfree⟩, hdisk⟩
  · rintro ⟨hroom, hdisk⟩
    exact (makeDirectory_ok_iff hrelative hpath hroom.stands).2
      ⟨hroom.passes, hroom.ordinary, hroom.free, hdisk⟩

namespace HasRoom

variable {replica : Disk} {names : List Text} {last : Text}

/-! ## Inside of a temporary directory -/

/-- What lies in a temporary directory is what its replica holds. -/
theorem find?_hosting (h : disk.HasRoom number) (replica : Disk) (names : List Text) :
    (disk.hosting number replica).find? (disk.temporaryPlace number ++ names) =
      replica.find? names :=
  find?_putEntry (disk.temporaryEntry number) h.vacant.parent replica.top names

/-- Taking a temporary directory away gives back the disk on which it was made. -/
theorem dropEntry_hosting (h : disk.HasRoom number) (replica : Disk) :
    (disk.hosting number replica).dropEntry (disk.temporaryEntry number) = disk :=
  dropEntry_putEntry h.vacant replica.top

/-- Something made in a temporary directory is made in its replica. -/
theorem hosting_putEntry (h : disk.HasRoom number) (replica : Disk) (node : Node)
    (names : List Text) (last : Text) :
    (disk.hosting number replica).putEntry node ⟨disk.temporaryPlace number ++ names, last⟩ =
      disk.hosting number (replica.putEntry node ⟨names, last⟩) :=
  update_putEntry h.vacant.parent replica.top names (Node.withEntry last node)

/-- What stands in a replica stands in the temporary directory. -/
theorem stands_below (h : disk.HasRoom number) (hnames : replica.Stands names) :
    (disk.hosting number replica).Stands (disk.home ++ (temporaryNames number ++ names)) := by
  rw [← temporaryPlace_append]
  obtain ⟨found, hfound, hdirectory⟩ := hnames.directory
  refine ⟨⟨found, (h.find?_hosting replica names).trans hfound, hdirectory⟩, fun name hname => ?_⟩
  rcases List.mem_append.1 hname with hname | hname
  · rcases List.mem_append.1 hname with hname | hname
    · exact h.stands.ordinary name hname
    · rw [List.mem_singleton.1 hname]
      exact h.ordinary
  · exact hnames.ordinary name hname

/-- The components of a path into a temporary directory. -/
theorem solidComponents_below (number : Nat) (hnames : Text.Solid names) :
    Text.solidComponents (Path.below (temporaryName number) names) =
      temporaryNames number ++ names := by
  rw [Path.solidComponents_below _ hnames, solidComponents_temporaryName]

theorem below_relative (number : Nat) (hnames : Text.Solid names) :
    Path.isAbsolute (Path.below (temporaryName number) names) = false := by
  rw [below_temporaryName]
  exact Text.join_not_open ((solid_temporaryNames number).append hnames)

/-- A directory is made in a temporary one as in its replica. -/
theorem makeDirectory_ok_iff (h : disk.HasRoom number) (hsolid : Text.Solid (names ++ [last]))
    (hstands : replica.Stands names) {mode : Nat} :
    (disk.hosting number replica).makeDirectory
        (Path.below (temporaryName number) (names ++ [last])) mode = .ok disk' ↔
      Passes (Path.below (temporaryName number) (names ++ [last])) ∧ Ordinary last ∧
        replica.find? (names ++ [last]) = none ∧
          disk' = disk.hosting number (replica.putEntry (.directory mode 0 []) ⟨names, last⟩) := by
  have hpath := solidComponents_below number hsolid
  rw [← List.append_assoc] at hpath
  rw [Disk.makeDirectory_ok_iff (below_relative number hsolid) hpath (h.stands_below hstands),
    hosting_home, ← temporaryPlace_append, List.append_assoc, h.find?_hosting, h.hosting_putEntry]

/-- A file is written into a temporary directory as into its replica. -/
theorem write_ok (h : disk.HasRoom number) (hsolid : Text.Solid (names ++ [last]))
    (hstands : replica.Stands names) {content : ByteArray}
    (hwrite : (disk.hosting number replica).write
      (Path.below (temporaryName number) (names ++ [last])) content = .ok disk') :
    Passes (Path.below (temporaryName number) (names ++ [last])) ∧ Ordinary last ∧
      (∀ node, replica.find? (names ++ [last]) = some node → node.isDirectory = false) ∧
        disk' = disk.hosting number (replica.putEntry (.file content 0) ⟨names, last⟩) := by
  have hpath := solidComponents_below number hsolid
  rw [← List.append_assoc] at hpath
  obtain ⟨hpasses, hlast, hfile, hdisk⟩ := Disk.write_ok (below_relative number hsolid) hpath
    (by simp [temporaryNames]) (h.stands_below hstands) hwrite
  rw [List.append_assoc, ← below_temporaryName] at hpasses
  rw [hosting_home, ← temporaryPlace_append, List.append_assoc, h.find?_hosting] at hfile
  rw [hosting_home, ← temporaryPlace_append, h.hosting_putEntry] at hdisk
  exact ⟨hpasses, hlast, hfile, hdisk⟩

/-- A file is written under an ordinary name that nothing has in the replica. -/
theorem write_eq (h : disk.HasRoom number) (hsolid : Text.Solid (names ++ [last]))
    (hstands : replica.Stands names) (content : ByteArray)
    (hpasses : Passes (Path.below (temporaryName number) (names ++ [last])))
    (hlast : Ordinary last) (hfree : replica.find? (names ++ [last]) = none) :
    (disk.hosting number replica).write
        (Path.below (temporaryName number) (names ++ [last])) content =
      .ok (disk.hosting number (replica.putEntry (.file content 0) ⟨names, last⟩)) := by
  have hplaces : Text.Solid ((temporaryNames number ++ names) ++ [last]) := by
    rw [List.append_assoc]
    exact (solid_temporaryNames number).append hsolid
  rw [below_temporaryName, ← List.append_assoc] at hpasses ⊢
  rw [Disk.write_eq hplaces (h.stands_below hstands) hlast hpasses, hosting_home,
    ← temporaryPlace_append, h.hosting_putEntry]
  rw [hosting_home, ← temporaryPlace_append, List.append_assoc, h.find?_hosting, hfree]

/-! ## Removing -/

/-- Removing a temporary directory gives back the disk on which it was made. -/
theorem removeTree_temporary (h : disk.HasRoom number) (hreplica : replica.Stands []) :
    DiskAction.removeTree (temporaryName number) (disk.hosting number replica) =
      match replica.top.spare disk.before disk.reach with
      | some rest => .error .stackExhausted (disk.putEntry rest (disk.temporaryEntry number))
      | none => .ok () disk := by
  obtain ⟨top, htop, hdirectory⟩ := hreplica.directory
  cases htop
  have hfound := h.find?_hosting replica []
  rw [List.append_nil] at hfound
  have hremove := (leadsTo_temporary h.fits).removeTree_eq hfound hdirectory
  rw [hremove]
  change (match replica.top.spare disk.before disk.reach with
    | some rest => _
    | none => _) = _
  cases replica.top.spare disk.before disk.reach with
  | some rest => exact congrArg (EStateM.Result.error _) (putEntry_putEntry disk rest _ _)
  | none => exact congrArg (EStateM.Result.ok ()) (h.dropEntry_hosting replica)

end HasRoom

end Disk

namespace Local

/-- The site with an empty directory where there was room for a temporary one. -/
def withTemporary (site : Site) (number : Nat) : Site :=
  { site.withDisk (site.disk.hosting number .blank) with lastTemporary := number }

/-- A temporary directory is made under a number that was not tried before, or nothing is made. -/
theorem tryTemporary_cases (attempts : Nat) (site : Site) :
    (∃ number, site.lastTemporary < number ∧ site.disk.HasRoom number ∧
        tryTemporary attempts site = .ok (temporaryName number) (withTemporary site number)) ∨
      ∃ failure last,
        tryTemporary attempts site = .error failure { site with lastTemporary := last } := by
  induction attempts generalizing site with
  | zero => exact Or.inr ⟨_, site.lastTemporary, rfl⟩
  | succ attempts ih =>
      simp only [tryTemporary]
      split
      · next disk hmake =>
          obtain ⟨hroom, rfl⟩ := Disk.makeDirectory_temporary_ok_iff.1 hmake
          exact Or.inl ⟨site.lastTemporary + 1, Nat.lt_succ_self _, hroom, rfl⟩
      · -- The name was taken: the next number is tried, on the same disk.
        rcases ih { site with lastTemporary := site.lastTemporary + 1 } with
          ⟨number, hlater, hroom, hrun⟩ | ⟨failure, last, hrun⟩
        · exact Or.inl ⟨number, Nat.lt_of_succ_lt hlater, hroom, hrun⟩
        · exact Or.inr ⟨failure, last, hrun⟩
      · exact Or.inr ⟨_, site.lastTemporary + 1, rfl⟩

/-- An operation fails exactly if it does so before its failure is reported. -/
theorem refused_error {α : Type} (wrap : Incident → Fault) {action : Action α} {site site' : Site}
    {failure : Failure} (h : action site = .error failure site') :
    ∃ reported, refused wrap action site = .error reported site' := by
  rw [refused, recover_error h]
  cases failure with
  | fault fault => exact ⟨_, rfl⟩
  | incident incident => cases incident <;> exact ⟨_, rfl⟩

/-- The same with the failure that the backend reports. -/
theorem makeTemporary_cases (site : Site) :
    (∃ number, site.lastTemporary < number ∧ site.disk.HasRoom number ∧
        makeTemporary site = .ok (temporaryName number) (withTemporary site number)) ∨
      ∃ failure last,
        makeTemporary site = .error failure { site with lastTemporary := last } := by
  rcases tryTemporary_cases temporaryAttempts site with
    ⟨number, hlater, hroom, hrun⟩ | ⟨failure, last, hrun⟩
  · exact Or.inl ⟨number, hlater, hroom, recover_ok hrun⟩
  · obtain ⟨reported, hreported⟩ := refused_error .noTemporaryDirectory hrun
    exact Or.inr ⟨reported, last, hreported⟩

/-- If there is room under the next number, that directory is made. -/
theorem makeTemporary_next {site : Site} (hroom : site.disk.HasRoom (site.lastTemporary + 1)) :
    makeTemporary site = .ok (temporaryName (site.lastTemporary + 1))
      (withTemporary site (site.lastTemporary + 1)) := by
  have htry (attempts : Nat) : tryTemporary (attempts + 1) site =
      .ok (temporaryName (site.lastTemporary + 1))
        (withTemporary site (site.lastTemporary + 1)) := by
    have hmake := Disk.makeDirectory_temporary_ok_iff.2 ⟨hroom, rfl⟩
    simp only [tryTemporary, hmake]
    rfl
  exact recover_ok (htry 9999)

/-- Which temporary directory is made is decided by the disk and by what was tried before. -/
theorem tryTemporary_congr {attempts : Nat} {site other made : Site} {name : Text}
    (hdisk : other.disk = site.disk) (hlast : other.lastTemporary = site.lastTemporary)
    (h : tryTemporary attempts site = .ok name made) :
    ∃ made', tryTemporary attempts other = .ok name made' := by
  induction attempts generalizing site other with
  | zero => cases h
  | succ attempts ih =>
      simp only [tryTemporary] at h ⊢
      rw [hdisk, hlast]
      split at h
      · cases h
        exact ⟨_, rfl⟩
      · -- The name was taken, and it is on the other disk.
        refine ih ?_ ?_ h
        · rfl
        · rfl
      · cases h

/-- The directory that can be made on a site can be made on every other with the same disk. -/
theorem makeTemporary_congr {site other made : Site} {name : Text}
    (hdisk : other.disk = site.disk) (hlast : other.lastTemporary = site.lastTemporary)
    (h : makeTemporary site = .ok name made) :
    ∃ number, name = temporaryName number ∧ other.lastTemporary < number ∧
      other.disk.HasRoom number ∧
        makeTemporary other = .ok (temporaryName number) (withTemporary other number) := by
  have htry : tryTemporary temporaryAttempts site = .ok name made := by
    cases hrun : tryTemporary temporaryAttempts site with
    | ok found site' =>
        have hmade : makeTemporary site = .ok found site' := recover_ok hrun
        rw [h] at hmade
        cases hmade
        rfl
    | error failure site' =>
        obtain ⟨reported, hreported⟩ := refused_error .noTemporaryDirectory hrun
        have hmade : makeTemporary site = .error reported site' := hreported
        rw [h] at hmade
        cases hmade
  obtain ⟨made', hother⟩ := tryTemporary_congr hdisk hlast htry
  have hmake : makeTemporary other = .ok name made' := recover_ok hother
  rcases makeTemporary_cases other with ⟨number, hlater, hroom, hrun⟩ | ⟨failure, last, hrun⟩
  · have hname := hmake.symm.trans hrun
    cases hname
    exact ⟨number, rfl, hlater, hroom, hrun⟩
  · rw [hrun] at hmake
    cases hmake

end Local

end ArtifactDepot
