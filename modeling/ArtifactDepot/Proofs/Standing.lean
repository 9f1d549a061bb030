import ArtifactDepot.Proofs.Below
import ArtifactDepot.Proofs.Graft
import Mathlib.Data.List.Induction

/-!
# Making things in a directory that stands

A directory stands at a place that a path can name without standing for
something else on the way.  What is asked of the system in such a directory
comes down to the last name: `Disk.makeDirectory_ok_iff`, `Disk.write_ok` and
`Disk.write_eq` say when the system grants it, and what becomes of the disk.
-/

namespace ArtifactDepot

open Text (slash)

namespace Disk

/-- There is a directory at a place, and ordinary names lead to it from the root. -/
structure Stands (disk : Disk) (names : List Text) : Prop where
  directory : ∃ node, disk.find? names = some node ∧ node.isDirectory = true
  ordinary : ∀ name ∈ names, Ordinary name

/-- The system takes the path at all. -/
structure Passes (path : Text) : Prop where
  noNul : '\x00' ∉ path
  nonempty : path ≠ []
  short : Text.byteLength path < pathLimit

variable {disk disk' : Disk} {path last : Text} {names place : List Text}

/-- The way to a directory that stands has solid names. -/
theorem Stands.solid (h : disk.Stands names) : Text.Solid names :=
  fun name hname => (h.ordinary name hname).solid

/-- A call is granted if the system takes the path and finds nothing against it. -/
theorem call_ok_iff {α : Type} {result : Except Refusal α} {value : α} :
    call path result = .ok value ↔ Passes path ∧ result = .ok value := by
  unfold call
  constructor
  · intro h
    split at h
    · cases h
    · next hnul =>
        split at h
        · cases h
        · next hempty =>
            split at h
            · cases h
            · next hlong =>
                have hpasses : Passes path :=
                  ⟨by simpa using hnul, by simpa using hempty, by omega⟩
                cases result with
                | error refusal => cases h
                | ok found =>
                    cases h
                    exact ⟨hpasses, rfl⟩
  · rintro ⟨⟨hnul, hempty, hshort⟩, rfl⟩
    have hshort' : ¬ pathLimit ≤ Text.byteLength path := by omega
    simp [hnul, hempty, hshort']

/-! ## Walking -/

/-- What is found in a place lies in a directory. -/
theorem isDirectoryAt_of_find? {name : Text} {node : Node}
    (h : disk.find? (place ++ [name]) = some node) : disk.isDirectoryAt place = true := by
  rw [find?, Node.find?_append] at h
  obtain ⟨parent, hparent, hchild⟩ := Option.bind_eq_some_iff.1 h
  have hfind : disk.find? place = some parent := hparent
  rw [isDirectoryAt, hfind]
  cases parent with
  | file content modified => cases hchild
  | directory mode modified entries => rfl

/-- An ordinary name leads to what is found under it. -/
theorem follow_ok {name : Text} {node : Node} (hname : Ordinary name)
    (h : disk.find? (place ++ [name]) = some node) :
    disk.follow place name = .ok (place ++ [name]) := by
  have hshort : ¬ nameLimit < Text.byteLength name := by
    have := hname.short
    omega
  simp only [follow, isDirectoryAt_of_find? h, Bool.not_true, Bool.false_eq_true, if_false,
    if_neg hname.ne_self, if_neg hname.ne_parent, enter, if_neg hshort, h]

/-- Ordinary names lead to what is found at their place. -/
theorem walk_ok {node : Node} (hnames : ∀ name ∈ names, Ordinary name)
    (h : disk.find? (place ++ names) = some node) :
    disk.walk place names = .ok (place ++ names) := by
  induction names generalizing place with
  | nil =>
      rw [List.append_nil]
      rfl
  | cons name names ih =>
      rw [List.append_cons] at h
      have hlonger := h
      rw [find?, Node.find?_append] at hlonger
      obtain ⟨child, hchild, -⟩ := Option.bind_eq_some_iff.1 hlonger
      have hstep := follow_ok (hnames name (List.mem_cons_self ..)) hchild
      have hrest := ih (fun other hother => hnames other (List.mem_cons_of_mem _ hother)) h
      rw [← List.append_cons] at hrest
      rw [walk, List.foldlM_cons, hstep]
      exact hrest

/-- A directory that stands can be walked to from every one above it. -/
theorem Stands.walk_eq (h : disk.Stands (place ++ names)) :
    disk.walk place names = .ok (place ++ names) := by
  obtain ⟨node, hnode, -⟩ := h.directory
  exact walk_ok (fun name hname => h.ordinary name (List.mem_append_right _ hname)) hnode

theorem Stands.isDirectoryAt (h : disk.Stands names) :
    disk.isDirectoryAt names = true := by
  obtain ⟨node, hnode, hdirectory⟩ := h.directory
  simp [Disk.isDirectoryAt, hnode, hdirectory]

/-- A directory that stands lies in one that stands. -/
theorem Stands.above (h : disk.Stands (names ++ [last])) : disk.Stands names := by
  obtain ⟨node, hnode, -⟩ := h.directory
  have hdirectory := isDirectoryAt_of_find? hnode
  refine ⟨?_, fun name hname => h.ordinary name (List.mem_append_left _ hname)⟩
  cases hparent : disk.find? names with
  | none => simp [Disk.isDirectoryAt, hparent] at hdirectory
  | some parent =>
      refine ⟨parent, rfl, ?_⟩
      simpa [Disk.isDirectoryAt, hparent] using hdirectory

/-- Every directory on the way to one that stands, stands. -/
theorem Stands.front {rest : List Text} (h : disk.Stands (names ++ rest)) : disk.Stands names := by
  induction rest using List.reverseRecOn with
  | nil => rwa [List.append_nil] at h
  | append_singleton rest name ih =>
      rw [← List.append_assoc] at h
      exact ih h.above

/-- Whether a directory stands is seen on the item at its place. -/
theorem Stands.of_item? (h : disk.Stands names)
    (hitem : Node.item? names disk'.top = Node.item? names disk.top) : disk'.Stands names := by
  obtain ⟨found, hfound, hdirectory⟩ := h.directory
  have hfind : Node.find? names disk.top = some found := hfound
  refine ⟨?_, h.ordinary⟩
  rw [Node.item?, Node.item?, hfind, Option.map_some] at hitem
  obtain ⟨kept, hkept, hsame⟩ := Option.map_eq_some_iff.1 hitem
  exact ⟨kept, hkept, Node.isDirectory_of_item hsame hdirectory⟩

/-- What is put where no directory lies leaves every directory standing. -/
theorem Stands.putEntry (h : disk.Stands names)
    (hfile : ∀ node, disk.find? (place ++ [last]) = some node → node.isDirectory = false)
    (node : Node) : (disk.putEntry node ⟨place, last⟩).Stands names := by
  have houtside : ¬ place ++ [last] <+: names := by
    rintro ⟨rest, rfl⟩
    obtain ⟨found, hfound, hdirectory⟩ := h.front.directory
    rw [hfile found hfound] at hdirectory
    cases hdirectory
  exact h.of_item? (item?_putEntry disk node ⟨place, last⟩ houtside)

/-- A directory that is put into one that stands, stands as well. -/
theorem Stands.putEntry_directory (h : disk.Stands names) (hlast : Ordinary last) (mode : Nat)
    (modified : Int) (entries : List (Text × Node)) :
    (disk.putEntry (.directory mode modified entries) ⟨names, last⟩).Stands (names ++ [last]) := by
  have hfound := find?_putEntry ⟨names, last⟩ h.directory
    (.directory mode modified entries) []
  rw [List.append_nil] at hfound
  refine ⟨⟨_, hfound, rfl⟩, fun name hname => ?_⟩
  rcases List.mem_append.1 hname with hname | hname
  · exact h.ordinary name hname
  · rw [List.mem_singleton.1 hname]
    exact hlast

/-- A path that does not start at the root is followed from the working directory. -/
theorem start_eq (hrelative : Path.isAbsolute path = false) : disk.start path = disk.home := by
  rw [start, show [slash].isPrefixOf path = false from hrelative]
  rfl

/-- The last name of a path into a directory that stands decides what the path is taken for. -/
theorem locateTarget_eq (hrelative : Path.isAbsolute path = false)
    (hpath : Text.solidComponents path = names ++ [last]) (h : disk.Stands (disk.home ++ names)) :
    disk.locateTarget path =
      if last = selfName then .ok .self
      else if last = parentName then .ok .parent
      else if nameLimit < Text.byteLength last then .error .nameTooLong
      else .ok (.named (disk.home ++ names) last) := by
  have hwalk : disk.walk (disk.start path) names = .ok (disk.home ++ names) := by
    rw [start_eq hrelative]
    exact h.walk_eq
  rw [locateTarget, hpath]
  simp only [List.getLast?_concat, List.dropLast_concat, hwalk, bind, Except.bind,
    h.isDirectoryAt, Bool.not_true, Bool.false_eq_true, if_false]

/-- The last name is a component. -/
theorem solid_last (hpath : Text.solidComponents path = names ++ [last]) :
    last ≠ [] ∧ slash ∉ last :=
  Text.solid_solidComponents path last (hpath ▸ List.mem_append_right _ (List.mem_singleton_self _))

/-- A name in a directory is what the path means just when the last name is ordinary. -/
theorem locateTarget_named (hrelative : Path.isAbsolute path = false)
    (hpath : Text.solidComponents path = names ++ [last]) (h : disk.Stands (disk.home ++ names))
    (hlast : Ordinary last) : disk.locateTarget path = .ok (.named (disk.home ++ names) last) := by
  have hshort : ¬ nameLimit < Text.byteLength last := by
    have := hlast.short
    omega
  rw [locateTarget_eq hrelative hpath h, if_neg hlast.ne_self, if_neg hlast.ne_parent,
    if_neg hshort]

/-- Where something can be made, the last name is ordinary. -/
theorem ordinary_of_named {found : List Text} {name : Text}
    (hrelative : Path.isAbsolute path = false)
    (hpath : Text.solidComponents path = names ++ [last]) (h : disk.Stands (disk.home ++ names))
    (htarget : disk.locateTarget path = .ok (.named found name)) : Ordinary last := by
  rw [locateTarget_eq hrelative hpath h] at htarget
  split at htarget
  · cases htarget
  · next hself =>
      split at htarget
      · cases htarget
      · next hparent =>
          split at htarget
          · cases htarget
          · next hshort => exact ⟨solid_last hpath, hself, hparent, by omega⟩

/-! ## Directories -/

/-- A directory can be made under an ordinary name that nothing has. -/
theorem directoryTarget_ok_iff {entry : Entry} (hrelative : Path.isAbsolute path = false)
    (hpath : Text.solidComponents path = names ++ [last]) (h : disk.Stands (disk.home ++ names)) :
    disk.directoryTarget path = .ok entry ↔
      Ordinary last ∧ disk.find? (disk.home ++ names ++ [last]) = none ∧
        entry = ⟨disk.home ++ names, last⟩ := by
  constructor
  · intro htarget
    cases hlocate : disk.locateTarget path with
    | error refusal =>
        rw [directoryTarget, hlocate] at htarget
        cases htarget
    | ok target =>
        rw [directoryTarget, hlocate] at htarget
        cases target with
        | root => cases htarget
        | self => cases htarget
        | parent => cases htarget
        | named found name =>
            have hlast := ordinary_of_named hrelative hpath h hlocate
            have hsame := hlocate.symm.trans (locateTarget_named hrelative hpath h hlast)
            cases hsame
            simp only [bind, Except.bind] at htarget
            cases hnode : disk.entryNode? ⟨disk.home ++ names, last⟩ with
            | some node =>
                rw [hnode] at htarget
                cases htarget
            | none =>
                rw [hnode] at htarget
                cases htarget
                exact ⟨hlast, hnode, rfl⟩
  · rintro ⟨hlast, hfree, rfl⟩
    have hnode : disk.entryNode? ⟨disk.home ++ names, last⟩ = none := hfree
    simp only [directoryTarget, locateTarget_named hrelative hpath h hlast, bind, Except.bind, hnode]

/-- Making a directory puts an empty one under an ordinary name that nothing has. -/
theorem makeDirectory_ok_iff {mode : Nat} (hrelative : Path.isAbsolute path = false)
    (hpath : Text.solidComponents path = names ++ [last]) (h : disk.Stands (disk.home ++ names)) :
    disk.makeDirectory path mode = .ok disk' ↔
      Passes path ∧ Ordinary last ∧ disk.find? (disk.home ++ names ++ [last]) = none ∧
        disk' = disk.putEntry (.directory mode 0 []) ⟨disk.home ++ names, last⟩ := by
  rw [makeDirectory]
  constructor
  · intro hmake
    cases hcall : call path (disk.directoryTarget path) with
    | error incident =>
        rw [hcall] at hmake
        cases hmake
    | ok entry =>
        rw [hcall] at hmake
        obtain ⟨hpasses, htarget⟩ := call_ok_iff.1 hcall
        obtain ⟨hlast, hfree, rfl⟩ := (directoryTarget_ok_iff hrelative hpath h).1 htarget
        cases hmake
        exact ⟨hpasses, hlast, hfree, rfl⟩
  · rintro ⟨hpasses, hlast, hfree, rfl⟩
    have htarget := (directoryTarget_ok_iff hrelative hpath h).2 ⟨hlast, hfree, rfl⟩
    rw [call_ok_iff.2 ⟨hpasses, htarget⟩]
    rfl

/-! ## Files -/

/-- A file can be written under an ordinary name that no directory has. -/
theorem fileTarget_ok_iff {entry : Entry} (hrelative : Path.isAbsolute path = false)
    (hpath : Text.solidComponents path = names ++ [last]) (h : disk.Stands (disk.home ++ names)) :
    disk.fileTarget path = .ok entry ↔
      Ordinary last ∧
        (∀ node, disk.find? (disk.home ++ names ++ [last]) = some node →
          node.isDirectory = false) ∧
        entry = ⟨disk.home ++ names, last⟩ := by
  constructor
  · intro htarget
    cases hlocate : disk.locateTarget path with
    | error refusal =>
        rw [fileTarget, hlocate] at htarget
        cases htarget
    | ok target =>
        rw [fileTarget, hlocate] at htarget
        cases target with
        | root => cases htarget
        | self => cases htarget
        | parent => cases htarget
        | named found name =>
            have hlast := ordinary_of_named hrelative hpath h hlocate
            have hsame := hlocate.symm.trans (locateTarget_named hrelative hpath h hlast)
            cases hsame
            simp only [bind, Except.bind] at htarget
            refine ⟨hlast, fun node hnode => ?_, ?_⟩
            · have hentry : disk.entryNode? ⟨disk.home ++ names, last⟩ = some node := hnode
              rw [hentry] at htarget
              cases node with
              | file content modified => rfl
              | directory mode modified entries => cases htarget
            · split at htarget
              · cases htarget
              · cases htarget
                rfl
  · rintro ⟨hlast, hfree, rfl⟩
    simp only [fileTarget, locateTarget_named hrelative hpath h hlast, bind, Except.bind]
    cases hnode : disk.entryNode? ⟨disk.home ++ names, last⟩ with
    | none => rfl
    | some node =>
        cases node with
        | file content modified => rfl
        | directory mode modified entries => cases hfree _ hnode

/-- The plain form of a path that does not start at the root joins its components. -/
theorem plain_eq (hrelative : Path.isAbsolute path = false)
    (hnames : (Text.solidComponents path).filter (fun part => part != selfName) = names)
    (hne : names ≠ []) : Path.plain path = Text.join names := by
  have hroot : Path.plainRoot path = [] := by
    have hfirst (c : Char) (rest : Text) (hpath : path = c :: rest) : c ≠ slash := by
      rintro rfl
      rw [hpath] at hrelative
      simp [Path.isAbsolute, List.isPrefixOf] at hrelative
    cases path with
    | nil => rfl
    | cons c rest =>
        have hc := hfirst c rest rfl
        cases rest with
        | nil => simp [Path.plainRoot, hc]
        | cons d rest =>
            cases rest with
            | nil => simp [Path.plainRoot, hc]
            | cons e rest => simp [Path.plainRoot, hc]
  have hsolid : Text.Solid names := by
    intro name hname
    rw [← hnames] at hname
    exact Text.solid_solidComponents path name (List.mem_filter.1 hname).1
  have hjoin : (Text.join names).isEmpty = false := by simpa [Text.join_eq_nil hsolid] using hne
  simp only [Path.plain, hroot, hnames, List.nil_append, hjoin, Bool.false_eq_true, if_false]

/-- Writing puts a file under an ordinary name that no directory has. -/
theorem write_ok {content : ByteArray} (hrelative : Path.isAbsolute path = false)
    (hpath : Text.solidComponents path = names ++ [last]) (hne : names ≠ [])
    (h : disk.Stands (disk.home ++ names)) (hwrite : disk.write path content = .ok disk') :
    Passes (Text.join (names ++ [last])) ∧ Ordinary last ∧
      (∀ node, disk.find? (disk.home ++ names ++ [last]) = some node →
        node.isDirectory = false) ∧
        disk' = disk.putEntry (.file content 0) ⟨disk.home ++ names, last⟩ := by
  obtain ⟨entry, hpasses, htarget, rfl⟩ : ∃ entry, Passes (Path.plain path) ∧
      disk.fileTarget (Path.plain path) = .ok entry ∧
        disk' = disk.putEntry (.file content 0) entry := by
    rw [write] at hwrite
    cases hcall : call (Path.plain path) (disk.fileTarget (Path.plain path)) with
    | error incident =>
        rw [hcall] at hwrite
        cases hwrite
    | ok entry =>
        rw [hcall] at hwrite
        cases hwrite
        obtain ⟨hpasses, htarget⟩ := call_ok_iff.1 hcall
        exact ⟨entry, hpasses, htarget, rfl⟩
  have hkept : names.filter (fun part => part != selfName) = names := by
    rw [List.filter_eq_self]
    intro name hname
    simpa using (h.ordinary name (List.mem_append_right _ hname)).ne_self
  have hsolid : Text.Solid (names ++ [last]) := hpath ▸ Text.solid_solidComponents path
  by_cases hself : last = selfName
  · -- The plain form drops the last component, and what is left names a directory.
    have hplain : Path.plain path = Text.join names := by
      refine plain_eq hrelative ?_ hne
      rw [hpath, hself, List.filter_append, hkept]
      simp
    obtain ⟨init, name, rfl⟩ := List.eq_nil_or_concat names |>.resolve_left hne
    rw [List.concat_eq_append] at *
    rw [hplain] at htarget
    rw [← List.append_assoc] at h
    obtain ⟨node, hnode, hdirectory⟩ := h.directory
    obtain ⟨-, hfile, -⟩ := (fileTarget_ok_iff (Text.join_not_open hsolid.left)
      (Text.solidComponents_join hsolid.left) h.above).1 htarget
    rw [hfile node hnode] at hdirectory
    cases hdirectory
  · have hplain : Path.plain path = Text.join (names ++ [last]) := by
      refine plain_eq hrelative ?_ (by simp)
      rw [hpath, List.filter_append, hkept]
      simp [hself]
    rw [hplain] at hpasses htarget
    obtain ⟨hlast, hfile, rfl⟩ := (fileTarget_ok_iff (Text.join_not_open hsolid)
      (Text.solidComponents_join hsolid) h).1 htarget
    exact ⟨hpasses, hlast, hfile, rfl⟩

/-- A file is written under an ordinary name that nothing has. -/
theorem write_eq {content : ByteArray} (hsolid : Text.Solid (names ++ [last]))
    (h : disk.Stands (disk.home ++ names)) (hlast : Ordinary last)
    (hpasses : Passes (Text.join (names ++ [last])))
    (hfree : disk.find? (disk.home ++ names ++ [last]) = none) :
    disk.write (Text.join (names ++ [last])) content =
      .ok (disk.putEntry (.file content 0) ⟨disk.home ++ names, last⟩) := by
  have hpath := Text.solidComponents_join hsolid
  have hplain : Path.plain (Text.join (names ++ [last])) = Text.join (names ++ [last]) := by
    refine plain_eq (Text.join_not_open hsolid) ?_ (by simp)
    rw [hpath, List.filter_eq_self]
    intro name hname
    rcases List.mem_append.1 hname with hname | hname
    · simpa using (h.ordinary name (List.mem_append_right _ hname)).ne_self
    · rw [List.mem_singleton.1 hname]
      simpa using hlast.ne_self
  have htarget := (fileTarget_ok_iff (Text.join_not_open hsolid) hpath h).2
    ⟨hlast, fun node hnode => absurd (hnode.symm.trans hfree) nofun, rfl⟩
  have hcall := call_ok_iff.2 ⟨hpasses, htarget⟩
  rw [write, hplain, hcall]
  rfl

end Disk

end ArtifactDepot
