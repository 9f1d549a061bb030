import ArtifactDepot.Proofs.Numbers
import ArtifactDepot.Proofs.Uploads

/-!
# Local files under every spelling

Files are read and written by the plain form of a path, and queries take the
path as it is.  Both follow the same names, but a path whose spelling asks for
a directory finds none at a file (`Disk.locate_eq`), and a spelling may be too
long where its plain form is not.  What was read or written can therefore be
seen under every other spelling, and under none of these
(`Local.queries_follow_files`).
-/

namespace ArtifactDepot

open Text (slash)
open ArtifactDepot.Action

/-! ## Spellings -/

namespace Path

variable {path : Text}

/-- The names that are followed, without the components that stand for the directory itself. -/
def steps (path : Text) : List Text :=
  (Text.solidComponents path).filter (fun part => part != selfName)

/-- The last component is empty or stands for the directory itself. -/
def asksDirectory (path : Text) : Bool :=
  ((Text.components path).getLastD []).isEmpty ||
    (Text.components path).getLastD [] == selfName

theorem solid_steps (path : Text) : Text.Solid (steps path) := fun name hname =>
  Text.solid_solidComponents path name (List.mem_filter.1 hname).1

theorem ne_selfName_of_mem_steps {name : Text} (h : name ∈ steps path) : name ≠ selfName := by
  simpa using (List.mem_filter.1 h).2

/-- A path asks for a directory if it ends in a separator or in the name of the directory itself. -/
theorem asksDirectory_iff (hne : path ≠ []) :
    asksDirectory path = true ↔
      endsOpen path = true ∨ (Text.solidComponents path).getLast? = some selfName := by
  obtain ⟨front, last, hcut⟩ : ∃ front last, Text.components path = front ++ [last] :=
    ⟨_, _, (List.dropLast_concat_getLast (Text.components_ne_nil path)).symm⟩
  have hlast : slash ∉ last :=
    Text.slash_not_mem_of_mem_components (show last ∈ Text.components path by rw [hcut]; simp)
  have hpath : path = Text.join (front ++ [last]) := by rw [← hcut, Text.join_components]
  have hasks : asksDirectory path = true ↔ last = [] ∨ last = selfName := by
    simp [asksDirectory, hcut]
  rw [hasks, Text.solidComponents, hcut, List.filter_append]
  by_cases hempty : last = []
  · subst hempty
    have hfront : front ≠ [] := by
      rintro rfl
      exact hne hpath
    have hopen : endsOpen path = true := by
      rw [hpath, Text.join_append hfront (List.cons_ne_nil _ _)]
      exact endsOpen_concat _
    simp [hopen]
  · have hclosed : endsOpen path = false := by
      rw [hpath]
      cases front with
      | nil => exact (IsRoot.of_name ⟨hempty, hlast⟩).2
      | cons first others =>
          rw [Text.join_append (List.cons_ne_nil _ _) (List.cons_ne_nil _ _), List.append_cons]
          exact (IsRoot.append_name _ ⟨hempty, hlast⟩).2
    simp [hclosed, hempty]

/-- Up to two separators stand in front of the plain form of an absolute path. -/
theorem plainRoot_cases (path : Text) :
    (isAbsolute path = false ∧ plainRoot path = []) ∨
      (isAbsolute path = true ∧ (plainRoot path = [slash] ∨ plainRoot path = [slash, slash])) := by
  unfold plainRoot isAbsolute
  split <;> simp only [List.isPrefixOf] <;> grind

/-- The plain form of a path with steps is made of them. -/
theorem plain_eq_append (h : steps path ≠ []) :
    plain path = plainRoot path ++ Text.join (steps path) := by
  have hsome : Text.join (steps path) ≠ [] := mt (Text.join_eq_nil (solid_steps path)).1 h
  have htext : (plainRoot path ++ Text.join (steps path)).isEmpty = false := by simp [hsome]
  exact if_neg (Bool.eq_false_iff.1 htext)

/-- A path without steps is plainly the directory itself, or the root. -/
theorem plain_of_no_steps (h : steps path = []) :
    plain path = selfName ∨ plain path = [slash] ∨ plain path = [slash, slash] := by
  have hplain : plain path = if (plainRoot path).isEmpty then selfName else plainRoot path := by
    have hjoin : Text.join (steps path) = [] := congrArg Text.join h
    have htext : plainRoot path ++ Text.join (steps path) = plainRoot path := by
      rw [hjoin, List.append_nil]
    unfold plain
    rw [← steps, htext]
  rw [hplain]
  rcases plainRoot_cases path with ⟨-, hroot⟩ | ⟨-, hroot | hroot⟩
  · exact Or.inl (by rw [hroot]; rfl)
  · exact Or.inr (Or.inl (by rw [hroot]; rfl))
  · exact Or.inr (Or.inr (by rw [hroot]; rfl))

/-- Cut apart, the plain form has nothing but empty components in front of the steps. -/
theorem components_plain (h : steps path ≠ []) :
    ∃ front, (∀ part ∈ front, part = []) ∧
      Text.components (plain path) = front ++ steps path := by
  have hjoin : Text.components (Text.join (steps path)) = steps path :=
    Text.components_join h fun part hpart => (solid_steps path part hpart).2
  rw [plain_eq_append h]
  rcases plainRoot_cases path with ⟨-, hroot⟩ | ⟨-, hroot | hroot⟩
  · exact ⟨[], nofun, by rw [hroot]; exact hjoin⟩
  · exact ⟨[[]], by simp, by simp [hroot, Text.components, hjoin]⟩
  · exact ⟨[[], []], by simp, by simp [hroot, Text.components, hjoin]⟩

/-- The steps are all that the plain form is made of. -/
theorem solidComponents_plain (h : steps path ≠ []) :
    Text.solidComponents (plain path) = steps path := by
  obtain ⟨front, hfront, hcut⟩ := components_plain h
  have hskipped : front.filter (fun part => !part.isEmpty) = [] := by
    rw [List.filter_eq_nil_iff]
    intro part hpart
    simp [hfront part hpart]
  have hkept : (steps path).filter (fun part => !part.isEmpty) = steps path := by
    rw [List.filter_eq_self]
    intro part hpart
    simpa using (solid_steps path part hpart).1
  rw [Text.solidComponents, hcut, List.filter_append, hskipped, hkept, List.nil_append]

theorem steps_plain (h : steps path ≠ []) : steps (plain path) = steps path := by
  rw [steps, solidComponents_plain h, List.filter_eq_self]
  intro part hpart
  simpa using ne_selfName_of_mem_steps hpart

/-- The plain form starts where the path does. -/
theorem start_plain (disk : Disk) (h : steps path ≠ []) :
    disk.start (plain path) = disk.start path := by
  have hsame : isAbsolute (plain path) = isAbsolute path := by
    rw [plain_eq_append h]
    rcases plainRoot_cases path with ⟨habsolute, hroot⟩ | ⟨habsolute, hroot | hroot⟩
    · rw [habsolute, hroot]
      exact Text.join_not_open (solid_steps path)
    · rw [habsolute, hroot]
      rfl
    · rw [habsolute, hroot]
      rfl
  unfold isAbsolute at hsame
  rw [Disk.start, Disk.start, hsame]

/-- The plain form asks for no directory. -/
theorem asksDirectory_plain (h : steps path ≠ []) : asksDirectory (plain path) = false := by
  obtain ⟨front, -, hcut⟩ := components_plain h
  obtain ⟨others, last, hlast⟩ := (List.eq_nil_or_concat (steps path)).resolve_left h
  have hmem : last ∈ steps path := by simp [hlast]
  rw [List.concat_eq_append] at hlast
  have hself := ne_selfName_of_mem_steps hmem
  have hsome := (solid_steps path last hmem).1
  rw [asksDirectory, hcut, hlast, ← List.append_assoc, List.getLastD_concat]
  simp [hself, hsome]

/-- Apart from separators and dots the plain form holds all characters of the path. -/
theorem mem_plain {c : Char} (h : steps path ≠ []) (hc : c ∈ path) (hslash : c ≠ slash)
    (hdot : c ≠ '.') : c ∈ plain path := by
  rw [← Text.join_components path] at hc
  obtain ⟨part, hpart, hmem⟩ := (Text.mem_join hc).resolve_left hslash
  have hstep : part ∈ steps path := by
    refine List.mem_filter.2 ⟨List.mem_filter.2 ⟨hpart, ?_⟩, ?_⟩
    · simpa using List.ne_nil_of_mem hmem
    · have hself : part ≠ selfName := by
        rintro rfl
        exact hdot (List.mem_singleton.1 hmem)
      simpa using hself
  obtain ⟨front, -, hcut⟩ := components_plain h
  rw [← Text.join_components (plain path), hcut]
  exact Text.mem_join_of_mem (List.mem_append_right _ hstep) hmem

end Path

/-! ## Walking -/

namespace Disk

variable {disk disk' : Disk} {path : Text} {place found : List Text}
  {content : ByteArray}

/-- Insist on a directory at a place, if one is asked for. -/
def insist (disk : Disk) (asked : Bool) (place : List Text) : Except Refusal (List Text) :=
  if asked && !disk.isDirectoryAt place then .error (disk.obstacle place) else .ok place

/-- To insist twice is to insist if either asks for it. -/
theorem insist_insist (disk : Disk) (asked again : Bool) (place : List Text) :
    (disk.insist asked place >>= disk.insist again) = disk.insist (asked || again) place := by
  cases asked with
  | false =>
      rw [Bool.false_or]
      rfl
  | true =>
      cases hfound : disk.isDirectoryAt place <;> simp [insist, hfound, bind, Except.bind]

/-- A component is only followed from a directory, so nobody need insist on one before. -/
theorem insist_follow (disk : Disk) (asked : Bool) (place : List Text) (name : Text) :
    (disk.insist asked place >>= fun found => disk.follow found name) =
      disk.follow place name := by
  unfold insist
  cases hfound : disk.isDirectoryAt place with
  | true => cases asked <;> rfl
  | false =>
      have hblocked : disk.follow place name = .error (disk.obstacle place) := by
        simp [follow, hfound]
      cases asked with
      | true => exact hblocked.symm
      | false => rfl

theorem follow_selfName (disk : Disk) (place : List Text) :
    disk.follow place selfName = disk.insist true place := by
  unfold follow insist
  cases disk.isDirectoryAt place <;> rfl

theorem walk_concat (disk : Disk) (place : List Text) (names : List Text) (last : Text) :
    disk.walk place (names ++ [last]) =
      disk.walk place names >>= fun found => disk.follow found last := by
  simp [walk, List.foldlM_append]

/--
Components that stand for the directory itself lead nowhere.  What they insist
on is asked for by the next component as well, unless none follows.
-/
theorem walk_eq (disk : Disk) (place : List Text) (names : List Text) :
    disk.walk place names =
      disk.walk place (names.filter (fun part => part != selfName)) >>=
        disk.insist (names.getLast? == some selfName) := by
  induction names using List.reverseRecOn with
  | nil => rfl
  | append_singleton names last ih =>
      rw [walk_concat, ih, bind_assoc, List.filter_append, List.getLast?_concat]
      simp only [insist_follow]
      by_cases hself : last = selfName
      · subst hself
        rw [show [selfName].filter (fun part => part != selfName) = [] from rfl, List.append_nil]
        simp only [follow_selfName]
        rfl
      · have hlast : [last].filter (fun part => part != selfName) = [last] := by simp [hself]
        have hnever : (some last == some selfName) = false := by simpa using hself
        rw [hlast, walk_concat, hnever]
        exact (bind_pure _).symm

/-- A path leads where its steps lead; if it asks for a directory, there must be one. -/
theorem locate_eq (disk : Disk) (hne : path ≠ []) :
    disk.locate path =
      disk.walk (disk.start path) (Path.steps path) >>=
        disk.insist (Path.asksDirectory path) := by
  have hlocate : disk.locate path = disk.walk (disk.start path) (Text.solidComponents path) >>=
      disk.insist (Path.endsOpen path) := rfl
  have hasks : Path.asksDirectory path =
      ((Text.solidComponents path).getLast? == some selfName || Path.endsOpen path) := by
    rw [Bool.eq_iff_iff, Path.asksDirectory_iff hne, Bool.or_eq_true, beq_iff_eq, or_comm]
  rw [hlocate, walk_eq, bind_assoc, hasks]
  simp only [insist_insist]
  rfl

/-- The plain form of a path leads where its steps lead. -/
theorem locate_plain (disk : Disk) (h : Path.steps path ≠ []) :
    disk.locate (Path.plain path) = disk.walk (disk.start path) (Path.steps path) := by
  have hne : Path.plain path ≠ [] := by
    intro hplain
    have hsteps := Path.steps_plain h
    rw [hplain] at hsteps
    exact h hsteps.symm
  rw [locate_eq disk hne, Path.start_plain disk h, Path.steps_plain h, Path.asksDirectory_plain h]
  exact bind_pure _

/-- A path that asks for a directory finds nothing else. -/
theorem isDirectoryAt_of_asked (hne : path ≠ []) (hasked : Path.asksDirectory path = true)
    (h : disk.locate path = .ok place) : disk.isDirectoryAt place = true := by
  rw [locate_eq disk hne, hasked] at h
  cases hwalk : disk.walk (disk.start path) (Path.steps path) with
  | error refusal =>
      rw [hwalk] at h
      cases h
  | ok found =>
      rw [hwalk] at h
      cases hfound : disk.isDirectoryAt found with
      | true =>
          simp only [insist, bind, Except.bind, hfound, Bool.not_true, Bool.and_false,
            Bool.false_eq_true, if_false, Except.ok.injEq] at h
          rwa [← h]
      | false =>
          simp [insist, bind, Except.bind, hfound] at h

/-! ## Files at the end of a path -/

/-- The plain form of a path leads to a file. -/
structure LeadsToFile (disk : Disk) (path : Text) (place : List Text) (content : ByteArray) :
    Prop where
  located : disk.locate (Path.plain path) = .ok place
  file : ∃ modified, disk.find? place = some (.file content modified)

theorem content?_nodeAt : (disk.nodeAt place).content? = some content ↔
    ∃ modified, disk.find? place = some (.file content modified) := by
  rw [nodeAt]
  cases disk.find? place with
  | none => simp [Node.content?]
  | some node => cases node <;> simp [Node.content?]

/-- A file is read where the plain form leads, if the system takes that form. -/
theorem read_ok_iff : disk.read path = .ok content ↔
    Passes (Path.plain path) ∧ ∃ place, disk.LeadsToFile path place content := by
  rw [read, call_ok_iff]
  refine and_congr_right fun _ => ?_
  constructor
  · intro h
    cases hlocate : disk.locate (Path.plain path) with
    | error refusal =>
        rw [hlocate] at h
        cases h
    | ok place =>
        rw [hlocate] at h
        cases hcontent : (disk.nodeAt place).content? with
        | none => simp [bind, Except.bind, hcontent] at h
        | some found =>
            simp only [bind, Except.bind, hcontent, Except.ok.injEq] at h
            subst h
            exact ⟨place, hlocate, content?_nodeAt.1 hcontent⟩
  · rintro ⟨place, hlocated, hfile⟩
    have hcontent := content?_nodeAt.2 hfile
    simp [hlocated, bind, Except.bind, hcontent]

section LeadsToFile

variable (h : disk.LeadsToFile path place content)

include h

theorem LeadsToFile.isDirectoryAt : disk.isDirectoryAt place = false := by
  obtain ⟨modified, hfile⟩ := h.file
  simp [Disk.isDirectoryAt, hfile, Node.isDirectory]

/-- The system names a file that is in the way. -/
theorem LeadsToFile.obstacle : disk.obstacle place = .notDirectory := by
  obtain ⟨modified, hfile⟩ := h.file
  simp only [Disk.obstacle, hfile]

/-- No file is found without going a step. -/
theorem LeadsToFile.steps_ne_nil : Path.steps path ≠ [] := by
  intro hsteps
  have hdirectory : disk.isDirectoryAt place = true := by
    have hlocated := h.located
    rcases Path.plain_of_no_steps hsteps with hplain | hplain | hplain <;>
      rw [hplain] at hlocated <;>
        exact isDirectoryAt_of_asked (List.cons_ne_nil _ _) rfl hlocated
  rw [h.isDirectoryAt] at hdirectory
  cases hdirectory

/-- The path itself finds the file as well, unless it asks for a directory. -/
theorem LeadsToFile.locate_eq : disk.locate path =
    if Path.asksDirectory path then .error .notDirectory else .ok place := by
  have hne : path ≠ [] := by
    rintro rfl
    exact h.steps_ne_nil rfl
  have hwalk := h.located
  rw [locate_plain disk h.steps_ne_nil] at hwalk
  rw [Disk.locate_eq disk hne, hwalk]
  cases hasked : Path.asksDirectory path <;>
    simp [insist, bind, Except.bind, h.isDirectoryAt, h.obstacle]

/-- What the system says of the path itself, if it takes the plain form. -/
theorem LeadsToFile.stat_eq (hpasses : Passes (Path.plain path)) :
    ∃ modified, disk.stat path =
      if pathLimit ≤ Text.byteLength path then .error (.system .nameTooLong path)
      else if Path.asksDirectory path then .error (.system .notDirectory path)
      else .ok (.file content modified) := by
  obtain ⟨modified, hfile⟩ := h.file
  have hnul : '\x00' ∉ path := fun hmem =>
    hpasses.noNul (Path.mem_plain h.steps_ne_nil hmem (by decide) (by decide))
  have hne : path ≠ [] := by
    rintro rfl
    exact h.steps_ne_nil rfl
  refine ⟨modified, ?_⟩
  rw [stat, h.locate_eq]
  simp only [call, List.contains_iff_mem, hnul, List.isEmpty_iff, hne, if_false]
  split
  · rfl
  · cases Path.asksDirectory path with
    | true => rfl
    | false => simp [Except.map, nodeAt, hfile]

end LeadsToFile

/-! ## Writing -/

section Kept

variable (hdirectory : ∀ other, disk.isDirectoryAt other = true → disk'.isDirectoryAt other = true)
  (hentry : ∀ place node, disk.find? place = some node → ∃ kept, disk'.find? place = some kept)

include hentry in
theorem enter_ok_of_kept {name : Text} (h : disk.enter place name = .ok found) :
    disk'.enter place name = .ok found := by
  unfold enter at h ⊢
  by_cases hlong : nameLimit < Text.byteLength name
  · rw [if_pos hlong] at h
    cases h
  · rw [if_neg hlong] at h ⊢
    cases hnode : disk.find? (place ++ [name]) with
    | none =>
        rw [hnode] at h
        cases h
    | some node =>
        obtain ⟨kept, hkept⟩ := hentry _ _ hnode
        rw [hnode] at h
        rw [hkept]
        exact h

include hdirectory hentry

theorem follow_ok_of_kept {name : Text} (h : disk.follow place name = .ok found) :
    disk'.follow place name = .ok found := by
  cases hplace : disk.isDirectoryAt place with
  | false => simp [follow, hplace] at h
  | true =>
      simp only [follow, hplace, hdirectory place hplace, Bool.not_true,
        Bool.false_eq_true, if_false] at h ⊢
      by_cases hself : name = selfName
      · rwa [if_pos hself] at h ⊢
      · by_cases hparent : name = parentName
        · rwa [if_neg hself, if_pos hparent] at h ⊢
        · rw [if_neg hself, if_neg hparent] at h ⊢
          exact enter_ok_of_kept hentry h

/-- A walk that ends well does so on every disk that keeps the directories and has all entries. -/
theorem walk_ok_of_kept {names : List Text} (h : disk.walk place names = .ok found) :
    disk'.walk place names = .ok found := by
  induction names generalizing place with
  | nil => exact h
  | cons name names ih =>
      rw [walk, List.foldlM_cons] at h ⊢
      cases hstep : disk.follow place name with
      | error refusal =>
          rw [hstep] at h
          cases h
      | ok next =>
          rw [hstep] at h
          rw [follow_ok_of_kept hdirectory hentry hstep]
          exact ih h

end Kept

/-- Whether a place is a directory is seen on its item. -/
theorem isDirectoryAt_congr (h : Node.item? place disk'.top = Node.item? place disk.top) :
    disk'.isDirectoryAt place = disk.isDirectoryAt place := by
  let kindOf : Node.Item → Bool
    | .directory .. => true
    | .file .. => false
  have hkind (disk : Disk) : disk.isDirectoryAt place =
      ((Node.item? place disk.top).map kindOf).getD false := by
    have hnode : kindOf ∘ Node.item = Node.isDirectory := by
      funext node
      cases node <;> rfl
    rw [Node.item?, Option.map_map, hnode]
    rfl
  rw [hkind, hkind, h]

/-- Nothing lies below a file. -/
theorem eq_nil_of_find? {rest : List Text} {node : Node}
    (hfile : ∀ node, disk.find? place = some node → node.isDirectory = false)
    (h : disk.find? (place ++ rest) = some node) : rest = [] := by
  rw [find?, Node.find?_append] at h
  obtain ⟨file, hfind, hrest⟩ := Option.bind_eq_some_iff.1 h
  have hkind := hfile file hfind
  cases file with
  | directory mode modified entries => cases hkind
  | file content modified =>
      cases rest with
      | nil => rfl
      | cons name rest => cases hrest

section Put

variable {entry : Entry}
  (hfile : ∀ node, disk.find? entry.full = some node → node.isDirectory = false)

include hfile

/-- A file that is put where no directory lies keeps all directories. -/
theorem isDirectoryAt_putEntry (node : Node) (h : disk.isDirectoryAt place = true) :
    (disk.putEntry node entry).isDirectoryAt place = true := by
  have houtside : ¬ entry.full <+: place := by
    rintro ⟨rest, rfl⟩
    rw [isDirectoryAt] at h
    cases hfound : disk.find? (entry.full ++ rest) with
    | none => simp [hfound] at h
    | some found =>
        have hrest := eq_nil_of_find? hfile hfound
        subst hrest
        rw [List.append_nil] at hfound h
        simp [hfound, hfile found hfound] at h
  rw [isDirectoryAt_congr (item?_putEntry disk node entry houtside)]
  exact h

variable (hparent : ∃ parent, disk.find? entry.place = some parent ∧ parent.isDirectory = true)

include hparent

/-- No other item changes when a file is put where no directory lies. -/
theorem item?_putFile (content : ByteArray) (modified : Int) {other : List Text}
    (hother : other ≠ entry.full) :
    Node.item? other (disk.putEntry (.file content modified) entry).top =
      Node.item? other disk.top := by
  by_cases hbelow : entry.full <+: other
  · obtain ⟨rest, rfl⟩ := hbelow
    have hrest : rest ≠ [] := by
      rintro rfl
      exact hother (List.append_nil _)
    have hbefore : disk.find? (entry.full ++ rest) = none :=
      Option.eq_none_iff_forall_ne_some.2 fun node hnode => hrest (eq_nil_of_find? hfile hnode)
    have hafter := find?_putEntry entry hparent (.file content modified) rest
    obtain ⟨name, rest, rfl⟩ := List.exists_cons_of_ne_nil hrest
    exact congrArg (Option.map Node.item) (hafter.trans hbefore.symm)
  · exact item?_putEntry disk _ entry hbelow

theorem walk_putFile (content : ByteArray) (modified : Int) {names : List Text}
    (h : disk.walk place names = .ok found) :
    (disk.putEntry (.file content modified) entry).walk place names = .ok found := by
  refine walk_ok_of_kept (fun _ => isDirectoryAt_putEntry hfile _) (fun place node hnode => ?_) h
  by_cases hplace : place = entry.full
  · have hput := find?_putEntry entry hparent (.file content modified) []
    rw [List.append_nil] at hput
    exact ⟨_, hplace ▸ hput⟩
  · have hitem := item?_putFile hfile hparent content modified hplace
    have hfound : Node.find? place disk.top = some node := hnode
    rw [Node.item?, Node.item?, hfound, Option.map_some] at hitem
    obtain ⟨kept, hkept, -⟩ := Option.map_eq_some_iff.1 hitem
    exact ⟨kept, hkept⟩

end Put

/-- What is written is named by the last component, in the directory to which the others lead. -/
theorem locateTarget_ok {name : Text} (h : disk.locateTarget path = .ok (.named place name)) :
    ∃ names, Text.solidComponents path = names ++ [name] ∧ Ordinary name ∧
      disk.walk (disk.start path) names = .ok place ∧
        disk.isDirectoryAt place = true := by
  unfold locateTarget at h
  dsimp only at h
  cases hlast : (Text.solidComponents path).getLast? with
  | none =>
      rw [hlast] at h
      cases h
  | some last =>
      obtain ⟨names, hnames⟩ := List.getLast?_eq_some_iff.1 hlast
      rw [hnames, List.getLast?_concat, List.dropLast_concat] at h
      dsimp only at h
      cases hwalk : disk.walk (disk.start path) names with
      | error refusal =>
          rw [hwalk] at h
          cases h
      | ok position =>
          rw [hwalk] at h
          simp only [bind, Except.bind] at h
          split at h
          · cases h
          · next hdirectory =>
              split at h
              · cases h
              · next hself =>
                  split at h
                  · cases h
                  · next hparent =>
                      split at h
                      · cases h
                      · next hshort =>
                          cases h
                          exact ⟨names, hnames, ⟨solid_last hnames, hself, hparent,
                            Nat.le_of_not_lt hshort⟩, hwalk, by simpa using hdirectory⟩

/-- A file is written to a name that no directory has. -/
theorem fileTarget_ok {entry : Entry} (h : disk.fileTarget path = .ok entry) :
    disk.locateTarget path = .ok (.named entry.place entry.name) ∧
      ∀ node, disk.find? entry.full = some node → node.isDirectory = false := by
  unfold fileTarget at h
  cases htarget : disk.locateTarget path with
  | error refusal =>
      rw [htarget] at h
      cases h
  | ok target =>
      rw [htarget] at h
      cases target with
      | root | self | parent => cases h
      | named place name =>
          simp only [bind, Except.bind] at h
          split at h
          · cases h
          · next hfree =>
              cases h
              refine ⟨rfl, fun node hnode => ?_⟩
              cases node with
              | file content modified => rfl
              | directory mode modified entries => exact absurd hnode (hfree _ _ _)

/-- What is written is found where the plain form of its path leads, and nothing else changes. -/
theorem write_ok_leads (h : disk.write path content = .ok disk') :
    Passes (Path.plain path) ∧ ∃ place, disk'.LeadsToFile path place content ∧
      Node.item? place disk'.top = some (.file content 0) ∧
        ∀ other, other ≠ place → Node.item? other disk'.top = Node.item? other disk.top := by
  obtain ⟨entry, hcall, rfl⟩ := map_ok_iff.1 h
  obtain ⟨hpasses, htarget⟩ := call_ok_iff.1 hcall
  obtain ⟨hnamed, hfile⟩ := fileTarget_ok htarget
  obtain ⟨names, hsolid, hname, hwalk, hdirectory⟩ := locateTarget_ok hnamed
  have hsteps : Path.steps path ≠ [] := fun hsteps => by
    have hself : ∀ part ∈ Text.solidComponents (Path.plain path), part = selfName := by
      rcases Path.plain_of_no_steps hsteps with hplain | hplain | hplain <;>
        rw [hplain] <;> decide
    exact hname.ne_self (hself entry.name (by simp [hsolid]))
  rw [Path.start_plain disk hsteps] at hwalk
  rw [Path.solidComponents_plain hsteps] at hsolid
  have hparent : ∃ parent, disk.find? entry.place = some parent ∧ parent.isDirectory = true := by
    simpa [isDirectoryAt, Option.getD_eq_iff] using hdirectory
  have hput := find?_putEntry entry hparent (.file content 0) []
  rw [List.append_nil] at hput
  have hlocated : (disk.putEntry (.file content 0) entry).locate (Path.plain path) =
      .ok entry.full := by
    have hstart : (disk.putEntry (.file content 0) entry).start path = disk.start path := rfl
    rw [locate_plain _ hsteps, hstart, hsolid, walk_concat,
      walk_putFile hfile hparent content 0 hwalk]
    exact follow_ok hname hput
  exact ⟨hpasses, entry.full, ⟨hlocated, 0, hput⟩, congrArg (Option.map Node.item) hput,
    fun other => item?_putFile hfile hparent content 0⟩

end Disk

namespace Local

variable {path : Text} {content : ByteArray} {site site' : Site}

/-- The path is not taken for that of anything, though it can be read and written. -/
def Overlooked (refusal : Refusal) (path : Text) (site : Site) : Prop :=
  isPresent path site = .ok false site ∧
    isDirectory path site =
      .error (.fault (.failed .inspect path (.system refusal path))) site

/--
What queries say of a path that leads to a file: that there is something, and
that it is no directory, unless the spelling is too long or asks for a directory.
-/
def QueriedAsFile (path : Text) (site : Site) : Prop :=
  if Disk.pathLimit ≤ Text.byteLength path then Overlooked .nameTooLong path site
  else if Path.asksDirectory path then Overlooked .notDirectory path site
  else isPresent path site = .ok true site ∧ isDirectory path site = .ok false site

theorem isPresent_of_stat {node : Node} (h : site.disk.stat path = .ok node) :
    isPresent path site = .ok true site := by
  simp only [isPresent, consult, Disk.access, h]
  rfl

theorem isDirectory_of_stat {node : Node} (h : site.disk.stat path = .ok node) :
    isDirectory path site = .ok node.isDirectory site := by
  have hconsult : consult (·.stat path) site = .ok node site := by
    simp only [consult, h]
    rfl
  exact recover_ok (bind_ok hconsult)

theorem overlooked_of_stat {refusal : Refusal}
    (h : site.disk.stat path = .error (.system refusal path)) : Overlooked refusal path site := by
  constructor
  · simp only [isPresent, consult, Disk.access, h]
    rfl
  · have hconsult : consult (·.stat path) site =
        .error (.incident (.system refusal path)) site := by
      simp only [consult, h]
      rfl
    exact recover_error (bind_error hconsult)

/-- Where the plain form of a path leads to a file, queries take it for one or overlook it. -/
theorem queriedAsFile {place : List Text} (h : site.disk.LeadsToFile path place content)
    (hpasses : Disk.Passes (Path.plain path)) : QueriedAsFile path site := by
  obtain ⟨modified, hstat⟩ := h.stat_eq hpasses
  unfold QueriedAsFile
  split
  · next hlong =>
      rw [if_pos hlong] at hstat
      exact overlooked_of_stat hstat
  · next hshort =>
      rw [if_neg hshort] at hstat
      split
      · next hasked =>
          rw [if_pos hasked] at hstat
          exact overlooked_of_stat hstat
      · next hunasked =>
          rw [if_neg hunasked] at hstat
          exact ⟨isPresent_of_stat hstat, isDirectory_of_stat hstat⟩

/-- What is answered despite refusals that become faults was answered by the system. -/
theorem refused_consult_ok {α : Type} {wrap : Incident → Fault}
    {question : Disk → Except Incident α} {value : α}
    (h : refused wrap (consult question) site = .ok value site') :
    site' = site ∧ question site.disk = .ok value := by
  refine consult_site ?_
  cases hrun : consult question site with
  | ok found site₁ =>
      rw [refused, recover_ok hrun] at h
      exact h
  | error failure site₁ =>
      obtain ⟨reported, hreported⟩ := refused_error wrap hrun
      rw [hreported] at h
      cases h

/-- Reading changes nothing on the disk. -/
theorem readBytes_ok (h : readBytes path site = .ok content site') :
    site'.disk = site.disk ∧ site.disk.read path = .ok content := by
  rcases Trace.traced_cases .read .disk path
      (refused (orMissing .file .openForRead path) (consult (·.read path))) site with
    ⟨failure, stopped, hrun, -, -⟩ | hframed
  · cases h.symm.trans hrun
  · cases hframed with
    | ok hto hrun hfrom hresult =>
        cases h.symm.trans hresult
        obtain ⟨rfl, hread⟩ := refused_consult_ok hrun
        rw [hto.disk_eq] at hread
        exact ⟨hfrom.disk_eq.trans hto.disk_eq, hread⟩
    | error hto hrun hfrom hresult => cases h.symm.trans hresult

/-- What the system reads is read, unless tracing stands in the way. -/
theorem readBytes_of_read (hpassable : Trace.Passable site path)
    (h : site.disk.read path = .ok content) : (readBytes path).result site = .ok content := by
  have hread {site₁ : Site} (hto : Site.Silent site site₁) :
      refused (orMissing .file .openForRead path) (consult (·.read path)) site₁ =
        .ok content site₁ := by
    rw [← hto.disk_eq] at h
    refine recover_ok ?_
    simp only [consult, h]
    rfl
  rcases Trace.traced_cases .read .disk path
      (refused (orMissing .file .openForRead path) (consult (·.read path))) site with
    ⟨-, -, -, -, hstopped⟩ | hframed
  · exact absurd hpassable hstopped
  · cases hframed with
    | ok hto hrun hfrom hresult =>
        cases (hread hto).symm.trans hrun
        exact result_of_ok hresult
    | error hto hrun hfrom hresult => cases (hread hto).symm.trans hrun

instance : KeepsDisk Trace.StaysPassable := ⟨fun _ _ _ => id⟩

/--
A file that was read, and one that was written, is there for queries as well,
unless the spelling of its path asks for a directory or is too long.  What was
written is read back, and nothing else on the disk has changed.
-/
theorem queries_follow_files (path : Text) (content : ByteArray) (site site' : Site) :
    (readBytes path site = .ok content site' →
      site'.disk = site.disk ∧ QueriedAsFile path site') ∧
    (writeBytes path content site = .ok () site' →
      QueriedAsFile path site' ∧ (readBytes path).result site' = .ok content ∧
      ∃ place, site'.disk.locate (Path.plain path) = .ok place ∧
        Node.item? place site'.disk.top = some (.file content 0) ∧
          ∀ other, other ≠ place →
            Node.item? other site'.disk.top = Node.item? other site.disk.top) := by
  constructor
  · intro hrun
    obtain ⟨hdisk, hread⟩ := readBytes_ok hrun
    refine ⟨hdisk, ?_⟩
    rw [← hdisk] at hread
    obtain ⟨hpasses, place, hleads⟩ := Disk.read_ok_iff.1 hread
    exact queriedAsFile hleads hpasses
  · intro hrun
    have hpassable : Trace.Passable site' path :=
      Trace.passable_of_traced (keeps_refused (keeps_onDisk _)) hrun
    rcases writeBytes_cases path content site with
      ⟨disk, site₁, hwrite, hsilent, hresult⟩ | ⟨⟨failure, site₁, -, hresult⟩, -⟩
    · cases hrun.symm.trans hresult
      have hdisk : site'.disk = disk := hsilent.disk_eq
      obtain ⟨hpasses, place, hleads, hitem, hothers⟩ := Disk.write_ok_leads hwrite
      rw [← hdisk] at hleads hitem hothers
      exact ⟨queriedAsFile hleads hpasses,
        readBytes_of_read hpassable (Disk.read_ok_iff.2 ⟨hpasses, place, hleads⟩),
        place, hleads.located, hitem, hothers⟩
    · cases hrun.symm.trans hresult

/-- A site with one file, in the working directory. -/
def fileSite : Site where
  disk := Disk.fresh.putEntry (.file (ByteArray.mk #[120]) 0) ⟨Disk.workPlace, ['f']⟩

/-- The file is read by its absolute path with a separator behind it, and not found with that. -/
theorem queries_follow_files_open :
    readBytes "/work/./f/".toList fileSite = .ok (ByteArray.mk #[120]) fileSite ∧
      isPresent "/work/./f/".toList fileSite = .ok false fileSite ∧
      isDirectory "/work/./f/".toList fileSite =
        .error (.fault (.failed .inspect "/work/./f/".toList
          (.system .notDirectory "/work/./f/".toList))) fileSite := by
  have hread : readBytes "/work/./f/".toList fileSite = .ok (ByteArray.mk #[120]) fileSite := rfl
  exact ⟨hread, ((queries_follow_files "/work/./f/".toList _ fileSite fileSite).1 hread).2⟩

end Local

end ArtifactDepot
