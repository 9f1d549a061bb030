import ArtifactDepot.Proofs.Complete
import ArtifactDepot.Proofs.Tidy

/-!
# Replicas of tidy keys

If the keys below a source are tidy, its replica is made, and it is exact: a
file for every key that is not a marker, a directory above each key and at
each marker, and nothing else.  Every file is transferred once, the ones that
lie less deep first (`Replica.make_exact`).  It is needed that the system
takes the paths of the replica (`Replica.make_long_path`).
-/

namespace ArtifactDepot

open Text (slash)
open ArtifactDepot.Action

namespace Bucket

/-- At a place of the disk lie the files and the directories of the keys, and nothing else. -/
structure CopiedTo (bucket : Bucket) (key : Text) (disk : Disk) (place : List Text) : Prop where
  file_iff : ∀ names content modified,
    Node.item? (place ++ names) disk.top = some (.file content modified) ↔
      modified = 0 ∧ bucket.FileAt key names content
  directory_iff : ∀ names mode modified,
    Node.item? (place ++ names) disk.top = some (.directory mode modified) ↔
      mode = 0o700 ∧ modified = 0 ∧ bucket.DirectoryAt key names

/-- What remains of a key has fewer components than another, or as many and comes before it. -/
def Earlier (rest other : Text) : Prop :=
  (Text.solidComponents rest).length < (Text.solidComponents other).length ∨
    (Text.solidComponents rest).length = (Text.solidComponents other).length ∧ rest < other

end Bucket

namespace Origin

variable {origin : Origin} {path key : Text} {names : List Text} {trail : List (List Text)}
  {site site' : Site} {number : Nat} {directory : LocalDirectory}

/-- Nothing is transferred for directories. -/
theorem flatMap_transfers {visited : List (List Text)} {transfersOf : List Text → List Call}
    (h : ∀ names ∈ visited, ¬ origin.isDirectory names = true →
      origin.transfers names = transfersOf names) :
    visited.flatMap origin.transfers =
      (visited.filter fun names => !origin.isDirectory names).flatMap transfersOf := by
  induction visited with
  | nil => rfl
  | cons names visited ih =>
      have hrest := ih fun other hother => h other (List.mem_cons_of_mem _ hother)
      rw [List.flatMap_cons, hrest]
      by_cases hdirectory : origin.isDirectory names = true
      · rw [List.filter_cons_of_neg (by simp [hdirectory]), transfers, if_pos hdirectory,
          List.nil_append]
      · rw [List.filter_cons_of_pos (by simpa using hdirectory), List.flatMap_cons,
          h names (List.mem_cons_self ..) hdirectory]

section

variable (hlocated : origin.Located path key site)
  (hquery : origin.kind = .azure → ∀ found ∈ origin.bucket.keys, '?' ∉ found)
  (htidy : origin.bucket.Tidy key)
  (hreplicated : origin.Replicated site number trail directory site')

include hlocated hquery htidy hreplicated

/-- The trail goes through the files. -/
theorem mem_trail_iff_file (hne : names ≠ []) (hnames : Text.Solid names) :
    names ∈ trail ∧ ¬ origin.isDirectory names = true ↔
      Text.join names ∈ origin.bucket.files key := by
  rw [hreplicated.mem_iff, hlocated.reachable_iff hquery, Bucket.join_mem_files hne hnames]
  constructor
  · rintro ⟨⟨-, -, hholds⟩, hnot⟩
    have hspell := hlocated.spell_of_holds hquery hne hnames hholds
    rw [isDirectory_iff hlocated.closed hne hnames hspell] at hnot
    exact hholds.resolve_right hnot
  · intro hmem
    have hspell := hlocated.spell_of_holds hquery hne hnames (Or.inl hmem)
    rw [isDirectory_iff hlocated.closed hne hnames hspell]
    exact ⟨⟨hne, hnames, Or.inl hmem⟩, htidy.not_continues hne hmem⟩

/-- The trail goes through the directories above keys and at markers. -/
theorem mem_trail_iff_directory (hne : names ≠ []) (hnames : Text.Solid names) :
    names ∈ trail ∧ origin.isDirectory names = true ↔
      origin.bucket.DirectoryAt key names := by
  rw [hreplicated.mem_iff, hlocated.reachable_iff hquery, ← htidy.continues_iff hne hnames]
  constructor
  · rintro ⟨⟨-, -, hholds⟩, hdirectory⟩
    have hspell := hlocated.spell_of_holds hquery hne hnames hholds
    rwa [isDirectory_iff hlocated.closed hne hnames hspell] at hdirectory
  · intro hcontinues
    have hspell := hlocated.spell_of_holds hquery hne hnames (Or.inr hcontinues)
    rw [isDirectory_iff hlocated.closed hne hnames hspell]
    exact ⟨⟨hne, hnames, Or.inr hcontinues⟩, hcontinues⟩

/-- The files of the trail are spelled as they are. -/
theorem spell_file (hfile : names ∈ trail ∧ ¬ origin.isDirectory names = true) :
    origin.spell names = some (Key.asDirectory key ++ Text.join names) := by
  have hreachable := (hreplicated.mem_iff names).1 hfile.1
  have hmem := (mem_trail_iff_file hlocated hquery htidy hreplicated hreachable.ne_nil
    hreachable.solid).1 hfile
  rw [Bucket.join_mem_files hreachable.ne_nil hreachable.solid] at hmem
  rw [hlocated.spell_of_holds hquery hreachable.ne_nil hreachable.solid (Or.inl hmem),
    Key.below_eq hreachable.ne_nil]

/-- A replica of tidy keys holds their files and directories, and nothing else. -/
theorem copiedTo :
    origin.bucket.CopiedTo key site'.disk (site'.disk.placeOf directory.path) where
  file_iff names content modified := by
    rw [hreplicated.place_eq, hreplicated.item_eq, itemAfter_eq_file_iff]
    constructor
    · rintro ⟨hne, hfile, hcontent, hmodified⟩
      have hnames := ((hreplicated.mem_iff names).1 hfile.1).solid
      refine ⟨hmodified, Text.join names,
        (mem_trail_iff_file hlocated hquery htidy hreplicated hne hnames).1 hfile,
        Text.solidComponents_join hnames, ?_⟩
      rwa [content?, spell_file hlocated hquery htidy hreplicated hfile] at hcontent
    · rintro ⟨hmodified, rest, hrest, rfl, hcontent⟩
      obtain ⟨hjoin, hne⟩ := htidy.join_of_mem_files hrest
      have hfile := (mem_trail_iff_file hlocated hquery htidy hreplicated hne
        (Text.solid_solidComponents rest)).2 (hjoin.symm ▸ hrest)
      refine ⟨hne, hfile, ?_, hmodified⟩
      rw [content?, spell_file hlocated hquery htidy hreplicated hfile, hjoin]
      exact hcontent
  directory_iff names mode modified := by
    rw [hreplicated.place_eq, hreplicated.item_eq, itemAfter_eq_directory_iff]
    apply and_congr_right
    intro _
    apply and_congr_right
    intro _
    by_cases hne : names = []
    · exact iff_of_true (Or.inl hne) (Or.inl hne)
    · rw [or_iff_right hne]
      constructor
      · intro hdirectory
        have hnames := ((hreplicated.mem_iff names).1 hdirectory.1).solid
        exact (mem_trail_iff_directory hlocated hquery htidy hreplicated hne hnames).1 hdirectory
      · intro hdirectory
        obtain ⟨rest, -, hfront, -⟩ := hdirectory.resolve_left hne
        have hnames : Text.Solid names := fun name hname =>
          Text.solid_solidComponents rest name (hfront.subset hname)
        exact (mem_trail_iff_directory hlocated hquery htidy hreplicated hne hnames).2 hdirectory

/-- What is transferred for a file of the trail is the object under its key. -/
theorem transfers_file (hfile : names ∈ trail ∧ ¬ origin.isDirectory names = true) :
    origin.transfers names =
      Call.transfersOf origin.kind origin.name (Key.asDirectory key ++ Text.join names) := by
  rw [transfers, if_neg hfile.2, spell_file hlocated hquery htidy hreplicated hfile,
    Option.map_some, Option.getD_some]

/-- The files of the trail are those of the keys. -/
theorem mem_files_iff (rest : Text) :
    rest ∈ (trail.filter fun names => !origin.isDirectory names).map Text.join ↔
      rest ∈ origin.bucket.files key := by
  simp only [List.mem_map, List.mem_filter, Bool.not_eq_true']
  constructor
  · rintro ⟨names, ⟨hmem, hnot⟩, rfl⟩
    have hreachable := (hreplicated.mem_iff names).1 hmem
    exact (mem_trail_iff_file hlocated hquery htidy hreplicated hreachable.ne_nil
      hreachable.solid).1 ⟨hmem, by simp [hnot]⟩
  · intro hrest
    obtain ⟨hjoin, hne⟩ := htidy.join_of_mem_files hrest
    have hfile := (mem_trail_iff_file hlocated hquery htidy hreplicated hne
      (Text.solid_solidComponents rest)).2 (hjoin.symm ▸ hrest)
    exact ⟨Text.solidComponents rest, ⟨hfile.1, by simpa using hfile.2⟩, hjoin⟩

omit hlocated hquery htidy in
/-- The files of the trail are in the order of their depths and, in one depth, of their keys. -/
theorem files_sorted :
    ((trail.filter fun names => !origin.isDirectory names).map Text.join).Pairwise
      Bucket.Earlier := by
  rw [List.pairwise_map]
  refine (hreplicated.sorted.filter _).imp_of_mem fun {names other} hnames hother hbefore => ?_
  have hreachable := (hreplicated.mem_iff names).1 (List.mem_filter.1 hnames).1
  have hreachable' := (hreplicated.mem_iff other).1 (List.mem_filter.1 hother).1
  unfold Bucket.Earlier
  rw [Text.solidComponents_join hreachable.solid, Text.solidComponents_join hreachable'.solid,
    ← Path.below_lt_below hreachable.ne_nil hreachable'.ne_nil]
  exact hbefore

/-- Every file is transferred once, the ones that lie less deep first. -/
theorem transfers_ordered :
    ∃ order : List Text, (∀ rest, rest ∈ order ↔ rest ∈ origin.bucket.files key) ∧
      order.Pairwise Bucket.Earlier ∧
        site'.transfers = site.transfers ++ order.flatMap fun rest =>
          Call.transfersOf origin.kind origin.name (Key.asDirectory key ++ rest) := by
  refine ⟨_, mem_files_iff hlocated hquery htidy hreplicated, files_sorted hreplicated, ?_⟩
  rw [hreplicated.transfers_eq, List.flatMap_map]
  congr 1
  apply flatMap_transfers
  intro names hmem hnot
  exact transfers_file hlocated hquery htidy hreplicated ⟨hmem, hnot⟩

end

end Origin

namespace Replica

variable {kind : Kind} {path name key replica : Text} {bucket : Bucket} {site made : Site}

/-- Tracing stops nothing that is asked of what the keys hold, or made of it in the replica. -/
def Traceable (kind : Kind) (path key replica : Text) (bucket : Bucket) (site : Site) : Prop :=
  ∀ source, Backend.normalize kind path = .ok source →
    ∀ names, names = [] ∨ bucket.Holds (Key.below key names) →
      Trace.Passable site (Path.below source names) ∧
        Trace.Passable site (Path.below replica names)

/--
If the keys below a directory are tidy, the store answers, tracing stops nothing, a temporary
directory can be made and the system takes all paths in it, then a replica is made there.  It has a
file for each key, with the content of the object, a directory above each key and at each marker, and
nothing else.  Each file is transferred once: those with fewer components first, and among those with
as many the one whose key comes first.
-/
theorem make_exact (hkind : kind ≠ .disk)
    (haddress : Backend.addressOf kind path = .ok (name, key))
    (hcolon : kind = .s3 → ':' ∉ name)
    (hbucket : site.cloud.bucket? kind name = some bucket)
    (hquery : kind = .azure → ∀ found ∈ bucket.keys, '?' ∉ found)
    (hdirectory : bucket.hasDirectory key = true) (htidy : bucket.Tidy key)
    (hanswers : site.Answers kind name) (htraceable : Traceable kind path key replica bucket site)
    (htemporary : Local.makeTemporary site = .ok replica made)
    (hshort : ∀ rest ∈ bucket.rests key,
      Text.byteLength (Path.below replica (Text.solidComponents rest)) < Disk.pathLimit) :
    ∃ (directory : LocalDirectory) (site' : Site) (order : List Text),
      make kind path site = .ok directory site' ∧
      directory.path = replica ∧
      site.disk.find? (site.disk.placeOf replica) = none ∧
      bucket.CopiedTo key site'.disk (site'.disk.placeOf replica) ∧
      (∀ rest, rest ∈ order ↔ rest ∈ bucket.files key) ∧ order.Pairwise Bucket.Earlier ∧
      site'.transfers = site.transfers ++
        order.flatMap fun rest => Call.transfersOf kind name (Key.asDirectory key ++ rest) := by
  obtain ⟨source, hsource⟩ := Backend.normalize_of_addressOf haddress
  let origin : Origin := ⟨kind, source, name, bucket⟩
  have hlocated : origin.Located path key site := ⟨hkind, hsource, haddress, hbucket, hcolon⟩
  have hpassable : origin.Traceable replica site := fun names hvisited =>
    htraceable source hsource names <| hvisited.imp_right fun hreachable =>
      ((hlocated.reachable_iff hquery).1 hreachable).2.2
  obtain ⟨number, trail, directory, site', rfl, -, hmake, hreplicated⟩ :=
    hlocated.make_succeeds_of_keys hquery htidy.ordinary hdirectory hanswers hpassable htemporary
      hshort
  obtain ⟨order, hmem, hordered, htransfers⟩ :=
    Origin.transfers_ordered hlocated hquery htidy hreplicated
  have hcopied := Origin.copiedTo hlocated hquery htidy hreplicated
  rw [hreplicated.path_eq] at hcopied
  refine ⟨directory, site', order, hmake, hreplicated.path_eq, ?_, hcopied, hmem, hordered,
    htransfers⟩
  rw [Disk.placeOf_temporaryName]
  exact hreplicated.free

/-- A container with files next to each other, one in a subdirectory, and a marker. -/
def treeBucket : Bucket :=
  [("src/a".toList, ⟨⟨#[49]⟩, Object.usualMoment⟩), ("src/a-b".toList, ⟨⟨#[50]⟩, Object.usualMoment⟩),
    ("src/d/f".toList, ⟨⟨#[51]⟩, Object.usualMoment⟩), ("src/e/".toList, ⟨⟨#[]⟩, Object.usualMoment⟩)]

/-- The container is copied with all of its files and directories. -/
theorem make_exact_tree :
    ∃ (directory : LocalDirectory) (site' : Site) (order : List Text),
      make .azure "as://h/c/src".toList (.storing .azure "c".toList treeBucket) =
        .ok directory site' ∧
      directory.path = Local.temporaryName 1 ∧
      (Site.storing .azure "c".toList treeBucket).disk.find?
        ((Site.storing .azure "c".toList treeBucket).disk.placeOf (Local.temporaryName 1)) = none ∧
      treeBucket.CopiedTo "src".toList site'.disk
        (site'.disk.placeOf (Local.temporaryName 1)) ∧
      (∀ rest, rest ∈ order ↔ rest ∈ treeBucket.files "src".toList) ∧
      order.Pairwise Bucket.Earlier ∧
      site'.transfers = (Site.storing .azure "c".toList treeBucket).transfers ++
        order.flatMap fun rest => Call.transfersOf .azure "c".toList
          (Key.asDirectory "src".toList ++ rest) := by
  have hdirectory : treeBucket.hasDirectory "src".toList = true :=
    (Bucket.hasDirectory_iff (by decide) rfl).2 (by decide +kernel)
  have htidy : treeBucket.Tidy "src".toList :=
    ⟨by decide +kernel, by decide +kernel, by decide +kernel⟩
  have htraceable : Traceable .azure "as://h/c/src".toList "src".toList (Local.temporaryName 1)
      treeBucket (.storing .azure "c".toList treeBucket) :=
    fun _ _ _ _ => ⟨Site.passable_storing _, Site.passable_storing _⟩
  exact make_exact (by decide) rfl nofun Site.bucket?_storing (fun _ => by decide +kernel) hdirectory
    htidy Site.answers_storing htraceable Local.makeTemporary_storing (by decide +kernel)

/-- The path of a file that lies deeper than the system can name. -/
def longNames : List Text := List.replicate 17 (List.replicate 255 'a')

/-- A bucket with that file only. -/
def longBucket : Bucket := [(Text.join longNames, ⟨⟨#[49]⟩, Object.usualMoment⟩)]

theorem ordinary_longNames {name : Text} (h : name ∈ longNames) :
    Disk.Ordinary name ∧ '\x00' ∉ name := by
  rw [List.eq_of_mem_replicate h]
  decide +kernel

theorem solid_longNames : Text.Solid longNames := fun _ h => (ordinary_longNames h).1.solid

theorem longBucket_tidy : longBucket.Tidy [] := by
  have honly (rest : Text) (h : rest ∈ longBucket.rests []) : rest = Text.join longNames :=
    List.mem_singleton.1 (Bucket.mem_rests.1 h)
  have hparts := Text.solidComponents_join solid_longNames
  refine ⟨fun rest h => ?_, fun rest h part hpart => ?_, fun rest h => ?_⟩
  · rw [honly rest h, hparts]
    exact Or.inl rfl
  · rw [honly rest h, hparts] at hpart
    exact ordinary_longNames hpart
  · rintro ⟨found, hfound, hcontinues⟩
    rw [honly rest h, List.mem_singleton.1 hfound] at hcontinues
    have hlength := hcontinues.length_le
    simp only [Key.asDirectory, List.isEmpty_nil, Bool.true_or, if_true, List.nil_append,
      List.length_append, List.length_singleton] at hlength
    omega

/-- A tidy key may be too long for the system, and then no replica is made. -/
theorem make_long_path :
    longBucket.Tidy [] ∧ (Site.storing .gcs "b".toList longBucket).Answers .gcs "b".toList ∧
      ∀ directory site', make .gcs "gs://b".toList (.storing .gcs "b".toList longBucket) ≠
        .ok directory site' := by
  refine ⟨longBucket_tidy, Site.answers_storing, fun directory site' hmake => ?_⟩
  have hlocated : Origin.Located ⟨.gcs, "gs://b".toList, "b".toList, longBucket⟩ "gs://b".toList []
      (.storing .gcs "b".toList longBucket) :=
    ⟨by decide, rfl, rfl, Site.bucket?_storing, nofun⟩
  obtain ⟨number, trail, -, hreplicated⟩ := hlocated.replicated_of_ok hmake
  have hholds : longBucket.Holds (Key.below [] longNames) := Or.inl (List.mem_singleton_self _)
  have hmem : longNames ∈ trail := (hreplicated.mem_iff _).2
    ((hlocated.reachable_iff nofun).2 ⟨List.cons_ne_nil _ _, solid_longNames, hholds⟩)
  -- The names alone take more bytes than a path may have.
  have hshort := (hreplicated.placeable _ hmem).passes.short
  rw [Path.below, Text.byteLength_append] at hshort
  have hlong : Disk.pathLimit ≤ Text.byteLength (longNames.flatMap (slash :: ·)) := by
    decide +kernel
  omega

end Replica

end ArtifactDepot
