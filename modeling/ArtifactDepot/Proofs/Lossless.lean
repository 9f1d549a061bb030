import ArtifactDepot.Proofs.Complete

/-!
# Nothing is lost

If a replica is made, every object whose key is read back from its path has
its file in it, or the directory of the keys that continue its key, and it is
not made if there is such an object that no local file can stand for
(`Replica.make_lossless`).  That the key is read back is needed: a blob whose
name holds a query mark gets the content of another one
(`Replica.make_confuses_query`).
-/

namespace ArtifactDepot.Replica

open Text (slash)
open ArtifactDepot.Action

variable {kind : Kind} {path name key : Text} {bucket : Bucket} {names : List Text}
  {object : Object} {site : Site}

/--
Take any key below the source whose components are not empty and that is read back from its path,
which in Azure a query mark prevents, and in S3 a colon in the name of the bucket.  If a replica is
made, there is something at the names of the key: a file with the content of the object, or a
directory if other keys continue the key.  No replica is made if the system takes no such file:
because a name is not one that an entry can have, or because the path is too long.
-/
theorem make_lossless (hkind : kind ≠ .disk)
    (haddress : Backend.addressOf kind path = .ok (name, key))
    (hcolon : kind = .s3 → ':' ∉ name)
    (hbucket : site.cloud.bucket? kind name = some bucket)
    (hne : names ≠ []) (hnames : Text.Solid names)
    (hobject : bucket.get? (Key.below key names) = some object)
    (hquery : kind = .azure → ∀ name ∈ names, '?' ∉ name) :
    (∀ directory site', make kind path site = .ok directory site' →
      (¬ bucket.Continues (Key.below key names) →
        Node.item? (site'.disk.placeOf directory.path ++ names) site'.disk.top =
          some (.file object.content 0)) ∧
      (bucket.Continues (Key.below key names) →
        Node.item? (site'.disk.placeOf directory.path ++ names) site'.disk.top =
          some (.directory Local.directoryMode 0))) ∧
    ((∃ name ∈ names, ¬ (Disk.Ordinary name ∧ '\x00' ∉ name)) ∨
        (∀ number, site.lastTemporary < number →
          Disk.pathLimit ≤ Text.byteLength (Path.below (Local.temporaryName number) names)) →
      ∃ failure site', make kind path site = .error failure site') := by
  obtain ⟨source, hsource⟩ := Backend.normalize_of_addressOf haddress
  let origin : Origin := ⟨kind, source, name, bucket⟩
  have hlocated : origin.Located path key site := ⟨hkind, hsource, haddress, hbucket, hcolon⟩
  have hcontent : bucket.content? (Key.below key names) = some object.content := by
    rw [Bucket.content?, hobject, Option.map_some]
  have hmem : Key.below key names ∈ bucket.keys := by
    rw [← Bucket.content?_isSome, hcontent, Option.isSome_some]
  have hspell (front : List Text) (hfront : front <+: names) :
      origin.spell front = some (Key.below key front) := by
    obtain ⟨rest, rfl⟩ := hfront
    exact hlocated.spell_eq hnames.left fun hazure name hname =>
      hquery hazure name (List.mem_append_left _ hname)
  have hreachable : origin.Reachable names :=
    Origin.reachable_of_holds hlocated.closed hne hnames hspell (Or.inl hmem)
  have hfull := hspell names (List.prefix_refl _)
  have hdirectory := Origin.isDirectory_iff hlocated.closed hne hnames hfull
  refine ⟨fun directory site' hmake => ?_, fun hunfit => ?_⟩
  · obtain ⟨number, trail, -, hreplicated⟩ := hlocated.replicated_of_ok hmake
    rw [hreplicated.place_eq, hreplicated.item_eq, Origin.itemAfter, if_neg hne,
      if_pos ((hreplicated.mem_iff names).2 hreachable), Origin.image?]
    refine ⟨fun hapart => ?_, fun hcontinues => ?_⟩
    · have hfile : ¬ origin.isDirectory names = true := fun h => hapart (hdirectory.1 h)
      rw [if_neg hfile, Origin.content?, hfull, Option.bind_some, hcontent]
      rfl
    · rw [if_pos (hdirectory.2 hcontinues)]
      rfl
  · cases hmake : make kind path site with
    | error failure site' => exact ⟨failure, site', rfl⟩
    | ok directory site' =>
        -- What has been made was placed, so the system has taken the names and the path.
        obtain ⟨number, trail, hlater, hreplicated⟩ := hlocated.replicated_of_ok hmake
        have hplaced := hreplicated.placeable names ((hreplicated.mem_iff names).2 hreachable)
        rcases hunfit with ⟨name, hname, hunfit⟩ | hlong
        · refine absurd ⟨hplaced.ordinary name hname, fun hnul => ?_⟩ hunfit
          exact hplaced.passes.noNul (Path.mem_below_of_name hname hnul)
        · exact absurd hplaced.passes.short (Nat.not_lt_of_le (hlong number hlater))

/-- A key that leads to a file in a subdirectory. -/
def fileBucket : Bucket := [("src/d/f".toList, ⟨⟨#[49]⟩, Object.usualMoment⟩)]

/-- A key below the source that leads out of it as a local path. -/
def upwardBucket : Bucket := [("src/../f".toList, ⟨⟨#[49]⟩, Object.usualMoment⟩)]

/-- A file in a subdirectory keeps its content; where a key leads out, no replica is made. -/
theorem make_lossless_nested :
    (∃ directory site',
      make .s3 "s3://b/src".toList (.storing .s3 "b".toList fileBucket) = .ok directory site' ∧
      Node.item? (site'.disk.placeOf directory.path ++ ["d".toList, "f".toList]) site'.disk.top =
        some (.file ⟨#[49]⟩ 0)) ∧
    ∃ failure site',
      make .s3 "s3://b/src".toList (.storing .s3 "b".toList upwardBucket) =
        .error failure site' := by
  have haddress : Backend.addressOf .s3 "s3://b/src".toList = .ok ("b".toList, "src".toList) := rfl
  constructor
  · let origin : Origin := ⟨.s3, "s3://b/src".toList, "b".toList, fileBucket⟩
    have hlocated : origin.Located "s3://b/src".toList "src".toList
        (.storing .s3 "b".toList fileBucket) :=
      ⟨by decide, rfl, haddress, Site.bucket?_storing, fun _ => by decide⟩
    have hdirectory : fileBucket.hasDirectory "src".toList = true :=
      (Bucket.hasDirectory_iff (by decide) rfl).2 (by decide +kernel)
    obtain ⟨number, trail, directory, site', -, -, hmake, -⟩ :=
      hlocated.make_succeeds_of_keys nofun (by decide +kernel) hdirectory Site.answers_storing
        (Origin.traceable_storing _ _) Local.makeTemporary_storing (by decide +kernel)
    have hnames : Text.Solid ["d".toList, "f".toList] := by decide +kernel
    have hapart : ¬ fileBucket.Continues (Key.below "src".toList ["d".toList, "f".toList]) := by
      decide +kernel
    have hobject : fileBucket.get? (Key.below "src".toList ["d".toList, "f".toList]) =
        some ⟨⟨#[49]⟩, Object.usualMoment⟩ := rfl
    have hlossless := make_lossless (by decide) haddress (fun _ => by decide) Site.bucket?_storing
      (List.cons_ne_nil _ _) hnames hobject nofun
    exact ⟨directory, site', hmake, (hlossless.1 directory site' hmake).1 hapart⟩
  · have hnames : Text.Solid ["..".toList, "f".toList] := by decide +kernel
    have hobject : upwardBucket.get? (Key.below "src".toList ["..".toList, "f".toList]) =
        some ⟨⟨#[49]⟩, Object.usualMoment⟩ := rfl
    have hunfit : ∃ name ∈ ["..".toList, "f".toList],
        ¬ (Disk.Ordinary name ∧ '\x00' ∉ name) :=
      ⟨"..".toList, List.mem_cons_self, by decide +kernel⟩
    exact (make_lossless (by decide) haddress (fun _ => by decide) Site.bucket?_storing
      (List.cons_ne_nil _ _) hnames hobject nofun).2 (Or.inl hunfit)

/-- A container with two blobs; the name of one is that of the other with a query behind it. -/
def queryBucket : Bucket :=
  [("x".toList, ⟨⟨#[49]⟩, Object.usualMoment⟩), ("x?y".toList, ⟨⟨#[50]⟩, Object.usualMoment⟩)]

/-- The container as the source of a walk. -/
def queryOrigin : Origin := ⟨.azure, "as://h/c".toList, "c".toList, queryBucket⟩

theorem queryOrigin_located :
    queryOrigin.Located "as://h/c".toList [] (.storing .azure "c".toList queryBucket) :=
  ⟨by decide, rfl, rfl, Site.bucket?_storing, nofun⟩

/-- Both names are spelled alike. -/
theorem spell_queryOrigin : queryOrigin.spell ["x".toList] = some "x".toList ∧
    queryOrigin.spell ["x?y".toList] = some "x".toList := ⟨rfl, rfl⟩

/-- Whatever is spelled like the first blob is a file with its content. -/
theorem image?_queryOrigin (hspell : queryOrigin.spell names = some "x".toList) :
    queryOrigin.isDirectory names = false ∧
      queryOrigin.image? names = some (.file ⟨#[49]⟩ 0) := by
  have hfile : queryBucket.hasDirectory "x".toList = false := by
    rw [← Bool.not_eq_true, Bucket.hasDirectory_iff (by decide) rfl]
    decide +kernel
  have hnot : queryOrigin.isDirectory names = false := by
    rw [Origin.isDirectory, hspell]
    exact hfile
  refine ⟨hnot, ?_⟩
  rw [Origin.image?, hnot, if_neg Bool.false_ne_true, Origin.content?, hspell]
  rfl

/-- A walk comes to the two blobs only. -/
theorem reachable_queryOrigin (h : queryOrigin.Reachable names) :
    names = ["x".toList] ∨ names = ["x?y".toList] := by
  induction h with
  | @top name h =>
      rw [Origin.mem_children_iff rfl Text.Solid.nil queryOrigin_located.spell_nil] at h
      have hbelow : Key.below [] ([] ++ [name]) = name := rfl
      have hfree : ∀ found ∈ queryBucket.keys, slash ∉ found := by decide +kernel
      rw [hbelow] at h
      have hkeys : name = "x".toList ∨ name = "x?y".toList := by
        rcases h.2 with hmem | ⟨found, hmem, hcontinues⟩
        · simpa [queryOrigin, queryBucket, Bucket.keys] using hmem
        · exact absurd (hcontinues.subset (by simp)) (hfree found hmem)
      exact hkeys.imp (congrArg (fun name => [name])) (congrArg (fun name => [name]))
  | @child above name hnames hdirectory h ih =>
      -- Neither of them is a directory, so nothing lies below.
      have hspell : queryOrigin.spell above = some "x".toList := by
        rcases ih with rfl | rfl
        · exact spell_queryOrigin.1
        · exact spell_queryOrigin.2
      rw [(image?_queryOrigin hspell).1] at hdirectory
      cases hdirectory

/-- A blob whose name holds a query mark gets the content of the one without the query. -/
theorem make_confuses_query :
    ∃ directory site' object,
      make .azure "as://h/c".toList (.storing .azure "c".toList queryBucket) =
        .ok directory site' ∧
      queryBucket.get? "x?y".toList = some object ∧
        ∀ modified, Node.item? (site'.disk.placeOf directory.path ++ ["x?y".toList])
          site'.disk.top ≠ some (.file object.content modified) := by
  have hplaceable (number : Nat) (hname : Local.temporaryName 1 = Local.temporaryName number)
      (names : List Text) (h : queryOrigin.Reachable names) :
      queryOrigin.Placeable number names := by
    rcases reachable_queryOrigin h with rfl | rfl
    · refine ⟨?_, ?_, by decide +kernel⟩
      · rw [(image?_queryOrigin spell_queryOrigin.1).2, Option.isSome_some]
      · rw [← hname]
        exact ⟨by decide +kernel, by decide +kernel, by decide +kernel⟩
    · refine ⟨?_, ?_, by decide +kernel⟩
      · rw [(image?_queryOrigin spell_queryOrigin.2).2, Option.isSome_some]
      · rw [← hname]
        exact ⟨by decide +kernel, by decide +kernel, by decide +kernel⟩
  obtain ⟨number, trail, directory, site', -, -, hmake, hreplicated⟩ :=
    queryOrigin_located.make_succeeds rfl Site.answers_storing (Origin.traceable_storing _ _)
      Local.makeTemporary_storing hplaceable
  refine ⟨directory, site', _, hmake, rfl, fun modified => ?_⟩
  rw [hreplicated.place_eq, hreplicated.item_eq,
    Origin.itemAfter, if_neg (by decide), (image?_queryOrigin spell_queryOrigin.2).2]
  split
  · intro hsame
    cases hsame
  · intro hsame
    cases hsame

end ArtifactDepot.Replica
