import ArtifactDepot.Proofs.Complete

/-!
# The rounds of a copy

A copy goes round after round: each takes the entries that the one before has
found, until there are none.  `Replica.roundsFrom` lists the entries of every
round, and `levels_eq_rounds` says that these rounds are what a copy does.
Every child that is spelled as it is lies one name deeper than its directory.
So there are at most as many rounds as there are components in what remains of
a key below the source, and nothing is visited twice
(`Replica.rounds_bounded`).
-/

namespace ArtifactDepot

open ArtifactDepot.Action
open Text (slash)

namespace Replica

variable {kind : Kind} {source replica : Text}

/-- The entries of each round as long as there are any.  A round that fails is the last one. -/
def roundsFrom (kind : Kind) (source replica : Text) : Nat → Names → Site → List Names
  | 0, _, _ => []
  | bound + 1, entries, site =>
      if entries.toList.isEmpty then []
      else
        entries ::
          match level kind source replica entries site with
          | .ok found site' => roundsFrom kind source replica bound found site'
          | .error _ _ => []

/-- A copy level by level copies the entries of each round, unless the bound cuts them off. -/
theorem levels_eq_rounds {bound : Nat} {entries : Names} {site : Site}
    (h : (roundsFrom kind source replica bound entries site).length < bound) :
    levels kind source replica bound entries site =
      (roundsFrom kind source replica bound entries site).forM
        (fun entries => discard (level kind source replica entries)) site := by
  induction bound generalizing entries site with
  | zero => exact absurd h (Nat.not_lt_zero _)
  | succ bound ih =>
      rw [levels, roundsFrom]
      rw [roundsFrom] at h
      by_cases hempty : entries.toList.isEmpty = true
      · rw [if_pos hempty, if_pos hempty]
        rfl
      · rw [if_neg hempty] at h
        rw [if_neg hempty, if_neg hempty]
        cases hrun : level kind source replica entries site with
        | ok found site' =>
            simp only [hrun, List.length_cons] at h
            rw [bind_ok hrun, ih (by omega)]
            change _ = (discard (level kind source replica entries) >>= fun _ =>
              (roundsFrom kind source replica bound found site').forM _) site
            rw [bind_ok (discard_ok hrun)]
        | error failure site' =>
            rw [bind_error hrun]
            exact (bind_error (discard_error hrun)).symm

/-- The entries of each round of the copy that a replica is made with. -/
def rounds (kind : Kind) (path : Text) (site : Site) : List Names :=
  match establish kind path site with
  | .error _ _ => []
  | .ok directory site' =>
      match entriesOf kind directory.source site' with
      | .error _ _ => []
      | .ok entries site'' =>
          roundsFrom kind directory.source directory.path Disk.pathLimit entries site''

/-- A copy that lists its source goes through its rounds, unless the bound cuts them off. -/
theorem copy_eq_rounds {path : Text} {site site' site'' : Site} {directory : LocalDirectory}
    {entries : Names} (hestablish : establish kind path site = .ok directory site')
    (hentries : entriesOf kind directory.source site' = .ok entries site'')
    (h : (rounds kind path site).length < Disk.pathLimit) :
    copy kind directory.source directory.path site' =
      (rounds kind path site).forM
        (fun entries => discard (level kind directory.source directory.path entries)) site'' := by
  have hrounds : rounds kind path site =
      roundsFrom kind directory.source directory.path Disk.pathLimit entries site'' := by
    simp only [rounds, hestablish, hentries]
  rw [hrounds] at h ⊢
  exact (bind_ok hentries).trans (levels_eq_rounds h)

/-- There are no rounds without a replica to copy into. -/
theorem rounds_eq_nil {path : Text} {site : Site} (hkind : kind ≠ .disk)
    (h : ∀ source number asked, ¬ Begun kind path site source number asked) :
    rounds kind path site = [] := by
  rcases establish_cases hkind path site with
    ⟨source, number, asked, hbegun, -⟩ | ⟨failure, site', hrun, -⟩
  · exact absurd hbegun (h source number asked)
  · simp only [rounds, hrun]

end Replica

/-! ## What remains below a path -/

namespace Site

/-- What remains of each key below the one that a path addresses. -/
def remains (site : Site) (kind : Kind) (path : Text) : List Text :=
  match Backend.addressOf kind path with
  | .error _ => []
  | .ok (name, key) => ((site.cloud.bucket? kind name).map (·.rests key)).getD []

/-- The largest number of components of what remains of a key below the path. -/
def depthBelow (site : Site) (kind : Kind) (path : Text) : Nat :=
  ((site.remains kind path).map fun rest => (Text.components rest).length).max?.getD 0

theorem length_le_depthBelow {site : Site} {kind : Kind} {path rest : Text}
    (h : rest ∈ site.remains kind path) :
    (Text.components rest).length ≤ site.depthBelow kind path :=
  List.le_max?_getD_of_mem (List.mem_map_of_mem h)

end Site

/-! ## Visits -/

/-- Elements that are values of a function are the values at a list of arguments. -/
theorem exists_map_of_forall {α β : Type} {f : β → α} {p : β → Prop} {values : List α}
    (h : ∀ value ∈ values, ∃ argument, p argument ∧ value = f argument) :
    ∃ arguments : List β, values = arguments.map f ∧ ∀ argument ∈ arguments, p argument := by
  induction values with
  | nil => exact ⟨[], rfl, nofun⟩
  | cons first others ih =>
      obtain ⟨argument, hargument, hfirst⟩ := h first (List.mem_cons_self ..)
      obtain ⟨arguments, hothers, harguments⟩ :=
        ih fun value hvalue => h value (List.mem_cons_of_mem _ hvalue)
      refine ⟨argument :: arguments, by rw [hfirst, hothers, List.map_cons], fun other hother => ?_⟩
      rcases List.mem_cons.1 hother with rfl | hother
      · exact hargument
      · exact harguments other hother

namespace Origin

variable {origin : Origin} {length : Nat} {entries : Names} {start site : Site} {disk : Disk}
  {number : Nat} {trail : List (List Text)}

/-- The names that some rounds visit, the first of which visits those of a length. -/
structure Visits (origin : Origin) (length : Nat) (rounds : List Names)
    (visited : List (List Text)) : Prop where
  all : rounds.flatMap Names.toList = visited.map (Path.below origin.root)
  reachable : ∀ names ∈ visited, origin.Reachable names ∧ length ≤ names.length
  nodup : visited.Nodup
  /-- Deeper names would not fit into a local path. -/
  shallow : ∀ names ∈ visited, names.length < Disk.pathLimit
  /-- Each round lies one name deeper than the one before. -/
  deepest : rounds ≠ [] → ∃ names ∈ visited, length + rounds.length = names.length + 1

theorem Visits.nil : origin.Visits length [] [] := ⟨rfl, nofun, List.nodup_nil, nofun, nofun⟩

/-- There are fewer rounds than a path may have bytes. -/
theorem Visits.length_lt {rounds : List Names} {visited : List (List Text)}
    (h : origin.Visits 1 rounds visited) : rounds.length < Disk.pathLimit := by
  by_cases hnone : rounds = []
  · rw [hnone]
    decide
  · obtain ⟨names, hnames, hlength⟩ := h.deepest hnone
    have hshallow := h.shallow names hnames
    omega

/-- The directory of an entry has been placed, so the entry does not lie too deep. -/
theorem Frontier.shallow (hfrontier : origin.Frontier length entries)
    (htrail : origin.Upto length trail) (hsite : origin.Copied start disk number trail site)
    (hne : entries.toList ≠ []) : length < Disk.pathLimit := by
  obtain ⟨entry, hentry⟩ := List.exists_mem_of_ne_nil _ hne
  obtain ⟨names, hreachable, rfl, -⟩ := (hfrontier entry).1 (Names.mem_def.2 hentry)
  have hpos := List.length_pos_iff.2 hreachable.ne_nil
  have hlimit : 1 < Disk.pathLimit := by decide
  have hdropped : names.dropLast.length = names.length - 1 := List.length_dropLast
  rcases hreachable.parent with htop | ⟨habove, -⟩
  · rw [htop, List.length_nil] at hdropped
    omega
  · have hplaced := hsite.1 _ ((htrail.mem_iff _).2 ⟨habove, by omega⟩)
    by_contra hdeep
    exact not_placeable_of_length (by omega) hplaced

/-- A frontier is visited in one round. -/
theorem Frontier.visited (h : origin.Frontier length entries) :
    ∃ visited : List (List Text), entries.toList = visited.map (Path.below origin.root) ∧
      visited.Nodup ∧
      ∀ names ∈ visited, origin.Reachable names ∧ names.length = length := by
  have hentries (entry : Text) (hentry : entry ∈ entries.toList) : ∃ names,
      (origin.Reachable names ∧ names.length = length) ∧ entry = Path.below origin.root names := by
    obtain ⟨names, hreachable, hlength, hsame⟩ := (h entry).1 (Names.mem_def.2 hentry)
    exact ⟨names, ⟨hreachable, hlength⟩, hsame⟩
  obtain ⟨visited, hall, hvisited⟩ := exists_map_of_forall hentries
  refine ⟨visited, hall, ?_, hvisited⟩
  have hascending := entries.ascending
  rw [hall, List.pairwise_map] at hascending
  refine hascending.imp fun hlt hsame => ?_
  rw [hsame] at hlt
  exact List.lt_irrefl _ hlt

/-- One round more is visited before the others. -/
theorem Visits.cons {rounds : List Names} {visited : List (List Text)}
    (h : origin.Visits (length + 1) rounds visited) (hfrontier : origin.Frontier length entries)
    (hshallow : length < Disk.pathLimit) (hne : entries.toList ≠ []) :
    ∃ visited, origin.Visits length (entries :: rounds) visited := by
  obtain ⟨first, hall, hnodup, hfirst⟩ := hfrontier.visited
  refine ⟨first ++ visited, ?_, ?_, ?_, ?_, fun _ => ?_⟩
  · rw [List.flatMap_cons, hall, h.all, List.map_append]
  · intro names hnames
    rcases List.mem_append.1 hnames with hnames | hnames
    · exact ⟨(hfirst names hnames).1, Nat.le_of_eq (hfirst names hnames).2.symm⟩
    · obtain ⟨hreachable, hlength⟩ := h.reachable names hnames
      exact ⟨hreachable, by omega⟩
  · refine List.nodup_append.2 ⟨hnodup, h.nodup, fun names hnames other hother hsame => ?_⟩
    have hlength := (h.reachable other hother).2
    rw [← hsame, (hfirst names hnames).2] at hlength
    omega
  · intro names hnames
    rcases List.mem_append.1 hnames with hnames | hnames
    · rwa [(hfirst names hnames).2]
    · exact h.shallow names hnames
  · by_cases hlast : rounds = []
    · obtain ⟨entry, hentry⟩ := List.exists_mem_of_ne_nil _ hne
      rw [hall] at hentry
      obtain ⟨names, hnames, -⟩ := List.mem_map.1 hentry
      refine ⟨names, List.mem_append_left _ hnames, ?_⟩
      rw [(hfirst names hnames).2, hlast]
      rfl
    · obtain ⟨names, hnames, hlength⟩ := h.deepest hlast
      refine ⟨names, List.mem_append_right _ hnames, ?_⟩
      rw [List.length_cons]
      omega

/-- The rounds from a frontier on visit reachable names, each of them once. -/
theorem roundsFrom_visits (hroom : disk.HasRoom number) (hsound : origin.Sound)
    (hbucket : start.cloud.bucket? origin.kind origin.name = some origin.bucket) (bound : Nat)
    (hpos : 0 < length) (htrail : origin.Upto length trail)
    (hfrontier : origin.Frontier length entries)
    (hsite : origin.Copied start disk number trail site) :
    ∃ visited, origin.Visits length
      (Replica.roundsFrom origin.kind origin.root (Local.temporaryName number) bound entries site)
      visited := by
  induction bound generalizing length entries trail site with
  | zero => exact ⟨[], .nil⟩
  | succ bound ih =>
      rw [Replica.roundsFrom]
      by_cases hempty : entries.toList.isEmpty = true
      · rw [if_pos hempty]
        exact ⟨[], .nil⟩
      · rw [if_neg hempty]
        have hne : entries.toList ≠ [] := by simpa using hempty
        have hshallow := hfrontier.shallow htrail hsite hne
        have hlevel := level_ends hroom hsound hbucket hpos htrail hfrontier
        cases hrun : Replica.level origin.kind origin.root (Local.temporaryName number) entries
            site with
        | error failure site' => exact Visits.nil.cons hfrontier hshallow hne
        | ok found site' =>
            obtain ⟨hfound, trail', htrail', hsite'⟩ := hlevel.ok hsite hrun
            obtain ⟨visited, hvisits⟩ := ih (Nat.succ_pos _) htrail' hfound hsite'
            exact hvisits.cons hfrontier hshallow hne

namespace Located

variable {path key : Text} {names : List Text} (h : origin.Located path key site)

include h

/-- The rounds of a replica visit reachable names, each of them once. -/
theorem rounds_visits :
    ∃ visited, origin.Visits 1 (Replica.rounds origin.kind path site) visited := by
  rcases Replica.establish_cases h.remote path site with
    ⟨source, number, asked, hbegun, hrun⟩ | ⟨failure, site', hrun, -⟩
  · cases hbegun.source_eq.symm.trans h.root_eq
    have hbucket : (Replica.prepared asked number).cloud.bucket? origin.kind origin.name =
        some origin.bucket := (h.recorded hbegun.silent.toRecorded).bucket_eq
    simp only [Replica.rounds, hrun, Replica.directoryAt]
    cases hentries : Replica.entriesOf origin.kind origin.root (Replica.prepared asked number) with
    | error failure site' => exact ⟨[], .nil⟩
    | ok entries site' =>
        obtain ⟨hfrontier, hsite⟩ :=
          (top_ends h.sound hbucket h.spell_nil).ok (copied_nil hbegun) hentries
        exact roundsFrom_visits hbegun.room h.sound hbucket _ Nat.one_pos upto_one hfrontier
          hsite
  · simp only [Replica.rounds, hrun]
    exact ⟨[], .nil⟩

variable (hquery : origin.kind = .azure → ∀ rest ∈ origin.bucket.rests key, '?' ∉ rest)

include hquery

omit h in
/-- No name that a key holds below the source has a query mark, if what remains of it has none. -/
theorem noQuery_of_holds (hnames : Text.Solid names)
    (hholds : origin.bucket.Holds (Key.below key names)) (hazure : origin.kind = .azure) :
    ∀ name ∈ names, '?' ∉ name := by
  intro name hname hmem
  obtain ⟨rest, hrest, hfront⟩ := hholds.exists_rest (List.ne_nil_of_mem hname) hnames
  refine hquery hazure rest hrest ?_
  have hpart := (List.mem_filter.1 (hfront.subset hname)).1
  rw [← Text.join_components rest]
  exact Text.mem_join_of_mem hpart hmem

/-- What a walk comes to is held by a key. -/
theorem holds_of_reachable (hreachable : origin.Reachable names) :
    origin.bucket.Holds (Key.below key names) := by
  refine Origin.holds_of_reachable h.closed (fun above habove hholds => ?_) hreachable
  rcases hholds with rfl | hholds
  · exact h.spell_nil
  · exact h.spell_eq habove (noQuery_of_holds hquery habove hholds)

/-- A walk never comes deeper than what remains of some key. -/
theorem length_of_reachable (hreachable : origin.Reachable names) :
    ∃ rest ∈ origin.bucket.rests key, names.length ≤ (Text.components rest).length := by
  obtain ⟨rest, hrest, hfront⟩ := (h.holds_of_reachable hquery hreachable).exists_rest
    hreachable.ne_nil hreachable.solid
  exact ⟨rest, hrest, Nat.le_trans hfront.length_le (List.length_filter_le _ _)⟩

/-- What a walk comes to is addressed as it is. -/
theorem addressOf_of_reachable (hreachable : origin.Reachable names) :
    Backend.addressOf origin.kind (Path.below origin.root names) =
      .ok (origin.name, Key.below key names) :=
  Backend.addressOf_below h.remote h.root_eq h.address_eq hreachable.solid h.noColon
    (noQuery_of_holds hquery hreachable.solid (h.holds_of_reachable hquery hreachable))

omit hquery

end Located

end Origin

/-- Different names below a key make different keys. -/
theorem Key.below_injective {key : Text} {names others : List Text} (hne : names ≠ [])
    (hnames : Text.Solid names) (hne' : others ≠ []) (hothers : Text.Solid others)
    (h : Key.below key names = Key.below key others) : names = others := by
  rw [Key.below_eq hne, Key.below_eq hne'] at h
  have hjoin := congrArg Text.solidComponents (List.append_cancel_left h)
  rwa [Text.solidComponents_join hnames, Text.solidComponents_join hothers] at hjoin

namespace Replica

variable {kind : Kind} {path : Text} {site : Site}

/-- A replica is only begun for a source that addresses a bucket that is there. -/
theorem Begun.located {source : Text} {number : Nat} {asked : Site} (hkind : kind ≠ .disk)
    (hcolon : kind = .s3 → ∀ address, Backend.addressOf kind path = .ok address → ':' ∉ address.1)
    (h : Begun kind path site source number asked) :
    ∃ (origin : Origin) (key : Text), origin.kind = kind ∧ origin.Located path key site := by
  obtain ⟨⟨name, key⟩, haddress⟩ := Backend.addressOf_of_normalize h.source_eq
  have hnoColon (hs3 : kind = .s3) : ':' ∉ name := hcolon hs3 _ haddress
  have hsource := Backend.addressOf_below hkind h.source_eq haddress Text.Solid.nil hnoColon
    fun _ => nofun
  rw [Path.below_nil] at hsource
  obtain ⟨site', hsilent, hdirectory⟩ := h.present
  obtain ⟨bucket, hbucket⟩ := Backend.bucket_of_isDirectory hkind hsource hdirectory
  rw [hsilent.cloud_eq] at hbucket
  exact ⟨⟨kind, source, name, bucket⟩, key, rfl, hkind, h.source_eq, haddress, hbucket, hnoColon⟩

/--
A copy that has listed its source goes from round to round.  There are no more rounds than components
in what remains of a key below the source, and no object and no directory is addressed twice.  What
remains of a blob must hold no query mark, and the name of an S3 bucket no colon: such a path is read
as another one.
-/
theorem rounds_bounded (hkind : kind ≠ .disk)
    (hcolon : kind = .s3 → ∀ address, Backend.addressOf kind path = .ok address → ':' ∉ address.1)
    (hquery : kind = .azure → ∀ rest ∈ site.remains kind path, '?' ∉ rest) :
    (rounds kind path site).length ≤ site.depthBelow kind path ∧
      (∃ addresses : List (Text × Text), ((rounds kind path site).flatMap Names.toList).map
          (Backend.addressOf kind) = addresses.map .ok ∧ addresses.Nodup) ∧
      ∀ directory site' entries site'', establish kind path site = .ok directory site' →
        entriesOf kind directory.source site' = .ok entries site'' →
          copy kind directory.source directory.path site' =
            (rounds kind path site).forM
              (fun entries => discard (level kind directory.source directory.path entries))
              site'' := by
  by_cases hbegun : ∃ source number asked, Begun kind path site source number asked
  · obtain ⟨source, number, asked, hbegun⟩ := hbegun
    obtain ⟨origin, key, rfl, hlocated⟩ := hbegun.located hkind hcolon
    have hremains : site.remains origin.kind path = origin.bucket.rests key := by
      simp only [Site.remains, hlocated.address_eq, hlocated.bucket_eq, Option.map_some,
        Option.getD_some]
    rw [hremains] at hquery
    obtain ⟨visited, hvisits⟩ := hlocated.rounds_visits
    refine ⟨?_, ?_, fun _ _ _ _ hestablish hentries =>
      copy_eq_rounds hestablish hentries hvisits.length_lt⟩
    · by_cases hnone : rounds origin.kind path site = []
      · rw [hnone]
        exact Nat.zero_le _
      · obtain ⟨names, hnames, hlength⟩ := hvisits.deepest hnone
        obtain ⟨rest, hrest, hshort⟩ :=
          hlocated.length_of_reachable hquery (hvisits.reachable names hnames).1
        have hdepth := Site.length_le_depthBelow (hremains.symm ▸ hrest)
        omega
    · refine ⟨visited.map fun names => (origin.name, Key.below key names), ?_, ?_⟩
      · rw [hvisits.all, List.map_map, List.map_map]
        refine List.map_congr_left fun names hnames => ?_
        exact hlocated.addressOf_of_reachable hquery (hvisits.reachable names hnames).1
      · refine List.pairwise_map.2 (hvisits.nodup.imp_of_mem fun hnames hothers hdiffer hsame => ?_)
        have hreachable := (hvisits.reachable _ hnames).1
        have hother := (hvisits.reachable _ hothers).1
        exact hdiffer (Key.below_injective hreachable.ne_nil hreachable.solid hother.ne_nil
          hother.solid (Prod.mk.inj hsame).2)
  · have hnone := rounds_eq_nil hkind fun source number asked h => hbegun ⟨source, number, asked, h⟩
    refine ⟨?_, ⟨[], ?_, List.nodup_nil⟩, fun _ _ _ _ hestablish hentries =>
      copy_eq_rounds hestablish hentries ?_⟩
    · rw [hnone]
      exact Nat.zero_le _
    · rw [hnone]
      rfl
    · rw [hnone]
      decide

/-- A container with a blob two levels below the source. -/
def nestedBucket : Bucket := [("src/d/f".toList, ⟨⟨#[49]⟩, Object.usualMoment⟩)]

/-- The blob is copied in two rounds. -/
theorem rounds_bounded_nested :
    (Site.storing .azure "c".toList nestedBucket).depthBelow .azure "as://h/c/src".toList = 2 ∧
      (rounds .azure "as://h/c/src".toList (.storing .azure "c".toList nestedBucket)).length ≤ 2 := by
  have hdepth :
      (Site.storing .azure "c".toList nestedBucket).depthBelow .azure "as://h/c/src".toList = 2 := by
    decide +kernel
  have hbounded := @rounds_bounded .azure "as://h/c/src".toList
    (.storing .azure "c".toList nestedBucket) (by decide) nofun (fun _ => by decide +kernel)
  rw [hdepth] at hbounded
  exact ⟨hdepth, hbounded.1⟩

end Replica

end ArtifactDepot
