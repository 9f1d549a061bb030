import ArtifactDepot.Proofs.Keys
import ArtifactDepot.Proofs.Walk

/-!
# Replicas are complete

A replica is made only if the walk came to its end, so it holds all of what
the walk can come to, and nothing else (`Origin.Located.replicated_of_ok`).
It is made if nothing is in the way of the walk
(`Origin.Located.make_succeeds`).
-/

namespace ArtifactDepot

open ArtifactDepot.Action

namespace Origin

/-- The source of a walk lies at a path, under a key of a bucket that is there. -/
structure Located (origin : Origin) (path key : Text) (site : Site) : Prop where
  remote : origin.kind ≠ .disk
  root_eq : Backend.normalize origin.kind path = .ok origin.root
  address_eq : Backend.addressOf origin.kind path = .ok (origin.name, key)
  bucket_eq : site.cloud.bucket? origin.kind origin.name = some origin.bucket
  noColon : origin.kind = .s3 → ':' ∉ origin.name

/-- A replica that has been made along a trail. -/
structure Replicated (origin : Origin) (site : Site) (number : Nat) (trail : List (List Text))
    (directory : LocalDirectory) (site' : Site) : Prop where
  mem_iff : ∀ names, names ∈ trail ↔ origin.Reachable names
  sorted : trail.Pairwise origin.Before
  placeable : ∀ names ∈ trail, origin.Placeable number names
  path_eq : directory.path = Local.temporaryName number
  free : site.disk.find? (site.disk.temporaryPlace number) = none
  place_eq : site'.disk.placeOf directory.path = site.disk.temporaryPlace number
  item_eq : ∀ names, Node.item? (site.disk.temporaryPlace number ++ names) site'.disk.top =
    origin.itemAfter trail names
  transfers_eq : site'.transfers = site.transfers ++ trail.flatMap origin.transfers

/-- Names that are spelled as they are lead to a file or a directory if a key holds one. -/
theorem image?_isSome {origin : Origin} {key : Text} {names : List Text}
    (hkey : Path.endsOpen key = false) (hne : names ≠ []) (hnames : Text.Solid names)
    (hspell : origin.spell names = some (Key.below key names))
    (h : origin.bucket.Holds (Key.below key names)) : (origin.image? names).isSome = true := by
  unfold image?
  split
  · rfl
  · next hnot =>
      rw [isDirectory_iff hkey hne hnames hspell] at hnot
      rw [Option.isSome_map, content?, hspell, Option.bind_some]
      exact Bucket.content?_isSome.2 (h.resolve_right hnot)

namespace Located

variable {origin : Origin} {path key : Text} {names : List Text} {site asked : Site} {number : Nat}

/-- A replica that has been started holds nothing yet. -/
theorem copied_nil (hbegun : Replica.Begun origin.kind path site origin.root number asked) :
    origin.Copied (Replica.prepared asked number) site.disk number []
      (Replica.prepared asked number) :=
  ⟨nofun, .blank, .blank origin, hbegun.carries_blank.disk_eq, .refl _, (List.append_nil _).symm⟩

/-- What stands in the way of a replica that has been started stood there before. -/
theorem obstructed_of_prepared (hsilent : Site.Silent site asked)
    (hobstructed : origin.Obstructed number (Replica.prepared asked number)) :
    origin.Obstructed number site := by
  apply hobstructed.imp_right
  intro hdisturbed
  rcases hdisturbed with hstruck | hstopped
  · exact Or.inl fun hanswers => hstruck (hsilent.toRecorded.answers hanswers)
  · refine Or.inr fun htraceable => hstopped fun names hvisited => ?_
    obtain ⟨hfrom, hto⟩ := htraceable names hvisited
    have hasked : Trace.Passable asked (Path.below origin.root names) :=
      hfrom.recorded hsilent.toRecorded
    have hmade : Trace.Passable asked (Path.below (Local.temporaryName number) names) :=
      hto.recorded hsilent.toRecorded
    exact ⟨hasked, hmade⟩

section

variable (h : origin.Located path key site)

include h

theorem sound : origin.Sound where
  remote := h.remote
  isRoot := Backend.isRoot_of_normalize h.remote h.root_eq
  sameBucket hnames hfound :=
    Backend.bucket_below h.remote h.root_eq h.address_eq hnames h.noColon hfound

theorem closed : Path.endsOpen key = false := Backend.key_closed h.remote h.address_eq

/-- Names are spelled as they are, unless one of them holds what starts a query. -/
theorem spell_eq (hnames : Text.Solid names)
    (hquery : origin.kind = .azure → ∀ name ∈ names, '?' ∉ name) :
    origin.spell names = some (Key.below key names) := by
  rw [spell, Backend.addressOf_below h.remote h.root_eq h.address_eq hnames h.noColon hquery]

theorem spell_nil : origin.spell [] = some key := h.spell_eq Text.Solid.nil fun _ => nofun

theorem source_eq : Backend.addressOf origin.kind origin.root = .ok (origin.name, key) := by
  have haddress := Backend.addressOf_below h.remote h.root_eq h.address_eq Text.Solid.nil h.noColon
    fun _ => nofun
  rwa [Path.below_nil] at haddress

/-- Requests do not move the source. -/
theorem recorded {site' : Site} (hrecorded : Site.Recorded site site') :
    origin.Located path key site' :=
  { h with bucket_eq := by rw [hrecorded.cloud_eq, h.bucket_eq] }

/-- A replica that has been started is finished, unless something is in the way. -/
theorem make_run (hbegun : Replica.Begun origin.kind path site origin.root number asked) :
    match Replica.make origin.kind path site with
    | .ok directory site' => ∃ trail, origin.Replicated site number trail directory site'
    | .error _ _ => origin.Obstructed number site := by
  have hblank := copied_nil hbegun
  have hbucket : (Replica.prepared asked number).cloud.bucket? origin.kind origin.name =
      some origin.bucket := (h.recorded hbegun.silent.toRecorded).bucket_eq
  have hcopy := copy_ends hbegun.room h.sound hbucket h.spell_nil
  obtain ⟨replica, -, hcases⟩ := hbegun.make_run h.remote
  rcases hcases with
    ⟨site', hrun, hdisk, -, hmake⟩ | ⟨failure, copied, hrun, -, -, site', -, -, hcases⟩
  · rw [hmake]
    obtain ⟨trail, hmem, hsorted, hplaced, mirrored, hmirrors, hholds⟩ := hcopy.ok hblank hrun
    refine ⟨trail, hmem, hsorted, hplaced, rfl, hbegun.room.free, ?_, fun names => ?_, ?_⟩
    · rw [hdisk]
      exact Disk.placeOf_temporaryName (site.disk.hosting number replica) number
    · rw [← hmirrors.item_eq, hholds.disk_eq, Node.item?, Node.item?]
      exact congrArg _ (hbegun.room.find?_hosting mirrored names)
    · rw [hholds.transfers_eq]
      exact congrArg (· ++ _) hbegun.silent.transfers_eq
  · have hobstructed := obstructed_of_prepared hbegun.silent (hcopy.error hblank hrun)
    rcases hcases with ⟨-, hmake, -⟩ | ⟨rest, -, hmake, -⟩
    · rw [hmake]
      exact hobstructed
    · rw [hmake]
      exact hobstructed

/-- A replica that has been made holds what the walk comes to. -/
theorem replicated_of_ok {directory : LocalDirectory} {site' : Site}
    (hmake : Replica.make origin.kind path site = .ok directory site') :
    ∃ number trail, site.lastTemporary < number ∧
      origin.Replicated site number trail directory site' := by
  rcases Replica.make_cases h.remote path site with
    ⟨source, number, asked, hbegun⟩ | ⟨failure, failed, hrun, -⟩
  · have hsource := hbegun.source_eq.symm.trans h.root_eq
    cases hsource
    have hrun := h.make_run hbegun
    rw [hmake] at hrun
    obtain ⟨trail, hreplicated⟩ := hrun
    exact ⟨number, trail, hbegun.later, hreplicated⟩
  · rw [hrun] at hmake
    cases hmake

/-- A replica of a directory is started if a temporary one can be made. -/
theorem make_begins {name : Text} {made : Site} (hdirectory : origin.bucket.hasDirectory key = true)
    (hanswers : site.Answers origin.kind origin.name)
    (hpassable : Trace.Passable site origin.root)
    (htemporary : Local.makeTemporary site = .ok name made) :
    ∃ number asked, name = Local.temporaryName number ∧
      Replica.Begun origin.kind path site origin.root number asked := by
  have hpresents := Backend.isPresent_yields h.remote h.source_eq h.bucket_eq hdirectory
  obtain ⟨site₁, hpresent, hrecorded₁, hmoved₁⟩ := hpresents.run hanswers hpassable
  rw [List.append_nil] at hmoved₁
  have hinspects := Backend.isDirectory_yields h.remote h.source_eq (h.recorded hrecorded₁).bucket_eq
    origin.root
  rw [hdirectory] at hinspects
  obtain ⟨site₂, hinspect, hrecorded₂, hmoved₂⟩ :=
    hinspects.run (hrecorded₁.answers hanswers) (hpassable.recorded hrecorded₁)
  rw [List.append_nil] at hmoved₂
  have hsilent : Site.Silent site site₂ :=
    ⟨hrecorded₁.trans hrecorded₂, hmoved₂.trans hmoved₁⟩
  obtain ⟨number, rfl, hlater, hroom, hmade⟩ :=
    Local.makeTemporary_congr hsilent.disk_eq hsilent.lastTemporary_eq htemporary
  rw [hsilent.lastTemporary_eq] at hlater
  rw [hsilent.disk_eq] at hroom
  exact ⟨number, site₂, rfl, h.root_eq, ⟨site₁, ⟨hrecorded₁, hmoved₁⟩, hinspect⟩, hsilent, hlater,
    hroom, Replica.make_eq h.root_eq hpresent hinspect hmade⟩

/-- A replica is made of a directory if a temporary one can be made and all can be copied. -/
theorem make_succeeds {name : Text} {made : Site}
    (hdirectory : origin.bucket.hasDirectory key = true)
    (hanswers : site.Answers origin.kind origin.name) (htraceable : origin.Traceable name site)
    (htemporary : Local.makeTemporary site = .ok name made)
    (hplaceable : ∀ number, name = Local.temporaryName number →
      ∀ names, origin.Reachable names → origin.Placeable number names) :
    ∃ number trail directory site', name = Local.temporaryName number ∧
      site.lastTemporary < number ∧
        Replica.make origin.kind path site = .ok directory site' ∧
          origin.Replicated site number trail directory site' := by
  have hpassable := (htraceable [] (Or.inl rfl)).1
  rw [Path.below_nil] at hpassable
  obtain ⟨number, asked, rfl, hbegun⟩ := h.make_begins hdirectory hanswers hpassable htemporary
  have hrun := h.make_run hbegun
  cases hmake : Replica.make origin.kind path site with
  | ok directory site' =>
      rw [hmake] at hrun
      obtain ⟨trail, hreplicated⟩ := hrun
      exact ⟨number, trail, directory, site', rfl, hbegun.later, rfl, hreplicated⟩
  | error failure site' =>
      rw [hmake] at hrun
      rcases hrun with ⟨names, hreachable, hnot⟩ | hstruck | hstopped
      · exact absurd (hplaceable number rfl names hreachable) hnot
      · exact absurd hanswers hstruck
      · exact absurd htraceable hstopped

/-- What a key holds can be copied if the system takes its names and its path. -/
theorem placeable (hne : names ≠ []) (hnames : Text.Solid names)
    (hspell : origin.spell names = some (Key.below key names))
    (hholds : origin.bucket.Holds (Key.below key names))
    (hordinary : ∀ name ∈ names, Disk.Ordinary name ∧ '\x00' ∉ name)
    (hshort : Text.byteLength (Path.below (Local.temporaryName number) names) < Disk.pathLimit) :
    origin.Placeable number names where
  imaged := image?_isSome h.closed hne hnames hspell hholds
  ordinary name hname := (hordinary name hname).1
  passes := by
    refine ⟨fun hmem => ?_, ?_, hshort⟩
    · rcases Path.mem_below hmem with hmem | hmem | ⟨name, hname, hmem⟩
      · exact Local.noNul_temporaryName number hmem
      · exact absurd hmem (by decide)
      · exact (hordinary name hname).2 hmem
    · exact ((Local.isRoot_temporaryName number).below hnames).1

/-- What a key holds is spelled as it is, if no blob has a query mark. -/
theorem spell_of_holds (hquery : origin.kind = .azure → ∀ found ∈ origin.bucket.keys, '?' ∉ found)
    (hne : names ≠ []) (hnames : Text.Solid names)
    (hholds : origin.bucket.Holds (Key.below key names)) :
    origin.spell names = some (Key.below key names) :=
  h.spell_eq hnames fun hazure => hholds.not_mem hne (hquery hazure)

/-- A walk comes to what the keys hold, and to nothing else. -/
theorem reachable_iff (hquery : origin.kind = .azure → ∀ found ∈ origin.bucket.keys, '?' ∉ found) :
    origin.Reachable names ↔
      names ≠ [] ∧ Text.Solid names ∧ origin.bucket.Holds (Key.below key names) := by
  constructor
  · intro hreachable
    refine ⟨hreachable.ne_nil, hreachable.solid, ?_⟩
    refine holds_of_reachable h.closed (fun above habove hholds => ?_) hreachable
    by_cases hne : above = []
    · rw [hne]
      exact h.spell_nil
    · exact h.spell_of_holds hquery hne habove (hholds.resolve_left hne)
  · rintro ⟨hne, hnames, hholds⟩
    refine reachable_of_holds h.closed hne hnames (fun front hfront => ?_) hholds
    apply h.spell_eq (fun name hname => hnames name (hfront.subset hname))
    intro hazure name hname
    exact hholds.not_mem hne (hquery hazure) name (hfront.subset hname)

/-- A replica is made if the system takes every key that remains below the source. -/
theorem make_succeeds_of_keys {name : Text} {made : Site}
    (hquery : origin.kind = .azure → ∀ found ∈ origin.bucket.keys, '?' ∉ found)
    (hordinary : ∀ rest ∈ origin.bucket.rests key, ∀ part ∈ Text.solidComponents rest,
      Disk.Ordinary part ∧ '\x00' ∉ part)
    (hdirectory : origin.bucket.hasDirectory key = true)
    (hanswers : site.Answers origin.kind origin.name) (htraceable : origin.Traceable name site)
    (htemporary : Local.makeTemporary site = .ok name made)
    (hshort : ∀ rest ∈ origin.bucket.rests key,
      Text.byteLength (Path.below name (Text.solidComponents rest)) < Disk.pathLimit) :
    ∃ number trail directory site', name = Local.temporaryName number ∧
      site.lastTemporary < number ∧
        Replica.make origin.kind path site = .ok directory site' ∧
          origin.Replicated site number trail directory site' := by
  apply h.make_succeeds hdirectory hanswers htraceable htemporary
  rintro number rfl names hreachable
  obtain ⟨hne, hnames, hholds⟩ := (h.reachable_iff hquery).1 hreachable
  obtain ⟨rest, hrest, hfront⟩ := hholds.exists_rest hne hnames
  refine h.placeable hne hnames (h.spell_of_holds hquery hne hnames hholds) hholds
    (fun name hname => ?_) ?_
  · exact hordinary rest hrest name (hfront.subset hname)
  · exact Nat.lt_of_le_of_lt (Path.byteLength_below_le _ hfront) (hshort rest hrest)

end

end Located

end Origin

/-! ## A bucket on a fresh site -/

/-- A site that has nothing but one bucket. -/
def Site.storing (kind : Kind) (name : Text) (bucket : Bucket) : Site where
  cloud := { buckets := [((kind, name), bucket)] }

section

variable {kind : Kind} {name : Text} {bucket : Bucket}

theorem Site.bucket?_storing :
    (Site.storing kind name bucket).cloud.bucket? kind name = some bucket := by
  simp [Site.storing, Cloud.bucket?]

/-- Without rules a store answers. -/
theorem Site.answers_storing : (Site.storing kind name bucket).Answers kind name := fun _ _ => rfl

/-- Tracing is off unless the environment turns it on. -/
theorem Site.passable_storing (path : Text) :
    Trace.Passable (Site.storing kind name bucket) path := by
  have hoff : Trace.isEnabled (Site.storing kind name bucket).environment = false :=
    (by decide +kernel : Trace.isEnabled [] = false)
  refine ⟨fun henabled => ?_, if_pos (by rw [Trace.isOff, hoff]; rfl)⟩
  rw [hoff] at henabled
  cases henabled

theorem Origin.traceable_storing (origin : Origin) (replica : Text) :
    origin.Traceable replica (Site.storing kind name bucket) :=
  fun _ _ => ⟨Site.passable_storing _, Site.passable_storing _⟩

/-- There is room for a first temporary directory on a fresh disk. -/
theorem Disk.hasRoom_fresh : Disk.fresh.HasRoom 1 where
  passes := ⟨by decide +kernel, by decide +kernel, by decide +kernel⟩
  stands := ⟨⟨_, rfl, rfl⟩, by decide⟩
  ordinary := by decide +kernel
  free := rfl

theorem Local.makeTemporary_storing :
    Local.makeTemporary (Site.storing kind name bucket) = .ok (Local.temporaryName 1)
      (Local.withTemporary (Site.storing kind name bucket) 1) :=
  Local.makeTemporary_next Disk.hasRoom_fresh

end

end ArtifactDepot
