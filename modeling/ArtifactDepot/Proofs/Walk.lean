import ArtifactDepot.Proofs.Making
import ArtifactDepot.Proofs.Origin

/-!
# The walk

The walk copies the reachable names level by level.  `Origin.visit_ends` is
its step: the replica mirrors one list of names more, or something is in the
way.  `Origin.copy_ends` is the whole run: the replica mirrors all reachable
names, each of which was copied once, the shorter ones first and those of
one length in code-point order.
-/

namespace ArtifactDepot

open Text (slash)
open ArtifactDepot.Action

namespace Origin

/-- The site of a walk: its disk holds the replica, and so much has been transferred. -/
structure Holds (start : Site) (disk : Disk) (number : Nat) (moved : List Call) (replica : Disk)
    (site : Site) : Prop where
  disk_eq : site.disk = disk.hosting number replica
  recorded : Site.Recorded { start with disk := site.disk, past := site.past } site
  transfers_eq : site.transfers = start.transfers ++ moved

variable {origin : Origin} {start site : Site} {disk replica : Disk} {number : Nat}
  {moved more : List Call} {names : List Text} {trail : List (List Text)}

/-- Requests add to what has been transferred and change nothing else. -/
theorem Holds.request (h : Holds start disk number moved replica site) {site' : Site}
    (hrecorded : Site.Recorded site site') (hmore : site'.transfers = site.transfers ++ more) :
    Holds start disk number (moved ++ more) replica site' := by
  have hdisk := hrecorded.disk_eq
  refine ⟨hdisk.trans h.disk_eq, ?_, ?_⟩
  · rw [hdisk, hrecorded.past_eq]
    exact h.recorded.trans hrecorded
  · rw [hmore, h.transfers_eq, List.append_assoc]

/-- Something made in the replica changes nothing else. -/
theorem Holds.put (h : Holds start disk number moved replica site) {site' : Site} {other : Disk}
    (hsilent : Site.Silent (site.withDisk (disk.hosting number other)) site') :
    Holds start disk number moved other site' := by
  refine ⟨hsilent.disk_eq, ?_, ?_⟩
  · rw [hsilent.disk_eq, hsilent.past_eq]
    exact (h.recorded.withDisk _).trans hsilent.toRecorded
  · rw [hsilent.transfers_eq]
    exact h.transfers_eq

/-- Tracing stops nothing that is asked of the source or made in the replica. -/
def Traceable (origin : Origin) (replica : Text) (start : Site) : Prop :=
  ∀ names, names = [] ∨ origin.Reachable names →
    Trace.Passable start (Path.below origin.root names) ∧
      Trace.Passable start (Path.below replica names)

/-- Something prevents the store from answering, or tracing stops the walk. -/
def Disturbed (origin : Origin) (number : Nat) (start : Site) : Prop :=
  ¬ start.Answers origin.kind origin.name ∨
    ¬ origin.Traceable (Local.temporaryName number) start

/-- What the names lead to can be copied into the temporary directory. -/
structure Placeable (origin : Origin) (number : Nat) (names : List Text) : Prop where
  imaged : (origin.image? names).isSome = true
  passes : Disk.Passes (Path.below (Local.temporaryName number) names)
  ordinary : ∀ name ∈ names, Disk.Ordinary name

/-- The walk cannot come to its end. -/
def Obstructed (origin : Origin) (number : Nat) (start : Site) : Prop :=
  (∃ names, origin.Reachable names ∧ ¬ origin.Placeable number names) ∨
    origin.Disturbed number start

variable (disk number moved replica) in
/-- A request about names that the walk comes to yields its value, or the walk is disturbed. -/
theorem request_ends {α : Type} {action : Action α} {value : Option α}
    (hbucket : start.cloud.bucket? origin.kind origin.name = some origin.bucket)
    (hvisited : names = [] ∨ origin.Reachable names)
    (h : ∀ site, site.cloud.bucket? origin.kind origin.name = some origin.bucket →
      Yields (Path.below origin.root names) origin.kind origin.name more value action site) :
    Ends (Holds start disk number moved replica) action
      (fun result site => value = some result ∧
        Holds start disk number (moved ++ more) replica site)
      (fun _ => value = none ∨ origin.Disturbed number start) := by
  intro site hsite
  have hcloud : site.cloud.bucket? origin.kind origin.name = some origin.bucket := by
    rw [hsite.recorded.cloud_eq]
    exact hbucket
  have hyields := h site hcloud
  unfold Yields at hyields
  cases hrun : action site with
  | ok result site' =>
      rw [hrun] at hyields
      obtain ⟨hvalue, hrecorded, hmore⟩ := hyields
      exact ⟨hvalue, hsite.request hrecorded hmore⟩
  | error failure site' =>
      rw [hrun] at hyields
      rcases hyields with hnone | hstruck | hstopped
      · exact Or.inl hnone
      · refine Or.inr (Or.inl fun hanswers => hstruck ?_)
        have hstart : Site.Answers { start with disk := site.disk, past := site.past }
            origin.kind origin.name :=
          hanswers
        exact hsite.recorded.answers hstart
      · refine Or.inr (Or.inr fun htraceable => hstopped ?_)
        have hstart : Trace.Passable { start with disk := site.disk, past := site.past }
            (Path.below origin.root names) := (htraceable names hvisited).1
        exact hstart.recorded hsite.recorded

/-! ## Requests of the walk -/

section Requests

variable (hsound : origin.Sound)
  (hbucket : site.cloud.bucket? origin.kind origin.name = some origin.bucket)
  (hnames : Text.Solid names)

include hsound hbucket hnames

/-- A path with a malformed spelling is refused; any other is looked up in the bucket. -/
theorem isDirectory_yields :
    Yields (Path.below origin.root names) origin.kind origin.name []
      ((origin.spell names).map origin.bucket.hasDirectory)
      (Backend.isDirectory origin.kind (Path.below origin.root names)) site := by
  cases haddress : Backend.addressOf origin.kind (Path.below origin.root names) with
  | error fault =>
      rw [spell, haddress]
      exact Yields.of_error (Backend.isDirectory_malformed hsound.remote haddress site)
  | ok address =>
      obtain ⟨name, key⟩ := address
      rw [spell, haddress]
      cases hsound.sameBucket hnames haddress
      exact Backend.isDirectory_yields hsound.remote haddress hbucket _

theorem contents_yields {key : Text} (hkey : origin.spell names = some key) :
    Yields (Path.below origin.root names) origin.kind origin.name []
      (some (origin.bucket.children key))
      (Backend.contents origin.kind (Path.below origin.root names)) site := by
  cases haddress : Backend.addressOf origin.kind (Path.below origin.root names) with
  | error fault =>
      rw [spell, haddress] at hkey
      cases hkey
  | ok address =>
      obtain ⟨name, found⟩ := address
      rw [spell, haddress] at hkey
      cases hkey
      cases hsound.sameBucket hnames haddress
      exact Backend.contents_yields hsound.remote haddress hbucket

theorem readBytes_yields {key : Text} (hkey : origin.spell names = some key) (hne : key ≠ []) :
    Yields (Path.below origin.root names) origin.kind origin.name
      (Call.transfersOf origin.kind origin.name key)
      (origin.bucket.content? key)
      (Backend.readBytes origin.kind (Path.below origin.root names)) site := by
  cases haddress : Backend.addressOf origin.kind (Path.below origin.root names) with
  | error fault =>
      rw [spell, haddress] at hkey
      cases hkey
  | ok address =>
      obtain ⟨name, found⟩ := address
      rw [spell, haddress] at hkey
      cases hkey
      cases hsound.sameBucket hnames haddress
      exact Backend.readBytes_yields hsound.remote haddress hbucket hne

end Requests

/-! ## One step -/

/-- The replica mirrors the trail, and what was transferred for the trail is all there was. -/
def Copied (origin : Origin) (start : Site) (disk : Disk) (number : Nat)
    (trail : List (List Text)) (site : Site) : Prop :=
  (∀ names ∈ trail, origin.Placeable number names) ∧
    ∃ replica, origin.Mirrors trail replica ∧
      Holds start disk number (trail.flatMap origin.transfers) replica site

/-- The entries are those in the directories among the names. -/
def Lists (origin : Origin) (visited : List (List Text)) (entries : Names) : Prop :=
  ∀ entry, entry ∈ entries ↔ ∃ names ∈ visited, origin.isDirectory names = true ∧
    ∃ name ∈ origin.children names, entry = Path.below origin.root (names ++ [name])

section Steps

variable (hroom : disk.HasRoom number)

include hroom

variable (start moved) in
/-- A directory is made in the replica, unless it cannot be placed. -/
theorem makeDirectory_ends {last : Text} (hmirrors : origin.Mirrors trail replica)
    (hsolid : Text.Solid [last]) (hstands : replica.Stands names)
    (hnew : names ++ [last] ∉ trail) :
    Ends (Holds start disk number moved replica)
      (Local.makeDirectory (Path.below (Local.temporaryName number) (names ++ [last])) false)
      (fun _ site => Disk.Passes (Path.below (Local.temporaryName number) (names ++ [last])) ∧
        Disk.Ordinary last ∧ Holds start disk number moved
          (replica.putEntry (.directory Local.directoryMode 0 []) ⟨names, last⟩) site)
      (fun _ => ¬ origin.Placeable number (names ++ [last])) := by
  intro site hsite
  have hfull := hstands.solid.append hsolid
  rcases Local.makeDirectory_cases
      (Path.below (Local.temporaryName number) (names ++ [last])) site with
    ⟨disk', hmake, hrun⟩ | ⟨⟨failure, hrun⟩, hnever⟩
  · rw [hrun]
    rw [hsite.disk_eq] at hmake
    obtain ⟨hpasses, hlast, -, rfl⟩ := (hroom.makeDirectory_ok_iff hfull hstands).1 hmake
    exact ⟨hpasses, hlast, hsite.put (.refl _)⟩
  · rw [hrun]
    intro hplaceable
    rw [hsite.disk_eq] at hnever
    refine hnever _ ((hroom.makeDirectory_ok_iff hfull hstands).2
      ⟨hplaceable.passes, hplaceable.ordinary last (by simp), ?_, rfl⟩)
    exact hmirrors.find?_eq_none (by simp) hnew

variable (start moved) in
/-- A file is written into the replica, unless it cannot be placed. -/
theorem writeBytes_ends {last : Text} (hmirrors : origin.Mirrors trail replica)
    (hreachable : origin.Reachable (names ++ [last])) (hstands : replica.Stands names)
    (content : ByteArray)
    (hnew : names ++ [last] ∉ trail) :
    Ends (Holds start disk number moved replica)
      (Local.writeBytes (Path.below (Local.temporaryName number) (names ++ [last])) content)
      (fun _ site => Disk.Passes (Path.below (Local.temporaryName number) (names ++ [last])) ∧
        Disk.Ordinary last ∧ Holds start disk number moved
          (replica.putEntry (.file content 0) ⟨names, last⟩) site)
      (fun _ => ¬ origin.Placeable number (names ++ [last]) ∨ origin.Disturbed number start) := by
  intro site hsite
  have hfull := hreachable.solid
  rcases Local.writeBytes_cases
      (Path.below (Local.temporaryName number) (names ++ [last])) content site with
    ⟨disk', site', hwrite, hsilent, hrun⟩ | ⟨⟨failure, site', -, hrun⟩, hreason⟩
  · rw [hrun]
    rw [hsite.disk_eq] at hwrite
    obtain ⟨hpasses, hlast, -, rfl⟩ := hroom.write_ok hfull hstands hwrite
    exact ⟨hpasses, hlast, hsite.put hsilent⟩
  · rw [hrun]
    rcases hreason with hnever | hstopped
    · apply Or.inl
      intro hplaceable
      rw [hsite.disk_eq] at hnever
      exact hnever _ (hroom.write_eq hfull hstands content hplaceable.passes
        (hplaceable.ordinary last (by simp)) (hmirrors.find?_eq_none (by simp) hnew))
    · refine Or.inr (Or.inr fun htraceable => hstopped ?_)
      have hstart : Trace.Passable { start with disk := site.disk, past := site.past }
          (Path.below (Local.temporaryName number) (names ++ [last])) :=
        (htraceable _ (Or.inr hreachable)).2
      exact hstart.recorded hsite.recorded

variable (hsound : origin.Sound)
  (hbucket : start.cloud.bucket? origin.kind origin.name = some origin.bucket)

include hsound hbucket

variable (disk replica number moved) in
omit hroom in
/-- The entries in a directory are the names that go on from there. -/
theorem entriesOf_ends (hvisited : names = [] ∨ origin.Reachable names)
    (hnames : Text.Solid names) {key : Text} (hkey : origin.spell names = some key) :
    Ends (Holds start disk number moved replica)
      (Replica.entriesOf origin.kind (Path.below origin.root names))
      (fun found site => (∀ entry, entry ∈ found ↔ ∃ name ∈ origin.children names,
          entry = Path.below origin.root (names ++ [name])) ∧
        Holds start disk number moved replica site)
      (fun _ => origin.Disturbed number start) := by
  have hlisted := request_ends disk replica number moved hbucket hvisited fun site hsite =>
    contents_yields hsound hsite hnames hkey
  rw [List.append_nil] at hlisted
  refine (hlisted.mono (fun _ => id) (fun _ _ => id) (fun _ h => h.resolve_left nofun)).bind
    fun listed => ends_pure fun site hsite => ?_
  obtain ⟨hvalue, hholds⟩ := hsite
  refine ⟨fun entry => ?_, hholds⟩
  have hchildren : origin.children names = listed := by
    rw [children, hkey]
    exact Option.some.inj hvalue
  have hjoin (name : Text) (hname : name ∈ listed) :
      Path.join [Path.below origin.root names, name] = Path.below origin.root (names ++ [name]) := by
    have hsolid := solid_children origin names name (hchildren ▸ hname)
    rw [(hsound.isRoot.below hnames).join_name hsolid, Path.below_append]
  rw [hchildren, Names.mem_ofList, List.mem_map]
  constructor
  · rintro ⟨name, hname, rfl⟩
    exact ⟨name, hname, hjoin name hname⟩
  · rintro ⟨name, hname, rfl⟩
    exact ⟨name, hname, hjoin name hname⟩

section Visit

variable {init : List Text} {last : Text} (hreachable : origin.Reachable (init ++ [last]))
  (hparent : init = [] ∨ init ∈ trail ∧ origin.isDirectory init = true)
  (hnew : init ++ [last] ∉ trail)
  (hlength : ∀ earlier ∈ trail, earlier.length ≤ (init ++ [last]).length)
  (hplaced : ∀ names ∈ trail, origin.Placeable number names)
  (hmirrors : origin.Mirrors trail replica)

include hparent hlength hplaced hmirrors

omit hroom hsound hbucket in
/-- What was made under the next names and transferred for them is copied. -/
theorem copied_of_put {node : Node} (himage : origin.image? (init ++ [last]) = some node)
    (hpasses : Disk.Passes (Path.below (Local.temporaryName number) (init ++ [last])))
    (hordinary : Disk.Ordinary last)
    (hholds : Holds start disk number
      (trail.flatMap origin.transfers ++ origin.transfers (init ++ [last]))
      (replica.putEntry node ⟨init, last⟩) site) :
    origin.Copied start disk number (trail ++ [init ++ [last]]) site := by
  refine ⟨fun names hnames => ?_, _, hmirrors.put himage hparent hordinary hlength, ?_⟩
  · rcases List.mem_append.1 hnames with hnames | hnames
    · exact hplaced names hnames
    · rw [List.mem_singleton.1 hnames]
      refine ⟨Option.isSome_of_eq_some himage, hpasses, fun name hname => ?_⟩
      rcases List.mem_append.1 hname with hname | hname
      · exact (hmirrors.stands hparent).ordinary name hname
      · rwa [List.mem_singleton.1 hname]
  · rwa [List.flatMap_append, List.flatMap_singleton]

include hreachable hnew

/-- A directory of the source becomes one of the replica, and the entries in it are listed. -/
theorem visitDirectory_ends {key : Text} (hkey : origin.spell (init ++ [last]) = some key)
    (hdirectory : origin.isDirectory (init ++ [last]) = true) :
    Ends (Holds start disk number (trail.flatMap origin.transfers) replica)
      (Local.makeDirectory (Path.below (Local.temporaryName number) (init ++ [last])) false >>=
        fun _ => Replica.entriesOf origin.kind (Path.below origin.root (init ++ [last])))
      (fun found site => origin.Lists [init ++ [last]] found ∧
        origin.Copied start disk number (trail ++ [init ++ [last]]) site)
      (fun _ => origin.Obstructed number start) := by
  have himage : origin.image? (init ++ [last]) = some (.directory Local.directoryMode 0 []) := by
    rw [image?, if_pos hdirectory]
  have hmade := makeDirectory_ends start (trail.flatMap origin.transfers) hroom hmirrors
    hreachable.solid.right (hmirrors.stands hparent) hnew
  have hblocked (site : Site) (h : ¬ origin.Placeable number (init ++ [last])) :
      origin.Obstructed number start := Or.inl ⟨_, hreachable, h⟩
  apply (hmade.mono (fun _ => id) (fun _ _ => id) hblocked).bind
  rintro - site ⟨hpasses, hordinary, hsite⟩
  have hlisted := entriesOf_ends disk (replica.putEntry (.directory Local.directoryMode 0 [])
    ⟨init, last⟩) number (trail.flatMap origin.transfers) hsound hbucket
    (Or.inr hreachable) hreachable.solid hkey
  refine (hlisted.mono (fun _ => id) (fun found site hfound => ?_) fun _ => Or.inr) site hsite
  obtain ⟨hfound, hholds⟩ := hfound
  constructor
  · intro entry
    simp only [hfound, List.mem_singleton, exists_eq_left, hdirectory, true_and]
  · apply copied_of_put hparent hlength hplaced hmirrors himage hpasses hordinary
    rwa [transfers, if_pos hdirectory, List.append_nil]

/-- A file of the source becomes one of the replica. -/
theorem visitFile_ends {key : Text} (hkey : origin.spell (init ++ [last]) = some key)
    (hne : key ≠ []) (hfile : ¬ origin.isDirectory (init ++ [last]) = true) :
    Ends (Holds start disk number (trail.flatMap origin.transfers) replica)
      (Backend.readBytes origin.kind (Path.below origin.root (init ++ [last])) >>= fun content =>
        Local.writeBytes (Path.below (Local.temporaryName number) (init ++ [last])) content >>=
          fun _ => pure .empty)
      (fun found site => origin.Lists [init ++ [last]] found ∧
        origin.Copied start disk number (trail ++ [init ++ [last]]) site)
      (fun _ => origin.Obstructed number start) := by
  have htransfers : origin.transfers (init ++ [last]) =
      Call.transfersOf origin.kind origin.name key := by
    rw [transfers, if_neg hfile, hkey, Option.map_some, Option.getD_some]
  have hread := request_ends disk replica number (trail.flatMap origin.transfers) hbucket
    (Or.inr hreachable) fun site hsite => readBytes_yields hsound hsite hreachable.solid hkey hne
  refine (hread.mono (fun _ => id) (fun _ _ => id) fun _ hfailed => ?_).bind fun content => ?_
  · rcases hfailed with hnone | hdisturbed
    · refine Or.inl ⟨_, hreachable, fun hplaceable => ?_⟩
      have himaged := hplaceable.imaged
      simp [image?, hfile, content?, hkey, hnone] at himaged
    · exact Or.inr hdisturbed
  · rintro site ⟨hcontent, hsite⟩
    have himage : origin.image? (init ++ [last]) = some (.file content 0) := by
      rw [image?, if_neg hfile, content?, hkey, Option.bind_some, hcontent]
      rfl
    have hwritten := writeBytes_ends start
      (trail.flatMap origin.transfers ++ Call.transfersOf origin.kind origin.name key)
      hroom hmirrors hreachable (hmirrors.stands hparent) content hnew
    refine (hwritten.mono (fun _ => id) (fun _ _ => id) fun _ hfailed => ?_).bind
      (fun _ => ends_pure fun site hsite => ?_) site hsite
    · exact hfailed.imp_left fun h => ⟨_, hreachable, h⟩
    · obtain ⟨hpasses, hordinary, hholds⟩ := hsite
      constructor
      · intro entry
        simp [hfile, Names.not_mem_empty]
      · apply copied_of_put hparent hlength hplaced hmirrors himage hpasses hordinary
        rwa [htransfers]

end Visit

/-- Copying what names lead to adds them to the trail, and lists the entries in a directory. -/
theorem visit_ends (hreachable : origin.Reachable names)
    (hparent : names.dropLast = [] ∨
      names.dropLast ∈ trail ∧ origin.isDirectory names.dropLast = true)
    (hnew : names ∉ trail) (hlength : ∀ earlier ∈ trail, earlier.length ≤ names.length) :
    Ends (origin.Copied start disk number trail)
      (Replica.visit origin.kind origin.root (Local.temporaryName number)
        (Path.below origin.root names))
      (fun found site => origin.Lists [names] found ∧
        origin.Copied start disk number (trail ++ [names]) site)
      (fun _ => origin.Obstructed number start) := by
  rintro site ⟨hplaced, replica, hmirrors, hsite⟩
  obtain ⟨init, last, rfl⟩ : ∃ init last, names = init ++ [last] :=
    ⟨_, _, (List.dropLast_concat_getLast hreachable.ne_nil).symm⟩
  rw [List.dropLast_concat] at hparent
  have hsolid := hreachable.solid
  rw [Replica.visit_below hsound.isRoot (Local.isRoot_temporaryName number) (by simp) hsolid]
  have hasked := request_ends disk replica number (trail.flatMap origin.transfers) hbucket
    (Or.inr hreachable) fun site hsite => isDirectory_yields hsound hsite hsolid
  rw [List.append_nil] at hasked
  refine (hasked.mono (fun _ => id) (fun _ _ => id) fun _ hfailed => ?_).bind
    (fun isDirectory => ?_) site hsite
  · rcases hfailed with hnone | hdisturbed
    · refine Or.inl ⟨_, hreachable, fun hplaceable => ?_⟩
      have himaged := hplaceable.imaged
      rw [Option.map_eq_none_iff] at hnone
      simp [image?, Origin.isDirectory, content?, hnone] at himaged
    · exact Or.inr hdisturbed
  · rintro site ⟨hvalue, hsite⟩
    obtain ⟨key, hkey, hdirectory⟩ := Option.map_eq_some_iff.1 hvalue
    have hsame : origin.isDirectory (init ++ [last]) = isDirectory := by
      rw [Origin.isDirectory, hkey]
      exact hdirectory
    cases isDirectory with
    | true =>
        exact visitDirectory_ends hroom hsound hbucket hreachable hparent hnew hlength hplaced
          hmirrors hkey hsame site hsite
    | false =>
        have hfile : ¬ origin.isDirectory (init ++ [last]) = true := by
          rw [hsame]
          exact Bool.false_ne_true
        have hne : key ≠ [] := by
          rintro rfl
          cases hdirectory
        exact visitFile_ends hroom hsound hbucket hreachable hparent hnew hlength hplaced
          hmirrors hkey hne hfile site hsite

/-! ## One level -/

omit hroom hsound hbucket

/-- The shorter names come first, and those of one length in the order of their paths. -/
def Before (origin : Origin) (names other : List Text) : Prop :=
  names.length < other.length ∨
    names.length = other.length ∧ Path.below origin.root names < Path.below origin.root other

/-- The trail is made of the reachable names of less than a length, in their order. -/
structure Upto (origin : Origin) (length : Nat) (trail : List (List Text)) : Prop where
  mem_iff : ∀ names, names ∈ trail ↔ origin.Reachable names ∧ names.length < length
  sorted : trail.Pairwise origin.Before

/-- The entries are those to which reachable names of a length lead. -/
def Frontier (origin : Origin) (length : Nat) (entries : Names) : Prop :=
  ∀ entry, entry ∈ entries ↔
    ∃ names, origin.Reachable names ∧ names.length = length ∧ entry = Path.below origin.root names

/-- The entries in the directories of one length make up the next frontier. -/
theorem frontier_next {length : Nat} (hpos : 0 < length) {visited : List (List Text)}
    {entries : Names} (hlists : origin.Lists visited entries)
    (hvisited : ∀ names, names ∈ visited ↔ origin.Reachable names ∧ names.length = length) :
    origin.Frontier (length + 1) entries := by
  intro entry
  rw [hlists]
  constructor
  · rintro ⟨names, hnames, hdirectory, name, hname, rfl⟩
    obtain ⟨hreachable, hlength⟩ := (hvisited names).1 hnames
    exact ⟨_, .child hreachable hdirectory hname, by simp [hlength], rfl⟩
  · rintro ⟨names, hreachable, hlength, rfl⟩
    cases hreachable with
    | top h =>
        rw [List.length_singleton] at hlength
        omega
    | child hnames hdirectory h =>
        rw [List.length_append, List.length_singleton, Nat.add_right_cancel_iff] at hlength
        exact ⟨_, (hvisited _).2 ⟨hnames, hlength⟩, hdirectory, _, h, rfl⟩

/-- A level extends the trail by the reachable names of its length. -/
theorem Upto.extend {length : Nat} {visited : List (List Text)} (h : origin.Upto length trail)
    (hvisited : ∀ names, names ∈ visited ↔ origin.Reachable names ∧ names.length = length)
    (hsorted : (trail ++ visited).Pairwise origin.Before) :
    origin.Upto (length + 1) (trail ++ visited) := by
  refine ⟨fun names => ?_, hsorted⟩
  rw [List.mem_append, h.mem_iff, hvisited, ← and_or_left]
  have hlength : (names.length < length ∨ names.length = length) ↔ names.length < length + 1 := by
    omega
  rw [hlength]

/-- Names that are nearly as many as a path has bytes cannot be placed. -/
theorem not_placeable_of_length (h : Disk.pathLimit ≤ names.length + 1) :
    ¬ origin.Placeable number names := by
  intro hplaceable
  have hshort := hplaceable.passes.short
  have hroot := List.length_pos_iff.2 (Local.isRoot_temporaryName number).1
  have hnames := Path.length_le_below (Local.temporaryName number) names
  have hbytes := Text.length_le_byteLength (Path.below (Local.temporaryName number) names)
  omega

/-- Of a level the first names are done, the other entries are still to be copied. -/
structure Midway (origin : Origin) (length : Nat) (trail done : List (List Text))
    (todo : List Text) (entries below : Names) : Prop where
  all : done.map (Path.below origin.root) ++ todo = entries.toList
  reachable : ∀ names ∈ done, origin.Reachable names ∧ names.length = length
  sorted : (trail ++ done).Pairwise origin.Before
  lists : origin.Lists done below

namespace Midway

variable {length : Nat} {done : List (List Text)} {todo : List Text} {entries below found : Names}
  {entry : Text}

/-- When nothing is left to be copied, the level is done. -/
theorem mem_done_iff (h : origin.Midway length trail done [] entries below)
    (hfrontier : origin.Frontier length entries) (names : List Text) :
    names ∈ done ↔ origin.Reachable names ∧ names.length = length := by
  constructor
  · exact h.reachable names
  · rintro ⟨hreachable, hlength⟩
    have hentry := (hfrontier _).2 ⟨names, hreachable, hlength, rfl⟩
    rw [Names.mem_def, ← h.all, List.append_nil] at hentry
    obtain ⟨other, hother, hsame⟩ := List.mem_map.1 hentry
    rwa [← Path.below_injective (h.reachable other hother).1.solid hreachable.solid hsame]

/-- The next entry comes behind the ones that are done. -/
theorem done_lt (h : origin.Midway length trail done (entry :: todo) entries below)
    {earlier : List Text} (hearlier : earlier ∈ done) : Path.below origin.root earlier < entry := by
  have hascending := entries.ascending
  rw [← h.all, List.pairwise_append] at hascending
  exact hascending.2.2 _ (List.mem_map_of_mem hearlier) _ (List.mem_cons_self ..)

/-- The next names are new, and as long as the longest on the trail. -/
theorem next (h : origin.Midway length trail done (Path.below origin.root names :: todo)
    entries below) (htrail : origin.Upto length trail) (hlength : names.length = length) :
    names ∉ trail ++ done ∧ ∀ earlier ∈ trail ++ done, earlier.length ≤ names.length := by
  constructor
  · intro hmem
    rcases List.mem_append.1 hmem with hmem | hmem
    · have hshort := ((htrail.mem_iff names).1 hmem).2
      omega
    · exact List.lt_irrefl _ (h.done_lt hmem)
  · intro earlier hearlier
    rcases List.mem_append.1 hearlier with hearlier | hearlier
    · have hshort := ((htrail.mem_iff earlier).1 hearlier).2
      omega
    · have hsame := (h.reachable earlier hearlier).2
      omega

/-- Once the next names are copied, they are done as well. -/
theorem step (h : origin.Midway length trail done (Path.below origin.root names :: todo)
    entries below) (htrail : origin.Upto length trail) (hreachable : origin.Reachable names)
    (hlength : names.length = length) (hfound : origin.Lists [names] found) :
    origin.Midway length trail (done ++ [names]) todo entries (found.union below) where
  all := by
    rw [List.map_append, List.append_assoc]
    exact h.all
  reachable := by
    intro other hother
    rcases List.mem_append.1 hother with hother | hother
    · exact h.reachable other hother
    · rw [List.mem_singleton.1 hother]
      exact ⟨hreachable, hlength⟩
  sorted := by
    rw [← List.append_assoc, List.pairwise_append]
    refine ⟨h.sorted, List.pairwise_singleton _ _, fun earlier hearlier other hother => ?_⟩
    rw [List.mem_singleton.1 hother]
    rcases List.mem_append.1 hearlier with hearlier | hearlier
    · exact Or.inl (hlength ▸ ((htrail.mem_iff earlier).1 hearlier).2)
    · exact Or.inr ⟨((h.reachable earlier hearlier).2).trans hlength.symm, h.done_lt hearlier⟩
  lists := by
    intro entry
    rw [Names.mem_union, hfound, h.lists]
    simp only [List.mem_append, or_and_right, exists_or]
    exact or_comm

end Midway

include hroom hsound hbucket

/-- Copying what is left of a level adds the level to the trail, and gives the next frontier. -/
theorem visits_ends {length : Nat} (hpos : 0 < length) {done : List (List Text)}
    {todo : List Text} {entries below : Names} (htrail : origin.Upto length trail)
    (hfrontier : origin.Frontier length entries)
    (hmidway : origin.Midway length trail done todo entries below) :
    Ends (origin.Copied start disk number (trail ++ done))
      (todo.foldlM (fun below entry =>
        Replica.visit origin.kind origin.root (Local.temporaryName number) entry >>= fun found =>
          pure (found.union below)) below)
      (fun found site => origin.Frontier (length + 1) found ∧
        ∃ trail', origin.Upto (length + 1) trail' ∧ origin.Copied start disk number trail' site)
      (fun _ => origin.Obstructed number start) := by
  induction todo generalizing done below with
  | nil =>
      have hvisited := hmidway.mem_done_iff hfrontier
      apply ends_pure
      intro site hsite
      exact ⟨frontier_next hpos hmidway.lists hvisited, _,
        htrail.extend hvisited hmidway.sorted, hsite⟩
  | cons entry todo ih =>
      obtain ⟨names, hreachable, hlength, rfl⟩ := (hfrontier entry).1
        (by rw [Names.mem_def, ← hmidway.all]; simp)
      obtain ⟨hnew, hshort⟩ := hmidway.next htrail hlength
      have hparent : names.dropLast = [] ∨
          names.dropLast ∈ trail ++ done ∧ origin.isDirectory names.dropLast = true := by
        refine hreachable.parent.imp_right fun ⟨habove, hdirectory⟩ => ⟨?_, hdirectory⟩
        refine List.mem_append_left _ ((htrail.mem_iff _).2 ⟨habove, ?_⟩)
        rw [List.length_dropLast]
        omega
      rw [List.foldlM_cons, bind_assoc]
      apply (visit_ends hroom hsound hbucket hreachable hparent hnew hshort).bind
      intro found
      rw [pure_bind]
      rintro site ⟨hfound, hsite⟩
      rw [List.append_assoc] at hsite
      exact ih (hmidway.step htrail hreachable hlength hfound) site hsite

/-- Copying one level adds it to the trail, and gives the next frontier. -/
theorem level_ends {length : Nat} (hpos : 0 < length) {entries : Names}
    (htrail : origin.Upto length trail) (hfrontier : origin.Frontier length entries) :
    Ends (origin.Copied start disk number trail)
      (Replica.level origin.kind origin.root (Local.temporaryName number) entries)
      (fun found site => origin.Frontier (length + 1) found ∧
        ∃ trail', origin.Upto (length + 1) trail' ∧ origin.Copied start disk number trail' site)
      (fun _ => origin.Obstructed number start) := by
  have hmidway : origin.Midway length trail [] entries.toList entries .empty := by
    refine ⟨rfl, nofun, ?_, fun entry => by simp⟩
    rw [List.append_nil]
    exact htrail.sorted
  have hvisits : Ends (origin.Copied start disk number (trail ++ [])) _ _ _ :=
    visits_ends hroom hsound hbucket hpos htrail hfrontier hmidway
  rwa [List.append_nil] at hvisits

/-- Level after level adds all reachable names to the trail. -/
theorem levels_ends {length : Nat} (bound : Nat) (hpos : 0 < length)
    (hbound : bound + length = Disk.pathLimit + 1) {entries : Names}
    (htrail : origin.Upto length trail) (hfrontier : origin.Frontier length entries)
    (hbefore : length = 1 ∨ ∃ names, origin.Reachable names ∧ names.length + 1 = length) :
    Ends (origin.Copied start disk number trail)
      (Replica.levels origin.kind origin.root (Local.temporaryName number) bound entries)
      (fun _ site => ∃ trail', (∀ names, names ∈ trail' ↔ origin.Reachable names) ∧
        trail'.Pairwise origin.Before ∧ origin.Copied start disk number trail' site)
      (fun _ => origin.Obstructed number start) := by
  induction bound generalizing length entries trail with
  | zero =>
      apply ends_throw
      intro site _
      obtain ⟨names, hreachable, hlength⟩ := hbefore.resolve_left (by
        have hlimit : 0 < Disk.pathLimit := by decide
        omega)
      refine Or.inl ⟨names, hreachable, not_placeable_of_length (by omega)⟩
  | succ bound ih =>
      rw [Replica.levels]
      by_cases hempty : entries.toList.isEmpty = true
      · rw [if_pos hempty]
        refine ends_pure fun site hsite => ⟨trail, fun names => ?_, htrail.sorted, hsite⟩
        rw [htrail.mem_iff, and_iff_left_iff_imp]
        apply length_lt_of_none hpos
        intro other hother hlength
        have hentry := (hfrontier _).2 ⟨other, hother, hlength, rfl⟩
        rw [Names.mem_def, List.isEmpty_iff.1 hempty] at hentry
        cases hentry
      · rw [if_neg hempty]
        obtain ⟨entry, others, hcons⟩ := List.exists_cons_of_ne_nil
          (show entries.toList ≠ [] by simpa using hempty)
        obtain ⟨names, hreachable, hlength, -⟩ := (hfrontier entry).1
          (by rw [Names.mem_def, hcons]; exact List.mem_cons_self ..)
        apply (level_ends hroom hsound hbucket hpos htrail hfrontier).bind
        intro found
        rintro site ⟨hfound, trail', htrail', hsite⟩
        exact ih (Nat.succ_pos _) (by omega) htrail' hfound
          (Or.inr ⟨names, hreachable, by rw [hlength]⟩) site hsite

omit hroom in
/-- What is listed of the source is the first frontier. -/
theorem top_ends {key : Text} (hkey : origin.spell [] = some key) :
    Ends (origin.Copied start disk number []) (Replica.entriesOf origin.kind origin.root)
      (fun found site => origin.Frontier 1 found ∧ origin.Copied start disk number [] site)
      (fun _ => origin.Disturbed number start) := by
  rintro site ⟨hplaced, replica, hmirrors, hsite⟩
  have hentries := entriesOf_ends disk replica number
    (([] : List (List Text)).flatMap origin.transfers) hsound hbucket (Or.inl rfl)
    Text.Solid.nil hkey
  rw [Path.below_nil] at hentries
  refine hentries.mono (fun _ => id) (fun found site h => ?_) (fun _ => id) site hsite
  obtain ⟨hfound, hholds⟩ := h
  refine ⟨fun entry => ?_, hplaced, replica, hmirrors, hholds⟩
  rw [hfound]
  constructor
  · rintro ⟨name, hname, rfl⟩
    exact ⟨[name], .top hname, rfl, rfl⟩
  · rintro ⟨names, hreachable, hlength, rfl⟩
    obtain ⟨name, rfl⟩ := List.length_eq_one_iff.1 hlength
    have hconcat : origin.Reachable ([] ++ [name]) := hreachable
    exact ⟨name, (reachable_concat_iff.1 hconcat).2, rfl⟩

omit hroom hsound hbucket in
/-- No reachable names are shorter than one. -/
theorem upto_one : origin.Upto 1 [] := by
  refine ⟨fun names => ⟨nofun, fun ⟨hreachable, hlength⟩ => ?_⟩, List.Pairwise.nil⟩
  have hpos := List.length_pos_iff.2 hreachable.ne_nil
  omega

/-- A copy comes to an end with all reachable names on its trail, or something is in the way. -/
theorem copy_ends {key : Text} (hkey : origin.spell [] = some key) :
    Ends (origin.Copied start disk number [])
      (Replica.copy origin.kind origin.root (Local.temporaryName number))
      (fun _ site => ∃ trail, (∀ names, names ∈ trail ↔ origin.Reachable names) ∧
        trail.Pairwise origin.Before ∧ origin.Copied start disk number trail site)
      (fun _ => origin.Obstructed number start) := by
  refine ((top_ends hsound hbucket hkey).mono (fun _ => id) (fun _ _ => id) fun _ => Or.inr).bind
    fun found => ?_
  rintro site ⟨hfrontier, hsite⟩
  exact levels_ends hroom hsound hbucket Disk.pathLimit Nat.one_pos rfl upto_one hfrontier
    (Or.inl rfl) site hsite

end Steps

end Origin

end ArtifactDepot
