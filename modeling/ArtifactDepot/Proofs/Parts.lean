import ArtifactDepot.Proofs.Children

/-!
# Directories and files of a listing

What is listed in a directory is parted into directories and files.  Most
backends ask of every name whether it is a directory, so that the parts are
disjoint.  Azure reads both off one walk, and a name that stands for a blob
and for a directory is in both of its parts.  `Backend.listing_parted` says
what the parts have in common and where they differ.
-/

namespace ArtifactDepot

open Text (slash)
open ArtifactDepot.Action

/-! ## Actions with a settled value -/

namespace Action

variable {α β : Type} {action : Action α} {value : Option α} {site : Site}

/-- Whatever is recorded in the meantime, the action has this value, or fails if there is none. -/
def Settles (value : Option α) (action : Action α) (site : Site) : Prop :=
  ∀ later, Site.Recorded site later →
    match action later with
    | .ok result later' => value = some result ∧ Site.Recorded later later'
    | .error _ _ => value = none

namespace Settles

theorem result_eq {found : α} (h : Settles (some found) action site) :
    action.result site = .ok found := by
  have hnow := h site (.refl site)
  cases hrun : action site with
  | ok result site' =>
      rw [hrun] at hnow
      rw [result_of_ok hrun, Option.some.inj hnow.1]
  | error failure site' =>
      rw [hrun] at hnow
      cases hnow

theorem result_error (h : Settles none action site) :
    ∃ failure, action.result site = .error failure := by
  have hnow := h site (.refl site)
  cases hrun : action site with
  | ok result site' =>
      rw [hrun] at hnow
      cases hnow.1
  | error failure site' => exact ⟨failure, result_of_error hrun⟩

/-- The value can be told from a single run. -/
theorem result_ok_iff (h : Settles value action site) {found : α} :
    action.result site = .ok found ↔ value = some found := by
  cases value with
  | none =>
      obtain ⟨failure, hfailure⟩ := h.result_error
      rw [hfailure]
      exact ⟨nofun, nofun⟩
  | some other => rw [h.result_eq, Except.ok.injEq, Option.some.injEq]

theorem pure (result : α) : Settles (some result) (pure result : Action α) site :=
  fun later _ => ⟨rfl, .refl later⟩

/-- A value is handed on, and the lack of one ends the sequence. -/
theorem bind {last : α → Option β} {next : α → Action β} (h : Settles value action site)
    (hnext : ∀ result, value = some result → Settles (last result) (next result) site) :
    Settles (value.bind last) (action >>= next) site := by
  intro later hlater
  have hfirst := h later hlater
  cases hrun : action later with
  | error failure later' =>
      rw [hrun] at hfirst
      rw [bind_error hrun, hfirst]
      rfl
  | ok result later' =>
      rw [hrun] at hfirst
      obtain ⟨rfl, hrecorded⟩ := hfirst
      have hsecond := hnext result rfl later' (hlater.trans hrecorded)
      rw [bind_ok hrun]
      cases hrun' : next result later' with
      | ok final later'' =>
          rw [hrun'] at hsecond
          exact ⟨hsecond.1, hrecorded.trans hsecond.2⟩
      | error failure later'' =>
          rw [hrun'] at hsecond
          exact hsecond

theorem map {change : α → β} (h : Settles value action site) :
    Settles (value.map change) (action >>= fun result => Pure.pure (change result)) site := by
  rw [Option.map_eq_bind]
  exact h.bind fun result _ => pure (change result)

/-- One answer after the other, the choice is the one that the answers make. -/
theorem filterM {answer : α → Option Bool} {choose : α → Action Bool} {values : List α}
    (h : ∀ value ∈ values, Settles (answer value) (choose value) site) :
    Settles (values.filterM answer) (values.filterM choose) site := by
  have haux (chosen : List α) :
      Settles (values.filterAuxM answer chosen) (values.filterAuxM choose chosen) site := by
    induction values generalizing chosen with
    | nil => exact pure chosen
    | cons value values ih =>
        exact (h value (List.mem_cons_self ..)).bind fun keep _ =>
          ih (fun other hother => h other (List.mem_cons_of_mem _ hother)) _
  exact (haux []).bind fun chosen _ => pure chosen.reverse

/-- What a question yields is settled if the store answers and tracing is not in the way. -/
theorem of_yields {kind : Kind} {bucket : Text} (hanswers : site.Answers kind bucket)
    {path : Text} (hpassable : Trace.Passable site path)
    (h : ∀ later, Site.Recorded site later → Yields path kind bucket [] value action later) :
    Settles value action site := by
  intro later hlater
  have hyields := h later hlater
  rw [Yields] at hyields
  cases hrun : action later with
  | ok result later' =>
      rw [hrun] at hyields
      exact ⟨hyields.1, hyields.2.1⟩
  | error failure later' =>
      rw [hrun] at hyields
      exact (hyields.resolve_right
        (not_or.2 ⟨not_not.2 (hlater.answers hanswers), not_not.2 (hpassable.recorded hlater)⟩))

end Settles

end Action

section Choices

variable {α : Type} {values : List α} {answer : α → Option Bool} {keep : α → Bool}

/-- If every answer is known the choice is a filter. -/
theorem filterM_eq_some (h : ∀ value ∈ values, answer value = some (keep value)) :
    values.filterM answer = some (values.filter keep) := by
  have haux (chosen : List α) :
      values.filterAuxM answer chosen = some ((values.filter keep).reverse ++ chosen) := by
    induction values generalizing chosen with
    | nil => rfl
    | cons value values ih =>
        rw [List.filterAuxM, h value (List.mem_cons_self ..), List.filter_cons]
        have hrest := ih fun other hother => h other (List.mem_cons_of_mem _ hother)
        cases keep value with
        | true => simpa using hrest (value :: chosen)
        | false => simpa using hrest chosen
  rw [List.filterM, haux []]
  simp

/-- Without one of the answers there is no choice. -/
theorem filterM_eq_none {value : α} (hmem : value ∈ values) (h : answer value = none) :
    values.filterM answer = none := by
  have haux (chosen : List α) : values.filterAuxM answer chosen = none := by
    induction values generalizing chosen with
    | nil => cases hmem
    | cons first values ih =>
        rw [List.filterAuxM]
        rcases List.mem_cons.1 hmem with rfl | hmem
        · rw [h]
          rfl
        · cases answer first with
          | none => rfl
          | some keep => exact ih hmem _
  rw [List.filterM, haux []]
  rfl

end Choices

/-! ## Walks -/

namespace Bucket

variable {start found name : Text}

/-- A walk reports a key as it is if it ends with its first name. -/
theorem stepOf_name (start : Text) (hname : slash ∉ name) :
    stepOf start (start ++ name) = start ++ name := by
  have hcut := Text.takeWhile_name hname (.inl rfl)
  rw [List.append_nil] at hcut
  rw [stepOf, List.drop_left, hcut, if_neg (Nat.lt_irrefl _)]

/-- A walk reports a key up to and with the separator behind its first name. -/
theorem stepOf_below (hname : slash ∉ name) (h : start ++ name ++ [slash] <+: found) :
    stepOf start found = start ++ name ++ [slash] := by
  obtain ⟨rest, rfl⟩ := h
  have hrest : (start ++ name ++ [slash] ++ rest).drop start.length = name ++ slash :: rest := by
    rw [List.append_assoc, List.append_assoc, List.drop_left]
    rfl
  have hcut : (name ++ slash :: rest).takeWhile (· != slash) = name :=
    Text.takeWhile_name hname (.inr (by simp))
  rw [stepOf, hrest, hcut, if_pos (by simp)]

end Bucket

namespace Azure

variable {path blob name : Text} {objects : Bucket} {site : Site}

/-- The children that a walk reports below a blob. -/
def childrenOf (objects : Bucket) (blob : Text) : List Child :=
  (objects.stepsFrom (Key.asDirectory blob)).toList.filterMap (childOf? (Key.asDirectory blob))

/-- What a walk makes of a key: a directory if something follows the name in it, or else a blob. -/
theorem childOf?_stepOf {directory found : Text} {isDirectory : Bool} (h : directory <+: found) :
    childOf? directory (Bucket.stepOf directory found) = some ⟨name, isDirectory⟩ ↔
      (name ≠ [] ∧ slash ∉ name) ∧
        if isDirectory then directory ++ name ++ [slash] <+: found
        else found = directory ++ name := by
  have hclosed (hname : name ≠ [] ∧ slash ∉ name) :
      [slash].isSuffixOf (directory ++ name) = false :=
    (Path.IsRoot.append_name directory hname).2
  have hopen : [slash].isSuffixOf (directory ++ name ++ [slash]) = true := Path.endsOpen_concat _
  rw [childOf?, Bucket.child?_stepOf h]
  constructor
  · intro hchild
    obtain ⟨other, hother, hsame⟩ := Option.map_eq_some_iff.1 hchild
    cases hsame
    obtain ⟨hname, hfound⟩ := Key.child?_eq_some_iff.1 hother
    refine ⟨hname, ?_⟩
    rcases hfound with rfl | hbelow
    · rw [Bucket.stepOf_name directory hname.2, hclosed hname, if_neg Bool.false_ne_true]
    · rwa [Bucket.stepOf_below hname.2 hbelow, if_pos hopen]
  · rintro ⟨hname, hfound⟩
    cases isDirectory with
    | false =>
        rw [if_neg Bool.false_ne_true] at hfound
        subst hfound
        rw [Key.child?_eq_some_iff.2 ⟨hname, .inl rfl⟩, Bucket.stepOf_name directory hname.2,
          Option.map_some, hclosed hname]
    | true =>
        rw [if_pos rfl] at hfound
        rw [Key.child?_eq_some_iff.2 ⟨hname, .inr hfound⟩, Bucket.stepOf_below hname.2 hfound,
          Option.map_some, hopen]

/--
A child is a directory if some key continues the one that its name makes, and a blob if there is
that key.
-/
theorem mem_childrenOf {isDirectory : Bool} :
    ⟨name, isDirectory⟩ ∈ childrenOf objects blob ↔ (name ≠ [] ∧ slash ∉ name) ∧
      if isDirectory then objects.Continues (Key.below blob [name])
      else Key.below blob [name] ∈ objects.keys := by
  have hkey : Key.below blob [name] = Key.asDirectory blob ++ name :=
    Key.below_eq (List.cons_ne_nil _ _)
  rw [childrenOf, List.mem_filterMap, hkey]
  constructor
  · rintro ⟨step, hstep, hchild⟩
    obtain ⟨found, hfound, rfl⟩ := List.mem_map.1 (Names.mem_ofList.1 hstep)
    obtain ⟨hmem, hfront⟩ := Bucket.mem_keysFrom.1 hfound
    obtain ⟨hname, hfound⟩ := (childOf?_stepOf hfront).1 hchild
    refine ⟨hname, ?_⟩
    cases isDirectory with
    | false => exact hfound ▸ hmem
    | true => exact ⟨found, hmem, hfound⟩
  · rintro ⟨hname, hheld⟩
    obtain ⟨found, hmem, hfront, hfound⟩ : ∃ found ∈ objects.keys, Key.asDirectory blob <+: found ∧
        if isDirectory then Key.asDirectory blob ++ name ++ [slash] <+: found
        else found = Key.asDirectory blob ++ name := by
      cases isDirectory with
      | false => exact ⟨_, hheld, List.prefix_append _ _, rfl⟩
      | true =>
          obtain ⟨found, hmem, hbelow⟩ := hheld
          exact ⟨found, hmem, (by simp [List.append_assoc] : _ <+: _).trans hbelow, hbelow⟩
    have hlisted : found ∈ objects.keysFrom (Key.asDirectory blob) :=
      Bucket.mem_keysFrom.2 ⟨hmem, hfront⟩
    exact ⟨_, Names.mem_ofList.2 (List.mem_map_of_mem hlisted),
      (childOf?_stepOf hfront).2 ⟨hname, hfound⟩⟩

/-- The names of the directories, or of the blobs, among the children. -/
def partOf (objects : Bucket) (blob : Text) (isDirectory : Bool) : Names :=
  Names.ofList (((childrenOf objects blob).filter (·.isDirectory == isDirectory)).map (·.name))

theorem mem_partOf {isDirectory : Bool} :
    name ∈ partOf objects blob isDirectory ↔ (name ≠ [] ∧ slash ∉ name) ∧
      if isDirectory then objects.Continues (Key.below blob [name])
      else Key.below blob [name] ∈ objects.keys := by
  rw [← mem_childrenOf, partOf, Names.mem_ofList, List.mem_map]
  constructor
  · rintro ⟨⟨other, kept⟩, hmem, rfl⟩
    obtain ⟨hchild, hkept⟩ := List.mem_filter.1 hmem
    rwa [← eq_of_beq hkept]
  · intro hmem
    exact ⟨_, List.mem_filter.2 ⟨hmem, BEq.rfl⟩, rfl⟩

variable {address : Address} (haddress : parse path = .ok address)
  (hbucket : site.cloud.bucket? .azure address.container = some objects)
  (hanswers : site.Answers .azure address.container) (hpassable : Trace.Passable site path)

include haddress hbucket hanswers hpassable

theorem walk_settles : Settles (some (childrenOf objects address.blob)) (walk path) site := by
  refine .of_yields hanswers hpassable fun later hlater => ?_
  rw [← hlater.cloud_eq] at hbucket
  exact walk_yields haddress hbucket

theorem subdirectories_settles :
    Settles (some (partOf objects address.blob true)) (subdirectories path) site := by
  simp only [partOf, beq_true]
  exact (walk_settles haddress hbucket hanswers hpassable).map

theorem files_settles :
    Settles (some (partOf objects address.blob false)) (files path) site := by
  simp only [partOf, beq_false]
  exact (walk_settles haddress hbucket hanswers hpassable).map

end Azure

/-! ## Names that are asked about one by one -/

namespace Backend

variable {kind : Kind} {path bucket key : Text} {objects : Bucket} {site : Site}

/-- Whether a path names a directory is settled, or it is settled that asking for it fails. -/
theorem isDirectory_settles (hkind : kind ≠ .disk) (path : Text) {other : Text}
    (hanswers : ∀ name, site.Answers kind name) (hpassable : Trace.Passable site other) :
    ∃ answer, Settles answer (isDirectory kind path) site := by
  cases haddress : addressOf kind path with
  | error fault =>
      refine ⟨none, fun later _ => ?_⟩
      rw [isDirectory_malformed hkind haddress later]
  | ok address =>
      obtain ⟨name, key⟩ := address
      cases hbucket : site.cloud.bucket? kind name with
      | some objects =>
          refine ⟨some (objects.hasDirectory key),
            .of_yields (hanswers name) hpassable fun later hlater => ?_⟩
          rw [← hlater.cloud_eq] at hbucket
          exact isDirectory_yields hkind haddress hbucket other
      | none =>
          refine ⟨if kind = .azure ∧ key = [] then some false else none,
            .of_yields (hanswers name) hpassable fun later hlater => ?_⟩
          rw [← hlater.cloud_eq] at hbucket
          exact isDirectory_missing other hkind haddress hbucket

section Chosen

variable {answer : Text → Option Bool} {listed : Names}
  (hcontents : Settles (some listed) (contents kind path) site)
  (hprobes : ∀ name, Settles (answer name) (isDirectory kind (Path.join [path, name])) site)

include hcontents hprobes

/-- The part of a listing that the answers choose. -/
theorem select_settles (wanted : Bool) :
    Settles ((listed.toList.filterM fun name => (answer name).map (· == wanted)).map Names.ofList)
      (select kind path wanted) site := by
  have hselect : Settles ((some listed).bind fun found =>
      (found.toList.filterM fun name => (answer name).map (· == wanted)).map Names.ofList)
      (select kind path wanted) site :=
    hcontents.bind fun found _ => (Settles.filterM fun name _ => (hprobes name).map).map
  exact hselect

/-- With an answer for every name the part has those with the wanted one. -/
theorem select_answered {keep : Text → Bool}
    (hknown : ∀ name ∈ listed, answer name = some (keep name)) (wanted : Bool) :
    (select kind path wanted).result site =
      .ok (Names.ofList (listed.toList.filter (keep · == wanted))) := by
  have hchosen := select_settles hcontents hprobes wanted
  rw [filterM_eq_some fun name hname => by rw [hknown name hname, Option.map_some]] at hchosen
  exact hchosen.result_eq

/-- If an answer is refused there is no part. -/
theorem select_refused {name : Text} (hname : name ∈ listed) (hrefused : answer name = none)
    (wanted : Bool) : ∃ failure, (select kind path wanted).result site = .error failure := by
  have hchosen := select_settles hcontents hprobes wanted
  rw [filterM_eq_none hname (by rw [hrefused]; rfl)] at hchosen
  exact hchosen.result_error

end Chosen

/-! ## Parts of a listing -/

/-- What is listed in a directory, and the two parts that it is given in. -/
structure Parted (kind : Kind) (path : Text) (site : Site) (listed directories files : Names) :
    Prop where
  contents_eq : (contents kind path).result site = .ok listed
  subdirectories_eq : (subdirectories kind path).result site = .ok directories
  files_eq : (Backend.files kind path).result site = .ok files
  /-- Nothing is lost and nothing is added. -/
  cover : ∀ name, name ∈ listed ↔ name ∈ directories ∨ name ∈ files

/-- The parts of a listing when it is asked of each name whether it is a directory. -/
structure Asked (kind : Kind) (path : Text) (site : Site) (listed : Names) : Prop where
  /-- If all questions are answered, the answers choose the parts, which are disjoint. -/
  answered :
    (∀ name ∈ listed, ∃ answer,
      (isDirectory kind (Path.join [path, name])).result site = .ok answer) →
      ∃ directories files, Parted kind path site listed directories files ∧
        (∀ name ∈ directories, name ∉ files) ∧
        ∀ name ∈ listed, name ∈ directories ↔
          (isDirectory kind (Path.join [path, name])).result site = .ok true
  /-- If a question is refused, neither part is given. -/
  refused : ∀ name ∈ listed, ∀ failure,
    (isDirectory kind (Path.join [path, name])).result site = .error failure →
      (∃ failure, (subdirectories kind path).result site = .error failure) ∧
        ∃ failure, (files kind path).result site = .error failure

theorem contents_settles (hkind : kind ≠ .disk) (haddress : addressOf kind path = .ok (bucket, key))
    (hbucket : site.cloud.bucket? kind bucket = some objects)
    (hanswers : site.Answers kind bucket) (hpassable : Trace.Passable site path) :
    Settles (some (objects.children key)) (contents kind path) site := by
  refine .of_yields hanswers hpassable fun later hlater => ?_
  rw [← hlater.cloud_eq] at hbucket
  exact contents_yields hkind haddress hbucket

/-- Other backends than that of Azure choose the parts by asking. -/
theorem parts_eq_select (hkind : kind ≠ .azure) (path : Text) :
    subdirectories kind path = select kind path true ∧
      files kind path = select kind path false := by
  cases kind with
  | azure => exact absurd rfl hkind
  | disk | gcs | s3 => exact ⟨rfl, rfl⟩

theorem asked_of_contents {listed : Names} (hkind : kind ≠ .disk) (hazure : kind ≠ .azure)
    (hcontents : Settles (some listed) (contents kind path) site)
    (hanswers : ∀ name, site.Answers kind name) (hpassable : Trace.Passable site path) :
    Asked kind path site listed := by
  obtain ⟨hdirectories, hfiles⟩ := parts_eq_select hazure path
  choose answer hprobes using fun name =>
    isDirectory_settles hkind (Path.join [path, name]) hanswers hpassable
  constructor
  · intro hanswered
    have hknown : ∀ name ∈ listed, answer name = some ((answer name).getD false) := by
      intro name hname
      obtain ⟨found, hfound⟩ := hanswered name hname
      rw [(hprobes name).result_ok_iff.1 hfound, Option.getD_some]
    have hpart := select_answered hcontents hprobes hknown
    have hmem (wanted : Bool) (name : Text) :
        name ∈ Names.ofList (listed.toList.filter fun name => (answer name).getD false == wanted) ↔
          name ∈ listed ∧ (answer name).getD false = wanted := by
      rw [Names.mem_ofList, List.mem_filter, beq_iff_eq, Names.mem_def]
    refine ⟨_, _, ⟨hcontents.result_eq, hdirectories ▸ hpart true, hfiles ▸ hpart false, ?_⟩,
      ?_, ?_⟩
    · intro name
      rw [hmem, hmem]
      cases (answer name).getD false <;> simp
    · intro name hdirectory hfile
      rw [hmem] at hdirectory hfile
      rw [hdirectory.2] at hfile
      cases hfile.2
    · intro name hname
      rw [hmem, and_iff_right hname, (hprobes name).result_ok_iff, hknown name hname,
        Option.getD_some, Option.some.injEq]
  · intro name hname failure hfailure
    have hrefused : answer name = none := by
      rw [Option.eq_none_iff_forall_ne_some]
      intro found hfound
      rw [(hprobes name).result_ok_iff.2 hfound] at hfailure
      cases hfailure
    have hpart := select_refused hcontents hprobes hname hrefused
    exact ⟨hdirectories ▸ hpart true, hfiles ▸ hpart false⟩

/--
A name that is listed in a canonical path is a directory just if some key continues the one that
it makes.  The spelling must not take the name for something else: a colon in a bucket of S3 is
that of a port, and a query mark in a name of Azure begins a query.
-/
theorem isDirectory_listed {name : Text} (hkind : kind ≠ .disk)
    (hcanonical : normalize kind path = .ok path)
    (haddress : addressOf kind path = .ok (bucket, key))
    (hbucket : site.cloud.bucket? kind bucket = some objects) (hanswers : site.Answers kind bucket)
    (hname : name ∈ objects.children key) (hcolon : kind = .s3 → ':' ∉ bucket)
    (hquery : kind = .azure → '?' ∉ name) :
    (isDirectory kind (Path.join [path, name])).result site =
      .ok (decide (objects.Continues (Key.below key [name]))) := by
  have hsolid := (Bucket.mem_children_iff.1 hname).1
  have hjoined : Path.join [path, name] = Path.below path [name] := by
    rw [(isRoot_of_normalize hkind hcanonical).join_name hsolid]
  have hbelow := addressOf_below hkind hcanonical haddress (Text.Solid.singleton hsolid) hcolon
    fun hazure other hother => List.mem_singleton.1 hother ▸ hquery hazure
  have hne : Key.below key [name] ≠ [] :=
    Key.below_ne_nil (List.cons_ne_nil _ _) (Text.Solid.singleton hsolid)
  rw [hjoined, (infers hkind hbelow hbucket).isDirectory.result_eq hanswers]
  exact congrArg Except.ok (decide_eq_decide.2 (or_iff_right hne))

/-- The parts of a listing when both are read off one walk. -/
structure Walked (path key : Text) (objects : Bucket) (site : Site)
    (listed directories files : Names) : Prop
    extends Parted .azure path site listed directories files where
  /-- A name is a directory if some key continues the one that it makes. -/
  directory_iff : ∀ name ∈ listed,
    name ∈ directories ↔ objects.Continues (Key.below key [name])
  /-- A name is a file if there is the key that it makes, so it can be both. -/
  file_iff : ∀ name ∈ listed, name ∈ files ↔ Key.below key [name] ∈ objects.keys
  /-- To ask of a name whether it is a directory gives the same, if no query begins in it. -/
  asked_iff : ∀ name ∈ listed, '?' ∉ name → (name ∈ directories ↔
    (isDirectory .azure (Path.join [path, name])).result site = .ok true)

theorem walked_of_contents (hcanonical : normalize .azure path = .ok path)
    (haddress : addressOf .azure path = .ok (bucket, key))
    (hbucket : site.cloud.bucket? .azure bucket = some objects)
    (hanswers : site.Answers .azure bucket) (hpassable : Trace.Passable site path) :
    Walked path key objects site (objects.children key) (Azure.partOf objects key true)
      (Azure.partOf objects key false) := by
  have hkind : Kind.azure ≠ .disk := by decide
  obtain ⟨address, hparse, heq⟩ := map_ok_iff.1 haddress
  cases heq
  have hkey (name : Text) : Key.below address.blob [name] = Key.asDirectory address.blob ++ name :=
    Key.below_eq (List.cons_ne_nil _ _)
  have hsolid {name : Text} (hname : name ∈ objects.children address.blob) :=
    (Bucket.mem_children_iff.1 hname).1
  have hdirectory {name : Text} (hname : name ∈ objects.children address.blob) :
      name ∈ Azure.partOf objects address.blob true ↔
        objects.Continues (Key.below address.blob [name]) := by
    rw [Azure.mem_partOf, and_iff_right (hsolid hname), if_pos rfl]
  exact
    { contents_eq := (contents_settles hkind haddress hbucket hanswers hpassable).result_eq
      subdirectories_eq :=
        (Azure.subdirectories_settles hparse hbucket hanswers hpassable).result_eq
      files_eq := (Azure.files_settles hparse hbucket hanswers hpassable).result_eq
      cover := fun name => by
        rw [Bucket.mem_children_iff, Azure.mem_partOf, Azure.mem_partOf, ← and_or_left, hkey]
        exact and_congr_right fun _ => or_comm
      directory_iff := fun _ => hdirectory
      file_iff := fun name hname => by
        rw [Azure.mem_partOf, and_iff_right (hsolid hname), if_neg Bool.false_ne_true]
      asked_iff := fun name hname hquery => by
        rw [hdirectory hname, isDirectory_listed hkind hcanonical haddress hbucket hanswers hname
          nofun fun _ => hquery, Except.ok.injEq, decide_eq_true_eq] }

/--
Of a canonical path in a bucket that is there, if the store answers and tracing is not in the way:
what is listed are the names that make a key with objects at it or below it, and directories and
files together are just that.  Where it is asked of each name whether it is a directory, the
answers choose the parts, which are disjoint.  Where both are read off one walk, a name that is
that of a blob and that of a directory is in both parts.  Either way the directories are the names
that are said to be directories when they are joined to the path.
-/
theorem listing_parted (hkind : kind ≠ .disk) (hcanonical : normalize kind path = .ok path)
    (haddress : addressOf kind path = .ok (bucket, key))
    (hbucket : site.cloud.bucket? kind bucket = some objects)
    (hanswers : ∀ name, site.Answers kind name) (hpassable : Trace.Passable site path) :
    ∃ listed, (contents kind path).result site = .ok listed ∧
      (∀ name, name ∈ listed ↔
        (name ≠ [] ∧ slash ∉ name) ∧ objects.Holds (Key.below key [name])) ∧
      (kind ≠ .azure → Asked kind path site listed) ∧
      (kind = .azure → ∃ directories files,
        Walked path key objects site listed directories files) ∧
      ((kind = .s3 → ':' ∉ bucket) → ∀ name ∈ listed, (kind = .azure → '?' ∉ name) →
        (isDirectory kind (Path.join [path, name])).result site =
          .ok (decide (objects.Continues (Key.below key [name])))) := by
  have hcontents := contents_settles hkind haddress hbucket (hanswers bucket) hpassable
  refine ⟨objects.children key, hcontents.result_eq, fun name => ?_, fun hazure => ?_, ?_, ?_⟩
  · rw [Bucket.mem_children_iff, Key.below_eq (List.cons_ne_nil _ _)]
    rfl
  · exact asked_of_contents hkind hazure hcontents hanswers hpassable
  · rintro rfl
    exact ⟨_, _, walked_of_contents hcanonical haddress hbucket (hanswers bucket) hpassable⟩
  · intro hcolon name hname hquery
    exact isDirectory_listed hkind hcanonical haddress hbucket (hanswers bucket) hname hcolon hquery

/-- A name that is both that of a blob and that of a directory is in both parts of a walk. -/
theorem listing_parted_twofold :
    ∃ listed directories files,
      Parted .azure "as://h/c/res".toList (.storing .azure "c".toList twofoldBucket) listed
        directories files ∧
      "A".toList ∈ directories ∧ "A".toList ∈ files := by
  have hkind : Kind.azure ≠ .disk := by decide
  have haddress : addressOf .azure "as://h/c/res".toList = .ok ("c".toList, "res".toList) := rfl
  have hbucket : (Site.storing .azure "c".toList twofoldBucket).cloud.bucket? .azure "c".toList =
      some twofoldBucket := Site.bucket?_storing
  obtain ⟨listed, -, hlisted, -, hwalked, -⟩ :=
    listing_parted hkind rfl haddress hbucket (fun _ _ _ => rfl) (Site.passable_storing _)
  obtain ⟨directories, files, hwalked⟩ := hwalked rfl
  have hname : "A".toList ∈ listed := (hlisted _).2 ⟨by decide, .inl (by decide)⟩
  exact ⟨listed, directories, files, hwalked.toParted,
    (hwalked.directory_iff _ hname).2 (by decide), (hwalked.file_iff _ hname).2 (by decide)⟩

end Backend

end ArtifactDepot
