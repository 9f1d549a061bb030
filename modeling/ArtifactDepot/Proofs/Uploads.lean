import ArtifactDepot.Proofs.Inferred

/-!
# Uploads

A text that is uploaded to Azure is put under the key of its path, and an
upload that fails puts nothing (`Azure.writeText_ends`).  What the backend
says from then on is read off the keys: whatever the spelling of a path that
leads there, the text is read back, and every directory above it lists the
next component.
-/

namespace ArtifactDepot

open Text (slash)
open ArtifactDepot.Action

/-! ## Assured values -/

section Assured

variable {α : Type} {kind : Kind} {bucket : Text} {value : α} {action : Action α} {site : Site}

/-- The action ends well if all is ready for it, and it never ends with another value. -/
def Action.Assures (ready : Prop) (value : α) (action : Action α) (site : Site) : Prop :=
  (ready → action.result site = .ok value) ∧ ∀ found, action.result site = .ok found → found = value

/-- What is yielded is assured. -/
theorem Action.Yields.assures {path : Text} {moved : List Call} {ready : Prop}
    (h : Yields path kind bucket moved (some value) action site)
    (hready : ready → site.Answers kind bucket ∧ Trace.Passable site path) :
    Assures ready value action site := by
  refine ⟨fun hall => ?_, fun found hfound => ?_⟩
  · obtain ⟨site', hrun, -, -⟩ := h.run (hready hall).1 (hready hall).2
    exact result_of_ok hrun
  · cases hrun : action site with
    | ok result site' =>
        rw [result_of_ok hrun] at hfound
        cases hfound
        exact (Option.some.inj (h.ok hrun).1).symm
    | error failure site' =>
        rw [result_of_error hrun] at hfound
        cases hfound

end Assured

/-! ## Tracing that did not stop an operation -/

namespace Trace

variable {α : Type} {action : Action α} {operation : Operation} {kind : Kind} {path : Text}
  {site site' : Site}

/-- Tracing that cannot stop an operation at the first site cannot do so at the second one. -/
def StaysPassable (before after : Site) : Prop :=
  ∀ path, Passable before path → Passable after path

instance : IsPreorder Site StaysPassable where
  refl _ _ := id
  trans _ _ _ h h' path hpassable := h' path (h path hpassable)

theorem staysPassable_of_recorded {before after : Site} (h : Site.Recorded before after) :
    StaysPassable before after := fun _ hpassable => hpassable.recorded h

instance : KeepsCalls StaysPassable :=
  ⟨fun call => (keeps_perform call).mono staysPassable_of_recorded⟩

instance : KeepsStores StaysPassable := ⟨fun _ _ _ => id⟩

/-- A configuration that ends well has been tried for good, or memory is at hand. -/
theorem configurable_of_configure {done : Bool} (h : configure site = .ok done site') :
    Configurable site' := by
  unfold configure at h
  rw [get_bind] at h
  split at h
  · cases h
    exact fun _ _ _ => Or.inl rfl
  · split at h
    · next hkept =>
        cases h
        exact fun _ _ _ => Or.inr (Or.inl (Bool.and_eq_true _ _ ▸ hkept).2)
    · split at h
      · next hdone =>
          cases h
          exact fun _ _ _ => Or.inl (Bool.and_eq_true _ _ ▸ hdone).1
      · have hupdate : update (fun tracing => { tracing with configured := true }) site =
            .ok () { site with tracing := { site.tracing with configured := true } } := rfl
        have hinstall : Keeps Site.Recorded (outcome install) :=
          keeps_outcome (keeps_install writes_silent).recorded
        rw [bind_ok hupdate] at h
        refine fun _ _ _ =>
          Or.inl ((Keeps.ok (keeps_bind hinstall fun result => ?_) h).configured rfl)
        cases result with
        | ok value => exact keeps_pure true
        | error failure => exact (keeps_report writes_silent _ failure).recorded

theorem configurable_of_prepare (h : prepare site = .ok () site') : Configurable site' := by
  unfold prepare at h
  rw [get_bind] at h
  split at h
  · cases hconfigure : configure site with
    | ok done site₁ =>
        rw [discard_ok hconfigure] at h
        cases h
        exact configurable_of_configure hconfigure
    | error failure site₁ =>
        rw [discard_error hconfigure] at h
        cases h
  · next hdone =>
      cases h
      exact fun _ _ _ => Or.inl (by simpa using hdone)

/-- An operation that ended well was not stopped, and would not be stopped after it. -/
theorem passable_of_traced (haction : Keeps StaysPassable action) {value : α}
    (h : traced operation kind path action site = .ok value site') : Passable site' path := by
  cases hoff : isOff site with
  | true =>
      rw [traced_off hoff] at h
      refine haction.ok h path ⟨fun henabled hlibrary => ?_, if_pos hoff⟩
      rw [isOff_eq_false.2 ⟨henabled, hlibrary⟩] at hoff
      cases hoff
  | false =>
      cases hprepare : prepare site with
      | error failure site₁ =>
          rw [traced_stopped hoff hprepare] at h
          cases h
      | ok _ prepared =>
          have hon : isOff prepared = false :=
            (isOff_recorded ((keeps_prepare writes_silent).ok hprepare).toRecorded).trans hoff
          have hpassable (hflaw : prepared.digestFlaw? path = none) : Passable prepared path :=
            ⟨configurable_of_prepare hprepare, (flaw?_on hon path).trans hflaw⟩
          cases hprovider : prepared.tracing.provider with
          | none =>
              rw [traced_bare hoff hprepare hprovider] at h
              cases hflaw : prepared.digestFlaw? path with
              | some words => cases (digested_error hflaw).symm.trans h
              | none => exact haction.ok ((digested_ok hflaw).symm.trans h) path (hpassable hflaw)
          | some provider =>
              rw [traced_within hoff hprepare hprovider] at h
              cases hflaw : prepared.digestFlaw? path with
              | some words =>
                  obtain ⟨last, hstopped, -⟩ := within_stopped writes_silent provider hflaw
                  cases hstopped.symm.trans h
              | none =>
                  have hframed :
                      Framed action (within provider operation kind path action) prepared :=
                    within_framed writes_silent provider hflaw
                  have hkept := hframed.keeps
                    (fun hsilent => staysPassable_of_recorded hsilent.toRecorded) haction
                  rw [after_ok h] at hkept
                  exact hkept path (hpassable hflaw)

end Trace

/-! ## Objects by kind, bucket and key -/

/-- The object of a kind in a bucket under a key. -/
def Cloud.object? (cloud : Cloud) (kind : Kind) (name key : Text) : Option Object :=
  (cloud.bucket? kind name).bind (·.get? key)

/-- Putting an object changes what is found under its kind, bucket and key and nowhere else. -/
theorem Cloud.object?_putObject (cloud : Cloud) (kind other : Kind)
    (name otherName key otherKey : Text) (object : Object) :
    (cloud.putObject kind name key object).object? other otherName otherKey =
      if (other = kind ∧ otherName = name) ∧ otherKey = key then some object
      else cloud.object? other otherName otherKey := by
  unfold object? putObject
  rw [bucket?_putBucket]
  by_cases hbucket : other = kind ∧ otherName = name
  · obtain ⟨rfl, rfl⟩ := hbucket
    rw [if_pos ⟨rfl, rfl⟩, Option.bind_some, Bucket.get?_put]
    by_cases hkey : otherKey = key
    · rw [if_pos hkey, if_pos ⟨⟨rfl, rfl⟩, hkey⟩]
    · rw [if_neg hkey, if_neg fun h => hkey h.2]
      cases cloud.bucket? other otherName with
      | none => rfl
      | some objects => rfl
  · rw [if_neg hbucket, if_neg fun h => hbucket h.1]

/-- No bucket is made or lost where an object is put into one that is there. -/
theorem Cloud.isSome_bucket?_putObject {cloud : Cloud} {kind : Kind} {name : Text}
    {objects : Bucket} (h : cloud.bucket? kind name = some objects) (key : Text) (object : Object)
    (other : Kind) (otherName : Text) :
    ((cloud.putObject kind name key object).bucket? other otherName).isSome =
      (cloud.bucket? other otherName).isSome := by
  unfold putObject
  rw [bucket?_putBucket]
  by_cases hbucket : other = kind ∧ otherName = name
  · obtain ⟨rfl, rfl⟩ := hbucket
    rw [if_pos ⟨rfl, rfl⟩, h]
    rfl
  · rw [if_neg hbucket]

/-! ## Directories above a key -/

namespace Bucket

variable {objects : Bucket} {front rest : List Text} {name : Text}

/-- What is in front of further names is a directory. -/
theorem isDirectory_above (hmem : Text.join (front ++ name :: rest) ∈ objects.keys) :
    objects.IsDirectory (Text.join front) := by
  by_cases hfront : front = []
  · exact Or.inl (by rw [hfront]; rfl)
  · refine Or.inr ⟨_, hmem, Text.join (name :: rest), ?_⟩
    rw [Text.join_append hfront (List.cons_ne_nil _ _), List.append_assoc, List.singleton_append]

/-- Every directory in front of a key lists the next name. -/
theorem mem_children_above (hnames : Text.Solid (front ++ name :: rest))
    (hmem : Text.join (front ++ name :: rest) ∈ objects.keys) :
    name ∈ objects.children (Text.join front) := by
  have hfront := hnames.left
  have hname : name ≠ [] ∧ slash ∉ name := hnames.right.head
  rw [mem_children_iff_lists (Path.endsOpen_join hfront), lists_iff_isPresent hfront hname]
  by_cases hrest : rest = []
  · -- The name is the last one, and with it the key is that of the object.
    rw [hrest] at hnames hmem
    exact Or.inr ⟨fun hempty => by simpa using (Text.join_eq_nil hnames).1 hempty, hmem⟩
  · obtain ⟨next, rest, rfl⟩ := List.exists_cons_of_ne_nil hrest
    rw [List.append_cons] at hmem
    exact Or.inl (isDirectory_above hmem)

end Bucket

namespace Azure

variable {path : Text} {address : Address} {text : String} {site site' : Site}

/-! ## What an upload changes -/

/-- The object that an upload of a text makes. -/
def uploaded (text : String) : Object := ⟨text.toUTF8, Object.usualMoment⟩

/-- The container at the address has the text under the key of the blob, and nothing else is new. -/
structure Stored (address : Address) (text : String) (before after : Site) : Prop where
  object_eq : after.cloud.object? .azure address.container address.blob = some (uploaded text)
  others_eq : ∀ kind name key,
    ¬ ((kind = .azure ∧ name = address.container) ∧ key = address.blob) →
      after.cloud.object? kind name key = before.cloud.object? kind name key
  buckets_eq : ∀ kind name,
    (after.cloud.bucket? kind name).isSome = (before.cloud.bucket? kind name).isSome

theorem Client.upload_ends (container name : Text) (content : ByteArray) (cloud : Cloud) :
    Ends (fun site => site.cloud = cloud) (upload container name content)
      (fun _ site => (cloud.bucket? .azure container).isSome = true ∧
        site.cloud = cloud.putObject .azure container name ⟨content, Object.usualMoment⟩)
      (fun site => site.cloud = cloud) := by
  have hasked := (keeps_perform (.uploadBlob container name content)).ends
    (fun site => site.cloud = cloud) fun hrecorded hcloud => hrecorded.cloud_eq.trans hcloud
  refine hasked.bind fun _ site hcloud => ?_
  have hfound : container? container site = .ok (site.cloud.bucket? .azure container) site := rfl
  rw [bind_ok hfound, hcloud]
  cases cloud.bucket? .azure container with
  | none => exact hcloud
  | some objects =>
      refine ⟨rfl, ?_⟩
      rw [← hcloud]

/-- An upload puts the text under the key of its path, or it fails and puts nothing. -/
theorem writeText_ends (path : Text) (text : String) (cloud : Cloud) :
    Ends (fun site => site.cloud = cloud) (writeText path text)
      (fun _ site => ∃ address, parse path = .ok address ∧ address.blob ≠ [] ∧
        (cloud.bucket? .azure address.container).isSome = true ∧
        site.cloud = cloud.putObject .azure address.container address.blob (uploaded text))
      (fun site => site.cloud = cloud) := by
  refine Trace.ends_traced ?_ (fun hsilent hcloud => hsilent.cloud_eq.trans hcloud) ?_
    (fun hsilent hcloud => hsilent.cloud_eq.trans hcloud) (fun _ => id)
  · have hparsed : Ends (fun site : Site => site.cloud = cloud) (ofRule (parse path))
        (fun address site => parse path = .ok address ∧ site.cloud = cloud)
        (fun site => site.cloud = cloud) := by
      cases hparse : parse path with
      | error fault => exact ends_throw fun _ => id
      | ok address => exact ends_pure fun _ hcloud => ⟨rfl, hcloud⟩
    refine hparsed.bind fun address => ?_
    by_cases hempty : address.blob.isEmpty = true
    · rw [if_pos hempty]
      exact fun _ h => h.2
    · rw [if_neg hempty]
      rintro site ⟨hparse, hcloud⟩
      have hupload : Ends (fun site : Site => site.cloud = cloud)
          (during .uploadBlob path (Client.upload address.container address.blob text.toUTF8))
          (fun _ site => (cloud.bucket? .azure address.container).isSome = true ∧
            site.cloud = cloud.putObject .azure address.container address.blob (uploaded text))
          (fun site => site.cloud = cloud) := (Client.upload_ends _ _ _ cloud).during
      exact (hupload.mono (fun _ => id)
        (fun _ _ hstored => ⟨address, hparse, by simpa using hempty, hstored⟩) fun _ => id)
        site hcloud
  · rintro _ site site' hsilent ⟨address, hparse, hblob, hbucket, hcloud⟩
    exact ⟨address, hparse, hblob, hbucket, hsilent.cloud_eq.trans hcloud⟩

/-- An upload that ended well was not stopped, and would not be stopped after it. -/
theorem passable_of_writeText {value : Unit} (h : writeText path text site = .ok value site') :
    Trace.Passable site' path := by
  obtain ⟨body, hbody, hkept⟩ := writeText_traced (K := Trace.StaysPassable) path text
  rw [hbody] at h
  exact Trace.passable_of_traced hkept h

/-- Whatever was there before, an upload that ends well stores its text. -/
theorem writeText_stored (haddress : parse path = .ok address)
    (h : writeText path text site = .ok () site') : Stored address text site site' := by
  obtain ⟨found, hfound, -, hbucket, hcloud⟩ := (writeText_ends path text site.cloud).ok rfl h
  cases haddress.symm.trans hfound
  obtain ⟨objects, hobjects⟩ := Option.isSome_iff_exists.1 hbucket
  refine ⟨?_, fun kind name key hother => ?_, fun kind name => ?_⟩
  · rw [hcloud, Cloud.object?_putObject, if_pos ⟨⟨rfl, rfl⟩, rfl⟩]
  · rw [hcloud, Cloud.object?_putObject, if_neg hother]
  · rw [hcloud, Cloud.isSome_bucket?_putObject hobjects]

/-! ## What is seen of it -/

section Seen

variable {found : Address} {query : Text} {objects : Bucket}

/-- A text that is written down is read as itself. -/
theorem fromUTF8?_toUTF8 (text : String) : String.fromUTF8? text.toUTF8 = some text :=
  dif_pos text.isValidUTF8

theorem readText_yields (hparse : parse query = .ok found) (hne : found.blob ≠ [])
    (hbucket : site.cloud.bucket? .azure found.container = some objects)
    (hobject : objects.get? found.blob = some (uploaded text)) :
    Yields query .azure found.container (Call.transfersOf .azure found.container found.blob)
      (some text) (Backend.readText .azure query) site := by
  have hread := readBytes_yields hparse hbucket hne
  rw [Bucket.content?, hobject, Option.map_some] at hread
  have hdecoded : Yields query .azure found.container
      (Call.transfersOf .azure found.container found.blob ++ []) (some text)
      (Backend.readText .azure query) site := by
    refine hread.bind fun site' _ => ?_
    simp only [uploaded, fromUTF8?_toUTF8]
    exact Yields.pure text
  rwa [List.append_nil] at hdecoded

/-- A blob is there, whether it is a directory as well or not. -/
theorem isPresent_yields_blob (other : Text) (hparse : parse query = .ok found)
    (hne : found.blob ≠ []) (hbucket : site.cloud.bucket? .azure found.container = some objects)
    (hobject : (objects.get? found.blob).isSome = true) :
    Yields other .azure found.container [] (some true) (isPresent query) site := by
  refine Yields.bind_rule hparse ?_
  rw [if_neg (by simpa using hne)]
  have hasked : Yields other .azure found.container [] (some (objects.get? found.blob).isSome)
      (during .checkBlob query (Client.blobExists found.container found.blob)) site :=
    (Client.blobExists_yields hbucket).during
  rw [hobject] at hasked
  exact hasked.bind_question fun _ _ => Yields.pure _

/--
Every path that leads to the blob or to a directory above it shows the text: if the store answers,
and if tracing, where it needs one, has a digest of the path.
-/
structure Shows (address : Address) (text : String) (site : Site) : Prop where
  read : ∀ {query found}, parse query = .ok found → found.container = address.container →
    found.blob = address.blob →
      Assures (site.Answers .azure address.container ∧ Trace.flaw? site query = none) text
        (Backend.readText .azure query) site ∧
      Assures (site.Answers .azure address.container) true (Backend.isPresent .azure query) site
  above : ∀ {front name rest}, Text.Solid (front ++ name :: rest) →
    address.blob = Text.join (front ++ name :: rest) →
    ∀ {query found}, parse query = .ok found → found.container = address.container →
      found.blob = Text.join front →
        Assures (site.Answers .azure address.container) true
          (Backend.isDirectory .azure query) site ∧
        ∃ listed, name ∈ listed ∧
          Assures (site.Answers .azure address.container ∧ Trace.flaw? site query = none) listed
            (Backend.contents .azure query) site

theorem shows_of_object (hblob : address.blob ≠ []) (hpassable : Trace.Passable site path)
    (hobject : site.cloud.object? .azure address.container address.blob = some (uploaded text)) :
    Shows address text site := by
  obtain ⟨objects, hbucket, hget⟩ := Option.bind_eq_some_iff.1 hobject
  have hkey : address.blob ∈ objects.keys := by
    rw [← Bucket.get?_isSome, hget]
    rfl
  constructor
  · rintro query ⟨host, container, blob⟩ hparse rfl rfl
    have hread := readText_yields hparse hblob hbucket hget
    have hthere := isPresent_yields_blob path hparse hblob hbucket (by rw [hget]; rfl)
    exact ⟨hread.assures fun hready => ⟨hready.1, hpassable.1, hready.2⟩,
      hthere.assures fun hanswers => ⟨hanswers, hpassable⟩⟩
  · rintro front name rest hnames hjoin query ⟨host, container, blob⟩ hparse rfl rfl
    rw [hjoin] at hkey
    have hdirectory := isDirectory_yields hparse hbucket path
    rw [Bucket.hasDirectory_eq (Path.endsOpen_join hnames.left),
      decide_eq_true (Bucket.isDirectory_above hkey)] at hdirectory
    have hlisted := contents_yields hparse hbucket
    exact ⟨hdirectory.assures fun hanswers => ⟨hanswers, hpassable⟩, _,
      Bucket.mem_children_above hnames hkey,
      hlisted.assures fun hready => ⟨hready.1, hpassable.1, hready.2⟩⟩

end Seen

/--
An upload to a path with a blob stores its text under the container and the blob of the path, and
changes no other object; from then on every path with that container and blob is there and is read
as the text, however it is spelled, and every directory above the blob is one and lists the next
component.  The answers are assured: they are given if the store answers and tracing does not refuse
the path, and no others are given.  An upload that fails changes no object.
-/
theorem writeText_coherent (haddress : parse path = .ok address) (hblob : address.blob ≠ [])
    (text : String) (site : Site) :
    (∀ site', Backend.writeText .azure path text site = .ok () site' →
      Stored address text site site' ∧ Shows address text site') ∧
    ∀ failure site', Backend.writeText .azure path text site = .error failure site' →
      site'.cloud = site.cloud := by
  refine ⟨fun site' h => ?_, fun failure site' h => ?_⟩
  · have hstored := writeText_stored haddress h
    exact ⟨hstored, shows_of_object hblob (passable_of_writeText h) hstored.object_eq⟩
  · exact (writeText_ends path text site.cloud).error rfl h

/-- A container with two blobs. -/
def nestedSite : Site :=
  .storing .azure ['c']
    [(['a'], ⟨⟨#[49]⟩, Object.usualMoment⟩), (['b'], ⟨⟨#[50]⟩, Object.usualMoment⟩)]

/-- A text that is uploaded below a blob is read with a query, and the blob keeps its content. -/
theorem writeText_coherent_nested :
    ∃ site', Backend.writeText .azure "as://h/c/a/x".toList "new" nestedSite = .ok () site' ∧
      (Backend.readText .azure "as://g/c//a/x/?v=1".toList).result site' = .ok "new" ∧
      (Backend.isDirectory .azure "as://h/c/a/".toList).result site' = .ok true ∧
      site'.cloud.object? .azure ['c'] ['a'] = some ⟨⟨#[49]⟩, Object.usualMoment⟩ := by
  have hparse : parse "as://h/c/a/x".toList = .ok ⟨['h'], ['c'], ['a', '/', 'x']⟩ := rfl
  obtain ⟨hwritten, -⟩ := writeText_coherent hparse (by decide) "new" nestedSite
  have hrun : Backend.writeText .azure "as://h/c/a/x".toList "new" nestedSite =
      .ok () ((Backend.writeText .azure "as://h/c/a/x".toList "new").after nestedSite) := rfl
  obtain ⟨hstored, hshows⟩ := hwritten _ hrun
  have hanswers : ((Backend.writeText .azure "as://h/c/a/x".toList "new").after
      nestedSite).Answers .azure ['c'] := fun _ _ => rfl
  have hquery : parse "as://g/c//a/x/?v=1".toList = .ok ⟨['g'], ['c'], ['a', '/', 'x']⟩ := rfl
  have habove : parse "as://h/c/a/".toList = .ok ⟨['h'], ['c'], ['a']⟩ := rfl
  have hnames : Text.Solid ([['a']] ++ ['x'] :: []) := by decide
  refine ⟨_, hrun, (hshows.read hquery rfl rfl).1.1 ⟨hanswers, rfl⟩, ?_, ?_⟩
  · exact (hshows.above hnames rfl habove rfl rfl).1.1 hanswers
  · exact hstored.others_eq .azure ['c'] ['a'] (by decide)

end Azure

end ArtifactDepot
