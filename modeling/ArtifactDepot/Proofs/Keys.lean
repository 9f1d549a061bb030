import ArtifactDepot.Proofs.Origin

/-!
# The tree that keys make

The keys of a bucket make a tree: a key holds a file where an object lies
under it, and a directory where other keys continue it.  A walk comes to what
the keys below its source hold, and to nothing else
(`Origin.Located.reachable_iff`).
-/

namespace ArtifactDepot

open Text (slash)

namespace Key

variable {key last : Text} {names : List Text}

/-- One separator is put behind a key that does not end in one. -/
theorem asDirectory_eq (hne : key ≠ []) (hclosed : Path.endsOpen key = false) :
    asDirectory key = key ++ [slash] := by
  have hempty : key.isEmpty = false := by simpa using hne
  have hopen : [slash].isSuffixOf key = false := hclosed
  rw [asDirectory, hempty, hopen, Bool.false_or, if_neg Bool.false_ne_true]

/-- What lies below a key is joined behind it. -/
theorem below_eq (hne : names ≠ []) : below key names = asDirectory key ++ Text.join names := by
  rw [below, if_neg (by simpa using hne)]

theorem below_ne_nil (hne : names ≠ []) (hnames : Text.Solid names) : below key names ≠ [] := by
  rw [below_eq hne]
  intro hempty
  exact hne ((Text.join_eq_nil hnames).1 (List.append_eq_nil_iff.1 hempty).2)

theorem below_closed (hkey : Path.endsOpen key = false) (hnames : Text.Solid names) :
    Path.endsOpen (below key names) = false := by
  by_cases hne : names = []
  · rw [hne]
    exact hkey
  · rw [below_eq hne]
    exact ((Path.isRoot_join hne hnames).append _).2

/-- One name more is put behind the directory of the others. -/
theorem below_concat (hkey : Path.endsOpen key = false) (hnames : Text.Solid names) (last : Text) :
    below key (names ++ [last]) = asDirectory (below key names) ++ last := by
  rw [below_eq (by simp)]
  cases names with
  | nil => simp [below, Text.join]
  | cons name names =>
      rw [asDirectory_eq (below_ne_nil (List.cons_ne_nil _ _) hnames) (below_closed hkey hnames),
        below_eq (List.cons_ne_nil _ _), List.cons_append, Text.join_cons, Text.join_cons]
      simp

/-- What lies below a key continues it. -/
theorem below_concat_continues (hkey : Path.endsOpen key = false) (hnames : Text.Solid names)
    (last : Text) :
    asDirectory (below key names) <+: below key (names ++ [last]) := by
  rw [below_concat hkey hnames]
  exact List.prefix_append _ _

/-- A child is the name behind the directory, up to the next separator. -/
theorem child?_eq_some_iff {found name : Text} :
    child? found key = some name ↔ (name ≠ [] ∧ slash ∉ name) ∧
      (found = key ++ name ∨ key ++ name ++ [slash] <+: found) := by
  constructor
  · intro h
    refine ⟨child?_solid h, ?_⟩
    unfold child? at h
    split at h
    · cases h
    · next rest hrest =>
        rw [Text.afterPrefix?_eq_some_iff.1 hrest]
        dsimp only at h
        split at h
        · cases h
        · cases h
          cases hafter : rest.dropWhile (· != slash) with
          | nil =>
              left
              have hall := List.takeWhile_append_dropWhile (p := (· != slash)) (l := rest)
              rw [hafter, List.append_nil] at hall
              rw [hall]
          | cons c others =>
              right
              have hc : c = slash := by
                have hfirst := List.head?_dropWhile_not (· != slash) rest
                rw [hafter] at hfirst
                simpa using hfirst
              have hall := List.takeWhile_append_dropWhile (p := (· != slash)) (l := rest)
              rw [hafter, hc] at hall
              refine ⟨others, ?_⟩
              have hopen : [slash].isPrefixOf (slash :: others) = true := by simp
              have hcut := Text.takeWhile_name (Text.slash_not_mem_takeWhile rest) (Or.inr hopen)
              rw [← hall]
              simp [hcut]
  · rintro ⟨⟨hne, hfree⟩, hfound⟩
    obtain ⟨rest, rfl, hrest⟩ : ∃ rest, found = key ++ (name ++ rest) ∧
        (rest = [] ∨ [slash].isPrefixOf rest = true) := by
      rcases hfound with rfl | ⟨rest, rfl⟩
      · exact ⟨[], by simp, Or.inl rfl⟩
      · exact ⟨slash :: rest, by simp, Or.inr (by simp)⟩
    rw [child?, Text.afterPrefix?_eq_some_iff.2 rfl]
    dsimp only
    rw [Text.takeWhile_name hfree hrest, if_neg (by simpa using hne)]

end Key

namespace Bucket

variable {bucket : Bucket} {key name : Text}

/-- Some key goes on behind a separator. -/
def Continues (bucket : Bucket) (key : Text) : Prop := ∃ found ∈ bucket.keys, key ++ [slash] <+: found

instance (bucket : Bucket) (key : Text) : Decidable (bucket.Continues key) :=
  inferInstanceAs (Decidable (∃ found ∈ bucket.keys, key ++ [slash] <+: found))

/-- The key is that of a file or of a directory. -/
def Holds (bucket : Bucket) (key : Text) : Prop := key ∈ bucket.keys ∨ bucket.Continues key

/-- What remains of the keys below a directory. -/
def rests (bucket : Bucket) (key : Text) : List Text :=
  bucket.keys.filterMap (Text.afterPrefix? (Key.asDirectory key))

/-- What remains of a key is what has to be put behind the directory. -/
theorem mem_rests {rest : Text} :
    rest ∈ bucket.rests key ↔ Key.asDirectory key ++ rest ∈ bucket.keys := by
  simp only [rests, List.mem_filterMap, Text.afterPrefix?_eq_some_iff, exists_eq_right]

/-- A key that is not empty names a directory if some key continues it. -/
theorem hasDirectory_iff (hne : key ≠ []) (hclosed : Path.endsOpen key = false) :
    bucket.hasDirectory key = true ↔ bucket.Continues key := by
  rw [hasDirectory_of_nonempty bucket hne, Key.asDirectory_eq hne hclosed, Bool.not_eq_true',
    List.isEmpty_eq_false_iff_exists_mem]
  simp only [mem_keysFrom, Continues]

/-- The children of a directory are the names of what lies right below it. -/
theorem mem_children_iff :
    name ∈ bucket.children key ↔
      (name ≠ [] ∧ slash ∉ name) ∧ bucket.Holds (Key.asDirectory key ++ name) := by
  simp only [children, Names.mem_ofList, List.mem_filterMap, mem_keysFrom,
    Key.child?_eq_some_iff]
  constructor
  · rintro ⟨found, ⟨hmem, -⟩, hname, rfl | hcontinues⟩
    · exact ⟨hname, Or.inl hmem⟩
    · exact ⟨hname, Or.inr ⟨found, hmem, hcontinues⟩⟩
  · rintro ⟨hname, hmem | ⟨found, hmem, hcontinues⟩⟩
    · exact ⟨_, ⟨hmem, List.prefix_append _ _⟩, hname, Or.inl rfl⟩
    · refine ⟨found, ⟨hmem, ?_⟩, hname, Or.inr hcontinues⟩
      rw [List.append_assoc] at hcontinues
      exact (List.prefix_append _ _).trans hcontinues

/-- The content under a key is there if the key is. -/
theorem content?_isSome : (bucket.content? key).isSome = true ↔ key ∈ bucket.keys := by
  rw [content?, Option.isSome_map, get?, List.lookup_isSome_iff, keys, List.mem_map]
  simp only [beq_iff_eq, eq_comm (a := key)]

/-- What lies behind a key makes that key a directory. -/
theorem Holds.above {last : Text} {names : List Text} (hkey : Path.endsOpen key = false)
    (hnames : Text.Solid names) (hne : names ≠ [])
    (h : bucket.Holds (Key.below key (names ++ [last]))) : bucket.Continues (Key.below key names) := by
  have hlonger := Key.below_concat_continues hkey hnames last
  rw [Key.asDirectory_eq (Key.below_ne_nil hne hnames) (Key.below_closed hkey hnames)] at hlonger
  rcases h with hmem | ⟨found, hmem, hcontinues⟩
  · exact ⟨_, hmem, hlonger⟩
  · exact ⟨found, hmem, hlonger.trans ((List.prefix_append _ _).trans hcontinues)⟩

/-- What a key holds is spelled with characters of a key. -/
theorem Holds.not_mem {names : List Text} {c : Char} (hne : names ≠ [])
    (h : bucket.Holds (Key.below key names)) (hfree : ∀ found ∈ bucket.keys, c ∉ found) :
    ∀ name ∈ names, c ∉ name := by
  intro name hname hmem
  have hbelow : c ∈ Key.below key names := by
    rw [Key.below_eq hne]
    exact List.mem_append_right _ (Text.mem_join_of_mem hname hmem)
  rcases h with hfound | ⟨found, hfound, hcontinues⟩
  · exact hfree _ hfound hbelow
  · exact hfree _ hfound (hcontinues.subset (List.mem_append_left _ hbelow))

/-- What is held below a key is made of the first components of what remains of a key there. -/
theorem Holds.exists_rest {names : List Text} (hne : names ≠ []) (hnames : Text.Solid names)
    (h : bucket.Holds (Key.below key names)) :
    ∃ rest ∈ bucket.rests key, names <+: Text.solidComponents rest := by
  rw [Key.below_eq hne] at h
  rcases h with hmem | ⟨found, hmem, tail, rfl⟩
  · refine ⟨Text.join names, mem_rests.2 hmem, [], ?_⟩
    rw [List.append_nil, Text.solidComponents_join hnames]
  · refine ⟨Text.join names ++ slash :: tail, mem_rests.2 ?_, ?_⟩
    · simpa using hmem
    · rw [Text.solidComponents_append, Text.solidComponents_join hnames]
      exact List.prefix_append _ _

end Bucket

namespace Origin

variable {origin : Origin} {key : Text} {names : List Text}

/-- The children below the source are the names of what lies right below its key. -/
theorem mem_children_iff {last : Text} (hkey : Path.endsOpen key = false)
    (hnames : Text.Solid names) (hspell : origin.spell names = some (Key.below key names)) :
    last ∈ origin.children names ↔
      (last ≠ [] ∧ slash ∉ last) ∧ origin.bucket.Holds (Key.below key (names ++ [last])) := by
  rw [children, hspell, Option.map_some, Option.getD_some, Bucket.mem_children_iff,
    Key.below_concat hkey hnames]

/-- Names lead to a directory if a key continues theirs. -/
theorem isDirectory_iff (hkey : Path.endsOpen key = false) (hne : names ≠ [])
    (hnames : Text.Solid names) (hspell : origin.spell names = some (Key.below key names)) :
    origin.isDirectory names = true ↔ origin.bucket.Continues (Key.below key names) := by
  rw [isDirectory, hspell, Option.any_some,
    Bucket.hasDirectory_iff (Key.below_ne_nil hne hnames) (Key.below_closed hkey hnames)]

/-- A walk comes to whatever a key holds, if all names above it are spelled as they are. -/
theorem reachable_of_holds (hkey : Path.endsOpen key = false) (hne : names ≠ [])
    (hnames : Text.Solid names)
    (hspell : ∀ front, front <+: names → origin.spell front = some (Key.below key front))
    (h : origin.bucket.Holds (Key.below key names)) : origin.Reachable names := by
  induction names using List.reverseRecOn with
  | nil => exact absurd rfl hne
  | append_singleton init last ih =>
      have hinit := hnames.left
      have hlast : last ∈ origin.children init :=
        (mem_children_iff hkey hinit (hspell init (List.prefix_append _ _))).2
          ⟨hnames.right.head, h⟩
      refine reachable_concat_iff.2 ⟨?_, hlast⟩
      by_cases hempty : init = []
      · exact Or.inl hempty
      · have habove := h.above hkey hinit hempty
        refine Or.inr ⟨ih hempty hinit (fun front hfront => ?_) (Or.inr habove), ?_⟩
        · exact hspell front (hfront.trans (List.prefix_append _ _))
        · exact (isDirectory_iff hkey hempty hinit (hspell init (List.prefix_append _ _))).2 habove

/-- A walk comes to nothing but what a key holds, if that is spelled as it is. -/
theorem holds_of_reachable (hkey : Path.endsOpen key = false)
    (hspell : ∀ names, Text.Solid names → (names = [] ∨ origin.bucket.Holds (Key.below key names)) →
      origin.spell names = some (Key.below key names))
    (h : origin.Reachable names) : origin.bucket.Holds (Key.below key names) := by
  induction h with
  | top h =>
      have htop := hspell [] .nil (Or.inl rfl)
      exact ((mem_children_iff hkey Text.Solid.nil htop).1 h).2
  | child hnames hdirectory h ih =>
      exact ((mem_children_iff hkey hnames.solid (hspell _ hnames.solid (Or.inr ih))).1 h).2

end Origin

end ArtifactDepot
