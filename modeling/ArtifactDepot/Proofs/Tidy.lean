import ArtifactDepot.Proofs.Keys

/-!
# Tidy keys

The keys below a directory are tidy if they can all be names of files and
directories next to each other: their components are ordinary names, a
separator at the end only marks a directory, and no file is continued.  Then
what a bucket holds can be read off the components of its keys.
-/

namespace ArtifactDepot.Bucket

open Text (slash)

variable {bucket : Bucket} {key rest : Text} {names : List Text}

/-- The keys below a directory can be names of files and directories. -/
structure Tidy (bucket : Bucket) (key : Text) : Prop where
  /-- No component is empty, and at most one separator marks a directory at the end. -/
  spelled : ∀ rest ∈ bucket.rests key, rest = Text.join (Text.solidComponents rest) ∨
    Text.solidComponents rest ≠ [] ∧ rest = Text.join (Text.solidComponents rest) ++ [slash]
  ordinary : ∀ rest ∈ bucket.rests key, ∀ part ∈ Text.solidComponents rest,
    Disk.Ordinary part ∧ '\x00' ∉ part
  /-- No key coexists with one that continues it. -/
  apart : ∀ rest ∈ bucket.rests key, ¬ bucket.Continues (Key.asDirectory key ++ rest)

/-- What remains of the keys of files: the directory itself and markers are left out. -/
def files (bucket : Bucket) (key : Text) : List Text :=
  (bucket.rests key).filter fun rest => !rest.isEmpty && !Path.endsOpen rest

theorem mem_files :
    rest ∈ bucket.files key ↔ rest ∈ bucket.rests key ∧ rest ≠ [] ∧ Path.endsOpen rest = false := by
  simp [files]

/-- There is a file with the content at the components of a key. -/
def FileAt (bucket : Bucket) (key : Text) (names : List Text) (content : ByteArray) : Prop :=
  ∃ rest ∈ bucket.files key, Text.solidComponents rest = names ∧
    bucket.content? (Key.asDirectory key ++ rest) = some content

/-- There is a directory above a key, at a marker, or at the top. -/
def DirectoryAt (bucket : Bucket) (key : Text) (names : List Text) : Prop :=
  names = [] ∨ ∃ rest ∈ bucket.rests key, names <+: Text.solidComponents rest ∧
    (Path.endsOpen rest = true ∨ names ≠ Text.solidComponents rest)

/-- Names that are joined remain of the key of a file just if an object lies there. -/
theorem join_mem_files (hne : names ≠ []) (hnames : Text.Solid names) :
    Text.join names ∈ bucket.files key ↔ Key.below key names ∈ bucket.keys := by
  have hroot := Path.isRoot_join hne hnames
  rw [mem_files, mem_rests, Key.below_eq hne]
  exact and_iff_left hroot

namespace Tidy

variable (h : bucket.Tidy key)

include h

/-- The key of a file is made of its names. -/
theorem join_of_mem_files (hrest : rest ∈ bucket.files key) :
    Text.join (Text.solidComponents rest) = rest ∧ Text.solidComponents rest ≠ [] := by
  obtain ⟨hmem, hne, hclosed⟩ := mem_files.1 hrest
  have hjoin : rest = Text.join (Text.solidComponents rest) := by
    apply (h.spelled rest hmem).resolve_right
    intro hmarker
    rw [hmarker.2, Path.endsOpen_concat] at hclosed
    cases hclosed
  refine ⟨hjoin.symm, fun hempty => hne ?_⟩
  rw [hjoin, hempty]
  rfl

/-- A file is not continued. -/
theorem not_continues (hne : names ≠ []) (hmem : Key.below key names ∈ bucket.keys) :
    ¬ bucket.Continues (Key.below key names) := by
  rw [Key.below_eq hne] at hmem ⊢
  exact h.apart _ (mem_rests.2 hmem)

/-- Keys continue what lies above them, and markers continue themselves. -/
theorem continues_iff (hne : names ≠ []) (hnames : Text.Solid names) :
    bucket.Continues (Key.below key names) ↔ bucket.DirectoryAt key names := by
  rw [DirectoryAt, or_iff_right hne, Key.below_eq hne]
  constructor
  · rintro ⟨found, hfound, tail, rfl⟩
    have hmem : Text.join names ++ slash :: tail ∈ bucket.rests key :=
      mem_rests.2 (by simpa using hfound)
    have hparts : Text.solidComponents (Text.join names ++ slash :: tail) =
        names ++ Text.solidComponents tail := by
      rw [Text.solidComponents_append, Text.solidComponents_join hnames]
    refine ⟨_, hmem, hparts ▸ List.prefix_append _ _, ?_⟩
    -- If the names are all of it, the key is longer than a file's, so it is a marker.
    apply or_iff_not_imp_right.2
    intro hall
    rcases h.spelled _ hmem with hfile | ⟨-, hmarker⟩
    · rw [← Classical.not_not.1 hall] at hfile
      have hlength := congrArg List.length hfile
      simp at hlength
    · rw [hmarker, Path.endsOpen_concat]
  · rintro ⟨rest, hrest, ⟨more, hmore⟩, hcases⟩
    have hfound := mem_rests.1 hrest
    refine ⟨_, hfound, ?_⟩
    rw [List.append_assoc, List.prefix_append_right_inj]
    by_cases hempty : more = []
    · rw [hempty, List.append_nil] at hmore
      have hopen := hcases.resolve_right fun hnot => hnot hmore
      rcases h.spelled rest hrest with hfile | ⟨-, hmarker⟩
      · rw [hfile, ← hmore, (Path.isRoot_join hne hnames).2] at hopen
        cases hopen
      · refine ⟨[], ?_⟩
        rw [List.append_nil, hmarker, ← hmore]
    · have hstart : Text.join names ++ [slash] <+: Text.join (Text.solidComponents rest) := by
        rw [← hmore, Text.join_append hne hempty]
        exact ⟨Text.join more, by simp⟩
      rcases h.spelled rest hrest with hfile | ⟨-, hmarker⟩
      · rw [hfile]
        exact hstart
      · rw [hmarker]
        exact hstart.trans (List.prefix_append _ _)

end Tidy

end ArtifactDepot.Bucket
