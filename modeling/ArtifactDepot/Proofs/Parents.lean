import ArtifactDepot.Proofs.Joining

/-!
# Paths taken apart

A path is cut at its last separator into the path above it and its last
component.  Joining the two gives the path back, and both keep its kind
(`Path.parent_splits`), but for a single component behind a scheme: there the
cut goes through the scheme, and what is left of that is a local path.
-/

namespace ArtifactDepot

open Text (slash)

namespace Path

variable {above name path : Text}

/-! ## The last separator -/

/-- A path with a separator has a last one. -/
theorem exists_cut (hslash : slash ∈ path) :
    ∃ above name, path = above ++ slash :: name ∧ slash ∉ name := by
  obtain ⟨name, above, hpath, hname⟩ :=
    List.eq_append_cons_of_mem (List.mem_reverse.2 hslash)
  refine ⟨above.reverse, name.reverse, ?_, by simpa using hname⟩
  rw [← List.reverse_reverse path, hpath]
  simp

/-- What is behind the last separator is the last component. -/
theorem baseName_cut (above : Text) (hname : name ≠ [] ∧ slash ∉ name) :
    baseName (above ++ slash :: name) = name := by
  have hroot : IsRoot (above ++ slash :: name) := by
    simpa using IsRoot.append_name (above ++ [slash]) hname
  rw [baseName, hroot.trimEnd_eq, Text.components_append,
    Text.components_of_slash_not_mem hname.2, List.getLastD_concat]

/-- What is in front of the last separator is the parent, or else the root is. -/
theorem parent_cut (above : Text) (hname : name ≠ [] ∧ slash ∉ name) :
    parent (above ++ slash :: name) = if above = [] then [slash] else above := by
  have hroot : IsRoot (above ++ slash :: name) := by
    simpa using IsRoot.append_name (above ++ [slash]) hname
  obtain ⟨part, parts, hparts⟩ := List.exists_cons_of_ne_nil (Text.components_ne_nil above)
  have hjoined : Text.join (part :: parts) = above := by rw [← hparts, Text.join_components]
  rw [parent, if_neg (by simp)]
  simp only [hroot.trimEnd_eq, Text.components_append, Text.components_of_slash_not_mem hname.2,
    List.dropLast_concat, hparts, hjoined, List.isEmpty_iff]
  rw [if_neg (by simp)]

/-- A name is relative. -/
theorem relative_of_name (hname : name ≠ [] ∧ slash ∉ name) : isAbsolute name = false := by
  rw [← Text.join_not_open (Text.Solid.singleton hname)]
  rfl

/-! ## Behind a scheme -/

/-- The path repeats a separator in its scheme only. -/
def Unrepeated (path : Text) : Prop :=
  ∀ n < path.length, [slash, slash] <+: path.drop n →
    ∃ kind ∈ Kind.remote, kind.scheme = path.take (n + 2)

instance (path : Text) : Decidable (Unrepeated path) := by
  unfold Unrepeated
  infer_instance

/-- The path is a single component behind a scheme. -/
def IsTop (path : Text) : Prop :=
  ∃ kind ∈ Kind.remote, ∃ name, slash ∉ name ∧ path = kind.scheme ++ name

/-- The separators of a scheme are the only ones that stand side by side. -/
theorem Unrepeated.scheme_of_double {front rest : Text}
    (h : Unrepeated (front ++ slash :: slash :: rest)) :
    ∃ kind ∈ Kind.remote, kind.scheme = front ++ [slash, slash] := by
  obtain ⟨kind, hkind, hscheme⟩ := h front.length (by simp) (by simp)
  have htake : (front ++ slash :: slash :: rest).take (front.length + 2) =
      front ++ [slash, slash] := by
    rw [List.take_length_add_append]
    rfl
  exact ⟨kind, hkind, hscheme.trans htake⟩

/-- Above a top component there is a broken scheme. -/
theorem parent_top {kind : Kind} (hkind : kind ∈ Kind.remote) (hname : name ≠ [] ∧ slash ∉ name) :
    parent (kind.scheme ++ name) = kind.scheme.dropLast ∧
      baseName (kind.scheme ++ name) = name := by
  obtain ⟨mark, hscheme, -, -⟩ := Kind.exists_mark hkind
  have hcut : kind.scheme ++ name = (mark ++ [slash]) ++ slash :: name := by simp [hscheme]
  have hne : mark ++ [slash] ≠ [] := List.append_ne_nil_of_right_ne_nil _ (List.cons_ne_nil _ _)
  have hbroken : kind.scheme.dropLast = mark ++ [slash] := by
    rw [hscheme]
    exact List.dropLast_append_of_ne_nil (List.cons_ne_nil _ _)
  rw [hcut, parent_cut _ hname, baseName_cut _ hname, if_neg hne, hbroken]
  exact ⟨rfl, rfl⟩

/-- A component that is joined to a broken scheme gets one separator only. -/
theorem extend_broken {kind : Kind} (hkind : kind ∈ Kind.remote)
    (hname : name ≠ [] ∧ slash ∉ name) :
    extend kind.scheme.dropLast name = kind.scheme.dropLast ++ name := by
  obtain ⟨mark, hscheme, hmark, hcolon⟩ := Kind.exists_mark hkind
  have hclosed : endsOpen mark = false := by
    rw [← Bool.not_eq_true, endsOpen, List.isSuffixOf_iff_suffix]
    exact fun hopen => hmark (hopen.subset (List.mem_singleton_self slash))
  have hbroken : kind.scheme.dropLast = mark ++ List.replicate 1 slash := by
    rw [hscheme]
    exact List.dropLast_append_of_ne_nil (List.cons_ne_nil _ _)
  rw [hbroken, extend_closed hclosed (by simp) hname.1 (relative_of_name hname)]
  simp [seam, hcolon]

/-- A broken scheme is a local path. -/
theorem ofPath_broken {kind : Kind} (hkind : kind ∈ Kind.remote) :
    Kind.ofPath kind.scheme.dropLast = .ok .disk := by
  cases kind with
  | disk => simp [Kind.remote] at hkind
  | gcs => rfl
  | s3 => rfl
  | azure => rfl

/-- What a scheme starts has its kind. -/
theorem ofPath_scheme_append {kind : Kind} (hkind : kind ∈ Kind.remote) (rest : Text) :
    Kind.ofPath (kind.scheme ++ rest) = .ok kind := by
  cases kind with
  | disk => simp [Kind.remote] at hkind
  | gcs => simp [Kind.ofPath, Kind.ofPath?, Kind.remote, Kind.scheme, List.isPrefixOf]
  | s3 => simp [Kind.ofPath, Kind.ofPath?, Kind.remote, Kind.scheme, List.isPrefixOf]
  | azure => simp [Kind.ofPath, Kind.ofPath?, Kind.remote, Kind.scheme, List.isPrefixOf]

/-! ## Cut and joined again -/

/-- A top component does not survive the cut: neither the path nor its kind comes back. -/
theorem top_broken {kind : Kind} (hkind : kind ∈ Kind.remote) (hname : name ≠ [] ∧ slash ∉ name) :
    join [parent (kind.scheme ++ name), baseName (kind.scheme ++ name)] =
        kind.scheme.dropLast ++ name ∧
      Kind.ofPath (parent (kind.scheme ++ name)) = .ok .disk := by
  obtain ⟨hparent, hbase⟩ := parent_top hkind hname
  rw [hparent, hbase, join_pair, extend_broken hkind hname]
  exact ⟨rfl, ofPath_broken hkind⟩

/-- Without a top component the path is continued from its parent. -/
theorem extend_parent (hname : name ≠ [] ∧ slash ∉ name)
    (hsingle : Unrepeated (above ++ slash :: name)) (htop : ¬ IsTop (above ++ slash :: name)) :
    parent (above ++ slash :: name) ≠ [] ∧
      extend (parent (above ++ slash :: name)) name = above ++ slash :: name := by
  rw [parent_cut above hname]
  by_cases habove : above = []
  · rw [if_pos habove, habove]
    have hjoined : extend ([] ++ List.replicate 1 slash) name =
        [] ++ (List.replicate (seam [] 1) slash ++ name) :=
      extend_closed rfl (by simp) hname.1 (relative_of_name hname)
    exact ⟨List.cons_ne_nil _ _, hjoined⟩
  · rw [if_neg habove]
    refine ⟨habove, ?_⟩
    have hclosed : endsOpen above = false := by
      -- A separator in front of the last one is the first of a scheme, and then nothing is above.
      rw [← Bool.not_eq_true, endsOpen, List.isSuffixOf_iff_suffix]
      rintro ⟨front, rfl⟩
      rw [List.append_assoc, List.singleton_append] at hsingle htop
      obtain ⟨kind, hkind, hscheme⟩ := hsingle.scheme_of_double
      exact htop ⟨kind, hkind, name, hname.2, by simp [hscheme]⟩
    have hjoined : extend (above ++ List.replicate 0 slash) name =
        above ++ (List.replicate (seam above 0) slash ++ name) :=
      extend_closed hclosed (by simpa using habove) hname.1 (relative_of_name hname)
    simpa [seam] using hjoined

/-- What is joined from the parts of a top component is another path, of another kind. -/
theorem top_lost (hname : name ≠ [] ∧ slash ∉ name) {kind : Kind} (hkind : kind ∈ Kind.remote) :
    join [parent (kind.scheme ++ name), baseName (kind.scheme ++ name)] ≠ kind.scheme ++ name ∧
      Kind.ofPath (parent (kind.scheme ++ name)) ≠ Kind.ofPath (kind.scheme ++ name) := by
  obtain ⟨hjoin, hparent⟩ := top_broken hkind hname
  rw [hjoin, hparent, ofPath_scheme_append hkind]
  refine ⟨fun heq => ?_, fun heq => ?_⟩
  · have hlength := congrArg List.length heq
    have hscheme : 0 < kind.scheme.length := List.length_pos_iff.2 (Kind.mem_remote_iff.1 hkind)
    simp only [List.length_append, List.length_dropLast] at hlength
    omega
  · cases heq
    simp [Kind.remote] at hkind

/-- Every other path comes back, and its parent has its kind. -/
theorem other_kept (hname : name ≠ [] ∧ slash ∉ name)
    (hsingle : Unrepeated (above ++ slash :: name)) (htop : ¬ IsTop (above ++ slash :: name)) :
    join [parent (above ++ slash :: name), baseName (above ++ slash :: name)] =
        above ++ slash :: name ∧
      Kind.ofPath (parent (above ++ slash :: name)) = Kind.ofPath (above ++ slash :: name) := by
  obtain ⟨hne, hextend⟩ := extend_parent hname hsingle htop
  have hkind := Kind.ofPath_extend hne (relative_of_name hname)
  rw [hextend] at hkind
  rw [baseName_cut above hname, join_pair]
  exact ⟨hextend, hkind.symm⟩

/-- A path that ends in no separator has something behind its scheme. -/
theorem name_of_closed {kind : Kind} (hkind : kind ∈ Kind.remote)
    (hclosed : endsOpen (kind.scheme ++ name) = false) : name ≠ [] := by
  rintro rfl
  obtain ⟨mark, hscheme, -, -⟩ := Kind.exists_mark hkind
  have hopen : kind.scheme ++ [] = (mark ++ [slash]) ++ [slash] := by simp [hscheme]
  rw [hopen, endsOpen_concat] at hclosed
  cases hclosed

/--
A path with a separator and none at its end, which repeats one in its scheme only, is joined again
from its parent and its last component, and the parent has its kind, exactly unless it is a single
component behind a scheme.  The parent of such a component is the scheme without its last
separator, a local path, and joining gives the path with that separator missing.
-/
theorem parent_splits (hslash : slash ∈ path) (hclosed : endsOpen path = false)
    (hsingle : Unrepeated path) :
    (join [parent path, baseName path] = path ↔ ¬ IsTop path) ∧
      (Kind.ofPath (parent path) = Kind.ofPath path ↔ ¬ IsTop path) ∧
      ∀ kind ∈ Kind.remote, ∀ name, slash ∉ name → path = kind.scheme ++ name →
        parent path = kind.scheme.dropLast ∧
          join [parent path, baseName path] = kind.scheme.dropLast ++ name ∧
          Kind.ofPath path = .ok kind ∧ Kind.ofPath (parent path) = .ok .disk := by
  obtain ⟨above, name, hpath, hfree⟩ := exists_cut hslash
  have hname : name ≠ [] ∧ slash ∉ name := by
    refine ⟨?_, hfree⟩
    rintro rfl
    rw [hpath, endsOpen_concat] at hclosed
    cases hclosed
  have htop : IsTop path → join [parent path, baseName path] ≠ path ∧
      Kind.ofPath (parent path) ≠ Kind.ofPath path := by
    rintro ⟨kind, hkind, last, hlast, rfl⟩
    exact top_lost ⟨name_of_closed hkind hclosed, hlast⟩ hkind
  have hother : ¬ IsTop path → join [parent path, baseName path] = path ∧
      Kind.ofPath (parent path) = Kind.ofPath path := by
    subst hpath
    exact other_kept hname hsingle
  refine ⟨⟨fun h hin => (htop hin).1 h, fun h => (hother h).1⟩,
    ⟨fun h hin => (htop hin).2 h, fun h => (hother h).2⟩, ?_⟩
  rintro kind hkind last hlast rfl
  have hsolid : last ≠ [] ∧ slash ∉ last := ⟨name_of_closed hkind hclosed, hlast⟩
  exact ⟨(parent_top hkind hsolid).1, (top_broken hkind hsolid).1, ofPath_scheme_append hkind last,
    (top_broken hkind hsolid).2⟩

/-- A key of one component is split from its bucket. -/
theorem parent_splits_key :
    join [parent ['s', '3', ':', '/', '/', 'b', '/', 'k'],
        baseName ['s', '3', ':', '/', '/', 'b', '/', 'k']] =
        ['s', '3', ':', '/', '/', 'b', '/', 'k'] ∧
      Kind.ofPath (parent ['s', '3', ':', '/', '/', 'b', '/', 'k']) = .ok .s3 := by
  obtain ⟨hjoin, hkind, -⟩ := @parent_splits ['s', '3', ':', '/', '/', 'b', '/', 'k']
    (by decide) (by decide) (by decide)
  have htop : ¬ IsTop ['s', '3', ':', '/', '/', 'b', '/', 'k'] := by
    rintro ⟨kind, hkind, name, hname, hpath⟩
    cases kind with
    | disk => simp [Kind.remote] at hkind
    | gcs => simp [Kind.scheme] at hpath
    | s3 =>
        obtain rfl : ['b', '/', 'k'] = name := by simpa [Kind.scheme] using hpath
        exact hname (by decide)
    | azure => simp [Kind.scheme] at hpath
  exact ⟨hjoin.2 htop, (hkind.2 htop).trans rfl⟩

end Path

end ArtifactDepot
