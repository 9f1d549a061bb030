import Mathlib.Data.List.Find
import ArtifactDepot.Proofs.Continued
import ArtifactDepot.Kind.Choice
import ArtifactDepot.Replica

/-!
# Joined paths

Every path is a front that ends in no separator with separators behind it.
`Path.extend_closed` says once what joining makes of these two parts, and the
laws of joining follow: segments can be grouped at will, the last component
is that of the last segment, and a relative segment leaves the kind of a path
(`Path.join_acts`).  Seen from the first segment a joined path is the second
one again (`Path.relative?_inverts_join`).
-/

namespace ArtifactDepot

open Text (slash)

namespace Path

variable {front path root segment rest : Text} {extra : Nat}

/-! ## Separators at the end -/

/-- Every path is a front that ends in no separator, with separators behind it. -/
theorem exists_closed (path : Text) :
    ∃ front extra, path = front ++ List.replicate extra slash ∧ endsOpen front = false := by
  obtain ⟨extra, hextra⟩ := Text.exists_trimEnd path
  exact ⟨_, extra, hextra, Text.trimEnd_closed path⟩

/-- Trimming takes just these separators away. -/
theorem trimEnd_closed_append (hfront : endsOpen front = false) (extra : Nat) :
    Text.trimEnd slash (front ++ List.replicate extra slash) = front := by
  rw [Text.trimEnd_append_replicate]
  cases front with
  | nil => rfl
  | cons c front => exact IsRoot.trimEnd_eq ⟨List.cons_ne_nil _ _, hfront⟩

/-- A path ends in a separator if there are any behind its front. -/
theorem endsOpen_closed_append (hfront : endsOpen front = false) (extra : Nat) :
    endsOpen (front ++ List.replicate extra slash) = decide (extra ≠ 0) := by
  cases extra with
  | zero => simpa using hfront
  | succ extra =>
      rw [List.replicate_succ', ← List.append_assoc, endsOpen_concat]
      simp

/-- Only the end of a text matters for whether it ends in a separator. -/
theorem endsOpen_append (start : Text) (hne : segment ≠ []) (h : endsOpen segment = false) :
    endsOpen (start ++ segment) = false := (IsRoot.append start ⟨hne, h⟩).2

/-- A relative segment that is not empty has a front, and this is relative too. -/
theorem exists_relative (hne : segment ≠ []) (hrelative : isAbsolute segment = false) :
    ∃ front extra, segment = front ++ List.replicate extra slash ∧ endsOpen front = false ∧
      front ≠ [] ∧ ∀ rest, isAbsolute (front ++ rest) = false := by
  obtain ⟨front, extra, rfl, hclosed⟩ := exists_closed segment
  cases front with
  | nil =>
      cases extra with
      | zero => exact absurd rfl hne
      | succ extra => simp [isAbsolute, List.replicate_succ, List.isPrefixOf] at hrelative
  | cons c front =>
      refine ⟨c :: front, extra, rfl, hclosed, List.cons_ne_nil _ _, fun rest => ?_⟩
      simpa [isAbsolute, List.isPrefixOf] using hrelative

/-! ## Seams -/

/--
The separators between a path and the segment that is joined to it: one, or all those that the
path ends in, if a colon precedes them.
-/
def seam (front : Text) (extra : Nat) : Nat :=
  if [':'].isSuffixOf front && extra != 0 then extra else 1

theorem seam_pos (front : Text) (extra : Nat) : 0 < seam front extra := by
  unfold seam
  split
  · next hkept =>
      simp only [Bool.and_eq_true, bne_iff_ne] at hkept
      exact Nat.pos_of_ne_zero hkept.2
  · exact Nat.one_pos

/-- Whether separators are kept depends on the end of the front only. -/
theorem seam_append (start : Text) (hne : front ≠ []) (extra : Nat) :
    seam (start ++ front) extra = seam front extra := by
  obtain ⟨init, last, rfl⟩ := (List.eq_nil_or_concat front).resolve_left hne
  simp [seam, List.isSuffixOf]

/-- A relative segment is put behind the front of a path, with the seam between them. -/
theorem extend_closed (hfront : endsOpen front = false)
    (hpath : front ++ List.replicate extra slash ≠ []) (hne : segment ≠ [])
    (hrelative : isAbsolute segment = false) :
    extend (front ++ List.replicate extra slash) segment =
      front ++ (List.replicate (seam front extra) slash ++ segment) := by
  rw [extend, if_neg (by simpa using hne), hrelative, Bool.or_false, if_neg (by simpa using hpath),
    endsOpen_closed_append hfront]
  by_cases hextra : extra = 0
  · simp [hextra, seam]
  · rw [if_pos (by simpa using hextra), opened, trimEnd_closed_append hfront]
    cases front with
    | nil => simp [seam, List.isSuffixOf]
    | cons c front =>
        cases hcolon : [':'].isSuffixOf (c :: front) <;> simp [seam, hcolon, hextra]

/-! ## Grouping -/

@[simp] theorem extend_nil (path : Text) : extend path [] = path := by simp [extend]

@[simp] theorem nil_extend (segment : Text) : extend [] segment = segment := by
  cases segment <;> simp [extend]

/-- A path that is continued ends in the segment. -/
theorem suffix_extend (path segment : Text) : segment <:+ extend path segment := by
  unfold extend
  split
  · next hempty => exact List.isEmpty_iff.1 hempty ▸ List.nil_suffix
  · split_ifs
    · exact List.suffix_rfl
    · exact List.suffix_append _ _
    · exact (List.suffix_cons _ _).trans (List.suffix_append _ _)

/-- A path that is not empty stays so. -/
theorem extend_ne_nil (hpath : path ≠ []) (segment : Text) : extend path segment ≠ [] := by
  intro hempty
  have hsegment : segment = [] := List.suffix_nil.1 (hempty ▸ suffix_extend path segment)
  rw [hsegment, extend_nil] at hempty
  exact hpath hempty

/-- An absolute segment discards what came before it. -/
theorem extend_absolute (path : Text) (h : isAbsolute segment = true) :
    extend path segment = segment := by
  cases segment with
  | nil => cases h
  | cons c segment => simp [extend, h]

/-- What an absolute segment is extended to is absolute. -/
theorem isAbsolute_extend (h : isAbsolute path = true) (segment : Text) :
    isAbsolute (extend path segment) = true := by
  by_cases hne : segment = []
  · rwa [hne, extend_nil]
  · cases hrelative : isAbsolute segment with
    | true => rwa [extend_absolute path hrelative]
    | false =>
        obtain ⟨front, extra, rfl, hclosed⟩ := exists_closed path
        have hpath : front ++ List.replicate extra slash ≠ [] := by
          rintro hempty
          rw [hempty] at h
          cases h
        rw [extend_closed hclosed hpath hne hrelative]
        cases front with
        | nil => simp [seam, List.isSuffixOf, isAbsolute, List.isPrefixOf]
        | cons c front => simpa [isAbsolute, List.isPrefixOf] using h

/-- It does not matter which two of three segments are joined first. -/
theorem extend_assoc (path segment last : Text) :
    extend (extend path segment) last = extend path (extend segment last) := by
  by_cases hlast : last = []
  · rw [hlast, extend_nil, extend_nil]
  · cases habsolute : isAbsolute last with
    | true => rw [extend_absolute _ habsolute, extend_absolute _ habsolute,
        extend_absolute _ habsolute]
    | false =>
        by_cases hsegment : segment = []
        · rw [hsegment, extend_nil, nil_extend]
        · cases hreset : isAbsolute segment with
          | true =>
              rw [extend_absolute _ hreset, extend_absolute _ (isAbsolute_extend hreset last)]
          | false =>
              by_cases hpath : path = []
              · rw [hpath, nil_extend, nil_extend]
              · -- All three meet at two seams, and neither depends on the other.
                obtain ⟨front, extra, rfl, hclosed⟩ := exists_closed path
                obtain ⟨middle, more, rfl, hmiddle, hne, hrelative⟩ :=
                  exists_relative hsegment hreset
                have hfront : endsOpen (front ++ List.replicate (seam front extra) slash ++ middle)
                    = false := endsOpen_append _ hne hmiddle
                rw [extend_closed hclosed hpath hsegment hreset,
                  extend_closed hmiddle hsegment hlast habsolute,
                  extend_closed hclosed hpath (by simp [hne]) (hrelative _),
                  ← List.append_assoc front, ← List.append_assoc (front ++ _) middle,
                  extend_closed hfront (by simp [hne]) hlast habsolute, seam_append _ hne]
                simp only [List.append_assoc]

instance : Std.Associative extend := ⟨extend_assoc⟩

instance : Std.LawfulIdentity extend [] where
  left_id := nil_extend
  right_id := extend_nil

@[simp] theorem join_pair (path segment : Text) : join [path, segment] = extend path segment := by
  simp [join]

/-- Segments can be joined in two parts. -/
theorem join_append (segments others : List Text) :
    join (segments ++ others) = join [join segments, join others] := by
  rw [join_pair, join, List.foldl_append, ← join, ← extend_nil (join segments), List.foldl_assoc,
    extend_nil]
  rfl

/-- Segments can be joined group by group. -/
theorem join_flatten (groups : List (List Text)) :
    join groups.flatten = join (groups.map join) := by
  induction groups with
  | nil => rfl
  | cons group groups ih =>
      have hsplit : join ([join group] ++ groups.map join) =
          join [join [join group], join (groups.map join)] := join_append _ _
      rw [List.flatten_cons, join_append, ih, List.map_cons]
      simpa using hsplit.symm

/-! ## The last component -/

/-- The last component of a path is that of its front. -/
theorem baseName_closed_append (hfront : endsOpen front = false) (extra : Nat) :
    baseName (front ++ List.replicate extra slash) = (Text.components front).getLastD [] := by
  rw [baseName, trimEnd_closed_append hfront]

/-- Separators in front of a last component are not part of it. -/
theorem getLastD_components_append (start middle : Text) (hextra : 0 < extra) :
    (Text.components (start ++ List.replicate extra slash ++ middle)).getLastD [] =
      (Text.components middle).getLastD [] := by
  obtain ⟨extra, rfl⟩ := Nat.exists_eq_succ_of_ne_zero (Nat.ne_of_gt hextra)
  rw [List.replicate_succ', ← List.append_assoc, List.append_assoc, List.singleton_append,
    Text.components_append, List.getLastD_eq_getLast?, List.getLast?_append,
    List.getLastD_eq_getLast?, List.getLast?_eq_some_getLast (Text.components_ne_nil middle),
    Option.some_or]

/-- The last component of a joined path is that of what was joined. -/
theorem baseName_extend (path : Text) (hne : segment ≠ []) :
    baseName (extend path segment) = baseName segment := by
  cases hrelative : isAbsolute segment with
  | true => rw [extend_absolute path hrelative]
  | false =>
      by_cases hpath : path = []
      · rw [hpath, nil_extend]
      · obtain ⟨front, extra, rfl, hclosed⟩ := exists_closed path
        rw [extend_closed hclosed hpath hne hrelative]
        obtain ⟨middle, more, rfl, hmiddle, hsolid, -⟩ := exists_relative hne hrelative
        have hwhole : endsOpen (front ++ List.replicate (seam front extra) slash ++ middle) =
            false := endsOpen_append _ hsolid hmiddle
        rw [← List.append_assoc, ← List.append_assoc, baseName_closed_append hwhole,
          baseName_closed_append hmiddle, getLastD_components_append _ _ (seam_pos front extra)]

/-! ## The kind -/

/-- Two separators in front of a relative rest are not part of it. -/
theorem two_le_of_eq {tail : Text} (hrelative : isAbsolute rest = false)
    (h : List.replicate extra slash ++ rest = [slash, slash] ++ tail) : 2 ≤ extra := by
  match extra with
  | 0 =>
      rw [List.replicate_zero, List.nil_append] at h
      simp [h, isAbsolute, List.isPrefixOf] at hrelative
  | 1 =>
      have hrest : rest = slash :: tail := by simpa using h
      simp [hrest, isAbsolute, List.isPrefixOf] at hrelative
  | more + 2 => exact Nat.le_add_left 2 more

/--
A mark with two separators starts a path if it starts the front of the path, or if it is the front
and the two separators are behind it.
-/
theorem mark_prefix_iff {mark : Text} (hmark : slash ∉ mark) (hfront : endsOpen front = false)
    (hrelative : isAbsolute rest = false) (hseam : rest = [] ∨ 0 < extra) :
    mark ++ [slash, slash] <+: front ++ (List.replicate extra slash ++ rest) ↔
      mark ++ [slash, slash] <+: front ∨ front = mark ∧ 2 ≤ extra := by
  constructor
  · rintro ⟨tail, htail⟩
    rcases List.append_eq_append_iff.1 htail with ⟨inner, rfl, -⟩ | ⟨inner, hinner, hrest⟩
    · exact .inl (List.prefix_append _ _)
    -- The front ends within the mark or within the separators behind it.
    rcases List.append_eq_append_iff.1 hinner with ⟨past, rfl, hpast⟩ | ⟨past, rfl, rfl⟩
    · rcases List.eq_nil_or_concat past with rfl | ⟨init, last, rfl⟩
      · rw [List.nil_append] at hpast
        subst hpast
        exact .inr ⟨List.append_nil mark, two_le_of_eq hrelative hrest⟩
      · have hlast : last ∈ [slash, slash] := by simp [hpast]
        obtain rfl : last = slash := by simpa using hlast
        rw [List.concat_eq_append, ← List.append_assoc, endsOpen_concat] at hfront
        simp at hfront
    · cases past with
      | nil => exact .inr ⟨(List.append_nil front).symm, two_le_of_eq hrelative hrest⟩
      | cons c past =>
          have hc : c ≠ slash := by
            rintro rfl
            exact hmark (by simp)
          cases extra with
          | zero => simp [hseam.resolve_right (Nat.lt_irrefl 0)] at hrest
          | succ extra => exact absurd (List.cons.inj hrest).1.symm hc
  · rintro (hstarts | ⟨rfl, hextra⟩)
    · exact hstarts.trans (List.prefix_append _ _)
    · obtain ⟨more, rfl⟩ := Nat.exists_eq_add_of_le' hextra
      exact ⟨List.replicate more slash ++ rest, by simp [List.replicate_succ]⟩

end Path

namespace Kind

/-- A scheme is a mark that ends in a colon, with two separators behind it. -/
theorem exists_mark {kind : Kind} (h : kind ∈ remote) :
    ∃ mark, kind.scheme = mark ++ [slash, slash] ∧ slash ∉ mark ∧ [':'].isSuffixOf mark = true := by
  cases kind with
  | disk => simp [remote] at h
  | gcs => exact ⟨['g', 's', ':'], by decide⟩
  | s3 => exact ⟨['s', '3', ':'], by decide⟩
  | azure => exact ⟨['a', 's', ':'], by decide⟩

/-- A scheme starts a joined path if it starts the first part of it. -/
theorem scheme_isPrefixOf_extend {kind : Kind} (hkind : kind ∈ remote) {path segment : Text}
    (hpath : path ≠ []) (hrelative : Path.isAbsolute segment = false) :
    kind.scheme.isPrefixOf (Path.extend path segment) = kind.scheme.isPrefixOf path := by
  by_cases hne : segment = []
  · rw [hne, Path.extend_nil]
  · obtain ⟨mark, hscheme, hmark, hcolon⟩ := exists_mark hkind
    obtain ⟨front, extra, rfl, hclosed⟩ := Path.exists_closed path
    -- The seam behind a mark has as many separators as were there, and one if there were none.
    have hseam : front = mark → (2 ≤ Path.seam front extra ↔ 2 ≤ extra) := by
      rintro rfl
      cases extra with
      | zero => simp [Path.seam]
      | succ extra => simp [Path.seam, hcolon]
    rw [Bool.eq_iff_iff, List.isPrefixOf_iff_prefix, List.isPrefixOf_iff_prefix, hscheme,
      Path.extend_closed hclosed hpath hne hrelative,
      Path.mark_prefix_iff hmark hclosed hrelative (.inr (Path.seam_pos front extra)),
      ← List.append_nil (List.replicate extra slash),
      Path.mark_prefix_iff hmark hclosed rfl (.inl rfl)]
    exact or_congr Iff.rfl (and_congr_right hseam)

/-- A relative segment leaves the kind of a path as it is. -/
theorem ofPath_extend {path segment : Text} (hpath : path ≠ [])
    (hrelative : Path.isAbsolute segment = false) :
    ofPath (Path.extend path segment) = ofPath path := by
  have hfind : remote.find? (fun kind => kind.scheme.isPrefixOf (Path.extend path segment)) =
      remote.find? (fun kind => kind.scheme.isPrefixOf path) :=
    List.find?_congr fun kind hkind => scheme_isPrefixOf_extend hkind hpath hrelative
  simp [ofPath, ofPath?, Path.extend_ne_nil hpath segment, hpath, hfind]

end Kind

namespace Path

/-! ## The laws of joining -/

/--
Lists of segments act on paths by joining: joining them part by part or group by group makes no
difference, and the empty path is the unit.  The last component is that of the last segment, and a
relative segment leaves the kind as it is.
-/
theorem join_acts :
    (∀ segments others : List Text, join (segments ++ others) = join [join segments, join others]) ∧
      (∀ groups : List (List Text), join groups.flatten = join (groups.map join)) ∧
      (∀ path : Text, join [[], path] = path ∧ join [path, []] = path) ∧
      (∀ path segment : Text, segment ≠ [] → baseName (join [path, segment]) = baseName segment) ∧
      ∀ path segment : Text, path ≠ [] → isAbsolute segment = false →
        Kind.ofPath (join [path, segment]) = Kind.ofPath path := by
  simp only [join_pair]
  exact ⟨fun segments others => by rw [join_append, join_pair], join_flatten,
    fun path => ⟨nil_extend path, extend_nil path⟩, fun path _ => baseName_extend path,
    fun _ _ => Kind.ofPath_extend⟩

/-- The root of a scheme keeps its kind and gets a last component. -/
theorem join_acts_scheme :
    baseName (join [Kind.s3.scheme, ['b', '/']]) = ['b'] ∧
      Kind.ofPath (join [Kind.s3.scheme, ['b', '/']]) = .ok .s3 := by
  obtain ⟨-, -, -, hname, hkind⟩ := join_acts
  exact ⟨(hname _ _ (by decide)).trans (by decide), (hkind _ _ (by decide) (by decide)).trans rfl⟩

/-! ## Paths seen from another -/

/-- A text is its trimmed form with separators in front of it. -/
theorem exists_trimStart (text : Text) :
    ∃ extra, text = List.replicate extra slash ++ Text.trimStart slash text := by
  induction text with
  | nil => exact ⟨0, rfl⟩
  | cons c text ih =>
      by_cases hc : c = slash
      · obtain ⟨extra, hextra⟩ := ih
        refine ⟨extra + 1, ?_⟩
        rw [Text.trimStart, List.dropWhile_cons_of_pos (by simpa using hc), List.replicate_succ,
          List.cons_append, ← Text.trimStart, ← hextra, hc]
      · exact ⟨0, by rw [Text.trimStart, List.dropWhile_cons_of_neg (by simpa using hc)]; rfl⟩

/-- A relative text is not trimmed in front any further. -/
theorem trimStart_replicate_append (extra : Nat) (hrelative : isAbsolute rest = false) :
    Text.trimStart slash (List.replicate extra slash ++ rest) = rest := by
  rw [Text.trimStart,
    List.dropWhile_append_of_pos fun c hc => by simp [List.eq_of_mem_replicate hc]]
  cases rest with
  | nil => rfl
  | cons c rest =>
      have hc : (slash == c) = false := by simpa [isAbsolute, List.isPrefixOf] using hrelative
      exact List.dropWhile_cons_of_neg (by rw [BEq.comm, hc]; exact Bool.false_ne_true)

/--
A path lies under a root if it is the root without its trailing separators, or continues that by
separators; what follows them is the path as seen from the root.
-/
theorem relative?_eq_some_iff :
    relative? path root = some rest ↔ isAbsolute rest = false ∧
      ∃ extra, path = Text.trimEnd slash root ++ (List.replicate extra slash ++ rest) ∧
        (rest = [] ∨ 0 < extra) := by
  unfold relative?
  dsimp only
  constructor
  · intro h
    split at h
    · next hroot =>
        cases h
        exact ⟨rfl, 0, by simpa using hroot, .inl rfl⟩
    · obtain ⟨tail, htail, rfl⟩ := Option.map_eq_some_iff.1 h
      obtain ⟨extra, hextra⟩ := exists_trimStart tail
      refine ⟨Text.trimStart_not_open tail, extra + 1, ?_, .inr (Nat.succ_pos _)⟩
      rw [Text.afterPrefix?_eq_some_iff.1 htail, List.replicate_succ, List.cons_append, ← hextra,
        List.append_assoc, List.singleton_append]
  · rintro ⟨hrelative, extra, rfl, hseam⟩
    cases extra with
    | zero =>
        obtain rfl := hseam.resolve_right (Nat.lt_irrefl 0)
        simp
    | succ extra =>
        have hafter : Text.afterPrefix? (Text.trimEnd slash root ++ [slash])
            (Text.trimEnd slash root ++ (List.replicate (extra + 1) slash ++ rest)) =
              some (List.replicate extra slash ++ rest) :=
          Text.afterPrefix?_eq_some_iff.2 (by simp [List.replicate_succ])
        rw [if_neg (by simp), hafter, Option.map_some, trimStart_replicate_append extra hrelative]

/-- A relative path that is joined to a root is seen from it again. -/
theorem relative?_extend (hroot : root ≠ []) (hrelative : isAbsolute rest = false) :
    relative? (extend root rest) root = some rest := by
  obtain ⟨front, extra, rfl, hclosed⟩ := exists_closed root
  rw [relative?_eq_some_iff, trimEnd_closed_append hclosed]
  refine ⟨hrelative, ?_⟩
  by_cases hne : rest = []
  · exact ⟨extra, by rw [hne, extend_nil, List.append_nil], .inl hne⟩
  · exact ⟨_, extend_closed hclosed hroot hne hrelative, .inr (seam_pos front extra)⟩

/-- A path that continues the root without a separator does not lie under it. -/
theorem relative?_sibling (root : Text) {more : Text} (hne : more ≠ [])
    (hrelative : isAbsolute more = false) :
    relative? (Text.trimEnd slash root ++ more) root = none := by
  rw [Option.eq_none_iff_forall_not_mem]
  intro rest hrest
  obtain ⟨-, extra, hextra, hseam⟩ := relative?_eq_some_iff.1 hrest
  rw [List.append_cancel_left hextra] at hne hrelative
  cases extra with
  | zero => exact hne (by simp [hseam.resolve_right (Nat.lt_irrefl 0)])
  | succ extra => simp [List.replicate_succ, isAbsolute, List.isPrefixOf] at hrelative

/--
A relative path that is joined to a root is seen from it again.  Conversely, exactly the paths that
continue the root without its trailing separators are seen from it: by separators and a relative
path, or by any number of separators.  A path that merely extends the last component of the root is
refused.
-/
theorem relative?_inverts_join :
    (∀ root rest : Text, root ≠ [] → isAbsolute rest = false →
      relative? (join [root, rest]) root = some rest) ∧
    (∀ path root rest : Text, relative? path root = some rest ↔ isAbsolute rest = false ∧
      ∃ extra, path = Text.trimEnd slash root ++ (List.replicate extra slash ++ rest) ∧
        (rest = [] ∨ 0 < extra)) ∧
    ∀ (root more replica : Text) (site : Site), more ≠ [] → isAbsolute more = false →
      relative? (Text.trimEnd slash root ++ more) root = none ∧
        Replica.target root replica (Text.trimEnd slash root ++ more) site =
          .error (.incident (.notUnder (Text.trimEnd slash root ++ more) root)) site ∧
        (Incident.notUnder (Text.trimEnd slash root ++ more) root).className = "ValueError" := by
  refine ⟨fun root rest hroot hrelative => ?_, fun _ _ _ => relative?_eq_some_iff,
    fun root more replica site hne hrelative => ?_⟩
  · rw [join_pair]
    exact relative?_extend hroot hrelative
  · have hnone := relative?_sibling root hne hrelative
    refine ⟨hnone, ?_, rfl⟩
    rw [Replica.target, hnone]
    rfl

/-- A path below the root of a scheme is found again, and a neighbour of a root is refused. -/
theorem relative?_inverts_join_scheme :
    relative? (join [Kind.s3.scheme, ['b']]) Kind.s3.scheme = some ['b'] ∧
      relative? ['a', 'b'] ['a', '/'] = none := by
  obtain ⟨hinverts, -, hsibling⟩ := relative?_inverts_join
  exact ⟨hinverts Kind.s3.scheme ['b'] (by decide) (by decide),
    (hsibling ['a', '/'] ['b'] [] {} (by decide) (by decide)).1⟩

/--
A path that adds separators to the root is seen from it as the empty path, so the empty path does
not tell that the two are the same.
-/
theorem not_eq_of_relative?_nil :
    ¬ ∀ path root rest : Text, relative? path root = some rest → isAbsolute rest = false ∧
      (rest = [] → path = Text.trimEnd slash root) ∧
      (rest ≠ [] → ∃ extra, 0 < extra ∧
        path = Text.trimEnd slash root ++ (List.replicate extra slash ++ rest)) := by
  intro h
  have hroot := (h ['a', '/'] ['a'] [] (by decide)).2.1 rfl
  exact absurd hroot (by decide)

end Path

end ArtifactDepot
