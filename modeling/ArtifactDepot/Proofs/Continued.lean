import ArtifactDepot.Proofs.Keys

/-!
# Paths that a name is joined to

Joining drops separators at the end of a path, puts one there, and the name
behind it.  `Path.Continued` says what this leaves of the path, and it is kept
by whatever a parser does to the front: a scheme or a transport that is looked
for, cut off or missing is so in the joined path as well.
-/

namespace ArtifactDepot

open Text (slash)

namespace Text

/-! ## Searching -/

variable {needle text rest : Text}

/-- What is found has the needle in front of it. -/
theorem afterFirst?_eq_some (h : afterFirst? needle text = some rest) :
    ∃ front, text = front ++ needle ++ rest := by
  induction text with
  | nil =>
      simp only [afterFirst?] at h
      split at h
      · next hempty =>
          cases h
          exact ⟨[], by simpa using hempty⟩
      · cases h
  | cons c text ih =>
      simp only [afterFirst?] at h
      split at h
      · next hstarts =>
          cases h
          obtain ⟨tail, htail⟩ := List.isPrefixOf_iff_prefix.1 hstarts
          refine ⟨[], ?_⟩
          rw [← htail, List.drop_left, List.nil_append]
      · obtain ⟨front, rfl⟩ := ih h
        exact ⟨c :: front, rfl⟩

/-- A needle that is not found does not occur. -/
theorem not_infix_of_afterFirst? (h : afterFirst? needle text = none) : ¬ needle <:+: text := by
  induction text with
  | nil =>
      intro hoccurs
      rw [List.infix_nil.1 hoccurs] at h
      cases h
  | cons c text ih =>
      simp only [afterFirst?] at h
      split at h
      · cases h
      · next hstarts =>
          intro hoccurs
          rcases List.infix_cons_iff.1 hoccurs with hstart | hlater
          · exact hstarts (List.isPrefixOf_iff_prefix.2 hstart)
          · exact ih h hlater

/-- Where a needle is found does not depend on how the text goes on. -/
theorem afterFirst?_append_right (h : afterFirst? needle text = some rest) (tail : Text) :
    afterFirst? needle (text ++ tail) = some (rest ++ tail) := by
  induction text with
  | nil =>
      simp only [afterFirst?] at h
      split at h
      · next hempty =>
          cases h
          rw [List.isEmpty_iff.1 hempty]
          cases tail <;> simp [afterFirst?]
      · cases h
  | cons c text ih =>
      simp only [afterFirst?] at h
      rw [List.cons_append, afterFirst?]
      split at h
      · next hstarts =>
          cases h
          obtain ⟨others, hothers⟩ := List.isPrefixOf_iff_prefix.1 hstarts
          rw [← List.cons_append, ← hothers, List.append_assoc, if_pos (by simp), List.drop_left,
            List.drop_left]
      · next hstarts =>
          -- A needle that began here would fit into the text, since it is found further on.
          obtain ⟨front, rfl⟩ := afterFirst?_eq_some h
          have hlater : ¬ needle <+: c :: (front ++ needle ++ rest ++ tail) := fun hstart =>
            hstarts (List.isPrefixOf_iff_prefix.2 (List.prefix_of_prefix_length_le hstart
              ⟨tail, rfl⟩ (by simp only [List.length_cons, List.length_append]; omega)))
          rw [if_neg (by rwa [List.isPrefixOf_iff_prefix]), ih h]

/-- A needle is found where it was found before, whatever follows it now. -/
theorem afterFirst?_exchange {front : Text}
    (h : afterFirst? needle (front ++ needle ++ rest) = some rest) (other : Text) :
    afterFirst? needle (front ++ needle ++ other) = some other := by
  cases hfound : afterFirst? needle (front ++ needle) with
  | none => exact absurd (List.suffix_append front needle).isInfix (not_infix_of_afterFirst? hfound)
  | some found =>
      have hsame := afterFirst?_append_right hfound rest
      rw [h] at hsame
      have hnothing : found = [] := by simpa using hsame
      rw [afterFirst?_append_right hfound, hnothing, List.nil_append]

/-! ## Trailing separators -/

/-- A text is its trimmed form with separators behind it. -/
theorem exists_trimEnd (text : Text) :
    ∃ extra, text = trimEnd slash text ++ List.replicate extra slash := by
  refine ⟨(text.reverse.takeWhile (· == slash)).length, ?_⟩
  have hslashes : text.reverse.takeWhile (· == slash) =
      List.replicate (text.reverse.takeWhile (· == slash)).length slash := by
    rw [List.eq_replicate_iff]
    exact ⟨rfl, fun c hc => by
      have hall := List.all_eq_true.1 List.all_takeWhile c hc
      simpa using hall⟩
  have hcut := congrArg List.reverse
    (@List.takeWhile_append_dropWhile _ (· == slash) text.reverse)
  rw [List.reverse_append, List.reverse_reverse] at hcut
  rw [← List.reverse_replicate, ← hslashes]
  exact hcut.symm

/-- Separators at the end do not matter to the components that are not empty. -/
theorem solidComponents_append_replicate (text : Text) (extra : Nat) :
    solidComponents (text ++ List.replicate extra slash) = solidComponents text := by
  induction extra with
  | zero => rw [List.replicate_zero, List.append_nil]
  | succ extra ih =>
      rw [List.replicate_succ', ← List.append_assoc, solidComponents_append, ih]
      exact List.append_nil _

/-- A text with a component that is not empty is more than separators. -/
theorem exists_ne_slash (h : solidComponents text ≠ []) : ∃ c ∈ text, c ≠ slash := by
  by_contra hnone
  have hslashes : text = List.replicate text.length slash := by
    rw [List.eq_replicate_iff]
    refine ⟨rfl, fun c hc => ?_⟩
    by_contra hne
    exact hnone ⟨c, hc, hne⟩
  rw [hslashes, ← List.nil_append (List.replicate _ _), solidComponents_append_replicate] at h
  exact h rfl

end Text

/-! ## Joined paths -/

namespace Path

/-- Is this a path that is joined with all the separators that it ends in? -/
def isSchemeRoot (path : Text) : Bool :=
  [':'].isSuffixOf (Text.trimEnd slash path) && [slash, slash].isSuffixOf path

/--
The right text is the left one, less separators at its end, with one separator and a name behind
it.  What stands before these ends in no separator if there are none, or if it is required.
-/
def Continued (tight : Prop) (name path joined : Text) : Prop :=
  ∃ front extra, path = front ++ List.replicate extra slash ∧ joined = front ++ slash :: name ∧
    (extra = 0 ∨ tight → endsOpen front = false)

/-- Joining a name continues the path, and only the end of a bare scheme keeps its separators. -/
theorem continued_join {path name : Text} (hpath : path ≠ []) (hname : name ≠ [] ∧ slash ∉ name) :
    Continued (isSchemeRoot path = false) name path (join [path, name]) := by
  have hrelative : isAbsolute name = false := Text.join_not_open (Text.Solid.singleton hname)
  have hsome : path.isEmpty = false := by simpa using hpath
  have hstep : join [path, name] = if endsOpen path then opened path ++ name
      else path ++ slash :: name := by
    have hextend : join [path, name] = extend (join [path]) name := join_append_singleton [path] name
    rw [hextend, join_singleton, extend, hsome, hrelative, if_neg (by simpa using hname.1)]
    rfl
  have htrimmed := Text.trimEnd_closed path
  obtain ⟨extra, hextra⟩ := Text.exists_trimEnd path
  rw [hstep]
  cases hopen : endsOpen path with
  | false =>
      exact ⟨path, 0, by simp, rfl, fun _ => hopen⟩
  | true =>
      rw [if_pos rfl]
      obtain ⟨extra, rfl⟩ : ∃ count, extra = count + 1 := by
        cases extra with
        | zero =>
            rw [List.replicate_zero, List.append_nil] at hextra
            rw [hextra, htrimmed] at hopen
            cases hopen
        | succ extra => exact ⟨extra, rfl⟩
      unfold opened
      dsimp only
      split
      · next hroot =>
          refine ⟨[], extra + 1, ?_, rfl, fun _ => rfl⟩
          rw [List.isEmpty_iff.1 hroot] at hextra
          exact hextra
      · split
        · next hcolon =>
            refine ⟨Text.trimEnd slash path ++ List.replicate extra slash, 1, ?_, ?_, ?_⟩
            · rw [List.append_assoc, List.replicate_append_replicate]
              exact hextra
            · conv_lhs => rw [hextra]
              rw [List.replicate_succ', List.append_assoc, List.append_assoc, List.append_assoc]
              rfl
            · rintro (hzero | htight)
              · cases hzero
              · cases extra with
                | zero => simpa using htrimmed
                | succ extra =>
                    have hdouble : [slash, slash].isSuffixOf path = true := by
                      rw [hextra, List.isSuffixOf_iff_suffix]
                      refine ⟨Text.trimEnd slash path ++ List.replicate extra slash, ?_⟩
                      rw [List.append_assoc, show [slash, slash] = List.replicate 2 slash from rfl,
                        List.replicate_append_replicate]
                    rw [isSchemeRoot, hcolon, hdouble] at htight
                    cases htight
        · refine ⟨Text.trimEnd slash path, extra + 1, hextra, ?_, fun _ => htrimmed⟩
          rw [List.append_assoc]
          rfl

namespace Continued

variable {tight : Prop} {name path joined needle front rest : Text}

/-- What ends in two separators starts the joined path only if it starts the path itself. -/
theorem starts_of_starts (h : Continued tight name path joined) (hname : slash ∉ name)
    (hneedle : [slash, slash] <:+ needle) (hstarts : needle <+: joined) : needle <+: path := by
  obtain ⟨front, extra, rfl, rfl, hclosed⟩ := h
  obtain ⟨start, rfl⟩ := hneedle
  have hfront : front ++ [slash] <+: front ++ slash :: name := ⟨name, by simp⟩
  by_cases hshort : (start ++ [slash, slash]).length ≤ (front ++ [slash]).length
  · rcases List.prefix_concat_iff.1 (List.prefix_of_prefix_length_le hstarts hfront hshort) with
      hwhole | hwithin
    · -- The second separator is the one before the name, so the path has one there too.
      have hstart : start ++ [slash] = front := by
        rw [show [slash, slash] = [slash] ++ [slash] from rfl, ← List.append_assoc] at hwhole
        exact List.append_cancel_right hwhole
      cases extra with
      | zero =>
          have hopen := endsOpen_concat start
          rw [hstart, hclosed (Or.inl rfl)] at hopen
          cases hopen
      | succ extra =>
          rw [hwhole, List.replicate_succ]
          exact ⟨List.replicate extra slash, by simp⟩
    · exact hwithin.trans (List.prefix_append _ _)
  · -- The last separator lies behind the one before the name, where there is none.
    obtain ⟨tail, htail⟩ := List.prefix_of_prefix_length_le hfront hstarts (Nat.le_of_not_le hshort)
    rcases List.eq_nil_or_concat tail with rfl | ⟨others, last, rfl⟩
    · rw [List.append_nil] at htail
      exact absurd (Nat.le_of_eq (congrArg List.length htail.symm)) hshort
    · have hlast : last = slash := by
        have hends : (front ++ [slash] ++ others) ++ [last] = (start ++ [slash]) ++ [slash] := by
          simpa using htail
        exact List.singleton_inj.1 (List.append_inj' hends rfl).2
      rw [← htail, List.concat_eq_append, List.append_cons front slash name,
        List.prefix_append_right_inj] at hstarts
      exact absurd (hstarts.subset (by simp [hlast])) hname

/-- The path goes on behind a front that is not made of separators of its end. -/
theorem split (h : Continued tight name path joined) (hpath : path = front ++ rest)
    (hrest : (∃ c ∈ rest, c ≠ slash) ∨ front ≠ [] ∧ endsOpen front = false) :
    ∃ rest', joined = front ++ rest' ∧ Continued tight name rest rest' := by
  obtain ⟨start, extra, hstart, rfl, hclosed⟩ := h
  have hslashes : ∀ c ∈ List.replicate extra slash, c = slash := fun c hc =>
    List.eq_of_mem_replicate hc
  rw [hpath] at hstart
  rcases List.append_eq_append_iff.1 hstart with ⟨others, rfl, hothers⟩ | ⟨others, hothers, hends⟩
  · refine ⟨others ++ slash :: name, by simp, others, extra, hothers, rfl, fun h => ?_⟩
    exact endsOpen_of_suffix (List.suffix_append front others) (hclosed h)
  · -- Then the rest is made of separators, and the front ends in all that precede them.
    rcases hrest with ⟨c, hc, hne⟩ | ⟨hne, hfront⟩
    · exact absurd (hslashes c (hends ▸ List.mem_append_right _ hc)) hne
    · rcases List.eq_nil_or_concat others with rfl | ⟨init, last, rfl⟩
      · rw [List.append_nil] at hothers
        rw [List.nil_append] at hends
        exact ⟨slash :: name, by rw [hothers], [], extra, hends.symm, rfl, fun _ => rfl⟩
      · have hlast : last = slash := hslashes last (by rw [hends]; simp)
        rw [hothers, hlast, List.concat_eq_append, ← List.append_assoc, endsOpen_concat] at hfront
        cases hfront

/-- A text that ends in two separators is found where it was, with as much behind it. -/
theorem afterFirst? (h : Continued tight name path joined) (hname : slash ∉ name)
    (hneedle : [slash, slash] <:+ needle)
    (hrest : ∀ rest, Text.afterFirst? needle path = some rest → ∃ c ∈ rest, c ≠ slash) :
    Option.Rel (Continued tight name) (Text.afterFirst? needle path)
      (Text.afterFirst? needle joined) := by
  cases hfound : Text.afterFirst? needle path with
  | none =>
      have hne : needle ≠ [] := by
        rintro rfl
        simp at hneedle
      have habsent : ¬ needle <:+: joined := by
        rintro ⟨front, tail, hjoined⟩
        have hstart := h.starts_of_starts hname
          (hneedle.trans (List.suffix_append front needle)) ⟨tail, hjoined⟩
        exact Text.not_infix_of_afterFirst? hfound
          ((List.suffix_append front needle).isInfix.trans hstart.isInfix)
      rw [Text.afterFirst?_eq_none hne habsent]
      exact .none
  | some rest =>
      obtain ⟨front, hpath⟩ := Text.afterFirst?_eq_some hfound
      obtain ⟨rest', hjoined, hcontinued⟩ := h.split hpath (Or.inl (hrest rest hfound))
      rw [hpath] at hfound
      rw [hjoined, Text.afterFirst?_exchange hfound]
      exact .some hcontinued

/-- The same for a text at the very beginning. -/
theorem afterPrefix? (h : Continued tight name path joined) (hname : slash ∉ name)
    (hneedle : [slash, slash] <:+ needle)
    (hrest : ∀ rest, Text.afterPrefix? needle path = some rest → ∃ c ∈ rest, c ≠ slash) :
    Option.Rel (Continued tight name) (Text.afterPrefix? needle path)
      (Text.afterPrefix? needle joined) := by
  cases hfound : Text.afterPrefix? needle path with
  | none =>
      have habsent : ¬ needle.isPrefixOf joined = true := by
        rw [List.isPrefixOf_iff_prefix]
        intro hstarts
        obtain ⟨tail, htail⟩ := h.starts_of_starts hname hneedle hstarts
        rw [Text.afterPrefix?_eq_some_iff.2 htail.symm] at hfound
        cases hfound
      rw [Text.afterPrefix?, if_neg habsent]
      exact .none
  | some rest =>
      have hpath := Text.afterPrefix?_eq_some_iff.1 hfound
      obtain ⟨rest', hjoined, hcontinued⟩ := h.split hpath (Or.inl (hrest rest hfound))
      rw [Text.afterPrefix?_eq_some_iff.2 hjoined]
      exact .some hcontinued

/-- What is found in the paths, or the paths themselves. -/
theorem getD (h : Continued tight name path joined) {found found' : Option Text}
    (hfound : Option.Rel (Continued tight name) found found') :
    Continued tight name (found.getD path) (found'.getD joined) := by
  cases hfound with
  | none => exact h
  | some hrest => exact hrest

/-- The name is the last component of the joined path. -/
theorem solidComponents_eq (h : Continued tight name path joined)
    (hname : name ≠ [] ∧ slash ∉ name) :
    Text.solidComponents joined = Text.solidComponents path ++ [name] := by
  obtain ⟨front, extra, rfl, rfl, -⟩ := h
  have hself : Text.solidComponents name = [name] :=
    Text.solidComponents_join (Text.Solid.singleton hname)
  rw [Text.solidComponents_append, Text.solidComponents_append_replicate, hself]

/-- A relative path stays relative. -/
theorem not_open (h : Continued tight name path joined) (hne : path ≠ [])
    (hrelative : [slash].isPrefixOf path = false) : [slash].isPrefixOf joined = false := by
  obtain ⟨front, extra, rfl, rfl, -⟩ := h
  cases front with
  | nil =>
      cases extra with
      | zero => exact absurd rfl hne
      | succ extra => simp [List.replicate_succ, List.isPrefixOf] at hrelative
  | cons c front => simpa [List.isPrefixOf] using hrelative

end Continued

end Path

/-- Every text is a first component with nothing or a separator behind it. -/
theorem Text.exists_cut (text : Text) :
    ∃ name rest, text = name ++ rest ∧ slash ∉ name ∧
      (rest = [] ∨ ∃ others, rest = slash :: others) := by
  induction text with
  | nil => exact ⟨[], [], rfl, List.not_mem_nil, Or.inl rfl⟩
  | cons c text ih =>
      by_cases hc : c = slash
      · exact ⟨[], c :: text, rfl, List.not_mem_nil, Or.inr ⟨text, by rw [hc]⟩⟩
      · obtain ⟨name, rest, rfl, hname, hrest⟩ := ih
        exact ⟨c :: name, rest, rfl, by simp [Ne.symm hc, hname], hrest⟩

/-- Separators at the end are trimmed. -/
theorem Text.trimEnd_append_replicate (text : Text) (extra : Nat) :
    trimEnd slash (text ++ List.replicate extra slash) = trimEnd slash text := by
  rw [trimEnd, List.reverse_append, List.reverse_replicate, List.dropWhile_append_of_pos, trimEnd]
  intro c hc
  simp [List.eq_of_mem_replicate hc]

/-- What a continued text is trimmed to goes on with the name. -/
theorem Path.Continued.trim_eq {tight : Prop} {name path joined : Text}
    (h : Continued tight name path joined) (hname : name ≠ [] ∧ slash ∉ name)
    (htight : tight ∨ Text.trim slash path = []) :
    Text.trim slash joined = Key.below (Text.trim slash path) [name] := by
  obtain ⟨front, extra, rfl, rfl, hclosed⟩ := h
  have hself : Text.trim slash name = name :=
    Text.trim_eq_self (Text.join_not_open (Text.Solid.singleton hname)) (IsRoot.of_name hname).2
  have hstart (rest : Text) : Text.trimStart slash (front ++ rest) =
      if (Text.trimStart slash front).isEmpty then Text.trimStart slash rest
      else Text.trimStart slash front ++ rest := List.dropWhile_append
  cases hcore : Text.trimStart slash front with
  | nil =>
      -- There are only separators in front of the name.
      have hnothing : Text.trim slash (front ++ List.replicate extra slash) = [] := by
        rw [Text.trim, hstart, hcore, List.isEmpty_nil, if_pos rfl, Text.trimStart,
          List.dropWhile_replicate]
        simp [Text.trimEnd]
      have hrest : Text.trimStart slash (slash :: name) = Text.trimStart slash name :=
        List.dropWhile_cons_of_pos (by simp)
      rw [hnothing, Text.trim, hstart, hcore, List.isEmpty_nil, if_pos rfl, hrest, ← Text.trim,
        hself]
      rfl
  | cons c core =>
      have hsome : (c :: core).isEmpty = false := rfl
      have hfirst : [slash].isPrefixOf (c :: core) = false := hcore ▸ Text.trimStart_not_open front
      have hcoreClosed : endsOpen (c :: core) = false := by
        rcases htight with htight | hnothing
        · refine endsOpen_of_suffix ?_ (hclosed (Or.inr htight))
          rw [← hcore]
          exact List.dropWhile_suffix _
        · obtain ⟨count, hcount⟩ := Text.exists_trimEnd (c :: core)
          rw [Text.trim, hstart, hcore, hsome, if_neg Bool.false_ne_true,
            Text.trimEnd_append_replicate] at hnothing
          rw [hnothing, List.nil_append] at hcount
          rw [hcount] at hfirst
          cases count with
          | zero => cases hcount
          | succ count => simp [List.replicate_succ, List.isPrefixOf] at hfirst
      have hpath : Text.trim slash (front ++ List.replicate extra slash) = c :: core := by
        rw [Text.trim, hstart, hcore, hsome, if_neg Bool.false_ne_true,
          Text.trimEnd_append_replicate]
        exact IsRoot.trimEnd_eq ⟨List.cons_ne_nil _ _, hcoreClosed⟩
      rw [hpath, Text.trim, hstart, hcore, hsome, if_neg Bool.false_ne_true,
        Key.below_eq (List.cons_ne_nil _ _), Key.asDirectory_eq (List.cons_ne_nil _ _) hcoreClosed]
      have hroot : IsRoot ((c :: core) ++ slash :: name) :=
        List.append_cons (c :: core) slash name ▸ .append_name _ hname
      rw [hroot.trimEnd_eq]
      simp [Text.join]

end ArtifactDepot
