import ArtifactDepot.Proofs.Reading

/-!
# Further separators

A run of separators means no more than a single one, and none at the end.
Each kind has its own way to this: the key is put together from components,
or trimmed, and for S3 scheme and transport are searched for before.  The
last two ways leave gaps, which `Backend.Clashes` names: separators inside a
blob are kept, and a run behind a colon may spell out a transport
(`Backend.separators_ignored`).
-/

namespace ArtifactDepot

open Text (slash)

/-! ## Texts -/

namespace Text

variable {front rest left right mark : Text}

/--
Where further separators can stand: the front ends in none, and behind it there are others or
nothing at all.
-/
structure Gap (front rest : Text) : Prop where
  closed : Path.endsOpen front = false
  opens : rest = [] ∨ ∃ tail, rest = slash :: tail

/--
Are these the ends of a text, the right one with further separators?  They stand at the beginning,
or where the whole text has its gap.
-/
def Spread (front rest left right : Text) : Prop :=
  ∃ start extra tail, left = start ++ tail ∧ right = start ++ List.replicate extra slash ++ tail ∧
    (start = [] ∨ start <:+ front ∧ tail = rest)

/-- Further separators leave a gap. -/
theorem Gap.further (h : Gap front rest) (extra : Nat) :
    Gap front (List.replicate extra slash ++ rest) := by
  refine ⟨h.closed, ?_⟩
  cases extra with
  | zero => exact h.opens
  | succ extra => exact Or.inr ⟨_, rfl⟩

/-- Separators in front do not matter to the components that are not empty. -/
theorem solidComponents_replicate_append (extra : Nat) (text : Text) :
    solidComponents (List.replicate extra slash ++ text) = solidComponents text := by
  induction extra with
  | zero => rfl
  | succ extra ih =>
      rw [List.replicate_succ, List.cons_append, ← List.nil_append (slash :: _),
        solidComponents_append, ih]
      rfl

/-- Further separators do not matter to the components that are not empty. -/
theorem solidComponents_gap (h : rest = [] ∨ ∃ tail, rest = slash :: tail) (extra : Nat) :
    solidComponents (front ++ List.replicate extra slash ++ rest) =
      solidComponents (front ++ rest) := by
  rcases h with rfl | ⟨tail, rfl⟩
  · rw [List.append_nil, List.append_nil, solidComponents_append_replicate]
  · rw [solidComponents_append, solidComponents_append, solidComponents_append_replicate]

theorem solidComponents_spread (hgap : Gap front rest) (h : Spread front rest left right) :
    solidComponents right = solidComponents left := by
  obtain ⟨start, extra, tail, rfl, rfl, rfl | ⟨-, rfl⟩⟩ := h
  · exact solidComponents_replicate_append extra tail
  · exact solidComponents_gap hgap.opens extra

/-- A mark with two separators begins at a gap only as a whole: the separators are those behind it. -/
theorem starts_at_gap {tail : Text} (hmark : slash ∉ mark) (hclosed : Path.endsOpen front = false)
    (htail : tail = [] ∨ ∃ others, tail = slash :: others)
    (h : mark ++ [slash, slash] <+: front ++ tail) :
    mark ++ [slash, slash] <+: front ∨ front = mark ∧ [slash, slash] <+: tail := by
  obtain ⟨behind, hbehind⟩ := h
  rcases List.append_eq_append_iff.1 hbehind with ⟨others, hfront, -⟩ | ⟨others, hneedle, htail'⟩
  · exact Or.inl ⟨others, hfront.symm⟩
  · rcases List.append_eq_append_iff.1 hneedle with ⟨extra, hfront, hslashes⟩ | ⟨extra, rfl, hothers⟩
    · rcases List.eq_nil_or_concat extra with rfl | ⟨init, last, rfl⟩
      · rw [List.nil_append] at hslashes
        exact Or.inr ⟨by simpa using hfront, behind, by rw [htail', ← hslashes]⟩
      · -- The front would end in a separator.
        have hlast : last ∈ [slash, slash] := hslashes ▸ List.mem_append_left _ (by simp)
        have hslash : last = slash := by simpa using hlast
        rw [hfront, hslash, List.concat_eq_append, ← List.append_assoc, Path.endsOpen_concat]
          at hclosed
        cases hclosed
    · cases extra with
      | nil =>
          rw [List.nil_append] at hothers
          exact Or.inr ⟨by simp, behind, by rw [htail', hothers]⟩
      | cons c extra =>
          rcases htail with rfl | ⟨rest, rfl⟩
          · rw [hothers] at htail'
            cases htail'
          · rw [hothers] at htail'
            refine absurd ?_ hmark
            rw [(List.cons.inj htail').1]
            simp

/-- A text that does not begin with a needle is searched further on. -/
theorem afterFirst?_cons {needle : Text} {c : Char} (h : ¬ needle <+: c :: rest) :
    afterFirst? needle (c :: rest) = afterFirst? needle rest := by
  rw [afterFirst?, if_neg (by rwa [List.isPrefixOf_iff_prefix])]

/-- Nothing that begins with another character is found earlier behind separators in front. -/
theorem afterFirst?_replicate_append {needle : Text} (hne : needle ≠ [])
    (hstart : [slash].isPrefixOf needle = false) (extra : Nat) (text : Text) :
    afterFirst? needle (List.replicate extra slash ++ text) = afterFirst? needle text := by
  induction extra with
  | zero => rfl
  | succ extra ih =>
      rw [List.replicate_succ, List.cons_append, afterFirst?_cons, ih]
      obtain ⟨c, needle, rfl⟩ := List.exists_cons_of_ne_nil hne
      rintro ⟨behind, hbehind⟩
      rw [List.cons_append] at hbehind
      rw [(List.cons.inj hbehind).1] at hstart
      simp [List.isPrefixOf] at hstart

/-- Behind separators in front the same is found, with further ones or without them. -/
theorem afterFirst?_front (hmark : mark ≠ [] ∧ slash ∉ mark) (extra : Nat) (tail : Text) :
    Option.Rel (Spread front rest) (afterFirst? (mark ++ [slash, slash]) tail)
      (afterFirst? (mark ++ [slash, slash]) (List.replicate extra slash ++ tail)) := by
  obtain ⟨c, others, rfl⟩ := List.exists_cons_of_ne_nil hmark.1
  have hc : (slash == c) = false := by
    simpa using fun heq : slash = c => hmark.2 (heq ▸ List.mem_cons_self ..)
  rw [afterFirst?_replicate_append (by simp) (by simp [List.isPrefixOf, hc])]
  cases afterFirst? (c :: others ++ [slash, slash]) tail with
  | none => exact .none
  | some found => exact .some ⟨[], 0, found, rfl, rfl, Or.inl rfl⟩

/--
What ends in two separators is found where it was, unless further ones complete it: it is not, if
the front does not end in what precedes them, if they are there already, or if it is found before.
-/
theorem afterFirst?_spread {start : Text} (hmark : mark ≠ [] ∧ slash ∉ mark)
    (hgap : Gap front rest) (hstart : start <:+ front)
    (hclash : mark <:+ start → [slash, slash] <+: rest ∨ mark ++ [slash, slash] <:+: start)
    (extra : Nat) :
    Option.Rel (Spread front rest) (afterFirst? (mark ++ [slash, slash]) (start ++ rest))
      (afterFirst? (mark ++ [slash, slash]) (start ++ List.replicate extra slash ++ rest)) := by
  have hne : mark ++ [slash, slash] ≠ [] := by simp
  induction start with
  | nil => exact afterFirst?_front hmark extra rest
  | cons c start ih =>
      have hclosed := Path.endsOpen_of_suffix hstart hgap.closed
      by_cases hfound : mark ++ [slash, slash] <+: c :: start
      · -- It is found before the gap.
        obtain ⟨behind, hbehind⟩ := hfound
        have hsuffix : behind <:+ front := (hbehind ▸ List.suffix_append _ behind :
          behind <:+ c :: start).trans hstart
        rw [← hbehind, List.append_assoc _ behind, List.append_assoc _ behind,
          List.append_assoc _ (behind ++ _), afterFirst?_append hne, afterFirst?_append hne]
        exact .some ⟨behind, extra, rest, rfl, rfl, Or.inr ⟨hsuffix, rfl⟩⟩
      · by_cases hwhole : c :: start = mark ∧ [slash, slash] <+: rest
        · -- It is found at the gap, and the further separators are left.
          obtain ⟨hsame, behind, rfl⟩ := hwhole
          have hshift : List.replicate extra slash ++ [slash, slash] =
              [slash, slash] ++ List.replicate extra slash := by
            rw [show [slash, slash] = List.replicate 2 slash from rfl,
              List.replicate_append_replicate, List.replicate_append_replicate, Nat.add_comm]
          have hafter : mark ++ List.replicate extra slash ++ ([slash, slash] ++ behind) =
              mark ++ [slash, slash] ++ (List.replicate extra slash ++ behind) := by
            rw [List.append_assoc mark, ← List.append_assoc _ _ behind, hshift]
            simp only [List.append_assoc]
          rw [hsame, hafter, ← List.append_assoc, afterFirst?_append hne, afterFirst?_append hne]
          exact .some ⟨[], extra, behind, rfl, rfl, Or.inl rfl⟩
        · have hbefore : ¬ mark ++ [slash, slash] <+: c :: start ++ rest := fun hprefix =>
            (starts_at_gap hmark.2 hclosed hgap.opens hprefix).elim hfound hwhole
          have hafter : ¬ mark ++ [slash, slash] <+:
              c :: start ++ (List.replicate extra slash ++ rest) := by
            intro hprefix
            rcases starts_at_gap hmark.2 hclosed (hgap.further extra).opens hprefix with
              hprefix | ⟨hsame, -⟩
            · exact hfound hprefix
            · rcases hclash (hsame ▸ List.suffix_refl _) with hthere | hearlier
              · exact hwhole ⟨hsame, hthere⟩
              · have hlength := hearlier.length_le
                rw [hsame, List.length_append, List.length_cons] at hlength
                omega
          rw [List.append_assoc, List.cons_append, List.cons_append,
            afterFirst?_cons (by simpa using hbefore), afterFirst?_cons (by simpa using hafter),
            ← List.append_assoc]
          refine ih ((List.suffix_cons c start).trans hstart) fun hends => ?_
          refine (hclash (hends.trans (List.suffix_cons c start))).imp_right fun hearlier => ?_
          exact (List.infix_cons_iff.1 hearlier).resolve_left hfound

/-- The same in the ends of a text, if nothing at the gap can be completed. -/
theorem Spread.afterFirst? (h : Spread front rest left right) (hmark : mark ≠ [] ∧ slash ∉ mark)
    (hgap : Gap front rest) (hclash : mark <:+ front → [slash, slash] <+: rest) :
    Option.Rel (Spread front rest) (afterFirst? (mark ++ [slash, slash]) left)
      (afterFirst? (mark ++ [slash, slash]) right) := by
  obtain ⟨start, extra, tail, rfl, rfl, rfl | ⟨hstart, rfl⟩⟩ := h
  · exact afterFirst?_front hmark extra tail
  · exact afterFirst?_spread hmark hgap hstart
      (fun hends => Or.inl (hclash (hends.trans hstart))) extra

end Text

/-! ## Cloud Storage -/

namespace Gcs

variable {front rest : Text} {address : Address}

/-- Separators behind a front complete no scheme, unless they are all that it lacks. -/
theorem strip_gap (hgap : Text.Gap front rest) (hscheme : front ≠ ['g', 's', ':']) :
    Kind.gcs.strip (front ++ rest) = Kind.gcs.strip front ++ rest := by
  by_cases hstarts : Kind.gcs.scheme <+: front
  · obtain ⟨start, rfl⟩ := hstarts
    rw [List.append_assoc, Kind.strip_scheme_append, Kind.strip_scheme_append]
  · have hnone : ¬ Kind.gcs.scheme <+: front ++ rest := fun hprefix =>
      (Text.starts_at_gap (show slash ∉ ['g', 's', ':'] by decide) hgap.closed hgap.opens
        hprefix).elim hstarts fun h => hscheme h.1
    rw [Kind.strip, Kind.strip, Text.withoutPrefix, Text.withoutPrefix, Text.afterPrefix?,
      Text.afterPrefix?, if_neg (by rwa [List.isPrefixOf_iff_prefix]),
      if_neg (by rwa [List.isPrefixOf_iff_prefix])]
    rfl

/-- Further separators address the same object. -/
theorem parse_gap (hgap : Text.Gap front rest) (hscheme : front ≠ ['g', 's', ':'])
    (h : parse (front ++ rest) = .ok address) (extra : Nat) :
    parse (front ++ List.replicate extra slash ++ rest) = .ok address := by
  obtain ⟨bucket, object⟩ := address
  obtain ⟨hclosed, parts, hparts, rfl⟩ := parse_ok_iff.1 h
  rw [strip_gap hgap hscheme] at hclosed hparts
  rw [List.append_assoc, parse_ok_iff, strip_gap (hgap.further extra) hscheme, ← List.append_assoc]
  refine ⟨?_, parts, by rw [Text.solidComponents_gap hgap.opens, hparts], rfl⟩
  cases hstart : Kind.gcs.strip front with
  | nil =>
      rw [hstart, List.nil_append] at hclosed hparts
      rcases hgap.opens with rfl | ⟨tail, rfl⟩
      · cases hparts
      · simp [List.isPrefixOf] at hclosed
  | cons c start =>
      rw [hstart] at hclosed
      exact hclosed

end Gcs

/-! ## S3 -/

namespace S3

variable {front rest left right path : Text} {address : Address} {cleaned : Cleaned}

/-- A transport as it is written before its two separators. -/
def Transport.mark : Transport → Text
  | .plain => ['h', 't', 't', 'p', ':']
  | .secure => ['h', 't', 't', 'p', 's', ':']

theorem Transport.scheme_eq (transport : Transport) :
    transport.scheme = transport.mark ++ [slash, slash] := by
  cases transport <;> rfl

theorem Transport.mark_free (transport : Transport) :
    transport.mark ≠ [] ∧ slash ∉ transport.mark := by
  cases transport <;> decide

/--
Would further separators spell out a scheme or a transport that is not there?  A transport is
found in any place, a scheme only if none is found before.
-/
def Completes (front rest : Text) : Prop :=
  ¬ [slash, slash] <+: rest ∧
    ((∃ transport : Transport, transport.mark <:+ front) ∨
      ['s', '3', ':'] <:+ front ∧ ¬ Kind.s3.scheme <:+: front)

/-- The same transport is found with further separators. -/
theorem Transport.cut?_spread (h : Text.Spread front rest left right) (hgap : Text.Gap front rest)
    (hclash : ∀ transport : Transport, transport.mark <:+ front → [slash, slash] <+: rest) :
    Option.Rel (fun found found' => found.1 = found'.1 ∧ Text.Spread front rest found.2 found'.2)
      (Transport.cut? left) (Transport.cut? right) := by
  have hrel (transport : Transport) : Option.Rel (Text.Spread front rest)
      (Text.afterFirst? transport.scheme left) (Text.afterFirst? transport.scheme right) := by
    rw [transport.scheme_eq]
    exact h.afterFirst? transport.mark_free hgap (hclash transport)
  have hsecure := hrel .secure
  have hplain := hrel .plain
  unfold Transport.cut?
  generalize Text.afterFirst? Transport.secure.scheme left = found at hsecure
  generalize Text.afterFirst? Transport.secure.scheme right = found' at hsecure
  cases hsecure with
  | some hrest => exact .some ⟨rfl, hrest⟩
  | none =>
      generalize Text.afterFirst? Transport.plain.scheme left = found at hplain
      generalize Text.afterFirst? Transport.plain.scheme right = found' at hplain
      cases hplain with
      | some hrest => exact .some ⟨rfl, hrest⟩
      | none => exact .none

/-- A path is cleaned to the same parts with further separators. -/
theorem Cleaned.ofPath_gap (hgap : Text.Gap front rest) (hclash : ¬ Completes front rest)
    (h : Cleaned.ofPath (front ++ rest) = .ok cleaned) (extra : Nat) :
    Cleaned.ofPath (front ++ List.replicate extra slash ++ rest) = .ok cleaned := by
  have htransport (transport : Transport) (hends : transport.mark <:+ front) :
      [slash, slash] <+: rest := by
    by_contra hnone
    exact hclash ⟨hnone, Or.inl ⟨transport, hends⟩⟩
  have hscheme := Text.afterFirst?_spread (show ['s', '3', ':'] ≠ [] ∧ slash ∉ ['s', '3', ':'] by
      decide) hgap (List.suffix_refl front) (fun hends => by
    by_contra hnone
    rw [not_or] at hnone
    exact hclash ⟨hnone.1, Or.inr ⟨hends, hnone.2⟩⟩) extra
  have hwhole : Text.Spread front rest (front ++ rest)
      (front ++ List.replicate extra slash ++ rest) :=
    ⟨front, extra, rest, rfl, rfl, Or.inr ⟨List.suffix_refl front, rfl⟩⟩
  change Option.Rel _ (Text.afterFirst? Kind.s3.scheme _) (Text.afterFirst? Kind.s3.scheme _)
    at hscheme
  have hrest : Text.Spread front rest
      ((Text.afterFirst? Kind.s3.scheme (front ++ rest)).getD (front ++ rest))
      ((Text.afterFirst? Kind.s3.scheme (front ++ List.replicate extra slash ++ rest)).getD
        (front ++ List.replicate extra slash ++ rest)) := by
    generalize Text.afterFirst? Kind.s3.scheme (front ++ rest) = found at hscheme
    generalize Text.afterFirst? Kind.s3.scheme (front ++ List.replicate extra slash ++ rest) =
      found' at hscheme
    cases hscheme with
    | none => exact hwhole
    | some hrest => exact hrest
  have hsame : (Text.afterFirst? Kind.s3.scheme
        (front ++ List.replicate extra slash ++ rest)).isSome =
      (Text.afterFirst? Kind.s3.scheme (front ++ rest)).isSome := by
    generalize Text.afterFirst? Kind.s3.scheme (front ++ rest) = found at hscheme
    generalize Text.afterFirst? Kind.s3.scheme (front ++ List.replicate extra slash ++ rest) =
      found' at hscheme
    cases hscheme <;> rfl
  have hcut := Transport.cut?_spread hrest hgap htransport
  have hparts := Text.solidComponents_spread hgap hrest
  simp only [Cleaned.ofPath] at h ⊢
  rw [hsame]
  generalize (Text.afterFirst? Kind.s3.scheme (front ++ rest)).getD (front ++ rest) = left at *
  generalize (Text.afterFirst? Kind.s3.scheme (front ++ List.replicate extra slash ++ rest)).getD
    (front ++ List.replicate extra slash ++ rest) = right at *
  generalize Transport.cut? left = found at hcut h
  generalize Transport.cut? right = found' at hcut
  split at h
  · cases h
  · next hne =>
      cases h
      cases hcut with
      | none =>
          simp only [Option.map_none, Option.getD_none] at hne ⊢
          rw [hparts, if_neg hne]
      | some hfound =>
          simp only [Option.map_some, Option.getD_some] at hne ⊢
          rw [Text.solidComponents_spread hgap hfound.2, if_neg hne, hfound.1]

/-- Further separators address the same object, unless they complete a scheme or a transport. -/
theorem parse_gap (hgap : Text.Gap front rest) (hclash : ¬ Completes front rest)
    (h : parse (front ++ rest) = .ok address) (extra : Nat) :
    parse (front ++ List.replicate extra slash ++ rest) = .ok address := by
  obtain ⟨text, hclean, hbucket, haddress⟩ := parse_ok_iff.1 h
  obtain ⟨cleaned, hcleaned, htext⟩ := map_ok_iff.1 hclean
  exact parse_ok_iff.2 ⟨text, map_ok_iff.2 ⟨cleaned, Cleaned.ofPath_gap hgap hclash hcleaned extra,
    htext⟩, hbucket, haddress⟩

/-- Does the path hold a transport, but no endpoint behind it? -/
def HasBareTransport (path : Text) : Prop :=
  ∃ cleaned, Cleaned.ofPath path = .ok cleaned ∧ cleaned.transport ≠ none ∧
    endpointUrl path = .ok none

/-- A key is made of names, unless a transport was taken for the bucket. -/
theorem key_join (h : parse path = .ok address) (hbare : ¬ HasBareTransport path) :
    ∃ names, Text.Solid names ∧ address.key = Text.join names := by
  obtain ⟨text, hclean, hbucket, rfl⟩ := parse_ok_iff.1 h
  obtain ⟨cleaned, hcleaned, rfl⟩ := map_ok_iff.1 hclean
  obtain ⟨hne, hparts⟩ := Cleaned.ofPath_ok hcleaned
  cases hendpoint : Endpoint.ofPath? cleaned.path with
  | some endpoint =>
      obtain ⟨spelling, -, -, rfl⟩ := Endpoint.ofPath?_eq_some_iff.1 hendpoint
      exact ⟨spelling.names, spelling.names_solid, rfl⟩
  | none =>
      have htransport : cleaned.transport = none := by
        by_contra hsome
        refine hbare ⟨cleaned, hcleaned, hsome, ?_⟩
        rw [endpointUrl, hclean, Except.map, hendpoint]
        rfl
      obtain ⟨first, others, hcons⟩ := List.exists_cons_of_ne_nil hne
      rw [hcons] at hparts
      refine ⟨others, hparts.tail, ?_⟩
      rw [Option.elim_none, strip_cleaned (hcons ▸ hparts) htransport, hcons, addressOf]
      obtain ⟨htake, hdrop⟩ := Text.cut_join hparts.head.2 others
      rw [htake, hdrop]

end S3

/-! ## Azure -/

namespace Text

/-- Separators in front are trimmed. -/
theorem trim_replicate_append (extra : Nat) (text : Text) :
    trim slash (List.replicate extra slash ++ text) = trim slash text := by
  rw [trim, trimStart, List.dropWhile_append_of_pos, trim, trimStart]
  intro c hc
  simp [List.eq_of_mem_replicate hc]

/-- Separators at the end are trimmed. -/
theorem trim_append_replicate (text : Text) (extra : Nat) :
    trim slash (text ++ List.replicate extra slash) = trim slash text := by
  have hstart : trimStart slash (text ++ List.replicate extra slash) =
      if (trimStart slash text).isEmpty then trimStart slash (List.replicate extra slash)
      else trimStart slash text ++ List.replicate extra slash := List.dropWhile_append
  rw [trim, hstart]
  split
  · next hempty =>
      rw [trim, List.isEmpty_iff.1 hempty, trimStart, List.dropWhile_replicate]
      simp
  · rw [trimEnd_append_replicate, trim]

/-- Only separators are trimmed to nothing. -/
theorem trim_eq_nil_iff {text : Text} : trim slash text = [] ↔ ∀ c ∈ text, c = slash := by
  constructor
  · intro h c hc
    by_contra hne
    have hmem : c ∈ trim slash text := by
      have hstart : c ∈ trimStart slash text := by
        have hcut := @List.takeWhile_append_dropWhile _ (· == slash) text
        rw [← hcut] at hc
        refine (List.mem_append.1 hc).resolve_left fun hfront => hne ?_
        simpa using List.all_eq_true.1 List.all_takeWhile c hfront
      obtain ⟨extra, hextra⟩ := exists_trimEnd (trimStart slash text)
      rw [hextra] at hstart
      exact (List.mem_append.1 hstart).resolve_right fun hend => hne (List.eq_of_mem_replicate hend)
    rw [h] at hmem
    cases hmem
  · intro h
    rw [List.eq_replicate_of_mem h, ← List.nil_append (List.replicate _ _), trim_append_replicate]
    rfl

/-- A text that is more than separators is trimmed at its own end only, whatever precedes it. -/
theorem trimEnd_append {front rest : Text} (h : trim slash rest ≠ []) :
    trimEnd slash (front ++ rest) = front ++ trimEnd slash rest := by
  have hsome : (rest.reverse.dropWhile (· == slash)).isEmpty = false := by
    by_contra hempty
    rw [Bool.not_eq_false, List.isEmpty_iff] at hempty
    refine h (trim_eq_nil_iff.2 fun c hc => ?_)
    have hcut := @List.takeWhile_append_dropWhile _ (· == slash) rest.reverse
    rw [hempty, List.append_nil] at hcut
    rw [← List.mem_reverse, ← hcut] at hc
    simpa using List.all_eq_true.1 List.all_takeWhile c hc
  rw [trimEnd, List.reverse_append, List.dropWhile_append, hsome, if_neg Bool.false_ne_true,
    List.reverse_append, List.reverse_reverse, trimEnd]

/-- Nothing between two texts is trimmed that are both more than separators. -/
theorem trim_append {front rest : Text} (hfront : trim slash front ≠ [])
    (hrest : trim slash rest ≠ []) :
    trim slash (front ++ rest) = trimStart slash front ++ trimEnd slash rest := by
  have hsome : (trimStart slash front).isEmpty = false := by
    by_contra hempty
    rw [Bool.not_eq_false, List.isEmpty_iff] at hempty
    rw [trim, hempty] at hfront
    exact hfront rfl
  have hstart : trimStart slash (front ++ rest) =
      if (trimStart slash front).isEmpty then trimStart slash rest
      else trimStart slash front ++ rest := List.dropWhile_append
  rw [trim, hstart, hsome, if_neg Bool.false_ne_true, trimEnd_append hrest]

/-- Further separators are trimmed exactly if nothing else stands on one of their sides. -/
theorem trim_gap_iff {front rest : Text} (extra : Nat) :
    trim slash (front ++ List.replicate extra slash ++ rest) = trim slash (front ++ rest) ↔
      extra = 0 ∨ trim slash front = [] ∨ trim slash rest = [] := by
  by_cases hfront : trim slash front = []
  · rw [List.eq_replicate_of_mem (trim_eq_nil_iff.1 hfront), List.replicate_append_replicate,
      trim_replicate_append, trim_replicate_append]
    simp [← List.eq_replicate_of_mem (trim_eq_nil_iff.1 hfront), hfront]
  · by_cases hrest : trim slash rest = []
    · rw [List.eq_replicate_of_mem (trim_eq_nil_iff.1 hrest), trim_append_replicate,
        trim_append_replicate, trim_append_replicate]
      simp [← List.eq_replicate_of_mem (trim_eq_nil_iff.1 hrest), hrest]
    · have hmore : trim slash (List.replicate extra slash ++ rest) ≠ [] := by
        rwa [trim_replicate_append]
      rw [List.append_assoc, trim_append hfront hmore, trim_append hfront hrest,
        trimEnd_append hrest, List.append_cancel_left_eq]
      constructor
      · intro hsame
        have hlength := congrArg List.length hsame
        rw [List.length_append, List.length_replicate] at hlength
        exact Or.inl (by omega)
      · rintro (rfl | hnone | hnone)
        · rfl
        · exact absurd hnone hfront
        · exact absurd hnone hrest

/-- The first separator does not matter to what is trimmed. -/
theorem trim_drop_one {text : Text} (h : text = [] ∨ ∃ body, text = slash :: body) :
    trim slash (text.drop 1) = trim slash text := by
  rcases h with rfl | ⟨body, rfl⟩
  · rfl
  · exact (trim_replicate_append 1 body).symm

end Text

namespace Azure

variable {front rest path : Text} {address : Address}

/-- A blob is a piece of the path behind its scheme. -/
theorem blob_infix (h : parse path = .ok address) : address.blob <:+: Kind.azure.strip path := by
  obtain ⟨tail, rfl, -, hblob⟩ := parse_ok h
  have htrim (text : Text) : Text.trim slash text <:+: text :=
    (Text.trimEnd_is_front _).isInfix.trans (List.dropWhile_suffix _).isInfix
  have hcut : (cutBlob tail).1 <:+: tail := by
    unfold cutBlob
    split
    · next body hbody =>
        rw [Text.afterPrefix?_eq_some_iff] at hbody
        rw [hbody]
        exact (List.takeWhile_prefix _).isInfix.trans (List.suffix_append _ body).isInfix
    · exact (List.nil_prefix).isInfix
  have htail : tail <:+: address.host ++ slash :: (address.container ++ tail) :=
    List.IsSuffix.isInfix ⟨address.host ++ slash :: address.container, by simp⟩
  rw [hblob, Kind.strip_scheme_append]
  exact (htrim _).trans (hcut.trans htail)

/--
Does the place behind a front lie inside a blob?  Then there is no query before it, and there is
something besides separators on both sides.
-/
def Splits (front rest : Text) : Prop :=
  hasQuery front = false ∧ (∀ found, parse front = .ok found → found.blob ≠ []) ∧
    Text.trim slash (rest.takeWhile (· != '?')) ≠ []

/-- Without a query mark a container is followed by nothing or by a separator. -/
theorem opens_of_head {tail : Text} (hhead : ∀ c ∈ tail.head?, c = slash ∨ c = '?')
    (hmark : '?' ∉ tail) : tail = [] ∨ ∃ body, tail = slash :: body := by
  cases tail with
  | nil => exact Or.inl rfl
  | cons c tail =>
      rcases hhead c rfl with rfl | rfl
      · exact Or.inr ⟨tail, rfl⟩
      · exact absurd (List.mem_cons_self ..) hmark

/-- What is put behind a query mark goes to the query. -/
theorem cutBlob_behind_mark {tail : Text} (hhead : ∀ c ∈ tail.head?, c = slash ∨ c = '?')
    (hmark : '?' ∈ tail) :
    ∃ blob query, ∀ between, cutBlob (tail ++ between) = (blob, '?' :: (query ++ between)) := by
  obtain ⟨before, query, rfl, hbefore⟩ := List.eq_append_cons_of_mem hmark
  have hopens : before = [] ∨ ∃ body, before = slash :: body := by
    refine opens_of_head (fun c hc => ?_) hbefore
    cases before with
    | nil => cases hc
    | cons d before => exact hhead c hc
  refine ⟨before.drop 1, query, fun between => ?_⟩
  rw [List.append_assoc]
  exact cutBlob_query hopens hbefore fun c hc => (Option.some.inj hc).symm

/-- A front that is read is continued behind its container. -/
theorem parse_append {found : Address} (h : parse front = .ok found) :
    ∃ tail, (∀ c ∈ tail.head?, c = slash ∨ c = '?') ∧ hasQuery front = decide ('?' ∈ tail) ∧
      found.blob = Text.trim slash (cutBlob tail).1 ∧
      ∀ between, (∀ c ∈ between.head?, c = slash ∨ c = '?') →
        parse (front ++ between) = if isQuery (cutBlob (tail ++ between)).2 = true then
          .ok ⟨found.host, found.container, Text.trim slash (cutBlob (tail ++ between)).1⟩
        else .error (.malformedAzurePath (front ++ between)) := by
  have hplain := plain_of_parse h
  obtain ⟨tail, hpath, hhead, hblob⟩ := parse_ok h
  have hquery : hasQuery front = decide ('?' ∈ tail) := by
    rw [hpath, hasQuery_spelled hplain.host.2 hplain.container_noQuery]
  refine ⟨tail, hhead, hquery, hblob, fun between hbetween => ?_⟩
  have hspelled : front ++ between =
      Kind.azure.scheme ++ (found.host ++ slash :: (found.container ++ (tail ++ between))) := by
    rw [hpath]
    simp
  have hopens : ∀ c ∈ (tail ++ between).head?, c = slash ∨ c = '?' := by
    cases tail with
    | nil => exact hbetween
    | cons c tail => exact hhead
  rw [hspelled]
  exact parse_parts hplain.host hplain.container hplain.container_noQuery hopens

/-- In front of a query stands a gap, or the query begins. -/
theorem head_of_gap (hgap : Text.Gap front (rest.takeWhile (· != '?'))) :
    ∀ c ∈ rest.head?, c = slash ∨ c = '?' := by
  cases rest with
  | nil => exact nofun
  | cons c rest =>
      rintro _ ⟨⟩
      by_cases hc : c = '?'
      · exact Or.inr hc
      · rw [List.takeWhile_cons_of_pos (by simpa using hc)] at hgap
        rcases hgap.opens with hnil | ⟨others, hcons⟩
        · cases hnil
        · exact Or.inl (List.cons.inj hcons).1

/--
Further separators behind the container address the same blob exactly if they do not split it:
around a blob they are trimmed, and in a query nothing is read.
-/
theorem parse_gap_iff {found : Address} (hfront : parse front = .ok found)
    (hgap : Text.Gap front (rest.takeWhile (· != '?'))) (h : parse (front ++ rest) = .ok address)
    (extra : Nat) :
    parse (front ++ List.replicate extra slash ++ rest) = .ok address ↔
      extra = 0 ∨ ¬ Splits front rest := by
  obtain ⟨tail, hhead, hquery, hblob, hparse⟩ := parse_append hfront
  have hrest := head_of_gap hgap
  have hfurther : ∀ c ∈ (List.replicate extra slash ++ rest).head?, c = slash ∨ c = '?' := by
    cases extra with
    | zero => exact hrest
    | succ extra => exact fun c hc => Or.inl (Option.some.inj hc).symm
  rw [hparse rest hrest] at h
  rw [List.append_assoc, hparse _ hfurther]
  by_cases hmark : '?' ∈ tail
  · obtain ⟨blob, query, hcut⟩ := cutBlob_behind_mark hhead hmark
    rw [hcut] at h ⊢
    split at h
    · next hline =>
        cases h
        have hline' : isQuery ('?' :: (query ++ (List.replicate extra slash ++ rest))) = true := by
          have hslash : '\n' ≠ slash := by decide
          simpa [isQuery, hslash] using hline
        rw [if_pos hline']
        simp [Splits, hquery, hmark]
    · cases h
  · have hopens := opens_of_head hhead hmark
    have hfound : found.blob = Text.trim slash tail := by
      rw [hblob, cutBlob_plain hmark hopens, Text.trim_drop_one hopens]
    have hcut (between : Text) (hfree : '?' ∉ between)
        (hbetween : between = [] ∨ ∃ others, between = slash :: others) :
        cutBlob (tail ++ (between ++ rest.dropWhile (· != '?'))) =
            ((tail ++ between).drop 1, rest.dropWhile (· != '?')) ∧
          Text.trim slash ((tail ++ between).drop 1) = Text.trim slash (tail ++ between) := by
      have hwhole : tail ++ between = [] ∨ ∃ others, tail ++ between = slash :: others := by
        rcases hopens with rfl | ⟨body, rfl⟩
        · exact hbetween
        · exact Or.inr ⟨_, rfl⟩
      refine ⟨?_, Text.trim_drop_one hwhole⟩
      rw [← List.append_assoc]
      refine cutBlob_query hwhole (fun hmem => (List.mem_append.1 hmem).elim hmark hfree) ?_
      intro c hc
      have hfails := List.head?_dropWhile_not (· != '?') rest
      rw [Option.mem_def.1 hc] at hfails
      simpa using hfails
    have hfree : '?' ∉ rest.takeWhile (· != '?') := fun hmem => by
      simpa using List.all_eq_true.1 List.all_takeWhile _ hmem
    have hfurtherFree : '?' ∉ List.replicate extra slash ++ rest.takeWhile (· != '?') := fun hmem =>
      (List.mem_append.1 hmem).elim
        (fun hslash => absurd (List.eq_of_mem_replicate hslash) (by decide)) hfree
    have hbefore := hcut _ hfree hgap.opens
    have hafter := hcut _ hfurtherFree (hgap.further extra).opens
    rw [List.append_assoc, List.takeWhile_append_dropWhile] at hafter
    rw [List.takeWhile_append_dropWhile] at hbefore
    rw [hbefore.1] at h
    rw [hafter.1]
    split at h
    · next hline =>
        cases h
        have hsplits : Splits front rest ↔ ¬ Text.trim slash tail = [] ∧
            ¬ Text.trim slash (rest.takeWhile (· != '?')) = [] := by
          simp [Splits, hquery, hmark, hfront, hfound]
        rw [if_pos hline, Except.ok.injEq, Address.mk.injEq, hafter.2, hbefore.2,
          ← List.append_assoc, Text.trim_gap_iff, hsplits, not_and_or, not_not, not_not]
        simp only [true_and]
    · cases h

end Azure

/-! ## All object stores -/

/-- A key without leading, trailing or repeated separators. -/
structure Key.IsTidy (key : Text) : Prop where
  start : [slash].isPrefixOf key = false
  closed : Path.endsOpen key = false
  single : ¬ [slash, slash] <:+: key

/-- Joined names are tidy. -/
theorem Key.isTidy_join {names : List Text} (h : Text.Solid names) : IsTidy (Text.join names) :=
  ⟨Text.join_not_open h, Path.endsOpen_join h, Text.join_no_double h⟩

namespace Backend

variable {kind : Kind} {path front rest : Text} {reading : Reading}

/-- Does the spelling of a path leave separators in its key that should not be there? -/
def Untidy (kind : Kind) (path : Text) : Prop :=
  match kind with
  | .disk | .gcs => False
  | .s3 => S3.HasBareTransport path
  | .azure => [slash, slash] <:+: Kind.azure.strip path

/--
Where in a path further separators are put: before others or at the end, which for Azure is where
the query begins.  For Azure the front must reach the container.
-/
def IsPlace (kind : Kind) (front rest : Text) : Prop :=
  match kind with
  | .disk => False
  | .gcs | .s3 => Text.Gap front rest
  | .azure =>
      Text.Gap front (rest.takeWhile (· != '?')) ∧ ∃ found, Azure.parse front = .ok found

/-- Do further separators change what is read?  They complete a scheme or transport, or split a blob. -/
def Clashes (kind : Kind) (front rest : Text) : Prop :=
  match kind with
  | .disk => False
  | .gcs => front = ['g', 's', ':']
  | .s3 => S3.Completes front rest
  | .azure => Azure.Splits front rest

/--
What is read from a path does not depend on further separators behind the bucket, or at the end,
and no others than single ones between names are left in the key.  There are two gaps in this: an
Azure blob keeps the separators that split it, and a transport is found in a key of S3.
-/
theorem separators_ignored (hkind : kind ≠ .disk) (hread : read kind path = .ok reading) :
    (¬ Untidy kind path → Key.IsTidy reading.key) ∧
      ∀ front rest, path = front ++ rest → IsPlace kind front rest → ¬ Clashes kind front rest →
        ∀ extra, read kind (front ++ List.replicate extra slash ++ rest) = .ok reading := by
  cases kind with
  | disk => exact absurd rfl hkind
  | gcs =>
      obtain ⟨address, hparse, rfl⟩ := map_ok_iff.1 hread
      refine ⟨fun _ => ?_, ?_⟩
      · obtain ⟨-, names, hnames, hobject⟩ := Gcs.parse_ok hparse
        dsimp only
        rw [hobject]
        exact Key.isTidy_join hnames
      · intro front rest hpath hgap hclash extra
        rw [hpath] at hparse
        exact map_ok_iff.2 ⟨_, Gcs.parse_gap hgap hclash hparse extra, rfl⟩
  | s3 =>
      obtain ⟨address, hparse, rfl⟩ := map_ok_iff.1 hread
      refine ⟨fun htidy => ?_, ?_⟩
      · obtain ⟨names, hnames, hkey⟩ := S3.key_join hparse htidy
        dsimp only
        rw [hkey]
        exact Key.isTidy_join hnames
      · intro front rest hpath hgap hclash extra
        rw [hpath] at hparse
        exact map_ok_iff.2 ⟨_, S3.parse_gap hgap hclash hparse extra, rfl⟩
  | azure =>
      obtain ⟨address, hparse, rfl⟩ := map_ok_iff.1 hread
      refine ⟨fun htidy => ?_, ?_⟩
      · have hplain := Azure.plain_of_parse hparse
        exact ⟨hplain.blob_start, hplain.blob_end, fun hdouble =>
          htidy (hdouble.trans (Azure.blob_infix hparse))⟩
      · rintro front rest rfl ⟨hgap, found, hfront⟩ hclash extra
        exact map_ok_iff.2
          ⟨_, (Azure.parse_gap_iff hfront hgap hparse extra).2 (Or.inr hclash), rfl⟩

/-- Behind an endpoint, at the end and between the names of a key. -/
theorem separators_ignored_endpoint :
    Key.IsTidy "a/x".toList ∧
      read .s3 "s3://localhost:9000/b/a///x".toList = .ok ⟨none, "b".toList, "a/x".toList⟩ ∧
      read .s3 "s3://localhost:9000/b/a/x//".toList = .ok ⟨none, "b".toList, "a/x".toList⟩ := by
  have hread : read .s3 "s3://localhost:9000/b/a/x".toList =
      .ok ⟨none, "b".toList, "a/x".toList⟩ := rfl
  have hmarks (front : Text) (hlast : front.getLast? ≠ some ':') (rest : Text) :
      ¬ S3.Completes front rest := by
    have hends {mark : Text} (hmark : mark.getLast? = some ':') : ¬ mark <:+ front := by
      rintro ⟨start, rfl⟩
      exact hlast (by rw [List.getLast?_append, hmark]; rfl)
    rintro ⟨-, ⟨transport, hmark⟩ | ⟨hmark, -⟩⟩
    · exact hends (by cases transport <;> rfl) hmark
    · exact hends rfl hmark
  obtain ⟨htidy, hfurther⟩ := separators_ignored (by decide) hread
  refine ⟨htidy ?_, ?_, ?_⟩
  · rintro ⟨cleaned, hcleaned, htransport, -⟩
    cases hcleaned
    exact htransport rfl
  · exact hfurther "s3://localhost:9000/b/a".toList "/x".toList rfl
      ⟨rfl, Or.inr ⟨_, rfl⟩⟩ (hmarks _ (by decide) _) 2
  · exact hfurther "s3://localhost:9000/b/a/x".toList [] rfl
      ⟨rfl, Or.inl rfl⟩ (hmarks _ (by decide) _) 2

/-- A second separator in a blob makes another blob of it. -/
theorem separator_kept_in_blob :
    read .azure "as://h/c/a/b".toList = .ok ⟨some "h".toList, "c".toList, "a/b".toList⟩ ∧
      read .azure "as://h/c/a//b".toList = .ok ⟨some "h".toList, "c".toList, "a//b".toList⟩ :=
  ⟨rfl, rfl⟩

/-- A second separator in a key of S3 makes a bucket of what precedes it. -/
theorem separator_completes_transport :
    read .s3 "s3://b/a/http:/x".toList = .ok ⟨none, "b".toList, "a/http:/x".toList⟩ ∧
      read .s3 "s3://b/a/http://x".toList = .ok ⟨none, "http:".toList, "/x".toList⟩ :=
  ⟨rfl, rfl⟩

end Backend

end ArtifactDepot
