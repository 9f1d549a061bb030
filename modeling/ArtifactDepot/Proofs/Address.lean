import ArtifactDepot.Proofs.Below
import ArtifactDepot.Backend.Operations

/-!
# Addresses below a source

The canonical path of a remote directory can be continued by names, and what
it then addresses is the key continued by the same names.  Two spellings
break this: the query mark of Azure ends a blob, and an S3 bucket with a
colon can be read as an endpoint (`Backend.addressOf_below`).
-/

namespace ArtifactDepot

open Text (slash)

/-! ## Texts -/

namespace Text

/-- Joined names hold no two separators in a row. -/
theorem join_no_double {names : List Text} (h : Solid names) :
    ¬ [slash, slash] <:+: join names := by
  rintro ⟨front, rest, heq⟩
  have hempty : [] ∈ components (join names) := by
    rw [← heq, show front ++ [slash, slash] ++ rest = front ++ slash :: ([] ++ slash :: rest) by simp,
      components_append, components_append]
    simp [components]
  cases names with
  | nil => simp [join] at heq
  | cons name names =>
      rw [components_join (List.cons_ne_nil _ _) fun part hpart => (h part hpart).2] at hempty
      exact (h [] hempty).1 rfl

/-- A text that does not occur is not found. -/
theorem afterFirst?_eq_none {needle text : Text} (hne : needle ≠ []) (h : ¬ needle <:+: text) :
    afterFirst? needle text = none := by
  induction text with
  | nil => simp [afterFirst?, hne]
  | cons c rest ih =>
      have hfront : ¬ needle <+: c :: rest := fun hstart => h hstart.isInfix
      have hrest : ¬ needle <:+: rest := fun hwithin =>
        h (hwithin.trans (List.suffix_cons c rest).isInfix)
      rw [afterFirst?, if_neg (by rwa [List.isPrefixOf_iff_prefix]), ih hrest]

/-- A text in front is found there. -/
theorem afterFirst?_append {needle : Text} (hne : needle ≠ []) (rest : Text) :
    afterFirst? needle (needle ++ rest) = some rest := by
  cases needle with
  | nil => exact absurd rfl hne
  | cons c needle =>
      rw [List.cons_append, afterFirst?, if_pos]
      · simp
      · rw [List.isPrefixOf_iff_prefix]
        exact ⟨rest, by simp⟩

/-- The first component is what precedes the first separator. -/
theorem takeWhile_name {name rest : Text} (hname : slash ∉ name)
    (hrest : rest = [] ∨ [slash].isPrefixOf rest = true) :
    (name ++ rest).takeWhile (· != slash) = name := by
  have hall : ∀ c ∈ name, (c != slash) = true := by
    intro c hc
    simp only [bne_iff_ne, ne_eq]
    rintro rfl
    exact hname hc
  rw [List.takeWhile_append_of_pos hall]
  rcases hrest with rfl | hrest
  · simp
  · obtain ⟨tail, rfl⟩ := List.isPrefixOf_iff_prefix.1 hrest
    simp

theorem slash_not_mem_takeWhile (text : Text) : slash ∉ text.takeWhile (· != slash) := by
  intro hmem
  have hall : (text.takeWhile (· != slash)).all (· != slash) = true := List.all_takeWhile
  rw [List.all_eq_true] at hall
  simpa using hall slash hmem

/-- The first of joined names is cut off, and the others are left. -/
theorem cut_join {name : Text} (hname : slash ∉ name) (names : List Text) :
    (join (name :: names)).takeWhile (· != slash) = name ∧
      (join (name :: names)).drop (name.length + 1) = join names := by
  cases names with
  | nil =>
      have hcut : (name ++ []).takeWhile (· != slash) = name := takeWhile_name hname (Or.inl rfl)
      rw [List.append_nil] at hcut
      exact ⟨hcut, List.drop_eq_nil_of_le (Nat.le_succ _)⟩
  | cons next names =>
      refine ⟨takeWhile_name hname (Or.inr (by simp)), ?_⟩
      rw [join, List.append_cons]
      exact List.drop_left' (by simp)

/-- A character of joined names is a separator or one of a name. -/
theorem mem_join {names : List Text} {c : Char} (h : c ∈ join names) :
    c = slash ∨ ∃ name ∈ names, c ∈ name := by
  cases names with
  | nil => cases h
  | cons name names =>
      rw [join_cons] at h
      rcases List.mem_append.1 h with h | h
      · exact Or.inr ⟨name, List.mem_cons_self .., h⟩
      · obtain ⟨other, hother, hmem⟩ := List.mem_flatMap.1 h
        rcases List.mem_cons.1 hmem with heq | hmem
        · exact Or.inl heq
        · exact Or.inr ⟨other, List.mem_cons_of_mem _ hother, hmem⟩

/-- Joined names hold the characters of each name. -/
theorem mem_join_of_mem {name : Text} {names : List Text} {c : Char} (hname : name ∈ names)
    (h : c ∈ name) : c ∈ join names := by
  cases names with
  | nil => cases hname
  | cons first others =>
      rw [join_cons]
      rcases List.mem_cons.1 hname with rfl | hname
      · exact List.mem_append_left _ h
      · exact List.mem_append_right _ (List.mem_flatMap.2 ⟨name, hname, List.mem_cons_of_mem _ h⟩)

end Text

/-- What is computed from a value that is there. -/
theorem map_ok_iff {ε α β : Type} {f : α → β} {value : Except ε α} {result : β} :
    value.map f = .ok result ↔ ∃ found, value = .ok found ∧ f found = result := by
  cases value with
  | error failure => simp [Except.map]
  | ok found => simp [Except.map]

theorem map_error_iff {ε α β : Type} {f : α → β} {value : Except ε α} {failure : ε} :
    value.map f = .error failure ↔ value = .error failure := by
  cases value with
  | error failure => simp [Except.map]
  | ok found => simp [Except.map]

namespace Path

/-- The end of a path that does not end in a separator does not do so either. -/
theorem endsOpen_of_suffix {path suffix : Text} (hsuffix : suffix <:+ path)
    (h : endsOpen path = false) : endsOpen suffix = false := by
  rw [← Bool.not_eq_true, endsOpen, List.isSuffixOf_iff_suffix] at h ⊢
  exact fun hopen => h (hopen.trans hsuffix)

/-- Joined names can be continued, unless there are none. -/
theorem isRoot_join {names : List Text} (hne : names ≠ []) (h : Text.Solid names) :
    IsRoot (Text.join names) := by
  cases names with
  | nil => exact absurd rfl hne
  | cons name names =>
      rw [join_eq_below]
      exact (IsRoot.of_name h.head).below h.tail

/-- Joined names end in no separator. -/
theorem endsOpen_join {names : List Text} (h : Text.Solid names) :
    endsOpen (Text.join names) = false := by
  by_cases hne : names = []
  · rw [hne]
    rfl
  · exact (isRoot_join hne h).2

/-- A bucket behind a scheme, and a key behind the bucket unless it is empty. -/
def ofKey (front bucket key : Text) : Text :=
  front ++ bucket ++ (if key.isEmpty then [] else slash :: key)

/-- The path of a bucket or of a key in it can be continued. -/
theorem isRoot_ofKey (front : Text) {bucket key : Text} (hbucket : bucket ≠ [] ∧ slash ∉ bucket)
    (hkey : endsOpen key = false) : IsRoot (ofKey front bucket key) := by
  by_cases hne : key = []
  · rw [ofKey, hne, List.isEmpty_nil, if_pos rfl, List.append_nil]
    exact .append_name front hbucket
  · rw [ofKey, if_neg (by simpa using hne), List.append_cons]
    exact IsRoot.append _ ⟨hne, hkey⟩

/-- The path of a key that is made of names goes on from the bucket. -/
theorem ofKey_join (front bucket : Text) {names : List Text} (h : Text.Solid names) :
    ofKey front bucket (Text.join names) = front ++ Text.join (bucket :: names) := by
  cases names with
  | nil => simp [ofKey, Text.join]
  | cons name names =>
      have hne : (Text.join (name :: names)).isEmpty = false := by
        simpa using mt (Text.join_eq_nil h).1 (List.cons_ne_nil _ _)
      rw [ofKey, hne, if_neg Bool.false_ne_true, List.append_assoc]
      rfl

/-- Names below a path that ends in joined names are joined to these. -/
theorem below_join (front name : Text) (names others : List Text) :
    below (front ++ Text.join (name :: names)) others =
      front ++ Text.join (name :: (names ++ others)) := by
  rw [join_eq_below, join_eq_below, below_append]
  simp [below]

end Path

namespace Key

/-- The key to which names lead from another one; the empty key is the top. -/
def below (key : Text) (names : List Text) : Text :=
  if names.isEmpty then key else asDirectory key ++ Text.join names

/-- The name of a directory adds at most a separator. -/
theorem mem_asDirectory {name : Text} {c : Char} (h : c ∈ asDirectory name) :
    c ∈ name ∨ c = slash := by
  unfold asDirectory at h
  split at h
  · exact Or.inl h
  · rcases List.mem_append.1 h with h | h
    · exact Or.inl h
    · exact Or.inr (List.mem_singleton.1 h)

/-- A key that is made of names is continued by further names. -/
theorem below_join {parts names : List Text} (hparts : Text.Solid parts) :
    below (Text.join parts) names = Text.join (parts ++ names) := by
  cases names with
  | nil => simp [below]
  | cons name names =>
      rw [below, if_neg (by simp)]
      cases parts with
      | nil => simp [asDirectory, Text.join]
      | cons part parts =>
          have hne : (Text.join (part :: parts)).isEmpty = false := by
            simpa using mt (Text.join_eq_nil hparts).1 (List.cons_ne_nil _ _)
          have hclosed : [slash].isSuffixOf (Text.join (part :: parts)) = false :=
            Path.endsOpen_join hparts
          rw [asDirectory, hne, hclosed, Bool.or_false, if_neg Bool.false_ne_true,
            List.cons_append, Path.join_eq_below part (parts ++ name :: names), Path.below_append,
            Path.below_eq_append_join _ (List.cons_ne_nil name names), ← Path.join_eq_below,
            List.append_assoc, List.singleton_append]

end Key

/-! ## Cloud Storage -/

namespace Gcs

/-- A bucket has a name without separators, and an object a name made of components. -/
theorem parse_ok {path : Text} {address : Address} (h : parse path = .ok address) :
    (address.bucket ≠ [] ∧ slash ∉ address.bucket) ∧
      ∃ parts, Text.Solid parts ∧ address.object = Text.join parts := by
  unfold parse at h
  dsimp only at h
  split at h
  · cases h
  · next hne =>
      cases h
      exact ⟨⟨by simpa using hne, Text.slash_not_mem_takeWhile _⟩,
        _, Text.solid_solidComponents _, rfl⟩

/-- The path of an object that is made of names addresses that object. -/
theorem parse_join {bucket : Text} {parts : List Text} (hbucket : bucket ≠ [] ∧ slash ∉ bucket)
    (hparts : Text.Solid parts) :
    parse (Kind.gcs.scheme ++ Text.join (bucket :: parts)) = .ok ⟨bucket, Text.join parts⟩ := by
  obtain ⟨htake, hdrop⟩ := Text.cut_join hbucket.2 parts
  have hne : bucket.isEmpty = false := by simpa using hbucket.1
  simp only [parse, Kind.strip_scheme_append, htake, hne, Bool.false_eq_true, if_false, hdrop,
    Key.canonical, Text.solidComponents_join hparts]

end Gcs

/-! ## S3 -/

namespace S3

/-- The front that passes a test is not empty and passes it everywhere. -/
theorem Endpoint.span?_eq_some {test : Char → Bool} {input front rest : Text}
    (h : span? test input = some (front, rest)) :
    front ≠ [] ∧ (∀ c ∈ front, test c = true) ∧ input = front ++ rest := by
  simp only [span?] at h
  split at h
  · cases h
  · next hne =>
      cases h
      have hall : (input.takeWhile test).all test = true := List.all_takeWhile
      exact ⟨by simpa using hne, List.all_eq_true.1 hall, List.takeWhile_append_dropWhile.symm⟩

/-- A key behind an endpoint is made of names. -/
theorem Endpoint.key?_eq_some {rest key : Text} (h : key? rest = some key) :
    ∃ parts, Text.Solid parts ∧ key = Text.join parts := by
  cases rest with
  | nil =>
      cases h
      exact ⟨[], .nil, rfl⟩
  | cons c rest =>
      simp only [key?] at h
      split at h
      · next hkey =>
          cases h
          refine ⟨Text.components key, fun part hpart => ?_, (Text.join_components key).symm⟩
          have hall := List.all_eq_true.1 hkey.2 part hpart
          simp only [Bool.and_eq_true, Bool.not_eq_true'] at hall
          exact ⟨by simpa using hall.1, Text.slash_not_mem_of_mem_components hpart⟩
      · cases h

/-- What precedes the first separator of a path with an endpoint holds a colon. -/
theorem Endpoint.colon_of_ofAuthority? {transport : Option Transport} {input : Text}
    {endpoint : Endpoint} (h : ofAuthority? transport input = some endpoint) :
    ':' ∈ input.takeWhile (· != slash) ∧
      (endpoint.bucket ≠ [] ∧ slash ∉ endpoint.bucket) ∧
        ∃ parts, Text.Solid parts ∧ endpoint.key = Text.join parts := by
  simp only [ofAuthority?, Option.bind_eq_bind, Option.bind_eq_some_iff, Option.pure_def] at h
  obtain ⟨⟨host, rest⟩, hhost, rest', hcolon, ⟨socket, rest''⟩, -, rest₃, -, ⟨bucket, rest₄⟩,
    hbucket, key, hkey, heq⟩ := h
  cases heq
  obtain ⟨-, hhostChars, rfl⟩ := span?_eq_some hhost
  obtain ⟨hne, hbucketChars, -⟩ := span?_eq_some hbucket
  rw [Text.afterPrefix?_eq_some_iff] at hcolon
  dsimp only at hcolon
  refine ⟨?_, ⟨hne, fun hmem => ?_⟩, key?_eq_some hkey⟩
  · have hfree : ∀ c ∈ host, (c != slash) = true := by
      intro c hc
      simp only [bne_iff_ne, ne_eq]
      rintro rfl
      exact absurd (hhostChars _ hc) (by decide)
    rw [List.takeWhile_append_of_pos hfree, hcolon, List.singleton_append,
      List.takeWhile_cons_of_pos (by decide)]
    simp
  · exact absurd (hbucketChars _ hmem) (by decide)

/-- A cleaned path ends in a name. -/
theorem Cleaned.ofPath_ok {path : Text} {cleaned : Cleaned} (h : ofPath path = .ok cleaned) :
    cleaned.parts ≠ [] ∧ Text.Solid cleaned.parts := by
  simp only [ofPath] at h
  split at h
  · cases h
  · next hne =>
      cases h
      exact ⟨by simpa using hne, Text.solid_solidComponents _⟩

/-- A cleaned path can be continued. -/
theorem isRoot_cleaned {cleaned : Cleaned} (hne : cleaned.parts ≠ [])
    (hparts : Text.Solid cleaned.parts) : Path.IsRoot cleaned.path := by
  obtain ⟨first, others, hcons⟩ := List.exists_cons_of_ne_nil hne
  rw [hcons] at hparts
  rw [Cleaned.path, hcons, Path.join_eq_below]
  exact ((Path.IsRoot.of_name hparts.head).below hparts.tail).append _

/-- What is left without the scheme is the end of the path. -/
theorem strip_suffix (path : Text) : Kind.s3.strip path <:+ path := by
  rw [Kind.strip, Text.withoutPrefix]
  cases hrest : Text.afterPrefix? Kind.s3.scheme path with
  | none => exact List.suffix_refl path
  | some rest => exact ⟨_, (Text.afterPrefix?_eq_some_iff.1 hrest).symm⟩

/-- Without a transport a cleaned path is made of names behind its scheme. -/
theorem strip_cleaned {cleaned : Cleaned} (hparts : Text.Solid cleaned.parts)
    (htransport : cleaned.transport = none) :
    Kind.s3.strip cleaned.path = Text.join cleaned.parts := by
  have hpath : cleaned.path =
      (if cleaned.hasScheme then Kind.s3.scheme else []) ++ Text.join cleaned.parts := by
    simp [Cleaned.path, htransport]
  cases hscheme : cleaned.hasScheme with
  | true =>
      rw [hpath, hscheme, if_pos rfl, Kind.strip_scheme_append]
  | false =>
      rw [hpath, hscheme, if_neg Bool.false_ne_true, List.nil_append]
      have hnone : Text.afterPrefix? Kind.s3.scheme (Text.join cleaned.parts) = none := by
        rw [Text.afterPrefix?, if_neg]
        rw [List.isPrefixOf_iff_prefix]
        have hdouble : [slash, slash] <:+: Kind.s3.scheme := ⟨"s3:".toList, [], by decide⟩
        exact fun hstart => Text.join_no_double hparts (hdouble.trans hstart.isInfix)
      rw [Kind.strip, Text.withoutPrefix, hnone]
      rfl

/-- With a transport what precedes the first separator of a cleaned path holds a colon. -/
theorem colon_of_transport {cleaned : Cleaned} {transport : Transport}
    (htransport : cleaned.transport = some transport) :
    ':' ∈ (Kind.s3.strip cleaned.path).takeWhile (· != slash) := by
  obtain ⟨rest, hstrip⟩ : ∃ rest, Kind.s3.strip cleaned.path = transport.scheme ++ rest := by
    refine ⟨Text.join cleaned.parts, ?_⟩
    cases hscheme : cleaned.hasScheme with
    | true =>
        have hpath : cleaned.path =
            Kind.s3.scheme ++ (transport.scheme ++ Text.join cleaned.parts) := by
          simp [Cleaned.path, htransport, hscheme]
        rw [hpath, Kind.strip_scheme_append]
    | false =>
        have hpath : cleaned.path = transport.scheme ++ Text.join cleaned.parts := by
          simp [Cleaned.path, htransport, hscheme]
        rw [hpath, Kind.strip, Text.withoutPrefix]
        cases transport <;>
          simp [Text.afterPrefix?, Kind.scheme, Transport.scheme, List.isPrefixOf]
  rw [hstrip]
  cases transport <;> simp [Transport.scheme, slash]

/-- A bucket has a name without separators, and a key behind one without colons is made of names. -/
theorem parse_ok {path : Text} {address : Address} (h : parse path = .ok address) :
    (address.bucket ≠ [] ∧ slash ∉ address.bucket) ∧ Path.endsOpen address.key = false ∧
      (':' ∉ address.bucket → ∃ parts, Text.Solid parts ∧ address.key = Text.join parts) := by
  simp only [parse, clean] at h
  cases hcleaned : Cleaned.ofPath path with
  | error fault =>
      rw [hcleaned] at h
      cases h
  | ok cleaned =>
      rw [hcleaned] at h
      obtain ⟨hne, hparts⟩ := Cleaned.ofPath_ok hcleaned
      simp only [Except.map, bind, Except.bind] at h
      cases hendpoint : Endpoint.ofPath? cleaned.path with
      | some endpoint =>
          rw [hendpoint] at h
          dsimp only at h
          split at h
          · cases h
          · cases h
            simp only [Endpoint.ofPath?, Option.bind_eq_bind, Option.bind_eq_some_iff] at hendpoint
            obtain ⟨rest, -, hauthority⟩ := hendpoint
            obtain ⟨-, hbucket, hkey⟩ := Endpoint.colon_of_ofAuthority? hauthority
            refine ⟨hbucket, ?_, fun _ => hkey⟩
            obtain ⟨parts, hsolid, heq⟩ := hkey
            dsimp only
            rw [heq]
            exact Path.endsOpen_join hsolid
      | none =>
          rw [hendpoint] at h
          dsimp only at h
          split at h
          · cases h
          · next hbucket =>
              cases h
              refine ⟨⟨by simpa using hbucket, Text.slash_not_mem_takeWhile _⟩, ?_, fun hcolon => ?_⟩
              · exact Path.endsOpen_of_suffix ((List.drop_suffix _ _).trans (strip_suffix _))
                  (isRoot_cleaned hne hparts).2
              · cases htransport : cleaned.transport with
                | some transport => exact absurd (colon_of_transport htransport) hcolon
                | none =>
                    obtain ⟨first, others, hcons⟩ := List.exists_cons_of_ne_nil hne
                    rw [hcons] at hparts
                    refine ⟨others, hparts.tail, ?_⟩
                    simp only [addressOf]
                    rw [strip_cleaned (hcons ▸ hparts) htransport, hcons]
                    obtain ⟨htake, hdrop⟩ := Text.cut_join hparts.head.2 others
                    rw [htake, hdrop]

theorem Transport.double_scheme (transport : Transport) : [slash, slash] <:+: transport.scheme := by
  cases transport with
  | plain => exact ⟨"http:".toList, [], by decide⟩
  | secure => exact ⟨"https:".toList, [], by decide⟩

/-- No transport is found in joined names. -/
theorem Transport.cut?_join {names : List Text} (h : Text.Solid names) :
    Transport.cut? (Text.join names) = none := by
  have habsent (transport : Transport) :
      Text.afterFirst? transport.scheme (Text.join names) = none := by
    refine Text.afterFirst?_eq_none (by cases transport <;> decide) fun hwithin => ?_
    exact Text.join_no_double h (transport.double_scheme.trans hwithin)
  rw [Transport.cut?, habsent .secure, habsent .plain]
  rfl

/-- Joined names begin with no transport. -/
theorem Endpoint.cutTransport_join {names : List Text} (h : Text.Solid names) :
    Endpoint.cutTransport (Text.join names) = (none, Text.join names) := by
  have habsent (transport : Transport) :
      Text.afterPrefix? transport.scheme (Text.join names) = none := by
    rw [Text.afterPrefix?, if_neg]
    rw [List.isPrefixOf_iff_prefix]
    exact fun hstart => Text.join_no_double h (transport.double_scheme.trans hstart.isInfix)
  rw [Endpoint.cutTransport, habsent .plain, habsent .secure]

/-- Cleaning leaves joined names behind a scheme alone. -/
theorem clean_join {names : List Text} (hne : names ≠ []) (h : Text.Solid names) :
    clean (Kind.s3.scheme ++ Text.join names) = .ok (Kind.s3.scheme ++ Text.join names) := by
  have hsome : names.isEmpty = false := by simpa using hne
  simp only [clean, Cleaned.ofPath, Text.afterFirst?_append (show Kind.s3.scheme ≠ [] by decide),
    Option.getD_some, Transport.cut?_join h, Option.map_none, Option.getD_none,
    Text.solidComponents_join h, hsome, Bool.false_eq_true, if_false, Except.map, Cleaned.path,
    Option.isSome_some, if_true, List.append_nil]

/-- Joined names spell no endpoint if the first of them holds no colon. -/
theorem Endpoint.ofPath?_join {name : Text} {names : List Text} (hcolon : ':' ∉ name)
    (h : Text.Solid (name :: names)) :
    Endpoint.ofPath? (Kind.s3.scheme ++ Text.join (name :: names)) = none := by
  cases hfound : Endpoint.ofPath? (Kind.s3.scheme ++ Text.join (name :: names)) with
  | none => rfl
  | some endpoint =>
      simp only [Endpoint.ofPath?, Option.bind_eq_bind, Option.bind_eq_some_iff] at hfound
      obtain ⟨rest, hrest, hauthority⟩ := hfound
      have hsame := List.append_cancel_left (Text.afterPrefix?_eq_some_iff.1 hrest)
      rw [← hsame, Endpoint.cutTransport_join h] at hauthority
      obtain ⟨hmem, -⟩ := Endpoint.colon_of_ofAuthority? hauthority
      rw [(Text.cut_join h.head.2 names).1] at hmem
      exact absurd hmem hcolon

/-- The path of a key that is made of names addresses that key. -/
theorem parse_join {bucket : Text} {parts : List Text} (hbucket : bucket ≠ [] ∧ slash ∉ bucket)
    (hcolon : ':' ∉ bucket) (hparts : Text.Solid parts) :
    parse (Kind.s3.scheme ++ Text.join (bucket :: parts)) = .ok ⟨bucket, Text.join parts⟩ := by
  have hsolid : Text.Solid (bucket :: parts) := (Text.Solid.singleton hbucket).append hparts
  obtain ⟨htake, hdrop⟩ := Text.cut_join hbucket.2 parts
  have hne : bucket.isEmpty = false := by simpa using hbucket.1
  simp only [parse, clean_join (List.cons_ne_nil _ _) hsolid, bind, Except.bind,
    Endpoint.ofPath?_join hcolon hsolid, Kind.strip_scheme_append, addressOf, htake, hdrop, hne,
    Bool.false_eq_true, if_false]

end S3

/-! ## Azure -/

namespace Text

/-- A text that was trimmed in front begins with no separator. -/
theorem trimStart_not_open (text : Text) : [slash].isPrefixOf (trimStart slash text) = false := by
  induction text with
  | nil => rfl
  | cons c rest ih =>
      by_cases hc : c = slash
      · rw [trimStart, List.dropWhile_cons_of_pos (by simp [hc])]
        exact ih
      · rw [trimStart, List.dropWhile_cons_of_neg (by simp [hc])]
        simp [List.isPrefixOf, Ne.symm hc]

/-- A text that was trimmed at its end ends in no separator. -/
theorem trimEnd_closed (text : Text) : Path.endsOpen (trimEnd slash text) = false := by
  have hstart := trimStart_not_open text.reverse
  rw [Path.endsOpen, List.isSuffixOf, trimEnd, List.reverse_reverse]
  exact hstart

/-- Trimming the end takes away the end. -/
theorem trimEnd_is_front (text : Text) : trimEnd slash text <+: text := by
  have hsuffix : text.reverse.dropWhile (· == slash) <:+ text.reverse := List.dropWhile_suffix _
  simpa [trimEnd] using List.reverse_prefix.2 hsuffix

/-- Neither end of a trimmed text is a separator. -/
theorem trim_closed (text : Text) :
    [slash].isPrefixOf (trim slash text) = false ∧ Path.endsOpen (trim slash text) = false := by
  refine ⟨?_, trimEnd_closed _⟩
  have hstart := trimStart_not_open text
  rw [← Bool.not_eq_true, List.isPrefixOf_iff_prefix] at hstart ⊢
  exact fun hopen => hstart (hopen.trans (trimEnd_is_front _))

/-- A text without separators at its ends stays as it is. -/
theorem trim_eq_self {text : Text} (hstart : [slash].isPrefixOf text = false)
    (hend : Path.endsOpen text = false) : trim slash text = text := by
  cases text with
  | nil => rfl
  | cons c rest =>
      have hc : (c == slash) = false := by
        rw [BEq.comm]
        simpa [List.isPrefixOf] using hstart
      rw [trim, trimStart, List.dropWhile_cons_of_neg (by simp [hc])]
      exact Path.IsRoot.trimEnd_eq ⟨List.cons_ne_nil _ _, hend⟩

end Text

/-- Names below a path that ends in a key are names below the key. -/
theorem Path.below_ofKey (front bucket : Text) {key : Text} {names : List Text}
    (hkey : endsOpen key = false) (hnames : Text.Solid names) :
    below (ofKey front bucket key) names = ofKey front bucket (Key.below key names) := by
  by_cases hne : names = []
  · rw [hne, below_nil]
    rfl
  · have hjoin : Text.join names ≠ [] := mt (Text.join_eq_nil hnames).1 hne
    rw [below_eq_append_join _ hne, Key.below, if_neg (by simpa using hne)]
    by_cases hempty : key = []
    · simp [ofKey, hempty, Key.asDirectory, hjoin]
    · have hdirectory : Key.asDirectory key = key ++ [slash] := by
        rw [Key.asDirectory, show [slash].isSuffixOf key = false from hkey]
        simp [hempty]
      simp [ofKey, hempty, hdirectory]

namespace Azure

/-- What an address must satisfy to be read back from its path. -/
structure Address.Plain (address : Address) : Prop where
  host : address.host ≠ [] ∧ slash ∉ address.host
  container : address.container ≠ [] ∧ slash ∉ address.container
  container_noQuery : '?' ∉ address.container
  blob_noQuery : '?' ∉ address.blob
  blob_start : [slash].isPrefixOf address.blob = false
  blob_end : Path.endsOpen address.blob = false

/-- The path of an address ends in its blob. -/
theorem Address.path_eq (address : Address) :
    address.path =
      Path.ofKey (Kind.azure.scheme ++ address.host ++ [slash]) address.container address.blob := by
  simp [Address.path, Path.ofKey]

/-- What is cut off behind a container ends where the query begins. -/
theorem cutBlob_query {front query : Text} (hfront : front = [] ∨ ∃ body, front = slash :: body)
    (hmark : '?' ∉ front) (hquery : ∀ c ∈ query.head?, c = '?') :
    cutBlob (front ++ query) = (front.drop 1, query) := by
  have hcut : query.takeWhile (· != '?') = [] ∧ query.dropWhile (· != '?') = query := by
    cases query with
    | nil => exact ⟨rfl, rfl⟩
    | cons c query =>
        obtain rfl := hquery c rfl
        exact ⟨rfl, rfl⟩
  rcases hfront with rfl | ⟨body, rfl⟩
  · cases query with
    | nil => rfl
    | cons c query =>
        obtain rfl := hquery c rfl
        rfl
  · have hfree : ∀ c ∈ body, (c != '?') = true := by
      intro c hc
      simp only [bne_iff_ne, ne_eq]
      rintro rfl
      exact hmark (List.mem_cons_of_mem _ hc)
    have hbody : Text.afterPrefix? [slash] (slash :: body ++ query) = some (body ++ query) :=
      Text.afterPrefix?_eq_some_iff.2 rfl
    rw [cutBlob, hbody]
    dsimp only
    rw [List.takeWhile_append_of_pos hfree, List.dropWhile_append_of_pos hfree, hcut.1, hcut.2,
      List.append_nil]
    rfl

/-- The blob behind a container is found again. -/
theorem cutBlob_key {blob : Text} (h : '?' ∉ blob) :
    cutBlob (if blob.isEmpty then [] else slash :: blob) = (blob, []) := by
  cases blob with
  | nil => rfl
  | cons c blob =>
      have hcut := cutBlob_query (Or.inr ⟨c :: blob, rfl⟩)
        (show '?' ∉ slash :: c :: blob from fun hmem =>
          h ((List.mem_cons.1 hmem).resolve_left (by decide))) (show ∀ c ∈ [].head?, c = '?' by nofun)
      rw [List.append_nil] at hcut
      exact hcut

/-- A path is read as a host, a container, and what is cut from the rest. -/
theorem parse_parts {host container tail : Text} (hhost : host ≠ [] ∧ slash ∉ host)
    (hcontainer : container ≠ [] ∧ slash ∉ container) (hnoQuery : '?' ∉ container)
    (htail : ∀ c ∈ tail.head?, c = slash ∨ c = '?') :
    parse (Kind.azure.scheme ++ (host ++ slash :: (container ++ tail))) =
      if isQuery (cutBlob tail).2 = true then
        .ok ⟨host, container, Text.trim slash (cutBlob tail).1⟩
      else .error (.malformedAzurePath
        (Kind.azure.scheme ++ (host ++ slash :: (container ++ tail)))) := by
  have hcut : Text.afterPrefix? Kind.azure.scheme
      (Kind.azure.scheme ++ (host ++ slash :: (container ++ tail))) =
        some (host ++ slash :: (container ++ tail)) := Text.afterPrefix?_eq_some_iff.2 rfl
  have hhostCut : (host ++ slash :: (container ++ tail)).takeWhile (· != slash) = host :=
    Text.takeWhile_name hhost.2 (Or.inr (by simp))
  have hbelow : (host ++ slash :: (container ++ tail)).drop (host.length + 1) =
      container ++ tail := by
    rw [List.append_cons]
    exact List.drop_left' (by simp)
  have hfree : ∀ c ∈ container, (c != slash && c != '?') = true := by
    intro c hc
    simp only [Bool.and_eq_true, bne_iff_ne, ne_eq]
    constructor
    · rintro rfl
      exact hcontainer.2 hc
    · rintro rfl
      exact hnoQuery hc
  have hcontainerCut :
      (container ++ tail).takeWhile (fun c => c != slash && c != '?') = container := by
    rw [List.takeWhile_append_of_pos hfree]
    cases tail with
    | nil => simp
    | cons c rest => rcases htail c rfl with rfl | rfl <;> simp
  have hhostNe : host.isEmpty = false := by simpa using hhost.1
  have hcontainerNe : container.isEmpty = false := by simpa using hcontainer.1
  rw [parse, hcut, Option.bind_some]
  simp only [parts?, hhostCut, hbelow, hcontainerCut, List.drop_left, hhostNe, hcontainerNe,
    Bool.or_false, Bool.false_or, Bool.not_eq_true']
  cases isQuery (cutBlob tail).2 with
  | true => rfl
  | false => rfl

/-- An address is read back from its path. -/
theorem parse_path {address : Address} (h : address.Plain) : parse address.path = .ok address := by
  obtain ⟨host, container, blob⟩ := address
  obtain ⟨hhost, hcontainer, hnoQuery, hblob, hstart, hend⟩ := h
  dsimp only at hhost hcontainer hnoQuery hblob hstart hend
  have hpath : Address.path ⟨host, container, blob⟩ =
      Kind.azure.scheme ++
        (host ++ slash :: (container ++ if blob.isEmpty then [] else slash :: blob)) := by
    simp [Address.path]
  have htail : ∀ c ∈ (if blob.isEmpty then [] else slash :: blob).head?, c = slash ∨ c = '?' := by
    cases blob with
    | nil => exact nofun
    | cons c blob => exact fun _ hc => Or.inl (Option.some.inj hc).symm
  rw [hpath, parse_parts hhost hcontainer hnoQuery htail, cutBlob_key hblob,
    Text.trim_eq_self hstart hend]
  rfl

/-- Whatever continues the path of an address, its container stays the same. -/
theorem parse_below_container {address found : Address} (h : address.Plain) (names : List Text)
    (hfound : parse (Path.below address.path names) = .ok found) :
    found.container = address.container := by
  obtain ⟨host, container, blob⟩ := address
  let tail := (if blob.isEmpty then [] else slash :: blob) ++ names.flatMap (slash :: ·)
  have htail : ∀ c ∈ tail.head?, c = slash ∨ c = '?' := by
    cases blob with
    | nil =>
        cases names with
        | nil => exact nofun
        | cons name names => exact fun _ hc => Or.inl (Option.some.inj hc).symm
    | cons c blob => exact fun _ hc => Or.inl (Option.some.inj hc).symm
  have hpath : Path.below (Address.path ⟨host, container, blob⟩) names =
      Kind.azure.scheme ++ (host ++ slash :: (container ++ tail)) := by
    simp [Path.below, Address.path, tail]
  rw [hpath, parse_parts h.host h.container h.container_noQuery htail] at hfound
  split at hfound
  · cases hfound
    rfl
  · cases hfound

/-- What is read from a path can be read back. -/
theorem plain_of_parse {path : Text} {address : Address} (h : parse path = .ok address) :
    address.Plain := by
  unfold parse at h
  cases hparts : (Text.afterPrefix? Kind.azure.scheme path).bind parts? with
  | none =>
      rw [hparts] at h
      cases h
  | some found =>
      rw [hparts] at h
      cases h
      obtain ⟨rest, -, hrest⟩ := Option.bind_eq_some_iff.1 hparts
      simp only [parts?] at hrest
      split at hrest
      · cases hrest
      · next hchecked =>
          cases hrest
          simp only [Bool.or_eq_true, not_or, List.isEmpty_iff, Bool.not_eq_true',
            Bool.not_eq_false] at hchecked
          obtain ⟨⟨hhost, hcontainer⟩, -⟩ := hchecked
          have hall := List.all_eq_true.1 (@List.all_takeWhile _
            (fun c => c != slash && c != '?')
            (rest.drop ((rest.takeWhile (· != slash)).length + 1)))
          have hblob : ∀ text : Text, '?' ∉ (cutBlob text).1 := by
            intro text hmem
            unfold cutBlob at hmem
            split at hmem
            · have hbody := List.all_eq_true.1 List.all_takeWhile _ hmem
              simp at hbody
            · cases hmem
          refine ⟨⟨hhost, Text.slash_not_mem_takeWhile _⟩, ⟨hcontainer, fun hmem => ?_⟩,
            fun hmem => ?_, fun hmem => ?_, (Text.trim_closed _).1, (Text.trim_closed _).2⟩
          · simpa using hall _ hmem
          · simpa using hall _ hmem
          · have hcut := (List.dropWhile_suffix (· == slash)).subset
              ((Text.trimEnd_is_front _).subset hmem)
            exact hblob _ hcut

/-- Names without query marks continue a blob. -/
theorem parse_below {address : Address} (h : address.Plain) {names : List Text}
    (hnames : Text.Solid names) (hquery : ∀ name ∈ names, '?' ∉ name) :
    parse (Path.below address.path names) =
      .ok { address with blob := Key.below address.blob names } := by
  have hpath : Path.below address.path names =
      Address.path { address with blob := Key.below address.blob names } := by
    rw [Address.path_eq, Address.path_eq, Path.below_ofKey _ _ h.blob_end hnames]
  rw [hpath]
  by_cases hne : names = []
  · rw [Key.below, if_pos (by simpa using hne)]
    exact parse_path h
  · have hroot : Path.IsRoot (Text.join names) := Path.isRoot_join hne hnames
    have hkey : Key.below address.blob names = Key.asDirectory address.blob ++ Text.join names := by
      rw [Key.below, if_neg (by simpa using hne)]
    refine parse_path ⟨h.host, h.container, h.container_noQuery, ?_, ?_, ?_⟩
    · dsimp only
      rw [hkey]
      intro hmem
      rcases List.mem_append.1 hmem with hmem | hmem
      · rcases Key.mem_asDirectory hmem with hmem | hmem
        · exact h.blob_noQuery hmem
        · exact absurd hmem (by decide)
      · rcases Text.mem_join hmem with hmem | ⟨name, hname, hmem⟩
        · exact absurd hmem (by decide)
        · exact hquery name hname hmem
    · dsimp only
      rw [hkey]
      have hstart := h.blob_start
      cases hblob : address.blob with
      | nil => exact Text.join_not_open hnames
      | cons c blob =>
          rw [hblob] at hstart
          have hc : slash ≠ c := by simpa [List.isPrefixOf] using hstart
          unfold Key.asDirectory
          split <;> simp [List.isPrefixOf, hc]
    · dsimp only
      rw [hkey]
      exact (hroot.append _).2

end Azure

/-! ## All object stores -/

namespace Backend

/-- The bucket and the key that a path addresses; a local path addresses itself. -/
def addressOf (kind : Kind) (path : Text) : Except Fault (Text × Text) :=
  match kind with
  | .disk => .ok ([], path)
  | .gcs => (Gcs.parse path).map fun address => (address.bucket, address.object)
  | .s3 => (S3.parse path).map fun address => (address.bucket, address.key)
  | .azure => (Azure.parse path).map fun address => (address.container, address.blob)

variable {kind : Kind} {path source bucket key : Text} {names : List Text}

/-- A canonical path can be continued by names. -/
theorem isRoot_of_normalize (hkind : kind ≠ .disk) (h : normalize kind path = .ok source) :
    Path.IsRoot source := by
  cases kind with
  | disk => exact absurd rfl hkind
  | gcs =>
      obtain ⟨address, hparse, rfl⟩ := map_ok_iff.1 h
      obtain ⟨hbucket, parts, hparts, hobject⟩ := Gcs.parse_ok hparse
      apply Path.isRoot_ofKey Kind.gcs.scheme hbucket
      rw [hobject]
      exact Path.endsOpen_join hparts
  | s3 =>
      obtain ⟨address, hparse, rfl⟩ := map_ok_iff.1 h
      obtain ⟨hbucket, hkey, -⟩ := S3.parse_ok hparse
      exact Path.isRoot_ofKey Kind.s3.scheme hbucket hkey
  | azure =>
      obtain ⟨address, hparse, rfl⟩ := map_ok_iff.1 h
      have hplain := Azure.plain_of_parse hparse
      rw [Azure.Address.path_eq]
      exact Path.isRoot_ofKey _ hplain.container hplain.blob_end

/--
Names below the canonical form of a path address the key of the path continued by them, unless
the spelling of the kind takes some of it for something else.
-/
theorem addressOf_below (hkind : kind ≠ .disk) (hsource : normalize kind path = .ok source)
    (haddress : addressOf kind path = .ok (bucket, key)) (hnames : Text.Solid names)
    (hcolon : kind = .s3 → ':' ∉ bucket)
    (hquery : kind = .azure → ∀ name ∈ names, '?' ∉ name) :
    addressOf kind (Path.below source names) = .ok (bucket, Key.below key names) := by
  cases kind with
  | disk => exact absurd rfl hkind
  | gcs =>
      obtain ⟨address, hparse, rfl⟩ := map_ok_iff.1 hsource
      obtain ⟨bucket', object⟩ := address
      simp only [addressOf, hparse, Except.map, Except.ok.injEq, Prod.mk.injEq] at haddress
      obtain ⟨rfl, rfl⟩ := haddress
      obtain ⟨hbucket, parts, hparts, hobject⟩ := Gcs.parse_ok hparse
      dsimp only at hbucket hobject
      have hpath : Gcs.Address.path ⟨bucket', object⟩ =
          Kind.gcs.scheme ++ Text.join (bucket' :: parts) := by
        rw [← Path.ofKey_join _ _ hparts, ← hobject]
        rfl
      rw [hpath, Path.below_join, addressOf, Gcs.parse_join hbucket (hparts.append hnames), hobject,
        Key.below_join hparts]
      rfl
  | s3 =>
      obtain ⟨address, hparse, rfl⟩ := map_ok_iff.1 hsource
      obtain ⟨bucket', key'⟩ := address
      simp only [addressOf, hparse, Except.map, Except.ok.injEq, Prod.mk.injEq] at haddress
      obtain ⟨rfl, rfl⟩ := haddress
      obtain ⟨hbucket, -, hmade⟩ := S3.parse_ok hparse
      obtain ⟨parts, hparts, hkey⟩ := hmade (hcolon rfl)
      dsimp only at hbucket hkey
      have hpath : S3.Address.path ⟨bucket', key'⟩ =
          Kind.s3.scheme ++ Text.join (bucket' :: parts) := by
        rw [← Path.ofKey_join _ _ hparts, ← hkey]
        rfl
      rw [hpath, Path.below_join, addressOf,
        S3.parse_join hbucket (hcolon rfl) (hparts.append hnames), hkey, Key.below_join hparts]
      rfl
  | azure =>
      obtain ⟨address, hparse, rfl⟩ := map_ok_iff.1 hsource
      simp only [addressOf, hparse, Except.map, Except.ok.injEq, Prod.mk.injEq] at haddress
      obtain ⟨rfl, rfl⟩ := haddress
      rw [addressOf, Azure.parse_below (Azure.plain_of_parse hparse) hnames (hquery rfl)]
      rfl

/-- Names below the canonical form of a path never lead out of its bucket. -/
theorem bucket_below {name found : Text} (hkind : kind ≠ .disk)
    (hsource : normalize kind path = .ok source) (haddress : addressOf kind path = .ok (bucket, key))
    (hnames : Text.Solid names) (hcolon : kind = .s3 → ':' ∉ bucket)
    (hfound : addressOf kind (Path.below source names) = .ok (name, found)) : name = bucket := by
  by_cases hazure : kind = .azure
  · subst hazure
    obtain ⟨address, hparse, rfl⟩ := map_ok_iff.1 hsource
    simp only [addressOf, hparse, Except.map, Except.ok.injEq, Prod.mk.injEq] at haddress
    obtain ⟨rfl, rfl⟩ := haddress
    obtain ⟨other, hother, hsame⟩ := map_ok_iff.1 hfound
    cases hsame
    exact Azure.parse_below_container (Azure.plain_of_parse hparse) names hother
  · have hexact := addressOf_below hkind hsource haddress hnames hcolon
      fun h => absurd h hazure
    rw [hexact] at hfound
    cases hfound
    rfl

/-- A path that addresses something has a canonical form. -/
theorem normalize_of_addressOf {address : Text × Text} (haddress : addressOf kind path = .ok address) :
    ∃ source, normalize kind path = .ok source := by
  cases kind with
  | disk => exact ⟨_, rfl⟩
  | gcs =>
      obtain ⟨found, hparse, -⟩ := map_ok_iff.1 haddress
      exact ⟨_, map_ok_iff.2 ⟨found, hparse, rfl⟩⟩
  | s3 =>
      obtain ⟨found, hparse, -⟩ := map_ok_iff.1 haddress
      exact ⟨_, map_ok_iff.2 ⟨found, hparse, rfl⟩⟩
  | azure =>
      obtain ⟨found, hparse, -⟩ := map_ok_iff.1 haddress
      exact ⟨_, map_ok_iff.2 ⟨found, hparse, rfl⟩⟩

/-- A path with a canonical form addresses something. -/
theorem addressOf_of_normalize (h : normalize kind path = .ok source) :
    ∃ address, addressOf kind path = .ok address := by
  cases kind with
  | disk => exact ⟨_, rfl⟩
  | gcs =>
      obtain ⟨found, hparse, -⟩ := map_ok_iff.1 h
      exact ⟨_, map_ok_iff.2 ⟨found, hparse, rfl⟩⟩
  | s3 =>
      obtain ⟨found, hparse, -⟩ := map_ok_iff.1 h
      exact ⟨_, map_ok_iff.2 ⟨found, hparse, rfl⟩⟩
  | azure =>
      obtain ⟨found, hparse, -⟩ := map_ok_iff.1 h
      exact ⟨_, map_ok_iff.2 ⟨found, hparse, rfl⟩⟩

/-- The key of a path does not end in a separator. -/
theorem key_closed (hkind : kind ≠ .disk) (haddress : addressOf kind path = .ok (bucket, key)) :
    Path.endsOpen key = false := by
  cases kind with
  | disk => exact absurd rfl hkind
  | gcs =>
      obtain ⟨address, hparse, hsame⟩ := map_ok_iff.1 haddress
      cases hsame
      obtain ⟨-, parts, hparts, hobject⟩ := Gcs.parse_ok hparse
      rw [hobject]
      exact Path.endsOpen_join hparts
  | s3 =>
      obtain ⟨address, hparse, hsame⟩ := map_ok_iff.1 haddress
      cases hsame
      exact (S3.parse_ok hparse).2.1
  | azure =>
      obtain ⟨address, hparse, hsame⟩ := map_ok_iff.1 haddress
      cases hsame
      exact (Azure.plain_of_parse hparse).blob_end

end Backend

end ArtifactDepot
