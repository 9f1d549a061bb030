import ArtifactDepot.Proofs.Continued
import ArtifactDepot.Proofs.Endpoint
import ArtifactDepot.Proofs.Inferred

/-!
# Children and their paths

A listing gives names, and a name is turned into a path again by joining it
to the path that was listed, in whatever way that path was spelled.  What the
joined path addresses is the key of the listed path continued by the name,
unless the name or the end of the path has a meaning of its own to the kind
(`Backend.Admits`).  Then the operations on the joined path speak of the
listed entry.
-/

namespace ArtifactDepot

open Text (slash)
open ArtifactDepot.Action

/-! ## Cloud Storage -/

namespace Gcs

variable {path joined name : Text} {address : Address} {tight : Prop}

/-- A path is read as its components, the first of which is the bucket. -/
theorem parse_ok_iff {bucket object : Text} :
    parse path = .ok ⟨bucket, object⟩ ↔
      [slash].isPrefixOf (Kind.gcs.strip path) = false ∧
        ∃ parts, Text.solidComponents (Kind.gcs.strip path) = bucket :: parts ∧
          object = Text.join parts := by
  obtain ⟨first, rest, hcut, hfirst, hrest⟩ := Text.exists_cut (Kind.gcs.strip path)
  have htake : (first ++ rest).takeWhile (· != slash) = first := by
    refine Text.takeWhile_name hfirst (hrest.imp_right ?_)
    rintro ⟨others, rfl⟩
    rfl
  have hdrop : Text.solidComponents (first ++ rest) =
      Text.solidComponents first ++ Text.solidComponents ((first ++ rest).drop (first.length + 1)) := by
    rcases hrest with rfl | ⟨others, rfl⟩
    · rw [List.append_nil, List.drop_eq_nil_of_le (Nat.le_succ _)]
      exact (List.append_nil _).symm
    · rw [Text.solidComponents_append, List.append_cons, List.drop_left' (by simp)]
  simp only [parse, hcut, htake, hdrop]
  cases first with
  | nil =>
      simp only [List.isEmpty_nil, if_true, reduceCtorEq, List.nil_append, false_iff, not_and]
      intro hclosed
      rcases hrest with rfl | ⟨others, rfl⟩
      · rintro ⟨parts, hparts, -⟩
        cases hparts
      · cases hclosed
  | cons c first =>
      have hself : Text.solidComponents (c :: first) = [c :: first] :=
        Text.solidComponents_join (Text.Solid.singleton ⟨List.cons_ne_nil _ _, hfirst⟩)
      have hc : (slash == c) = false := by
        simpa using fun heq : slash = c => hfirst (heq ▸ List.mem_cons_self ..)
      simp only [List.isEmpty_cons, Bool.false_eq_true, if_false, hself, Except.ok.injEq,
        Address.mk.injEq, List.cons_append, List.nil_append, List.cons.injEq, List.isPrefixOf, hc,
        Bool.false_and, true_and, Key.canonical]
      constructor
      · rintro ⟨hbucket, hobject⟩
        exact ⟨_, ⟨hbucket, rfl⟩, hobject.symm⟩
      · rintro ⟨parts, ⟨hbucket, rfl⟩, hobject⟩
        exact ⟨hbucket, hobject.symm⟩

/-- A continued path addresses the same bucket, and one name more behind the object. -/
theorem parse_continued (h : Path.Continued tight name path joined) (hname : name ≠ [] ∧ slash ∉ name)
    (hparse : parse path = .ok address) :
    parse joined = .ok ⟨address.bucket, Key.below address.object [name]⟩ := by
  obtain ⟨bucket, object⟩ := address
  obtain ⟨hclosed, parts, hparts, rfl⟩ := parse_ok_iff.1 hparse
  have hrest : Kind.gcs.strip path ≠ [] := fun hempty => by
    rw [hempty] at hparts
    cases hparts
  have hstripped : Path.Continued tight name (Kind.gcs.strip path) (Kind.gcs.strip joined) := by
    have hstarts := h.afterPrefix? hname.2 (show [slash, slash] <:+ Kind.gcs.scheme by decide)
      fun rest hrest => by
        refine Text.exists_ne_slash ?_
        have hstrip : Kind.gcs.strip path = rest := by rw [Kind.strip, Text.withoutPrefix, hrest]; rfl
        rw [← hstrip, hparts]
        exact List.cons_ne_nil _ _
    exact h.getD hstarts
  refine parse_ok_iff.2 ⟨hstripped.not_open hrest hclosed, parts ++ [name], ?_, ?_⟩
  · rw [hstripped.solidComponents_eq hname, hparts, List.cons_append]
  · have hsolid : Text.Solid parts := by
      have hall := Text.solid_solidComponents (Kind.gcs.strip path)
      rw [hparts] at hall
      exact hall.tail
    exact Key.below_join hsolid

end Gcs

/-! ## S3 -/

namespace S3

variable {path joined name : Text} {cleaned : Cleaned} {address : Address} {tight : Prop}

/-- What follows a transport is the end of the text. -/
theorem Transport.suffix_of_cut? {input rest : Text} {transport : Transport}
    (h : Transport.cut? input = some (transport, rest)) : rest <:+ input := by
  have hsuffix (needle rest : Text) (hrest : Text.afterFirst? needle input = some rest) :
      rest <:+ input := by
    obtain ⟨front, hinput⟩ := Text.afterFirst?_eq_some hrest
    exact ⟨_, hinput.symm⟩
  simp only [Transport.cut?] at h
  split at h
  · next hsecure =>
      cases h
      exact hsuffix _ _ hsecure
  · obtain ⟨found, hplain, heq⟩ := Option.map_eq_some_iff.1 h
    cases heq
    exact hsuffix _ _ hplain

/-- The same transport is found in a continued text. -/
theorem Transport.cut?_continued {input continued : Text}
    (h : Path.Continued tight name input continued) (hname : slash ∉ name)
    (hsome : ∀ transport rest, Transport.cut? input = some (transport, rest) → ∃ c ∈ rest, c ≠ slash) :
    Option.Rel (fun left right => left.1 = right.1 ∧ Path.Continued tight name left.2 right.2)
      (Transport.cut? input) (Transport.cut? continued) := by
  have hends (transport : Transport) : [slash, slash] <:+ transport.scheme := by
    cases transport <;> decide
  cases hsecure : Text.afterFirst? Transport.secure.scheme input with
  | some rest =>
      have hfound : Transport.cut? input = some (.secure, rest) := by rw [Transport.cut?, hsecure]
      have hrel := h.afterFirst? hname (hends .secure) fun found hfound' => by
        rw [hsecure] at hfound'
        cases hfound'
        exact hsome _ _ hfound
      rw [hfound]
      rw [hsecure] at hrel
      rw [Transport.cut?]
      generalize Text.afterFirst? Transport.secure.scheme continued = again at hrel
      cases hrel with
      | some hrest => exact .some ⟨rfl, hrest⟩
  | none =>
      have hcut : Transport.cut? input =
          (Text.afterFirst? Transport.plain.scheme input).map (fun rest => (.plain, rest)) := by
        rw [Transport.cut?, hsecure]
      have habsent := h.afterFirst? hname (hends .secure) fun found hfound => by
        rw [hsecure] at hfound
        cases hfound
      have hrel := h.afterFirst? hname (hends .plain) fun found hfound => by
        rw [hfound] at hcut
        exact hsome _ _ hcut
      rw [hcut, Transport.cut?]
      rw [hsecure] at habsent
      generalize Text.afterFirst? Transport.secure.scheme continued = again at habsent
      cases habsent with
      | none =>
          dsimp only
          generalize Text.afterFirst? Transport.plain.scheme input = found at hrel
          generalize Text.afterFirst? Transport.plain.scheme continued = again at hrel
          cases hrel with
          | none => exact .none
          | some hrest => exact .some ⟨rfl, hrest⟩

/-- A continued path is cleaned to one part more. -/
theorem Cleaned.ofPath_continued (h : Path.Continued tight name path joined)
    (hname : name ≠ [] ∧ slash ∉ name) (hcleaned : Cleaned.ofPath path = .ok cleaned) :
    Cleaned.ofPath joined = .ok { cleaned with parts := cleaned.parts ++ [name] } := by
  simp only [Cleaned.ofPath] at hcleaned ⊢
  split at hcleaned
  · cases hcleaned
  · next hparts =>
      cases hcleaned
      -- Whatever is cut off, something besides separators is left, and so there is at each cut.
      have hleft : ∃ c ∈ ((Transport.cut? ((Text.afterFirst? Kind.s3.scheme path).getD path)).map
          Prod.snd).getD ((Text.afterFirst? Kind.s3.scheme path).getD path), c ≠ slash :=
        Text.exists_ne_slash (by simpa using hparts)
      have hscheme := h.afterFirst? hname.2 (show [slash, slash] <:+ Kind.s3.scheme by decide)
        fun rest hrest => by
          rw [hrest, Option.getD_some] at hleft
          obtain ⟨c, hc, hne⟩ := hleft
          cases hcut : Transport.cut? rest with
          | none => exact ⟨c, by simpa [hcut] using hc, hne⟩
          | some found =>
              rw [hcut] at hc
              exact ⟨c, (Transport.suffix_of_cut? hcut).subset hc, hne⟩
      have hrest := h.getD hscheme
      have htransport := Transport.cut?_continued hrest hname.2 fun transport rest hrest => by
        rw [hrest] at hleft
        exact hleft
      have hsame : (Text.afterFirst? Kind.s3.scheme joined).isSome =
          (Text.afterFirst? Kind.s3.scheme path).isSome := by
        generalize Text.afterFirst? Kind.s3.scheme path = found at hscheme
        generalize Text.afterFirst? Kind.s3.scheme joined = again at hscheme
        cases hscheme with
        | none => rfl
        | some => rfl
      rw [hsame]
      generalize (Text.afterFirst? Kind.s3.scheme path).getD path = left at *
      generalize (Text.afterFirst? Kind.s3.scheme joined).getD joined = right at *
      generalize Transport.cut? left = found at htransport
      generalize Transport.cut? right = again at htransport
      cases htransport with
      | none =>
          simp [hrest.solidComponents_eq hname]
      | some hfound =>
          simp [hfound.2.solidComponents_eq hname, hfound.1]

/-- What is addressed in a text that goes on is the key with one name more. -/
theorem addressOf_append {rest : Text} (hne : rest ≠ []) (hclosed : Path.endsOpen rest = false)
    (name : Text) :
    addressOf (rest ++ slash :: name) =
      ⟨(addressOf rest).bucket, Key.asDirectory (addressOf rest).key ++ name⟩ := by
  obtain ⟨bucket, tail, rfl, hbucket, htail⟩ := Text.exists_cut rest
  have hcut (tail : Text) (htail : tail = [] ∨ ∃ others, tail = slash :: others) :
      addressOf (bucket ++ tail) = ⟨bucket, tail.drop 1⟩ := by
    have htake : (bucket ++ tail).takeWhile (· != slash) = bucket := by
      refine Text.takeWhile_name hbucket (htail.imp_right ?_)
      rintro ⟨others, rfl⟩
      rfl
    rw [addressOf, htake, ← List.drop_drop, List.drop_left]
  rw [List.append_assoc, hcut tail htail]
  rcases htail with rfl | ⟨key, rfl⟩
  · exact hcut _ (Or.inr ⟨name, rfl⟩)
  · have hkey : key ≠ [] := by
      rintro rfl
      rw [Path.endsOpen_concat] at hclosed
      cases hclosed
    have hkeyClosed : Path.endsOpen key = false :=
      Path.endsOpen_of_suffix ⟨bucket ++ [slash], by simp⟩ hclosed
    rw [List.cons_append, hcut _ (Or.inr ⟨_, rfl⟩)]
    simp [Key.asDirectory_eq hkey hkeyClosed]

/-- An address is read from a cleaned path: that behind its endpoint, or that of its components. -/
theorem parse_ok_iff :
    parse path = .ok address ↔ ∃ text, clean path = .ok text ∧ address.bucket ≠ [] ∧
      address = (Endpoint.ofPath? text).elim (addressOf (Kind.s3.strip text))
        (fun endpoint => ⟨endpoint.bucket, endpoint.key⟩) := by
  have hchoice (found : Address) :
      (if found.bucket.isEmpty then .error (.noBucket path) else .ok found : Except Fault Address) =
        .ok address ↔ address.bucket ≠ [] ∧ address = found := by
    split
    · next hempty =>
        simp only [reduceCtorEq, false_iff, not_and]
        rintro hne rfl
        exact hne (List.isEmpty_iff.1 hempty)
    · next hsome =>
        rw [Except.ok.injEq]
        constructor
        · rintro rfl
          exact ⟨by simpa using hsome, rfl⟩
        · rintro ⟨-, rfl⟩
          rfl
  cases hclean : clean path with
  | error fault => simp [parse, hclean, bind, Except.bind]
  | ok text =>
      simp only [parse, hclean, bind, Except.bind, Except.ok.injEq, exists_eq_left']
      cases hendpoint : Endpoint.ofPath? text with
      | none => exact hchoice _
      | some endpoint => exact hchoice ⟨endpoint.bucket, endpoint.key⟩

/-- A name that is put behind a cleaned path makes no other scheme appear. -/
theorem strip_append {text : Text} (hclosed : Path.endsOpen text = false) (hname : slash ∉ name) :
    Kind.s3.strip (text ++ slash :: name) = Kind.s3.strip text ++ slash :: name := by
  have hcontinued : Path.Continued True name text (text ++ slash :: name) :=
    ⟨text, 0, by simp, rfl, fun _ => hclosed⟩
  cases hscheme : Text.afterPrefix? Kind.s3.scheme text with
  | some rest =>
      rw [Text.afterPrefix?_eq_some_iff.1 hscheme, List.append_assoc, Kind.strip_scheme_append,
        Kind.strip_scheme_append]
  | none =>
      have hrel := hcontinued.afterPrefix? hname (show [slash, slash] <:+ Kind.s3.scheme by decide)
        fun rest hrest => by
          rw [hscheme] at hrest
          cases hrest
      rw [hscheme] at hrel
      rw [Kind.strip, Kind.strip, Text.withoutPrefix, Text.withoutPrefix, hscheme]
      generalize Text.afterPrefix? Kind.s3.scheme (text ++ slash :: name) = found at hrel
      cases hrel with
      | none => rfl

/-- Does the path name a host and a number, but no bucket behind them? -/
def IsBare (path : Text) : Prop :=
  ∃ transport host socket, Endpoint.Passes Endpoint.isHostChar host ∧
    Endpoint.Passes Char.isDigit socket ∧
    clean path = .ok (Kind.s3.scheme ++
      (((transport : Option Transport).map Transport.scheme).getD [] ++ (host ++ ':' :: socket)))

/-- The same endpoint, with one name more in the key. -/
def Endpoint.Spelling.extended (spelling : Endpoint.Spelling) (name : Text)
    (hname : name ≠ [] ∧ slash ∉ name) : Endpoint.Spelling :=
  { spelling with
    names := spelling.names ++ [name]
    names_solid := spelling.names_solid.append (Text.Solid.singleton hname) }

theorem Endpoint.Spelling.path_extended (spelling : Endpoint.Spelling)
    (hname : name ≠ [] ∧ slash ∉ name) :
    (spelling.extended name hname).path = spelling.path ++ slash :: name := by
  simp [path, cleaned, Cleaned.path, parts, extended, authority, Text.join_cons]

/-- A text is cut at its last separator in one way only. -/
theorem append_slash_inj {front other last name : Text} (hlast : slash ∉ last)
    (hname : slash ∉ name) (h : front ++ slash :: last = other ++ slash :: name) :
    front = other ∧ last = name := by
  have hcut (front : Text) {last : Text} (hlast : slash ∉ last) :
      (front ++ slash :: last).reverse.takeWhile (· != slash) = last.reverse := by
    rw [List.reverse_append, List.reverse_cons, List.append_assoc]
    exact Text.takeWhile_name (by simpa using hlast) (Or.inr (by simp))
  have hsame : last = name := by
    have hreverse := hcut front hlast
    rw [h, hcut other hname] at hreverse
    exact (List.reverse_inj.1 hreverse).symm
  rw [hsame] at h
  exact ⟨List.append_cancel_right h, hsame⟩

/-- A name completes an endpoint only behind a bare host and number. -/
theorem endpoint_append_eq_none {text : Text} (hclean : clean path = .ok text)
    (hname : name ≠ [] ∧ slash ∉ name) (hnone : Endpoint.ofPath? text = none)
    (hbare : IsBare path → ¬ Endpoint.Passes Endpoint.isBucketChar name) :
    Endpoint.ofPath? (text ++ slash :: name) = none := by
  cases hfound : Endpoint.ofPath? (text ++ slash :: name) with
  | none => rfl
  | some endpoint =>
      obtain ⟨⟨transport, host, socket, bucket, names, hhost, hsocket, hbucket, hnames⟩, hreadable,
        hpath, -⟩ := Endpoint.ofPath?_eq_some_iff.1 hfound
      rcases List.eq_nil_or_concat names with rfl | ⟨others, last, rfl⟩
      · have hfree : slash ∉ bucket := fun hmem => absurd (hbucket.2 _ hmem) (by decide)
        have hcut : (Kind.s3.scheme ++ ((transport.map Transport.scheme).getD [] ++
            (host ++ ':' :: socket))) ++ slash :: bucket = text ++ slash :: name := by
          rw [← hpath]
          simp [Endpoint.Spelling.path, Endpoint.Spelling.cleaned, Cleaned.path,
            Endpoint.Spelling.parts, Endpoint.Spelling.authority, Text.join]
        obtain ⟨htext, rfl⟩ := append_slash_inj hfree hname.2 hcut
        exact absurd hbucket (hbare ⟨transport, host, socket, hhost, hsocket, htext ▸ hclean⟩)
      · rw [List.concat_eq_append] at hnames
        have hlast := hnames last (by simp)
        let shorter : Endpoint.Spelling :=
          ⟨transport, host, socket, bucket, others, hhost, hsocket, hbucket, hnames.left⟩
        have hcut : shorter.path ++ slash :: last = text ++ slash :: name := by
          rw [← shorter.path_extended hlast, ← hpath]
          simp [shorter, Endpoint.Spelling.extended]
        obtain ⟨htext, -⟩ := append_slash_inj hlast.2 hname.2 hcut
        have hshorter : Endpoint.ofPath? shorter.path = some shorter.endpoint := by
          rw [Endpoint.ofPath?_path, if_pos]
          exact fun part hpart => hreadable part (by simpa using Or.inl hpart)
        rw [htext, hnone] at hshorter
        cases hshorter

/--
A continued path addresses the same bucket, and one name more in the key.  Behind an endpoint the
name must be readable, and behind a bare host and number it must not be taken for a bucket.
-/
theorem parse_continued (h : Path.Continued tight name path joined)
    (hname : name ≠ [] ∧ slash ∉ name) (hparse : parse path = .ok address)
    (hreadable : ∀ url, endpointUrl path = .ok (some url) → Endpoint.Readable [name])
    (hbare : IsBare path → ¬ Endpoint.Passes Endpoint.isBucketChar name) :
    parse joined = .ok ⟨address.bucket, Key.below address.key [name]⟩ := by
  obtain ⟨text, hclean, hbucket, rfl⟩ := parse_ok_iff.1 hparse
  obtain ⟨cleaned, hcleaned, rfl⟩ := map_ok_iff.1 hclean
  obtain ⟨hne, hparts⟩ := Cleaned.ofPath_ok hcleaned
  obtain ⟨hsome, hclosed⟩ := isRoot_cleaned hne hparts
  have hlonger : clean joined = .ok (cleaned.path ++ slash :: name) := by
    rw [clean, Cleaned.ofPath_continued h hname hcleaned]
    simp [Except.map, Cleaned.path, Text.join_append hne (List.cons_ne_nil name []), Text.join]
  refine parse_ok_iff.2 ⟨_, hlonger, hbucket, ?_⟩
  cases hendpoint : Endpoint.ofPath? cleaned.path with
  | some endpoint =>
      obtain ⟨spelling, hnames, hpath, rfl⟩ := Endpoint.ofPath?_eq_some_iff.1 hendpoint
      have hplain : Endpoint.Readable [name] := by
        refine hreadable spelling.endpoint.url ?_
        rw [endpointUrl, hclean]
        simp [Except.map, hendpoint]
      have hextended : Endpoint.ofPath? (cleaned.path ++ slash :: name) =
          some (spelling.extended name hname).endpoint := by
        rw [← hpath, ← spelling.path_extended hname, Endpoint.ofPath?_path, if_pos]
        intro part hpart
        rcases List.mem_append.1 hpart with hpart | hpart
        · exact hnames part hpart
        · exact hplain part hpart
      rw [hextended]
      simp only [Option.elim, Endpoint.Spelling.endpoint, Endpoint.Spelling.extended,
        Key.below_join spelling.names_solid]
  | none =>
      rw [hendpoint, Option.elim_none] at hbucket
      rw [endpoint_append_eq_none hclean hname hendpoint hbare, Option.elim_none,
        Option.elim_none, strip_append hclosed hname.2]
      have hrest : Kind.s3.strip cleaned.path ≠ [] := fun hempty => by
        rw [hempty] at hbucket
        exact hbucket rfl
      rw [addressOf_append hrest (Path.endsOpen_of_suffix (strip_suffix _) hclosed)]
      rfl

end S3

/-! ## Azure -/

namespace Azure

variable {path joined name tail : Text} {address : Address} {tight : Prop}

/-- A path is spelled with its host, its container, and what the blob is cut from. -/
theorem parse_ok (h : parse path = .ok address) :
    ∃ tail, path = Kind.azure.scheme ++ (address.host ++ slash :: (address.container ++ tail)) ∧
      (∀ c ∈ tail.head?, c = slash ∨ c = '?') ∧
      address.blob = Text.trim slash (cutBlob tail).1 := by
  unfold parse at h
  cases hparts : (Text.afterPrefix? Kind.azure.scheme path).bind parts? with
  | none =>
      rw [hparts] at h
      cases h
  | some found =>
      rw [hparts] at h
      cases h
      obtain ⟨rest, hscheme, hrest⟩ := Option.bind_eq_some_iff.1 hparts
      obtain ⟨host, below, rfl, hhost, hbelow⟩ := Text.exists_cut rest
      have htake : (host ++ below).takeWhile (· != slash) = host := by
        refine Text.takeWhile_name hhost (hbelow.imp_right ?_)
        rintro ⟨others, rfl⟩
        rfl
      simp only [parts?, htake] at hrest
      split at hrest
      · cases hrest
      · next hchecked =>
          cases hrest
          simp only [Bool.or_eq_true, not_or, List.isEmpty_iff] at hchecked
          rcases hbelow with rfl | ⟨others, rfl⟩
          · -- Without a separator behind the host there is no container.
            refine absurd ?_ hchecked.1.2
            rw [List.append_nil, List.drop_eq_nil_of_le (Nat.le_succ _), List.takeWhile_nil]
          · have hdrop : (host ++ slash :: others).drop (host.length + 1) = others := by
              rw [List.append_cons]
              exact List.drop_left' (by simp)
            rw [hdrop]
            have hcut := @List.takeWhile_append_dropWhile _ (fun c => c != slash && c != '?') others
            have htail : others.drop (others.takeWhile (fun c => c != slash && c != '?')).length =
                others.dropWhile (fun c => c != slash && c != '?') := by
              have hrest := congrArg
                (List.drop (others.takeWhile (fun c => c != slash && c != '?')).length) hcut
              rw [List.drop_left] at hrest
              exact hrest.symm
            refine ⟨_, ?_, ?_, rfl⟩
            · rw [htail, hcut]
              exact Text.afterPrefix?_eq_some_iff.1 hscheme
            · intro c hc
              rw [htail] at hc
              have hfails := List.head?_dropWhile_not (fun c => c != slash && c != '?') others
              rw [Option.mem_def.1 hc] at hfails
              simpa [imp_iff_not_or, or_comm] using hfails

/-- Without a query mark everything behind a container is a blob. -/
theorem cutBlob_plain (hmark : '?' ∉ tail) (htail : tail = [] ∨ ∃ body, tail = slash :: body) :
    cutBlob tail = (tail.drop 1, []) := by
  have hcut := cutBlob_query htail hmark (show ∀ c ∈ [].head?, c = '?' by nofun)
  rwa [List.append_nil] at hcut

/-- Does the path have a query mark behind its host? -/
def hasQuery (path : Text) : Bool :=
  ((Kind.azure.strip path).dropWhile (· != slash)).contains '?'

/-- Whether there is a query is decided behind the container. -/
theorem hasQuery_spelled {host container : Text} (hhost : slash ∉ host)
    (hcontainer : '?' ∉ container) :
    hasQuery (Kind.azure.scheme ++ (host ++ slash :: (container ++ tail))) = decide ('?' ∈ tail) := by
  have hfree : ∀ c ∈ host, (c != slash) = true := by
    intro c hc
    simp only [bne_iff_ne, ne_eq]
    rintro rfl
    exact hhost hc
  rw [hasQuery, Kind.strip_scheme_append, List.dropWhile_append_of_pos hfree,
    List.dropWhile_cons_of_neg (by simp)]
  have hslash : '?' ≠ slash := by decide
  simp [hcontainer, hslash]

/--
A continued path addresses the same container, and one name more behind the blob.  There must be
no query mark in path and name, and the blob must not end in separators that are kept.
-/
theorem parse_continued (h : Path.Continued tight name path joined)
    (hname : name ≠ [] ∧ slash ∉ name) (hparse : parse path = .ok address)
    (hquery : hasQuery path = false) (hmark : '?' ∉ name) (htight : tight ∨ address.blob = []) :
    parse joined = .ok { address with blob := Key.below address.blob [name] } := by
  have hplain := plain_of_parse hparse
  obtain ⟨tail, hpath, hhead, hblob⟩ := parse_ok hparse
  have hfree : '?' ∉ tail := by
    intro hmem
    rw [hpath, hasQuery_spelled hplain.host.2 hplain.container_noQuery, decide_eq_false_iff_not]
      at hquery
    exact hquery hmem
  have htail : tail = [] ∨ ∃ body, tail = slash :: body := by
    cases tail with
    | nil => exact Or.inl rfl
    | cons c body =>
        rcases hhead c rfl with rfl | rfl
        · exact Or.inr ⟨body, rfl⟩
        · exact absurd (List.mem_cons_self ..) hfree
  have hfront : path = (Kind.azure.scheme ++ address.host ++ [slash] ++ address.container) ++ tail := by
    rw [hpath]
    simp
  have hclosed := Path.IsRoot.append_name (Kind.azure.scheme ++ address.host ++ [slash])
    hplain.container
  obtain ⟨tail', hjoined, hcontinued⟩ := h.split hfront (Or.inr hclosed)
  have hspelled : joined =
      Kind.azure.scheme ++ (address.host ++ slash :: (address.container ++ tail')) := by
    rw [hjoined]
    simp
  have hopen : ∃ body, tail' = slash :: body := by
    obtain ⟨start, extra, rfl, rfl, -⟩ := hcontinued
    cases start with
    | nil => exact ⟨name, rfl⟩
    | cons c start =>
        rcases htail with htail | ⟨body, htail⟩
        · cases htail
        · rw [List.cons_append] at htail
          exact ⟨start ++ slash :: name, by rw [List.cons_append, (List.cons.inj htail).1]⟩
  have hfree' : '?' ∉ tail' := by
    obtain ⟨start, extra, rfl, rfl, -⟩ := hcontinued
    intro hmem
    rcases List.mem_append.1 hmem with hmem | hmem
    · exact hfree (List.mem_append_left _ hmem)
    · rcases List.mem_cons.1 hmem with hmem | hmem
      · exact absurd hmem (by decide)
      · exact hmark hmem
  have htrim : Text.trim slash (tail'.drop 1) = Key.below address.blob [name] := by
    rw [cutBlob_plain hfree htail] at hblob
    dsimp only at hblob
    rw [hblob] at htight ⊢
    obtain ⟨start, extra, rfl, rfl, hstart⟩ := hcontinued
    cases start with
    | nil =>
        have hself : Text.trim slash name = name := Text.trim_eq_self
          (Text.join_not_open (Text.Solid.singleton hname)) (Path.IsRoot.of_name hname).2
        have hnothing : Text.trim slash (([] ++ List.replicate extra slash).drop 1) = [] := by
          rw [List.nil_append, List.drop_replicate, Text.trim, Text.trimStart,
            List.dropWhile_replicate]
          simp [Text.trimEnd]
        rw [hnothing]
        exact hself
    | cons c start =>
        have hrest : Path.Continued tight name (start ++ List.replicate extra slash)
            (start ++ slash :: name) :=
          ⟨start, extra, rfl, rfl, fun h =>
            Path.endsOpen_of_suffix (List.suffix_cons c start) (hstart h)⟩
        exact hrest.trim_eq hname htight
  rw [hspelled, parse_parts hplain.host hplain.container hplain.container_noQuery
      (by obtain ⟨body, rfl⟩ := hopen; exact fun _ hc => Or.inl (Option.some.inj hc).symm),
    cutBlob_plain hfree' (Or.inr hopen), htrim]
  rfl

end Azure

/-! ## All object stores -/

namespace Backend

variable {kind : Kind} {path name bucket key : Text}

/--
Does the spelling of a path let a name behind it stand for a child?  An endpoint takes the
characters of keys only, and a bare host and number would become one with a bucket.  A query mark
ends a path of Azure, and separators behind a colon are kept in its blob.
-/
def Admits (kind : Kind) (path name : Text) : Prop :=
  match kind with
  | .disk | .gcs => True
  | .s3 =>
      (∀ url, S3.endpointUrl path = .ok (some url) → S3.Endpoint.Readable [name]) ∧
        (S3.IsBare path → ¬ S3.Endpoint.Passes S3.Endpoint.isBucketChar name)
  | .azure =>
      Azure.hasQuery path = false ∧ '?' ∉ name ∧
        (Path.isSchemeRoot path = false ∨ ∀ address, Azure.parse path = .ok address → address.blob = [])

/-- A path that addresses something is not empty. -/
theorem ne_nil_of_addressOf (hkind : kind ≠ .disk) (h : addressOf kind path = .ok (bucket, key)) :
    path ≠ [] := by
  rintro rfl
  cases kind with
  | disk => exact hkind rfl
  | gcs => cases h
  | s3 => cases h
  | azure => cases h

/-- A name that is joined to a path addresses the key of the path with this name behind it. -/
theorem addressOf_join (hkind : kind ≠ .disk) (haddress : addressOf kind path = .ok (bucket, key))
    (hname : name ≠ [] ∧ slash ∉ name) (hadmits : Admits kind path name) :
    addressOf kind (Path.join [path, name]) = .ok (bucket, Key.below key [name]) := by
  have hcontinued := Path.continued_join (ne_nil_of_addressOf hkind haddress) hname
  cases kind with
  | disk => exact absurd rfl hkind
  | gcs =>
      obtain ⟨address, hparse, heq⟩ := map_ok_iff.1 haddress
      cases heq
      exact map_ok_iff.2 ⟨_, Gcs.parse_continued hcontinued hname hparse, rfl⟩
  | s3 =>
      obtain ⟨address, hparse, heq⟩ := map_ok_iff.1 haddress
      cases heq
      exact map_ok_iff.2
        ⟨_, S3.parse_continued hcontinued hname hparse hadmits.1 hadmits.2, rfl⟩
  | azure =>
      obtain ⟨address, hparse, heq⟩ := map_ok_iff.1 haddress
      cases heq
      obtain ⟨hquery, hmark, hroot⟩ := hadmits
      have htight := hroot.imp_right fun hblob => hblob address hparse
      exact map_ok_iff.2
        ⟨_, Azure.parse_continued hcontinued hname hparse hquery hmark htight, rfl⟩

/--
What is listed in a path can be addressed, however the path is spelled, if the spelling admits the
name: the joined path leads to the same bucket and to the key with the name behind it.  If the
store answers, the operations on it speak of this key alone, and a name that was listed is there.
-/
theorem listed_child_addressed {names : Names} {site : Site} (hkind : kind ≠ .disk)
    (haddress : addressOf kind path = .ok (bucket, key))
    (hlisted : (contents kind path).result site = .ok names) (hname : name ∈ names)
    (hadmits : Admits kind path name) :
    addressOf kind (Path.join [path, name]) = .ok (bucket, Key.below key [name]) ∧
      (∀ objects, site.cloud.bucket? kind bucket = some objects → site.Answers kind bucket →
        Trace.Passable site path → objects.IsPresent (Key.below key [name])) ∧
      ∀ later objects, later.cloud.bucket? kind bucket = some objects →
        later.Answers kind bucket →
        (isDirectory kind (Path.join [path, name])).result later =
            .ok (decide (objects.Continues (Key.below key [name]))) ∧
          (isPresent kind (Path.join [path, name])).result later =
            .ok (decide (objects.IsPresent (Key.below key [name]))) ∧
          (Trace.Passable later (Path.join [path, name]) → ∃ cause,
            (readBytes kind (Path.join [path, name])).result later =
              foundOr (.missing .file (Path.join [path, name]) cause)
                (objects.content? (Key.below key [name]))) := by
  have hplain : name ≠ [] ∧ slash ∉ name := by
    cases hrun : contents kind path site with
    | error failure site' =>
        rw [result_of_error hrun] at hlisted
        cases hlisted
    | ok found site' =>
        rw [result_of_ok hrun] at hlisted
        cases hlisted
        exact (solid_contents hkind path).ok trivial hrun name (Names.mem_def.1 hname)
  have hchild := addressOf_join hkind haddress hplain hadmits
  have hne : Key.below key [name] ≠ [] :=
    Key.below_ne_nil (List.cons_ne_nil _ _) (Text.Solid.singleton hplain)
  refine ⟨hchild, fun objects hbucket hanswers hpassable => ?_,
    fun later objects hbucket hanswers => ?_⟩
  · have hcontents := (Gives.of_yields hpassable
      (contents_yields hkind haddress hbucket)).result_eq hanswers
    rw [hlisted] at hcontents
    cases hcontents
    have hholds := (Bucket.mem_children_iff.1 hname).2
    rw [Key.below_eq (List.cons_ne_nil _ _)] at hne ⊢
    rcases hholds with hobject | hcontinues
    · exact Or.inr ⟨hne, hobject⟩
    · exact Or.inl (Or.inr hcontinues)
  · have hinfers := infers hkind hchild hbucket
    have hdirectory : objects.IsDirectory (Key.below key [name]) ↔
        objects.Continues (Key.below key [name]) := or_iff_right hne
    refine ⟨?_, hinfers.isPresent.result_eq hanswers, fun hpassable => ?_⟩
    · rw [hinfers.isDirectory.result_eq hanswers, decide_eq_decide.2 hdirectory]
    · obtain ⟨cause, hread⟩ := readBytes_gives hkind hchild hbucket hne hpassable
      exact ⟨cause, hread.result_eq hanswers⟩

/-- A bucket in which one name is both that of an object and that of a directory. -/
def twofoldBucket : Bucket :=
  [("res/A".toList, ⟨⟨#[49]⟩, Object.usualMoment⟩),
    ("res/A/x".toList, ⟨⟨#[50]⟩, Object.usualMoment⟩)]

/-- Both are found behind an endpoint and an open end. -/
theorem listed_child_addressed_endpoint :
    Path.join ["s3://localhost:9000/b//res/".toList, "A".toList] =
        "s3://localhost:9000/b//res/A".toList ∧
      addressOf .s3 "s3://localhost:9000/b//res/A".toList =
        .ok ("b".toList, "res/A".toList) ∧
      (isDirectory .s3 "s3://localhost:9000/b//res/A".toList).result
        (.storing .s3 "b".toList twofoldBucket) = .ok true ∧
      (readBytes .s3 "s3://localhost:9000/b//res/A".toList).result
        (.storing .s3 "b".toList twofoldBucket) = .ok ⟨#[49]⟩ := by
  let path := "s3://localhost:9000/b//res/".toList
  have hkind : Kind.s3 ≠ .disk := by decide
  have haddress : addressOf .s3 path = .ok ("b".toList, "res".toList) := rfl
  have hadmits : Admits .s3 path "A".toList := by
    constructor
    · intro url _
      decide
    · intro _
      decide
  have hlisted : (contents .s3 path).result (.storing .s3 "b".toList twofoldBucket) =
      .ok (twofoldBucket.children "res".toList) :=
    (Gives.of_yields (Site.passable_storing _)
      (contents_yields hkind haddress Site.bucket?_storing)).result_eq Site.answers_storing
  have hname : "A".toList ∈ twofoldBucket.children "res".toList :=
    Bucket.mem_children_iff.2 ⟨by decide, Or.inl (by decide)⟩
  obtain ⟨hchild, -, hlater⟩ :=
    listed_child_addressed hkind haddress hlisted hname hadmits
  obtain ⟨hdirectory, -, hread⟩ := hlater _ _ Site.bucket?_storing Site.answers_storing
  obtain ⟨cause, hread⟩ := hread (Site.passable_storing _)
  have hjoin : Path.join [path, "A".toList] = "s3://localhost:9000/b//res/A".toList := by decide
  rw [hjoin] at hchild hdirectory hread
  exact ⟨hjoin, hchild, hdirectory, hread⟩

/--
A query ends a path, so a name that is joined behind it is lost: the object that was listed is not
addressed, and what is addressed is the container.
-/
theorem listed_child_lost_behind_query :
    ∃ names, (contents .azure "as://h/c?v".toList).result
          (.storing .azure "c".toList [("x".toList, ⟨⟨#[49]⟩, Object.usualMoment⟩)]) = .ok names ∧
      "x".toList ∈ names ∧
      addressOf .azure "as://h/c?v".toList = .ok ("c".toList, []) ∧
      addressOf .azure (Path.join ["as://h/c?v".toList, "x".toList]) ≠
        .ok ("c".toList, Key.below [] ["x".toList]) ∧
      (isDirectory .azure (Path.join ["as://h/c?v".toList, "x".toList])).result
          (.storing .azure "c".toList [("x".toList, ⟨⟨#[49]⟩, Object.usualMoment⟩)]) = .ok true := by
  have hkind : Kind.azure ≠ .disk := by decide
  have haddress : addressOf .azure "as://h/c?v".toList = .ok ("c".toList, []) := rfl
  have hjoined : addressOf .azure (Path.join ["as://h/c?v".toList, "x".toList]) =
      .ok ("c".toList, []) := rfl
  refine ⟨_, (Gives.of_yields (Site.passable_storing _)
    (contents_yields hkind haddress Site.bucket?_storing)).result_eq Site.answers_storing,
    ?_, haddress, ?_, ?_⟩
  · exact Bucket.mem_children_iff.2 ⟨by decide, Or.inl (by decide)⟩
  · rw [hjoined]
    nofun
  · exact (infers hkind hjoined Site.bucket?_storing).isDirectory.result_eq Site.answers_storing

end Backend

end ArtifactDepot
