import ArtifactDepot.Proofs.Address

/-!
# Paths that spell out an endpoint

A path that spells out a host, a number, a bucket and the names of a key is
read as an endpoint exactly if the key is written in the few characters that
are allowed there.  Any other character changes what the whole path means:
host and number are then taken for the bucket, and the rest for its key.
-/

namespace ArtifactDepot.S3

open Text (slash)

namespace Endpoint

/-- A text that is not empty and passes a test everywhere. -/
def Passes (test : Char → Bool) (text : Text) : Prop := text ≠ [] ∧ ∀ c ∈ text, test c = true

instance (test : Char → Bool) (text : Text) : Decidable (Passes test text) :=
  decidable_of_iff ((!text.isEmpty && text.all test) = true) (by simp [Passes])

/-- The parts of a path that spells out an endpoint; the names are those of the key. -/
structure Spelling where
  transport : Option Transport
  host : Text
  socket : Text
  bucket : Text
  names : List Text
  host_passes : Passes isHostChar host
  socket_passes : Passes Char.isDigit socket
  bucket_passes : Passes isBucketChar bucket
  names_solid : Text.Solid names

/-- Are names made of the characters that are allowed in the key behind an endpoint? -/
def Readable (names : List Text) : Prop := ∀ name ∈ names, ∀ c ∈ name, isKeyChar c = true

instance (names : List Text) : Decidable (Readable names) :=
  decidable_of_iff (names.all (·.all isKeyChar) = true) (by simp [Readable])

namespace Spelling

/-- The host with the number that it listens on. -/
def authority (spelling : Spelling) : Text := spelling.host ++ ':' :: spelling.socket

/-- The components of the path behind scheme and transport. -/
def parts (spelling : Spelling) : List Text :=
  spelling.authority :: spelling.bucket :: spelling.names

/-- The path, cut into its parts. -/
def cleaned (spelling : Spelling) : Cleaned := ⟨true, spelling.transport, spelling.parts⟩

/-- The path itself. -/
def path (spelling : Spelling) : Text := spelling.cleaned.path

/-- The endpoint that the path is meant to name. -/
def endpoint (spelling : Spelling) : Endpoint :=
  ⟨spelling.transport, spelling.host, spelling.socket, spelling.bucket, Text.join spelling.names⟩

/-- The address that the path is meant to name. -/
def address (spelling : Spelling) : Address := ⟨spelling.bucket, Text.join spelling.names⟩

/-- What the path is taken for where no endpoint is seen in it. -/
def misreading (spelling : Spelling) : Address :=
  match spelling.transport with
  | none => ⟨spelling.authority, Text.join (spelling.bucket :: spelling.names)⟩
  | some transport =>
      ⟨transport.scheme.takeWhile (· != slash), slash :: Text.join spelling.parts⟩

variable (spelling : Spelling)

/-- Neither a host nor a number holds a separator. -/
theorem authority_free : spelling.authority ≠ [] ∧ slash ∉ spelling.authority := by
  constructor
  · simp [authority]
  · intro hmem
    rcases List.mem_append.1 hmem with hhost | hsocket
    · exact absurd (spelling.host_passes.2 _ hhost) (by decide)
    · rcases List.mem_cons.1 hsocket with hcolon | hsocket
      · exact absurd hcolon (by decide)
      · exact absurd (spelling.socket_passes.2 _ hsocket) (by decide)

theorem bucket_free : spelling.bucket ≠ [] ∧ slash ∉ spelling.bucket :=
  ⟨spelling.bucket_passes.1, fun hmem => absurd (spelling.bucket_passes.2 _ hmem) (by decide)⟩

theorem parts_solid : Text.Solid spelling.parts :=
  (Text.Solid.singleton spelling.authority_free).append
    ((Text.Solid.singleton spelling.bucket_free).append spelling.names_solid)

end Spelling

/-! ## The grammar -/

/-- A front that passes a test is cut off where the test fails next. -/
theorem span?_append {test : Char → Bool} {front rest : Text} (hfront : Passes test front)
    (hrest : ∀ c ∈ rest.head?, test c = false) :
    span? test (front ++ rest) = some (front, rest) := by
  have hcut : rest.takeWhile test = [] ∧ rest.dropWhile test = rest := by
    cases rest with
    | nil => exact ⟨rfl, rfl⟩
    | cons c rest =>
        have hstop : test c = false := hrest c rfl
        exact ⟨List.takeWhile_cons_of_neg (by simp [hstop]),
          List.dropWhile_cons_of_neg (by simp [hstop])⟩
  rw [span?, List.takeWhile_append_of_pos hfront.2, List.dropWhile_append_of_pos hfront.2, hcut.1,
    hcut.2, List.append_nil, if_neg (by simpa using hfront.1)]

/-- Names behind a bucket are a key if they are readable. -/
theorem key?_names {names : List Text} (h : Text.Solid names) :
    key? (names.flatMap (slash :: ·)) =
      if Readable names then some (Text.join names) else none := by
  cases names with
  | nil => exact (if_pos (show Readable [] from nofun)).symm
  | cons name names =>
      have hcomponents : Text.components (Text.join (name :: names)) = name :: names :=
        Text.components_join (List.cons_ne_nil _ _) fun part hpart => (h part hpart).2
      have hall : (name :: names).all (fun part => !part.isEmpty && part.all isKeyChar) = true ↔
          Readable (name :: names) := by
        simp only [List.all_eq_true, Bool.and_eq_true, Readable]
        constructor
        · intro hparts part hpart
          exact (hparts part hpart).2
        · intro hreadable part hpart
          exact ⟨by simpa using (h part hpart).1, hreadable part hpart⟩
      rw [List.flatMap_cons, List.cons_append, ← Text.join_cons, key?, hcomponents]
      simp only [true_and, hall]

/-- A key behind an endpoint is a list of readable names. -/
theorem names_of_key? {rest key : Text} (h : key? rest = some key) :
    ∃ names, Text.Solid names ∧ Readable names ∧ rest = names.flatMap (slash :: ·) ∧
      key = Text.join names := by
  cases rest with
  | nil =>
      cases h
      exact ⟨[], .nil, nofun, rfl, rfl⟩
  | cons c rest =>
      simp only [key?] at h
      split at h
      · next hkey =>
          cases h
          obtain ⟨rfl, hall⟩ := hkey
          rw [List.all_eq_true] at hall
          obtain ⟨name, names, hcut⟩ := List.exists_cons_of_ne_nil (Text.components_ne_nil key)
          refine ⟨Text.components key, fun part hpart => ?_, fun part hpart => ?_, ?_,
            (Text.join_components key).symm⟩
          · have hpart' := hall part hpart
            simp only [Bool.and_eq_true, Bool.not_eq_true'] at hpart'
            exact ⟨by simpa using hpart'.1, Text.slash_not_mem_of_mem_components hpart⟩
          · have hpart' := hall part hpart
            rw [Bool.and_eq_true, List.all_eq_true] at hpart'
            exact hpart'.2
          · rw [hcut, List.flatMap_cons, List.cons_append, ← Text.join_cons, ← hcut,
              Text.join_components]
      · cases h

/-- Host, number and bucket are read as they are spelled, and the key if it is readable. -/
theorem ofAuthority?_parts (spelling : Spelling) :
    ofAuthority? spelling.transport (Text.join spelling.parts) =
      if Readable spelling.names then some spelling.endpoint else none := by
  have hparts : Text.join spelling.parts = spelling.host ++ ([':'] ++ (spelling.socket ++
      ([slash] ++ (spelling.bucket ++ spelling.names.flatMap (slash :: ·))))) := by
    simp [Spelling.parts, Spelling.authority, Text.join_cons]
  have hnames : ∀ c ∈ (spelling.names.flatMap (slash :: ·)).head?, isBucketChar c = false := by
    cases spelling.names with
    | nil => exact nofun
    | cons name names =>
        intro c hc
        cases hc
        decide
  have hhost (rest : Text) :
      span? isHostChar (spelling.host ++ ([':'] ++ rest)) = some (spelling.host, [':'] ++ rest) :=
    span?_append spelling.host_passes fun c hc => by cases hc; decide
  have hsocket (rest : Text) :
      span? Char.isDigit (spelling.socket ++ ([slash] ++ rest)) =
        some (spelling.socket, [slash] ++ rest) :=
    span?_append spelling.socket_passes fun c hc => by cases hc; decide
  have hbucket := span?_append spelling.bucket_passes hnames
  have hprefix (needle rest : Text) : Text.afterPrefix? needle (needle ++ rest) = some rest :=
    Text.afterPrefix?_eq_some_iff.2 rfl
  simp only [ofAuthority?, hparts, hhost, hsocket, hbucket, hprefix, Option.bind_eq_bind,
    Option.bind_some, key?_names spelling.names_solid]
  split
  · rfl
  · rfl

/-- What is read as an endpoint is spelled as one. -/
theorem spelling_of_ofAuthority? {transport : Option Transport} {input : Text}
    {endpoint : Endpoint} (h : ofAuthority? transport input = some endpoint) :
    ∃ spelling : Spelling, Readable spelling.names ∧ spelling.transport = transport ∧
      Text.join spelling.parts = input ∧ spelling.endpoint = endpoint := by
  simp only [ofAuthority?, Option.bind_eq_bind, Option.bind_eq_some_iff, Option.pure_def] at h
  obtain ⟨⟨host, rest⟩, hhost, rest', hcolon, ⟨socket, rest''⟩, hsocket, rest₃, hslash,
    ⟨bucket, rest₄⟩, hbucket, key, hkey, heq⟩ := h
  cases heq
  obtain ⟨hhostSome, hhostChars, rfl⟩ := span?_eq_some hhost
  obtain ⟨hsocketSome, hsocketChars, rfl⟩ := span?_eq_some hsocket
  obtain ⟨hbucketSome, hbucketChars, rfl⟩ := span?_eq_some hbucket
  rw [Text.afterPrefix?_eq_some_iff] at hcolon hslash
  obtain ⟨names, hsolid, hreadable, rfl, rfl⟩ := names_of_key? hkey
  refine ⟨⟨transport, host, socket, bucket, names, ⟨hhostSome, hhostChars⟩,
    ⟨hsocketSome, hsocketChars⟩, ⟨hbucketSome, hbucketChars⟩, hsolid⟩, hreadable, rfl, ?_, rfl⟩
  dsimp only at hcolon hslash
  rw [hcolon, hslash]
  simp [Spelling.parts, Spelling.authority, Text.join_cons]

/-- A transport is cut off where it is spelled, and only there. -/
theorem cutTransport_spelled (transport : Option Transport) {names : List Text}
    (h : Text.Solid names) :
    cutTransport ((transport.map Transport.scheme).getD [] ++ Text.join names) =
      (transport, Text.join names) := by
  cases transport with
  | none => exact cutTransport_join h
  | some transport =>
      cases transport with
      | plain => simp [cutTransport, Text.afterPrefix?]
      | secure => simp [cutTransport, Text.afterPrefix?, Transport.scheme, List.isPrefixOf]

/-- What is cut off is a transport. -/
theorem cutTransport_eq (input : Text) :
    (((cutTransport input).1.map Transport.scheme).getD []) ++ (cutTransport input).2 = input := by
  unfold cutTransport
  split
  · next hplain => exact (Text.afterPrefix?_eq_some_iff.1 hplain).symm
  · split
    · next hsecure => exact (Text.afterPrefix?_eq_some_iff.1 hsecure).symm
    · rfl

/-- A path with an endpoint is read back where its key is readable. -/
theorem ofPath?_path (spelling : Spelling) :
    ofPath? spelling.path = if Readable spelling.names then some spelling.endpoint else none := by
  have hpath : spelling.path = Kind.s3.scheme ++
      ((spelling.transport.map Transport.scheme).getD [] ++ Text.join spelling.parts) := by
    simp [Spelling.path, Spelling.cleaned, Cleaned.path]
  have hscheme : Text.afterPrefix? Kind.s3.scheme spelling.path =
      some ((spelling.transport.map Transport.scheme).getD [] ++ Text.join spelling.parts) :=
    Text.afterPrefix?_eq_some_iff.2 hpath
  rw [ofPath?, hscheme]
  simp only [Option.bind_eq_bind, Option.bind_some,
    cutTransport_spelled spelling.transport spelling.parts_solid, ofAuthority?_parts]

/-- Exactly the readable spellings are read as endpoints. -/
theorem ofPath?_eq_some_iff {path : Text} {endpoint : Endpoint} :
    ofPath? path = some endpoint ↔
      ∃ spelling : Spelling, Readable spelling.names ∧ spelling.path = path ∧
        spelling.endpoint = endpoint := by
  constructor
  · intro h
    simp only [ofPath?, Option.bind_eq_bind, Option.bind_eq_some_iff] at h
    obtain ⟨rest, hrest, hauthority⟩ := h
    obtain ⟨spelling, hreadable, htransport, hparts, hendpoint⟩ :=
      spelling_of_ofAuthority? hauthority
    refine ⟨spelling, hreadable, ?_, hendpoint⟩
    have hcut := cutTransport_eq rest
    rw [← htransport, ← hparts] at hcut
    rw [Text.afterPrefix?_eq_some_iff.1 hrest, ← hcut]
    simp [Spelling.path, Spelling.cleaned, Cleaned.path]
  · rintro ⟨spelling, hreadable, rfl, rfl⟩
    rw [ofPath?_path, if_pos hreadable]

end Endpoint

/-! ## Cleaning -/

/-- The first transport of a text that begins with one is that one. -/
theorem Transport.cut?_spelled (transport : Transport) {names : List Text}
    (h : Text.Solid names) :
    Transport.cut? (transport.scheme ++ Text.join names) = some (transport, Text.join names) := by
  cases transport with
  | secure =>
      rw [Transport.cut?, Text.afterFirst?_append (by decide)]
  | plain =>
      have habsent : Text.afterFirst? Transport.secure.scheme (Text.join names) = none := by
        refine Text.afterFirst?_eq_none (by decide) fun hwithin => ?_
        exact Text.join_no_double h (Transport.secure.double_scheme.trans hwithin)
      have hopen : [slash].isPrefixOf (Text.join names) = false := Text.join_not_open h
      rw [Transport.cut?, Text.afterFirst?_append (by decide)]
      have hsecure : Text.afterFirst? Transport.secure.scheme
          (Transport.plain.scheme ++ Text.join names) = none := by
        simp only [Transport.scheme, List.cons_append, List.nil_append] at habsent ⊢
        simp [Text.afterFirst?, List.isPrefixOf, habsent]
      rw [hsecure]
      rfl

/-- Joined names hold no scheme of S3, whichever transport stands in front of them. -/
theorem afterFirst?_scheme_spelled (transport : Option Transport) {names : List Text}
    (h : Text.Solid names) :
    Text.afterFirst? Kind.s3.scheme
      ((transport.map Transport.scheme).getD [] ++ Text.join names) = none := by
  have habsent : Text.afterFirst? Kind.s3.scheme (Text.join names) = none := by
    refine Text.afterFirst?_eq_none (by decide) fun hwithin => ?_
    have hdouble : [slash, slash] <:+: Kind.s3.scheme := ⟨"s3:".toList, [], by decide⟩
    exact Text.join_no_double h (hdouble.trans hwithin)
  simp only [Kind.scheme] at habsent ⊢
  cases transport with
  | none => exact habsent
  | some transport =>
      cases transport <;> simp [Transport.scheme, Text.afterFirst?, List.isPrefixOf, habsent]

/-- Cleaning leaves a text alone that is already in parts. -/
theorem Cleaned.ofPath_path {cleaned : Cleaned} (hne : cleaned.parts ≠ [])
    (hparts : Text.Solid cleaned.parts) : Cleaned.ofPath cleaned.path = .ok cleaned := by
  obtain ⟨hasScheme, transport, parts⟩ := cleaned
  dsimp only at hne hparts
  have hscheme : Text.afterFirst? Kind.s3.scheme (Cleaned.path ⟨hasScheme, transport, parts⟩) =
      if hasScheme then some ((transport.map Transport.scheme).getD [] ++ Text.join parts)
      else none := by
    rw [Cleaned.path, List.append_assoc]
    cases hasScheme with
    | true => exact Text.afterFirst?_append (by decide) _
    | false => exact afterFirst?_scheme_spelled transport hparts
  have hrest : (Text.afterFirst? Kind.s3.scheme (Cleaned.path ⟨hasScheme, transport, parts⟩)).getD
      (Cleaned.path ⟨hasScheme, transport, parts⟩) =
        (transport.map Transport.scheme).getD [] ++ Text.join parts := by
    rw [hscheme]
    cases hasScheme <;> rfl
  have hcut : Transport.cut? ((transport.map Transport.scheme).getD [] ++ Text.join parts) =
      transport.map (fun transport => (transport, Text.join parts)) := by
    cases transport with
    | none => exact Transport.cut?_join hparts
    | some transport => exact transport.cut?_spelled hparts
  have hne' : parts.isEmpty = false := by simpa using hne
  simp only [Cleaned.ofPath, hrest, hcut]
  rw [hscheme]
  cases transport <;> cases hasScheme <;> simp [Text.solidComponents_join hparts, hne']

/-- A spelled path is clean. -/
theorem clean_spelling (spelling : Endpoint.Spelling) :
    clean spelling.path = .ok spelling.path := by
  have hcleaned : Cleaned.ofPath spelling.path = .ok spelling.cleaned :=
    Cleaned.ofPath_path (List.cons_ne_nil _ _) spelling.parts_solid
  rw [clean, hcleaned]
  rfl

/-! ## What a path with an endpoint means -/

/-- Without an endpoint the authority or the transport of a spelled path is taken for its bucket. -/
theorem addressOf_spelling (spelling : Endpoint.Spelling) :
    addressOf (Kind.s3.strip spelling.path) = spelling.misreading := by
  have hpath : spelling.path = Kind.s3.scheme ++
      ((spelling.transport.map Transport.scheme).getD [] ++ Text.join spelling.parts) := by
    simp [Endpoint.Spelling.path, Endpoint.Spelling.cleaned, Cleaned.path]
  rw [hpath, Kind.strip_scheme_append, Endpoint.Spelling.misreading]
  cases htransport : spelling.transport with
  | none =>
      obtain ⟨htake, hdrop⟩ := Text.cut_join spelling.authority_free.2
        (spelling.bucket :: spelling.names)
      simp only [Option.map_none, Option.getD_none, List.nil_append, addressOf,
        Endpoint.Spelling.parts, htake, hdrop]
  | some transport =>
      cases transport <;> rfl

theorem misreading_bucket (spelling : Endpoint.Spelling) :
    spelling.misreading.bucket.isEmpty = false := by
  unfold Endpoint.Spelling.misreading
  cases spelling.transport with
  | none => simpa using spelling.authority_free.1
  | some transport => cases transport <;> rfl

/-- The address of a spelled path is the one that is meant if the key is readable. -/
theorem parse_spelling (spelling : Endpoint.Spelling) :
    parse spelling.path = .ok
      (if Endpoint.Readable spelling.names then spelling.address else spelling.misreading) := by
  have hbucket : spelling.bucket.isEmpty = false := by simpa using spelling.bucket_free.1
  simp only [parse, clean_spelling, bind, Except.bind, Endpoint.ofPath?_path]
  by_cases hreadable : Endpoint.Readable spelling.names
  · simp only [if_pos hreadable, Endpoint.Spelling.endpoint, hbucket, Bool.false_eq_true, if_false]
    rfl
  · simp only [if_neg hreadable, addressOf_spelling, misreading_bucket, Bool.false_eq_true,
      if_false]

/-- Requests are sent to the endpoint that is meant if the key is readable, and else to S3. -/
theorem endpointUrl_spelling (spelling : Endpoint.Spelling) :
    endpointUrl spelling.path = .ok
      (if Endpoint.Readable spelling.names then
        some ((spelling.transport.getD .plain).scheme ++ spelling.authority) else none) := by
  simp only [endpointUrl, clean_spelling, Except.map, Endpoint.ofPath?_path]
  by_cases hreadable : Endpoint.Readable spelling.names
  · simp [if_pos hreadable, Endpoint.url, Endpoint.Spelling.endpoint, Endpoint.Spelling.authority]
  · simp [if_neg hreadable]

/--
A path that spells out an endpoint names it, with its bucket and key, exactly if its key is
readable.  Otherwise requests go to S3 itself, with host and number, or the transport, in place
of the bucket.
-/
theorem spelled_endpoint_read_iff_readable (spelling : Endpoint.Spelling) :
    if Endpoint.Readable spelling.names then
      parse spelling.path = .ok ⟨spelling.bucket, Text.join spelling.names⟩ ∧
        endpointUrl spelling.path = .ok
          (some ((spelling.transport.getD .plain).scheme ++ spelling.host ++
            ':' :: spelling.socket))
    else
      parse spelling.path = .ok spelling.misreading ∧ endpointUrl spelling.path = .ok none := by
  rw [parse_spelling, endpointUrl_spelling]
  split
  · exact ⟨rfl, by simp [Endpoint.Spelling.authority]⟩
  · exact ⟨rfl, rfl⟩

/-- A path with a host and a number, and a key with a blank in it. -/
def Endpoint.Spelling.blank : Endpoint.Spelling where
  transport := none
  host := "localhost".toList
  socket := "9000".toList
  bucket := "models".toList
  names := ["a b".toList]
  host_passes := by decide
  socket_passes := by decide
  bucket_passes := by decide
  names_solid := by decide

/-- A blank in the key turns host and number into a bucket of S3 itself. -/
theorem spelled_endpoint_lost_to_blank :
    Endpoint.Spelling.blank.path = "s3://localhost:9000/models/a b".toList ∧
      ¬ Endpoint.Readable Endpoint.Spelling.blank.names ∧
      parse "s3://localhost:9000/models/a b".toList =
        .ok ⟨"localhost:9000".toList, "models/a b".toList⟩ ∧
      endpointUrl "s3://localhost:9000/models/a b".toList = .ok none := by
  have hpath : Endpoint.Spelling.blank.path = "s3://localhost:9000/models/a b".toList := by decide
  have hblank : ¬ Endpoint.Readable Endpoint.Spelling.blank.names := by decide
  have hread := spelled_endpoint_read_iff_readable Endpoint.Spelling.blank
  rw [if_neg hblank, hpath] at hread
  exact ⟨hpath, hblank, hread⟩

end ArtifactDepot.S3
