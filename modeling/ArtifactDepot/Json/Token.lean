import ArtifactDepot.Json.Quote

/-!
# JSON tokens

A document is cut into tokens from left to right.  Cutting never fails: where
no token can be formed the list ends in `bad`, so a reader that stops earlier
for a reason of its own reports that reason.
-/

namespace ArtifactDepot.Json

/-- A lexical unit of a document. -/
inductive Token where
  | openList
  | closeList
  | openRecord
  | closeRecord
  | comma
  | colon
  | text (value : Text)
  /-- A literal or a number. -/
  | atom (value : Json)
  /-- A whole number with more digits than are accepted. -/
  | longNumber
  /-- Here the text forms no token. -/
  | bad

/-- White space between tokens. -/
def isGap (c : Char) : Bool := c = ' ' || c = '\t' || c = '\n' || c = '\r'

/-- The words that stand for values. -/
def literals : List (Text × Json) :=
  [(['n', 'u', 'l', 'l'], .null), (['t', 'r', 'u', 'e'], .truth true),
    (['f', 'a', 'l', 's', 'e'], .truth false), (['N', 'a', 'N'], .notFinite),
    (['I', 'n', 'f', 'i', 'n', 'i', 't', 'y'], .notFinite),
    (['-', 'I', 'n', 'f', 'i', 'n', 'i', 't', 'y'], .notFinite)]

/-- A literal at the front of the text. -/
def cutLiteral? (input : Text) : Cut Token :=
  literals.findSome? (fun entry =>
    (Text.afterPrefix? entry.1 input).map (fun rest => (Token.atom entry.2, rest)))

/-- A number as a token. -/
def Token.ofNumeral : Numeral → Token
  | .value number => .atom number
  | .tooLong => .longNumber

/-- A number with its sign. -/
def cutSigned? : Text → Cut Numeral
  | '-' :: rest => cutNumber? true rest
  | input => cutNumber? false input

/-- A literal or a number at the front of the text. -/
def cutAtom? (input : Text) : Cut Token :=
  match cutLiteral? input with
  | some cut => some cut
  | none => (cutSigned? input).map (fun cut => (Token.ofNumeral cut.1, cut.2))

/-- One token at the front of a text that starts with no gap. -/
def cutToken? : Text → Cut Token
  | [] => none
  | c :: rest =>
      if c = '[' then some (.openList, rest)
      else if c = ']' then some (.closeList, rest)
      else if c = '\x7b' then some (.openRecord, rest)
      else if c = '\x7d' then some (.closeRecord, rest)
      else if c = ',' then some (.comma, rest)
      else if c = ':' then some (.colon, rest)
      else if c = '"' then (cutString? rest).map (fun cut => (.text cut.1, cut.2))
      else cutAtom? (c :: rest)

theorem cutString?_length {input rest value : Text}
    (h : cutString? input = some (value, rest)) : rest.length ≤ input.length := by
  fun_induction cutString? input generalizing value with
  | case1 input _ =>
      have hrest := (Prod.mk.inj (Option.some.inj h)).2
      simp [← hrest]
  | case2 => simp at h
  | case3 input _ c more hcut ih =>
      have hshort := cutStringChar?_length hcut
      cases hmore : cutString? more with
      | none => simp [hmore] at h
      | some cut =>
          simp only [hmore, Option.map_some, Option.some.injEq, Prod.mk.injEq] at h
          have := @ih cut.1 (by rw [hmore, ← h.2])
          omega

theorem cutLiteral?_length {input rest : Text} {token : Token}
    (h : cutLiteral? input = some (token, rest)) : rest.length < input.length := by
  obtain ⟨entry, hmem, hentry⟩ := List.exists_of_findSome?_eq_some h
  cases hafter : Text.afterPrefix? entry.1 input with
  | none => simp [hafter] at hentry
  | some rest' =>
      simp only [hafter, Option.map_some, Option.some.injEq, Prod.mk.injEq] at hentry
      have hsplit := Text.afterPrefix?_eq_some_iff.1 hafter
      have hlength : 0 < entry.1.length := by
        simp only [literals, List.mem_cons, List.not_mem_nil, or_false] at hmem
        rcases hmem with rfl | rfl | rfl | rfl | rfl | rfl <;> simp
      rw [hsplit, ← hentry.2]
      simp [hlength]

theorem cutSigned?_length {input rest : Text} {numeral : Numeral}
    (h : cutSigned? input = some (numeral, rest)) : rest.length < input.length := by
  unfold cutSigned? at h
  split at h
  · have := cutNumber?_length h
    simp only [List.length_cons]
    omega
  · exact cutNumber?_length h

theorem cutAtom?_length {input rest : Text} {token : Token}
    (h : cutAtom? input = some (token, rest)) : rest.length < input.length := by
  unfold cutAtom? at h
  split at h
  · next cut hcut =>
      cases h
      exact cutLiteral?_length hcut
  · cases hcut : cutSigned? input with
    | none => simp [hcut] at h
    | some cut =>
        simp only [hcut, Option.map_some, Option.some.injEq, Prod.mk.injEq] at h
        rw [← h.2]
        exact cutSigned?_length hcut

/-- A token takes at least one character. -/
theorem cutToken?_length {input rest : Text} {token : Token}
    (h : cutToken? input = some (token, rest)) : rest.length < input.length := by
  cases input with
  | nil => simp [cutToken?] at h
  | cons c more =>
      simp only [cutToken?] at h
      iterate 6
        split at h
        · cases h; simp
      split at h
      · cases hcut : cutString? more with
        | none => simp [hcut] at h
        | some cut =>
            simp only [hcut, Option.map_some, Option.some.injEq, Prod.mk.injEq] at h
            have : cut.2.length ≤ more.length := cutString?_length hcut
            simp only [List.length_cons, ← h.2]; omega
      · exact cutAtom?_length h

/-- The tokens of a text. -/
def tokens (input : Text) : List Token :=
  match input with
  | [] => []
  | c :: rest =>
      if isGap c then tokens rest
      else
        match _hcut : cutToken? (c :: rest) with
        | none => [.bad]
        | some (token, rest') => token :: tokens rest'
  termination_by input.length
  decreasing_by
    · simp
    · exact cutToken?_length _hcut

end ArtifactDepot.Json
