import ArtifactDepot.Json.Number
import ArtifactDepot.Text.Halves

/-!
# JSON strings

The body of a string, from behind its opening mark to its closing one.
Control characters must be escaped, and a pair of escaped units stands for
one code point.
-/

namespace ArtifactDepot.Json

/-- The value of a hexadecimal digit. -/
def hexValue? (c : Char) : Option Nat :=
  if c.isDigit then some (c.toNat - '0'.toNat)
  else if 'a' ≤ c ∧ c ≤ 'f' then some (c.toNat - 'a'.toNat + 10)
  else if 'A' ≤ c ∧ c ≤ 'F' then some (c.toNat - 'A'.toNat + 10)
  else none

/-- Four hexadecimal digits. -/
def cutUnit? : Text → Cut Nat
  | a :: b :: c :: d :: rest =>
      match hexValue? a, hexValue? b, hexValue? c, hexValue? d with
      | some a, some b, some c, some d => some (((a * 16 + b) * 16 + c) * 16 + d, rest)
      | _, _, _, _ => none
  | _ => none

/-- The code point of a unit that stands alone, be it half of a pair. -/
def unitChar (n : Nat) : Char :=
  if 0xd800 ≤ n ∧ n ≤ 0xdfff then Text.half n else Char.ofNat n

/-- What follows the backslash and the `u`: a unit, or two that form a pair. -/
def cutCodePoint? (input : Text) : Cut Char :=
  match cutUnit? input with
  | none => none
  | some (high, rest) =>
      if 0xd800 ≤ high ∧ high ≤ 0xdbff then
        match rest with
        | '\\' :: 'u' :: more =>
            match cutUnit? more with
            | none => none
            | some (low, rest') =>
                if 0xdc00 ≤ low ∧ low ≤ 0xdfff then
                  some (Char.ofNat (0x10000 + (high - 0xd800) * 0x400 + (low - 0xdc00)), rest')
                else some (unitChar high, rest)
        | _ => some (unitChar high, rest)
      else some (unitChar high, rest)

/-- The character that a one-letter escape stands for. -/
def escape? : Char → Option Char
  | '"' => some '"'
  | '\\' => some '\\'
  | '/' => some '/'
  | 'b' => some (Char.ofNat 8)
  | 'f' => some (Char.ofNat 12)
  | 'n' => some '\n'
  | 'r' => some '\r'
  | 't' => some '\t'
  | _ => none

theorem cutUnit?_length {input rest : Text} {n : Nat} (h : cutUnit? input = some (n, rest)) :
    rest.length < input.length := by
  unfold cutUnit? at h
  split at h
  · split at h
    · cases h; simp; omega
    · simp at h
  · simp at h

theorem cutCodePoint?_length {input rest : Text} {c : Char}
    (h : cutCodePoint? input = some (c, rest)) : rest.length < input.length := by
  unfold cutCodePoint? at h
  split at h
  · simp at h
  · next high rest₁ hhigh =>
      have hshort := cutUnit?_length hhigh
      split at h
      · split at h
        · next more =>
            split at h
            · simp at h
            · next low rest₂ hlow =>
                have hshort' := cutUnit?_length hlow
                simp only [List.length_cons] at hshort
                split at h
                · have hrest := (Prod.mk.inj (Option.some.inj h)).2
                  rw [← hrest]
                  omega
                · have hrest := (Prod.mk.inj (Option.some.inj h)).2
                  rw [← hrest]
                  simp only [List.length_cons]
                  omega
        · have hrest := (Prod.mk.inj (Option.some.inj h)).2
          rw [← hrest]
          exact hshort
      · have hrest := (Prod.mk.inj (Option.some.inj h)).2
        rw [← hrest]
        exact hshort

/-- The character that an escape after a backslash stands for. -/
def cutEscape? : Text → Cut Char
  | [] => none
  | c :: rest =>
      if c = 'u' then cutCodePoint? rest
      else (escape? c).map (fun value => (value, rest))

theorem cutEscape?_length {input rest : Text} {c : Char}
    (h : cutEscape? input = some (c, rest)) : rest.length < input.length := by
  cases input with
  | nil => simp [cutEscape?] at h
  | cons d more =>
      simp only [cutEscape?] at h
      split at h
      · have := cutCodePoint?_length h
        simp only [List.length_cons]; omega
      · cases hescape : escape? d with
        | none => simp [hescape] at h
        | some value =>
            simp only [hescape, Option.map_some, Option.some.injEq, Prod.mk.injEq] at h
            simp [← h.2]

/-- One character of a string body, escaped or plain; control characters are refused. -/
def cutStringChar? : Text → Cut Char
  | [] => none
  | c :: rest =>
      if c = '\\' then cutEscape? rest
      else if c.toNat < 32 then none
      else some (c, rest)

theorem cutStringChar?_length {input rest : Text} {c : Char}
    (h : cutStringChar? input = some (c, rest)) : rest.length < input.length := by
  cases input with
  | nil => simp [cutStringChar?] at h
  | cons d more =>
      simp only [cutStringChar?] at h
      split at h
      · have := cutEscape?_length h
        simp only [List.length_cons]; omega
      · split at h
        · simp at h
        · cases h; simp

/-- The body of a string after its opening mark, up to its closing one. -/
def cutString? (input : Text) : Cut Text :=
  if ['"'].isPrefixOf input then some ([], input.drop 1)
  else
    match _hcut : cutStringChar? input with
    | none => none
    | some (c, rest) => (cutString? rest).map (fun cut => (c :: cut.1, cut.2))
  termination_by input.length
  decreasing_by exact cutStringChar?_length _hcut

end ArtifactDepot.Json
