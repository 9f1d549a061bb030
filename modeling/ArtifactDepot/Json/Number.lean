import ArtifactDepot.Json.Value

/-!
# JSON numbers

Numbers are cut off the front of a text as far as they reach: a whole part
without leading zeros, then a fraction and an exponent where digits follow.
Whole numbers of very many digits are refused.
-/

namespace ArtifactDepot.Json

/-- What was read at the front of a text, and the text that remains. -/
abbrev Cut (α : Type) := Option (α × Text)

/-- The most digits that a whole number may have. -/
def digitLimit : Nat := 4300

/-- The number that a row of decimal digits denotes. -/
def digitsValue (digits : Text) : Nat :=
  digits.foldl (fun total c => total * 10 + (c.toNat - '0'.toNat)) 0

/-- The longest row of digits at the front, and the rest. -/
def cutDigits (input : Text) : Text × Text :=
  (input.takeWhile Char.isDigit, input.dropWhile Char.isDigit)

/-- The whole part of a number: a zero alone, or digits that start with none. -/
def cutWhole? : Text → Cut Text
  | [] => none
  | c :: rest =>
      if c = '0' then some (['0'], rest)
      else if c.isDigit then some (cutDigits (c :: rest))
      else none

/-- A point and at least one digit, if the text goes on so. -/
def cutFraction : Text → Text × Text
  | '.' :: rest =>
      match cutDigits rest with
      | ([], _) => ([], '.' :: rest)
      | (digits, rest') => (digits, rest')
  | input => ([], input)

/-- A sign, if there is one; is it negative? -/
def cutSign : Text → Bool × Text
  | '-' :: rest => (true, rest)
  | '+' :: rest => (false, rest)
  | input => (false, input)

/-- An exponent with at least one digit, if the text goes on so. -/
def cutExponent : Text → Option Int × Text
  | [] => (none, [])
  | e :: rest =>
      if e = 'e' ∨ e = 'E' then
        match cutDigits (cutSign rest).2 with
        | ([], _) => (none, e :: rest)
        | (digits, rest') =>
            let size : Int := digitsValue digits
            (some (if (cutSign rest).1 then -size else size), rest')
      else (none, e :: rest)

/-- A number as it is read. -/
inductive Numeral where
  | value (number : Json)
  /-- A whole number with more digits than are accepted. -/
  | tooLong

/-- A number without its sign. -/
def cutNumber? (negative : Bool) (input : Text) : Cut Numeral :=
  match cutWhole? input with
  | none => none
  | some (digits, rest) =>
      let (fraction, rest) := cutFraction rest
      let (exponent, rest) := cutExponent rest
      if fraction.isEmpty && exponent.isNone then
        if digitLimit < digits.length then some (.tooLong, rest)
        else
          let size : Int := digitsValue digits
          some (.value (.whole (if negative then -size else size)), rest)
      else
        let size : Int := digitsValue (digits ++ fraction)
        some (.value (.decimal (if negative then -size else size)
          (exponent.getD 0 - fraction.length)), rest)

theorem cutDigits_length (input : Text) : (cutDigits input).2.length ≤ input.length := by
  simpa [cutDigits] using (@List.dropWhile_suffix _ input Char.isDigit).length_le

theorem cutWhole?_length {input digits rest : Text} (h : cutWhole? input = some (digits, rest)) :
    rest.length < input.length := by
  cases input with
  | nil => simp [cutWhole?] at h
  | cons c more =>
      simp only [cutWhole?] at h
      split at h
      · have hrest := (Prod.mk.inj (Option.some.inj h)).2
        simp [← hrest]
      · split at h
        · next hdigit =>
            have hrest := (Prod.mk.inj (Option.some.inj h)).2
            rw [← hrest]
            simp only [List.dropWhile_cons, hdigit, if_true, List.length_cons]
            exact Nat.lt_succ_of_le (cutDigits_length more)
        · simp at h

theorem cutFraction_length (input : Text) : (cutFraction input).2.length ≤ input.length := by
  unfold cutFraction
  split
  · next rest =>
      have hshort := cutDigits_length rest
      split
      · simp
      · next hcut => simp [hcut] at hshort; simp; omega
  · simp

theorem cutSign_length (input : Text) : (cutSign input).2.length ≤ input.length := by
  unfold cutSign
  split <;> simp

theorem cutExponent_length (input : Text) : (cutExponent input).2.length ≤ input.length := by
  cases input with
  | nil => simp [cutExponent]
  | cons e rest =>
      simp only [cutExponent]
      split
      · have hsign := cutSign_length rest
        have hshort := cutDigits_length (cutSign rest).2
        split
        · simp
        · next hcut => simp [hcut] at hshort; simp; omega
      · simp

/-- A number takes at least one character. -/
theorem cutNumber?_length {negative : Bool} {input rest : Text} {numeral : Numeral}
    (h : cutNumber? negative input = some (numeral, rest)) : rest.length < input.length := by
  unfold cutNumber? at h
  split at h
  · simp at h
  · next digits rest₁ hwhole =>
      have hshort := cutWhole?_length hwhole
      have hfraction := cutFraction_length rest₁
      have hexponent := cutExponent_length (cutFraction rest₁).2
      have hrest : (cutExponent (cutFraction rest₁).2).2 = rest := by
        revert h
        simp only
        split
        · split <;> intro h <;> exact (Prod.mk.inj (Option.some.inj h)).2
        · intro h; exact (Prod.mk.inj (Option.some.inj h)).2
      rw [← hrest]
      omega

end ArtifactDepot.Json
