import ArtifactDepot.Json.Value
import ArtifactDepot.Text.Quoted

/-!
# JSON on one line

The written form of a value in ASCII, on one line, with a blank after every
comma and colon.  Recorded calls whose order is not defined are sorted by it.
-/

namespace ArtifactDepot.Json

/-- The escape of one sixteen-bit unit. -/
def unitEscape (n : Nat) : Text := '\\' :: 'u' :: Text.hexDigits 4 n

/-- One code point inside a JSON string.  Only the printable code points of ASCII stand for themselves. -/
def escaped (c : Char) : Text :=
  let n := c.toNat
  if c = '"' ∨ c = '\\' then ['\\', c]
  else if c = '\n' then ['\\', 'n']
  else if c = '\r' then ['\\', 'r']
  else if c = '\t' then ['\\', 't']
  else if n = 8 then ['\\', 'b']
  else if n = 12 then ['\\', 'f']
  else if 32 ≤ n ∧ n < 127 then [c]
  else if Text.isHalf c then unitEscape (Text.halfUnit c)
  else if n < 0x10000 then unitEscape n
  else unitEscape (0xd800 + (n - 0x10000) / 0x400) ++ unitEscape (0xdc00 + (n - 0x10000) % 0x400)

/-- A JSON string. -/
def textLine (value : Text) : Text := '"' :: value.flatMap escaped ++ ['"']

mutual

/-- A value on one line. -/
def line : Json → Text
  | .null => "null".toList
  | .truth true => "true".toList
  | .truth false => "false".toList
  | .whole value => (toString value).toList
  | .decimal mantissa exponent => (toString mantissa ++ "e" ++ toString exponent).toList
  | .notFinite => "NaN".toList
  | .text value => textLine value
  | .list items => '[' :: itemsLine items ++ [']']
  | .record members => '\x7b' :: membersLine members ++ ['\x7d']

/-- List items, separated. -/
def itemsLine : List Json → Text
  | [] => []
  | [only] => line only
  | first :: second :: others => line first ++ [',', ' '] ++ itemsLine (second :: others)

/-- Record members, separated. -/
def membersLine : List (Text × Json) → Text
  | [] => []
  | [(name, value)] => textLine name ++ [':', ' '] ++ line value
  | (name, value) :: second :: others =>
      textLine name ++ [':', ' '] ++ line value ++ [',', ' '] ++ membersLine (second :: others)

end

end ArtifactDepot.Json
