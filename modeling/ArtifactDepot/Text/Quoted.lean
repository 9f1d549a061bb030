import ArtifactDepot.Text.Printable
import ArtifactDepot.Text.Halves

/-!
# Quoted text

The quoted form in which messages show a text.  The quote mark is a single
one unless the text holds a single and no double one; the mark in use, the
backslash and every unprintable code point are escaped.
-/

namespace ArtifactDepot.Text

/-- A number as hexadecimal digits, filled with zeros up to `width`. -/
def hexDigits (width n : Nat) : Text :=
  let digits := Nat.toDigits 16 n
  List.replicate (width - digits.length) '0' ++ digits

/-- The mark that delimits the quoted form. -/
def quoteMark (text : Text) : Char :=
  if text.contains '\'' && !text.contains '"' then '"' else '\''

/-- The written form of one code point between marks. -/
def escaped (mark c : Char) : Text :=
  if c = '\\' ∨ c = mark then ['\\', c]
  else if c = '\n' then ['\\', 'n']
  else if c = '\r' then ['\\', 'r']
  else if c = '\t' then ['\\', 't']
  else if isHalf c then '\\' :: 'u' :: hexDigits 4 (halfUnit c)
  else if isPrintable c then [c]
  else if c.toNat ≤ 0xff then '\\' :: 'x' :: hexDigits 2 c.toNat
  else if c.toNat ≤ 0xffff then '\\' :: 'u' :: hexDigits 4 c.toNat
  else '\\' :: 'U' :: hexDigits 8 c.toNat

/-- The text between quote marks. -/
def quoted (text : Text) : Text :=
  let mark := quoteMark text
  mark :: text.flatMap (escaped mark) ++ [mark]

end ArtifactDepot.Text
