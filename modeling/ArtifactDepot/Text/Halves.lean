import ArtifactDepot.Text.Basic

/-!
# Halves of pairs

A text may hold code points that have no encoding: the halves of the pairs by
which UTF-16 writes code points behind the first plane.  They come from escapes
in documents, and from names of files whose bytes are not UTF-8.  A character
is never such a half, so code points of the last plane, which is for private
use, stand for them.
-/

namespace ArtifactDepot.Text

/-- The code point that stands for a half. -/
def half (unit : Nat) : Char := Char.ofNat (0x100000 + unit)

/-- Does the code point stand for a half? -/
def isHalf (c : Char) : Bool := 0x10d800 ≤ c.toNat && c.toNat ≤ 0x10dfff

/-- The half that a code point stands for. -/
def halfUnit (c : Char) : Nat := c.toNat - 0x100000

/-- Why a text has no encoding, in the words of the encoder: a half, or some in a row, are told
with their positions. -/
def encodingFlaw? (text : Text) : Option String :=
  match text.dropWhile (!isHalf ·) with
  | [] => none
  | first :: rest =>
      let position := text.length - rest.length - 1
      let others := (rest.takeWhile isHalf).length
      let whole :=
        if others = 0 then
          " '\\u" ++ String.ofList (Nat.toDigits 16 (halfUnit first)) ++ "' in position " ++
            toString position
        else "s in position " ++ toString position ++ "-" ++ toString (position + others)
      some ("'utf-8' codec can't encode character" ++ whole ++ ": surrogates not allowed")

theorem toNat_ofNat {n : Nat} (h : n.isValidChar) : (Char.ofNat n).toNat = n := by
  rw [Char.ofNat, dif_pos h]
  rfl

/-- Halves are kept apart. -/
theorem halfUnit_half {unit : Nat} (h : unit ≤ 0xdfff) : halfUnit (half unit) = unit := by
  have hvalid : (0x100000 + unit).isValidChar := by
    unfold Nat.isValidChar
    omega
  have hcode := toNat_ofNat hvalid
  unfold halfUnit half
  omega

/-- All texts without halves have an encoding. -/
theorem encodingFlaw?_eq_none_iff {text : Text} :
    encodingFlaw? text = none ↔ ∀ c ∈ text, isHalf c = false := by
  have hnone : text.dropWhile (!isHalf ·) = [] ↔ ∀ c ∈ text, isHalf c = false := by
    induction text with
    | nil => simp
    | cons c text ih => cases hc : isHalf c <;> simp [hc, ih]
  rw [← hnone]
  unfold encodingFlaw?
  split
  · next hnil => simp [hnil]
  · next hcons => simp [hcons]

end ArtifactDepot.Text
