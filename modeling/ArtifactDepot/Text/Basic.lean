/-!
# Text

Paths, object keys and names are finite sequences of code points.  Length,
prefixes and order are all by code point, so text is modelled as the list of
its characters and every operation below is by recursion on that list.
-/

namespace ArtifactDepot

/-- A path, a key or a name: the sequence of its code points. -/
abbrev Text := List Char

namespace Text

/-- The text as it stands inside a message. -/
def string (text : Text) : String := String.ofList text

/-- The number of bytes that the text takes in UTF-8. -/
def byteLength (text : Text) : Nat :=
  text.foldl (fun total c => total + c.utf8Size) 0

/-! ## Searching -/

/-- Does `needle` occur somewhere in the text? -/
def occurs (needle : Text) : Text → Bool
  | [] => needle.isEmpty
  | c :: rest => needle.isPrefixOf (c :: rest) || occurs needle rest

/-- What follows the first occurrence of `needle`, if there is one. -/
def afterFirst? (needle : Text) : Text → Option Text
  | [] => if needle.isEmpty then some [] else none
  | c :: rest =>
      if needle.isPrefixOf (c :: rest) then
        some ((c :: rest).drop needle.length)
      else
        afterFirst? needle rest

/-- What follows `needle`, if the text starts with it. -/
def afterPrefix? (needle text : Text) : Option Text :=
  if needle.isPrefixOf text then some (text.drop needle.length) else none

/-- The text without a leading `needle`; other text is left alone. -/
def withoutPrefix (needle text : Text) : Text :=
  (afterPrefix? needle text).getD text

/-- A needle occurs exactly in the texts that hold it in one piece. -/
theorem occurs_iff_infix {needle text : Text} : occurs needle text = true ↔ needle <:+: text := by
  induction text with
  | nil => simp [occurs]
  | cons c rest ih =>
      simp only [occurs, Bool.or_eq_true, ih, List.isPrefixOf_iff_prefix]
      exact List.infix_cons_iff.symm

/-- Stripping succeeds exactly on the texts that the needle starts. -/
theorem afterPrefix?_eq_some_iff {needle text rest : Text} :
    afterPrefix? needle text = some rest ↔ text = needle ++ rest := by
  constructor
  · intro h
    by_cases hp : needle.isPrefixOf text = true
    · obtain ⟨tail, rfl⟩ := List.isPrefixOf_iff_prefix.1 hp
      simpa [afterPrefix?] using h
    · simp [afterPrefix?, hp] at h
  · rintro rfl
    simp [afterPrefix?]

/-- Stripping a prefix that is there leaves what follows it. -/
@[simp] theorem withoutPrefix_append (needle rest : Text) :
    withoutPrefix needle (needle ++ rest) = rest := by
  simp [withoutPrefix, afterPrefix?]

/-! ## Trimming -/

/-- The text without its trailing copies of `mark`. -/
def trimEnd (mark : Char) (text : Text) : Text :=
  (text.reverse.dropWhile (· == mark)).reverse

/-- The text without its leading copies of `mark`. -/
def trimStart (mark : Char) (text : Text) : Text :=
  text.dropWhile (· == mark)

/-- The text without its outer copies of `mark`. -/
def trim (mark : Char) (text : Text) : Text :=
  trimEnd mark (trimStart mark text)

/-- A blank is a code point that Unicode classes as white space. -/
def isBlank (c : Char) : Bool :=
  let n := c.toNat
  (9 ≤ n && n ≤ 13) || (28 ≤ n && n ≤ 32) || n == 0x85 || n == 0xa0 || n == 0x1680 ||
    (0x2000 ≤ n && n ≤ 0x200a) || n == 0x2028 || n == 0x2029 || n == 0x202f ||
    n == 0x205f || n == 0x3000

/-- The text without outer blanks. -/
def stripBlanks (text : Text) : Text :=
  ((text.dropWhile isBlank).reverse.dropWhile isBlank).reverse

/-! ## Order -/

/-- Code-point order, ties included. -/
def atMost (left right : Text) : Bool := decide (¬ right < left)

/-- The texts in code-point order; equal texts keep their places. -/
def sort (texts : List Text) : List Text := texts.mergeSort atMost

end Text

end ArtifactDepot
