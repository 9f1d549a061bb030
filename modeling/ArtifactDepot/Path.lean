import ArtifactDepot.Text.Components

/-!
# Paths

Paths of every storage kind, local or with a scheme, are joined and taken
apart by the same rules.  The separator is a slash, and a path that starts
with one is absolute.
-/

namespace ArtifactDepot.Path

open Text (slash)

/-- An absolute path starts at the root. -/
def isAbsolute (path : Text) : Bool := [slash].isPrefixOf path

/-- Does the path end in a separator? -/
def endsOpen (path : Text) : Bool := [slash].isSuffixOf path

/--
The path with exactly one trailing separator.  A scheme root such as
`s3://` keeps the separators that it has.
-/
def opened (path : Text) : Text :=
  let trimmed := Text.trimEnd slash path
  if trimmed.isEmpty then [slash]
  else if [':'].isSuffixOf trimmed then path
  else trimmed ++ [slash]

/--
Continue a path by a segment.  An empty segment adds nothing, and an absolute
one discards what came before it.
-/
def extend (path segment : Text) : Text :=
  if segment.isEmpty then path
  else if path.isEmpty || isAbsolute segment then segment
  else if endsOpen path then opened path ++ segment
  else path ++ slash :: segment

/-- Join segments from left to right, starting from the empty path. -/
def join (segments : List Text) : Text := segments.foldl extend []

/-- The last component, trailing separators ignored; the root has none. -/
def baseName (path : Text) : Text :=
  (Text.components (Text.trimEnd slash path)).getLastD []

/--
What precedes the last component: `.` for a bare name, the root for the root
and for its direct children.  The empty path is its own parent.
-/
def parent (path : Text) : Text :=
  if path.isEmpty then path
  else
    let trimmed := Text.trimEnd slash path
    if trimmed.isEmpty then [slash]
    else
      match (Text.components trimmed).dropLast with
      | [] => ['.']
      | above =>
          let joined := Text.join above
          if joined.isEmpty then [slash] else joined

/-- The path as seen from `root`, if it lies at or under it. -/
def relative? (path root : Text) : Option Text :=
  let base := Text.trimEnd slash root
  if path = base then some []
  else (Text.afterPrefix? (base ++ [slash]) path).map (Text.trimStart slash)

/-- Joining nothing gives the empty path. -/
@[simp] theorem join_nil : join [] = [] := rfl

/-- Joining one segment gives that segment. -/
@[simp] theorem join_singleton (segment : Text) : join [segment] = segment := by
  cases segment <;> simp [join, extend]

/-- Segments are joined one after the other. -/
theorem join_append_singleton (segments : List Text) (last : Text) :
    join (segments ++ [last]) = extend (join segments) last := by
  simp [join]

end ArtifactDepot.Path
