import ArtifactDepot.Failure.Fault

/-!
# Choice of a kind

Which kind of backend serves a path, and whether this installation has the
client that the kind needs.  The empty path is served by none.
-/

namespace ArtifactDepot.Kind

/-- The kind that serves a path; the empty path is refused. -/
def ofPath (path : Text) : Except Fault Kind :=
  match ofPath? path with
  | some kind => .ok kind
  | none => .error .emptyPath

/-- The local disk can always be used, another kind if its client is installed. -/
def isUsable (installed : List Kind) (kind : Kind) : Bool :=
  kind == .disk || installed.contains kind

/-- Refuse a kind that cannot be used. -/
def demand (installed : List Kind) (kind : Kind) : Except Fault Unit :=
  if isUsable installed kind then .ok () else .error (.clientMissing kind)

/-- The kind that serves a path, if it can be used. -/
def choose (installed : List Kind) (path : Text) : Except Fault Kind := do
  let kind ← ofPath path
  demand installed kind
  return kind

/-- Only the empty path has no kind. -/
theorem ofPath_eq_error_iff {path : Text} {fault : Fault} :
    ofPath path = .error fault ↔ path = [] ∧ fault = .emptyPath := by
  unfold ofPath ofPath?
  cases path with
  | nil =>
      constructor
      · intro h
        cases h
        exact ⟨rfl, rfl⟩
      · rintro ⟨-, rfl⟩
        rfl
  | cons c rest =>
      constructor
      · intro h
        cases h
      · rintro ⟨h, -⟩
        cases h

end ArtifactDepot.Kind
