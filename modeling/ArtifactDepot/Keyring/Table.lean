import ArtifactDepot.Keyring.Record
import ArtifactDepot.Failure.Fault

/-!
# Tables of grants

A credential document has a section for each remote kind, whose members give
the path prefixes that a record applies to.  The table of a kind holds the
records of its section in match order: the longest prefix first, and equally
long ones in the order of the document.  The first match is then the most
specific one.
-/

namespace ArtifactDepot

/-- A credential and the start of the paths, without their scheme, that it is granted for. -/
structure Grant where
  scope : Text
  credential : Credential

namespace Grant

/-- A grant applies to the paths that its scope starts. -/
def applies (grant : Grant) (path : Text) : Bool := grant.scope.isPrefixOf path

/-- Longer scopes come first. -/
def precedes (left right : Grant) : Bool := right.scope.length ≤ left.scope.length

/-- The grants in match order. -/
def inMatchOrder (grants : List Grant) : List Grant := grants.mergeSort precedes

/-- The match order leaves no grant out and adds none. -/
theorem mem_inMatchOrder {grant : Grant} {grants : List Grant} :
    grant ∈ inMatchOrder grants ↔ grant ∈ grants := by
  simp [inMatchOrder, List.mem_mergeSort]

theorem precedes_trans (first second third : Grant) (h : precedes first second = true)
    (h' : precedes second third = true) : precedes first third = true := by
  simp only [precedes, decide_eq_true_eq] at h h' ⊢
  omega

theorem precedes_total (first second : Grant) :
    (precedes first second || precedes second first) = true := by
  simp only [precedes, Bool.or_eq_true, decide_eq_true_eq]
  omega

/-- In match order no scope is longer than one before it. -/
theorem inMatchOrder_pairwise (grants : List Grant) :
    (inMatchOrder grants).Pairwise (fun left right => right.scope.length ≤ left.scope.length) :=
  (List.pairwise_mergeSort precedes_trans precedes_total grants).imp
    (fun h => by simpa [precedes] using h)

end Grant

/-- The tables of all kinds.  The local disk needs no credentials, and its table is empty. -/
structure KeyTables where
  gcs : List Grant := []
  s3 : List Grant := []
  azure : List Grant := []

namespace KeyTables

/-- The table of a kind. -/
def of (tables : KeyTables) : Kind → List Grant
  | .disk => []
  | .gcs => tables.gcs
  | .s3 => tables.s3
  | .azure => tables.azure

/-- The most specific credential for a path, with or without its scheme. -/
def match? (tables : KeyTables) (kind : Kind) (path : Text) : Option Credential :=
  ((tables.of kind).find? (fun grant => grant.applies (kind.strip path))).map (·.credential)

/-! ## Reading documents -/

/-- One member of a section. -/
def readGrant (kind : Kind) (config chapter : Text) (member : Text × Json) :
    Except Fault Grant :=
  match Credential.ofJson kind member.2 with
  | .ok credential => .ok ⟨kind.strip member.1, credential⟩
  | .error complaints => .error (.invalidEntry chapter member.1 config complaints)

/-- The grants of a section in the order of the document; a missing section has none. -/
def readSection (kind : Kind) (config chapter : Text) (document : List (Text × Json)) :
    Except Fault (List Grant) :=
  match document.lookup chapter with
  | none | some .null => .ok []
  | some (.record members) => members.mapM (readGrant kind config chapter)
  | some _ => .error (.sectionNotRecord chapter config)

/-- The table of a kind, in match order. -/
def readTable (kind : Kind) (config : Text) (document : List (Text × Json)) :
    Except Fault (List Grant) :=
  match kind.section? with
  | none => .ok []
  | some chapter => (readSection kind config chapter document).map Grant.inMatchOrder

/-- The tables of a credential document. -/
def ofJson (config : Text) : Json → Except Fault KeyTables
  | .record document => do
      let gcs ← readTable .gcs config document
      let s3 ← readTable .s3 config document
      let azure ← readTable .azure config document
      return ⟨gcs, s3, azure⟩
  | _ => .error (.configNotRecord config)

end KeyTables

end ArtifactDepot
