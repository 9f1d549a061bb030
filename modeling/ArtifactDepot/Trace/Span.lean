import ArtifactDepot.Digest
import ArtifactDepot.Failure.Fault

/-!
# Spans

What tracing exports for one backend operation.  The path is exported as its
digest, if it has one.  An operation that fails leaves the class of its failure in the
attributes; the tracing library adds the failure itself, words and stack trace
included, as the status and as an event of the span.
-/

namespace ArtifactDepot

/-- The backend operations that are traced. -/
inductive Operation where
  | list
  | read
  | write
  | delete
  | localize
  deriving DecidableEq, Repr

/-- The span name of an operation. -/
def Operation.spanName : Operation → String
  | .list => "artifactfs.fs.list"
  | .read => "artifactfs.fs.read"
  | .write => "artifactfs.fs.write"
  | .delete => "artifactfs.fs.delete"
  | .localize => "artifactfs.fs.localize"

/-- The value of an attribute. -/
inductive AttributeValue where
  | words (value : String)
  | yes
  deriving DecidableEq, Repr

/-- An exception as the tracing library writes it down. -/
structure RaisedEvent where
  className : String
  words : String
  stackTrace : String
  deriving DecidableEq, Repr

/-- A finished span. -/
structure Span where
  name : String
  parent : Option String
  attributes : List (String × AttributeValue)
  /-- The description of the error status, if the operation failed. -/
  status : Option String
  events : List RaisedEvent
  deriving DecidableEq, Repr

namespace Span

/-- The digest by which a path that has an encoding is known in spans. -/
def pathDigest (path : Text) : String := Digest.hex (Digest.sha256 path.string.toUTF8.toList)

/-- The attributes that are set before the operation runs, as far as the path has a digest. -/
def openingAttributes (kind : Kind) (digest : Option String) : List (String × AttributeValue) :=
  ("artifactfs.backend", .words kind.label) ::
    digest.toList.map fun digest => ("artifactfs.path_sha256", .words digest)

/-- The attributes that a failure adds. -/
def failureAttributes (failure : Failure) : List (String × AttributeValue) :=
  [("error", .yes), ("error.type", .words failure.className)]

/-- The span of an operation that ended well. -/
def ofSuccess (operation : Operation) (kind : Kind) (digest parent : Option String) : Span :=
  ⟨operation.spanName, parent, openingAttributes kind digest, none, []⟩

/-- The span of an operation that failed.  Without a digest it failed before it could begin, and
then no attribute says so. -/
def ofFailure (operation : Operation) (kind : Kind) (digest parent : Option String)
    (failure : Failure) (stackTrace : String) : Span :=
  ⟨operation.spanName, parent,
    openingAttributes kind digest ++ if digest.isSome then failureAttributes failure else [],
    some failure.line, [⟨failure.className, failure.message, stackTrace⟩]⟩

end Span

/-- Where a provider sends its spans. -/
inductive Sink where
  /-- They are kept in memory. -/
  | memory
  | console
  | collector
  deriving DecidableEq, Repr

/-- The source of spans that the last successful configuration made. -/
structure Provider where
  service : Text
  sink : Sink

/-- What the depot knows about tracing. -/
structure Trace where
  /-- Has a configuration been tried? -/
  configured : Bool := false
  provider : Option Provider := none
  /-- The spans kept in memory, in the order in which they ended, once there is such a memory. -/
  memory : Option (List Span) := none
  /-- The names of the spans that are open, innermost first. -/
  active : List String := []
  /-- The stack trace that is written for a failure of an operation on a path.  The code that
  it shows depends on where the failure came from. -/
  stackTrace : Operation → Kind → Text → Failure → String := fun _ _ _ failure => failure.account

namespace Trace

/-- Begin a span. -/
def enter (tracing : Trace) (name : String) : Trace :=
  { tracing with active := name :: tracing.active }

/-- End the innermost span and send it to its sink. -/
def leave (tracing : Trace) (sink : Sink) (span : Span) : Trace :=
  { tracing with
    active := tracing.active.drop 1
    memory := if sink = .memory then tracing.memory.map (· ++ [span]) else tracing.memory }

/-- The spans kept in memory. -/
def spans (tracing : Trace) : List Span := tracing.memory.getD []

/-- Forget the spans kept in memory. -/
def clear (tracing : Trace) : Trace :=
  { tracing with memory := tracing.memory.map (fun _ => []) }

/-- Forget the spans and that a configuration was tried; provider and memory stay. -/
def reset (tracing : Trace) : Trace := { tracing.clear with configured := false }

end Trace

end ArtifactDepot
