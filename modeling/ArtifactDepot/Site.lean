import ArtifactDepot.Cloud.Bucket
import ArtifactDepot.Cloud.Call
import ArtifactDepot.Keyring.Table
import ArtifactDepot.Disk.Calls
import ArtifactDepot.Environment
import ArtifactDepot.Trace.Span

/-!
# The site

Everything that an operation of the depot may read or change: the local disk,
the object stores, the environment, the keyrings, tracing, and the record of
what was asked and logged.  An action is a function on the site; an
action that fails keeps the changes it made.
-/

namespace ArtifactDepot

/-- A keyring: the path of its document, if one was given, and what it has loaded. -/
structure Keyring where
  config : Option Text := none
  tables : KeyTables := {}
  cached : Bool := false
  /-- The kinds for which the fallback to ambient credentials has been logged. -/
  warned : List Kind := []

/-- What a backend is bound to besides its kind. -/
inductive Binding where
  | disk
  | gcs
  /-- An S3 client talks to the store itself or to one compatible endpoint. -/
  | s3 (endpoint : Option Text)
  | azure (account : Text)
  deriving DecidableEq, Repr

/-- The kind of a binding. -/
def Binding.kind : Binding → Kind
  | .disk => .disk
  | .gcs => .gcs
  | .s3 _ => .s3
  | .azure _ => .azure

/-- A backend.  Its number tells it from every other one and is that of its client, if it has one. -/
structure Backend where
  serial : Nat
  binding : Binding
  /-- The scripted factory that built it and answers its health probes. -/
  script : Option Nat := none
  deriving DecidableEq, Repr

/-- The kind of a backend. -/
def Backend.kind (backend : Backend) : Kind := backend.binding.kind

/-- How a scripted step ends. -/
inductive Verdict where
  /-- It goes on as usual. -/
  | pass
  /-- It breaks with no fault of the depot. -/
  | broken
  | fault (kind : FaultKind)
  deriving DecidableEq, Repr

/-- A factory whose outcomes are laid down in advance. -/
structure Script where
  builds : List Verdict := []
  probes : List Verdict := []
  /-- Is the first backend handed out again? -/
  reuse : Bool := false
  first : Option Backend := none

/-- The severity of a log record. -/
inductive Severity where
  | warning
  | error
  deriving DecidableEq, Repr

/-- A log record. -/
structure Notice where
  severity : Severity
  words : String
  deriving DecidableEq, Repr

/-- No number has been released at the start. -/
theorem Serials.none_released : ∀ serial ∈ ([] : List Nat), serial < 0 := nofun

/-- The numbers that have been given, and those of the local directories that have been released. -/
structure Serials where
  /-- The number that is given next. -/
  next : Nat := 0
  released : List Nat := []
  released_lt : ∀ serial ∈ released, serial < next := by exact Serials.none_released

namespace Serials

/-- The next number has been given. -/
def give (serials : Serials) : Serials where
  next := serials.next + 1
  released := serials.released
  released_lt := fun serial h => Nat.lt_succ_of_lt (serials.released_lt serial h)

/-- A number has been released; it counts as given from then on. -/
def release (serials : Serials) (serial : Nat) : Serials where
  next := max serials.next (serial + 1)
  released := serial :: serials.released
  released_lt := fun other h => by
    rcases List.mem_cons.1 h with rfl | h
    · exact Nat.lt_of_lt_of_le (Nat.lt_succ_self _) (Nat.le_max_right ..)
    · exact Nat.lt_of_lt_of_le (serials.released_lt other h) (Nat.le_max_left ..)

/-- The number that is given next has not been released. -/
theorem next_not_released (serials : Serials) : serials.next ∉ serials.released :=
  fun h => Nat.lt_irrefl _ (serials.released_lt _ h)

end Serials

/-- The backends that a pool holds, by their kinds. -/
abbrev Held := List (Kind × Backend)

/-- What every pool holds, and what was held at each request to close a client. -/
structure Holdings where
  pools : List (Nat × Held) := []
  /-- The clients that were asked to close, with what the pools held then. -/
  closings : List ((Kind × Nat) × List (Nat × Held)) := []

namespace Holdings

/-- What the pool with a number holds. -/
def held (holdings : Holdings) (number : Nat) : Held := (holdings.pools.lookup number).getD []

/-- The pool with a number holds something else. -/
def put (holdings : Holdings) (number : Nat) (held : Held) : Holdings :=
  { holdings with pools := Entries.put number held holdings.pools }

/-- Clients are asked to close. -/
def closing (holdings : Holdings) (clients : List (Kind × Nat)) : Holdings :=
  { holdings with
    closings := holdings.closings ++ clients.map fun client => (client, holdings.pools) }

@[simp] theorem closing_nil (holdings : Holdings) : holdings.closing [] = holdings := by
  simp only [closing, List.map_nil, List.append_nil]

@[simp] theorem closing_closing (holdings : Holdings) (clients more : List (Kind × Nat)) :
    (holdings.closing clients).closing more = holdings.closing (clients ++ more) := by
  simp only [closing, List.map_append, List.append_assoc]

/-- Pools hold what they held when clients are asked to close. -/
@[simp] theorem held_closing (holdings : Holdings) (clients : List (Kind × Nat)) (number : Nat) :
    (holdings.closing clients).held number = holdings.held number := rfl

/-- A pool holds what was put there last. -/
theorem held_put (holdings : Holdings) (number : Nat) (held : Held) :
    (holdings.put number held).held number = held := by
  simp only [Holdings.held, put, Entries.lookup_put, beq_self_eq_true, if_true, Option.getD_some]

end Holdings

/-- The surroundings and the state of the depot. -/
structure Site where
  disk : Disk := .fresh
  /-- What the disk was before each operation on it. -/
  past : List Disk := []
  /-- The number of the last temporary directory that was tried. -/
  lastTemporary : Nat := 0
  environment : Environment := []
  cloud : Cloud := {}
  rules : List Rule := []
  /-- The kinds whose client library can be loaded. -/
  installed : List Kind := Kind.remote
  /-- Can spans be sent to a collector? -/
  hasExporters : Bool := false
  /-- Is the tracing library missing? -/
  lacksTelemetry : Bool := false
  /-- Why a path has no digest, in the words of the encoder. -/
  digestFlaw? : Text → Option String := Text.encodingFlaw?
  /-- The most containers that may be open at once in a document that is read. -/
  nesting : Nat := 985
  calls : List Call := []
  notices : List Notice := []
  /-- The paths that tracing refused to go on with, since they have no digest. -/
  refusals : List Text := []
  tracing : Trace := {}
  keyrings : List Keyring := []
  defaultKeyring : Option Nat := none
  scripts : List Script := []
  serials : Serials := {}
  /-- The clients that were built and not yet asked to close. -/
  openClients : List (Kind × Nat) := []
  holdings : Holdings := {}

/-- The site after a pool has changed what it holds. -/
def Site.hold (site : Site) (number : Nat) (held : Held) : Site :=
  { site with holdings := site.holdings.put number held }

/-- The site after a client was asked to close; from then on it does not count as open. -/
def Site.closing (site : Site) (client : Kind × Nat) : Site :=
  { site with
    openClients := site.openClients.erase client
    holdings := site.holdings.closing [client] }

/-- The site after an operation on its disk. -/
def Site.withDisk (site : Site) (disk : Disk) : Site :=
  { site with disk, past := site.past ++ [site.disk] }

end ArtifactDepot
