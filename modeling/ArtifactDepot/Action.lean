import ArtifactDepot.Site

/-!
# Actions

An operation of the depot as a function on the site.  An action that fails
keeps the changes that it made before.  The lemmas at the end say how actions
run: one after the other, and on from a failure.
-/

namespace ArtifactDepot

/-- An operation on the site. -/
abbrev Action := EStateM Failure Site

namespace Action

/-- Fail with a fault of the depot. -/
def raise {α : Type} (fault : Fault) : Action α := throw (.fault fault)

/-- Fail with an incident. -/
def meet {α : Type} (incident : Incident) : Action α := throw (.incident incident)

/-- The value of a rule that may refuse its argument. -/
def ofRule {α : Type} : Except Fault α → Action α
  | .ok value => pure value
  | .error fault => raise fault

/-- The value of a call that may be refused. -/
def ofCall {α : Type} : Except Incident α → Action α
  | .ok value => pure value
  | .error incident => meet incident

/-- Run an action and go on from its failure. -/
def recover {α : Type} (action : Action α) (handler : Failure → Action α) : Action α := fun site =>
  match action site with
  | .ok value site' => .ok value site'
  | .error failure site' => handler failure site'

/-- Run an action and hand its outcome over, failed or not. -/
def outcome {α : Type} (action : Action α) : Action (Except Failure α) := fun site =>
  match action site with
  | .ok value site' => .ok (.ok value) site'
  | .error failure site' => .ok (.error failure) site'

/-- Incidents become faults; faults pass unchanged. -/
def wrapping {α : Type} (wrap : Incident → Fault) (action : Action α) : Action α :=
  recover action fun failure =>
    match failure with
    | .incident incident => raise (wrap incident)
    | .fault fault => raise fault

/-- Incidents become failures of a task on a path. -/
def during {α : Type} (task : Task) (path : Text) (action : Action α) : Action α :=
  wrapping (.failed task path) action

/-- Ask the system for something that leaves the disk as it is. -/
def consult {α : Type} (question : Disk → Except Incident α) : Action α := fun site =>
  ofCall (question site.disk) site

/-- Run an operation on the disk. -/
def onDisk (operation : DiskAction Unit) : Action Unit := fun site =>
  match operation site.disk with
  | .ok () disk => .ok () (site.withDisk disk)
  | .error incident disk => .error (.incident incident) (site.withDisk disk)

/-- Record a call; it fails if a rule applies to it. -/
def perform (call : Call) : Action Unit := fun site =>
  let site := { site with calls := site.calls ++ [call] }
  match Rule.strike? call.row site.rules with
  | none => .ok () site
  | some (incident, rules) => .error (.incident incident) { site with rules }

/-- Write a log record. -/
def note (severity : Severity) (words : String) : Action Unit :=
  modify fun site => { site with notices := site.notices ++ [⟨severity, words⟩] }

/-- A number that has not been given before. -/
def freshSerial : Action Nat := fun site =>
  .ok site.serials.next { site with serials := site.serials.give }

/-! ## How actions run -/

/-- After an action that ends well the next one runs on the site that it left. -/
theorem bind_ok {α β : Type} {action : Action α} {next : α → Action β} {site site' : Site}
    {value : α} (h : action site = .ok value site') : (action >>= next) site = next value site' := by
  simp only [bind, EStateM.bind, h]

/-- A failure ends a sequence of actions. -/
theorem bind_error {α β : Type} {action : Action α} {next : α → Action β} {site site' : Site}
    {failure : Failure} (h : action site = .error failure site') :
    (action >>= next) site = .error failure site' := by
  simp only [bind, EStateM.bind, h]

/-- Of the first action of a sequence only its run on the site matters. -/
theorem bind_congr_at {α β : Type} {action other : Action α} {next : α → Action β}
    {site site' : Site} (h : action site = other site') :
    (action >>= next) site = (other >>= next) site' := by
  simp only [bind, EStateM.bind, h]

/-- After a look at the site the next action runs on that site. -/
theorem get_bind {β : Type} (next : Site → Action β) (site : Site) :
    ((get : Action Site) >>= next) site = next site site := rfl

/-- An action that ends well needs no recovery. -/
theorem recover_ok {α : Type} {action : Action α} {handler : Failure → Action α}
    {site site' : Site} {value : α} (h : action site = .ok value site') :
    recover action handler site = .ok value site' := by
  simp only [recover, h]

/-- A recovery runs on the site that the failed action left. -/
theorem recover_error {α : Type} {action : Action α} {handler : Failure → Action α}
    {site site' : Site} {failure : Failure} (h : action site = .error failure site') :
    recover action handler site = handler failure site' := by
  simp only [recover, h]

/-- The outcome of an action that ends well is its value. -/
theorem outcome_of_ok {α : Type} {action : Action α} {site site' : Site} {value : α}
    (h : action site = .ok value site') : outcome action site = .ok (.ok value) site' := by
  simp only [outcome, h]

/-- The outcome of an action that fails is its failure. -/
theorem outcome_of_error {α : Type} {action : Action α} {site site' : Site} {failure : Failure}
    (h : action site = .error failure site') :
    outcome action site = .ok (.error failure) site' := by
  simp only [outcome, h]

/-- Only the value of an action is discarded. -/
theorem discard_ok {α : Type} {action : Action α} {site site' : Site} {value : α}
    (h : action site = .ok value site') : discard action site = .ok () site' := by
  simp [discard, Functor.mapConst, EStateM.map, h]

/-- The failure of an action is not discarded. -/
theorem discard_error {α : Type} {action : Action α} {site site' : Site} {failure : Failure}
    (h : action site = .error failure site') : discard action site = .error failure site' := by
  simp [discard, Functor.mapConst, EStateM.map, h]

/-- A question about the disk changes nothing. -/
theorem consult_site {α : Type} {question : Disk → Except Incident α} {site site' : Site}
    {value : α} (h : consult question site = .ok value site') :
    site' = site ∧ question site.disk = .ok value := by
  unfold consult at h
  cases hanswer : question site.disk with
  | error incident =>
      rw [hanswer] at h
      cases h
  | ok answer =>
      rw [hanswer] at h
      cases h
      exact ⟨rfl, rfl⟩

/-- A call to which no rule applies is recorded, and nothing else changes. -/
theorem perform_ok {call : Call} {site : Site} (h : Rule.strike? call.row site.rules = none) :
    perform call site = .ok () { site with calls := site.calls ++ [call] } := by
  simp only [perform, h]

/-- A call to which a rule applies is recorded as well, and fails. -/
theorem perform_error {call : Call} {site : Site} {incident : Incident} {rules : List Rule}
    (h : Rule.strike? call.row site.rules = some (incident, rules)) :
    perform call site =
      .error (.incident incident) { site with calls := site.calls ++ [call], rules } := by
  simp only [perform, h]

end Action

end ArtifactDepot
