import ArtifactDepot.Json.Line
import ArtifactDepot.Session.Step

/-!
# Reports

What a step leaves behind: its outcome, the calls that it made, and the
records that it logged.  A session that runs its steps one after the other
gives one report for each of them.
-/

namespace ArtifactDepot

/-- What a step answered, and what it left in the records. -/
structure Report where
  outcome : Except Failure Reply
  calls : List Call
  notices : List Notice

namespace Session

/-- Release a local directory that a step gave back without naming it. -/
def dropUnnamed (reply : Reply) : SessionAction Unit := do
  match reply with
  | .directory directory _ =>
      if (nameOf directory (← get).directories).isNone then SessionAction.onSite directory.release
  | _ => pure ()

/-- Run a step and report on it. -/
def advance (session : Session) (step : Step) : Report × Session :=
  let calls := session.site.calls.length
  let notices := session.site.notices.length
  let report (outcome : Except Failure Reply) (site : Site) : Report :=
    ⟨outcome, site.calls.drop calls, site.notices.drop notices⟩
  match SessionAction.run step session with
  | .error failure session' => (report (.error failure) session'.site, session')
  | .ok reply session' =>
      match dropUnnamed reply session' with
      | .ok () session'' => (report (.ok reply) session'.site, session'')
      | .error _ session'' => (report (.ok reply) session'.site, session'')

/-- Run steps one after the other and report on each. -/
def reports (session : Session) : List Step → List Report
  | [] => []
  | step :: others =>
      let (report, session') := session.advance step
      report :: reports session' others

/-- The session after some steps. -/
def after (session : Session) (steps : List Step) : Session :=
  steps.foldl (fun session step => (session.advance step).2) session

end Session

/-- Is the order of the calls that a step makes left open? -/
def Step.hasOpenOrder : Step → Bool
  | .request _ (.subdirectories _) | .request _ (.files ..)
  | .shortcut (.subdirectories _) | .shortcut (.files ..) => true
  | _ => false

/--
The calls that a step is reported with.  Where their order is left open they
are sorted by their written form, and none are reported if the step failed.
-/
def Report.rows (report : Report) (step : Step) : List (List Json) :=
  let rows := report.calls.map Call.row
  if step.hasOpenOrder then
    match report.outcome with
    | .error _ => []
    | .ok _ =>
        rows.mergeSort (fun left right =>
          Text.atMost (Json.line (.list left)) (Json.line (.list right)))
  else rows

end ArtifactDepot
