import ArtifactDepot.Proofs.Blind
import ArtifactDepot.Proofs.Yields

/-!
# What a request gives

How an action on a bucket ends if the store answers: with a value, or with a
failure that is known.  `Action.Gives` says so, and has a rule for each way of
composing actions.  Of a value `Action.Yields` says more, but it lets every
failure pass.
-/

namespace ArtifactDepot.Action

variable {α β : Type} {kind : Kind} {bucket : Text} {action : Action α} {outcome : Except Failure α}
  {site : Site}

/-- The end of a run. -/
def finish (outcome : Except Failure α) (site : Site) : EStateM.Result Failure Site α :=
  match outcome with
  | .ok value => .ok value site
  | .error failure => .error failure site

/-- If the store answers, the action ends with the outcome, and nothing but records changes. -/
def Gives (kind : Kind) (bucket : Text) (outcome : Except Failure α) (action : Action α)
    (site : Site) : Prop :=
  site.Answers kind bucket → ∃ site', Site.Recorded site site' ∧ action site = finish outcome site'

namespace Gives

theorem result_eq (h : Gives kind bucket outcome action site)
    (hanswers : site.Answers kind bucket) : action.result site = outcome := by
  obtain ⟨site', -, hrun⟩ := h hanswers
  cases outcome with
  | ok value => exact result_of_ok hrun
  | error failure => exact result_of_error hrun

theorem pure (value : α) : Gives kind bucket (.ok value) (pure value : Action α) site :=
  fun _ => ⟨site, .refl site, rfl⟩

theorem throw (failure : Failure) :
    Gives kind bucket (.error failure) (throw failure : Action α) site :=
  fun _ => ⟨site, .refl site, rfl⟩

/-- A value is handed on. -/
theorem bind {value : β} {first : Action β} {next : β → Action α}
    (h : Gives kind bucket (.ok value) first site)
    (hnext : ∀ site', Site.Recorded site site' → Gives kind bucket outcome (next value) site') :
    Gives kind bucket outcome (first >>= next) site := by
  intro hanswers
  obtain ⟨site₁, hrecorded, hrun⟩ := h hanswers
  obtain ⟨site₂, hrecorded', hrun'⟩ := hnext site₁ hrecorded (hrecorded.answers hanswers)
  exact ⟨site₂, hrecorded.trans hrecorded', (bind_ok hrun).trans hrun'⟩

/-- A failure ends the sequence. -/
theorem bind_error {failure : Failure} {first : Action β} {next : β → Action α}
    (h : Gives kind bucket (.error failure) first site) :
    Gives kind bucket (.error failure) (first >>= next) site := by
  intro hanswers
  obtain ⟨site', hrecorded, hrun⟩ := h hanswers
  exact ⟨site', hrecorded, Action.bind_error hrun⟩

/-- What is not settled by the first answer is left to the rest. -/
theorem or {first second : Bool} {rest : Action Bool}
    (h : Gives kind bucket (.ok second) rest site) :
    Gives kind bucket (.ok (first || second)) (if first then Pure.pure true else rest) site := by
  cases first with
  | true => exact pure true
  | false => exact h

theorem bind_rule {value : β} {rule : Except Fault β} {next : β → Action α}
    (hrule : rule = .ok value) (h : Gives kind bucket outcome (next value) site) :
    Gives kind bucket outcome (ofRule rule >>= next) site := by
  rw [hrule]
  exact h

theorem bind_call {value : β} {answer : Except Incident β} {next : β → Action α}
    (hanswer : answer = .ok value) (h : Gives kind bucket outcome (next value) site) :
    Gives kind bucket outcome (ofCall answer >>= next) site := by
  rw [hanswer]
  exact h

/-- A request about the bucket is made. -/
theorem ask {call : Call} {next : Unit → Action α} (hcall : call.bucket? = some (kind, bucket))
    (h : ∀ site', Site.Recorded site site' → Gives kind bucket outcome (next ()) site') :
    Gives kind bucket outcome (perform call >>= next) site := by
  refine bind (fun hanswers => ?_) h
  have hrun := perform_ok (hanswers call hcall)
  exact ⟨_, (keeps_perform call).ok hrun, hrun⟩

theorem recover {value : α} {handler : Failure → Action α}
    (h : Gives kind bucket (.ok value) action site) :
    Gives kind bucket (.ok value) (recover action handler) site := by
  intro hanswers
  obtain ⟨site', hrecorded, hrun⟩ := h hanswers
  exact ⟨site', hrecorded, recover_ok hrun⟩

/-- A failure is handled. -/
theorem recover_error {failure : Failure} {handler : Failure → Action α}
    (h : Gives kind bucket (.error failure) action site)
    (hhandler : ∀ site', Gives kind bucket outcome (handler failure) site') :
    Gives kind bucket outcome (Action.recover action handler) site := by
  intro hanswers
  obtain ⟨site₁, hrecorded, hrun⟩ := h hanswers
  obtain ⟨site₂, hrecorded', hrun'⟩ := hhandler site₁ (hrecorded.answers hanswers)
  exact ⟨site₂, hrecorded.trans hrecorded', (Action.recover_error hrun).trans hrun'⟩

/-- An incident becomes a fault. -/
theorem wrapping_incident {incident : Incident} {wrap : Incident → Fault}
    (h : Gives kind bucket (.error (.incident incident)) action site) :
    Gives kind bucket (.error (.fault (wrap incident))) (wrapping wrap action) site :=
  h.recover_error fun _ => throw _

theorem during {value : α} {task : Task} {path : Text}
    (h : Gives kind bucket (.ok value) action site) :
    Gives kind bucket (.ok value) (during task path action) site := h.recover

/-- A fault passes as it is. -/
theorem during_fault {fault : Fault} {task : Task} {path : Text}
    (h : Gives kind bucket (.error (.fault fault)) action site) :
    Gives kind bucket (.error (.fault fault)) (Action.during task path action) site :=
  h.recover_error fun _ => throw _

/-- Tracing does not change an outcome unless it stops the action. -/
theorem traced {operation : Operation} {store : Kind} {path : Text}
    (hpassable : Trace.Passable site path)
    (h : ∀ site', Site.Recorded site site' → Gives kind bucket outcome action site') :
    Gives kind bucket outcome (Trace.traced operation store path action) site := by
  intro hanswers
  rcases Trace.traced_cases operation store path action site with
    ⟨failure, site', -, -, hstopped⟩ | hframed
  · exact absurd hpassable hstopped
  · cases hframed with
    | @ok site₁ site₂ site₃ value hto hrun hfrom hresult =>
        obtain ⟨last, hrecorded, hlast⟩ := h _ hto.toRecorded (hto.answers hanswers)
        rw [hrun] at hlast
        cases outcome with
        | ok found =>
            cases hlast
            exact ⟨site₃, (hto.toRecorded.trans hrecorded).trans hfrom.toRecorded, hresult⟩
        | error reason => cases hlast
    | @error site₁ site₂ site₃ failure hto hrun hfrom hresult =>
        obtain ⟨last, hrecorded, hlast⟩ := h _ hto.toRecorded (hto.answers hanswers)
        rw [hrun] at hlast
        cases outcome with
        | ok found => cases hlast
        | error reason =>
            cases hlast
            exact ⟨site₃, (hto.toRecorded.trans hrecorded).trans hfrom.toRecorded, hresult⟩

/-- A request about the bucket is answered from what the stores hold. -/
theorem request {call : Call} {next : Unit → Action α} (hcall : call.bucket? = some (kind, bucket))
    (h : ∀ site', site'.cloud = site.cloud → next () site' = finish outcome site') :
    Gives kind bucket outcome (perform call >>= next) site :=
  ask hcall fun site' hrecorded _ => ⟨site', .refl site', h site' hrecorded.cloud_eq⟩

/-- What is yielded is given, if tracing is not in the way. -/
theorem of_yields {path : Text} {moved : List Call} {value : α}
    (hpassable : Trace.Passable site path)
    (h : Yields path kind bucket moved (some value) action site) :
    Gives kind bucket (.ok value) action site := by
  intro hanswers
  obtain ⟨site', hrun, hrecorded, -⟩ := h.run hanswers hpassable
  exact ⟨site', hrecorded, hrun⟩

end Gives

/-- The value that was found, or the fault that says that there is none. -/
def foundOr (fault : Fault) : Option α → Except Failure α
  | some value => .ok value
  | none => .error (.fault fault)

end ArtifactDepot.Action
