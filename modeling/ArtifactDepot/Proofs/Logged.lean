import ArtifactDepot.Proofs.Asking
import ArtifactDepot.Proofs.Numbers
import ArtifactDepot.Proofs.Spans

/-!
# What operations log

Every operation that a backend traces runs what it does inside of its own span.
What most of them do leaves tracing alone, so they log themselves only; a copy
of a directory logs the listings and the reads that it is made of as well
(`Backend.Operates.logs`).
-/

namespace ArtifactDepot

open ArtifactDepot.Action

/-! ## Putting logs together -/

section Logged

variable {α β : Type} {action : Action α}

/-- Some log lists what the runs of the action end. -/
def Action.Logged (action : Action α) : Prop := ∃ log, Logs action log

namespace Action

theorem logged_quiet (h : Keeps Site.SameTracing action) : Logged action := ⟨_, .quiet h⟩

theorem Logged.bind {next : α → Action β} (h : Logged action)
    (hnext : ∀ value, Logged (next value)) : Logged (action >>= next) := by
  obtain ⟨log, hlog⟩ := h
  choose later hlater using hnext
  exact ⟨_, hlog.bind hlater⟩

theorem Logged.recover {handler : Failure → Action α} (h : Logged action)
    (hhandler : ∀ failure, Logged (handler failure)) : Logged (recover action handler) := by
  obtain ⟨log, hlog⟩ := h
  choose handled hhandled using hhandler
  exact ⟨_, hlog.recover hhandled⟩

theorem Logged.traced (operation : Operation) (kind : Kind) (path : Text) (h : Logged action) :
    Logged (Trace.traced operation kind path action) := by
  obtain ⟨inside, hinside⟩ := h
  exact ⟨_, (hinside.entered path).traced operation kind path⟩

theorem logged_ite {condition : Prop} [Decidable condition] {other : Action α}
    (h : Logged action) (hother : Logged other) :
    Logged (if condition then action else other) := by
  by_cases hcondition : condition
  · rwa [if_pos hcondition]
  · rwa [if_neg hcondition]

theorem logged_foldlM {step : β → α → Action β} (h : ∀ state value, Logged (step state value))
    (values : List α) (state : β) : Logged (values.foldlM step state) := by
  induction values generalizing state with
  | nil => exact logged_quiet (keeps_pure _)
  | cons value values ih => exact (h state value).bind ih

end Action

end Logged

/-! ## What leaves tracing alone -/

instance : KeepsCalls Site.SameTracing where
  perform call site := by
    cases hstrike : Rule.strike? call.row site.rules with
    | none =>
        rw [after_ok (perform_ok hstrike)]
        exact ⟨rfl, rfl, rfl⟩
    | some struck =>
        rw [after_error (perform_error hstrike)]
        exact ⟨rfl, rfl, rfl⟩

instance : KeepsDisk Site.SameTracing := ⟨fun _ _ => ⟨rfl, rfl, rfl⟩⟩

instance : KeepsStores Site.SameTracing := ⟨fun _ _ => ⟨rfl, rfl, rfl⟩⟩

namespace Local

theorem sameTracing_isPresent (path : Text) : Keeps Site.SameTracing (isPresent path) :=
  keeps_consult _

theorem sameTracing_isDirectory (path : Text) : Keeps Site.SameTracing (isDirectory path) :=
  keeps_refused (keeps_bind (keeps_consult _) fun _ => keeps_pure _)

theorem sameTracing_makeDirectory (path : Text) (recursive : Bool) :
    Keeps Site.SameTracing (makeDirectory path recursive) := keeps_refused (keeps_onDisk _)

theorem sameTracing_makeTemporary : Keeps Site.SameTracing makeTemporary :=
  keeps_refused (keeps_tryTemporary (fun _ => ⟨rfl, rfl, rfl⟩) _)

end Local

namespace LocalDirectory

theorem sameTracing_create (source : Text) (replica : Option Text) :
    Keeps Site.SameTracing (create source replica) := fun _ => ⟨rfl, rfl, rfl⟩

theorem sameTracing_release (directory : LocalDirectory) :
    Keeps Site.SameTracing directory.release := by
  refine keeps_bind keeps_get fun site => keeps_ite (keeps_pure _) ?_
  refine keeps_bind (keeps_modify fun _ => ⟨rfl, rfl, rfl⟩) fun _ => ?_
  exact keeps_deleteReplica (fun _ => keeps_modify fun _ => ⟨rfl, rfl, rfl⟩) _

end LocalDirectory

/-! ## Listings and reads -/

namespace Backend

/-- A directory is listed inside of one span. -/
theorem contents_quiet (kind : Kind) (path : Text) :
    ∃ body, contents kind path = Trace.traced .list kind path body ∧
      Keeps Site.SameTracing body := by
  by_cases hkind : kind = .disk
  · subst hkind
    exact ⟨_, rfl, Local.keeps_refused (keeps_consult _)⟩
  · exact contents_traced hkind path

/-- A file is read inside of one span. -/
theorem readBytes_quiet (kind : Kind) (path : Text) :
    ∃ body, readBytes kind path = Trace.traced .read kind path body ∧
      Keeps Site.SameTracing body := by
  by_cases hkind : kind = .disk
  · subst hkind
    exact ⟨_, rfl, Local.keeps_refused (keeps_consult _)⟩
  · exact readBytes_traced hkind path

theorem logged_contents (kind : Kind) (path : Text) : Logged (contents kind path) := by
  obtain ⟨body, hbody, hquiet⟩ := contents_quiet kind path
  rw [hbody]
  exact (logged_quiet hquiet).traced _ _ _

theorem logged_readBytes (kind : Kind) (path : Text) : Logged (readBytes kind path) := by
  obtain ⟨body, hbody, hquiet⟩ := readBytes_quiet kind path
  rw [hbody]
  exact (logged_quiet hquiet).traced _ _ _

theorem sameTracing_isPresent (kind : Kind) (path : Text) :
    Keeps Site.SameTracing (isPresent kind path) := by
  by_cases hkind : kind = .disk
  · subst hkind
    exact Local.sameTracing_isPresent path
  · exact keeps_isPresent hkind path

theorem sameTracing_isDirectory (kind : Kind) (path : Text) :
    Keeps Site.SameTracing (isDirectory kind path) := by
  by_cases hkind : kind = .disk
  · subst hkind
    exact Local.sameTracing_isDirectory path
  · exact keeps_isDirectory hkind path

end Backend

/-! ## Copies of directories -/

namespace Replica

variable (kind : Kind) (source replica : Text)

theorem logged_entriesOf (directory : Text) : Logged (entriesOf kind directory) :=
  (Backend.logged_contents kind directory).bind fun _ => logged_quiet (keeps_pure _)

theorem logged_visit (entry : Text) : Logged (visit kind source replica entry) := by
  have htarget : Keeps Site.SameTracing (target source replica entry) := by
    unfold target
    split
    · exact keeps_pure _
    · exact keeps_throw _
  refine (logged_quiet htarget).bind fun place => ?_
  refine (logged_quiet (Backend.sameTracing_isDirectory kind entry)).bind fun found => ?_
  refine logged_ite ?_ ?_
  · exact (logged_quiet (Local.sameTracing_makeDirectory _ _)).bind fun _ =>
      logged_entriesOf kind entry
  · refine (Backend.logged_readBytes kind entry).bind fun content => ?_
    have hwrite : Logged (Local.writeBytes place content) :=
      (logged_quiet (Local.keeps_refused (keeps_onDisk _))).traced _ _ _
    exact hwrite.bind fun _ => logged_quiet (keeps_pure _)

theorem logged_levels (bound : Nat) (entries : Names) :
    Logged (levels kind source replica bound entries) := by
  induction bound generalizing entries with
  | zero => exact logged_quiet (keeps_throw _)
  | succ bound ih =>
      refine logged_ite (logged_quiet (keeps_pure _)) ?_
      have hlevel : Logged (level kind source replica entries) :=
        logged_foldlM (fun _ entry => (logged_visit kind source replica entry).bind fun _ =>
          logged_quiet (keeps_pure _)) _ _
      exact hlevel.bind ih

theorem logged_make (path : Text) : Logged (make kind path) := by
  refine (logged_quiet (keeps_ofRule _)).bind fun source => ?_
  have hcopied : Logged (do
      let directory ← LocalDirectory.create source (some (← Local.makeTemporary))
      recover (copy kind source directory.path) fun failure => do
        directory.release
        throw failure
      return directory) := by
    refine (logged_quiet Local.sameTracing_makeTemporary).bind fun replica => ?_
    refine (logged_quiet (LocalDirectory.sameTracing_create _ _)).bind fun directory => ?_
    have hcopy : Logged (copy kind source directory.path) :=
      (logged_entriesOf kind source).bind fun _ => logged_levels kind source _ _ _
    refine (hcopy.recover fun failure => ?_).bind fun _ => logged_quiet (keeps_pure _)
    exact logged_quiet (keeps_bind (LocalDirectory.sameTracing_release directory) fun _ =>
      keeps_throw _)
  have hchecked : Logged (do
      if !(← Backend.isDirectory kind source) then
        raise (.missing .directoryToLocalize source none)
      let directory ← LocalDirectory.create source (some (← Local.makeTemporary))
      recover (copy kind source directory.path) fun failure => do
        directory.release
        throw failure
      return directory) := by
    refine (logged_quiet (Backend.sameTracing_isDirectory kind source)).bind fun found => ?_
    exact logged_ite ((logged_quiet (keeps_throw _)).bind fun _ => hcopied) hcopied
  refine (logged_quiet (Backend.sameTracing_isPresent kind source)).bind fun found => ?_
  exact logged_ite ((logged_quiet (keeps_throw _)).bind fun _ => hchecked) hchecked

end Replica

/-! ## The traced operations of backends -/

namespace Backend

/-- An operation of a backend that is traced. -/
inductive Operates : Operation → Kind → Text → {α : Type} → Action α → Prop where
  | contents (kind : Kind) (path : Text) : Operates .list kind path (contents kind path)
  | readBytes (kind : Kind) (path : Text) : Operates .read kind path (readBytes kind path)
  | writeBytes (path : Text) (content : ByteArray) :
      Operates .write .disk path (writeBytes .disk path content)
  | writeText {kind : Kind} (h : kind = .disk ∨ kind = .azure) (path : Text) (text : String) :
      Operates .write kind path (writeText kind path text)
  | deleteTree (path : Text) : Operates .delete .disk path (deleteTree .disk path)
  | localize (kind : Kind) (path : Text) : Operates .localize kind path (localize kind path)

variable {α : Type} {operation : Operation} {kind : Kind} {path : Text} {action : Action α}

/-- What a localization does inside of its span is logged. -/
theorem logged_localize (kind : Kind) (path : Text) :
    ∃ body, localize kind path = Trace.traced .localize kind path body ∧ Logged body := by
  refine ⟨_, rfl, ?_⟩
  cases kind with
  | disk =>
      have hcreate : Logged (LocalDirectory.create path none) :=
        logged_quiet (LocalDirectory.sameTracing_create path none)
      have hdirectory : Logged (do
          if !(← Local.isDirectory path) then raise (.missing .directoryToLocalize path none)
          LocalDirectory.create path none) := by
        refine (logged_quiet (Local.sameTracing_isDirectory path)).bind fun found => ?_
        exact logged_ite ((logged_quiet (keeps_throw _)).bind fun _ => hcreate) hcreate
      refine (logged_quiet (Local.sameTracing_isPresent path)).bind fun found => ?_
      exact logged_ite ((logged_quiet (keeps_throw _)).bind fun _ => hdirectory) hdirectory
  | _ => exact Replica.logged_make _ path

/--
A traced operation runs what it does inside of its span, and that ends no traced operation unless
it is a localization.
-/
theorem Operates.logs (h : Operates operation kind path action) :
    ∃ body inside, action = Trace.traced operation kind path body ∧
      Logs (Trace.entered path body) inside ∧ (operation ≠ .localize → inside = fun _ => []) := by
  have hquieted {β : Type} {body : Action β} (hquiet : Keeps Site.SameTracing body) :
      Logs (Trace.entered path body) fun _ => [] :=
    .quiet (Trace.keeps_entered (Trace.sameTracing_refuse path) hquiet)
  cases h with
  | contents =>
      obtain ⟨body, hbody, hquiet⟩ := contents_quiet kind path
      exact ⟨body, _, hbody, hquieted hquiet, fun _ => rfl⟩
  | readBytes =>
      obtain ⟨body, hbody, hquiet⟩ := readBytes_quiet kind path
      exact ⟨body, _, hbody, hquieted hquiet, fun _ => rfl⟩
  | writeBytes _ content =>
      exact ⟨_, _, rfl, hquieted (Local.keeps_refused (keeps_onDisk _)), fun _ => rfl⟩
  | writeText hkind _ text =>
      obtain rfl | rfl := hkind
      · exact ⟨_, _, rfl, hquieted (Local.keeps_refused (keeps_onDisk _)), fun _ => rfl⟩
      · obtain ⟨body, hbody, hquiet⟩ :=
          Azure.writeText_traced (K := Site.SameTracing) path text
        exact ⟨body, _, hbody, hquieted hquiet, fun _ => rfl⟩
  | deleteTree =>
      exact ⟨_, _, rfl, hquieted (Local.keeps_refused (keeps_onDisk _)), fun _ => rfl⟩
  | localize =>
      obtain ⟨body, hbody, inside, hinside⟩ := logged_localize kind path
      exact ⟨body, _, hbody, hinside.entered path, fun hne => absurd rfl hne⟩

/--
Where tracing is on, a traced operation on a path without a digest is refused, and nothing has
been done.
-/
theorem Operates.refused (h : Operates operation kind path action) {site : Site} {words : String}
    (hflaw : Trace.flaw? site path = some words) :
    Trace.StoppedBy Site.Silent path action site := by
  obtain ⟨body, -, rfl, -⟩ := h.logs
  exact Trace.traced_refused Trace.writes_silent hflaw

end Backend

end ArtifactDepot
