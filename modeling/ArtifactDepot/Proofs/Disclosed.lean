import ArtifactDepot.Proofs.Blamed

/-!
# What spans disclose

The name and the attributes of a span are determined by the operation, the
backend, the digest of the path and the class of the failure.  Its status and its
event are not: they hold the message of the failure, and with it the path that a
fault names, and the stack trace, which tells the messages of what brought the
failure about as well (`Backend.spans_disclose`).
-/

namespace ArtifactDepot

open ArtifactDepot.Action

namespace Ended

variable {ended other : Ended}

/-- What is exported for an operation that has ended, apart from the name of the span around it. -/
def exported (ended : Ended) :
    String × List (String × AttributeValue) × Option String × List RaisedEvent :=
  (ended.span.name, ended.span.attributes, ended.span.status, ended.span.events)

/-- Two calls of one operation of one backend, with paths that have one digest. -/
structure Resembles (ended other : Ended) : Prop where
  operation_eq : other.operation = ended.operation
  label_eq : other.kind.label = ended.kind.label
  digest_eq : ∃ digest, ended.digest = some digest ∧ other.digest = some digest

/-- The class of the failure, if the operation failed. -/
def className? (ended : Ended) : Option String :=
  ended.failure.map fun failed => failed.1.className

/-- The words of the failure, if the operation failed. -/
def message? (ended : Ended) : Option String := ended.failure.map fun failed => failed.1.message

/-- The stack trace that is written for the failure, if the operation failed. -/
def stackTrace? (ended : Ended) : Option String := ended.failure.map Prod.snd

theorem openingAttributes_eq (h : ended.Resembles other) (digest : Option String) :
    Span.openingAttributes other.kind digest = Span.openingAttributes ended.kind digest := by
  rw [Span.openingAttributes, Span.openingAttributes, h.label_eq]

/-- The name and the attributes tell nothing of a failure but its class. -/
theorem attributes_eq_iff (h : ended.Resembles other) :
    (other.span.name = ended.span.name ∧ other.span.attributes = ended.span.attributes) ↔
      other.className? = ended.className? := by
  have hopening := openingAttributes_eq h
  obtain ⟨digest, hdigest, hdigest'⟩ := h.digest_eq
  cases hfailure : ended.failure with
  | none =>
      cases hother : other.failure with
      | none =>
          simp [span, className?, hfailure, hother, Span.ofSuccess, hopening, h.operation_eq,
            hdigest, hdigest']
      | some failure =>
          simp [span, className?, hfailure, hother, Span.ofSuccess, Span.ofFailure, hopening,
            Span.failureAttributes, hdigest, hdigest']
  | some failure =>
      cases hother : other.failure with
      | none =>
          simp [span, className?, hfailure, hother, Span.ofSuccess, Span.ofFailure, hopening,
            Span.failureAttributes, hdigest, hdigest']
      | some failure' =>
          simp [span, className?, hfailure, hother, Span.ofFailure, hopening, h.operation_eq,
            Span.failureAttributes, hdigest, hdigest']

/-- What is exported tells the class, the words and the stack trace of a failure. -/
theorem exported_eq_iff (h : ended.Resembles other) :
    other.exported = ended.exported ↔
      other.className? = ended.className? ∧ other.message? = ended.message? ∧
        other.stackTrace? = ended.stackTrace? := by
  have hattributes := attributes_eq_iff h
  unfold exported
  rw [Prod.mk.injEq, Prod.mk.injEq, Prod.mk.injEq, ← and_assoc, hattributes]
  refine and_congr_right fun hclass => ?_
  cases hfailure : ended.failure with
  | none =>
      cases hother : other.failure with
      | none => simp [span, message?, stackTrace?, hfailure, hother, Span.ofSuccess]
      | some failure => simp [className?, hfailure, hother] at hclass
  | some failure =>
      cases hother : other.failure with
      | none => simp [className?, hfailure, hother] at hclass
      | some failure' =>
          rw [className?, className?, hfailure, hother, Option.map_some, Option.map_some,
            Option.some_inj] at hclass
          simp only [span, message?, stackTrace?, hfailure, hother, Span.ofFailure, Failure.line,
            hclass, Option.map_some, Option.some_inj, List.cons.injEq, RaisedEvent.mk.injEq,
            and_true, true_and]
          exact ⟨fun hsame => hsame.2, fun hsame => ⟨by rw [hsame.1], hsame⟩⟩

/-- A path that a fault names is exported with it. -/
theorem exports_path {fault : Fault} {stackTrace : String} {path : Text}
    (h : ended.failure = some (.fault fault, stackTrace)) (hpath : fault.path? = some path) :
    (∃ status ∈ ended.span.status, path <:+: status.toList) ∧
      ∃ event ∈ ended.span.events, path <:+: event.words.toList := by
  have hmessage := Fault.path_mem_message hpath
  unfold span
  rw [h]
  refine ⟨⟨_, rfl, ?_⟩, _, List.mem_singleton.2 rfl, hmessage⟩
  rw [Failure.line, String.toList_append, String.toList_append]
  exact hmessage.trans (List.suffix_append _ _).isInfix

end Ended

/-! ## Stack traces -/

/-- Stack traces tell of the failure and of everything that brought it about. -/
def Trace.Recounts (tracing : Trace) : Prop := ∀ operation kind path failure,
  ∀ told ∈ Failure.chain failure,
    told.line.toList <:+: (tracing.stackTrace operation kind path failure).toList

/-- The lines for a failure tell of all that. -/
theorem Failure.line_infix_account {failure told : Failure} (h : told ∈ failure.chain) :
    told.line.toList <:+: failure.account.toList := by
  have hline : told.line.toList ++ ['\n'] <:+:
      (failure.chain.reverse.map fun told => told.line.toList ++ ['\n']).flatten :=
    List.infix_of_mem_flatten (List.mem_map_of_mem (List.mem_reverse.2 h))
  rw [account, String.toList_ofList, List.flatMap_def]
  exact (List.prefix_append _ _).isInfix.trans hline

/-! ## Traced operations -/

namespace Backend

/--
Of an operation that gets a span, the span is handed over that says how it ended.  Of two such calls
of one operation of one backend, with paths that have one digest, name and attributes are the same
exactly if the failures have one class, and everything that is exported is the same exactly if they
also have one message and one stack trace.  The message of a fault is exported with the path that
the fault names, and that is the path of the operation as it was spelled, but for localizations,
whose faults name what they met inside of the directory.  If stack traces are such as the
interpreter writes them, class and message of whatever brought the failure about are exported too.
-/
theorem spans_disclose {α : Type} {operation : Operation} {kind : Kind} {path : Text}
    {action : Action α} (hoperates : Operates operation kind path action) {site start : Site}
    {provider : Provider}
    (hbegin : Trace.begin? operation site = some (some provider, start)) :
    ∃ body own, action = Trace.traced operation kind path body ∧
      own = Ended.of operation kind path start (action.result site) ∧
      after action site =
        Trace.handOver (some provider) own (after (Trace.entered path body) start) ∧
      (∀ other, own.Resembles other →
        ((other.span.name = own.span.name ∧ other.span.attributes = own.span.attributes) ↔
            other.className? = own.className?) ∧
          (other.exported = own.exported ↔
            other.className? = own.className? ∧ other.message? = own.message? ∧
              other.stackTrace? = own.stackTrace?)) ∧
      (∀ fault, action.result site = .error (.fault fault) →
        (operation ≠ .localize → fault.path? = some path) ∧
          ∀ named, fault.path? = some named →
            (∃ status ∈ own.span.status, named <:+: status.toList) ∧
              ∃ event ∈ own.span.events, named <:+: event.words.toList) ∧
      (start.tracing.Recounts → ∀ failure, action.result site = .error failure →
        ∃ event ∈ own.span.events,
          ∀ told ∈ failure.chain, told.line.toList <:+: event.stackTrace.toList) := by
  obtain ⟨body, inside, hbody, -, -⟩ := hoperates.logs
  obtain ⟨hresult, hafter⟩ := Trace.traced_some kind path body hbegin
  rw [← hbody] at hresult hafter
  refine ⟨body, _, hbody, rfl, by rw [hafter, hresult], fun other hother => ?_,
    fun fault hfault => ?_, fun htells failure hfailed => ?_⟩
  · exact ⟨Ended.attributes_eq_iff hother, Ended.exported_eq_iff hother⟩
  · refine ⟨fun hoperation => ?_, fun named hnamed => ?_⟩
    · cases hrun : action site with
      | ok value last => cases hfault.symm.trans (result_of_ok hrun)
      | error failure last =>
          cases hfault.symm.trans (result_of_error hrun)
          exact hoperates.blames hoperation _ _ _ hrun
    · exact Ended.exports_path (by rw [hfault]; rfl) hnamed
  · rw [hfailed]
    exact ⟨_, List.mem_singleton.2 rfl, htells operation kind path failure⟩

/-- A site on which spans are kept in memory. -/
def capturingSite : Site where
  environment := [("ARTIFACTFS_OTEL_ENABLED".toList, ['1']),
    ("ARTIFACTFS_OTEL_TEST_CAPTURE".toList, ['1'])]
  tracing :=
    { configured := true, provider := some ⟨"artifactfs".toList, .memory⟩, memory := some [] }

/--
The path of a file that is not there is kept with the span of the read, and so is what the system
said when it was asked for the file.
-/
theorem spans_disclose_missing :
    ∃ own : Ended, (after (readBytes .disk "tenant/x".toList) capturingSite).tracing.spans =
        [own.span] ∧
      (∃ event ∈ own.span.events, "tenant/x".toList <:+: event.words.toList) ∧
      ∃ event ∈ own.span.events,
        (Failure.line (.incident (.system .noEntry "tenant/x".toList))).toList <:+:
          event.stackTrace.toList := by
  have hbegin : Trace.begin? .read capturingSite =
      some (some ⟨"artifactfs".toList, .memory⟩, { capturingSite with
        tracing := capturingSite.tracing.enter Operation.read.spanName }) := rfl
  obtain ⟨body, own, -, hown, -, -, hfaults, htraces⟩ :=
    spans_disclose (.readBytes .disk "tenant/x".toList) hbegin
  have hresult : (readBytes .disk "tenant/x".toList).result capturingSite =
      .error (.fault (.missing .file "tenant/x".toList
        (some (.system .noEntry "tenant/x".toList)))) := rfl
  obtain ⟨hpath, hnamed⟩ := hfaults _ hresult
  obtain ⟨-, hevent⟩ := hnamed _ (hpath nofun)
  obtain ⟨event, hmem, htold⟩ :=
    htraces (fun _ _ _ _ _ => Failure.line_infix_account) _ hresult
  refine ⟨own, ?_, hevent, event, hmem, htold _ (List.mem_cons_of_mem _ List.mem_cons_self)⟩
  rw [hown, hresult]
  rfl

end Backend

end ArtifactDepot
