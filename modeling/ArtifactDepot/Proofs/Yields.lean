import ArtifactDepot.Proofs.Traced

/-!
# What a request yields

A request about a bucket yields a value that is known from what the bucket
holds, or it fails.  `Action.Yields` says both at once: which value comes out
and which contents are transferred for it, and that without such a value, or
when a rule applies to a request about the bucket, or when tracing is in the
way, and only then, there is a failure.
-/

namespace ArtifactDepot.Action

variable {α β : Type} {path : Text} {kind : Kind} {bucket : Text} {moved later : List Call}
  {value : Option α} {action : Action α} {site : Site}

/--
The action ends with the value, if there is one, and transfers what is listed.  It fails only for
want of a value, because the store does not answer, or because tracing stops it.
-/
def Yields (path : Text) (kind : Kind) (bucket : Text) (moved : List Call) (value : Option α)
    (action : Action α) (site : Site) : Prop :=
  match action site with
  | .ok result site' =>
      value = some result ∧ Site.Recorded site site' ∧ site'.transfers = site.transfers ++ moved
  | .error _ _ => value = none ∨ ¬ site.Answers kind bucket ∨ ¬ Trace.Passable site path

namespace Yields

/-- What is known of an action that ends well. -/
theorem ok (h : Yields path kind bucket moved value action site) {result : α} {site' : Site}
    (hrun : action site = .ok result site') :
    value = some result ∧ Site.Recorded site site' ∧
      site'.transfers = site.transfers ++ moved := by
  rwa [Yields, hrun] at h

/-- A value comes out if nothing is in the way. -/
theorem run {result : α} (h : Yields path kind bucket moved (some result) action site)
    (hanswers : site.Answers kind bucket) (hpassable : Trace.Passable site path) :
    ∃ site', action site = .ok result site' ∧ Site.Recorded site site' ∧
      site'.transfers = site.transfers ++ moved := by
  rw [Yields] at h
  cases hrun : action site with
  | ok found site' =>
      rw [hrun] at h
      obtain ⟨hvalue, hrest⟩ := h
      cases hvalue
      exact ⟨site', rfl, hrest⟩
  | error failure site' =>
      rw [hrun] at h
      rcases h with hnone | hstruck | hstopped
      · cases hnone
      · exact absurd hanswers hstruck
      · exact absurd hpassable hstopped

theorem of_ok {result : α} {site' : Site} (hrun : action site = .ok result site')
    (hrecorded : Site.Recorded site site') (hmoved : site'.transfers = site.transfers ++ moved) :
    Yields path kind bucket moved (some result) action site := by
  rw [Yields, hrun]
  exact ⟨rfl, hrecorded, hmoved⟩

/-- An action that fails yields nothing. -/
theorem of_error {failure : Failure} {site' : Site} (hrun : action site = .error failure site') :
    Yields path kind bucket moved none action site := by
  rw [Yields, hrun]
  exact Or.inl rfl

theorem pure (result : α) :
    Yields path kind bucket [] (some result) (pure result : Action α) site :=
  of_ok rfl (.refl site) (List.append_nil _).symm

/-- What the first action yields is handed to the second one. -/
theorem bind {result : α} {next : α → Action β} {last : Option β}
    (h : Yields path kind bucket moved (some result) action site)
    (hnext : ∀ site', Site.Recorded site site' →
      Yields path kind bucket later last (next result) site') :
    Yields path kind bucket (moved ++ later) last (action >>= next) site := by
  unfold Yields at h ⊢
  cases hrun : action site with
  | ok found site₁ =>
      rw [hrun] at h
      obtain ⟨hvalue, hrecorded, hmoved⟩ := h
      cases hvalue
      have hrest := hnext site₁ hrecorded
      rw [bind_ok hrun]
      unfold Yields at hrest
      cases hrun' : next result site₁ with
      | ok final site₂ =>
          rw [hrun'] at hrest
          obtain ⟨hlast, hrecorded', hmoved'⟩ := hrest
          refine ⟨hlast, hrecorded.trans hrecorded', ?_⟩
          rw [hmoved', hmoved, List.append_assoc]
      | error failure site₂ =>
          rw [hrun'] at hrest
          rcases hrest with hnone | hstruck | hstopped
          · exact Or.inl hnone
          · exact Or.inr (Or.inl fun hanswers => hstruck (hrecorded.answers hanswers))
          · exact Or.inr (Or.inr fun hpassable => hstopped (hpassable.recorded hrecorded))
  | error failure site' =>
      rw [hrun] at h
      rw [bind_error hrun]
      exact Or.inr (h.resolve_left nofun)

/-- If the first action yields nothing, nothing is yielded. -/
theorem bind_none {next : α → Action β} (h : Yields path kind bucket moved none action site) :
    Yields path kind bucket later (none : Option β) (action >>= next) site := by
  unfold Yields at h ⊢
  cases hrun : action site with
  | ok found site₁ =>
      rw [hrun] at h
      cases h.1
  | error failure site' =>
      rw [bind_error hrun]
      exact Or.inl rfl

/-- After a look at the site that is asked nothing has changed. -/
theorem bind_get {next : Site → Action α}
    (h : Yields path kind bucket moved value (next site) site) :
    Yields path kind bucket moved value ((get : Action Site) >>= next) site := h

/-- A recovery that never succeeds does not change what is yielded. -/
theorem recover {handler : Failure → Action α}
    (hhandler : ∀ failure site, ∃ failure' site', handler failure site = .error failure' site')
    (h : Yields path kind bucket moved value action site) :
    Yields path kind bucket moved value (recover action handler) site := by
  unfold Yields at h ⊢
  cases hrun : action site with
  | ok found site' =>
      rw [hrun] at h
      rw [recover_ok hrun]
      exact h
  | error failure site' =>
      rw [hrun] at h
      rw [recover_error hrun]
      obtain ⟨failure', site'', hfails⟩ := hhandler failure site'
      rw [hfails]
      exact h

theorem wrapping {wrap : Incident → Fault} (h : Yields path kind bucket moved value action site) :
    Yields path kind bucket moved value (wrapping wrap action) site := by
  apply h.recover
  intro failure site
  cases failure with
  | incident incident => exact ⟨_, _, rfl⟩
  | fault fault => exact ⟨_, _, rfl⟩

theorem during {task : Task} {about : Text} (h : Yields path kind bucket moved value action site) :
    Yields path kind bucket moved value (during task about action) site := h.wrapping

/-- A rule that does not refuse its argument yields its value. -/
theorem bind_rule {result : α} {rule : Except Fault α} {next : α → Action β} {last : Option β}
    (hrule : rule = .ok result) (h : Yields path kind bucket moved last (next result) site) :
    Yields path kind bucket moved last (ofRule rule >>= next) site := by
  rw [hrule]
  exact h

/-- A question before an action does not add to what it transfers. -/
theorem bind_question {result : α} {next : α → Action β} {last : Option β}
    (h : Yields path kind bucket [] (some result) action site)
    (hnext : ∀ site', Site.Recorded site site' →
      Yields path kind bucket later last (next result) site') :
    Yields path kind bucket later last (action >>= next) site := h.bind hnext

/-- A request about the bucket is made if the store answers. -/
theorem perform {call : Call} (site : Site) (hcall : call.bucket? = some (kind, bucket)) :
    Yields path kind bucket ([call].filter Call.isTransfer) (some ()) (perform call) site := by
  have hrecorded := keeps_perform call site
  have hcalls := calls_after_perform call site
  unfold Yields
  cases hrun : Action.perform call site with
  | ok value site' =>
      rw [after_ok hrun] at hrecorded hcalls
      refine ⟨rfl, hrecorded, ?_⟩
      rw [Site.transfers, hcalls, List.filter_append]
      rfl
  | error failure site' =>
      refine Or.inr (Or.inl fun hanswers => ?_)
      rw [perform_ok (hanswers call hcall)] at hrun
      cases hrun

/-- A question about the bucket transfers nothing. -/
theorem ask {call : Call} {next : Unit → Action α} (hcall : call.bucket? = some (kind, bucket))
    (hquestion : call.isTransfer = false)
    (h : ∀ site', Site.Recorded site site' → Yields path kind bucket moved value (next ()) site') :
    Yields path kind bucket moved value (Action.perform call >>= next) site := by
  have hasked := (perform site hcall).bind h
  rwa [List.filter_cons_of_neg (by simp [hquestion])] at hasked

/-- A transfer from the bucket is listed. -/
theorem transfer {call : Call} {next : Unit → Action α} (hcall : call.bucket? = some (kind, bucket))
    (htransfer : call.isTransfer = true)
    (h : ∀ site', Site.Recorded site site' → Yields path kind bucket moved value (next ()) site') :
    Yields path kind bucket (call :: moved) value (Action.perform call >>= next) site := by
  have hmoved := (perform site hcall).bind h
  rwa [List.filter_cons_of_pos htransfer] at hmoved

/-- Tracing an action does not change what it yields. -/
theorem traced {operation : Operation} {store : Kind}
    (h : ∀ site', Site.Silent site site' → Yields path kind bucket moved value action site') :
    Yields path kind bucket moved value (Trace.traced operation store path action) site := by
  rcases Trace.traced_cases operation store path action site with
    ⟨failure, site', hrun, -, hstopped⟩ | hframed
  · rw [Yields, hrun]
    exact Or.inr (Or.inr hstopped)
  · cases hframed with
    | ok hto hrun hfrom hresult =>
        obtain ⟨hvalue, hrecorded, hmoved⟩ := (h _ hto).ok hrun
        rw [Yields, hresult]
        refine ⟨hvalue, (hto.toRecorded.trans hrecorded).trans hfrom.toRecorded, ?_⟩
        rw [hfrom.transfers_eq, hmoved, hto.transfers_eq]
    | error hto hrun hfrom hresult =>
        have hreason := h _ hto
        rw [Yields, hrun] at hreason
        rw [Yields, hresult]
        rcases hreason with hnone | hstruck | hstopped
        · exact Or.inl hnone
        · exact Or.inr (Or.inl fun hanswers => hstruck (hto.answers hanswers))
        · exact Or.inr (Or.inr fun hpassable => hstopped (hpassable.recorded hto.toRecorded))

end Yields

end ArtifactDepot.Action
