import Malink.DeploymentCalls

/-!
# Runs of the coordinator

The calls follow each other in any order, and each of them may be cut off after every step by the end of the process.
-/

namespace Malink.Deployment

open DurableProgram

inductive Call
  | initializeCoordinator (active : Slot)
  | prepare (input : PrepareInput) (ids : NewIds)
  | discard (updateId : JsString)
  | promote (updateId : JsString) (mode : Mode)
  | schedulePromote (updateId : JsString) (mode : Mode) (scheduledAt : ℕ)
  | firePromotion

def Call.program (computerId : JsString) (schemaText : Refused → JsString) : Call → Program Unit
  | initializeCoordinator active => Deployment.initializeCoordinator computerId schemaText active
  | prepare input ids => do let _ ← Deployment.prepare computerId schemaText input ids
  | discard updateId => do let _ ← Deployment.discard computerId schemaText updateId
  | promote updateId mode => do let _ ← Deployment.promote computerId schemaText updateId mode
  | schedulePromote updateId mode scheduledAt => do
    let _ ← Deployment.schedulePromote computerId updateId mode scheduledAt
  | firePromotion => Deployment.firePromotion computerId schemaText

/-- The identifier of an update is a new one. -/
def Call.IsFresh (host : HostState) : Call → Prop
  | prepare _ ids => ids.updateId ∉ host.commits
  | _ => True

/-- The configured release is the one that the host has committed. -/
def Call.IsInstalled (host : HostState) : Call → Prop
  | initializeCoordinator active => active.identity = host.active
  | _ => True

/-- The calls that may take a candidate for prepared after it is gone: a discard, and a start that finds a repair
before the commit. -/
def Call.NeedsCare (state : CoordinatorState) : Call → Prop
  | discard _ => True
  | initializeCoordinator _ => state.status.phase = .repairRequired ∧ state.commitStarted = false
  | _ => False

/-- The states of the file and the host that runs reach. -/
inductive Reached (computerId : JsString) (schemaText : Refused → JsString) (condition : Call → HostState → Prop)
    (care : Call → CoordinatorState → Prop) : CoordinatorState → HostState → Prop
  | start {active : Slot} (hvalid : (defaultState computerId active).check computerId = none) :
    Reached computerId schemaText condition care (defaultState computerId active) ⟨active.identity,[],none⟩
  | call (call : Call) {program : Program Unit} {state state' : CoordinatorState} {host host' : HostState}
    (h : Reached computerId schemaText condition care state host) (hfresh : call.IsFresh host)
    (hcondition : condition call host)
    (hsteps : Steps (hostStep (care call state)) (call.program computerId schemaText) state host program state' host') :
    Reached computerId schemaText condition care state' host'

variable {tracked guarded careful : Prop} {host host' : HostState} {computerId : JsString}
  {state state' : CoordinatorState} {schemaText : Refused → JsString} {condition : Call → HostState → Prop}
  {care : Call → CoordinatorState → Prop} {call : Call} {program : Program Unit}

def Call.Post : Call → Except Thrown Unit → CoordinatorState → HostState → Prop
  | promote _ _, .ok _, state, _ => state.status.phase = .steady
  | initializeCoordinator _, .ok _, state, _ => state.status.phase ≠ .committing
  | _, _, _, _ => True

theorem kept_call (h : Sound computerId tracked guarded state host) (hfresh : call.IsFresh host)
    (hinstalled : tracked → call.IsInstalled host) (hcareful : guarded → call.NeedsCare state → careful) :
    Kept computerId tracked guarded careful call.Post (call.program computerId schemaText) state host := by
  cases call with
  | initializeCoordinator active =>
    refine (kept_initializeCoordinator h hinstalled fun hguarded hphase hunmarked =>
      hcareful hguarded ⟨hphase,hunmarked⟩).mono ?_
    rintro (error | value) state host hstarted
    · trivial
    · exact hstarted
  | prepare input ids => exact Safe.bind (kept_prepare h input hfresh) (fun _ _ _ _ => trivial) fun _ _ _ _ => trivial
  | discard updateId =>
    exact Safe.bind (kept_discard h (fun hguarded => hcareful hguarded trivial) updateId) (fun _ _ _ _ => trivial)
      fun _ _ _ _ => trivial
  | promote updateId mode =>
    refine Safe.bind (kept_promote h updateId mode) ?_ fun _ _ _ _ => trivial
    rintro value state host ⟨rfl,hphase⟩
    exact hphase
  | schedulePromote updateId mode scheduledAt =>
    exact Safe.bind (kept_schedulePromote h updateId mode scheduledAt) (fun _ _ _ _ => trivial) fun _ _ _ _ => trivial
  | firePromotion => exact (kept_firePromotion h).mono fun _ _ _ _ => trivial

/-- The file of a new computer. -/
theorem sound_defaultState {active : Slot} (hvalid : (defaultState computerId active).check computerId = none) :
    Sound computerId tracked guarded (defaultState computerId active) ⟨active.identity,[],none⟩ where
  valid := hvalid
  marked := fun hcommitting => by cases hcommitting
  rotated := fun recovery hrecovery => by cases hrecovery
  status := statusSound_steady rfl rfl rfl fun _ => ⟨rfl,rfl⟩

theorem Reached.sound (hcondition : ∀ call host,tracked → condition call host → call.IsInstalled host)
    (hcare : ∀ call state,guarded → call.NeedsCare state → care call state)
    (h : Reached computerId schemaText condition care state host) : Sound computerId tracked guarded state host := by
  induction h with
  | start hvalid => exact sound_defaultState hvalid
  | call call h hfresh hcall hsteps ih =>
    exact (Safe.steps (kept_call ih hfresh (fun htracked => hcondition _ _ htracked hcall) fun hguarded =>
      hcare _ _ hguarded) ih hsteps).2

def Status.isCommitted (host : HostState) (status : Status) : Bool :=
  status.updateId.any fun updateId => decide (updateId ∈ host.commits)

theorem open_of_isCommitted_eq_false {status : Status} (h : status.isCommitted host = false) : Open host status := by
  intro updateId hupdateId hmem
  rw [Status.isCommitted,hupdateId,Option.any_some,decide_eq_false_iff_not] at h
  exact h hmem

theorem Sound.commitStarted_of_isCommitted (h : Sound computerId tracked guarded state host)
    (hcommitted : state.status.isCommitted host) : state.commitStarted := by
  obtain ⟨updateId,hupdateId,hmem⟩ := (Option.any_eq_true _ _).mp hcommitted
  cases hmarked : state.commitStarted with
  | true => rfl
  | false => exact absurd (of_decide_eq_true hmem) (h.status.isOpen hmarked updateId hupdateId)

theorem Sound.isCommitted_eq_false (h : Sound computerId tracked guarded state host)
    (hcommitting : state.status.phase ≠ .committing) (hrepair : state.status.phase ≠ .repairRequired) :
    state.status.isCommitted host = false := by
  cases hcommitted : state.status.isCommitted host with
  | false => rfl
  | true =>
    have hmarked := h.commitStarted_of_isCommitted hcommitted
    rw [h.commitStarted_eq_false hcommitting hrepair] at hmarked
    cases hmarked

theorem Sound.generation_eq (h : Sound computerId True guarded state host) :
    state.status.generation + (if state.status.isCommitted host then 1 else 0) = host.commits.length := by
  cases hcommitted : state.status.isCommitted host with
  | false => exact (h.status.follows.before trivial (open_of_isCommitted_eq_false hcommitted)).2
  | true =>
    obtain ⟨updateId,hupdateId,hmem⟩ := (Option.any_eq_true _ _).mp hcommitted
    have hbound := h.status.follows.bound
    rw [hupdateId,Option.isSome_some] at hbound
    obtain ⟨candidate,hcandidate⟩ := Option.isSome_iff_exists.mp hbound.symm
    have ht : transitionFromStatus state.status =
        some ⟨updateId,state.status.computerId,state.status.generation,state.status.active,candidate⟩ := by
      rw [transitionFromStatus,hupdateId,hcandidate]
    exact (h.status.follows.after trivial _ ht (of_decide_eq_true hmem)).2

theorem Sound.active_eq (h : Sound computerId True guarded state host)
    (hcommitted : state.status.isCommitted host = false) : state.status.active.identity = host.active :=
  (h.status.follows.before trivial (open_of_isCommitted_eq_false hcommitted)).1

/-- Wherever a call has got to, and at its end. -/
theorem single_authority (call : Call)
    (h : Reached computerId schemaText (fun call host => call.IsInstalled host) (fun _ _ => False) state host)
    (hfresh : call.IsFresh host) (hinstalled : call.IsInstalled host)
    (hsteps : Steps (hostStep False) (call.program computerId schemaText) state host program state' host') :
    (∀ transition next,program = .ask (.rollbackPreCommit transition) next → transition.updateId ∉ host'.commits) ∧
      (∀ transition next,program = .ask (.commitCandidate transition) next → transition.updateId ∉ host'.commits) ∧
      state'.status.generation + (if state'.status.isCommitted host' then 1 else 0) = host'.commits.length ∧
      (state'.status.isCommitted host' = false → state'.status.active.identity = host'.active) ∧
      (program = .pure () → (∃ updateId mode,call = .promote updateId mode) →
        state'.status.active.identity = host'.active) ∧
      (program = .pure () → (∃ active,call = .initializeCoordinator active) →
        state'.status.active.identity = host'.active ∨
          (state'.status.phase = .repairRequired ∧ state'.commitStarted = true)) := by
  have hsound : Sound computerId True False state host :=
    h.sound (fun _ _ _ hinstalled => hinstalled) fun _ _ hguarded => hguarded.elim
  have hkept : Kept computerId True False False call.Post (call.program computerId schemaText) state host :=
    kept_call hsound hfresh (fun _ => hinstalled) fun hguarded => hguarded.elim
  obtain ⟨hsafe,hsound'⟩ := Safe.steps hkept hsound hsteps
  refine ⟨?_,?_,hsound'.generation_eq,hsound'.active_eq,?_,?_⟩
  · rintro transition next rfl
    exact hsafe.1
  · rintro transition next rfl
    exact hsafe.1
  · rintro rfl ⟨updateId,mode,rfl⟩
    have hphase : state'.status.phase = .steady := hsafe
    exact hsound'.active_eq (hsound'.isCommitted_eq_false (hphase ▸ (by decide)) (hphase ▸ (by decide)))
  · rintro rfl ⟨active,rfl⟩
    have hphase : state'.status.phase ≠ .committing := hsafe
    cases hcommitted : state'.status.isCommitted host' with
    | false => exact .inl (hsound'.active_eq hcommitted)
    | true =>
      have hmarked := hsound'.commitStarted_of_isCommitted hcommitted
      obtain ⟨-,-,hphases,-⟩ := check_eq_none_iff.mp hsound'.valid
      exact .inr ⟨(hphases hmarked).resolve_left hphase,hmarked⟩

def sampleText : Refused → JsString := fun _ => "[]"

/-- A host that has one answer for the retained recovery and one for its restoration. -/
def sampleAnswer (retained : Except Thrown (Option RecoverySlot)) (restored : Except Thrown Unit) (host : HostState) :
    (request : Request) → Except Thrown request.Reply × HostState
  | .prepareCandidate transition => (.ok transition.candidate,host.prepare transition)
  | .discardCandidate _ => (.ok (),host.discard)
  | .drainDeployments _ _ => (.ok ⟨none,none,none⟩,host)
  | .transferState transition => (.ok transition.candidate,host)
  | .commitCandidate transition => (.ok (),host.commit transition)
  | .retainedRecovery _ => (retained,host)
  | .rotateRecovery _ => (.ok (),host)
  | .restoreRecovery _ => (restored,host)
  | .rollbackPreCommit _ => (.ok ⟨none,none⟩,host)
  | .recoverPreparation _ => (.ok none,host.discard)
  | .recoverCommit transition =>
    (.ok (if transition.updateId ∈ host.commits then .committed else .notCommitted),host)

theorem hostStep_sampleAnswer (retained : Except Thrown (Option RecoverySlot)) (restored : Except Thrown Unit)
    (host : HostState) (request : Request) :
    hostStep False host request (sampleAnswer retained restored host request).1
      (sampleAnswer retained restored host request).2 := by
  cases request with
  | retainedRecovery transition => cases retained <;> rfl
  | restoreRecovery recovery =>
    cases restored with
    | ok value => rfl
    | error thrown => exact ⟨id,rfl⟩
  | rollbackPreCommit transition => exact ⟨rfl,False.elim⟩
  | recoverCommit transition =>
    by_cases hmem : transition.updateId ∈ host.commits
    · rw [sampleAnswer,if_pos hmem]
      exact ⟨rfl,hmem⟩
    · rw [sampleAnswer,if_neg hmem]
      exact ⟨rfl,hmem⟩
  | _ => rfl

def sampleSlot (release : JsString) : Slot := ⟨"node " ++ release,some release,"build " ++ release,1,1⟩

def sampleRecovery (release : JsString) : RecoverySlot := ⟨sampleSlot release,"project",none,0⟩

def sampleStart : CoordinatorState × HostState :=
  (defaultState "computer" (sampleSlot "a"),⟨(sampleSlot "a").identity,[],none⟩)

def afterCall (retained : Except Thrown (Option RecoverySlot)) (restored : Except Thrown Unit) (call : Call)
    (before : CoordinatorState × HostState) : CoordinatorState × HostState :=
  (run (sampleAnswer retained restored) (call.program "computer" sampleText) before.1 before.2).2

def samplePrepare (release : JsString) : Call :=
  .prepare ⟨release,"build " ++ release,some ("node " ++ release)⟩ ⟨"update " ++ release,"node"⟩

theorem reached_sampleStart : Reached "computer" sampleText condition care sampleStart.1 sampleStart.2 :=
  .start (by decide)

theorem Reached.afterCall (call : Call) {before : CoordinatorState × HostState}
    (h : Reached "computer" sampleText condition (fun _ _ => False) before.1 before.2)
    (retained : Except Thrown (Option RecoverySlot)) (restored : Except Thrown Unit) (hfresh : call.IsFresh before.2)
    (hcondition : condition call before.2) :
    Reached "computer" sampleText condition (fun _ _ => False) (Deployment.afterCall retained restored call before).1
      (Deployment.afterCall retained restored call before).2 :=
  .call call h hfresh hcondition (steps_run (hostStep_sampleAnswer retained restored) _ _ _)

theorem program_of_toOption {result : Except Thrown Unit} (h : result.toOption = some ()) :
    (ofExcept result : Program Unit) = .pure () := by
  cases result with
  | ok value => rfl
  | error error => cases h

def sampleTrial : CoordinatorState × HostState :=
  (⟨⟨"computer",0,.trial,sampleSlot "a",some { sampleSlot "b" with projectCount := 0, sessionCount := 0 },none,
    some "update b",none,some "Candidate Gateway is ready for user-directed trial work"⟩,false,none,none⟩,
    ⟨(sampleSlot "a").identity,[],some ("update b",(sampleSlot "b").identity)⟩)

theorem afterCall_sampleStart : afterCall (.ok none) (.ok ()) (samplePrepare "b") sampleStart = sampleTrial := by
  decide

theorem reached_sampleTrial (hcondition : condition (samplePrepare "b") sampleStart.2) :
    Reached "computer" sampleText condition (fun _ _ => False) sampleTrial.1 sampleTrial.2 := by
  rw [← afterCall_sampleStart]
  exact Reached.afterCall _ reached_sampleStart (.ok none) (.ok ()) List.not_mem_nil hcondition

/-- The host commits and cannot name the retained recovery, neither then nor when the process starts again. -/
def fencedPromotion : CoordinatorState × HostState :=
  afterCall (.error (.host "no archive")) (.ok ()) (.promote "update b" .whenIdle) sampleTrial

/-- The start that follows returns, behind a fence, with the old release recorded as the active one. -/
theorem start_leaves_fence : ∃ (state state' : CoordinatorState) (host host' : HostState) (active : Slot),
    Reached "computer" sampleText (fun call host => call.IsInstalled host) (fun _ _ => False) state host ∧
      (Call.initializeCoordinator active).IsInstalled host ∧
      Steps (hostStep False) ((Call.initializeCoordinator active).program "computer" sampleText) state host (.pure ())
        state' host' ∧
      state'.status.active.identity ≠ host'.active := by
  have hfenced : Reached "computer" sampleText (fun call host => call.IsInstalled host) (fun _ _ => False)
      fencedPromotion.1 fencedPromotion.2 :=
    Reached.afterCall (.promote "update b" .whenIdle) (reached_sampleTrial trivial) (.error (.host "no archive"))
      (.ok ()) trivial trivial
  have hsteps := steps_run (hostStep_sampleAnswer (.error (.host "no archive")) (.ok ()))
    ((Call.initializeCoordinator (sampleSlot "b")).program "computer" sampleText) fencedPromotion.1 fencedPromotion.2
  have hrun : (run (sampleAnswer (.error (.host "no archive")) (.ok ()))
      ((Call.initializeCoordinator (sampleSlot "b")).program "computer" sampleText) fencedPromotion.1
      fencedPromotion.2).1.toOption = some () ∧ (sampleSlot "b").identity = fencedPromotion.2.active ∧
        (run (sampleAnswer (.error (.host "no archive")) (.ok ()))
          ((Call.initializeCoordinator (sampleSlot "b")).program "computer" sampleText) fencedPromotion.1
          fencedPromotion.2).2.1.status.active.identity ≠
            (run (sampleAnswer (.error (.host "no archive")) (.ok ()))
              ((Call.initializeCoordinator (sampleSlot "b")).program "computer" sampleText) fencedPromotion.1
              fencedPromotion.2).2.2.active := by decide
  rw [program_of_toOption hrun.1] at hsteps
  exact ⟨_,_,_,_,sampleSlot "b",hfenced,hrun.2.1,hsteps,hrun.2.2⟩

theorem single_authority_sample :
    (afterCall (.ok none) (.ok ()) (.promote "update b" .whenIdle) sampleTrial).1.status.active.identity =
      (afterCall (.ok none) (.ok ()) (.promote "update b" .whenIdle) sampleTrial).2.active := by
  have hsteps := steps_run (hostStep_sampleAnswer (.ok none) (.ok ()))
    ((Call.promote "update b" .whenIdle).program "computer" sampleText) sampleTrial.1 sampleTrial.2
  rw [program_of_toOption (by decide)] at hsteps
  have hauthority := single_authority (.promote "update b" .whenIdle) (reached_sampleTrial trivial) trivial trivial hsteps
  exact hauthority.2.2.2.2.1 rfl ⟨_,_,rfl⟩

theorem bound_of_trial {status : Status} (h : status.isValid) (hphase : status.phase = .trial) :
    ∃ transition, transitionFromStatus status = some transition := by
  simp [Status.isValid,Status.isConsistent,hphase] at h
  obtain ⟨hcandidate,hupdateId⟩ := h.2.1.2
  obtain ⟨candidate,hcandidate⟩ := Option.isSome_iff_exists.mp hcandidate
  obtain ⟨updateId,hupdateId⟩ := Option.isSome_iff_exists.mp hupdateId
  exact ⟨⟨updateId,status.computerId,status.generation,status.active,candidate⟩,
    transitionFromStatus_eq_some.mpr ⟨candidate,hcandidate,hupdateId,rfl⟩⟩

theorem trial_isPrepared (h : Reached computerId schemaText (fun _ _ => True) (fun call state => call.NeedsCare state)
    state host) (hphase : state.status.phase = .trial) :
    ∃ transition, transitionFromStatus state.status = some transition ∧
      host.prepared = some (transition.updateId,transition.candidate.identity) := by
  have hsound : Sound computerId False True state host :=
    h.sound (fun _ _ htracked => htracked.elim) fun _ _ _ hneeds => hneeds
  have hunmarked := hsound.commitStarted_eq_false (hphase ▸ (by decide)) (hphase ▸ (by decide))
  obtain ⟨transition,ht⟩ := bound_of_trial hsound.isValid hphase
  exact ⟨transition,ht,hsound.status.live trivial (.inl (hphase ▸ rfl)) transition ht
    (hsound.status.isOpen hunmarked _ (updateId_of_transition ht))⟩

theorem trial_isPrepared_sample : ∃ transition, transitionFromStatus sampleTrial.1.status = some transition ∧
    sampleTrial.2.prepared = some (transition.updateId,transition.candidate.identity) := by
  have hsteps : Steps (hostStep False) ((samplePrepare "b").program "computer" sampleText) sampleStart.1 sampleStart.2
      _ _ _ := steps_run (hostStep_sampleAnswer (.ok none) (.ok ())) _ _ _
  have htrial : Reached "computer" sampleText (fun _ _ => True) (fun call state => call.NeedsCare state)
      (afterCall (.ok none) (.ok ()) (samplePrepare "b") sampleStart).1
      (afterCall (.ok none) (.ok ()) (samplePrepare "b") sampleStart).2 :=
    Reached.call (samplePrepare "b") reached_sampleStart List.not_mem_nil trivial hsteps
  rw [afterCall_sampleStart] at htrial
  exact trial_isPrepared htrial rfl

/-- The candidate becomes the active release, and its predecessor is retained. -/
def samplePromoted : CoordinatorState × HostState :=
  afterCall (.ok (some (sampleRecovery "a"))) (.ok ()) (.promote "update b" .whenIdle) sampleTrial

/-- A second candidate is discarded by the host, and the recovery that made room for it cannot be restored. -/
def failedDiscard : CoordinatorState × HostState :=
  afterCall (.ok none) (.error (.host "archive is broken")) (.discard "update c")
    (afterCall (.ok none) (.ok ()) (samplePrepare "c") samplePromoted)

theorem discarded_trial : ∃ (state : CoordinatorState) (host : HostState),
    Reached "computer" sampleText (fun _ _ => True) (fun _ _ => False) state host ∧ state.status.phase = .trial ∧
      host.prepared = none := by
  have hpromoted : Reached "computer" sampleText (fun _ _ => True) (fun _ _ => False) samplePromoted.1
      samplePromoted.2 :=
    Reached.afterCall (.promote "update b" .whenIdle) (reached_sampleTrial trivial) _ _ trivial trivial
  have hrun : ("update c" : JsString) ∉ samplePromoted.2.commits ∧ failedDiscard.1.status.phase = .trial ∧
      failedDiscard.2.prepared = none := by decide
  have hdiscarded : Reached "computer" sampleText (fun _ _ => True) (fun _ _ => False) failedDiscard.1
      failedDiscard.2 :=
    Reached.afterCall (.discard "update c") (Reached.afterCall (samplePrepare "c") hpromoted _ _ hrun.1 trivial) _ _
      trivial trivial
  exact ⟨_,_,hdiscarded,hrun.2⟩

end Malink.Deployment
