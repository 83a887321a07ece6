import Malink.DeploymentRuns

/-!
# Where an attempt ends

A preparation, a promotion or a discard whose requests fail writes down what went wrong. The texts of the errors decide
whether the file comes to rest.
-/

namespace Malink.Deployment

open DurableProgram Option
open Status (isConsistent isValid)

/-- What each dependency does during one call. The retained recovery is asked for by the promotion, and once more after
the host was asked whether it has committed. -/
structure Outcomes where
  prepareCandidate : Except JsString Slot
  discardCandidate : Except JsString Unit
  drainDeployments : Except JsString Drained
  transferState : Except JsString Slot
  commitCandidate : Except JsString Unit
  retainedRecovery : Bool → Except JsString (Option RecoverySlot)
  rotateRecovery : Except JsString Unit
  restoreRecovery : Except JsString Unit
  rollbackPreCommit : Except JsString Restored
  recoverPreparation : Except JsString (Option Slot)
  recoverCommit : Except JsString CommitResult

def Outcomes.answer (outcomes : Outcomes) (recovering : Bool) : (request : Request) → Except Thrown request.Reply × Bool
  | .prepareCandidate _ => (outcomes.prepareCandidate.mapError .host,recovering)
  | .discardCandidate _ => (outcomes.discardCandidate.mapError .host,recovering)
  | .drainDeployments _ _ => (outcomes.drainDeployments.mapError .host,recovering)
  | .transferState _ => (outcomes.transferState.mapError .host,recovering)
  | .commitCandidate _ => (outcomes.commitCandidate.mapError .host,recovering)
  | .retainedRecovery _ => ((outcomes.retainedRecovery recovering).mapError .host,recovering)
  | .rotateRecovery _ => (outcomes.rotateRecovery.mapError .host,recovering)
  | .restoreRecovery _ => (outcomes.restoreRecovery.mapError .host,recovering)
  | .rollbackPreCommit _ => (outcomes.rollbackPreCommit.mapError .host,recovering)
  | .recoverPreparation _ => (outcomes.recoverPreparation.mapError .host,recovering)
  | .recoverCommit _ => (outcomes.recoverCommit.mapError .host,true)

abbrev Ends (outcomes : Outcomes) {α : Type} (post : Except Thrown α → CoordinatorState → Bool → Prop)
    (program : Program α) (state : CoordinatorState) (recovering : Bool) : Prop :=
  Safe (fun host request reply host' => (reply,host') = outcomes.answer host request) (fun _ _ => True)
    (fun _ _ _ => True) post program state recovering

def PrepareInput.newCandidate (input : PrepareInput) (ids : NewIds) : Slot :=
  ⟨input.candidateGatewayNodeId.getD ids.gatewayNodeId,some input.releaseId,input.buildId,0,0⟩

def failed {α : Type} : Except JsString α → Option Thrown
  | .ok _ => none
  | .error text => some (.host text)

def slotFailure (expected : Slot) (label : JsString) (actual : Option Slot) : Option Thrown :=
  actual.bind fun slot =>
    if slot.isValid = false then some (.schema (.slot slot))
    else if slot.identity ≠ expected.identity then some (.coordinator (.mismatch label))
    else none

def recoveryFailure (active : Slot) : Option RecoverySlot → Option Thrown
  | none => none
  | some slot =>
    if slot.isValid = false then some (.schema (.recovery slot))
    else if slot.identity ≠ active.identity then some (.coordinator .recoveryMismatch)
    else none

section

variable (outcomes : Outcomes) (active candidate : Slot)

def Outcomes.rotation (previous : Option RecoverySlot) : Option Thrown :=
  previous.bind fun _ => failed outcomes.rotateRecovery

def Outcomes.preparation : Option Thrown :=
  match outcomes.prepareCandidate with
  | .error text => some (.host text)
  | .ok slot => slotFailure candidate "Prepared candidate" (some slot)

/-- The candidate is discarded, and the recovery that made room for it is back. -/
def Outcomes.removal (previous : Option RecoverySlot) : Option Thrown :=
  (failed outcomes.discardCandidate).or (previous.bind fun _ => failed outcomes.restoreRecovery)

def Outcomes.transfer : Option Thrown :=
  match outcomes.transferState with
  | .error text => some (.host text)
  | .ok slot => slotFailure candidate "Prepared candidate" (some slot)

def Outcomes.beforeCommit : Option Thrown :=
  match outcomes.drainDeployments with
  | .error text => some (.host text)
  | .ok drained =>
    ((slotFailure active "Drained active Gateway" drained.active).or
      (slotFailure candidate "Prepared candidate" drained.candidate)).or (outcomes.transfer candidate)

def Outcomes.retained (recovering : Bool) : Option Thrown :=
  match outcomes.retainedRecovery recovering with
  | .error text => some (.host text)
  | .ok recovery => recoveryFailure active recovery

def Outcomes.commit : Option Thrown := (failed outcomes.commitCandidate).or (outcomes.retained active false)

def Outcomes.rollback : Option Thrown :=
  match outcomes.rollbackPreCommit with
  | .error text => some (.host text)
  | .ok restored =>
    (slotFailure active "Restored active Gateway" restored.active).or
      (slotFailure candidate "Prepared candidate" restored.candidate)

def Fits (detail : JsString) : Prop := 1 ≤ detail.length ∧ detail.length ≤ maxDetail

variable (schemaText : Refused → JsString)

def Outcomes.RecordsPreparation (previous : Option RecoverySlot) : Prop :=
  ∀ error, outcomes.preparation candidate = some error →
    match outcomes.removal previous with
    | none =>
      Fits (("Candidate preparation failed; active Gateway unchanged: " : JsString) ++ formatError schemaText error)
    | some cleanupError =>
      Fits (("Candidate preparation failed (" : JsString) ++ formatError schemaText error ++ "); cleanup also failed: " ++
        formatError schemaText cleanupError)

def Outcomes.RecordsDiscard (rotated : Option RecoverySlot) : Prop :=
  ∀ error, outcomes.removal rotated = some error →
    Fits (("Candidate discard failed; active Gateway unchanged: " : JsString) ++ formatError schemaText error)

def Outcomes.RecordsRollback (detail : JsString) : Prop :=
  match outcomes.rollback active candidate with
  | none => Fits detail
  | some error => Fits (detail ++ "; rollback failed: " ++ formatError schemaText error)

def Outcomes.RecordsRecovery (error : Thrown) : Prop :=
  match outcomes.recoverCommit with
  | .error _ => False
  | .ok .committed => outcomes.retained active true = none
  | .ok .notCommitted =>
    outcomes.RecordsRollback active candidate schemaText
      (("Switch commit did not occur; prior Gateways restored: " : JsString) ++ formatError schemaText error)
  | .ok .unknown =>
    Fits (("Switch commit is ambiguous and execution remains fenced: " : JsString) ++ formatError schemaText error)

def Outcomes.RecordsPromotion : Prop :=
  match outcomes.beforeCommit active candidate with
  | some error =>
    outcomes.RecordsRollback active candidate schemaText
      (("Switch failed before commit; both prior Gateways restored: " : JsString) ++ formatError schemaText error)
  | none =>
    ∀ error, outcomes.commit active = some error → outcomes.RecordsRecovery active candidate schemaText error

end

def Phase.isResting : Phase → Bool
  | steady => true
  | trial => true
  | repairRequired => true
  | _ => false

def Recorded {α : Type} (result : Except Thrown α) (state : CoordinatorState) : Prop :=
  state.status.phase.isResting = true ∧ ∀ status, result ≠ .error (.schema (.status status))

variable {outcomes : Outcomes} {computerId : JsString} {schemaText : Refused → JsString} {state : CoordinatorState}
  {status start : Status} {active candidate : Slot} {transition : Transition} {recovering : Bool} {marker : Option Bool}
  {detail : JsString} {α : Type}

structure Begun (start : Status) (active candidate : Slot) : Prop where
  valid : start.isValid
  active : start.active = active
  candidate : start.candidate = some candidate
  updateId : start.updateId.isSome

/-- The status is about the same update, candidate and active release, all of them valid. -/
structure Continues (start status : Status) (active candidate : Slot) : Prop where
  computerId : status.computerId = start.computerId
  updateId : status.updateId = start.updateId
  recovery : status.recovery = start.recovery
  active : status.active.isValid ∧ status.active.identity = active.identity
  candidate : ∃ slot, status.candidate = some slot ∧ slot.isValid ∧ slot.identity = candidate.identity
  phase : status.phase ≠ .steady

section

variable (h : Begun start active candidate)
include h

theorem Begun.recovery_eq_none : start.recovery = none := by
  have hvalid := h.valid
  simp only [isValid,isConsistent,Bool.and_eq_true] at hvalid
  cases hrecovery : start.recovery with
  | none => rfl
  | some recovery =>
    have hnone := hvalid.2.1.1.1
    rw [hrecovery,h.candidate] at hnone
    simp at hnone

theorem Begun.isValid_active : active.isValid := by
  have hvalid := h.valid
  simp only [isValid,Bool.and_eq_true] at hvalid
  rw [← h.active]
  exact hvalid.1.1.1.1.1.2

theorem Begun.isValid_candidate : candidate.isValid := by
  have hvalid := h.valid
  simp only [isValid,Bool.and_eq_true] at hvalid
  have hcandidate := hvalid.1.1.1.1.2
  rw [h.candidate,all_some] at hcandidate
  exact hcandidate

theorem Begun.gatewayNodeId_ne : candidate.gatewayNodeId ≠ active.gatewayNodeId := by
  have hvalid := h.valid
  simp only [isValid,isConsistent,Bool.and_eq_true] at hvalid
  have hne := hvalid.2.2
  rw [h.candidate,all_some,h.active] at hne
  exact of_decide_eq_true hne

end

theorem Continues.isValid_iff (h : Continues start status active candidate) (hbegun : Begun start active candidate)
    (hdetail : status.detail = some detail) : status.isValid ↔ Fits detail := by
  obtain ⟨slot,hslot,hvalid,hidentity⟩ := h.candidate
  obtain ⟨updateId,hupdateId⟩ := isSome_iff_exists.mp hbegun.updateId
  have hstart := hbegun.valid
  simp only [isValid,Bool.and_eq_true,hupdateId,all_some] at hstart
  obtain ⟨⟨⟨⟨⟨⟨hcomputerId,-⟩,-⟩,-⟩,hid⟩,-⟩,-⟩ := hstart
  have hne : slot.gatewayNodeId ≠ status.active.gatewayNodeId := by
    have hslotNode : slot.gatewayNodeId = candidate.gatewayNodeId := congrArg Identity.gatewayNodeId hidentity
    have hactiveNode : status.active.gatewayNodeId = active.gatewayNodeId := congrArg Identity.gatewayNodeId h.active.2
    rw [hslotNode,hactiveNode]
    exact hbegun.gatewayNodeId_ne
  have hconsistent : status.isConsistent := by
    simp [isConsistent,h.recovery,hbegun.recovery_eq_none,hslot,h.updateId,hupdateId,h.phase,hne]
  simp [isValid,h.recovery,hbegun.recovery_eq_none,hslot,h.updateId,hupdateId,h.computerId,h.active.1,
    hcomputerId,hvalid,hid,hdetail,hconsistent,Fits]

structure InTransaction (computerId : JsString) (start : Status) (active candidate : Slot) (state : CoordinatorState) :
    Prop where
  valid : state.check computerId = none
  unscheduled : state.scheduledPromotion = none
  continues : Continues start state.status active candidate

theorem InTransaction.check_withStatus (h : InTransaction computerId start active candidate state)
    (hvalid : status.isValid) (hcomputerId : status.computerId = start.computerId)
    (hmarker : (state.withStatus status marker).commitStarted →
      status.phase = .committing ∨ status.phase = .repairRequired) :
    (state.withStatus status marker).check computerId = none := by
  obtain ⟨-,hcomputer,-,-⟩ := check_eq_none_iff.mp h.valid
  refine check_eq_none_iff.mpr ⟨hvalid,?_,hmarker,?_⟩
  · rw [← hcomputer,h.continues.computerId]
    exact hcomputerId
  · intro scheduled hscheduled
    simp only [CoordinatorState.withStatus,h.unscheduled,ite_self] at hscheduled
    cases hscheduled

theorem InTransaction.withStatus (marker : Option Bool) (h : InTransaction computerId start active candidate state)
    (hcontinues : Continues start status active candidate) (hvalid : status.isValid)
    (hmarker : (state.withStatus status marker).commitStarted →
      status.phase = .committing ∨ status.phase = .repairRequired) :
    InTransaction computerId start active candidate (state.withStatus status marker) where
  valid := h.check_withStatus hvalid hcontinues.computerId hmarker
  unscheduled := by simp only [CoordinatorState.withStatus,h.unscheduled,ite_self]
  continues := hcontinues

variable {post : Except Thrown Status → CoordinatorState → Bool → Prop} {expected : Slot}
  {label : JsString} {condition : Prop}

theorem ends_writeStatus (hvalid : state.check computerId = none) (hstatus : status.isValid)
    (hcheck : (state.withStatus status marker).check computerId = none)
    (hpost : post (.ok status) (state.withStatus status marker) recovering) :
    Ends outcomes post (writeStatus computerId status marker) state recovering :=
  safe_writeStatus hvalid (fun _ => ⟨trivial,hpost⟩) fun _ hrefused => absurd ⟨hstatus,hcheck⟩ hrefused

theorem ends_writeStatus_refused
    (hstatus : status.isValid = false) (hpost : post (.error (.schema (.status status))) state recovering) :
    Ends outcomes post (writeStatus computerId status marker) state recovering := by
  refine safe_bind.mpr (safe_refuseUnless.mpr ?_)
  rw [hstatus]
  exact hpost

/-- A status is written where a condition holds, and refused otherwise. -/
def RecordedIff (condition : Prop) (state : CoordinatorState) :
    Except Thrown Status → CoordinatorState → Bool → Prop :=
  fun result state' _ => (condition ∧ (∃ value,result = .ok value) ∧ state'.status.phase.isResting) ∨
    (¬ condition ∧ (∃ status,result = .error (.schema (.status status))) ∧ state' = state)

theorem ends_recordedIff (h : InTransaction computerId start active candidate state)
    (hbegun : Begun start active candidate) (hcontinues : Continues start status active candidate)
    (hresting : status.phase.isResting) (hdetail : status.detail = some detail)
    (hmarker : (state.withStatus status marker).commitStarted →
      status.phase = .committing ∨ status.phase = .repairRequired) :
    Ends outcomes (RecordedIff (Fits detail) state) (writeStatus computerId status marker) state recovering := by
  by_cases hfits : Fits detail
  · have hvalid := (hcontinues.isValid_iff hbegun hdetail).mpr hfits
    exact ends_writeStatus h.valid hvalid (h.check_withStatus hvalid hcontinues.computerId hmarker)
      (.inl ⟨hfits,⟨_,rfl⟩,hresting⟩)
  · have hrefused : status.isValid = false := by
      cases hvalid : status.isValid with
      | false => rfl
      | true => exact absurd ((hcontinues.isValid_iff hbegun hdetail).mp hvalid) hfits
    exact ends_writeStatus_refused hrefused (.inr ⟨hfits,⟨_,rfl⟩,rfl⟩)

theorem ends_markRepairRequired (h : InTransaction computerId start active candidate state)
    (hbegun : Begun start active candidate) {marked : Bool} :
    Ends outcomes (RecordedIff (Fits detail) state) (markRepairRequired computerId state.status detail marked) state
      recovering := by
  exact ends_recordedIff h hbegun { h.continues with phase := fun hphase => by cases hphase } rfl rfl fun _ => .inr rfl

/-- The host answers a request, or throws. -/
theorem ends_host {request : Request} {outcome : Except JsString request.Reply} {recovering' : Bool}
    {post : Except Thrown request.Reply → CoordinatorState → Bool → Prop}
    (hanswer : outcomes.answer recovering request = (outcome.mapError .host,recovering'))
    (herror : ∀ text,outcome = .error text → post (.error (.host text)) state recovering')
    (hok : ∀ reply,outcome = .ok reply → post (.ok reply) state recovering') :
    Ends outcomes post (perform request) state recovering := by
  refine safe_perform.mpr ⟨trivial,fun reply' host' hanswer' => ⟨trivial,?_⟩⟩
  obtain ⟨rfl,rfl⟩ := Prod.mk.inj (hanswer'.trans hanswer)
  cases outcome with
  | error text => exact herror text rfl
  | ok reply => exact hok reply rfl

theorem ends_refuseUnless {condition : Bool} {thrown : Thrown}
    {post : Except Thrown Unit → CoordinatorState → Bool → Prop} (hok : condition → post (.ok ()) state recovering)
    (herror : condition = false → post (.error thrown) state recovering) :
    Ends outcomes post (refuseUnless condition thrown) state recovering := by
  cases condition with
  | true => exact hok rfl
  | false => exact herror rfl

theorem slotFailure_eq_none {slot : Slot} :
    slotFailure expected label (some slot) = none ↔ slot.isValid ∧ slot.identity = expected.identity := by
  rw [slotFailure,bind_some]
  split
  · next hvalid => simp [hvalid]
  · next hvalid =>
    split
    · next hidentity => simp [hidentity]
    · next hidentity => simp [Bool.of_not_eq_false hvalid,not_not.mp hidentity]

theorem slotFailure_congr {expected' : Slot} (h : expected.identity = expected'.identity) (label : JsString)
    (actual : Option Slot) : slotFailure expected label actual = slotFailure expected' label actual := by
  rw [slotFailure,slotFailure,h]

/-- A slot that the host leaves out is the recorded one, which is the expected one. -/
theorem slotFailure_getD {fallback : Slot} (hvalid : fallback.isValid)
    (hidentity : fallback.identity = expected.identity) (label : JsString) (actual : Option Slot) :
    slotFailure expected label (some (actual.getD fallback)) = slotFailure expected label actual := by
  cases actual with
  | none => exact slotFailure_eq_none.mpr ⟨hvalid,hidentity⟩
  | some slot => rfl

theorem ends_assertMatchingSlot {actual : Slot} {post : Except Thrown Unit → CoordinatorState → Bool → Prop}
    (hok : slotFailure expected label (some actual) = none → post (.ok ()) state recovering)
    (herror : ∀ error,slotFailure expected label (some actual) = some error → post (.error error) state recovering) :
    Ends outcomes post (assertMatchingSlot expected actual label) state recovering := by
  refine safe_bind.mpr (safe_refuseUnless.mpr ?_)
  rw [slotFailure,bind_some] at hok herror
  cases hvalid : actual.isValid with
  | false => exact herror _ (if_pos hvalid)
  | true =>
    rw [if_neg (by rw [hvalid]; decide)] at hok herror
    refine safe_refuseUnless.mpr ?_
    by_cases hidentity : actual.identity = expected.identity
    · rw [if_pos (decide_eq_true hidentity)]
      exact hok (if_neg (not_not.mpr hidentity))
    · rw [if_neg (by rw [decide_eq_true_eq]; exact hidentity)]
      exact herror _ (if_pos hidentity)

/-- A program throws the failure if there is one, and leaves the file as described. -/
def ThrowsIff (failure : Option Thrown) (left : CoordinatorState → Prop)
    (post : Except Thrown α → CoordinatorState → Prop) : Except Thrown α → CoordinatorState → Bool → Prop :=
  fun result state' _ =>
    match failure with
    | some error => result = .error error ∧ left state'
    | none => post result state'

def Finished (result : Except Thrown Status) (state' : CoordinatorState) : Prop :=
  (∃ value,result = .ok value) ∧ state'.status.phase = .steady

theorem ThrowsIff.cases {failure : Option Thrown} {left : CoordinatorState → Prop}
    {post : Except Thrown α → CoordinatorState → Prop} {result : Except Thrown α}
    (h : ThrowsIff failure left post result state recovering) :
    (∃ error,failure = some error ∧ result = .error error ∧ left state) ∨ failure = none ∧ post result state := by
  cases failure with
  | some error => exact .inl ⟨error,rfl,h⟩
  | none => exact .inr ⟨rfl,h⟩

section

variable (h : InTransaction computerId start active candidate state)
include h

theorem InTransaction.exists_transition
    (hbegun : Begun start active candidate) : ∃ transition, transitionFromStatus state.status = some transition := by
  obtain ⟨slot,hslot,-,-⟩ := h.continues.candidate
  obtain ⟨updateId,hupdateId⟩ := isSome_iff_exists.mp hbegun.updateId
  exact ⟨⟨updateId,state.status.computerId,state.status.generation,state.status.active,slot⟩,
    transitionFromStatus_eq_some.mpr ⟨slot,hslot,h.continues.updateId.trans hupdateId,rfl⟩⟩

section

variable (ht : transitionFromStatus state.status = some transition)
include ht

theorem InTransaction.active_identity : transition.active.identity = active.identity := by
  rw [← active_of_transition ht]
  exact h.continues.active.2

theorem InTransaction.candidate_identity : transition.candidate.identity = candidate.identity := by
  obtain ⟨slot,hslot,-,hidentity⟩ := h.continues.candidate
  have hcandidate := candidate_of_transition ht
  rw [hslot] at hcandidate
  rw [← some.inj hcandidate]
  exact hidentity

/-- The slots that the host returns, or else the recorded ones, are the releases of the transaction. -/
theorem ends_assertReturned {lost : JsString} {active' candidate' : Option Slot} {next : Slot → Program Status}
    (herror : ∀ error,(slotFailure active label active').or (slotFailure candidate "Prepared candidate" candidate') =
      some error → post (.error error) state recovering)
    (hok : (slotFailure active label active').or (slotFailure candidate "Prepared candidate" candidate') = none →
      (active'.getD state.status.active).isValid → (active'.getD state.status.active).identity = active.identity →
      ∀ slot,slot.isValid → slot.identity = candidate.identity → Ends outcomes post (next slot) state recovering) :
    Ends outcomes post (do
      assertMatchingSlot transition.active (active'.getD state.status.active) label
      match candidate'.or state.status.candidate with
      | none => .throw (.coordinator (.noCandidate lost))
      | some candidate =>
        assertPreparedCandidate transition candidate
        next candidate) state recovering := by
  obtain ⟨slot,hslot,hslotValid,hslotIdentity⟩ := h.continues.candidate
  have hactive := h.active_identity ht
  have hcandidate := h.candidate_identity ht
  refine safe_bind.mpr (ends_assertMatchingSlot (fun hmatches => ?_) fun error hfails => ?_)
  · obtain ⟨hvalid,hidentity⟩ := slotFailure_eq_none.mp hmatches
    rw [slotFailure_congr hactive,slotFailure_getD h.continues.active.1 h.continues.active.2] at hmatches
    rw [hmatches,none_or] at herror hok
    dsimp only [onResult]
    rw [hslot,or_some]
    refine safe_bind.mpr (ends_assertMatchingSlot (fun hprepared => ?_) fun error hfails => ?_)
    · obtain ⟨hvalid',hidentity'⟩ := slotFailure_eq_none.mp hprepared
      rw [slotFailure_congr hcandidate,slotFailure_getD hslotValid hslotIdentity] at hprepared
      exact hok hprepared hvalid (hidentity.trans hactive) _ hvalid' (hidentity'.trans hcandidate)
    · rw [slotFailure_congr hcandidate,slotFailure_getD hslotValid hslotIdentity] at hfails
      exact herror error hfails
  · rw [slotFailure_congr hactive,slotFailure_getD h.continues.active.1 h.continues.active.2] at hfails
    exact herror error (by rw [hfails,some_or])

end

end

/-- What the host answers to a rollback is used where it is the release of the transaction. -/
theorem ends_rollback (h : InTransaction computerId start active candidate state)
    (hbegun : Begun start active candidate) (ht : transitionFromStatus state.status = some transition) :
    Ends outcomes (ThrowsIff (outcomes.rollback active candidate) (· = state) fun result state' =>
      RecordedIff (Fits detail) state result state' recovering) (do
      let restored ← Host.rollbackPreCommit transition
      let active := restored.active.getD state.status.active
      assertMatchingSlot transition.active active "Restored active Gateway"
      match restored.candidate.or state.status.candidate with
      | none => .throw (.coordinator (.noCandidate "Restored"))
      | some candidate =>
        assertPreparedCandidate transition candidate
        writeStatus computerId
          { state.status with
            phase := .trial, active, candidate := some candidate, activeTurns := none, detail := some detail }
          (some false)) state recovering := by
  rw [Outcomes.rollback]
  refine safe_bind.mpr (ends_host rfl (fun text hrollback => ?_) fun restored hrollback => ?_)
  · rw [hrollback]
    exact ⟨rfl,rfl⟩
  · rw [hrollback]
    refine ends_assertReturned h ht (fun error herror => ?_) fun hok hvalid hidentity slot hslot hslotIdentity => ?_
    · dsimp only
      rw [herror]
      exact ⟨rfl,rfl⟩
    · dsimp only
      rw [hok]
      exact ends_recordedIff h hbegun { h.continues with
        active := ⟨hvalid,hidentity⟩
        candidate := ⟨_,rfl,hslot,hslotIdentity⟩
        phase := fun hphase => by cases hphase } rfl rfl fun hmarker => by cases hmarker

theorem fits_of_append {text more : JsString} (hdetail : 1 ≤ detail.length) (h : Fits (detail ++ text ++ more)) :
    Fits detail := by
  obtain ⟨-,hlength⟩ := h
  rw [JsString.length_append,JsString.length_append] at hlength
  exact ⟨hdetail,by omega⟩

theorem ends_rollbackToTrial (h : InTransaction computerId start active candidate state)
    (hbegun : Begun start active candidate) (ht : transitionFromStatus state.status = some transition)
    (hdetail : 1 ≤ detail.length) :
    Ends outcomes (RecordedIff (outcomes.RecordsRollback active candidate schemaText detail) state)
      (rollbackToTrial computerId schemaText state.status transition detail) state recovering := by
  refine Safe.handle _ (ends_rollback h hbegun ht) ?_ ?_
  · intro value state' recovering' hattempt
    rcases hattempt.cases with ⟨error,-,herror,-⟩ | ⟨hrollback,hrecorded⟩
    · cases herror
    · rw [Outcomes.RecordsRollback,hrollback]
      exact hrecorded
  · intro error state' recovering' hattempt
    rcases hattempt.cases with ⟨error',hrollback,herror,rfl⟩ | ⟨hrollback,hrecorded⟩
    · obtain rfl := Except.error.inj herror
      rw [Outcomes.RecordsRollback,hrollback]
      exact ends_markRepairRequired h hbegun
    · rw [Outcomes.RecordsRollback,hrollback]
      rcases hrecorded with ⟨-,⟨value,hvalue⟩,-⟩ | ⟨hfits,⟨status,hstatus⟩,rfl⟩
      · cases hvalue
      · refine (ends_markRepairRequired h hbegun).mono fun result state' _ hmarked => ?_
        rcases hmarked with ⟨hlonger,-⟩ | hrefused
        · exact absurd (fits_of_append hdetail hlonger) hfits
        · exact .inr ⟨hfits,hrefused.2⟩

theorem fits_recoveryDetail (recovery : Option RecoverySlot) : Fits (recoveryDetail recovery) := by
  have hretained : Fits "New Gateway is active; the previous version remains available for repair" :=
    ⟨by decide,by decide⟩
  have halone : Fits "All projects and sessions now use the promoted Gateway" := ⟨by decide,by decide⟩
  cases recovery with
  | none => exact halone
  | some slot => exact hretained

theorem recoveryFailure_eq_none {slot : RecoverySlot} :
    recoveryFailure active (some slot) = none ↔ slot.isValid ∧ slot.identity = active.identity := by
  rw [recoveryFailure]
  split
  · next hvalid => simp [hvalid]
  · next hvalid =>
    split
    · next hidentity => simp [hidentity]
    · next hidentity => simp [Bool.of_not_eq_false hvalid,not_not.mp hidentity]

/-- The status that a commit ends with, where the retained recovery is the previous release. -/
def finished (status : Status) (slot : Slot) (recovery : Option RecoverySlot) : Status where
  computerId := status.computerId
  generation := status.generation + 1
  phase := .steady
  active := slot
  candidate := none
  recovery := recovery
  updateId := none
  activeTurns := none
  detail := some (recoveryDetail recovery)

theorem isValid_finished (hbegun : Begun start active candidate)
    (hcontinues : Continues start status active candidate) {slot : Slot} (hslot : status.candidate = some slot)
    {recovery : Option RecoverySlot} (hrecovery : recoveryFailure active recovery = none) :
    (finished status slot recovery).isValid := by
  obtain ⟨slot',hslot',hvalid,hidentity⟩ := hcontinues.candidate
  rw [hslot] at hslot'
  obtain rfl := some.inj hslot'
  have hstart := hbegun.valid
  simp only [isValid,Bool.and_eq_true] at hstart
  have hcomputerId : isOpaqueId status.computerId := by
    rw [hcontinues.computerId]
    exact hstart.1.1.1.1.1.1
  have hfits := fits_recoveryDetail recovery
  cases recovery with
  | none => simp [isValid,isConsistent,finished,hcomputerId,hvalid,hfits.1,hfits.2]
  | some recovery =>
    obtain ⟨hrecoveryValid,hrecoveryIdentity⟩ := recoveryFailure_eq_none.mp hrecovery
    have hne : recovery.gatewayNodeId ≠ slot.gatewayNodeId := by
      have hnode : recovery.gatewayNodeId = active.gatewayNodeId := congrArg Identity.gatewayNodeId hrecoveryIdentity
      have hslotNode : slot.gatewayNodeId = candidate.gatewayNodeId := congrArg Identity.gatewayNodeId hidentity
      rw [hnode,hslotNode]
      exact hbegun.gatewayNodeId_ne.symm
    simp [isValid,isConsistent,finished,hcomputerId,hvalid,hfits.1,hfits.2,hrecoveryValid,hne]

/-- The commit is recorded where the retained recovery is the previous release. -/
theorem ends_finishCommit (h : InTransaction computerId start active candidate state)
    (hbegun : Begun start active candidate) (ht : transitionFromStatus state.status = some transition) :
    Ends outcomes (ThrowsIff (outcomes.retained active recovering) (· = state) Finished)
      (finishCommit computerId state.status) state recovering := by
  obtain ⟨slot,hslot,-,-⟩ := h.continues.candidate
  have hwrite {recovery : Option RecoverySlot} (hrecovery : recoveryFailure active recovery = none) :
      Ends outcomes (fun result state' _ => Finished result state')
        (writeStatus computerId (finished state.status slot recovery) (some false)) state recovering := by
    have hvalid := isValid_finished hbegun h.continues hslot hrecovery
    exact ends_writeStatus h.valid hvalid (h.check_withStatus hvalid h.continues.computerId fun hmarker => by
      cases hmarker) ⟨⟨_,rfl⟩,rfl⟩
  simp only [finishCommit,hslot,requireTransition_bind ht]
  rw [Outcomes.retained]
  refine safe_bind.mpr (ends_host rfl (fun text hretained => ?_) fun recovery hretained => ?_)
  · rw [hretained]
    exact ⟨rfl,rfl⟩
  · rw [hretained]
    dsimp only [onResult]
    cases recovery with
    | none => exact hwrite rfl
    | some recovery =>
      have hidentity := h.continues.active.2
      refine safe_bind.mpr (safe_refuseUnless.mpr ?_)
      by_cases hvalid : recovery.isValid
      · rw [if_pos hvalid]
        refine safe_bind.mpr (safe_refuseUnless.mpr ?_)
        by_cases heq : recovery.identity = state.status.active.identity
        · have hnone := recoveryFailure_eq_none.mpr ⟨hvalid,heq.trans hidentity⟩
          rw [if_pos (decide_eq_true heq),hnone]
          exact hwrite hnone
        · have hsome : recoveryFailure active (some recovery) = some (.coordinator .recoveryMismatch) := by
            rw [recoveryFailure,if_neg (by rw [hvalid]; decide),if_pos (hidentity ▸ heq)]
          rw [if_neg (by rw [decide_eq_true_eq]; exact heq),hsome]
          exact ⟨rfl,rfl⟩
      · have hsome : recoveryFailure active (some recovery) = some (.schema (.recovery recovery)) := by
          rw [recoveryFailure,if_pos (Bool.of_not_eq_true hvalid)]
        rw [if_neg hvalid,hsome]
        exact ⟨rfl,rfl⟩

/-- The file comes to rest where a condition holds, and the program throws otherwise. -/
def RestsIff (condition : Prop) : Except Thrown α → CoordinatorState → Bool → Prop :=
  fun result state' _ => (condition ∧ (∃ value,result = .ok value) ∧ state'.status.phase.isResting) ∨
    (¬ condition ∧ state'.status.phase.isResting = false)

theorem RecordedIff.restsIff {result : Except Thrown Status} {state' : CoordinatorState}
    (h : RecordedIff condition state result state' recovering) (hphase : state.status.phase.isResting = false) :
    RestsIff condition result state' recovering := by
  rcases h with hrecorded | ⟨hcondition,-,rfl⟩
  · exact .inl hrecorded
  · exact .inr ⟨hcondition,hphase⟩

theorem ends_discardResult {program : Program Status} (hphase : state.status.phase.isResting = false)
    (h : Ends outcomes (RecordedIff condition state) program state recovering) :
    Ends outcomes (RestsIff condition) (do let _ ← program) state recovering := by
  refine Safe.bind h ?_ ?_
  · rintro value state' recovering' (⟨hcondition,-,hresting⟩ | ⟨-,⟨status,hstatus⟩,-⟩)
    · exact .inl ⟨hcondition,⟨(),rfl⟩,hresting⟩
    · cases hstatus
  · rintro error state' recovering' (⟨-,⟨value,hvalue⟩,-⟩ | ⟨hcondition,-,rfl⟩)
    · cases hvalue
    · exact .inr ⟨hcondition,hphase⟩

variable {error : Thrown}

/-- The handler of a promotion throws the error again at its end. -/
theorem ends_rethrow {β : Type} {program : Program α} (hnot : ∀ status,error ≠ .schema (.status status))
    (h : Ends outcomes (RestsIff condition) program state recovering) :
    Ends outcomes (fun (result : Except Thrown β) state' _ => Recorded result state' ↔ condition)
      (program >>= fun _ => .throw error) state recovering := by
  refine Safe.bind h ?_ ?_
  · rintro value state' recovering' (⟨hcondition,-,hresting⟩ | ⟨hcondition,hresting⟩)
    · refine iff_of_true ⟨hresting,fun status hstatus => ?_⟩ hcondition
      exact hnot status (Except.error.inj hstatus)
    · refine iff_of_false (fun hrecorded => ?_) hcondition
      rw [hrecorded.1] at hresting
      cases hresting
  · rintro error state' recovering' (⟨-,⟨value,hvalue⟩,-⟩ | ⟨hcondition,hresting⟩)
    · cases hvalue
    · refine iff_of_false (fun hrecorded => ?_) hcondition
      rw [hrecorded.1] at hresting
      cases hresting

theorem ends_recoverCommitAfterFailure (h : InTransaction computerId start active candidate state)
    (hbegun : Begun start active candidate) (ht : transitionFromStatus state.status = some transition)
    (hphase : state.status.phase = .committing) (error : Thrown) :
    Ends outcomes (RestsIff (outcomes.RecordsRecovery active candidate schemaText error))
      (recoverCommitAfterFailure computerId schemaText state.status transition error) state recovering := by
  have hresting : state.status.phase.isResting = false := by
    rw [hphase]
    rfl
  have hdetail : 1 ≤ (("Switch commit did not occur; prior Gateways restored: " : JsString) ++
      formatError schemaText error).length := by
    rw [JsString.length_append]
    exact Nat.le_add_right_of_le (by decide)
  rw [Outcomes.RecordsRecovery]
  refine safe_bind.mpr (ends_host rfl (fun text hrecover => ?_) fun result hrecover => ?_)
  · rw [hrecover]
    exact .inr ⟨id,hresting⟩
  · rw [hrecover]
    cases result with
    | committed =>
      refine Safe.bind (ends_finishCommit h hbegun ht) ?_ ?_
      · intro value state' recovering' hfinished
        rcases hfinished.cases with ⟨error,-,herror,-⟩ | ⟨hretained,-,hsteady⟩
        · cases herror
        · exact .inl ⟨hretained,⟨(),rfl⟩,hsteady ▸ rfl⟩
      · intro error state' recovering' hfinished
        rcases hfinished.cases with ⟨error',hretained,-,rfl⟩ | ⟨-,⟨value,hvalue⟩,-⟩
        · exact .inr ⟨ne_none_iff_exists'.mpr ⟨error',hretained⟩,hresting⟩
        · cases hvalue
    | notCommitted => exact ends_discardResult hresting (ends_rollbackToTrial h hbegun ht hdetail)
    | unknown => exact ends_discardResult hresting (ends_markRepairRequired h hbegun)

/-- Where the handler of a promotion finds the file before the commit. -/
structure BeforeMarker (computerId : JsString) (start : Status) (active candidate : Slot) (state : CoordinatorState) :
    Prop where
  transaction : InTransaction computerId start active candidate state
  phase : state.status.phase = .draining ∨ state.status.phase = .transferring
  unmarked : state.commitStarted = false

/-- Where it finds the file once the commit has begun. -/
structure AfterMarker (computerId : JsString) (start : Status) (active candidate : Slot) (state : CoordinatorState) :
    Prop where
  transaction : InTransaction computerId start active candidate state
  phase : state.status.phase = .committing

theorem ends_commitCandidate (h : AfterMarker computerId start active candidate state)
    (hbegun : Begun start active candidate) (ht : transitionFromStatus state.status = some transition) :
    Ends outcomes
      (fun result state' recovering' => ThrowsIff (outcomes.commit active)
        (AfterMarker computerId start active candidate) Finished result state' recovering')
      (do Host.commitCandidate transition; finishCommit computerId state.status) state false := by
  rw [Outcomes.commit]
  refine safe_bind.mpr (ends_host rfl (fun text hcommit => ?_) fun value hcommit => ?_)
  · rw [hcommit]
    exact ⟨rfl,h⟩
  · rw [hcommit,failed,none_or]
    refine (ends_finishCommit h.transaction hbegun ht).mono fun result state' recovering' hfinished => ?_
    rcases hfinished.cases with ⟨error,hretained,hresult,rfl⟩ | ⟨hretained,hfinished⟩
    · rw [hretained]
      exact ⟨hresult,h⟩
    · rw [hretained]
      exact hfinished

theorem ends_transferState (h : BeforeMarker computerId start active candidate state)
    (hbegun : Begun start active candidate) (hstatus : state.status = status) :
    Ends outcomes
      (ThrowsIff (outcomes.transfer candidate) (BeforeMarker computerId start active candidate) fun result state' =>
        ThrowsIff (outcomes.commit active) (AfterMarker computerId start active candidate) Finished result state' false)
      (do
        let transition ← requireTransition status
        let transferred ← Host.transferState transition
        assertPreparedCandidate transition transferred
        let status ← writeStatus computerId
          { status with
            phase := .committing
            candidate := some transferred
            detail := some "Candidate accepted the complete handoff; committing all routes" } (some true)
        let transition ← requireTransition status
        Host.commitCandidate transition
        finishCommit computerId status) state false := by
  subst hstatus
  obtain ⟨transition,ht⟩ := h.transaction.exists_transition hbegun
  have hcandidate := h.transaction.candidate_identity ht
  rw [requireTransition_bind ht,Outcomes.transfer]
  refine safe_bind.mpr (ends_host rfl (fun text htransfer => ?_) fun transferred htransfer => ?_)
  · rw [htransfer]
    exact ⟨rfl,h⟩
  · rw [htransfer]
    refine safe_bind.mpr (ends_assertMatchingSlot (fun hok => ?_) fun error herror => ?_)
    · obtain ⟨hvalid,hidentity⟩ := slotFailure_eq_none.mp hok
      rw [slotFailure_congr hcandidate] at hok
      dsimp only
      rw [hok]
      have hcontinues : Continues start { state.status with
          phase := .committing
          candidate := some transferred
          detail := some "Candidate accepted the complete handoff; committing all routes" } active candidate :=
        { h.transaction.continues with
          candidate := ⟨_,rfl,hvalid,hidentity.trans hcandidate⟩
          phase := fun hphase => by cases hphase }
      have hstatus := (hcontinues.isValid_iff hbegun rfl).mpr ⟨by decide,by decide⟩
      have hcommitting := h.transaction.withStatus (some true) hcontinues hstatus fun _ => .inl rfl
      refine safe_bind.mpr (ends_writeStatus h.transaction.valid hstatus hcommitting.valid ?_)
      obtain ⟨transition',ht'⟩ := hcommitting.exists_transition hbegun
      dsimp only [CoordinatorState.withStatus] at ht'
      dsimp only [onResult]
      rw [requireTransition_bind ht']
      exact ends_commitCandidate ⟨hcommitting,rfl⟩ hbegun ht'
    · rw [slotFailure_congr hcandidate] at herror
      dsimp only
      rw [herror]
      exact ⟨rfl,h⟩

/-- What the host returns from the drain is used where it is the release of the transaction. -/
theorem ends_attemptPromotion (h : BeforeMarker computerId start active candidate state)
    (hbegun : Begun start active candidate) (ht : transitionFromStatus state.status = some transition) (mode : Mode) :
    Ends outcomes
      (ThrowsIff (outcomes.beforeCommit active candidate) (BeforeMarker computerId start active candidate)
        fun result state' =>
          ThrowsIff (outcomes.commit active) (AfterMarker computerId start active candidate) Finished result state' false)
      (attemptPromotion computerId state.status transition mode) state false := by
  rw [Outcomes.beforeCommit]
  refine safe_bind.mpr (ends_host rfl (fun text hdrain => ?_) fun drained hdrain => ?_)
  · rw [hdrain]
    exact ⟨rfl,h⟩
  · rw [hdrain]
    refine ends_assertReturned h.transaction ht (fun error herror => ?_) fun hok hvalid hidentity slot hslot hsame => ?_
    · dsimp only
      rw [herror]
      exact ⟨rfl,h⟩
    · dsimp only
      rw [hok,none_or]
      have hcontinues : Continues start { state.status with
          phase := .transferring
          active := drained.active.getD state.status.active
          candidate := some slot
          activeTurns := drained.activeTurns.or state.status.activeTurns
          detail := some "Transferring all projects and persisted sessions to the candidate" } active candidate :=
        { h.transaction.continues with
          active := ⟨hvalid,hidentity⟩
          candidate := ⟨_,rfl,hslot,hsame⟩
          phase := fun hphase => by cases hphase }
      have hstatus := (hcontinues.isValid_iff hbegun rfl).mpr ⟨by decide,by decide⟩
      have hmarker : (state.withStatus { state.status with
          phase := .transferring
          active := drained.active.getD state.status.active
          candidate := some slot
          activeTurns := drained.activeTurns.or state.status.activeTurns
          detail := some "Transferring all projects and persisted sessions to the candidate" } none).commitStarted =
          false := Bool.and_false _
      have htransferring := h.transaction.withStatus none hcontinues hstatus fun hmarked => by
        rw [hmarker] at hmarked
        cases hmarked
      refine safe_bind.mpr (ends_writeStatus h.transaction.valid hstatus htransferring.valid ?_)
      exact ends_transferState ⟨htransferring,.inr rfl,hmarker⟩ hbegun rfl

theorem slotFailure_ne_status {actual : Option Slot}
    (h : slotFailure expected label actual = some error) : ∀ status, error ≠ .schema (.status status) := by
  rintro status rfl
  cases actual with
  | none => cases h
  | some slot =>
    rw [slotFailure,bind_some] at h
    split at h
    · cases h
    · split at h
      · cases h
      · cases h

theorem transfer_ne_status (h : outcomes.transfer candidate = some error) :
    ∀ status, error ≠ .schema (.status status) := by
  rw [Outcomes.transfer] at h
  split at h
  · rintro status rfl
    cases h
  · exact slotFailure_ne_status h

theorem beforeCommit_ne_status (h : outcomes.beforeCommit active candidate = some error) :
    ∀ status, error ≠ .schema (.status status) := by
  rw [Outcomes.beforeCommit] at h
  split at h
  · rintro status rfl
    cases h
  · rcases or_eq_some_iff.mp h with h | ⟨-,h⟩
    · rcases or_eq_some_iff.mp h with h | ⟨-,h⟩
      · exact slotFailure_ne_status h
      · exact slotFailure_ne_status h
    · exact transfer_ne_status h

theorem failed_ne_status {result : Except JsString α} (h : failed result = some error) :
    ∀ status, error ≠ .schema (.status status) := by
  rintro status rfl
  cases result with
  | ok | error => cases h

theorem commit_ne_status (h : outcomes.commit active = some error) : ∀ status, error ≠ .schema (.status status) := by
  rcases or_eq_some_iff.mp h with h | ⟨-,h⟩
  · exact failed_ne_status h
  · rw [Outcomes.retained] at h
    rintro status rfl
    split at h
    · cases h
    · next recovery hrecovery =>
      cases recovery with
      | none => cases h
      | some slot =>
        rw [recoveryFailure] at h
        split at h
        · cases h
        · split at h
          · cases h
          · cases h

theorem ends_beforeMarker (h : BeforeMarker computerId start active candidate state)
    (hbegun : Begun start active candidate) (hnot : ∀ status,error ≠ .schema (.status status)) :
    Ends outcomes (fun result state' _ => Recorded result state' ↔
      outcomes.RecordsRollback active candidate schemaText
        (("Switch failed before commit; both prior Gateways restored: " : JsString) ++ formatError schemaText error))
      (recoverPromotion computerId schemaText error) state recovering := by
  obtain ⟨transition,ht⟩ := h.transaction.exists_transition hbegun
  have hresting : state.status.phase.isResting = false := by
    rcases h.phase with hphase | hphase
    · exact hphase ▸ rfl
    · exact hphase ▸ rfl
  have hmarker : ¬ (state.commitStarted ∨ state.status.phase = .committing) := by
    rw [h.unmarked]
    rcases h.phase with hphase | hphase
    · simp [hphase]
    · simp [hphase]
  have hdetail : 1 ≤ (("Switch failed before commit; both prior Gateways restored: " : JsString) ++
      formatError schemaText error).length := by
    rw [JsString.length_append]
    exact Nat.le_add_right_of_le (by decide)
  refine safe_bind.mpr ((safe_readCoordinatorState h.transaction.valid).mpr ?_)
  dsimp only [onResult]
  rw [requireTransition_bind ht,if_neg hmarker]
  exact ends_rethrow hnot ((ends_rollbackToTrial h.transaction hbegun ht hdetail).mono fun _ _ _ hrecorded =>
    hrecorded.restsIff hresting)

theorem ends_afterMarker (h : AfterMarker computerId start active candidate state)
    (hbegun : Begun start active candidate) (hnot : ∀ status,error ≠ .schema (.status status)) :
    Ends outcomes (fun result state' _ => Recorded result state' ↔
      outcomes.RecordsRecovery active candidate schemaText error)
      (recoverPromotion computerId schemaText error) state recovering := by
  obtain ⟨transition,ht⟩ := h.transaction.exists_transition hbegun
  refine safe_bind.mpr ((safe_readCoordinatorState h.transaction.valid).mpr ?_)
  dsimp only [onResult]
  rw [requireTransition_bind ht,if_pos (.inr h.phase)]
  exact ends_rethrow hnot (ends_recoverCommitAfterFailure h.transaction hbegun ht h.phase error)

theorem ends_performPromotion (h : BeforeMarker computerId start active candidate state)
    (hbegun : Begun start active candidate) (ht : transitionFromStatus state.status = some transition) (mode : Mode) :
    Ends outcomes (fun result state' _ =>
      Recorded result state' ↔ outcomes.RecordsPromotion active candidate schemaText)
      (performPromotion computerId schemaText state.status transition mode) state false := by
  refine Safe.handle _ (ends_attemptPromotion h hbegun ht mode) ?_ ?_
  · intro value state' recovering' hattempt
    rcases hattempt.cases with ⟨error,-,herror,-⟩ | ⟨hbefore,hattempt⟩
    · cases herror
    rcases hattempt.cases with ⟨error,-,herror,-⟩ | ⟨hcommit,-,hsteady⟩
    · cases herror
    rw [Outcomes.RecordsPromotion,hbefore,hcommit]
    refine iff_of_true ⟨hsteady ▸ rfl,fun status hstatus => ?_⟩ fun error herror => ?_
    · cases hstatus
    · cases herror
  · intro error state' recovering' hattempt
    rw [Outcomes.RecordsPromotion]
    rcases hattempt.cases with ⟨error',hbefore,herror,hleft⟩ | ⟨hbefore,hattempt⟩
    · obtain rfl := Except.error.inj herror
      rw [hbefore]
      exact ends_beforeMarker hleft hbegun (beforeCommit_ne_status hbefore)
    rcases hattempt.cases with ⟨error',hcommit,herror,hleft⟩ | ⟨-,⟨value,hvalue⟩,-⟩
    · obtain rfl := Except.error.inj herror
      simp only [hbefore,hcommit,some.injEq,forall_eq']
      exact ends_afterMarker hleft hbegun (commit_ne_status hcommit)
    · cases hvalue

end Malink.Deployment
