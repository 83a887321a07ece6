import Malink.DurablePrograms
import Malink.JsStrings

/-!
# The deployment coordinator

One host runs the active Gateway and a candidate for its successor. The coordinator keeps the phase of the change
between them in a file, and asks the host for every step of it.
-/

namespace Malink.Deployment

open DurableProgram

structure Slot where
  gatewayNodeId : JsString
  releaseId : Option JsString
  buildId : JsString
  projectCount : ℕ
  sessionCount : ℕ
  deriving DecidableEq

structure RecoverySlot extends Slot where
  projectId : JsString
  sessionId : Option JsString
  retainedAt : ℕ
  deriving DecidableEq

inductive Phase
  | steady
  | preparing
  | trial
  | draining
  | transferring
  | committing
  | discarding
  | repairRequired
  deriving DecidableEq

structure Status where
  computerId : JsString
  generation : ℕ
  phase : Phase
  active : Slot
  candidate : Option Slot
  recovery : Option RecoverySlot
  updateId : Option JsString
  activeTurns : Option ℕ
  detail : Option JsString
  deriving DecidableEq

inductive Mode
  | whenIdle
  | force
  deriving DecidableEq

structure ScheduledPromotion where
  updateId : JsString
  mode : Mode
  scheduledAt : ℕ
  deriving DecidableEq

structure CoordinatorState where
  status : Status
  commitStarted : Bool
  rotatedRecovery : Option RecoverySlot
  scheduledPromotion : Option ScheduledPromotion
  deriving DecidableEq

structure Transition where
  updateId : JsString
  computerId : JsString
  generation : ℕ
  active : Slot
  candidate : Slot
  deriving DecidableEq

def isOpaqueId (id : JsString) : Bool := 1 ≤ id.length && id.length ≤ 256

def isAlphanumeric (unit : UInt16) : Bool :=
  (48 ≤ unit && unit ≤ 57) || (65 ≤ unit && unit ≤ 90) || (97 ≤ unit && unit ≤ 122)

/-- `/^[A-Za-z0-9][A-Za-z0-9._-]{0,127}$/` -/
def isReleaseId (id : JsString) : Bool :=
  match id.units with
  | [] => false
  | first :: rest =>
    isAlphanumeric first && rest.length ≤ 127 &&
      rest.all (fun unit => isAlphanumeric unit || unit == 45 || unit == 46 || unit == 95)

def Slot.isValid (slot : Slot) : Bool :=
  isOpaqueId slot.gatewayNodeId && slot.releaseId.all isReleaseId && isOpaqueId slot.buildId && slot.projectCount ≤ 256

def RecoverySlot.isValid (slot : RecoverySlot) : Bool :=
  slot.toSlot.isValid && isOpaqueId slot.projectId && slot.sessionId.all isOpaqueId

def maxDetail : ℕ := 4096

/-- The refinements of `gatewayDeploymentStatusSchema`. -/
def Status.isConsistent (status : Status) : Bool :=
  status.recovery.all (fun recovery =>
    decide (recovery.gatewayNodeId ≠ status.active.gatewayNodeId) && status.candidate.isNone) &&
  (status.phase = .steady || status.phase = .repairRequired || (status.candidate.isSome && status.updateId.isSome)) &&
  (status.phase ≠ .steady || (status.candidate.isNone && status.updateId.isNone)) &&
  status.candidate.all (fun candidate => decide (candidate.gatewayNodeId ≠ status.active.gatewayNodeId))

def Status.isValid (status : Status) : Bool :=
  isOpaqueId status.computerId && status.active.isValid && status.candidate.all Slot.isValid &&
    status.recovery.all RecoverySlot.isValid && status.updateId.all isOpaqueId &&
      status.detail.all (fun detail => 1 ≤ detail.length && detail.length ≤ maxDetail) && status.isConsistent

inductive CoordinatorError
  | anotherComputer
  | markerPhase
  | schedule
  | incomplete
  | mismatch (label : JsString)
  | noCandidate (label : JsString)
  | hasCandidate
  | cannotPrepare (phase : Phase)
  | sameNode
  | updateMismatch
  | updatePhase (updateId : JsString) (phase : Phase)
  | recoveryMismatch

inductive Refused
  | slot (slot : Slot)
  | recovery (slot : RecoverySlot)
  | status (status : Status)

inductive Thrown
  | host (text : JsString)
  | coordinator (error : CoordinatorError)
  | schema (refused : Refused)

def Phase.text : Phase → JsString
  | steady => "steady"
  | preparing => "preparing"
  | trial => "trial"
  | draining => "draining"
  | transferring => "transferring"
  | committing => "committing"
  | discarding => "discarding"
  | repairRequired => "repair_required"

def CoordinatorError.message : CoordinatorError → JsString
  | anotherComputer => "Gateway deployment state belongs to another computer"
  | markerPhase => "Gateway deployment commit marker has an invalid phase"
  | schedule => "Gateway deployment promotion schedule is invalid"
  | incomplete => "Gateway deployment transaction is incomplete"
  | mismatch label => label ++ " does not match the durable update transaction"
  | noCandidate label => label ++ " Gateway deployment has no candidate"
  | hasCandidate => "This computer already has a candidate Gateway; discard it before preparing another"
  | cannotPrepare phase => ("Cannot prepare a Gateway candidate while " : JsString) ++ phase.text
  | sameNode => "Candidate Gateway node ID matches the active deployment"
  | updateMismatch => "Gateway update ID does not match the active candidate"
  | updatePhase updateId phase => ("Gateway update " : JsString) ++ updateId ++ " is " ++ phase.text
  | recoveryMismatch => "Retained recovery does not match the previous Gateway release"

/-- What a drain returns. A host that returns nothing leaves all of it out. -/
structure Drained where
  activeTurns : Option ℕ
  active : Option Slot
  candidate : Option Slot
  deriving DecidableEq

structure Restored where
  active : Option Slot
  candidate : Option Slot
  deriving DecidableEq

inductive CommitResult
  | committed
  | notCommitted
  | unknown
  deriving DecidableEq

inductive Request
  | prepareCandidate (transition : Transition)
  | discardCandidate (transition : Transition)
  | drainDeployments (transition : Transition) (mode : Mode)
  | transferState (transition : Transition)
  | commitCandidate (transition : Transition)
  | retainedRecovery (transition : Transition)
  | rotateRecovery (recovery : RecoverySlot)
  | restoreRecovery (recovery : RecoverySlot)
  | rollbackPreCommit (transition : Transition)
  | recoverPreparation (transition : Transition)
  | recoverCommit (transition : Transition)

abbrev Request.Reply : Request → Type
  | prepareCandidate _ => Slot
  | discardCandidate _ => Unit
  | drainDeployments _ _ => Drained
  | transferState _ => Slot
  | commitCandidate _ => Unit
  | retainedRecovery _ => Option RecoverySlot
  | rotateRecovery _ => Unit
  | restoreRecovery _ => Unit
  | rollbackPreCommit _ => Restored
  | recoverPreparation _ => Option Slot
  | recoverCommit _ => CommitResult

abbrev Program (α : Type) := DurableProgram CoordinatorState Thrown Request Request.Reply α

namespace Host

def prepareCandidate (transition : Transition) : Program Slot := perform (Request.prepareCandidate transition)

def discardCandidate (transition : Transition) : Program Unit := perform (Request.discardCandidate transition)

def drainDeployments (transition : Transition) (mode : Mode) : Program Drained :=
  perform (Request.drainDeployments transition mode)

def transferState (transition : Transition) : Program Slot := perform (Request.transferState transition)

def commitCandidate (transition : Transition) : Program Unit := perform (Request.commitCandidate transition)

def retainedRecovery (transition : Transition) : Program (Option RecoverySlot) :=
  perform (Request.retainedRecovery transition)

def rotateRecovery (recovery : RecoverySlot) : Program Unit := perform (Request.rotateRecovery recovery)

def restoreRecovery (recovery : RecoverySlot) : Program Unit := perform (Request.restoreRecovery recovery)

def rollbackPreCommit (transition : Transition) : Program Restored := perform (Request.rollbackPreCommit transition)

def recoverPreparation (transition : Transition) : Program (Option Slot) :=
  perform (Request.recoverPreparation transition)

def recoverCommit (transition : Transition) : Program CommitResult := perform (Request.recoverCommit transition)

end Host

def refuseUnless (condition : Bool) (thrown : Thrown) : Program Unit := if condition then .pure () else .throw thrown

def ScheduledPromotion.isValid (scheduled : ScheduledPromotion) (status : Status) : Bool :=
  decide (status.phase = .draining) && decide (status.updateId = some scheduled.updateId)

def CoordinatorState.check (computerId : JsString) (state : CoordinatorState) : Option Thrown :=
  if state.status.isValid = false then some (.schema (.status state.status))
  else if state.status.computerId ≠ computerId then some (.coordinator .anotherComputer)
  else if state.commitStarted ∧ state.status.phase ≠ .committing ∧ state.status.phase ≠ .repairRequired then
    some (.coordinator .markerPhase)
  else if state.scheduledPromotion.any (fun scheduled => !scheduled.isValid state.status) then
    some (.coordinator .schedule)
  else none

section

variable (computerId : JsString)

def validateCoordinatorState (state : CoordinatorState) : Program Unit :=
  match state.check computerId with
  | none => .pure ()
  | some thrown => .throw thrown

def readCoordinatorState : Program CoordinatorState := do
  let state ← readState
  validateCoordinatorState computerId state
  return state

/-- The state after a status was written. Without a marker of its own, the write keeps the one there is only in the
phases that allow it. -/
def CoordinatorState.withStatus (state : CoordinatorState) (status : Status) (commitStarted : Option Bool) :
    CoordinatorState where
  status := status
  commitStarted := commitStarted.getD
    (state.commitStarted && (status.phase = .committing || status.phase = .repairRequired))
  rotatedRecovery := if status.phase = .steady then none else state.rotatedRecovery
  scheduledPromotion := if status.phase = .draining then state.scheduledPromotion else none

def changeState (change : CoordinatorState → CoordinatorState) : Program Status := do
  let state ← readCoordinatorState computerId
  validateCoordinatorState computerId (change state)
  writeState (change state)
  return (change state).status

def writeStatus (status : Status) (commitStarted : Option Bool) : Program Status := do
  refuseUnless status.isValid (.schema (.status status))
  changeState computerId (fun state => state.withStatus status commitStarted)

def transitionFromStatus (status : Status) : Option Transition :=
  match status.updateId, status.candidate with
  | some updateId, some candidate =>
    some ⟨updateId,status.computerId,status.generation,status.active,candidate⟩
  | _, _ => none

def requireTransition (status : Status) : Program Transition :=
  match transitionFromStatus status with
  | some transition => .pure transition
  | none => .throw (.coordinator .incomplete)

structure Identity where
  gatewayNodeId : JsString
  releaseId : Option JsString
  buildId : JsString
  deriving DecidableEq

def Slot.identity (slot : Slot) : Identity := ⟨slot.gatewayNodeId,slot.releaseId,slot.buildId⟩

def assertMatchingSlot (expected actual : Slot) (label : JsString) : Program Unit := do
  refuseUnless actual.isValid (.schema (.slot actual))
  refuseUnless (actual.identity = expected.identity) (.coordinator (.mismatch label))

def assertPreparedCandidate (transition : Transition) (candidate : Slot) : Program Unit :=
  assertMatchingSlot transition.candidate candidate "Prepared candidate"

def assertUpdate (status : Status) (updateId : JsString) : Program Unit := do
  refuseUnless (status.updateId = some updateId && updateId.truthy) (.coordinator .updateMismatch)
  refuseUnless (status.phase = .trial) (.coordinator (.updatePhase updateId status.phase))

section

-- The text of an error of a schema.
variable (schemaText : Refused → JsString)

def formatError : Thrown → JsString
  | .host text => text
  | .coordinator error => error.message
  | .schema refused => schemaText refused

def returnToSteady (status : Status) (detail : JsString) : Program Status :=
  writeStatus computerId
    { status with
      phase := .steady
      candidate := none
      updateId := none
      activeTurns := none
      detail := some detail } (some false)

def markRepairRequired (status : Status) (detail : JsString) (commitStarted : Bool) : Program Status :=
  writeStatus computerId { status with phase := .repairRequired, detail := some detail } (some commitStarted)

def rollbackToTrial (status : Status) (transition : Transition) (detail : JsString) : Program Status :=
  handle (do
    let restored ← Host.rollbackPreCommit transition
    let active := restored.active.getD status.active
    assertMatchingSlot transition.active active "Restored active Gateway"
    match restored.candidate.or status.candidate with
    | none => .throw (.coordinator (.noCandidate "Restored"))
    | some candidate =>
      assertPreparedCandidate transition candidate
      writeStatus computerId
        { status with phase := .trial, active, candidate := some candidate, activeTurns := none, detail := some detail }
        (some false))
    (fun error =>
      markRepairRequired computerId status (detail ++ "; rollback failed: " ++ formatError schemaText error) false)

def recoveryDetail : Option RecoverySlot → JsString
  | some _ => "New Gateway is active; the previous version remains available for repair"
  | none => "All projects and sessions now use the promoted Gateway"

def finishCommit (status : Status) : Program Status :=
  match status.candidate with
  | none => .throw (.coordinator (.noCandidate "Committed"))
  | some candidate => do
    let transition ← requireTransition status
    let recovery ← Host.retainedRecovery transition
    match recovery with
    | none => .pure ()
    | some slot => do
      refuseUnless slot.isValid (.schema (.recovery slot))
      refuseUnless (slot.identity = status.active.identity) (.coordinator .recoveryMismatch)
    writeStatus computerId
      { computerId := status.computerId
        generation := status.generation + 1
        phase := .steady
        active := candidate
        candidate := none
        recovery
        updateId := none
        activeTurns := none
        detail := some (recoveryDetail recovery) } (some false)

def restoreRotatedRecovery (status : Status) (recovery : Option RecoverySlot) (detail : JsString) : Program Status := do
  match recovery with
  | none => .pure ()
  | some recovery => Host.restoreRecovery recovery
  returnToSteady computerId { status with recovery := recovery.or status.recovery } detail

def recoverCommitAfterFailure (status : Status) (transition : Transition) (cause : Thrown) : Program Unit := do
  match ← Host.recoverCommit transition with
  | .committed =>
    let _ ← finishCommit computerId status
  | .notCommitted =>
    let _ ← rollbackToTrial computerId schemaText status transition
      (("Switch commit did not occur; prior Gateways restored: " : JsString) ++ formatError schemaText cause)
  | .unknown =>
    let _ ← markRepairRequired computerId status
      (("Switch commit is ambiguous and execution remains fenced: " : JsString) ++ formatError schemaText cause) true

def recoverCommit (status : Status) (transition : Transition) : Program Unit :=
  handle (do
    match ← Host.recoverCommit transition with
    | .committed =>
      let _ ← finishCommit computerId status
    | .notCommitted =>
      let _ ← rollbackToTrial computerId schemaText status transition
        "Interrupted switch did not commit; prior Gateways restored"
    | .unknown =>
      let _ ← markRepairRequired computerId status
        "Interrupted switch has an ambiguous ownership commit; execution remains fenced" true)
    (fun error => do
      let _ ← markRepairRequired computerId status
        (("Interrupted switch recovery failed: " : JsString) ++ formatError schemaText error) true)

def attemptPromotion (status : Status) (transition : Transition) (mode : Mode) : Program Status := do
  let drained ← Host.drainDeployments transition mode
  let active := drained.active.getD status.active
  assertMatchingSlot transition.active active "Drained active Gateway"
  match drained.candidate.or status.candidate with
  | none => .throw (.coordinator (.noCandidate "Drained"))
  | some candidate =>
    assertPreparedCandidate transition candidate
    let status ← writeStatus computerId
      { status with
        phase := .transferring
        active
        candidate := some candidate
        activeTurns := drained.activeTurns.or status.activeTurns
        detail := some "Transferring all projects and persisted sessions to the candidate" } none
    let transition ← requireTransition status
    let transferred ← Host.transferState transition
    assertPreparedCandidate transition transferred
    let status ← writeStatus computerId
      { status with
        phase := .committing
        candidate := some transferred
        detail := some "Candidate accepted the complete handoff; committing all routes" } (some true)
    let transition ← requireTransition status
    Host.commitCandidate transition
    finishCommit computerId status

/-- The handler of a promotion rolls back before the commit, and asks the host once it has begun. -/
def recoverPromotion (error : Thrown) : Program Status := do
  let latest ← readCoordinatorState computerId
  let transition ← requireTransition latest.status
  if latest.commitStarted ∨ latest.status.phase = .committing then
    recoverCommitAfterFailure computerId schemaText latest.status transition error
  else
    let _ ← rollbackToTrial computerId schemaText latest.status transition
      (("Switch failed before commit; both prior Gateways restored: " : JsString) ++ formatError schemaText error)
  .throw error

def performPromotion (status : Status) (transition : Transition) (mode : Mode) : Program Status :=
  handle (attemptPromotion computerId status transition mode) (recoverPromotion computerId schemaText)

def drainingDetail : Mode → JsString
  | .force => "Stopping active turns before switching all work"
  | .whenIdle => "Waiting for both Gateway deployments to become idle"

def promote (updateId : JsString) (mode : Mode) : Program Status := do
  let current ← readCoordinatorState computerId
  assertUpdate current.status updateId
  let transition ← requireTransition current.status
  let status ← writeStatus computerId
    { current.status with phase := .draining, detail := some (drainingDetail mode) } none
  performPromotion computerId schemaText status transition mode

def scheduledDetail : Mode → JsString
  | .force => "Promotion scheduled; active turns will be stopped before switching all work"
  | .whenIdle => "Promotion scheduled; waiting for both Gateway deployments to become idle"

def schedulePromote (updateId : JsString) (mode : Mode) (scheduledAt : ℕ) : Program Status := do
  let current ← readCoordinatorState computerId
  if current.status.phase = .draining ∧
      current.scheduledPromotion.any (fun scheduled => scheduled.updateId = updateId && scheduled.mode = mode) then
    return current.status
  else
    assertUpdate current.status updateId
    changeState computerId fun state =>
      { state with
        status := { state.status with phase := .draining, detail := some (scheduledDetail mode) }
        commitStarted := false
        scheduledPromotion := some ⟨updateId,mode,scheduledAt⟩ }

def firePromotion : Program Unit := do
  let state ← readCoordinatorState computerId
  match state.scheduledPromotion with
  | none => return
  | some scheduled =>
    if state.status.phase = .draining then
      let _ ← changeState computerId fun current => { current with scheduledPromotion := none }
      let transition ← requireTransition state.status
      let _ ← performPromotion computerId schemaText state.status transition scheduled.mode

structure PrepareInput where
  releaseId : JsString
  buildId : JsString
  candidateGatewayNodeId : Option JsString

structure NewIds where
  updateId : JsString
  gatewayNodeId : JsString

/-- The previous recovery makes room for the candidate. -/
def rotatePrevious : Option RecoverySlot → Program Unit
  | none => .pure ()
  | some previous => do
    let _ ← changeState computerId fun state => { state with rotatedRecovery := some previous }
    handle (Host.rotateRecovery previous) fun error => do
      Host.restoreRecovery previous
      let _ ← changeState computerId fun state => { state with rotatedRecovery := none }
      .throw error

def cleanUpPreparation (preparing : Status) (transition : Transition) (previous : Option RecoverySlot)
    (error : Thrown) : Program Status :=
  handle (do
    Host.discardCandidate transition
    match previous with
    | none => .pure ()
    | some recovery => Host.restoreRecovery recovery
    returnToSteady computerId { preparing with recovery := previous.or preparing.recovery }
      (("Candidate preparation failed; active Gateway unchanged: " : JsString) ++ formatError schemaText error))
    (fun cleanupError =>
      markRepairRequired computerId preparing
        (("Candidate preparation failed (" : JsString) ++ formatError schemaText error ++
          "); cleanup also failed: " ++ formatError schemaText cleanupError) false)

def prepareNew (current : CoordinatorState) (candidate : Slot) (updateId : JsString) : Program Status := do
  rotatePrevious computerId current.status.recovery
  let preparing ← writeStatus computerId
    { current.status with
      phase := .preparing
      recovery := none
      candidate := some candidate
      updateId := some updateId
      detail := some "Preparing an isolated candidate Gateway; the active Gateway remains available" } none
  let transition ← requireTransition preparing
  handle (do
    let prepared ← Host.prepareCandidate transition
    assertPreparedCandidate transition prepared
    writeStatus computerId
      { preparing with
        phase := .trial
        candidate := some prepared
        detail := some "Candidate Gateway is ready for user-directed trial work" } none)
    (fun error => do
      let _ ← cleanUpPreparation computerId schemaText preparing transition current.status.recovery error
      .throw error)

def prepare (input : PrepareInput) (ids : NewIds) : Program Status := do
  let current ← readCoordinatorState computerId
  match current.status.candidate with
  | some candidate =>
    if candidate.releaseId = some input.releaseId ∧ current.status.phase = .trial then return current.status
    else .throw (.coordinator .hasCandidate)
  | none =>
    refuseUnless (current.status.phase = .steady) (.coordinator (.cannotPrepare current.status.phase))
    let candidate : Slot := ⟨input.candidateGatewayNodeId.getD ids.gatewayNodeId,some input.releaseId,input.buildId,0,0⟩
    refuseUnless candidate.isValid (.schema (.slot candidate))
    refuseUnless (candidate.gatewayNodeId ≠ current.status.active.gatewayNodeId) (.coordinator .sameNode)
    prepareNew computerId schemaText current candidate ids.updateId

def discard (updateId : JsString) : Program Status := do
  let current ← readCoordinatorState computerId
  assertUpdate current.status updateId
  let transition ← requireTransition current.status
  let discarding ← writeStatus computerId
    { current.status with
      phase := .discarding
      detail := some "Discarding only the candidate Gateway and its trial-owned work" } none
  handle (do
    Host.discardCandidate transition
    restoreRotatedRecovery computerId discarding current.rotatedRecovery "Candidate Gateway was discarded")
    (fun error => do
      let _ ← writeStatus computerId
        { discarding with
          phase := .trial
          detail := some (("Candidate discard failed; active Gateway unchanged: " : JsString) ++
            formatError schemaText error) } none
      .throw error)

/-- The installed release takes the place of the recorded one. -/
def reconcileSteadyActive (active : Slot) (state : CoordinatorState) : Program Unit := do
  refuseUnless active.isValid (.schema (.slot active))
  if state.status.active ≠ active then
    let _ ← changeState computerId fun current =>
      if current.status.phase ≠ .steady then current
      else
        { current with
          status := { current.status with
                      generation := current.status.generation +
                        (if state.status.active.identity ≠ active.identity then 1 else 0)
                      active := active
                      detail := if state.status.active.identity ≠ active.identity then
                        some "Active Gateway reconciled with the installed release" else current.status.detail }
          commitStarted := false
          scheduledPromotion := none }

def initializeSteady (active : Slot) (state : CoordinatorState) : Program Unit := do
  match state.rotatedRecovery with
  | none => .pure ()
  | some recovery =>
    Host.restoreRecovery recovery
    let _ ← changeState computerId fun current => { current with rotatedRecovery := none }
  reconcileSteadyActive computerId active state

def initializePreparing (state : CoordinatorState) (transition : Transition) : Program Unit :=
  handle (do
    match ← Host.recoverPreparation transition with
    | none =>
      match state.rotatedRecovery with
      | none => .pure ()
      | some recovery => Host.restoreRecovery recovery
      let _ ← returnToSteady computerId
        { state.status with recovery := state.rotatedRecovery.or state.status.recovery }
        "Interrupted candidate preparation was removed"
    | some candidate =>
      assertPreparedCandidate transition candidate
      let _ ← writeStatus computerId
        { state.status with
          phase := .trial
          candidate := some candidate
          detail := some "Candidate recovered and is ready for user-directed trial work" } none)
    (fun error => do
      let _ ← markRepairRequired computerId state.status
        (("Interrupted candidate preparation recovery failed: " : JsString) ++ formatError schemaText error) false)

def initializeDiscarding (state : CoordinatorState) (transition : Transition) : Program Unit :=
  handle (do
    Host.discardCandidate transition
    let _ ← restoreRotatedRecovery computerId state.status state.rotatedRecovery
      "Interrupted candidate discard completed")
    (fun error => do
      let _ ← markRepairRequired computerId state.status
        (("Interrupted candidate discard recovery failed: " : JsString) ++ formatError schemaText error) false)

/-- What an interrupted phase without a complete binding becomes. -/
def initializeUnbound (state : CoordinatorState) : Program Unit := do
  match state.status.phase with
  | .repairRequired => return
  | .preparing =>
    let _ ← markRepairRequired computerId state.status
      "Candidate preparation was interrupted and cannot be reconciled automatically" false
  | .discarding =>
    let _ ← markRepairRequired computerId state.status
      "Candidate discard was interrupted and cannot be reconciled automatically" false
  | _ =>
    let _ ← markRepairRequired computerId state.status
      "Interrupted Gateway deployment transaction has no complete binding" false

/-- The release that is installed when the process starts is the active one. -/
def initializeCoordinator (active : Slot) : Program Unit := do
  let state ← readCoordinatorState computerId
  match state.status.phase with
  | .steady => initializeSteady computerId active state
  | .trial => return
  | phase =>
    if phase = .draining ∧ state.scheduledPromotion.isSome then return
    else
      match transitionFromStatus state.status with
      | none => initializeUnbound computerId state
      | some transition =>
        match phase with
        | .preparing => initializePreparing computerId schemaText state transition
        | .discarding => initializeDiscarding computerId schemaText state transition
        | _ =>
          if state.commitStarted ∨ phase = .committing then
            recoverCommit computerId schemaText state.status transition
          else
            let _ ← rollbackToTrial computerId schemaText state.status transition
              (if phase = .repairRequired then "Interrupted pre-commit repair was rolled back to trial"
                else "Interrupted pre-commit switch was rolled back to trial")

end

end

def defaultState (computerId : JsString) (active : Slot) : CoordinatorState :=
  ⟨⟨computerId,0,.steady,active,none,none,none,none,none⟩,false,none,none⟩

end Malink.Deployment
