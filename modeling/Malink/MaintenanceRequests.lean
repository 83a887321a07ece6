import Malink.ConcurrentPrograms
import Malink.SupervisorActivation

/-!
# Restarts and activations

The supervisor restarts the Gateway, or activates a release, some time after it was asked to. A timer carries out what
is asked, and a process that starts again sets its timers from the file.
-/

namespace Malink.Supervisor.Maintenance

open DurableProgram
open Tracks (GatewayUpdatePhase ActivationMode)

def phaseName : GatewayUpdatePhase → JsString
  | .idle => "idle"
  | .staging => "staging"
  | .agentRequired => "agent_required"
  | .agentRunning => "agent_running"
  | .agentValidating => "agent_validating"
  | .staged => "staged"
  | .waitingForIdle => "waiting_for_idle"
  | .scheduled => "scheduled"
  | .activating => "activating"
  | .probation => "probation"
  | .committed => "committed"
  | .rolledBack => "rolled_back"
  | .failed => "failed"
  | .repairRequired => "repair_required"

/-- A release is about to be activated, or is being activated. -/
def updatePending : GatewayUpdatePhase → Bool
  | .scheduled | .activating | .probation => true
  | _ => false

inductive GatewayRestartPhase
  | idle
  | waitingForIdle
  | scheduled
  | restarting
  | ready
  | failed
  deriving DecidableEq

def GatewayRestartPhase.pending : GatewayRestartPhase → Bool
  | scheduled | restarting => true
  | _ => false

inductive GatewayRestartMode
  | whenIdle
  | force
  deriving DecidableEq

structure GatewayRestartStatus where
  phase : GatewayRestartPhase
  restartId : Option JsString
  mode : Option GatewayRestartMode
  requestedAt : Option ℕ
  scheduledAt : Option ℕ
  startedAt : Option ℕ
  completedAt : Option ℕ
  detail : Option JsString
  deriving DecidableEq

def idleRestartStatus : GatewayRestartStatus := ⟨.idle,none,none,none,none,none,none,none⟩

structure MaintenanceState where
  update : SupervisorState
  /-- The target is a staged manifest, or an update of the Agent with its seal. -/
  installable : Bool
  restart : GatewayRestartStatus
  deriving DecidableEq

def MaintenanceState.putUpdate (update : SupervisorState) (state : MaintenanceState) : MaintenanceState :=
  { state with update }

/-- What the supervisor asks of its process and of the Gateway, apart from what an activation asks. -/
inductive HostRequest
  | persist
  | armActivation (scheduledAt : ℕ)
  | armRestart (scheduledAt : ℕ)
  /-- The files of the release are as they were when it was staged. -/
  | verifyStaged (releaseId : JsString)
  /-- `current`: the directory, and the release in it. -/
  | readCurrentLink
  | installedBuildId
  | restartGateway
  | waitForRestartHealth (startedAt : ℕ)

abbrev HostRequest.Reply : HostRequest → Type
  | readCurrentLink => JsString × JsString
  | installedBuildId => Option JsString
  | _ => Unit

abbrev MaintenanceRequest : Type := Request ⊕ HostRequest

abbrev MaintenanceRequest.Reply : MaintenanceRequest → Type := Sum.elim Request.Reply HostRequest.Reply

abbrev Task (α : Type) := DurableProgram MaintenanceState JsString MaintenanceRequest MaintenanceRequest.Reply α

def ask (request : HostRequest) : Task request.Reply := perform (Sum.inr request : MaintenanceRequest)

/-- An activation reads and writes its part of the state. -/
def onUpdate {α : Type} (program : Program α) : Task α := embed MaintenanceState.update MaintenanceState.putUpdate program

/-- `writeRestartState` -/
def writeRestartState (change : GatewayRestartStatus → GatewayRestartStatus) : Task Unit := do
  ask .persist
  let state ← readState
  writeState { state with restart := change state.restart }

section

variable (catalog : List StateEntry) (releasesRoot : JsString) (executionTracksEnabled : Bool)

def scheduleRestart (mode : GatewayRestartMode) (restartId : JsString) (requestedAt scheduledAt : ℕ) : Task Unit := do
  let current ← readState
  if current.restart.phase.pending then return ()
  else if updatePending current.update.phase then
    .throw (("Cannot restart the Gateway while update is " : JsString) ++ phaseName current.update.phase)
  else
    writeRestartState fun _ =>
      { phase := .scheduled
        restartId := some restartId
        mode := some mode
        requestedAt := some requestedAt
        scheduledAt := some scheduledAt
        startedAt := none
        completedAt := none
        detail := some "Gateway restart is scheduled; waiting for the signed reply to leave the outbox" }
    ask (.armRestart scheduledAt)

def writeSameRestart (restartId : JsString) (change : GatewayRestartStatus → GatewayRestartStatus) : Task Unit :=
  writeRestartState fun current => if current.restartId = some restartId then change current else current

def performRestart (restartId : JsString) (startedAt completedAt : ℕ) : Task Unit := do
  writeSameRestart restartId fun current =>
    if current.phase ≠ .scheduled then current
    else
      { current with
        phase := .restarting
        startedAt := some startedAt
        completedAt := none
        detail := some "Gateway process is restarting" }
  (do
    ask .restartGateway
    ask (.waitForRestartHealth startedAt)
    writeSameRestart restartId fun current =>
      { current with
        phase := .ready
        completedAt := some completedAt
        detail := some "Gateway restarted and returned to Matrix-ready health" }).handle fun error => do
    writeSameRestart restartId fun current =>
      { current with
        phase := .failed
        completedAt := some completedAt
        detail := some (statusDetail error) }
    .throw error

def performScheduledRestart (startedAt completedAt : ℕ) : Task Unit := do
  let state ← readState
  match state.restart.restartId with
  | none => return ()
  | some restartId =>
    if state.restart.phase ≠ .scheduled then return () else performRestart restartId startedAt completedAt

def hasRelease (releaseId : JsString) (state : MaintenanceState) : Bool :=
  decide (state.update.target.map Release.releaseId = some releaseId) && state.installable

def notStaged (releaseId : JsString) : JsString := "Gateway release " ++ releaseId ++ (" is not staged" : JsString)

def cannotSchedule (phase : GatewayUpdatePhase) : JsString :=
  ("Cannot schedule a release while update is " : JsString) ++ phaseName phase

def scheduledUpdate (releaseId : JsString) (targetBuildId : Option JsString) (mode : ActivationMode)
    (link : JsString × JsString) (currentBuildId : Option JsString) (scheduledAt : ℕ) (update : SupervisorState) :
    SupervisorState :=
  { update with
    previousTarget := some link.1
    scheduledAt := some scheduledAt
    activationMode := some mode
    phase := .scheduled
    statusMode := some mode
    detail :=
      if mode = .forwardOnly then
        some "Forward-only activation confirmed; the Gateway will stop, back up protected state, and install after the activation delay"
      else none
    releaseId := some releaseId
    targetBuildId
    currentBuildId
    previousReleaseId := some link.2 }

def scheduleApplyOnce (releaseId : JsString) (allowForwardOnly : Bool) (scheduledAt : ℕ) : Task Unit := do
  if ¬ Deployment.isReleaseId releaseId then .throw "Gateway release ID is invalid"
  else if executionTracksEnabled then .throw "Use a generation-bound version selection for this Gateway"
  else
    let stagedState ← readState
    if stagedState.restart.phase.pending then
      .throw "Cannot apply a Gateway update while a restart is already scheduled"
    else if stagedState.update.releaseId = some releaseId ∧
        (updatePending stagedState.update.phase ∨ stagedState.update.phase = .committed) then
      return ()
    else if ¬ hasRelease releaseId stagedState then .throw (notStaged releaseId)
    else if stagedState.update.phase ≠ .staged then .throw (cannotSchedule stagedState.update.phase)
    else
      let mode ← ofExcept (activationModeForState catalog stagedState.update)
      if mode = .forwardOnly ∧ ¬ allowForwardOnly then
        .throw "Gateway release requires explicit forward-only activation confirmation; automatic rollback will be disabled"
      else
        ask (.verifyStaged releaseId)
        let link ← ask .readCurrentLink
        let currentBuildId ← ask .installedBuildId
        ask .persist
        let state ← readState
        if ¬ hasRelease releaseId state then .throw (notStaged releaseId)
        else if state.update.phase ≠ .staged then .throw (cannotSchedule state.update.phase)
        else
          writeState (state.putUpdate (scheduledUpdate releaseId (stagedState.update.target.map Release.buildId) mode link
            currentBuildId scheduledAt state.update))
          ask (.armActivation scheduledAt)

def resumeRestart (restart : GatewayRestartStatus) (resumedAt : ℕ) : Task Unit :=
  match restart.phase, restart.scheduledAt with
  | .scheduled, some scheduledAt => ask (.armRestart scheduledAt)
  | .restarting, _ => do
    writeRestartState fun restart =>
      { restart with
        phase := .scheduled
        scheduledAt := some resumedAt
        detail := some "The restart supervisor resumed an interrupted restart request" }
    ask (.armRestart resumedAt)
  | _, _ => return ()

def resumeActivation (update : SupervisorState) : Task Unit :=
  match update.phase, update.scheduledAt with
  | .scheduled, some scheduledAt => ask (.armActivation scheduledAt)
  | .activating, _ | .probation, _ => onUpdate (recoverInterruptedActivation catalog update)
  | _, _ => return ()

def startSupervisor (resumedAt : ℕ) : Task Unit := do
  let state ← readState
  if executionTracksEnabled then return ()
  else
    resumeActivation catalog state.update
    resumeRestart state.restart resumedAt

/-- What waits its turn in the chain of requests. The values of the clock and the new ids are arguments. -/
inductive MaintenanceCall
  | scheduleRestart (mode : GatewayRestartMode) (restartId : JsString) (requestedAt scheduledAt : ℕ)
  | scheduleApply (releaseId : JsString) (allowForwardOnly : Bool) (scheduledAt : ℕ)
  | performScheduledRestart (startedAt completedAt : ℕ)
  deriving DecidableEq

def MaintenanceCall.program : MaintenanceCall → Task Unit
  | .scheduleRestart mode restartId requestedAt scheduledAt =>
    Maintenance.scheduleRestart mode restartId requestedAt scheduledAt
  | .scheduleApply releaseId allowForwardOnly scheduledAt =>
    scheduleApplyOnce catalog executionTracksEnabled releaseId allowForwardOnly scheduledAt
  | .performScheduledRestart startedAt completedAt => Maintenance.performScheduledRestart startedAt completedAt

def MaintenanceCall.isRequest : MaintenanceCall → Bool
  | scheduleRestart _ _ _ _ | scheduleApply _ _ _ => true
  | performScheduledRestart _ _ => false

def activationTask : Task Unit := onUpdate (activateScheduled catalog releasesRoot)

structure Process where
  activationTimer : Bool
  restartTimer : Bool
  /-- The chain of requests, without the call that runs. -/
  waiting : List MaintenanceCall
  activations : List (Task Unit)
  /-- A write of the state file has thrown. -/
  broken : Bool

def startedProcess : Process := ⟨false,false,[],[],false⟩

/-- The answers. Only the timers are the process's own. -/
def answers (process : Process) : (request : MaintenanceRequest) →
    Except JsString (MaintenanceRequest.Reply request) → Process → Prop
  | .inr (.armActivation _), .ok _, process' => process' = { process with activationTimer := true }
  | .inr (.armActivation _), .error _, _ => False
  | .inr (.armRestart _), .ok _, process' => process' = { process with restartTimer := true }
  | .inr (.armRestart _), .error _, _ => False
  | .inr .persist, .error _, process' | .inl (.persist _), .error _, process' =>
    process' = { process with broken := true }
  | _, _, process' => process' = process

structure GatewayUpdateSupervisor where
  disk : MaintenanceState
  process : Process
  serving : Bool
  running : Option (Task Unit)

/-- The end of a task in the chain. The start of the supervisor is the first one. -/
def GatewayUpdateSupervisor.goOn (supervisor : GatewayUpdateSupervisor) (task : Task Unit) :
    GatewayUpdateSupervisor :=
  match task.advance supervisor.disk with
  | (.pure _,disk) => { supervisor with disk, serving := true, running := none }
  | (.throw _,disk) => { supervisor with disk, running := none }
  | (rest,disk) => { supervisor with disk, running := some rest }

def unfinished : Task Unit → List (Task Unit)
  | .pure _ | .throw _ => []
  | rest => [rest]

/-- What the process does by itself. -/
inductive GoesOn : GatewayUpdateSupervisor → GatewayUpdateSupervisor → Prop
  | next {supervisor : GatewayUpdateSupervisor} {call : MaintenanceCall} {waiting : List MaintenanceCall}
    (hidle : supervisor.running = none) (hserving : supervisor.serving)
    (hwaiting : supervisor.process.waiting = call :: waiting) :
    GoesOn supervisor ({ supervisor with process := { supervisor.process with waiting } }.goOn
      (call.program catalog executionTracksEnabled))
  | answer {supervisor : GatewayUpdateSupervisor} {request : MaintenanceRequest}
    {rest : Except JsString (MaintenanceRequest.Reply request) → Task Unit}
    {reply : Except JsString (MaintenanceRequest.Reply request)} {process : Process}
    (hrunning : supervisor.running = some (.ask request rest))
    (hanswer : answers supervisor.process request reply process) :
    GoesOn supervisor ({ supervisor with process }.goOn (rest reply))
  | restartTimer {supervisor : GatewayUpdateSupervisor} (startedAt completedAt : ℕ)
    (harmed : supervisor.process.restartTimer) :
    GoesOn supervisor { supervisor with
      process := { supervisor.process with
        restartTimer := false
        waiting := supervisor.process.waiting ++ [.performScheduledRestart startedAt completedAt] } }
  | activationTimer {supervisor : GatewayUpdateSupervisor} (harmed : supervisor.process.activationTimer) :
    GoesOn supervisor { supervisor with
      disk := ((activationTask catalog releasesRoot).advance supervisor.disk).2
      process := { supervisor.process with
        activationTimer := false
        activations := supervisor.process.activations ++
          unfinished ((activationTask catalog releasesRoot).advance supervisor.disk).1 } }
  | activation {supervisor : GatewayUpdateSupervisor} {before after : List (Task Unit)} {request : MaintenanceRequest}
    {rest : Except JsString (MaintenanceRequest.Reply request) → Task Unit}
    {reply : Except JsString (MaintenanceRequest.Reply request)} {process : Process}
    (hactivations : supervisor.process.activations = before ++ .ask request rest :: after)
    (hanswer : answers supervisor.process request reply process) :
    GoesOn supervisor { supervisor with
      disk := ((rest reply).advance supervisor.disk).2
      process := { process with
        activations := before ++ unfinished ((rest reply).advance supervisor.disk).1 ++ after } }

inductive Step (supervisor : GatewayUpdateSupervisor) : GatewayUpdateSupervisor → Prop
  | goesOn {supervisor' : GatewayUpdateSupervisor}
    (h : GoesOn catalog releasesRoot executionTracksEnabled supervisor supervisor') :
    Step supervisor supervisor'
  | request (call : MaintenanceCall) (hserving : supervisor.serving) (hrequest : call.isRequest) :
    Step supervisor { supervisor with
      process := { supervisor.process with waiting := supervisor.process.waiting ++ [call] } }
  /-- The process ends, and is started again. -/
  | crash (resumedAt : ℕ) :
    Step supervisor (GatewayUpdateSupervisor.goOn ⟨supervisor.disk,startedProcess,false,none⟩
      (startSupervisor catalog executionTracksEnabled resumedAt))

end

end Malink.Supervisor.Maintenance
