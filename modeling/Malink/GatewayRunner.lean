import Malink.GatewayCommands

/-!
# The Gateway runner

One process after another over one journal. Each action is a stretch of code between two awaits: of the event handler,
the recovery, a task, an execution past its deadline, or the maintenance commands.
-/

namespace Malink.Gateway

open Mlp3

inductive TaskPhase
  /-- Behind the tasks before it in its chain. -/
  | waiting
  /-- Past the first look at the cancellation. -/
  | dispatching
  /-- `markDispatched` has returned. -/
  | dispatched
  | executing
  | failed (error : Thrown)
  /-- The failed turn is marked, the terminal not written yet. -/
  | settling (error : Thrown)
  deriving DecidableEq

def TaskPhase.isPending : TaskPhase → Bool
  | waiting => true
  | dispatching => true
  | dispatched => true
  | _ => false

/-- What a turn.cancel shares with the task of the prompt it names. -/
structure ScheduledPrompt where
  cancelled : Bool
  agentDispatchStarted : Bool
  deriving DecidableEq

structure Task where
  id : ℕ
  roomId : JsString
  command : Command
  previous : List ℕ
  prompt : ScheduledPrompt
  phase : TaskPhase
  deriving DecidableEq

/-- A command that arrived in a Matrix event, verified against the certificate of its device. -/
structure Incoming where
  roomId : JsString
  matrixEventId : JsString
  device : TrustedDevice
  command : Command
  deriving DecidableEq

inductive Handler
  | idle
  /-- The command is claimed, and the reconciliation of a duplicate published. -/
  | claimed (roomId : JsString) (command : Command) (claim : CommandJournal.Claim)
      (rejection : Option Rejection)
  | failing (roomId : JsString) (command : Command)
  | rejecting (roomId : JsString) (command : Command) (rejection : Rejection)
  deriving DecidableEq

/-- `recoverJournal`, with the rest of the rows it read. -/
inductive Recovery
  | none
  | starting
  | recovering (records : List CommandRecord)
  deriving DecidableEq

inductive ProcessState
  | stopped
  | running
  /-- `start` has failed after the process began to run. -/
  | failed
  deriving DecidableEq

inductive DrainState
  | opened
  | waiting
  | sealed
  deriving DecidableEq

structure State where
  journal : CommandJournal
  process : ProcessState
  projects : InsertionMap JsString ProjectRuntime
  sessionChains : InsertionMap JsString ℕ
  scheduledPromptCommands : InsertionMap JsString ℕ
  activeCommands : InsertionMap JsString ℕ
  tasks : List Task
  /-- Executions that run on after their deadline. -/
  lateTasks : List Task
  expiredCommandExecutions : List JsString
  updateDrainState : DrainState
  deferredUpdateCommands : InsertionMap JsString (JsString × CommandRecord)
  handler : Handler
  recovery : Recovery
  endedDeletions : List (JsString × Command)
  nextTask : ℕ
  /-- The commands whose body has begun, in this process or in an earlier one. -/
  begun : List CommandKey
  batchChildren : List CommandKey
  dispatchedHere : List CommandKey
  /-- The commands that the recovery of this process settled as interrupted. -/
  interruptedHere : List CommandKey
  deriving DecidableEq

def stoppedOver (journal : CommandJournal) (begun batchChildren : List CommandKey) : State where
  journal
  process := .stopped
  projects := .empty
  sessionChains := .empty
  scheduledPromptCommands := .empty
  activeCommands := .empty
  tasks := []
  lateTasks := []
  expiredCommandExecutions := []
  updateDrainState := .opened
  deferredUpdateCommands := .empty
  handler := .idle
  recovery := .none
  endedDeletions := []
  nextTask := 0
  begun
  batchChildren
  dispatchedHere := []
  interruptedHere := []

inductive Action
  | start (projects : InsertionMap JsString ProjectRuntime)
  | crash
  | registerProject (roomId : JsString) (project : ProjectRuntime)
  | finalizeProjectDeletion (roomId : JsString)
  | updateSessions (roomId : JsString) (sessions : InsertionMap JsString PersistedSession)
      (phases : InsertionMap JsString Activity)
  | drain (state : DrainState)
  | reopen
  | receive (incoming : Incoming) (now : ℕ)
  | handle (now : ℕ)
  | settleHandled (now : ℕ)
  | readUnfinished
  | recoverNext (now : ℕ)
  | enter (id : ℕ)
  | markDispatched (id now : ℕ)
  | execute (id : ℕ)
  | beginAgentDispatch (id : ℕ)
  | cancelPrompt (id : ℕ) (promptKey : JsString)
  | settle (id : ℕ) (command : Command) (terminal : Terminal) (now : ℕ)
  | archiveItem (id : ℕ) (roomId sessionId itemCommandId : JsString) (now : ℕ)
  | complete (id : ℕ)
  | throw (id : ℕ) (error : Thrown)
  | expire (id timeoutMs : ℕ)
  | endLate (id : ℕ)
  | fail (id now : ℕ)
  | settleFailure (id now : ℕ)
  | lookUpDeletion
  | deliver (command : Command) (matrixEventId : JsString) (now : ℕ)
  deriving DecidableEq

namespace State

variable (host : Host)

def project (s : State) (roomId : JsString) : Option ProjectRuntime := s.projects.get roomId

def registeredProject (s : State) (roomId : JsString) : Option ProjectRuntime :=
  (s.project roomId).filter ProjectRuntime.registered

def projectForRecord (s : State) (record : CommandRecord) : Option (JsString × ProjectRuntime) :=
  match record.roomId with
  | some roomId => (s.registeredProject roomId).map (roomId,·)
  | none => s.projects.entries.find? (fun e => e.2.registered &&
      (record.command.projectId.isNone || decide (record.command.projectId = some e.2.projectId)))

end State

def sessionKey (host : Host) (roomId : JsString) (command : Command) : JsString :=
  match command.operation with
  | .projectCreate => host.gatewayId ++ nul ++ "project-create"
  | .gatewayProfileUpdate => host.gatewayId ++ nul ++ "gateway-profile"
  | .gatewayRetire => host.gatewayId ++ nul ++ "gateway-directory"
  | .projectDelete => host.gatewayId ++ nul ++ "project-delete"
  | .projectUpdate => roomId ++ nul ++ "project-settings"
  | .providerSessionsList => roomId ++ nul ++ "project-settings"
  | .providerSessionInspect => roomId ++ nul ++ "project-settings"
  | .notificationSubscribe => roomId ++ nul ++ "notification-settings" ++ nul ++ command.deviceId
  | .notificationUnsubscribe => roomId ++ nul ++ "notification-settings" ++ nul ++ command.deviceId
  | _ => roomId ++ nul ++ command.sessionId.getD command.commandId

def bypassSessionQueue (command : Command) : Bool :=
  decide (command.operation = .turnCancel) || decide (command.operation = .decisionAnswer)

def promptScheduleKey (roomId : JsString) (command : Command) : Option JsString :=
  if command.operation = .promptSubmit then
    command.sessionId.map (fun sessionId => roomId ++ nul ++ sessionId ++ nul ++ command.commandId)
  else none

namespace State

variable (host : Host)

/-- The tasks that a new task waits for. A project.delete waits for every chain of its room. -/
def previousTasks (s : State) (roomId : JsString) (command : Command) : List ℕ :=
  if bypassSessionQueue command then []
  else
    let own := (s.sessionChains.get (sessionKey host roomId command)).toList
    if command.operation = .projectDelete then
      own ++ (s.sessionChains.filter (fun key _ => (roomId ++ nul).units.isPrefixOf key.units)).values
    else own

def setDeleting (s : State) (roomId : JsString) (deletingCommandId : Option JsString) :
    InsertionMap JsString ProjectRuntime :=
  match s.project roomId with
  | some project => s.projects.set roomId { project with deletingCommandId }
  | none => s.projects

def newTask (s : State) (roomId : JsString) (command : Command) : Task where
  id := s.nextTask
  roomId
  command
  previous := s.previousTasks host roomId command
  prompt := ⟨false,false⟩
  phase := .waiting

def scheduleExecution (s : State) (roomId : JsString) (record : CommandRecord) : State :=
  let command := record.command
  { s with
    scheduledPromptCommands := match promptScheduleKey roomId command with
      | some key => s.scheduledPromptCommands.set key s.nextTask
      | none => s.scheduledPromptCommands
    projects := if command.operation = .projectDelete then s.setDeleting roomId (some command.commandId)
      else s.projects
    sessionChains := if bypassSessionQueue command then s.sessionChains
      else s.sessionChains.set (sessionKey host roomId command) s.nextTask
    activeCommands := s.activeCommands.set (commandKey command) s.nextTask
    tasks := s.tasks ++ [s.newTask host roomId command]
    nextTask := s.nextTask + 1 }

def release (map : InsertionMap JsString ℕ) (key : JsString) (id : ℕ) : InsertionMap JsString ℕ :=
  if map.get key = some id then map.delete key else map

def finishTask (s : State) (task : Task) : State :=
  let command := task.command
  { s with
    tasks := s.tasks.filter (fun t => decide (t.id ≠ task.id))
    activeCommands := release s.activeCommands (commandKey command) task.id
    sessionChains := if bypassSessionQueue command then s.sessionChains
      else release s.sessionChains (sessionKey host task.roomId command) task.id
    scheduledPromptCommands := match promptScheduleKey task.roomId command with
      | some key => release s.scheduledPromptCommands key task.id
      | none => s.scheduledPromptCommands
    endedDeletions :=
      if command.operation = .projectDelete ∧
          (s.registeredProject task.roomId).any (fun p => p.deletingCommandId = some command.commandId) then
        s.endedDeletions ++ [(task.roomId,command)]
      else s.endedDeletions }

def replaceTask (s : State) (task task' : Task) : State :=
  { s with tasks := s.tasks.map (fun t => if t = task then task' else t) }

def setPhase (s : State) (task : Task) (phase : TaskPhase) : State :=
  s.replaceTask task { task with phase }

def settled (s : State) (command : Command) (terminal : Terminal) (now : ℕ) : CommandJournal :=
  match s.journal.settle host.schemas command terminal now with
  | .ok journal => journal
  | .error _ => s.journal

def settleAndDeliver (s : State) (command : Command) (terminal : Terminal) (allowExpiredExecution : Bool)
    (now : ℕ) : State :=
  if commandKey command ∈ s.expiredCommandExecutions ∧ allowExpiredExecution = false then s
  else { s with journal := s.settled host command terminal now }

def isVerified (project : ProjectRuntime) (incoming : Incoming) : Bool :=
  commandSchema host.schemas incoming.command &&
    decide (incoming.command.workspaceId = host.gatewayId) &&
    decide (incoming.command.projectId = some project.projectId) &&
    decide (incoming.command.deviceId = incoming.device.deviceId) &&
    decide (incoming.command.certificateId = incoming.device.certificateId)

def receive (s : State) (incoming : Incoming) (now : ℕ) : Option State :=
  if s.process ≠ .running ∨ s.handler ≠ .idle then none
  else (s.registeredProject incoming.roomId).bind fun project =>
    if !isVerified host project incoming then none
    else
      let rejection := authorize incoming.device incoming.roomId incoming.command now
      match s.journal.claim incoming.command now (some ⟨incoming.roomId,incoming.matrixEventId⟩) with
      | .error _ => some s
      | .ok (claim,journal) =>
        some { s with journal, handler := .claimed incoming.roomId incoming.command claim rejection }

/-- What becomes of a claimed command. -/
inductive Decision
  | ignore
  | fail
  | reject (rejection : Rejection)
  | defer
  | schedule
  deriving DecidableEq

/-- The guards of `handleEvent`, in their order, on the record that the claim returned. -/
def decision (s : State) (project : ProjectRuntime) (command : Command) (record : CommandRecord)
    (rejection : Option Rejection) : Decision :=
  if record.status = .terminal then .ignore
  else if project.deletingCommandId.isSome then .fail
  else match rejection with
    | some rejection => if record.status = .dispatched then .ignore else .reject rejection
    | none =>
      if record.status = .dispatched ∨ s.activeCommands.has (commandKey command) then .ignore
      else if s.updateDrainState = .sealed then .defer
      else .schedule

def handle (s : State) (now : ℕ) : Option State :=
  let idle := { s with handler := .idle }
  match s.handler with
  | .claimed roomId command claim rejection =>
    (s.project roomId).map fun project =>
      match s.decision project command claim.record rejection with
      | .ignore => idle
      | .fail => { s with
          projects := s.projects.set roomId (project.failTurn command now)
          handler := .failing roomId command }
      | .reject rejection => { s with handler := .rejecting roomId command rejection }
      | .defer => { idle with deferredUpdateCommands :=
          s.deferredUpdateCommands.set (commandKey command) (roomId,claim.record) }
      | .schedule => idle.scheduleExecution host roomId claim.record
  | _ => none

def settleHandled (s : State) (now : ℕ) : Option State :=
  let idle := { s with handler := .idle }
  match s.handler with
  | .failing roomId command =>
    (s.project roomId).bind fun project =>
      (failureTerminal host project command projectDeletingError now).map fun terminal =>
        idle.settleAndDeliver host command terminal false now
  | .rejecting roomId command rejection =>
    (s.project roomId).map fun project =>
      idle.settleAndDeliver host command (rejectionTerminal host project command rejection now) false now
  | _ => none

/-- A lifecycle change that is complete but for its terminal. -/
def recoveredLifecycle (project : ProjectRuntime) (command : Command) : Option (PersistedSession × Lifecycle) :=
  match command.payload with
  | .sessionSetLifecycle state => do
    let record ← project.session command
    if state ≠ .deleted ∧ record.lifecycleCommandId = some command.commandId ∧ record.lifecycle = state ∧
        record.archiveCleanup = none then
      return (record,record.lifecycle)
    else if state ≠ .active ∧ record.lifecycle = .archived ∧
        record.archiveCleanup = some command.commandId then
      return (record,.deleted)
    else failure
  | _ => none

def lifecycleTerminal (project : ProjectRuntime) (command : Command) (record : PersistedSession)
    (state : Lifecycle) (now : ℕ) : Terminal :=
  terminalOf command (eventFor host project command "session-lifecycle" now
    (.sessionLifecycle (terminalProjection record .idle) state none)) .succeeded

def isRetained (command : Command) : Bool :=
  !host.batchArchiveEnabled && (decide (command.operation = .sessionArchiveBatch) ||
    (decide (command.operation = .sessionSetLifecycle) &&
      (("batch-archive-" : JsString).units.isPrefixOf command.commandId.units)))

inductive RecoveryDecision
  | skip
  | schedule (roomId : JsString)
  /-- A lifecycle change is completed. Only the errors of a deletion are caught. -/
  | complete (terminal : Terminal) (caught : Bool)
  | interrupt (terminal : Terminal)
  deriving DecidableEq

def recoveryDecision (s : State) (record : CommandRecord) (now : ℕ) : RecoveryDecision :=
  if isRetained host record.command then .skip
  else match s.projectForRecord record with
    | none => .skip
    | some (roomId,project) =>
      if record.status = .accepted ∨ record.command.operation = .sessionArchiveBatch then .schedule roomId
      else match recoveredLifecycle project record.command with
        | some (session,state) =>
          .complete (lifecycleTerminal host project record.command session state now) (state = .deleted)
        | none => .interrupt (interruptedTerminal host project record.command now)

/-- Whether `settleAndDeliver` settles a row that was not terminal. -/
def settlesNow (s : State) (command : Command) (terminal : Terminal) (now : ℕ) : Bool :=
  decide (s.journal.status (mlp3CommandKey command) ≠ some .terminal) &&
    decide ((s.settleAndDeliver host command terminal false now).journal.status
      (mlp3CommandKey command) = some .terminal)

/-- Whether `settleAndDeliver` throws. -/
def settleThrows (s : State) (command : Command) (terminal : Terminal) (now : ℕ) : Bool :=
  decide (commandKey command ∉ s.expiredCommandExecutions) &&
    !(s.journal.settle host.schemas command terminal now).isOk

def recoverRecord (s : State) (record : CommandRecord) (now : ℕ) : State :=
  let command := record.command
  match s.recoveryDecision host record now with
  | .skip => s
  | .schedule roomId => s.scheduleExecution host roomId record
  | .complete terminal caught =>
    let settled := s.settleAndDeliver host command terminal false now
    if caught = false ∧ s.settleThrows host command terminal now then
      { settled with process := .failed, recovery := .none }
    else settled
  | .interrupt terminal =>
    { s.settleAndDeliver host command terminal false now with
      interruptedHere := if s.settlesNow host command terminal now then
        mlp3CommandKey command :: s.interruptedHere else s.interruptedHere }

def recoverNext (s : State) (now : ℕ) : Option State :=
  match s.recovery with
  | .recovering [] => some { s with recovery := .none }
  | .recovering (record :: records) =>
    some ({ s with recovery := .recovering records }.recoverRecord host record now)
  | _ => none

def task (s : State) (id : ℕ) : Option Task := s.tasks.find? (fun t => decide (t.id = id))

def executing (s : State) (id : ℕ) : Option Task :=
  ((s.task id).filter (fun task => decide (task.phase = .executing))).or
    (s.lateTasks.find? (fun t => decide (t.id = id)))

def enter (s : State) (task : Task) : Option State :=
  if task.phase ≠ .waiting ∨ task.previous.any (fun id => (s.task id).isSome) then none
  else if task.prompt.cancelled then some (s.finishTask host task)
  else some (s.setPhase task .dispatching)

def markTaskDispatched (s : State) (task : Task) (now : ℕ) : Option State :=
  if task.phase ≠ .dispatching then none
  else
    let key := mlp3CommandKey task.command
    match s.journal.markDispatched task.command now with
    | .error error => some (s.setPhase task (.failed (plainError error.message)))
    | .ok journal => some { s.setPhase task .dispatched with
        journal
        dispatchedHere := if s.journal.status key = some .accepted then key :: s.dispatchedHere
          else s.dispatchedHere }

def execute (s : State) (task : Task) : Option State :=
  if task.phase ≠ .dispatched then none
  else if task.prompt.cancelled then some (s.finishTask host task)
  else some { s.setPhase task .executing with begun := mlp3CommandKey task.command :: s.begun }

def beginAgentDispatch (s : State) (task : Task) : Option State :=
  if task.phase ≠ .executing ∨ task.command.operation ≠ .promptSubmit ∨
      task.prompt.cancelled then none
  else some (s.replaceTask task { task with prompt := { task.prompt with agentDispatchStarted := true } })

def cancelPrompt (s : State) (task : Task) (promptKey : JsString) : Option State :=
  if task.command.operation ≠ .turnCancel then none
  else (s.scheduledPromptCommands.get promptKey).bind fun id => (s.task id).bind fun target =>
    if target.prompt.agentDispatchStarted then none
    else some (s.replaceTask target { target with prompt := { target.prompt with cancelled := true } })

/-- A body settles its own command, or the prompt that it has cancelled. -/
def settleExecuting (s : State) (task : Task) (command : Command) (terminal : Terminal) (now : ℕ) :
    Option State :=
  if command = task.command ∨ s.tasks.any (fun t => t.command = command && t.prompt.cancelled) then
    some (s.settleAndDeliver host command terminal false now)
  else none

def archiveItemCommand (batch : Command) (projectId sessionId itemCommandId : JsString) : Command :=
  { batch with
    projectId := some projectId
    sessionId := some sessionId
    commandId := itemCommandId
    payload := .sessionSetLifecycle .archived }

def archiveItem (s : State) (task : Task) (roomId sessionId itemCommandId : JsString) (now : ℕ) :
    Option State :=
  if task.command.operation ≠ .sessionArchiveBatch then none
  else (s.registeredProject roomId).bind fun project =>
    if project.deletingCommandId.isSome then none
    else
      let child := archiveItemCommand task.command project.projectId sessionId itemCommandId
      match s.journal.claim child now none with
      | .error _ => none
      | .ok (claim,journal) =>
        let claimed := { s with journal, batchChildren := mlp3CommandKey child :: s.batchChildren }
        if claim.record.status = .terminal ∨ s.activeCommands.has (commandKey child) then some claimed
        else some (claimed.scheduleExecution host roomId claim.record)

def complete (s : State) (task : Task) : Option State :=
  if task.phase = .executing then some (s.finishTask host task) else none

/-- The body throws, or the cancellation that a prompt waits for once it is its turn. -/
def throw (s : State) (task : Task) (error : Thrown) : Option State :=
  if task.phase = .executing ∨ (task.prompt.cancelled ∧ (task.phase = .dispatched ∨
      (task.phase = .waiting ∧ task.previous.any (fun id => (s.task id).isSome) = false))) then
    some (s.setPhase task (.failed error))
  else none

def hasDeadline (command : Command) : Bool :=
  match command.payload with
  | .promptSubmit _ => false
  | .sessionCreate p => p.initialPrompt.isNone
  | .gatewayRestart _ => false
  | .sessionArchiveBatch _ => false
  | _ => true

def expire (s : State) (task : Task) (timeoutMs : ℕ) : Option State :=
  if task.phase ≠ .executing ∨ hasDeadline task.command = false then none
  else
    let expired := s.setPhase task (.failed (executionTimeoutError task.command.operation timeoutMs))
    some { expired with
      lateTasks := task :: s.lateTasks
      expiredCommandExecutions := commandKey task.command :: s.expiredCommandExecutions }

def endLate (s : State) (id : ℕ) : Option State :=
  (s.lateTasks.find? (fun t => decide (t.id = id))).map fun task =>
    { s with
      lateTasks := s.lateTasks.filter (fun t => decide (t.id ≠ id))
      expiredCommandExecutions :=
        s.expiredCommandExecutions.filter (fun key => decide (key ≠ commandKey task.command)) }

/-- Whether the catch leaves the command to the recovery of a later process. -/
def leavesUnfinished (command : Command) (error : Thrown) : Bool :=
  error.isBatchArchiveInterrupted && decide (command.operation = .sessionArchiveBatch)

/-- The first part of the catch, up to the write of the failed turn. -/
def fail (s : State) (task : Task) (now : ℕ) : Option State :=
  match task.phase with
  | .failed error =>
    if (formatError error).isNone ∨ leavesUnfinished task.command error then
      some (s.finishTask host task)
    else (s.project task.roomId).map fun project =>
      { s.setPhase task (.settling error) with
        projects := s.projects.set task.roomId (project.failTurn task.command now) }
  | _ => none

def settleFailure (s : State) (task : Task) (now : ℕ) : Option State :=
  match task.phase with
  | .settling error =>
    (s.project task.roomId).bind fun project =>
      (failureTerminal host project task.command error now).map fun terminal =>
        (s.settleAndDeliver host task.command terminal error.isExecutionTimeout now).finishTask host task
  | _ => none

def lookUpDeletion (s : State) : Option State :=
  match s.endedDeletions with
  | [] => none
  | (roomId,command) :: rest =>
    let succeeded := ((s.journal.row (mlp3CommandKey command)).bind CommandRecord.terminal).any
      (fun terminal => terminal.outcome = .succeeded)
    some { s with
      endedDeletions := rest
      projects := if succeeded then s.projects else s.setDeleting roomId none }

/-- `start`: the projects as they were saved, with the fence of every succeeded deletion. -/
def start (s : State) (projects : InsertionMap JsString ProjectRuntime) : Option State :=
  if s.process ≠ .stopped then none
  else
    let started := { stoppedOver s.journal s.begun s.batchChildren with
      process := .running
      projects
      updateDrainState := if host.startFenced then .sealed else .opened
      recovery := .starting }
    let deletions := s.journal.terminalProjectDeletions.filter (fun record =>
      record.terminal.any (fun terminal => terminal.outcome = .succeeded))
    some { started with projects := deletions.foldl (fun projects record =>
      match started.projectForRecord record with
      | some (roomId,_) =>
        { started with projects }.setDeleting roomId (some record.command.commandId)
      | none => projects) projects }

def finalizeProjectDeletion (s : State) (roomId : JsString) : Option State :=
  (s.registeredProject roomId).map fun project =>
    { s with projects := s.projects.set roomId { project with registered := false, phases := .empty } }

def updateSessions (s : State) (roomId : JsString) (sessions : InsertionMap JsString PersistedSession)
    (phases : InsertionMap JsString Activity) : Option State :=
  (s.project roomId).map fun project =>
    { s with projects := s.projects.set roomId { project with sessions, phases } }

def reopen (s : State) : State :=
  (s.deferredUpdateCommands.values).foldl (fun s e => s.scheduleExecution host e.1 e.2)
    { s with updateDrainState := .opened, deferredUpdateCommands := .empty }

def deliver (s : State) (command : Command) (matrixEventId : JsString) (now : ℕ) : Option State :=
  match s.journal.markTerminalDelivered command matrixEventId now with
  | .ok journal => some { s with journal }
  | .error _ => none

def step (s : State) : Action → Option State
  | .start projects => s.start host projects
  | .crash => some (stoppedOver s.journal s.begun s.batchChildren)
  | .registerProject roomId project =>
    if (s.project roomId).isSome then none else some { s with projects := s.projects.set roomId project }
  | .finalizeProjectDeletion roomId => s.finalizeProjectDeletion roomId
  | .updateSessions roomId sessions phases => s.updateSessions roomId sessions phases
  | .drain state => some { s with updateDrainState := state }
  | .reopen => some (s.reopen host)
  | .receive incoming now => s.receive host incoming now
  | .handle now => s.handle host now
  | .settleHandled now => s.settleHandled host now
  | .readUnfinished =>
    if s.recovery = .starting then some { s with recovery := .recovering s.journal.unfinished } else none
  | .recoverNext now => s.recoverNext host now
  | .enter id => (s.task id).bind (s.enter host)
  | .markDispatched id now => (s.task id).bind (s.markTaskDispatched · now)
  | .execute id => (s.task id).bind (s.execute host)
  | .beginAgentDispatch id => (s.task id).bind s.beginAgentDispatch
  | .cancelPrompt id promptKey => (s.executing id).bind (s.cancelPrompt · promptKey)
  | .settle id command terminal now => (s.executing id).bind (s.settleExecuting host · command terminal now)
  | .archiveItem id roomId sessionId itemCommandId now =>
    (s.executing id).bind (s.archiveItem host · roomId sessionId itemCommandId now)
  | .complete id => (s.task id).bind (s.complete host)
  | .throw id error => (s.task id).bind (s.throw · error)
  | .expire id timeoutMs => (s.task id).bind (s.expire · timeoutMs)
  | .endLate id => s.endLate id
  | .fail id now => (s.task id).bind (s.fail host · now)
  | .settleFailure id now => (s.task id).bind (s.settleFailure host · now)
  | .lookUpDeletion => s.lookUpDeletion
  | .deliver command matrixEventId now => s.deliver command matrixEventId now

def run (s : State) : List Action → Option State
  | [] => some s
  | action :: actions => (s.step host action).bind (fun s' => s'.run actions)

end State

def sampleSchemas : Schemas where
  capabilities _ := true
  clientRelease _ := true
  gatewayDirectory _ := true
  gatewayEnrollmentPending _ := true
  gatewayUpdateStatus _ := true
  gatewayDeploymentStatus _ := true
  gatewayRestartStatus _ := true
  modelCapability _ := true
  providerControlError _ := true
  extensionDescriptor _ := true
  extensionConfig _ := true
  conversationReferences _ := true
  attachment _ := true
  attachments _ := true
  controlId _ := true
  controlValuesSize _ := 2
  sessionFields _ := true
  payloadFields _ := true
  commandFields _ := true
  normalizedProviderHistory _ := false

def sampleHost : Host where
  schemas := sampleSchemas
  gatewayId := "home"
  isOpaqueId_gatewayId := by decide
  sha256 _ := ⟨List.replicate 43 65⟩
  isDigest_sha256 _ := by decide
  batchArchiveEnabled := true
  startFenced := false

def sampleDevice : TrustedDevice where
  deviceId := "phone"
  certificateId := "first"
  allowedRoomIds := ["!project:home"]
  certificateExpiresAt := none
  allowedOperations := none

def sampleProjects : InsertionMap JsString ProjectRuntime :=
  InsertionMap.empty.set "!project:home"
    { projectId := "project"
      isOpaqueId_projectId := by decide
      registered := true
      sessions := .empty
      phases := .empty
      deletingCommandId := none }

def sampleCommand (commandId : JsString) (sessionId : Option JsString) (payload : CommandPayload) : Command where
  commandId
  workspaceId := "home"
  projectId := some "project"
  sessionId
  deviceId := "phone"
  certificateId := "first"
  createdAt := 0
  payload

def renameFirst : Command := sampleCommand "rename-1" (some "session-1") (.other .sessionUpdate .null)

def renameSecond : Command := sampleCommand "rename-2" (some "session-2") (.other .sessionUpdate .null)

def sampleIncoming (matrixEventId : JsString) (command : Command) : Incoming :=
  ⟨"!project:home",matrixEventId,sampleDevice,command⟩

end Malink.Gateway
