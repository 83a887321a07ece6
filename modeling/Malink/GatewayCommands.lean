import Malink.CommandJournal

/-!
# Commands at the Gateway

The projects that a Gateway serves, the policy for the commands of a device, and the terminal events of commands that
are rejected, failed or interrupted.
-/

namespace Malink.Gateway

open Mlp3
open Mlp3.JsString (within)

/-- The constants of one Gateway. Its identifier is one that a valid command can name, and the Base64URL
text of a SHA-256 digest has 43 characters. -/
structure Host where
  schemas : Schemas
  gatewayId : JsString
  isOpaqueId_gatewayId : isOpaqueId gatewayId
  sha256 : JsString → JsString
  isDigest_sha256 : ∀ s, isDigest (sha256 s)
  batchArchiveEnabled : Bool
  startFenced : Bool

structure PersistedSession where
  scope : JsString
  cwd : JsString
  title : JsString
  updatedAt : ℕ
  stateVersion : ℕ
  lifecycle : Lifecycle
  lifecycleCommandId : Option JsString
  /-- The command of a deletion that is not cleaned up yet. -/
  archiveCleanup : Option JsString
  extensionRevision : ℕ
  /-- What the extension registry, the provider and the history room add to the projection. -/
  extensions : Json
  controls : List Control
  availableCommands : Json
  providerHistory : Option Json
  deriving DecidableEq

/-- A project in memory: its persisted sessions, and the phase of those that are running. A deleted project
is no longer registered, but a task or the handler may still hold it. -/
structure ProjectRuntime where
  projectId : JsString
  /-- No valid command names a project with another identifier. -/
  isOpaqueId_projectId : isOpaqueId projectId
  registered : Bool
  sessions : InsertionMap JsString PersistedSession
  phases : InsertionMap JsString Activity
  deletingCommandId : Option JsString
  deriving DecidableEq

/-- `project.sessions.get(command.sessionId)` -/
def ProjectRuntime.runtime (project : ProjectRuntime) (command : Command) :
    Option (PersistedSession × Activity) := do
  let sessionId ← command.sessionId
  let phase ← project.phases.get sessionId
  let record ← project.sessions.get sessionId
  return (record,phase)

def terminalProjection (record : PersistedSession) (activity : Activity) : SessionProjection where
  title := record.title
  scope := some record.scope
  cwd := some record.cwd
  lifecycle := record.lifecycle
  activity
  updatedAt := record.updatedAt
  stateVersion := record.stateVersion
  extensions := some record.extensions
  availableCommands := some record.availableCommands
  extensionRevision := some record.extensionRevision
  providerHistory := record.providerHistory
  controls := some record.controls

def PersistedSession.transition (record : PersistedSession) (now : ℕ) : PersistedSession :=
  { record with updatedAt := now, stateVersion := record.stateVersion + 1 }

def ProjectRuntime.transition (project : ProjectRuntime) (sessionId : JsString) (record : PersistedSession)
    (activity : Activity) (now : ℕ) : ProjectRuntime :=
  { project with
    sessions := project.sessions.set sessionId (record.transition now)
    phases := project.phases.set sessionId activity }

def nul : JsString := ⟨[0]⟩

/-- `commandKey`: the key of a command within the process. -/
def commandKey (command : Command) : JsString :=
  command.deviceId ++ nul ++ command.certificateId ++ nul ++ command.commandId

variable (host : Host)

def logicalEventId (command : Command) (stage : JsString) : JsString :=
  host.sha256 (("malink-v3-event" : JsString) ++ nul ++ command.deviceId ++ nul ++ command.certificateId ++
    nul ++ command.commandId ++ nul ++ stage)

inductive PairingOperation
  | prompt
  | cancel
  | decision
  | sessionSettings
  | sessionCreate
  | projectCreate
  | projectSettings
  | providerSessionsList
  | providerSessionInspect
  | providerHistoryMaterialize
  | artifactMaterialize
  | extensionCryptoGrant
  | sessionArchive
  | sessionRestore
  | sessionDelete
  | deviceInvite
  | privilegeApprove
  | gatewayUpdate
  deriving DecidableEq

structure TrustedDevice where
  deviceId : JsString
  /-- The certificate, `sequenceEpoch`. -/
  certificateId : JsString
  allowedRoomIds : List JsString
  certificateExpiresAt : Option ℕ
  allowedOperations : Option (List PairingOperation)
  deriving DecidableEq

def gatewayUpdateOperations : List CommandOperation :=
  [.other .gatewayUpdateStage,.other .gatewayUpdateApply,.other .gatewayUpdateStatus,
    .other .gatewayUpdatePrepare,.other .gatewayUpdatePromote,.other .gatewayUpdateDiscard,
    .other .gatewayDeploymentStatus,.gatewayRestart,.other .gatewayRestartStatus]

/-- The command operations that one pairing operation stands for. -/
def grantedBy : PairingOperation → List CommandOperation
  | .prompt => [.promptSubmit]
  | .cancel => [.turnCancel]
  | .decision => [.decisionAnswer]
  | .extensionCryptoGrant => [.other .extensionCryptoGrant]
  | .artifactMaterialize => [.other .artifactMaterialize]
  | .sessionSettings => [.other .sessionUpdate,.notificationSubscribe,.notificationUnsubscribe]
  | .sessionCreate => [.sessionCreate]
  | .projectCreate => [.projectCreate]
  | .projectSettings => [.projectUpdate,.projectDelete]
  | .providerSessionsList => [.providerSessionsList]
  | .providerSessionInspect => [.providerSessionInspect]
  | .providerHistoryMaterialize => [.other .providerHistoryMaterialize]
  | .sessionArchive => [.sessionArchiveBatch,.sessionSetLifecycle]
  | .sessionRestore => [.sessionSetLifecycle]
  | .sessionDelete => [.sessionSetLifecycle]
  | .deviceInvite => [.other .deviceInvitationCreate,.other .gatewayEnrollmentInvitationCreate,
      .other .gatewayEnrollmentApprove,.other .gatewayEnrollmentCancel,.gatewayProfileUpdate,.gatewayRetire]
  | .privilegeApprove => []
  | .gatewayUpdate => gatewayUpdateOperations

/-- `v3AllowedOperations`: every operation for a full member of the workspace, and for a device without
the field. -/
def isOperationAllowed (legacy : Option (List PairingOperation)) (operation : CommandOperation) : Bool :=
  match legacy with
  | none => true
  | some legacy => decide (.deviceInvite ∈ legacy) || legacy.any (fun o => operation ∈ grantedBy o)

structure Rejection where
  code : JsString
  message : JsString
  deriving DecidableEq

/-- The policy part of `authorize`. -/
def authorize (device : TrustedDevice) (roomId : JsString) (command : Command) (now : ℕ) :
    Option Rejection :=
  if roomId ∉ device.allowedRoomIds then
    some ⟨"room_not_allowed","Malink device is not allowed in this project room"⟩
  else if device.certificateExpiresAt.any (· ≤ now) then
    some ⟨"certificate_expired","Malink device certificate has expired"⟩
  else if !isOperationAllowed device.allowedOperations command.operation then
    some ⟨"operation_not_allowed",("Malink device is not allowed to run " : JsString) ++ command.operation.name⟩
  else none

inductive ErrorClass
  | batchArchiveInterrupted
  | executionTimeout
  | other
  deriving DecidableEq

/-- A thrown value: an instance of `Error`, or anything else. The conversion of the latter to a string
fails for an object without a usable `toString`. -/
inductive Thrown
  | error (errorClass : ErrorClass) (message : JsString) (commandCode : Option JsString) (retryable : Bool)
  | value (text commandCode : Option JsString) (retryable : Bool)
  deriving DecidableEq

/-- `formatError`, or nothing where it throws itself. -/
def formatError : Thrown → Option JsString
  | .error _ message _ _ => some message
  | .value text _ _ => text

def Thrown.isBatchArchiveInterrupted : Thrown → Bool
  | .error .batchArchiveInterrupted _ _ _ => true
  | _ => false

def Thrown.isExecutionTimeout : Thrown → Bool
  | .error .executionTimeout _ _ _ => true
  | _ => false

def plainError (message : JsString) : Thrown := .error .other message none false

/-- `GatewayCommandExecutionTimeoutError` -/
def executionTimeoutError (operation : CommandOperation) (timeoutMs : ℕ) : Thrown :=
  .error .executionTimeout
    (("Gateway " : JsString) ++ operation.name ++ " execution timed out after " ++ JsString.ofNat timeoutMs ++ "ms")
    (some "gateway_execution_timeout") true

def isLowercase (u : UInt16) : Bool := 97 ≤ u && u ≤ 122

def isCodeUnit (u : UInt16) : Bool := isLowercase u || (48 ≤ u && u ≤ 57) || u = 95

/-- `/^[a-z][a-z0-9_]{0,127}$/u` -/
def isCommandCode (s : JsString) : Bool :=
  match s.units with
  | [] => false
  | u :: us => isLowercase u && us.all isCodeUnit && decide (us.length ≤ 127)

structure Failure where
  code : JsString
  retryable : Bool
  deriving DecidableEq

def commandFailure (error : Thrown) : Failure :=
  let candidate : Option JsString × Bool := match error with
    | .error _ _ commandCode retryable => (commandCode,retryable)
    | .value _ commandCode retryable => (commandCode,retryable)
  match candidate with
  | (some code,retryable) =>
    if isCommandCode code then ⟨code,retryable⟩ else ⟨"execution_failed",false⟩
  | (none,_) => ⟨"execution_failed",false⟩

/-- The session of an event is the one that its command names, whether or not the project knows it. -/
def eventFor (project : ProjectRuntime) (command : Command) (stage : JsString) (now : ℕ)
    (payload : EventPayload) : Event where
  eventId := logicalEventId host command stage
  workspaceId := host.gatewayId
  projectId := some project.projectId
  sessionId := command.sessionId
  occurredAt := now
  causationCommandId := some command.commandId
  payload

/-- The terminal that `settleAndDeliver` records for an event. -/
def terminalOf (command : Command) (event : Event) (outcome : TerminalOutcome) : Terminal where
  outcome
  eventId := event.eventId
  event := some event
  sessionId := command.sessionId
  code := none
  error := none
  result := none
  reconciledCancelled := false
  retryable := none

def failedTurn (project : ProjectRuntime) (command : Command) : Option (PersistedSession × Activity) :=
  if command.operation = .promptSubmit then project.runtime command else none

def ProjectRuntime.failTurn (project : ProjectRuntime) (command : Command) (now : ℕ) : ProjectRuntime :=
  match failedTurn project command, command.sessionId with
  | some (record,_), some sessionId => project.transition sessionId record .failed now
  | _, _ => project

/-- The payload that `failCommand` builds once the turn is marked as failed. -/
def failurePayload (project : ProjectRuntime) (command : Command) (error : Thrown) (message : JsString) :
    EventPayload :=
  let failure := commandFailure error
  match failedTurn project command with
  | some (record,activity) =>
    .turnFailed command.commandId (terminalProjection record activity) failure.code message
  | none => .commandRejected command.commandId failure.code message failure.retryable

/-- The terminal that `failCommand` settles, nothing where `formatError` throws. -/
def failureTerminal (project : ProjectRuntime) (command : Command) (error : Thrown) (now : ℕ) :
    Option Terminal :=
  (formatError error).map fun message =>
    terminalOf command (eventFor host project command "command-failed" now
      (failurePayload project command error message)) .failed

def rejectionTerminal (project : ProjectRuntime) (command : Command) (rejection : Rejection) (now : ℕ) :
    Terminal :=
  terminalOf command (eventFor host project command "authorization-rejected" now
    (.commandRejected command.commandId rejection.code rejection.message false)) .rejected

/-- `project.project.sessions.find(session => session.id === command.sessionId)` -/
def ProjectRuntime.session (project : ProjectRuntime) (command : Command) : Option PersistedSession :=
  command.sessionId.bind project.sessions.get

def interruptedTerminal (project : ProjectRuntime) (command : Command) (now : ℕ) : Terminal :=
  terminalOf command (eventFor host project command "interrupted" now
    (.commandRejected command.commandId "execution_interrupted"
      "The Gateway restarted after dispatch. The command was not executed again." true)) .interrupted

def projectDeletingError : Thrown := plainError "This project is being deleted and no longer accepts commands"

/-- Whether the turn that a failure ends can be shown: its session has a valid projection. -/
def isTurnReportable (project : ProjectRuntime) (command : Command) : Bool :=
  (failedTurn project command).all (fun e => sessionProjectionSchema host.schemas (terminalProjection e.1 e.2))

theorem isOpaqueId_of_isDigest {s : JsString} (h : isDigest s) : isOpaqueId s := by
  simp only [isDigest,Bool.and_eq_true,decide_eq_true_eq] at h
  simp [isOpaqueId,within,h.1]

theorem within_of_isCommandCode {s : JsString} (h : isCommandCode s) : within s 1 128 := by
  unfold isCommandCode at h
  split at h
  · cases h
  · next u us hs =>
    simp only [Bool.and_eq_true,decide_eq_true_eq] at h
    have hlength : s.length = us.length + 1 := by rw [JsString.length,hs,List.length_cons]
    simp only [within,hlength,Bool.and_eq_true,decide_eq_true_eq]
    omega

theorem within_commandFailure (error : Thrown) : within (commandFailure error).code 1 128 := by
  have hdefault : within ("execution_failed" : JsString) 1 128 := by decide
  have key : ∀ (code : Option JsString) (retryable : Bool),
      within (match (code,retryable) with
        | (some code,retryable) =>
          if isCommandCode code then (⟨code,retryable⟩ : Failure) else ⟨"execution_failed",false⟩
        | (none,_) => ⟨"execution_failed",false⟩ : Failure).code 1 128 = true := by
    intro code retryable
    cases code with
    | none => exact hdefault
    | some code =>
      simp only
      split
      · next h => exact within_of_isCommandCode h
      · exact hdefault
  cases error with
  | error _ _ commandCode retryable => exact key commandCode retryable
  | value _ commandCode retryable => exact key commandCode retryable

variable {command : Command}

theorem isOpaqueId_of_commandSchema {schemas : Schemas} (h : commandSchema schemas command) :
    isOpaqueId command.commandId ∧ command.sessionId.all isOpaqueId := by
  simp only [commandSchema,Bool.and_eq_true] at h
  tauto

variable {host : Host}

section

variable (hc : commandSchema host.schemas command) (project : ProjectRuntime)
include hc project

/-- A valid command gives a valid event but for the clock and the payload. -/
theorem eventSchema_eventFor (stage : JsString) (now : ℕ) (payload : EventPayload) :
    eventSchema host.schemas (eventFor host project command stage now payload) =
      (isTimestamp now && eventPayloadSchema host.schemas payload) := by
  obtain ⟨hcommand,hsession⟩ := isOpaqueId_of_commandSchema hc
  have hevent := isOpaqueId_of_isDigest (host.isDigest_sha256
    (("malink-v3-event" : JsString) ++ nul ++ command.deviceId ++ nul ++ command.certificateId ++
      nul ++ command.commandId ++ nul ++ stage))
  simp [eventSchema,eventFor,logicalEventId,hevent,host.isOpaqueId_gatewayId,
    project.isOpaqueId_projectId,hsession,hcommand]

theorem isMlp3CommandTerminal_terminalOf (stage : JsString) (now : ℕ) {payload : EventPayload}
    (hp : payload.fullyNamed) (outcome : TerminalOutcome) : isMlp3CommandTerminal host.schemas
        (terminalOf command (eventFor host project command stage now payload) outcome) =
      (isTimestamp now && eventPayloadSchema host.schemas payload) := by
  have hevent := host.isDigest_sha256
    (("malink-v3-event" : JsString) ++ nul ++ command.deviceId ++ nul ++ command.certificateId ++
      nul ++ command.commandId ++ nul ++ stage)
  have hlegacy : isRecoverableLegacyProviderHistoryEvent host.schemas
      (eventFor host project command stage now payload) = false := by
    cases payload <;> first | rfl | cases hp
  have hlength : 0 < (logicalEventId host command stage).length := by
    simp only [isDigest,Bool.and_eq_true,decide_eq_true_eq] at hevent
    rw [logicalEventId,hevent.1]
    decide
  show (decide (0 < (logicalEventId host command stage).length) &&
    (eventSchema host.schemas (eventFor host project command stage now payload) ||
      isRecoverableLegacyProviderHistoryEvent host.schemas
        (eventFor host project command stage now payload))) = _
  rw [hlegacy,eventSchema_eventFor hc,Bool.or_false,decide_eq_true hlength,Bool.true_and]

/-- The terminal of a failure is valid when its message has between 1 and 8192 units and its turn can be
shown. -/
theorem isMlp3CommandTerminal_failure (error : Thrown) (message : JsString) (now : ℕ) :
    isMlp3CommandTerminal host.schemas (terminalOf command (eventFor host project command "command-failed" now
        (failurePayload project command error message)) .failed) =
      (isTimestamp now && within message 1 8192 && isTurnReportable host project command) := by
  obtain ⟨hcommand,-⟩ := isOpaqueId_of_commandSchema hc
  have hcode := within_commandFailure error
  cases hturn : failedTurn project command with
  | none =>
    have hp : failurePayload project command error message = .commandRejected command.commandId
        (commandFailure error).code message (commandFailure error).retryable := by
      simp only [failurePayload,hturn]
    rw [hp,isMlp3CommandTerminal_terminalOf hc project _ now rfl]
    simp [eventPayloadSchema,payloadSchema,EventPayload.projection,EventPayload.fullyNamed,hcommand,hcode,
      isTurnReportable,hturn]
  | some e =>
    have hp : failurePayload project command error message = .turnFailed command.commandId
        (terminalProjection e.1 e.2) (commandFailure error).code message := by
      simp only [failurePayload,hturn]
    rw [hp,isMlp3CommandTerminal_terminalOf hc project _ now rfl]
    simp [eventPayloadSchema,payloadSchema,EventPayload.projection,EventPayload.fullyNamed,hcommand,hcode,
      isTurnReportable,hturn,Bool.and_assoc]

end

theorem within_name (operation : CommandOperation) : operation.name.length ≤ 128 := by
  cases operation with
  | other operation => cases operation <;> decide
  | _ => decide

/-- Every rejection has a code and a message within their bounds. -/
theorem within_of_authorize {device : TrustedDevice} {roomId : JsString} {now : ℕ} {rejection : Rejection}
    (h : authorize device roomId command now = some rejection) :
    within rejection.code 1 128 ∧ within rejection.message 1 8192 := by
  unfold authorize at h
  split at h
  · cases h
    exact ⟨by decide,by decide⟩
  · split at h
    · cases h
      exact ⟨by decide,by decide⟩
    · split at h
      · cases h
        refine ⟨?_,?_⟩
        · show within ("operation_not_allowed" : JsString) 1 128 = true
          decide
        have hname := within_name command.operation
        have hprefix : ("Malink device is not allowed to run " : JsString).length = 36 := by decide
        simp only [within,JsString.length_append, hprefix,Bool.and_eq_true,decide_eq_true_eq]
        omega
      · cases h

theorem isMlp3CommandTerminal_rejection (hc : commandSchema host.schemas command)
    (project : ProjectRuntime) {rejection : Rejection} (hcode : within rejection.code 1 128)
    (hmessage : within rejection.message 1 8192) (now : ℕ) :
    isMlp3CommandTerminal host.schemas (rejectionTerminal host project command rejection now) =
      isTimestamp now := by
  obtain ⟨hcommand,-⟩ := isOpaqueId_of_commandSchema hc
  rw [rejectionTerminal,isMlp3CommandTerminal_terminalOf hc project _ now rfl]
  simp [eventPayloadSchema,payloadSchema,EventPayload.projection,EventPayload.fullyNamed,hcommand,hcode,hmessage]

end Malink.Gateway
