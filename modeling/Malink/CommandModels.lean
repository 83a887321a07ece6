import Malink.CheckedResults
import Malink.KotlinStrings

/-!
# Commands of the native client

The records of the durable command outbox, with the checks of their constructors as fields.
-/

namespace Malink.Native.Commands

inductive OutboxError where
  | illegalArgument (message : JsString)
  | illegalState (message : JsString)
  | noSuchElement
  | serialization
  | idempotencyConflict (message : JsString)
  | releasedCommand (message : JsString)
  | io
  deriving DecidableEq

def require (c : Prop) [Decidable c] (message : JsString) : Except OutboxError Unit :=
  refuseIf (¬ c) (.illegalArgument message)

theorem require_eq_ok {c : Prop} [Decidable c] {message : JsString} {u : Unit} : require c message = .ok u ↔ c := by
  rw [require,refuseIf_eq_ok,not_not]

theorem require_of {c : Prop} [Decidable c] (message : JsString) (h : c) : require c message = .ok () :=
  require_eq_ok.mpr h

def MAX_PAYLOAD_BYTES : ℕ := 256 * 1024
def MAX_RESULT_BYTES : ℕ := 256 * 1024
def MAX_SAFE_JSON_INTEGER : ℤ := 9007199254740991

def isOpaqueId (value : JsString) : Bool :=
  !value.isBlank && value.length ≤ 512 && !value.units.any JsString.isISOControl

def requireOpaqueId (value field : JsString) : Except OutboxError Unit :=
  require (isOpaqueId value) (field ++ (" is invalid." : JsString))

def requireUuid (value : JsString) : Except OutboxError Unit := require (value.isUuid) "idempotencyKey must be a UUID."

def requirePositiveJsonInteger (value : ℤ) (field : JsString) : Except OutboxError Unit :=
  require (1 ≤ value ∧ value ≤ MAX_SAFE_JSON_INTEGER) (field ++ (" must be a positive safe JSON integer." : JsString))

def requireNonnegativeJsonInteger (value : ℤ) (field : JsString) : Except OutboxError Unit :=
  require (0 ≤ value ∧ value ≤ MAX_SAFE_JSON_INTEGER)
    (field ++ (" must be a nonnegative safe JSON integer." : JsString))

theorem check_bind_eq_ok {α : Type} {check : Except OutboxError Unit} {next : Unit → Except OutboxError α} {a : α} :
    (check >>= next) = .ok a ↔ check = .ok () ∧ next () = .ok a := by
  rw [bind_eq_ok]
  constructor
  · rintro ⟨⟨⟩,hcheck,hnext⟩
    exact ⟨hcheck,hnext⟩
  · rintro ⟨hcheck,hnext⟩
    exact ⟨(),hcheck,hnext⟩

def checkPresent {α : Type} (check : α → Except OutboxError Unit) : Option α → Except OutboxError Unit
  | none => .ok ()
  | some value => check value

theorem checkPresent_eq_ok {α : Type} {check : α → Except OutboxError Unit} {value : Option α} {u : Unit} :
    checkPresent check value = .ok u ↔ ∀ v, value = some v → check v = .ok () := by
  cases value with
  | none | some => simp [checkPresent]

inductive CommandState where
  | queued
  | transmitting
  | published
  | running
  | recoveryRequired
  | succeeded
  | failed
  | cancelled
  deriving DecidableEq, Repr

namespace CommandState

def isTerminal : CommandState → Bool
  | .succeeded | .failed | .cancelled => true
  | .queued | .transmitting | .published | .running | .recoveryRequired => false

def wireName : CommandState → JsString
  | .queued => "queued"
  | .transmitting => "transmitting"
  | .published => "published"
  | .running => "running"
  | .recoveryRequired => "recovery_required"
  | .succeeded => "succeeded"
  | .failed => "failed"
  | .cancelled => "cancelled"

def entries : List CommandState :=
  [.queued,.transmitting,.published,.running,.recoveryRequired,.succeeded,.failed,.cancelled]

/-- Two names of the earlier schemas are read as states of the present one. -/
def fromWireName (value : JsString) : Except OutboxError CommandState :=
  if value = "accepted" then .ok .published
  else if value = "needs_review" then .ok .recoveryRequired
  else match entries.find? fun entry => entry.wireName = value with
    | some entry => .ok entry
    | none => .error (.illegalArgument "Command state is invalid.")

theorem fromWireName_wireName (state : CommandState) : fromWireName state.wireName = .ok state := by
  cases state <;> rfl

end CommandState

inductive CommandOutcome where
  | succeeded
  | failed
  | cancelled
  deriving DecidableEq, Repr

namespace CommandOutcome

def wireName : CommandOutcome → JsString
  | .succeeded => "succeeded"
  | .failed => "failed"
  | .cancelled => "cancelled"

def entries : List CommandOutcome := [.succeeded,.failed,.cancelled]

def fromWireName (value : JsString) : Except OutboxError CommandOutcome :=
  match entries.find? fun entry => entry.wireName = value with
  | some entry => .ok entry
  | none => .error (.illegalArgument "Command outcome is invalid.")

theorem fromWireName_wireName (outcome : CommandOutcome) : fromWireName outcome.wireName = .ok outcome := by
  cases outcome <;> rfl

end CommandOutcome

structure PublicCommandError where
  code : JsString
  message : JsString
  retryable : Bool
  code_valid : code.isBlank = false ∧ code.length ≤ 128
  message_valid : message.length ≤ 4096
  deriving DecidableEq

def publicCommandError (code message : JsString) (retryable : Bool) : Except OutboxError PublicCommandError :=
  if hcode : code.isBlank = false ∧ code.length ≤ 128 then
    if hmessage : message.length ≤ 4096 then .ok ⟨code,message,retryable,hcode,hmessage⟩
    else .error (.illegalArgument "Command error message is too large.")
  else .error (.illegalArgument "Command error code is invalid.")

/-- `sequence` and `revision` serve an earlier bridge and are not written to the file. -/
structure CommandCompletion where
  commandId : JsString
  sequence : ℤ
  revision : ℤ
  outcome : CommandOutcome
  sessionId : Option JsString
  result : Option JsonElement
  error : Option PublicCommandError
  commandId_valid : isOpaqueId commandId
  sequence_valid : 1 ≤ sequence ∧ sequence ≤ MAX_SAFE_JSON_INTEGER
  revision_valid : 0 ≤ revision ∧ revision ≤ MAX_SAFE_JSON_INTEGER
  sessionId_valid : sessionId.all isOpaqueId
  result_valid : result.all (fun r => r.size ≤ MAX_RESULT_BYTES)
  deriving DecidableEq

theorem defaultSequence_valid : (1 : ℤ) ≤ 1 ∧ 1 ≤ MAX_SAFE_JSON_INTEGER := by decide

theorem defaultRevision_valid : (0 : ℤ) ≤ 0 ∧ 0 ≤ MAX_SAFE_JSON_INTEGER := by decide

/-- The constructor with the default `sequence` and `revision`. -/
def commandCompletion (commandId : JsString) (outcome : CommandOutcome) (sessionId : Option JsString)
    (result : Option JsonElement) (error : Option PublicCommandError) : Except OutboxError CommandCompletion :=
  if hid : isOpaqueId commandId then
    if hsession : sessionId.all isOpaqueId then
      if hresult : result.all (fun r => r.size ≤ MAX_RESULT_BYTES) then
        .ok ⟨commandId,1,0,outcome,sessionId,result,error,hid,defaultSequence_valid,
          defaultRevision_valid,hsession,hresult⟩
      else .error (.illegalArgument "Command result is too large.")
    else .error (.illegalArgument "sessionId is invalid.")
  else .error (.illegalArgument "commandId is invalid.")

namespace CommandCompletion

/-- `==` of two completions, whose results are compared as the JSON library does. -/
def same (a b : CommandCompletion) : Bool :=
  a.commandId = b.commandId && a.sequence = b.sequence && a.revision = b.revision && a.outcome = b.outcome &&
    a.sessionId = b.sessionId && a.error = b.error && match a.result, b.result with
      | none, none => true
      | some r, some r' => r.same r'
      | _, _ => false

theorem same_self (completion : CommandCompletion) : completion.same completion := by
  cases hresult : completion.result with
  | none => simp [same,hresult]
  | some result => simp [same,hresult,JsonElement.same_self]

end CommandCompletion

abbrev JsonObject : Type := List (JsString × JsonElement)

def JsonObject.get (value : JsonObject) (name : JsString) : Option JsonElement := (JsonElement.object value).field name

structure PersistedCommand where
  operationId : JsString
  commandId : JsString
  retiredCommandIds : List JsString
  idempotencyKey : JsString
  requestFingerprint : JsString
  state : CommandState
  submittedAt : ℤ
  updatedAt : ℤ
  sessionId : Option JsString
  projectId : Option JsString
  createdAt : Option ℤ
  matrixEventId : Option JsString
  cancelRequested : Bool
  completion : Option CommandCompletion
  payload : JsonObject
  deriving DecidableEq

structure ReleasedCommandTombstone where
  operationId : JsString
  commandId : JsString
  retiredCommandIds : List JsString
  idempotencyKey : JsString
  requestFingerprint : JsString
  releasedAt : ℤ
  deriving DecidableEq

structure CommandOutboxMigration where
  fromSchemaVersion : ℤ
  quarantinedCommandCount : ℕ
  deriving DecidableEq

structure CommandOutboxSnapshot where
  commands : List PersistedCommand
  released : List ReleasedCommandTombstone
  deriving DecidableEq

def CommandOutboxSnapshot.empty : CommandOutboxSnapshot := ⟨[],[]⟩

/-! ## Views of a command

Their constructors repeat the checks that the codec makes before a command is stored. -/

structure CommandView where
  operationId : JsString
  commandId : JsString
  idempotencyKey : JsString
  state : CommandState
  submittedAt : ℤ
  updatedAt : ℤ
  sessionId : Option JsString
  cancelRequested : Bool
  completion : Option CommandCompletion
  deriving DecidableEq

structure CommandReceipt where
  operationId : JsString
  commandId : JsString
  idempotencyKey : JsString
  state : CommandState
  submittedAt : ℤ
  updatedAt : ℤ
  sessionId : Option JsString
  deriving DecidableEq

structure CommandTransmission where
  operationId : JsString
  commandId : JsString
  idempotencyKey : JsString
  projectId : Option JsString
  issuedAt : ℤ
  payload : JsonObject
  recovery : Bool
  deriving DecidableEq

namespace PersistedCommand

def toView (command : PersistedCommand) : CommandView where
  operationId := command.operationId
  commandId := command.commandId
  idempotencyKey := command.idempotencyKey
  state := command.state
  submittedAt := command.submittedAt
  updatedAt := command.updatedAt
  sessionId := command.sessionId
  cancelRequested := command.cancelRequested
  completion := command.completion

def toTransmission (command : PersistedCommand) (recovery : Bool) : Except OutboxError CommandTransmission :=
  match command.createdAt with
  | none => .error (.illegalState "A transmission has no durable creation timestamp.")
  | some createdAt => .ok {
      operationId := command.operationId
      commandId := command.commandId
      idempotencyKey := command.idempotencyKey
      projectId := command.projectId
      issuedAt := createdAt
      payload := command.payload
      recovery := recovery }

def toReleasedTombstone (command : PersistedCommand) (releasedAt : ℤ) : ReleasedCommandTombstone where
  operationId := command.operationId
  commandId := command.commandId
  retiredCommandIds := command.retiredCommandIds
  idempotencyKey := command.idempotencyKey
  requestFingerprint := command.requestFingerprint
  releasedAt := releasedAt

end PersistedCommand

def CommandView.toReceipt (view : CommandView) : CommandReceipt where
  operationId := view.operationId
  commandId := view.commandId
  idempotencyKey := view.idempotencyKey
  state := view.state
  submittedAt := view.submittedAt
  updatedAt := view.updatedAt
  sessionId := view.sessionId

inductive CommandOperation where
  | prompt | cancel | decision | artifactMaterialize | sessionSettings | sessionCreate | projectCreate
  | projectSettings | projectDelete | providerSessionsList | providerSessionInspect
  | providerHistoryMaterialize | sessionArchive | sessionArchiveBatch | sessionRestore | sessionDelete
  | deviceInvite | gatewayEnrollmentInvite | gatewayEnrollmentApprove | gatewayEnrollmentCancel
  | gatewayProfileUpdate | gatewayRetire | gatewayUpdateStage | gatewayUpdateApply | gatewayUpdateStatus
  | gatewayUpdatePrepare | gatewayUpdatePromote | gatewayUpdateDiscard | gatewayDeploymentStatus
  | gatewayRestart | gatewayRestartStatus | extensionCryptoGrant
  deriving DecidableEq

namespace CommandOperation

def wireName : CommandOperation → JsString
  | .prompt => "prompt"
  | .cancel => "cancel"
  | .decision => "decision"
  | .artifactMaterialize => "artifact.materialize"
  | .sessionSettings => "session.settings"
  | .sessionCreate => "session.create"
  | .projectCreate => "project.create"
  | .projectSettings => "project.settings"
  | .projectDelete => "project.delete"
  | .providerSessionsList => "provider.sessions.list"
  | .providerSessionInspect => "provider.session.inspect"
  | .providerHistoryMaterialize => "provider.history.materialize"
  | .sessionArchive => "session.archive"
  | .sessionArchiveBatch => "session.archive.batch"
  | .sessionRestore => "session.restore"
  | .sessionDelete => "session.delete"
  | .deviceInvite => "device.invite"
  | .gatewayEnrollmentInvite => "gateway.enrollment.invite"
  | .gatewayEnrollmentApprove => "gateway.enrollment.approve"
  | .gatewayEnrollmentCancel => "gateway.enrollment.cancel"
  | .gatewayProfileUpdate => "gateway.profile.update"
  | .gatewayRetire => "gateway.retire"
  | .gatewayUpdateStage => "gateway.update.stage"
  | .gatewayUpdateApply => "gateway.update.apply"
  | .gatewayUpdateStatus => "gateway.update.status"
  | .gatewayUpdatePrepare => "gateway.update.prepare"
  | .gatewayUpdatePromote => "gateway.update.promote"
  | .gatewayUpdateDiscard => "gateway.update.discard"
  | .gatewayDeploymentStatus => "gateway.deployment.status"
  | .gatewayRestart => "gateway.restart"
  | .gatewayRestartStatus => "gateway.restart.status"
  | .extensionCryptoGrant => "extension.crypto.grant"

/-- The three read-only observations, which may be retired while they are unfinished. -/
def isGatewayStatusProbe (operation : CommandOperation) : Bool :=
  operation = .gatewayUpdateStatus || operation = .gatewayDeploymentStatus || operation = .gatewayRestartStatus

end CommandOperation

structure ValidatedCommandPayload where
  operation : CommandOperation
  sessionId : Option JsString
  deriving DecidableEq

end Malink.Native.Commands
