import Malink.InsertionMaps
import Malink.JsonText

/-!
# Commands and events of MLP/3

The signed documents that devices and Gateways exchange, with the fields that the Gateway and the client projection
read.
-/

namespace Malink.Mlp3

inductive Lifecycle
  | active
  | archived
  | deleted
  deriving DecidableEq

inductive Activity
  | idle
  | queued
  | working
  | attention
  | failed
  deriving DecidableEq

inductive ControlValue
  | text (value : JsString)
  | flag (value : Bool)
  deriving DecidableEq

abbrev ControlValues := InsertionMap JsString ControlValue

structure Control where
  id : JsString
  value : Option ControlValue
  rest : Json
  deriving DecidableEq

structure ExtensionBinding where
  id : JsString
  config : Option Json
  deriving DecidableEq

structure SessionProjection where
  title : JsString
  scope : Option JsString
  cwd : Option JsString
  lifecycle : Lifecycle
  activity : Activity
  updatedAt : ℕ
  stateVersion : ℕ
  extensions : Option Json
  availableCommands : Option Json
  extensionRevision : Option ℕ
  providerHistory : Option Json
  controls : Option (List Control)
  deriving DecidableEq

structure Prompt where
  text : JsString
  attachments : Option Json
  deriving DecidableEq

structure SessionCreate where
  scope : Option JsString
  title : Option JsString
  model : Option JsString
  provider : Option JsString
  reasoningEffort : Option JsString
  permissionMode : Option JsString
  extensions : Option (List ExtensionBinding)
  controls : Option ControlValues
  initialPrompt : Option Prompt
  rest : Json
  deriving DecidableEq

structure PromptSubmit where
  references : Option Json
  prompt : Prompt
  deriving DecidableEq

/-- The operations whose payload the model carries as a JSON value. -/
inductive OtherOperation
  | extensionCryptoGrant
  | providerHistoryMaterialize
  | artifactMaterialize
  | sessionUpdate
  | deviceInvitationCreate
  | gatewayEnrollmentInvitationCreate
  | gatewayEnrollmentApprove
  | gatewayEnrollmentCancel
  | gatewayUpdateStage
  | gatewayUpdateApply
  | gatewayUpdateStatus
  | gatewayUpdatePrepare
  | gatewayUpdatePromote
  | gatewayUpdateDiscard
  | gatewayDeploymentStatus
  | gatewayRestartStatus
  deriving DecidableEq

inductive CommandOperation
  | sessionCreate
  | promptSubmit
  | turnCancel
  | decisionAnswer
  | sessionSetLifecycle
  | sessionArchiveBatch
  | projectCreate
  | projectUpdate
  | projectDelete
  | providerSessionsList
  | providerSessionInspect
  | notificationSubscribe
  | notificationUnsubscribe
  | gatewayProfileUpdate
  | gatewayRetire
  | gatewayRestart
  | other (operation : OtherOperation)
  deriving DecidableEq

def CommandOperation.name : CommandOperation → JsString
  | sessionCreate => "session.create"
  | promptSubmit => "prompt.submit"
  | turnCancel => "turn.cancel"
  | decisionAnswer => "decision.answer"
  | sessionSetLifecycle => "session.set_lifecycle"
  | sessionArchiveBatch => "session.archive.batch"
  | projectCreate => "project.create"
  | projectUpdate => "project.update"
  | projectDelete => "project.delete"
  | providerSessionsList => "provider.sessions.list"
  | providerSessionInspect => "provider.session.inspect"
  | notificationSubscribe => "notification.subscribe"
  | notificationUnsubscribe => "notification.unsubscribe"
  | gatewayProfileUpdate => "gateway.profile.update"
  | gatewayRetire => "gateway.retire"
  | gatewayRestart => "gateway.restart"
  | other .extensionCryptoGrant => "extension.crypto.grant"
  | other .providerHistoryMaterialize => "provider.history.materialize"
  | other .artifactMaterialize => "artifact.materialize"
  | other .sessionUpdate => "session.update"
  | other .deviceInvitationCreate => "device.invitation.create"
  | other .gatewayEnrollmentInvitationCreate => "gateway.enrollment.invitation.create"
  | other .gatewayEnrollmentApprove => "gateway.enrollment.approve"
  | other .gatewayEnrollmentCancel => "gateway.enrollment.cancel"
  | other .gatewayUpdateStage => "gateway.update.stage"
  | other .gatewayUpdateApply => "gateway.update.apply"
  | other .gatewayUpdateStatus => "gateway.update.status"
  | other .gatewayUpdatePrepare => "gateway.update.prepare"
  | other .gatewayUpdatePromote => "gateway.update.promote"
  | other .gatewayUpdateDiscard => "gateway.update.discard"
  | other .gatewayDeploymentStatus => "gateway.deployment.status"
  | other .gatewayRestartStatus => "gateway.restart.status"

inductive CommandPayload
  | sessionCreate (payload : SessionCreate)
  | promptSubmit (payload : PromptSubmit)
  | turnCancel (turnId : JsString)
  | decisionAnswer (requestId decision : JsString) (totp : Option JsString)
  | sessionSetLifecycle (state : Lifecycle)
  | sessionArchiveBatch (targets : Json)
  | projectCreate (payload : Json)
  | projectUpdate (patch : Json)
  | projectDelete
  | providerSessionsList (provider : JsString) (cursor : Option JsString)
  | providerSessionInspect (provider providerSessionId : JsString)
  | notificationSubscribe (subscription : Json)
  | notificationUnsubscribe (endpoint : Option JsString)
  | gatewayProfileUpdate (gatewayNodeId gatewayName : JsString)
  | gatewayRetire (payload : Json)
  | gatewayRestart (mode : JsString)
  | other (operation : OtherOperation) (payload : Json)
  deriving DecidableEq

def CommandPayload.operation : CommandPayload → CommandOperation
  | sessionCreate _ => .sessionCreate
  | promptSubmit _ => .promptSubmit
  | turnCancel _ => .turnCancel
  | decisionAnswer _ _ _ => .decisionAnswer
  | sessionSetLifecycle _ => .sessionSetLifecycle
  | sessionArchiveBatch _ => .sessionArchiveBatch
  | projectCreate _ => .projectCreate
  | projectUpdate _ => .projectUpdate
  | projectDelete => .projectDelete
  | providerSessionsList _ _ => .providerSessionsList
  | providerSessionInspect _ _ => .providerSessionInspect
  | notificationSubscribe _ => .notificationSubscribe
  | notificationUnsubscribe _ => .notificationUnsubscribe
  | gatewayProfileUpdate _ _ => .gatewayProfileUpdate
  | gatewayRetire _ => .gatewayRetire
  | gatewayRestart _ => .gatewayRestart
  | other operation _ => .other operation

structure Command where
  commandId : JsString
  workspaceId : JsString
  projectId : Option JsString
  sessionId : Option JsString
  deviceId : JsString
  certificateId : JsString
  createdAt : ℕ
  payload : CommandPayload
  deriving DecidableEq

def Command.operation (command : Command) : CommandOperation := command.payload.operation

inductive GatewayUpdatePhase
  | idle
  | staging
  | agentRequired
  | agentRunning
  | agentValidating
  | staged
  | waitingForIdle
  | scheduled
  | activating
  | probation
  | committed
  | rolledBack
  | failed
  | repairRequired
  deriving DecidableEq

structure GatewayUpdateStatus where
  phase : GatewayUpdatePhase
  maintenanceSessionId : Option JsString
  updatedAt : ℕ
  rest : Json
  deriving DecidableEq

structure GatewayDeploymentStatus where
  computerId : JsString
  generation : ℕ
  updatedAt : ℕ
  rest : Json
  deriving DecidableEq

structure GatewayRestartStatus where
  waitingForIdle : Bool
  rest : Json
  deriving DecidableEq

structure NativeClientRelease where
  platform : JsString
  channel : JsString
  architecture : JsString
  versionCode : ℕ
  rest : Json
  deriving DecidableEq

structure WorkspaceSnapshot where
  gatewayKeyId : JsString
  capabilities : Json
  clientReleases : Option (List NativeClientRelease)
  gatewayDirectory : Option Json
  pendingGatewayEnrollments : Option (List Json)
  gatewayUpdate : Option GatewayUpdateStatus
  snapshotVersion : ℕ
  deriving DecidableEq

structure ProviderCatalogPage where
  providerId : JsString
  revision : JsString
  pageIndex : ℕ
  pageCount : ℕ
  items : List Json
  deriving DecidableEq

inductive CatalogStatus
  | loading
  | ready
  | stale
  | error
  deriving DecidableEq

structure ProviderCatalogManifest where
  providerId : JsString
  revision : JsString
  status : CatalogStatus
  itemCount : ℕ
  pageCount : ℕ
  error : Option Json
  deriving DecidableEq

structure ProjectSnapshot where
  name : JsString
  cwd : JsString
  provider : JsString
  model : Option JsString
  reasoningEffort : Option JsString
  permissionMode : JsString
  installedExtensions : Option (List Json)
  defaultExtensions : Option (List ExtensionBinding)
  controls : Option ControlValues
  extensionDefaultsRevision : Option ℕ
  snapshotVersion : ℕ
  deriving DecidableEq

structure SessionReady where
  rootCommandId : Option JsString
  originDeviceId : Option JsString
  initialPrompt : Option Prompt
  projection : SessionProjection
  provider : JsString
  model : Option JsString
  reasoningEffort : Option JsString
  permissionMode : JsString
  extensionBindings : Option (List ExtensionBinding)
  controls : Option ControlValues
  deriving DecidableEq

/-- A setting that is left alone, removed or set. -/
inductive SettingPatch
  | keep
  | remove
  | set (value : JsString)
  deriving DecidableEq

structure SessionSettingsPatch where
  title : Option JsString
  model : SettingPatch
  reasoningEffort : SettingPatch
  permissionMode : Option JsString
  extensions : Option (List ExtensionBinding)
  controls : Option ControlValues
  deriving DecidableEq

structure TurnQueued where
  references : Option Json
  turnId : JsString
  originDeviceId : JsString
  text : JsString
  attachments : Option Json
  projection : SessionProjection
  deriving DecidableEq

inductive MessageFormat
  | plain
  | markdown
  deriving DecidableEq

structure AssistantMessage where
  messageId : JsString
  messageVersion : ℕ
  body : JsString
  format : MessageFormat
  partIndex : Option ℕ
  partCount : Option ℕ
  projection : SessionProjection
  ui : Option Json
  rest : Json
  deriving DecidableEq

structure InboxFileReceived where
  fileId : JsString
  caption : Option JsString
  sourceLabel : Option JsString
  attachment : Json
  deriving DecidableEq

structure ToolActivity where
  toolCallId : JsString
  toolVersion : ℕ
  name : JsString
  projection : SessionProjection
  rest : Json
  deriving DecidableEq

structure DecisionRequested where
  requestId : JsString
  title : JsString
  details : Option Json
  projection : SessionProjection
  rest : Json
  deriving DecidableEq

structure InteractionRequested where
  requestId : JsString
  viewTitle : JsString
  projection : SessionProjection
  rest : Json
  deriving DecidableEq

inductive CompletionOutcome
  | succeeded
  | failed
  | cancelled
  | rejected
  | interrupted
  deriving DecidableEq

inductive ReconciledState
  | accepted
  | running
  | terminal
  deriving DecidableEq

structure CommandReconciled where
  commandId : JsString
  state : ReconciledState
  outcome : Option CompletionOutcome
  rest : Json
  deriving DecidableEq

inductive HistoryRole
  | user
  | assistant
  deriving DecidableEq

structure ProviderHistoryMessage where
  snapshotId : JsString
  sourceMessageId : JsString
  sourceOrdinal : ℕ
  role : HistoryRole
  body : JsString
  pageIndex : ℕ
  partIndex : Option ℕ
  partCount : Option ℕ
  deriving DecidableEq

structure ProviderHistoryPage where
  snapshotId : JsString
  pageIndex : ℕ
  previousFrontier : ℕ
  frontier : ℕ
  messageCount : ℕ
  hasMore : Bool
  digest : JsString
  deriving DecidableEq

/-- The results that only complete a command, and the payloads that the projection ignores. -/
inductive OtherPayload
  | projectCreated
  | extensionCryptoGranted
  | deviceInvitationCreated
  | gatewayEnrollmentInvitationCreated
  | gatewayEnrollmentApproved
  | gatewayEnrollmentCancelled
  | gatewayProfileUpdated
  | gatewayRetired
  | notificationSubscriptionChanged
  | providerSessionsListed
  | providerSessionInspected
  | providerHistoryMaterialized
  deriving DecidableEq

inductive EventPayload
  | workspaceSnapshot (payload : WorkspaceSnapshot)
  | providerCatalogPage (payload : ProviderCatalogPage)
  | providerCatalogManifest (payload : ProviderCatalogManifest)
  | projectSnapshot (payload : ProjectSnapshot)
  | sessionReady (payload : SessionReady)
  | sessionUpdated (projection : SessionProjection) (patch : SessionSettingsPatch)
  | sessionLifecycle (projection : SessionProjection) (state : Lifecycle) (alreadyApplied : Option Bool)
  | turnQueued (payload : TurnQueued)
  | turnStarted (turnId : JsString) (projection : SessionProjection)
  | turnCompleted (turnId : JsString) (projection : SessionProjection) (cancelled : Bool)
  | turnFailed (turnId : JsString) (projection : SessionProjection) (code message : JsString)
  | assistantMessage (payload : AssistantMessage)
  | inboxFileReceived (payload : InboxFileReceived)
  | toolActivity (payload : ToolActivity)
  | decisionRequested (payload : DecisionRequested)
  | interactionRequested (payload : InteractionRequested)
  | decisionResolved (requestId decision : JsString) (projection : SessionProjection)
  | interactionResolved (requestId extensionId actionId : JsString) (projection : SessionProjection)
  | commandRejected (commandId code message : JsString) (retryable : Bool)
  | commandReconciled (payload : CommandReconciled)
  | batchArchiveProgress (batchId : JsString) (revision : ℕ) (rest : Json)
  | projectDeleted (projectId name : JsString)
  | providerHistoryMessage (payload : ProviderHistoryMessage)
  | providerHistoryPageCommitted (payload : ProviderHistoryPage)
  | gatewayUpdateStatus (status : GatewayUpdateStatus)
  | gatewayDeploymentStatus (status : GatewayDeploymentStatus)
  | gatewayRestartStatus (status : GatewayRestartStatus)
  | other (type : OtherPayload) (body : Json)
  deriving DecidableEq

structure Event where
  eventId : JsString
  workspaceId : JsString
  projectId : Option JsString
  sessionId : Option JsString
  occurredAt : ℕ
  causationCommandId : Option JsString
  payload : EventPayload
  deriving DecidableEq

def EventPayload.projection : EventPayload → Option SessionProjection
  | sessionReady p => some p.projection
  | sessionUpdated projection _ => some projection
  | sessionLifecycle projection _ _ => some projection
  | turnQueued p => some p.projection
  | turnStarted _ projection => some projection
  | turnCompleted _ projection _ => some projection
  | turnFailed _ projection _ _ => some projection
  | assistantMessage p => some p.projection
  | toolActivity p => some p.projection
  | decisionRequested p => some p.projection
  | interactionRequested p => some p.projection
  | decisionResolved _ _ projection => some projection
  | interactionResolved _ _ _ projection => some projection
  | _ => none

end Malink.Mlp3
