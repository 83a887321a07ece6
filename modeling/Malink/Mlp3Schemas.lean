import Malink.Mlp3Messages

/-!
# Schemas of MLP/3

Which commands and events the protocol accepts. The conditions on the fields that the model names are
written out; what the schemas ask of the carried JSON values is a parameter.
-/

namespace Malink.Mlp3

def maxSafeInteger : ℕ := 9007199254740991

def isTimestamp (n : ℕ) : Bool := decide (n ≤ maxSafeInteger)

def isPositive (n : ℕ) : Bool := decide (1 ≤ n) && decide (n ≤ maxSafeInteger)

/-- `min(lower).max(upper)` on the length of a string. -/
def JsString.within (s : JsString) (lower upper : ℕ) : Bool := decide (lower ≤ s.length) && decide (s.length ≤ upper)

open Mlp3.JsString (within)

def isOpaqueId (s : JsString) : Bool := within s 1 256

def isBase64UrlUnit (u : UInt16) : Bool :=
  (65 ≤ u && u ≤ 90) || (97 ≤ u && u ≤ 122) || (48 ≤ u && u ≤ 57) || u = 95 || u = 45

/-- `/^[A-Za-z0-9_-]{43}$/` -/
def isDigest (s : JsString) : Bool := s.length = 43 && s.units.all isBase64UrlUnit

/-- What the schemas ask of the values that the model does not look into. -/
structure Schemas where
  capabilities : Json → Bool
  clientRelease : NativeClientRelease → Bool
  gatewayDirectory : Json → Bool
  gatewayEnrollmentPending : Json → Bool
  gatewayUpdateStatus : GatewayUpdateStatus → Bool
  gatewayDeploymentStatus : GatewayDeploymentStatus → Bool
  gatewayRestartStatus : GatewayRestartStatus → Bool
  modelCapability : Json → Bool
  providerControlError : Json → Bool
  extensionDescriptor : Json → Bool
  extensionConfig : Json → Bool
  conversationReferences : Json → Bool
  attachment : Json → Bool
  attachments : Json → Bool
  controlId : JsString → Bool
  controlValuesSize : ControlValues → ℕ
  /-- The other fields of a session projection, of a payload, of a command. -/
  sessionFields : SessionProjection → Bool
  payloadFields : EventPayload → Bool
  commandFields : CommandPayload → Bool
  /-- Whether an event with a provider listing is valid once the listing is cut to the present bounds. -/
  normalizedProviderHistory : Event → Bool

variable (schemas : Schemas)

def isControlValue : ControlValue → Bool
  | .text value => value.length ≤ 4096
  | .flag _ => true

/-- At most 64 values, of at most 32 KiB as a JSON text. -/
def controlValuesSchema (values : ControlValues) : Bool :=
  values.entries.all (fun e => schemas.controlId e.1 && isControlValue e.2) &&
    decide (values.size ≤ 64) && decide (schemas.controlValuesSize values ≤ 32 * 1024)

def extensionBindingSchema (binding : ExtensionBinding) : Bool :=
  isOpaqueId binding.id && binding.config.all schemas.extensionConfig

def extensionBindingsSchema (bindings : List ExtensionBinding) : Bool :=
  decide (bindings.length ≤ 8) && bindings.all (extensionBindingSchema schemas)

def sessionProjectionSchema (p : SessionProjection) : Bool :=
  within p.title 1 512 && isTimestamp p.updatedAt && isPositive p.stateVersion &&
    schemas.sessionFields p

def promptSchema (prompt : Prompt) : Bool := prompt.attachments.all schemas.attachments

def settingPatchSchema (upper : ℕ) : SettingPatch → Bool
  | .set value => within value 1 upper
  | _ => true

def isPermissionMode (s : JsString) : Bool :=
  s ∈ ([("default" : JsString),"accept_edits","plan","bypass_permissions"] : List JsString)

def settingsPatchSchema (patch : SessionSettingsPatch) : Bool :=
  patch.title.all (within · 1 512) && settingPatchSchema 256 patch.model &&
    settingPatchSchema 64 patch.reasoningEffort && patch.permissionMode.all isPermissionMode &&
    patch.extensions.all (extensionBindingsSchema schemas) &&
    patch.controls.all (controlValuesSchema schemas)

def workspaceSnapshotSchema (p : WorkspaceSnapshot) : Bool :=
  isOpaqueId p.gatewayKeyId && schemas.capabilities p.capabilities &&
    p.clientReleases.all (fun releases => releases.length ≤ 8 && releases.all schemas.clientRelease) &&
    p.gatewayDirectory.all schemas.gatewayDirectory &&
    p.pendingGatewayEnrollments.all (fun enrollments =>
      enrollments.length ≤ 32 && enrollments.all schemas.gatewayEnrollmentPending) &&
    p.gatewayUpdate.all schemas.gatewayUpdateStatus && isPositive p.snapshotVersion

def providerCatalogPageSchema (p : ProviderCatalogPage) : Bool :=
  isOpaqueId p.providerId && isDigest p.revision && decide (p.pageIndex < p.pageCount) &&
    decide (p.pageCount ≤ 4096) && decide (1 ≤ p.items.length) && decide (p.items.length ≤ 64) &&
    p.items.all schemas.modelCapability

def providerCatalogManifestSchema (p : ProviderCatalogManifest) : Bool :=
  isOpaqueId p.providerId && isDigest p.revision && decide (p.itemCount ≤ 4096) &&
    decide (p.pageCount ≤ 4096) && p.error.all schemas.providerControlError &&
    ((p.itemCount = 0 : Bool) == (p.pageCount = 0 : Bool)) &&
    (!(p.status = .loading || p.status = .error) || p.itemCount = 0) &&
    ((p.status = .error || p.status = .stale : Bool) == p.error.isSome)

def projectSnapshotSchema (p : ProjectSnapshot) : Bool :=
  within p.name 1 256 && within p.cwd 1 8192 && within p.provider 1 256 &&
    p.model.all (within · 1 256) && p.reasoningEffort.all (within · 1 64) &&
    within p.permissionMode 1 128 &&
    p.installedExtensions.all (fun extensions =>
      extensions.length ≤ 64 && extensions.all schemas.extensionDescriptor) &&
    p.defaultExtensions.all (extensionBindingsSchema schemas) &&
    p.controls.all (controlValuesSchema schemas) && p.extensionDefaultsRevision.all isPositive &&
    isPositive p.snapshotVersion

def sessionReadySchema (p : SessionReady) : Bool :=
  p.rootCommandId.all isOpaqueId && p.originDeviceId.all isOpaqueId &&
    p.initialPrompt.all (promptSchema schemas) && within p.provider 1 256 &&
    p.model.all (within · 1 256) && p.reasoningEffort.all (within · 1 64) &&
    within p.permissionMode 1 128 &&
    p.extensionBindings.all (extensionBindingsSchema schemas) &&
    p.controls.all (controlValuesSchema schemas)

/-- A part index and a part count come together, the index below the count. -/
def partsSchema (partIndex partCount : Option ℕ) : Bool :=
  match partIndex, partCount with
  | none, none => true
  | some index, some count => decide (index < count) && isPositive count
  | _, _ => false

def providerHistoryMessageSchema (p : ProviderHistoryMessage) : Bool :=
  isOpaqueId p.snapshotId && isOpaqueId p.sourceMessageId && isTimestamp p.sourceOrdinal &&
    decide (p.body.length ≤ 16 * 1024) && isTimestamp p.pageIndex && partsSchema p.partIndex p.partCount

def providerHistoryPageSchema (p : ProviderHistoryPage) : Bool :=
  isOpaqueId p.snapshotId && isTimestamp p.pageIndex && isTimestamp p.frontier &&
    isTimestamp p.messageCount && isDigest p.digest && decide (p.previousFrontier ≤ p.frontier)

def commandReconciledSchema (p : CommandReconciled) : Bool :=
  isOpaqueId p.commandId && ((p.state = .terminal : Bool) == p.outcome.isSome)

def inboxFileSchema (p : InboxFileReceived) : Bool :=
  isOpaqueId p.fileId && p.caption.all (within · 0 8192) &&
    p.sourceLabel.all (within · 1 256) && schemas.attachment p.attachment

/-- The conditions on the named fields of a payload. -/
def payloadSchema : EventPayload → Bool
  | .workspaceSnapshot p => workspaceSnapshotSchema schemas p
  | .providerCatalogPage p => providerCatalogPageSchema schemas p
  | .providerCatalogManifest p => providerCatalogManifestSchema schemas p
  | .projectSnapshot p => projectSnapshotSchema schemas p
  | .sessionReady p => sessionReadySchema schemas p
  | .sessionUpdated _ patch => settingsPatchSchema schemas patch
  | .sessionLifecycle _ _ _ => true
  | .turnQueued p => p.references.all schemas.conversationReferences && isOpaqueId p.turnId &&
      isOpaqueId p.originDeviceId && p.attachments.all schemas.attachments
  | .turnStarted turnId _ => isOpaqueId turnId
  | .turnCompleted turnId _ _ => isOpaqueId turnId
  | .turnFailed turnId _ code message => isOpaqueId turnId && within code 1 128 &&
      within message 1 8192
  | .assistantMessage p => isOpaqueId p.messageId && isPositive p.messageVersion &&
      partsSchema p.partIndex p.partCount
  | .inboxFileReceived p => inboxFileSchema schemas p
  | .toolActivity p => isOpaqueId p.toolCallId && isPositive p.toolVersion && within p.name 1 256
  | .decisionRequested p => isOpaqueId p.requestId && within p.title 1 1024
  | .interactionRequested p => isOpaqueId p.requestId && within p.viewTitle 1 256
  | .decisionResolved requestId decision _ => isOpaqueId requestId && within decision 1 128
  | .interactionResolved requestId extensionId _ _ => isOpaqueId requestId && isOpaqueId extensionId
  | .commandRejected commandId code message _ => isOpaqueId commandId && within code 1 128 &&
      within message 1 8192
  | .commandReconciled p => commandReconciledSchema p
  | .batchArchiveProgress batchId revision _ => isOpaqueId batchId && isPositive revision
  | .projectDeleted projectId name => isOpaqueId projectId && within name 1 256
  | .providerHistoryMessage p => providerHistoryMessageSchema p
  | .providerHistoryPageCommitted p => providerHistoryPageSchema p
  | .gatewayUpdateStatus status => schemas.gatewayUpdateStatus status
  | .gatewayDeploymentStatus status => schemas.gatewayDeploymentStatus status
  | .gatewayRestartStatus status => schemas.gatewayRestartStatus status
  | .other _ _ => true

def EventPayload.fullyNamed : EventPayload → Bool
  | sessionLifecycle _ _ _ => true
  | turnStarted _ _ => true
  | turnCompleted _ _ _ => true
  | turnFailed _ _ _ _ => true
  | decisionResolved _ _ _ => true
  | commandRejected _ _ _ _ => true
  | projectDeleted _ _ => true
  | providerHistoryMessage _ => true
  | providerHistoryPageCommitted _ => true
  | _ => false

def eventPayloadSchema (payload : EventPayload) : Bool :=
  payloadSchema schemas payload && payload.projection.all (sessionProjectionSchema schemas) &&
    (payload.fullyNamed || schemas.payloadFields payload)

def eventSchema (event : Event) : Bool :=
  isOpaqueId event.eventId && isOpaqueId event.workspaceId && event.projectId.all isOpaqueId &&
    event.sessionId.all isOpaqueId && isTimestamp event.occurredAt &&
    event.causationCommandId.all isOpaqueId && eventPayloadSchema schemas event.payload

def commandPayloadSchema : CommandPayload → Bool
  | .sessionCreate p => p.title.all (within · 1 512) && p.model.all (within · 1 256) &&
      p.provider.all (within · 1 256) && p.reasoningEffort.all (within · 1 64) &&
      p.permissionMode.all isPermissionMode && p.extensions.all (extensionBindingsSchema schemas) &&
      p.controls.all (controlValuesSchema schemas) && p.initialPrompt.all (promptSchema schemas)
  | .promptSubmit p => p.references.all schemas.conversationReferences && promptSchema schemas p.prompt
  | _ => true

/-- Whether an operation requires a session. The others of a project have none. -/
def ofSession (operation : CommandOperation) : Bool :=
  operation ∈ [.sessionCreate,.promptSubmit,.turnCancel,.decisionAnswer,.sessionSetLifecycle,
    .other .providerHistoryMaterialize,.other .artifactMaterialize,.other .sessionUpdate]

/-- Whether an operation requires a project. -/
def ofProject (operation : CommandOperation) : Bool :=
  operation ∉ [.other .deviceInvitationCreate,.other .gatewayEnrollmentInvitationCreate,
    .other .gatewayEnrollmentApprove,.other .gatewayEnrollmentCancel]

def commandSchema (command : Command) : Bool :=
  isOpaqueId command.commandId && isOpaqueId command.workspaceId && isOpaqueId command.deviceId &&
    isOpaqueId command.certificateId && isTimestamp command.createdAt &&
    command.projectId.all isOpaqueId && command.sessionId.all isOpaqueId &&
    (!ofProject command.operation ||
      (command.projectId.isSome && command.sessionId.isSome == ofSession command.operation)) &&
    commandPayloadSchema schemas command.payload && schemas.commandFields command.payload

end Malink.Mlp3
