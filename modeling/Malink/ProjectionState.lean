import Malink.Mlp3Schemas
import Mathlib.Data.List.Sort

/-!
# The state of the client projection

What the client keeps of the Matrix history of a project: one entry for each entity, the completions of its commands,
and the logical events that it has seen.
-/

namespace Malink.Client

open Malink.Mlp3

/-- `V3ProjectedSession`: the fields of the session projection, and those the client adds. -/
structure ProjectedSession where
  sessionId : JsString
  projectId : JsString
  threadRootEventId : JsString
  readReceiptEventId : Option JsString
  readReceiptThreadRootEventId : Option JsString
  projection : SessionProjection
  provider : Option JsString
  model : Option JsString
  reasoningEffort : Option JsString
  permissionMode : Option JsString
  controlValues : Option ControlValues
  extensionBindings : Option (List ExtensionBinding)
  activeTurnId : Option JsString
  deriving DecidableEq

inductive Sender
  | user
  | agent
  | system
  deriving DecidableEq

structure ProjectedMessage where
  logicalId : JsString
  physicalEventId : JsString
  sessionId : JsString
  sender : Sender
  timestamp : ℕ
  body : JsString
  format : MessageFormat
  version : ℕ
  partIndex : Option ℕ
  partCount : Option ℕ
  commandId : Option JsString
  originDeviceId : Option JsString
  payload : Option EventPayload
  references : Option Json
  resolvedActionId : Option JsString
  deriving DecidableEq

structure ProjectedProviderHistoryMessage where
  logicalId : JsString
  physicalEventId : JsString
  sessionId : JsString
  snapshotId : JsString
  sourceOrdinal : ℕ
  sender : Sender
  body : JsString
  pageIndex : Option ℕ
  partIndex : Option ℕ
  partCount : Option ℕ
  payload : ProviderHistoryMessage
  deriving DecidableEq

structure ProjectedProviderHistoryPage where
  sessionId : JsString
  snapshotId : JsString
  pageIndex : ℕ
  previousFrontier : ℕ
  frontier : ℕ
  messageCount : ℕ
  hasMore : Bool
  digest : JsString
  deriving DecidableEq

structure ProjectedProviderCatalogPage where
  logicalEventId : JsString
  providerId : JsString
  revision : JsString
  pageIndex : ℕ
  pageCount : ℕ
  items : List Json
  occurredAt : ℕ
  deriving DecidableEq

structure ProjectedProviderCatalogManifest where
  logicalEventId : JsString
  providerId : JsString
  revision : JsString
  status : CatalogStatus
  itemCount : ℕ
  pageCount : ℕ
  error : Option Json
  occurredAt : ℕ
  deriving DecidableEq

structure ProjectedInboxFile where
  fileId : JsString
  physicalEventId : JsString
  projectId : JsString
  receivedAt : ℕ
  caption : Option JsString
  sourceLabel : Option JsString
  attachment : Json
  deriving DecidableEq

structure CommandCompletion where
  commandId : JsString
  outcome : CompletionOutcome
  sessionId : Option JsString
  event : Event
  deriving DecidableEq

structure ProjectProjection where
  projectId : JsString
  snapshotVersion : ℕ
  name : JsString
  cwd : JsString
  provider : JsString
  model : Option JsString
  reasoningEffort : Option JsString
  permissionMode : JsString
  installedExtensions : List Json
  defaultExtensions : List ExtensionBinding
  extensionDefaultsRevision : ℕ
  controlValues : Option ControlValues
  deriving DecidableEq

structure WorkspaceProjection where
  snapshotVersion : ℕ
  gatewayKeyId : JsString
  capabilities : Json
  clientReleases : List NativeClientRelease
  gatewayDirectory : Option Json
  pendingGatewayEnrollments : List Json
  gatewayUpdate : Option GatewayUpdateStatus
  deriving DecidableEq

structure GatewayUpdateObservation where
  observedAt : ℕ
  status : GatewayUpdateStatus
  deriving DecidableEq

structure GatewayDeploymentObservation where
  observedAt : ℕ
  status : GatewayDeploymentStatus
  deriving DecidableEq

/-- `MatrixMlp3Projection` -/
structure Projection where
  sessions : InsertionMap JsString ProjectedSession
  messages : InsertionMap JsString ProjectedMessage
  providerHistoryMessages : InsertionMap JsString ProjectedProviderHistoryMessage
  providerHistoryPages : InsertionMap JsString ProjectedProviderHistoryPage
  providerCatalogPages : InsertionMap JsString ProjectedProviderCatalogPage
  providerCatalogManifests : InsertionMap JsString ProjectedProviderCatalogManifest
  inboxFiles : InsertionMap JsString ProjectedInboxFile
  completions : InsertionMap JsString CommandCompletion
  gatewayUpdateObservation : Option GatewayUpdateObservation
  gatewayDeploymentObservation : Option GatewayDeploymentObservation
  seenLogicalEvents : InsertionMap JsString Unit
  workspace : Option WorkspaceProjection
  project : Option ProjectProjection
  deriving DecidableEq

/-- The projection that `reset` leaves. -/
def Projection.empty : Projection where
  sessions := .empty
  messages := .empty
  providerHistoryMessages := .empty
  providerHistoryPages := .empty
  providerCatalogPages := .empty
  providerCatalogManifests := .empty
  inboxFiles := .empty
  completions := .empty
  gatewayUpdateObservation := none
  gatewayDeploymentObservation := none
  seenLogicalEvents := .empty
  workspace := none
  project := none

inductive ProjectionError
  | immutableRelease (key : JsString) (versionCode : ℕ)
  deriving DecidableEq

def ProjectionError.message : ProjectionError → JsString
  | immutableRelease key versionCode =>
    "Native client release " ++ key ++ "/" ++ JsString.ofNat versionCode ++ " is immutable."

def keySeparator : JsString := ⟨[0]⟩

def providerHistoryPageKey (snapshotId : JsString) (pageIndex : ℕ) : JsString :=
  snapshotId ++ keySeparator ++ JsString.ofNat pageIndex

def providerCatalogPageKey (providerId revision : JsString) (pageIndex : ℕ) : JsString :=
  providerId ++ keySeparator ++ revision ++ keySeparator ++ JsString.ofNat pageIndex

def nativeClientReleaseKey (release : NativeClientRelease) : JsString :=
  release.platform ++ keySeparator ++ release.channel ++ keySeparator ++ release.architecture

def commandLogicalId (command : Command) : JsString :=
  "command:" ++ command.deviceId ++ ":" ++ command.certificateId ++ ":" ++ command.commandId

def isActiveSessionActivity (activity : Activity) : Bool :=
  activity = .queued || activity = .working || activity = .attention

def isOlderSessionProjection (current next : SessionProjection) : Bool :=
  decide (current.stateVersion > next.stateVersion) ||
    (decide (current.stateVersion = next.stateVersion) && decide (current.updatedAt > next.updatedAt))

def isNewerDeploymentObservation (current : Option GatewayDeploymentObservation) (observedAt : ℕ)
    (incoming : GatewayDeploymentStatus) : Bool :=
  match current with
  | none => true
  | some current =>
    if incoming.computerId ≠ current.status.computerId then decide (observedAt > current.observedAt)
    else if incoming.generation ≠ current.status.generation then
      decide (incoming.generation > current.status.generation)
    else if incoming.updatedAt ≠ current.status.updatedAt then
      decide (incoming.updatedAt > current.status.updatedAt)
    else decide (observedAt > current.observedAt)

/-- `String.prototype.localeCompare`, as the host of the client evaluates it. -/
structure Host where
  localeCompare : JsString → JsString → ℤ

def isNewerCatalogEvent (host : Host) (currentId : JsString) (currentAt : ℕ) (next : Event) : Bool :=
  decide (next.occurredAt > currentAt) ||
    (decide (next.occurredAt = currentAt) && decide (host.localeCompare next.eventId currentId > 0))

/-- A unit that `\s` matches. -/
def isSpaceUnit (u : UInt16) : Bool :=
  (9 ≤ u && u ≤ 13) || u = 32 || u = 160 || u = 5760 || (8192 ≤ u && u ≤ 8202) || u = 8232 || u = 8233 ||
    u = 8239 || u = 8287 || u = 12288 || u = 65279

def collapseSpaces : Bool → List UInt16 → List UInt16
  | _, [] => []
  | inSpace, u :: us =>
    if isSpaceUnit u then (if inSpace then collapseSpaces true us else 32 :: collapseSpaces true us)
    else u :: collapseSpaces false us

def trimUnits (us : List UInt16) : List UInt16 := ((us.dropWhile isSpaceUnit).reverse.dropWhile isSpaceUnit).reverse

def newSessionTitle : JsString := "New session"

def titleFromPrompt (text : JsString) : JsString :=
  let value : JsString := ⟨trimUnits (collapseSpaces false text.units)⟩
  if !value.truthy then newSessionTitle
  else if value.length ≤ 64 then value
  else value.take 61 ++ "..."

def isArtifactMaterializationResult (value : Option Json) : Bool :=
  value.any fun marker =>
    marker.field "kind" = some (.str "artifact_materialization") && marker.field "version" = some (.num 1) &&
      (marker.field "status" = some (.str "materialized") || marker.field "status" = some (.str "changed")) &&
      match marker.field "referenceId" with
      | some (.str referenceId) => referenceId.truthy
      | _ => false

/-- The outcome that an event gives to the command that caused it. -/
def completionOutcome : EventPayload → Option CompletionOutcome
  | .assistantMessage p => if isArtifactMaterializationResult p.ui then some .succeeded else none
  | .sessionReady _ => some .succeeded
  | .sessionUpdated _ _ => some .succeeded
  | .sessionLifecycle _ _ _ => some .succeeded
  | .decisionResolved _ _ _ => some .succeeded
  | .interactionResolved _ _ _ _ => some .succeeded
  | .projectSnapshot _ => some .succeeded
  | .projectDeleted _ _ => some .succeeded
  | .other .providerHistoryMaterialized _ => none
  | .other _ _ => some .succeeded
  | .gatewayUpdateStatus status => if status.phase = .waitingForIdle then none else some .succeeded
  | .gatewayDeploymentStatus _ => some .succeeded
  | .gatewayRestartStatus status => if status.waitingForIdle then none else some .succeeded
  | .turnCompleted _ _ cancelled => some (if cancelled then .cancelled else .succeeded)
  | .turnFailed _ _ _ _ => some .failed
  | .commandRejected _ code _ _ =>
    some (if code = "execution_interrupted" then .interrupted else .rejected)
  | .commandReconciled p => if p.state = .terminal then p.outcome else none
  | _ => none

/-- `completionFromEvent`. A reconciled command is named by the payload. -/
def completionFromEvent (event : Event) : Option CommandCompletion :=
  event.causationCommandId.bind fun causation =>
    (completionOutcome event.payload).map fun outcome =>
      { commandId := match event.payload with
          | .commandReconciled p => p.commandId
          | _ => causation
        outcome
        sessionId := event.sessionId
        event }

end Malink.Client
