import Malink.CheckedResults
import Malink.ProjectionApply

/-!
# Saving and restoring the client projection

The durable state lists the values of every collection. Restoring it checks each value, files it under its key and
settles the turns that have completed meanwhile.
-/

namespace Malink.Client

open Malink.Mlp3

/-- `MatrixMlp3ProjectionState` of the current version. -/
structure ProjectionState where
  workspace : Option WorkspaceProjection
  project : Option ProjectProjection
  sessions : List ProjectedSession
  messages : List ProjectedMessage
  providerHistoryMessages : List ProjectedProviderHistoryMessage
  providerHistoryPages : List ProjectedProviderHistoryPage
  providerCatalogPages : List ProjectedProviderCatalogPage
  providerCatalogManifests : List ProjectedProviderCatalogManifest
  inboxFiles : List ProjectedInboxFile
  completions : List CommandCompletion
  gatewayUpdateObservation : Option GatewayUpdateObservation
  gatewayDeploymentObservation : Option GatewayDeploymentObservation
  seenLogicalEvents : List JsString
  deriving DecidableEq

def Projection.durableState (p : Projection) : ProjectionState where
  workspace := p.workspace
  project := p.project
  sessions := p.sessions.values
  messages := p.messages.values
  providerHistoryMessages := p.providerHistoryMessages.values
  providerHistoryPages := p.providerHistoryPages.values
  providerCatalogPages := p.providerCatalogPages.values
  providerCatalogManifests := p.providerCatalogManifests.values
  inboxFiles := p.inboxFiles.values
  completions := p.completions.values
  gatewayUpdateObservation := p.gatewayUpdateObservation
  gatewayDeploymentObservation := p.gatewayDeploymentObservation
  seenLogicalEvents := p.seenLogicalEvents.keys

inductive RestoreError
  | invalid (what : JsString)
  | sessionReceiptInvalid
  /-- A schema of the protocol refused a value. -/
  | schema
  | duplicate (name : JsString)
  | release (error : ProjectionError)
  deriving DecidableEq

/-- The text of an error; a schema gives its own. -/
def RestoreError.message : RestoreError → Option JsString
  | invalid what => some ("The " ++ what ++ " is invalid.")
  | sessionReceiptInvalid => some "The MLP/3 session read receipt target is invalid."
  | schema => none
  | duplicate name => some ("The MLP/3 " ++ name ++ " projection contains duplicate IDs.")
  | release error => some error.message

def isText (s : JsString) : Bool := decide (0 < s.length) && decide (s.length ≤ 8192)

def isInteger (n minimum : ℕ) : Bool := decide (n ≤ maxSafeInteger) && decide (minimum ≤ n)

def check (condition : Bool) (error : RestoreError) : Except RestoreError Unit :=
  if condition then .ok () else .error error

/-- `boundedArray`, and a check of each value. -/
def checkAll {α : Type} (name : JsString) (checkOne : α → Except RestoreError Unit) (values : List α) :
    Except RestoreError Unit := do
  check (decide (values.length ≤ 100000)) (.invalid ("MLP/3 " ++ name ++ " projection"))
  values.forM checkOne

variable (schemas : Schemas)

/-- A receipt names an event of the thread that the session is known by, and not its root. -/
def receiptPaired (session : ProjectedSession) : Bool :=
  (session.readReceiptEventId.isNone == session.readReceiptThreadRootEventId.isNone) &&
    session.readReceiptThreadRootEventId.all fun root =>
      root = session.threadRootEventId && session.readReceiptEventId ≠ some session.threadRootEventId

def checkSession (session : ProjectedSession) : Except RestoreError Unit := do
  check (isText session.sessionId && isText session.projectId && isText session.projection.title &&
    isInteger session.projection.updatedAt 0 && isInteger session.projection.stateVersion 1 &&
    session.activeTurnId.all isText && session.readReceiptEventId.all isText &&
    session.readReceiptThreadRootEventId.all isText) (.invalid "MLP/3 session projection")
  check ((session.extensionBindings.getD []).all (extensionBindingSchema schemas) &&
    controlValuesSchema schemas (session.controlValues.getD .empty)) .schema
  check (receiptPaired session) .sessionReceiptInvalid

/-- A session as it is restored: the collections that it lacks become empty. -/
def restoredSession (session : ProjectedSession) : ProjectedSession :=
  { session with
    extensionBindings := some (session.extensionBindings.getD [])
    controlValues := some (session.controlValues.getD .empty) }

def checkMessage (message : ProjectedMessage) : Except RestoreError Unit := do
  check (isText message.logicalId && isText message.sessionId && isInteger message.timestamp 0 &&
    isInteger message.version 1 && message.originDeviceId.all isText) (.invalid "MLP/3 message projection")
  check (message.references.all schemas.conversationReferences) .schema

def validationEvent (eventId projectId : JsString) (sessionId : Option JsString) (occurredAt : ℕ)
    (payload : EventPayload) : Event where
  eventId := eventId
  workspaceId := "projection-validation"
  projectId := some projectId
  sessionId := sessionId
  occurredAt := occurredAt
  causationCommandId := none
  payload := payload

def checkHistoryMessage (message : ProjectedProviderHistoryMessage) : Except RestoreError Unit := do
  check (isText message.logicalId && isText message.sessionId && isText message.snapshotId &&
    isInteger message.sourceOrdinal 0) (.invalid "Provider History message projection")
  check (eventSchema schemas (validationEvent "projection-validation" "projection-validation"
    (some message.sessionId) 0 (.providerHistoryMessage message.payload))) .schema

def checkHistoryPage (page : ProjectedProviderHistoryPage) : Except RestoreError Unit :=
  check (isText page.sessionId && isText page.snapshotId && isInteger page.pageIndex 0 &&
    isInteger page.previousFrontier 0 && isInteger page.frontier 0 && isInteger page.messageCount 0 &&
    isText page.digest) (.invalid "Provider History page projection")

def checkCatalogPage (page : ProjectedProviderCatalogPage) : Except RestoreError Unit := do
  check (isText page.logicalEventId && isText page.providerId && isDigest page.revision &&
    isInteger page.pageIndex 0 && isInteger page.pageCount 1 && decide (page.pageIndex < page.pageCount) &&
    decide (page.pageCount ≤ 4096) && isInteger page.occurredAt 0 && decide (1 ≤ page.items.length) &&
    decide (page.items.length ≤ 64)) (.invalid "Provider Catalog page projection")
  check (page.items.all schemas.modelCapability) .schema

def checkCatalogManifest (manifest : ProjectedProviderCatalogManifest) : Except RestoreError Unit := do
  check (isText manifest.logicalEventId && isText manifest.providerId && isDigest manifest.revision &&
    isInteger manifest.itemCount 0 && isInteger manifest.pageCount 0 && decide (manifest.itemCount ≤ 4096) &&
    decide (manifest.pageCount ≤ 4096) && ((manifest.itemCount = 0 : Bool) == (manifest.pageCount = 0 : Bool)) &&
    (!(manifest.status = .loading || manifest.status = .error) || manifest.itemCount = 0) &&
    ((manifest.status = .error || manifest.status = .stale : Bool) == manifest.error.isSome) &&
    isInteger manifest.occurredAt 0) (.invalid "Provider Catalog manifest projection")
  check (manifest.error.all schemas.providerControlError) .schema

def checkInboxFile (file : ProjectedInboxFile) : Except RestoreError Unit := do
  check (isText file.fileId && isText file.projectId && isInteger file.receivedAt 0)
    (.invalid "MLP/3 inbox file projection")
  check (eventSchema schemas (validationEvent file.fileId file.projectId none file.receivedAt (.inboxFileReceived
      { fileId := file.fileId
        caption := file.caption
        sourceLabel := file.sourceLabel
        attachment := file.attachment }))) .schema

def checkCompletion (completion : CommandCompletion) : Except RestoreError Unit := do
  check (isText completion.commandId) (.invalid "MLP/3 completion projection")
  check (eventSchema schemas completion.event) .schema

def checkLogicalEvent (logicalId : JsString) : Except RestoreError Unit :=
  check (isText logicalId) (.invalid "MLP/3 logical event ID")

def checkUpdateObservation (observation : GatewayUpdateObservation) : Except RestoreError Unit := do
  check (isInteger observation.observedAt 0) (.invalid "Gateway update observation")
  check (schemas.gatewayUpdateStatus observation.status) .schema

def checkDeploymentObservation (observation : GatewayDeploymentObservation) : Except RestoreError Unit := do
  check (isInteger observation.observedAt 0) (.invalid "Gateway deployment observation")
  check (schemas.gatewayDeploymentStatus observation.status) .schema

def checkOptional {α : Type} (checkOne : α → Except RestoreError Unit) : Option α → Except RestoreError Unit
  | none => .ok ()
  | some a => checkOne a

/-- `validateProjectProjection` -/
def validateProject (project : ProjectProjection) : Except RestoreError ProjectProjection := do
  check (isText project.projectId && isInteger project.snapshotVersion 1 && isText project.name &&
    isText project.cwd && isText project.provider && isText project.permissionMode)
    (.invalid "MLP/3 project projection")
  check (project.installedExtensions.all schemas.extensionDescriptor &&
    project.defaultExtensions.all (extensionBindingSchema schemas) &&
    controlValuesSchema schemas (project.controlValues.getD .empty)) .schema
  .ok { project with
    extensionDefaultsRevision :=
      if isInteger project.extensionDefaultsRevision 1 then project.extensionDefaultsRevision else 1
    controlValues := some (project.controlValues.getD .empty) }

/-- `validateWorkspaceProjection` -/
def validateWorkspace (host : Host) (workspace : WorkspaceProjection) :
    Except RestoreError WorkspaceProjection := do
  check (isInteger workspace.snapshotVersion 1 && isText workspace.gatewayKeyId)
    (.invalid "MLP/3 workspace projection")
  check (schemas.capabilities workspace.capabilities && workspace.clientReleases.all schemas.clientRelease)
    .schema
  let (clientReleases,_) ←
    (Projection.mergeNativeClientReleases host [] workspace.clientReleases).mapError RestoreError.release
  check (workspace.pendingGatewayEnrollments.all schemas.gatewayEnrollmentPending &&
    workspace.gatewayDirectory.all schemas.gatewayDirectory &&
    workspace.gatewayUpdate.all schemas.gatewayUpdateStatus) .schema
  .ok { workspace with clientReleases }

def validateOptional {α : Type} (validateOne : α → Except RestoreError α) :
    Option α → Except RestoreError (Option α)
  | none => .ok none
  | some a => (validateOne a).map some

def requireUnique (values : List JsString) (name : JsString) : Except RestoreError Unit :=
  check (decide values.Nodup) (.duplicate name)

def validateProjectionState (host : Host) (state : ProjectionState) :
    Except RestoreError ProjectionState := do
  checkAll "sessions" (checkSession schemas) state.sessions
  checkAll "messages" (checkMessage schemas) state.messages
  checkAll "provider history messages" (checkHistoryMessage schemas) state.providerHistoryMessages
  checkAll "provider history pages" checkHistoryPage state.providerHistoryPages
  checkAll "provider catalog pages" (checkCatalogPage schemas) state.providerCatalogPages
  checkAll "provider catalog manifests" (checkCatalogManifest schemas) state.providerCatalogManifests
  checkAll "inbox files" (checkInboxFile schemas) state.inboxFiles
  checkAll "completions" (checkCompletion schemas) state.completions
  checkOptional (checkUpdateObservation schemas) state.gatewayUpdateObservation
  checkOptional (checkDeploymentObservation schemas) state.gatewayDeploymentObservation
  checkAll "logical events" checkLogicalEvent state.seenLogicalEvents
  let project ← validateOptional (validateProject schemas) state.project
  let workspace ← validateOptional (validateWorkspace schemas host) state.workspace
  requireUnique (state.sessions.map (·.sessionId)) "session"
  requireUnique (state.messages.map (·.logicalId)) "message"
  requireUnique (state.providerHistoryMessages.map (·.logicalId)) "provider history message"
  requireUnique (state.providerHistoryPages.map fun page =>
    providerHistoryPageKey page.snapshotId page.pageIndex) "provider history page"
  requireUnique (state.providerCatalogPages.map fun page =>
    providerCatalogPageKey page.providerId page.revision page.pageIndex) "provider catalog page"
  requireUnique (state.providerCatalogManifests.map (·.providerId)) "provider catalog manifest"
  requireUnique (state.inboxFiles.map (·.fileId)) "inbox file"
  requireUnique (state.completions.map (·.commandId)) "completion"
  requireUnique state.seenLogicalEvents "logical event"
  .ok { state with workspace, project, sessions := state.sessions.map restoredSession }

/-- The values of a list under their keys, as a loop of writes leaves them. -/
def keyedBy {α : Type} (key : α → JsString) (values : List α) : InsertionMap JsString α :=
  .ofEntries (values.map fun value => (key value,value))

/-- The collections of a validated state. -/
def rebuild (state : ProjectionState) : Projection where
  sessions := keyedBy (·.sessionId) state.sessions
  messages := keyedBy (·.logicalId) state.messages
  providerHistoryMessages := keyedBy (·.logicalId) state.providerHistoryMessages
  providerHistoryPages := keyedBy (fun page => providerHistoryPageKey page.snapshotId page.pageIndex)
    state.providerHistoryPages
  providerCatalogPages :=
    keyedBy (fun page => providerCatalogPageKey page.providerId page.revision page.pageIndex)
      state.providerCatalogPages
  providerCatalogManifests := keyedBy (·.providerId) state.providerCatalogManifests
  inboxFiles := keyedBy (·.fileId) state.inboxFiles
  completions := keyedBy (·.commandId) state.completions
  gatewayUpdateObservation := state.gatewayUpdateObservation
  gatewayDeploymentObservation := state.gatewayDeploymentObservation
  seenLogicalEvents := .ofEntries (state.seenLogicalEvents.map fun logicalId => (logicalId,()))
  workspace := state.workspace
  project := state.project

/-- `restore`, from the projection that `reset` leaves. -/
def restore (host : Host) (state : ProjectionState) : Except RestoreError Projection := do
  let state ← validateProjectionState schemas host state
  let p := rebuild state
  let p := p.sessions.keys.foldl Projection.reconcileCompletedTurn p
  .ok (p.reconcileWith p.updateStatus none)

end Malink.Client
