import Malink.ProjectionState

/-!
# Applying commands and events to the client projection

An event is taken once under its logical ID; snapshots and catalogs are compared by their own versions instead.
-/

namespace Malink.Client

open Malink.Mlp3
open JsString (ofNat truthy)

namespace Projection

def markSeen (p : Projection) (logicalId : JsString) : Projection :=
  { p with seenLogicalEvents := p.seenLogicalEvents.set logicalId () }

def putSession (p : Projection) (sessionId : JsString) (session : ProjectedSession) : Projection :=
  { p with sessions := p.sessions.set sessionId session }

def putMessage (p : Projection) (message : ProjectedMessage) : Projection :=
  { p with messages := p.messages.set message.logicalId message }

/-- `gatewayMaintenanceSessionActivityOutcome` for the session that the status names. -/
def maintenanceOutcome (status : GatewayUpdateStatus) (sessionId : JsString) : Option Activity :=
  if ("gateway-update-node-" : JsString).units.isPrefixOf sessionId.units then
    match status.phase with
    | .staged | .waitingForIdle | .scheduled | .activating | .probation | .committed | .rolledBack
    | .repairRequired => some .idle
    | .failed => some .failed
    | .idle | .staging | .agentRequired | .agentRunning | .agentValidating => none
  else none

def settleActivity (session : ProjectedSession) (activity : Activity) (updatedAt : ℕ) : ProjectedSession :=
  { session with
    projection := { session.projection with activity, updatedAt }
    activeTurnId := none }

def reconcileGatewayMaintenanceSession (p : Projection) (status : GatewayUpdateStatus)
    (projectId : Option JsString) : Projection :=
  match status.maintenanceSessionId with
  | none => p
  | some sessionId =>
    match maintenanceOutcome status sessionId, p.sessions.get sessionId with
    | some outcome, some current =>
      if current.projection.updatedAt > status.updatedAt || current.projection.lifecycle ≠ .active ||
          projectId.any (· ≠ current.projectId) then p
      else p.putSession sessionId
        (settleActivity current outcome (max current.projection.updatedAt status.updatedAt))
    | _, _ => p

def updateStatus (p : Projection) : Option GatewayUpdateStatus :=
  (p.gatewayUpdateObservation.map (·.status)).or (p.workspace.bind (·.gatewayUpdate))

def reconcileCompletedTurn (p : Projection) (sessionId : JsString) : Projection :=
  match p.sessions.get sessionId with
  | none => p
  | some current =>
    match current.activeTurnId.bind p.completions.get with
    | none => p
    | some completion =>
      if completion.sessionId.any (· ≠ sessionId) then p
      else p.putSession sessionId
        (settleActivity current .idle (max current.projection.updatedAt completion.event.occurredAt))

def observeActiveTurn (p : Projection) (event : Event) : Projection :=
  match event.sessionId.bind fun sessionId => (p.sessions.get sessionId).map (sessionId,·) with
  | none => p
  | some (sessionId,current) =>
    match event.payload with
    | .turnCompleted turnId _ _ | .turnFailed turnId _ _ _ =>
      if current.activeTurnId = some turnId then
        p.putSession sessionId { current with activeTurnId := none }
      else p
    | payload =>
      match payload.projection with
      | none => p
      | some projection =>
        if projection.stateVersion ≠ current.projection.stateVersion ||
            !isActiveSessionActivity current.projection.activity then p
        else
          let turnId := match payload with
            | .turnQueued queued => some queued.turnId
            | .turnStarted turnId _ => some turnId
            | .assistantMessage _ | .toolActivity _ | .decisionRequested _ | .interactionRequested _ =>
              event.causationCommandId
            | _ => none
          if turnId.isSome && (current.activeTurnId.isNone || current.activeTurnId = turnId) then
            p.putSession sessionId { current with activeTurnId := turnId }
          else p

/-- The references of a prompt, dropped when there are none. -/
def nonemptyReferences (references : Option Json) : Option Json :=
  references.filter fun
    | .arr es => !es.isEmpty
    | _ => false

def addUserPrompt (p : Projection) (commandId sessionId physicalEventId : JsString) (timestamp : ℕ)
    (body : JsString) (originDeviceId : Option JsString) (payload : Option EventPayload)
    (references : Option Json) : Projection :=
  p.putMessage
    { logicalId := "user:" ++ commandId
      physicalEventId, sessionId
      sender := .user
      timestamp, body
      format := .markdown
      version := 1
      partIndex := none
      partCount := none
      commandId := some commandId
      originDeviceId := originDeviceId.filter truthy
      payload
      references := nonemptyReferences references
      resolvedActionId := none }

/-- The extension summaries of a session that the Gateway has not yet answered. -/
def pendingExtensions (bindings : List ExtensionBinding) : Json :=
  .arr (bindings.map fun binding =>
    .obj [("id",.str binding.id),("name",.str binding.id),("version",.str "pending")])

def createdSession (p : Projection) (payload : SessionCreate) (projectId sessionId title physicalEventId : JsString)
    (timestamp : ℕ) : ProjectedSession where
  sessionId := sessionId
  projectId := projectId
  threadRootEventId := physicalEventId
  readReceiptEventId := none
  readReceiptThreadRootEventId := none
  projection :=
    { title
      scope := some (payload.scope.getD "project")
      cwd := (p.project.map (·.cwd)).filter truthy
      lifecycle := .active
      activity := if payload.initialPrompt.isSome then .queued else .idle
      updatedAt := timestamp
      stateVersion := 1
      extensions := some (pendingExtensions (payload.extensions.getD []))
      availableCommands := none
      extensionRevision := some 1
      providerHistory := none
      controls := none }
  provider := payload.provider.filter truthy
  model := payload.model.filter truthy
  reasoningEffort := payload.reasoningEffort.filter truthy
  permissionMode := payload.permissionMode.filter truthy
  controlValues := some (payload.controls.getD .empty)
  extensionBindings := some (payload.extensions.getD [])
  activeTurnId := none

/-- The root command fills in what a session lacks and never downgrades it. -/
def rootedSession (current : ProjectedSession) (projectId title physicalEventId : JsString) :
    ProjectedSession :=
  { current with
    projectId := if current.projectId.truthy then current.projectId else projectId
    threadRootEventId :=
      if current.threadRootEventId.truthy then current.threadRootEventId else physicalEventId
    projection := { current.projection with
      title := if current.projection.title = newSessionTitle && title ≠ newSessionTitle then title
        else current.projection.title } }

def applySessionCreate (p : Projection) (command : Command) (payload : SessionCreate)
    (sessionId physicalEventId : JsString) (timestamp : ℕ) : Projection :=
  let projectId := command.projectId.getD ""
  let title := payload.title.getD (titleFromPrompt ((payload.initialPrompt.map (·.text)).getD ""))
  let p := p.putSession sessionId (match p.sessions.get sessionId with
    | some current => rootedSession current projectId title physicalEventId
    | none => p.createdSession payload projectId sessionId title physicalEventId timestamp)
  let p := match payload.initialPrompt with
    | some prompt => p.addUserPrompt command.commandId sessionId physicalEventId timestamp prompt.text
        (some command.deviceId) none none
    | none => p
  p.reconcileCompletedTurn sessionId

def applyCommand (p : Projection) (command : Command) (physicalEventId : JsString) (timestamp : ℕ) :
    Projection × Bool :=
  if p.seenLogicalEvents.has (commandLogicalId command) then (p,false)
  else
    let p := p.markSeen (commandLogicalId command)
    (match command.payload,command.sessionId with
      | .sessionCreate payload,some sessionId =>
        p.applySessionCreate command payload sessionId physicalEventId timestamp
      | .promptSubmit payload,some sessionId =>
        p.addUserPrompt command.commandId sessionId physicalEventId timestamp payload.prompt.text
          (some command.deviceId) none payload.references
      | _,_ => p,true)

def mergeNativeClientRelease (releases : InsertionMap JsString NativeClientRelease)
    (release : NativeClientRelease) :
    Except ProjectionError (Option (InsertionMap JsString NativeClientRelease)) :=
  let key := nativeClientReleaseKey release
  match releases.get key with
  | none => .ok (some (releases.set key release))
  | some existing =>
    if release.versionCode > existing.versionCode then .ok (some (releases.set key release))
    else if release.versionCode = existing.versionCode && release ≠ existing then
      .error (.immutableRelease key release.versionCode)
    else .ok none

def mergeReleases : InsertionMap JsString NativeClientRelease → List NativeClientRelease →
    Except ProjectionError (InsertionMap JsString NativeClientRelease × Bool)
  | releases, [] => .ok (releases,false)
  | releases, release :: incoming =>
    (mergeNativeClientRelease releases release).bind fun
      | none => mergeReleases releases incoming
      | some merged => (mergeReleases merged incoming).map fun result => (result.1,true)

/-- `mergeNativeClientReleases`, with whether it builds a new array. -/
def mergeNativeClientReleases (host : Host) (current incoming : List NativeClientRelease) :
    Except ProjectionError (List NativeClientRelease × Bool) :=
  (mergeReleases (.ofEntries (current.map fun release => (nativeClientReleaseKey release,release)))
    incoming).map fun (releases,changed) =>
      if changed then
        ((releases.entries.insertionSort fun left right => host.localeCompare left.1 right.1 ≤ 0).map Prod.snd,
          true)
      else (current,false)

def reconcileWith (p : Projection) (status : Option GatewayUpdateStatus) (projectId : Option JsString) :
    Projection :=
  match status with
  | some status => p.reconcileGatewayMaintenanceSession status projectId
  | none => p

def applyWorkspaceSnapshot (host : Host) (p : Projection) (event : Event) (payload : WorkspaceSnapshot) :
    Except ProjectionError (Projection × Bool) :=
  (mergeNativeClientReleases host ((p.workspace.map (·.clientReleases)).getD [])
    (payload.clientReleases.getD [])).map fun (clientReleases,newReleases) =>
    let pendingGatewayEnrollments := payload.pendingGatewayEnrollments.getD []
    let gatewayUpdate := ((p.gatewayUpdateObservation.map (·.status)).or payload.gatewayUpdate).or
      (p.workspace.bind (·.gatewayUpdate))
    match p.workspace with
    | some workspace =>
      if payload.snapshotVersion ≤ workspace.snapshotVersion then
        -- A directory that arrives with a snapshot is never the object kept before.
        if !newReleases && payload.gatewayDirectory.isNone &&
            pendingGatewayEnrollments = workspace.pendingGatewayEnrollments &&
            gatewayUpdate = workspace.gatewayUpdate then (p,false)
        else
          (reconcileWith { p.markSeen event.eventId with
            workspace := some { workspace with
              clientReleases, pendingGatewayEnrollments
              gatewayDirectory := payload.gatewayDirectory.or workspace.gatewayDirectory
              gatewayUpdate := gatewayUpdate.or workspace.gatewayUpdate } } gatewayUpdate event.projectId,
            true)
      else (replaceWorkspace clientReleases pendingGatewayEnrollments gatewayUpdate,true)
    | none => (replaceWorkspace clientReleases pendingGatewayEnrollments gatewayUpdate,true)
where
  replaceWorkspace (clientReleases : List NativeClientRelease) (pendingGatewayEnrollments : List Json)
      (gatewayUpdate : Option GatewayUpdateStatus) : Projection :=
    reconcileWith { p.markSeen event.eventId with
      workspace := some
        { snapshotVersion := payload.snapshotVersion
          gatewayKeyId := payload.gatewayKeyId
          capabilities := payload.capabilities
          clientReleases, pendingGatewayEnrollments
          gatewayDirectory := payload.gatewayDirectory
          gatewayUpdate } } gatewayUpdate event.projectId

/-- The revisions of a provider's catalog and the latest time of a page of each. -/
def catalogRevisions (p : Projection) (providerId : JsString) : InsertionMap JsString ℕ :=
  (p.providerCatalogPages.values.filter (·.providerId = providerId)).foldl
    (fun revisions page =>
      revisions.set page.revision (max ((revisions.get page.revision).getD 0) page.occurredAt)) .empty

/-- The catalog keeps the revision of the manifest and the latest ones, two in all. -/
def pruneProviderCatalogPages (p : Projection) (providerId : JsString) : Projection :=
  let manifestRevision := (p.providerCatalogManifests.get providerId).map (·.revision)
  let ofManifest (revision : JsString) : Bool := manifestRevision = some revision
  let retained := (((p.catalogRevisions providerId).entries.insertionSort fun left right =>
    (if ofManifest left.1 = ofManifest right.1 then decide (right.2 ≤ left.2)
      else ofManifest left.1) = true).take 2).map Prod.fst
  { p with providerCatalogPages := p.providerCatalogPages.filter fun _ page =>
      page.providerId ≠ providerId || page.revision ∈ retained }

def applyCatalogPage (host : Host) (p : Projection) (event : Event) (payload : ProviderCatalogPage) :
    Projection × Bool :=
  let key := providerCatalogPageKey payload.providerId payload.revision payload.pageIndex
  if (p.providerCatalogPages.get key).all fun current =>
      isNewerCatalogEvent host current.logicalEventId current.occurredAt event then
    let page : ProjectedProviderCatalogPage :=
      { logicalEventId := event.eventId
        providerId := payload.providerId
        revision := payload.revision
        pageIndex := payload.pageIndex
        pageCount := payload.pageCount
        items := payload.items
        occurredAt := event.occurredAt }
    let p := { p with providerCatalogPages := p.providerCatalogPages.set key page }
    ((p.pruneProviderCatalogPages payload.providerId).markSeen event.eventId,true)
  else (p.markSeen event.eventId,false)

def applyCatalogManifest (host : Host) (p : Projection) (event : Event)
    (payload : ProviderCatalogManifest) : Projection × Bool :=
  if (p.providerCatalogManifests.get payload.providerId).all fun current =>
      isNewerCatalogEvent host current.logicalEventId current.occurredAt event then
    let manifest : ProjectedProviderCatalogManifest :=
      { logicalEventId := event.eventId
        providerId := payload.providerId
        revision := payload.revision
        status := payload.status
        itemCount := payload.itemCount
        pageCount := payload.pageCount
        error := payload.error
        occurredAt := event.occurredAt }
    let p := { p with
      providerCatalogManifests := p.providerCatalogManifests.set payload.providerId manifest }
    ((p.pruneProviderCatalogPages payload.providerId).markSeen event.eventId,true)
  else (p.markSeen event.eventId,false)

/-- Keeps a Gateway update status unless one observed as late is known. -/
def observeGatewayUpdate (p : Projection) (event : Event) (status : GatewayUpdateStatus) :
    Projection × Bool :=
  if p.gatewayUpdateObservation.any fun current => decide (current.observedAt ≥ event.occurredAt) then
    (p,false)
  else
    (reconcileGatewayMaintenanceSession { p with
      gatewayUpdateObservation := some { observedAt := event.occurredAt, status }
      workspace := p.workspace.map fun workspace => { workspace with gatewayUpdate := some status } }
      status event.projectId,true)

def observeGatewayDeployment (p : Projection) (event : Event) (status : GatewayDeploymentStatus) :
    Projection × Bool :=
  if isNewerDeploymentObservation p.gatewayDeploymentObservation event.occurredAt status then
    ({ p with gatewayDeploymentObservation := some { observedAt := event.occurredAt, status } },true)
  else (p,false)

/-- The optional fields that `next` leaves out stay as they are in `current`. -/
def overlay (current next : SessionProjection) : SessionProjection :=
  { next with
    scope := next.scope.or current.scope
    cwd := next.cwd.or current.cwd
    extensions := next.extensions.or current.extensions
    availableCommands := next.availableCommands.or current.availableCommands
    extensionRevision := next.extensionRevision.or current.extensionRevision
    providerHistory := next.providerHistory.or current.providerHistory
    controls := next.controls.or current.controls }

def mergeProjectedControlValues (current : ControlValues) (controls : Option (List Control)) :
    ControlValues :=
  (controls.getD []).foldl (fun values control =>
    match control.value with
    | some value => values.set control.id value
    | none => values) current

/-- A setting that the patch leaves alone is taken from its controls. -/
def effectiveSetting (patch : SettingPatch) (controls : Option ControlValues) (id : JsString) :
    SettingPatch :=
  match patch with
  | .keep =>
    match controls.bind (·.get id) with
    | some (.text value) => .set value
    | _ => .keep
  | patch => patch

/-- The value of a setting and the control values once a patch is applied. -/
def patchSetting (patch : SettingPatch) (id : JsString) (value : Option JsString)
    (values : ControlValues) : Option JsString × ControlValues :=
  match patch with
  | .keep => (value,values)
  | .remove => (none,values.delete id)
  | .set value => (some value,values.set id (.text value))

def applyProjectedSessionSettings (session : ProjectedSession) (patch : SessionSettingsPatch) :
    ProjectedSession :=
  let values := (patch.controls.getD .empty).entries.foldl (fun values e => values.set e.1 e.2)
    (session.controlValues.getD .empty)
  let (model,values) := patchSetting (effectiveSetting patch.model patch.controls "model") "model"
    session.model values
  let (reasoningEffort,values) :=
    patchSetting (effectiveSetting patch.reasoningEffort patch.controls "reasoningEffort") "reasoningEffort"
      session.reasoningEffort values
  let (permissionMode,values) :=
    patchSetting (effectiveSetting (patch.permissionMode.elim .keep .set) patch.controls "permissionMode")
      "permissionMode" session.permissionMode values
  { session with
    model, reasoningEffort, permissionMode
    controlValues := some values
    extensionBindings := patch.extensions.or session.extensionBindings }

/-- The thread root that a session is known by, else the one that the event relates to. -/
def threadRoot (current : Option ProjectedSession) (threadRootHint : Option JsString) : JsString :=
  (((current.map (·.threadRootEventId)).filter truthy).or threadRootHint).getD ""

def hasVerifiedReceiptTarget (threadRootEventId physicalEventId : JsString)
    (threadRootHint : Option JsString) : Bool :=
  threadRootEventId.truthy && physicalEventId ≠ threadRootEventId &&
    threadRootHint = some threadRootEventId

/-- What a projected session keeps: the identity and root of the session that is there already. -/
def projectedSession (current : Option ProjectedSession) (event : Event) (sessionId : JsString)
    (next : SessionProjection) (physicalEventId : JsString) (threadRootHint : Option JsString) :
    ProjectedSession :=
  let threadRootEventId := threadRoot current threadRootHint
  let controlValues := some (mergeProjectedControlValues
    ((current.bind (·.controlValues)).getD .empty) next.controls)
  let projected : ProjectedSession := match current with
    | some current => { current with projection := overlay current.projection next, controlValues }
    | none =>
      { sessionId
        projectId := event.projectId.getD ""
        threadRootEventId
        readReceiptEventId := none
        readReceiptThreadRootEventId := none
        projection := next
        provider := none
        model := none
        reasoningEffort := none
        permissionMode := none
        controlValues
        extensionBindings := none
        activeTurnId := none }
  let projected := match event.payload with
    | .sessionUpdated _ patch => applyProjectedSessionSettings projected patch
    | _ => projected
  let verified := hasVerifiedReceiptTarget threadRootEventId physicalEventId threadRootHint
  { projected with
    readReceiptEventId := if verified then some physicalEventId else none
    readReceiptThreadRootEventId := if verified then some threadRootEventId else none
    activeTurnId := if isActiveSessionActivity next.activity then projected.activeTurnId else none }

def applySessionProjection (p : Projection) (event : Event) (sessionId : JsString)
    (next : SessionProjection) (physicalEventId : JsString) (threadRootHint : Option JsString) :
    Projection :=
  let current := p.sessions.get sessionId
  if current.any fun current => isOlderSessionProjection current.projection next then p
  else
    let projected := projectedSession current event sessionId next physicalEventId threadRootHint
    reconcileWith { p with sessions := p.sessions.set sessionId projected } p.updateStatus
      (some projected.projectId)

def removeSessionProjection (p : Projection) (sessionId : JsString) : Projection :=
  { p with
    sessions := p.sessions.delete sessionId
    messages := p.messages.filter fun _ message => message.sessionId ≠ sessionId
    providerHistoryMessages := p.providerHistoryMessages.filter fun _ message => message.sessionId ≠ sessionId
    providerHistoryPages := p.providerHistoryPages.filter fun _ page => page.sessionId ≠ sessionId }

def readySession (current : Option ProjectedSession) (payload : SessionReady) (sessionId projectId : JsString)
    (threadRootHint : Option JsString) : ProjectedSession where
  sessionId := sessionId
  projectId := projectId
  threadRootEventId := threadRoot current threadRootHint
  readReceiptEventId := (current.bind (·.readReceiptEventId)).filter truthy
  readReceiptThreadRootEventId := (current.bind (·.readReceiptThreadRootEventId)).filter truthy
  projection := payload.projection
  provider := some payload.provider
  model := payload.model.filter truthy
  reasoningEffort := payload.reasoningEffort.filter truthy
  permissionMode := some payload.permissionMode
  controlValues := some ((payload.controls.or (current.bind (·.controlValues))).getD .empty)
  extensionBindings := some ((payload.extensionBindings.or (current.bind (·.extensionBindings))).getD [])
  activeTurnId :=
    if isActiveSessionActivity payload.projection.activity then current.bind (·.activeTurnId) else none

def applySessionReady (p : Projection) (event : Event) (payload : SessionReady)
    (sessionId projectId physicalEventId : JsString) (threadRootHint : Option JsString) : Projection :=
  let current := p.sessions.get sessionId
  if current.any fun current => isOlderSessionProjection current.projection payload.projection then p
  else
    let ready := readySession current payload sessionId projectId threadRootHint
    let p := { p with sessions := p.sessions.set sessionId ready }
    match payload.initialPrompt, payload.rootCommandId with
    | some prompt, some rootCommandId =>
      p.addUserPrompt rootCommandId sessionId
        (if ready.threadRootEventId.truthy then ready.threadRootEventId else physicalEventId)
        event.occurredAt prompt.text payload.originDeviceId none none
    | _, _ => p

def deleteProject (p : Projection) (projectId : JsString) : Projection :=
  let deletedSessionIds := (p.sessions.values.filter (·.projectId = projectId)).map (·.sessionId)
  { p with
    project := p.project.filter (·.projectId ≠ projectId)
    sessions := p.sessions.filter fun sessionId _ => sessionId ∉ deletedSessionIds
    messages := p.messages.filter fun _ message => message.sessionId ∉ deletedSessionIds
    inboxFiles := p.inboxFiles.filter fun _ file => file.projectId ≠ projectId }

def eventMessage (event : Event) (logicalId physicalEventId sessionId : JsString) (sender : Sender)
    (body : JsString) (format : MessageFormat) (version : ℕ) (commandId : Option JsString) :
    ProjectedMessage where
  logicalId := logicalId
  physicalEventId := physicalEventId
  sessionId := sessionId
  sender := sender
  timestamp := event.occurredAt
  body := body
  format := format
  version := version
  partIndex := none
  partCount := none
  commandId := commandId
  originDeviceId := none
  payload := some event.payload
  references := none
  resolvedActionId := none

/-- A version of a message replaces an older one and learns the time of its first appearance. -/
def putVersion (p : Projection) (message : ProjectedMessage) : Projection :=
  match p.messages.get message.logicalId with
  | none => p.putMessage message
  | some current =>
    if message.version > current.version then
      p.putMessage { message with timestamp := min current.timestamp message.timestamp }
    else if message.timestamp < current.timestamp then
      { p with messages := p.messages.set message.logicalId { current with timestamp := message.timestamp } }
    else p

def decisionKey (requestId : JsString) : JsString := "decision:" ++ requestId

/-- The title of a decision and its details, if they are a text. -/
def decisionBody (payload : DecisionRequested) : JsString :=
  match payload.details with
  | some (.str details) =>
    if !details.truthy then payload.title
    else if !payload.title.truthy then details
    else payload.title ++ "\n\n" ++ details
  | _ => payload.title

def resolveDecision (p : Projection) (requestId physicalEventId action : JsString) : Projection :=
  match p.messages.get (decisionKey requestId) with
  | none => p
  | some current =>
    { p with messages := p.messages.set (decisionKey requestId) { current with
      physicalEventId
      version := current.version + 1
      resolvedActionId := some action } }

/-- The message of the batch that an archive reports on. -/
def applyBatchProgress (p : Projection) (event : Event) (physicalEventId batchId : JsString)
    (revision : ℕ) : Projection :=
  let key : JsString := "batch:" ++ batchId
  if (p.messages.get key).all fun current => decide (current.version < revision) then
    p.putMessage (eventMessage event key physicalEventId key .system "Batch archive progress" .plain
      revision (some batchId))
  else p

/-- The messages that an event of a session writes. -/
def applyMessages (p : Projection) (event : Event) (sessionId physicalEventId : JsString) : Projection :=
  match event.payload with
  | .turnQueued payload =>
    p.addUserPrompt payload.turnId sessionId physicalEventId event.occurredAt payload.text
      (some payload.originDeviceId) (some event.payload) payload.references
  | .assistantMessage payload =>
    p.putVersion { eventMessage event
        ("assistant:" ++ payload.messageId ++ ":" ++ ofNat (payload.partIndex.getD 0))
        physicalEventId sessionId .agent payload.body payload.format payload.messageVersion
        event.causationCommandId with
      partIndex := payload.partIndex
      partCount := payload.partCount }
  | .decisionRequested payload =>
    p.putMessage (eventMessage event (decisionKey payload.requestId) physicalEventId sessionId .system
      (decisionBody payload) .markdown 1 event.causationCommandId)
  | .interactionRequested payload =>
    p.putMessage (eventMessage event (decisionKey payload.requestId) physicalEventId sessionId .system
      payload.viewTitle .plain 1 event.causationCommandId)
  | .decisionResolved requestId decision _ => p.resolveDecision requestId physicalEventId decision
  | .interactionResolved requestId _ actionId _ => p.resolveDecision requestId physicalEventId actionId
  | .turnFailed turnId _ _ message =>
    p.putMessage (eventMessage event ("turn-failed:" ++ turnId) physicalEventId sessionId .system message
      .plain 1 (some turnId))
  | .commandRejected commandId code message _ =>
    if code = "session_not_found" then p
    else p.putMessage (eventMessage event ("command-rejected:" ++ commandId) physicalEventId sessionId
      .system message .plain 1 (some commandId))
  | .toolActivity payload =>
    p.putVersion (eventMessage event ("tool:" ++ payload.toolCallId) physicalEventId sessionId .system
      payload.name .plain payload.toolVersion event.causationCommandId)
  | _ => p

/-- The statuses that a command's own event reports. -/
def observeCaused (p : Projection) (event : Event) : Projection :=
  match event.payload with
  | .gatewayUpdateStatus status => (p.observeGatewayUpdate event status).1
  | .gatewayDeploymentStatus status => (p.observeGatewayDeployment event status).1
  | _ => p

def removesSession : EventPayload → Bool
  | .sessionLifecycle _ state _ => state = .deleted
  | .commandRejected _ code _ _ => code = "session_not_found"
  | _ => false

/-- The part of an event that concerns its session. -/
def applyToSession (p : Projection) (event : Event) (sessionId physicalEventId : JsString)
    (threadRootHint : Option JsString) : Projection :=
  let p := match event.payload.projection with
    | some next => p.applySessionProjection event sessionId next physicalEventId threadRootHint
    | none => p
  let p := if removesSession event.payload then p.removeSessionProjection sessionId else p
  let p := match event.payload, event.projectId with
    | .sessionReady payload, some projectId =>
      p.applySessionReady event payload sessionId projectId physicalEventId threadRootHint
    | _, _ => p
  (p.observeActiveTurn event).applyMessages event sessionId physicalEventId

def recordCompletion (p : Projection) (event : Event) : Projection :=
  match event.causationCommandId, completionFromEvent event with
  | some causation, some completion => { p with completions := p.completions.set causation completion }
  | _, _ => p

/-- What a new event does when no entity of its own takes it whole. -/
def applyProjected (p : Projection) (event : Event) (physicalEventId : JsString)
    (threadRootHint : Option JsString) : Projection :=
  let p := p.observeCaused event
  let p := match event.sessionId with
    | some sessionId => p.applyToSession event sessionId physicalEventId threadRootHint
    | none => p
  let p := match event.payload with
    | .batchArchiveProgress batchId revision _ => p.applyBatchProgress event physicalEventId batchId revision
    | _ => p
  let p := p.recordCompletion event
  match event.sessionId with
  | some sessionId => p.reconcileCompletedTurn sessionId
  | none => p

def applyProjectSnapshot (p : Projection) (payload : ProjectSnapshot) (projectId : JsString) : Projection :=
  let project : ProjectProjection :=
    { projectId
      snapshotVersion := payload.snapshotVersion
      name := payload.name
      cwd := payload.cwd
      provider := payload.provider
      model := payload.model.filter truthy
      reasoningEffort := payload.reasoningEffort.filter truthy
      permissionMode := payload.permissionMode
      installedExtensions := payload.installedExtensions.getD []
      defaultExtensions := payload.defaultExtensions.getD []
      extensionDefaultsRevision := payload.extensionDefaultsRevision.getD 1
      controlValues := some (payload.controls.getD .empty) }
  if p.project.all fun current => decide (payload.snapshotVersion ≥ current.snapshotVersion) then
    { p with project := some project }
  else p

def applyInboxFile (p : Projection) (event : Event) (payload : InboxFileReceived)
    (projectId physicalEventId : JsString) : Projection :=
  let file : ProjectedInboxFile :=
    { fileId := payload.fileId
      physicalEventId, projectId
      receivedAt := event.occurredAt
      caption := payload.caption.filter truthy
      sourceLabel := payload.sourceLabel.filter truthy
      attachment := payload.attachment }
  { p with inboxFiles := p.inboxFiles.set payload.fileId file }

def applyHistoryMessage (p : Projection) (payload : ProviderHistoryMessage)
    (sessionId physicalEventId : JsString) : Projection :=
  let logicalId : JsString := "provider-history:" ++ payload.snapshotId ++ ":" ++
    ofNat payload.sourceOrdinal ++ ":" ++ ofNat (payload.partIndex.getD 0)
  let message : ProjectedProviderHistoryMessage :=
    { logicalId, physicalEventId, sessionId
      snapshotId := payload.snapshotId
      sourceOrdinal := payload.sourceOrdinal
      sender := if payload.role = .user then .user else .agent
      body := payload.body
      pageIndex := some payload.pageIndex
      partIndex := payload.partIndex
      partCount := payload.partCount
      payload }
  { p with providerHistoryMessages := p.providerHistoryMessages.set logicalId message }

def applyHistoryPage (p : Projection) (payload : ProviderHistoryPage) (sessionId : JsString) : Projection :=
  let key := providerHistoryPageKey payload.snapshotId payload.pageIndex
  let page : ProjectedProviderHistoryPage :=
    { sessionId
      snapshotId := payload.snapshotId
      pageIndex := payload.pageIndex
      previousFrontier := payload.previousFrontier
      frontier := payload.frontier
      messageCount := payload.messageCount
      hasMore := payload.hasMore
      digest := payload.digest }
  { p with providerHistoryPages := p.providerHistoryPages.set key page }

/-- An event that was not seen before. Four kinds only write an entity of their own. -/
def applyUnseen (p : Projection) (event : Event) (physicalEventId : JsString)
    (threadRootHint : Option JsString) : Projection :=
  match event.payload, event.projectId, event.sessionId with
  | .projectDeleted _ _, some projectId, _ =>
    (p.deleteProject projectId).applyProjected event physicalEventId threadRootHint
  | .projectSnapshot payload, some projectId, _ => p.applyProjectSnapshot payload projectId
  | .inboxFileReceived payload, some projectId, _ => p.applyInboxFile event payload projectId physicalEventId
  | .providerHistoryMessage payload, _, some sessionId =>
    p.applyHistoryMessage payload sessionId physicalEventId
  | .providerHistoryPageCommitted payload, _, some sessionId => p.applyHistoryPage payload sessionId
  | _, _, _ => p.applyProjected event physicalEventId threadRootHint

def applyLogicalEvent (p : Projection) (event : Event) (physicalEventId : JsString)
    (threadRootHint : Option JsString) : Projection × Bool :=
  if p.seenLogicalEvents.has event.eventId then (p,false)
  else ((p.markSeen event.eventId).applyUnseen event physicalEventId threadRootHint,true)

def applyEvent (host : Host) (p : Projection) (event : Event) (physicalEventId : JsString)
    (threadRootHint : Option JsString) : Except ProjectionError (Projection × Bool) :=
  match event.payload, event.causationCommandId with
  | .workspaceSnapshot payload, _ => applyWorkspaceSnapshot host p event payload
  | .providerCatalogPage payload, _ => .ok (applyCatalogPage host p event payload)
  | .providerCatalogManifest payload, _ => .ok (applyCatalogManifest host p event payload)
  | .gatewayUpdateStatus status, none => .ok (p.observeGatewayUpdate event status)
  | .gatewayDeploymentStatus status, none => .ok (p.observeGatewayDeployment event status)
  | _, _ => .ok (p.applyLogicalEvent event physicalEventId threadRootHint)

end Projection

end Malink.Client
