import Malink.DeploymentCoordinator
import Malink.HandoffInboxes
import Malink.JournalDatabase
import Malink.OutboxMerge

/-!
# The stores of a promoted Gateway

A promotion writes the state of the promoted Gateway into a directory of its own: a copy of the candidate's, into
which the files of the Gateway that is replaced are merged.
-/

namespace Malink.Handoff

open Gateway.Inbox (Records)

abbrev Members := InsertionMap JsString Json

inductive HandoffFailure
  | thrown (message : JsString)
  | outbox (error : Outbox.MergeError)
  deriving DecidableEq

structure JsonFile where
  path : JsString
  content : Option Json

def record : Json → Option Members
  | .obj members => some (.ofEntries members)
  | _ => none

def invalid (label : JsString) : HandoffFailure := .thrown (("Gateway handoff " : JsString) ++ label ++ " is invalid")

def requireRecord (value : Option Json) (label : JsString) : Except HandoffFailure Members :=
  match value.bind record with
  | some members => .ok members
  | none => .error (invalid label)

def requireArray (value : Option Json) (label : JsString) : Except HandoffFailure (List Json) :=
  match value with
  | some (.arr values) => .ok values
  | _ => .error (invalid label)

def requireString (value : Option Json) (label : JsString) : Except HandoffFailure JsString :=
  match value with
  | some (.str text) => if text.truthy then .ok text else .error (invalid label)
  | _ => .error (invalid label)

def requireStringArray (value : Option Json) (label : JsString) : Except HandoffFailure (List JsString) := do
  let values ← requireArray value label
  values.mapM fun value => requireString (some value) label

def readOptionalRecord (file : JsonFile) : Except HandoffFailure (Option Members) :=
  match file.content with
  | none => .ok none
  | some value => (requireRecord (some value) (("JSON file " : JsString) ++ file.path)).map some

def readRequiredRecord (file : JsonFile) (label : JsString) : Except HandoffFailure Members := do
  match ← readOptionalRecord file with
  | some members => .ok members
  | none => .error (.thrown (("Gateway handoff is missing " : JsString) ++ label ++ ": " ++ file.path))

/-- `Number(value)`. A text is no number here. -/
def numberOf : Option Json → Option ℤ
  | some (.num n) => some n
  | some (.bool b) => some (if b then 1 else 0)
  | some .null => some 0
  | _ => none

def mergeMembers (source target : Members) (label : JsString) : Except HandoffFailure Members :=
  (mergeRecords (fun value => value) label source target).mapError fun error => .thrown error.message

def mergeLatestUpdatedRecord (merged : Members) (entry : JsString × Json) : Except HandoffFailure Members :=
  match merged.get entry.1 with
  | none => .ok (merged.set entry.1 entry.2)
  | some current => do
    let left ← requireRecord (some entry.2) (("record " : JsString) ++ entry.1)
    let right ← requireRecord (some current) (("record " : JsString) ++ entry.1)
    match (numberOf (left.get "updatedAt")).filter Outbox.isSafeInteger,
        (numberOf (right.get "updatedAt")).filter Outbox.isSafeInteger with
    | some leftUpdatedAt, some rightUpdatedAt => do
      refuseIf (leftUpdatedAt = rightUpdatedAt ∧ sameJson (fun value => value) entry.2 current = false)
        (.thrown (("Gateway handoff record " : JsString) ++ entry.1 ++ " conflicts at one update time"))
      .ok (if rightUpdatedAt < leftUpdatedAt then merged.set entry.1 entry.2 else merged)
    | _, _ => .error (.thrown (("Gateway handoff record " : JsString) ++ entry.1 ++ " has no valid update time"))

def mergeLatestUpdatedRecords (source target : Members) : Except HandoffFailure Members :=
  source.entries.foldlM mergeLatestUpdatedRecord target

/-- What is kept of two values under one key. -/
def resolveValues (label : JsString) (resolveConflict : Option (Json → Json → Except HandoffFailure Json))
    (key : JsString) (current value : Json) : Except HandoffFailure Json :=
  if sameJson (fun value => value) current value then .ok current
  else match resolveConflict with
    | none => .error (.thrown (("Gateway handoff " : JsString) ++ label ++ " conflict for " ++ key))
    | some resolve => resolve current value

/-- The platform: `left.localeCompare(right) <= 0`, and the digest of a text. -/
structure Platform where
  localeLe : JsString → JsString → Bool
  sha256 : JsString → JsString

def mergeKeyedArrays (platform : Platform) (source target : List Json)
    (keyOf : Json → Except HandoffFailure JsString) (label : JsString)
    (resolveConflict : Option (Json → Json → Except HandoffFailure Json)) : Except HandoffFailure (List Json) := do
  let merged ← KeyedMerges.putAll keyOf (resolveValues label resolveConflict) (target ++ source) .empty
  .ok ((merged.entries.insertionSort fun left right => platform.localeLe left.1 right.1 = true).map Prod.snd)

def assertUniqueField (values : List Json) (field label : JsString) : Except HandoffFailure Unit := do
  let found ← values.mapM fun value => requireString (value.field field) label
  refuseIf (¬ found.Nodup) (.thrown (("Gateway handoff has duplicate " : JsString) ++ label))

def isFilledText : Json → Bool
  | .str text => text.truthy
  | _ => false

def assertUniqueOptionalField (values : List Json) (field label : JsString) : Except HandoffFailure Unit := do
  let found := values.filterMap (Json.field field)
  refuseIf (found.all isFilledText = false) (.thrown (("Gateway handoff has an invalid " : JsString) ++ label))
  refuseIf (¬ found.Nodup) (.thrown (("Gateway handoff has duplicate " : JsString) ++ label))

def roomKey (value : Json) : Except HandoffFailure JsString := requireString (value.field "roomId") "project room ID"

/-- The room of a recovery project stays with the Gateway that is replaced. -/
def isHandedOver (retainedRoomId : Option JsString) (project : Json) : Bool :=
  decide (project.field "roomId" ≠ retainedRoomId.map .str)

def mergeProjectCatalog (platform : Platform) (sourceFile targetFile : JsonFile) (candidateGatewayNodeId : JsString)
    (retainedRoomId : Option JsString) : Except HandoffFailure Json := do
  let source ← readRequiredRecord sourceFile "source project catalog"
  let target ← readRequiredRecord targetFile "candidate project catalog"
  refuseIf (source.get "version" ≠ some (.num 1) ∨ target.get "version" ≠ some (.num 1))
    (.thrown "Gateway project catalog version is not supported for handoff")
  let sourceProjects ← requireArray (source.get "projects") "source projects"
  let targetProjects ← requireArray (target.get "projects") "candidate projects"
  let projects ← mergeKeyedArrays platform (sourceProjects.filter (isHandedOver retainedRoomId)) targetProjects roomKey
    "project room" none
  assertUniqueField projects "roomId" "room ID"
  assertUniqueField projects "conversationId" "conversation ID"
  assertUniqueOptionalField projects "projectId" "project ID"
  .ok (.obj [("version",.num 1),("gatewayNodeId",.str candidateGatewayNodeId),("projects",.arr projects)])

/-- The IDs of the sessions that were seen, and how many of them are active. -/
structure SeenSessions where
  sessionIds : List JsString
  sessionCount : ℕ

structure HandoffCounts where
  projectCount : ℕ
  sessionCount : ℕ
  deriving DecidableEq

/-- `scratchSessionDirectory`, of a state that lies in the directory. -/
def scratchSessionDirectory (platform : Platform) (directory sessionId : JsString) : JsString :=
  directory ++ "/scratch-sessions/" ++ platform.sha256 (("malink-scratch-session\x00" : JsString) ++ sessionId)

def relocateSession (platform : Platform) (directory roomId : JsString) (seen : SeenSessions) (value : Json) :
    Except HandoffFailure (SeenSessions × Json) := do
  let session ← requireRecord (some value) (("runtime session in " : JsString) ++ roomId)
  let sessionId ← requireString (session.get "id") "runtime session ID"
  refuseIf (sessionId ∈ seen.sessionIds)
    (.thrown (("Gateway handoff has duplicate session ID " : JsString) ++ sessionId))
  let relocated := if session.get "scope" = some (.str "scratch")
    then .obj (session.set "cwd" (.str (scratchSessionDirectory platform directory sessionId))).entries else value
  -- Archived and deleted sessions are handed over as well, but only active ones are opened.
  let sessionCount := if session.get "lifecycle" = some (.str "active") then seen.sessionCount + 1
    else seen.sessionCount
  .ok (⟨seen.sessionIds ++ [sessionId],sessionCount⟩,relocated)

def relocateSessions (platform : Platform) (directory roomId : JsString) (seen : SeenSessions) :
    List Json → Except HandoffFailure (SeenSessions × List Json)
  | [] => .ok (seen,[])
  | value :: values => do
    let (seen,relocated) ← relocateSession platform directory roomId seen value
    let (seen,others) ← relocateSessions platform directory roomId seen values
    .ok (seen,relocated :: others)

def relocateProject (platform : Platform) (directory : JsString) (seen : SeenSessions) (roomId : JsString)
    (value : Json) : Except HandoffFailure (SeenSessions × Json) := do
  let project ← requireRecord (some value) (("runtime project " : JsString) ++ roomId)
  let sessions ← requireArray (project.get "sessions") (("runtime project " : JsString) ++ roomId ++ " sessions")
  let (seen,relocated) ← relocateSessions platform directory roomId seen sessions
  .ok (seen,.obj (project.set "sessions" (.arr relocated)).entries)

def relocateProjects (platform : Platform) (directory : JsString) (seen : SeenSessions) :
    List (JsString × Json) → Except HandoffFailure (SeenSessions × List (JsString × Json))
  | [] => .ok (seen,[])
  | (roomId,value) :: projects => do
    let (seen,relocated) ← relocateProject platform directory seen roomId value
    let (seen,others) ← relocateProjects platform directory seen projects
    .ok (seen,(roomId,relocated) :: others)

def mergeRuntimeState (platform : Platform) (directory : JsString) (sourceFile targetFile : JsonFile)
    (workspaceId : JsString) (retainedRoomId : Option JsString) : Except HandoffFailure (Json × HandoffCounts) := do
  let source ← readRequiredRecord sourceFile "source runtime state"
  let target ← readRequiredRecord targetFile "candidate runtime state"
  refuseIf (source.get "version" ≠ some (.num 3) ∨ target.get "version" ≠ some (.num 3) ∨
      source.get "workspaceId" ≠ some (.str workspaceId) ∨ target.get "workspaceId" ≠ some (.str workspaceId))
    (.thrown "Gateway runtime state does not match the handoff Workspace")
  let sourceProjects ← requireRecord (source.get "projects") "source runtime projects"
  let targetProjects ← requireRecord (target.get "projects") "candidate runtime projects"
  let projects ← mergeMembers (sourceProjects.filter fun roomId _ => decide (some roomId ≠ retainedRoomId)) targetProjects
    "runtime project"
  let (seen,relocated) ← relocateProjects platform directory ⟨[],0⟩ projects.entries
  .ok (.obj [("version",.num 3),("workspaceId",.str workspaceId),("projects",.obj relocated)],
    ⟨projects.size,seen.sessionCount⟩)

/-- The rows of a table, under their keys. They meet the checks of the table. -/
structure CommandTable where
  rows : InsertionMap JsString Gateway.JournalText.CommandRow
  keyed : ∀ {key row}, rows.get key = some row → row.commandKey = key
  checked : ∀ {key row}, rows.get key = some row → row.checked

structure LegacySource where
  path : JsString
  sha256 : JsString
  migratedAt : ℤ

/-- A database. `quick_check` is what the pragma answers, and the version is missing where there is no metadata. -/
structure JournalFile where
  quickCheck : Bool
  schemaVersion : Option ℤ
  generation : JsString
  legacySource : Option LegacySource
  commands : CommandTable

def commandStatusText : Gateway.JournalText.Status → JsString
  | .accepted => "accepted"
  | .dispatched => "dispatched"
  | .terminal => "terminal"

/-- A column that is null is read as null. -/
def column {α : Type} (toJson : α → Json) (value : Option α) : Json := (value.map toJson).getD .null

def textJson (text : List Char) : Json := .str (.ofChars text)

def commandRowJson (row : Gateway.JournalText.CommandRow) : Json :=
  .obj [("command_key",.str row.commandKey),("fingerprint",.str row.fingerprint),
    ("operation",.str row.operation),("command_json",column textJson row.commandJson),
    ("room_id",column .str row.roomId),("source_matrix_event_id",column .str row.sourceMatrixEventId),
    ("status",.str (commandStatusText row.status)),("accepted_at",.num row.acceptedAt),
    ("dispatched_at",column .num row.dispatchedAt),("terminal_at",column .num row.terminalAt),
    ("terminal_json",column textJson row.terminalJson),
    ("terminal_delivery_event_id",column .str row.terminalDeliveryEventId),
    ("terminal_delivered_at",column .num row.terminalDeliveredAt)]

def CommandTable.insert (table : CommandTable) (row : Gateway.JournalText.CommandRow) (h : row.checked) :
    CommandTable where
  rows := table.rows.set row.commandKey row
  keyed := by
    intro key row' hget
    rw [InsertionMap.get_set] at hget
    split at hget
    · next heq =>
      obtain rfl := Option.some.inj hget
      exact heq.symm
    · exact table.keyed hget
  checked := by
    intro key row' hget
    rw [InsertionMap.get_set] at hget
    split at hget
    · obtain rfl := Option.some.inj hget
      exact h
    · exact table.checked hget

def mergeCommandRow (table : CommandTable) (row : { row : Gateway.JournalText.CommandRow // row.checked = true }) :
    Except HandoffFailure CommandTable := do
  let key ← requireString (some (.str row.1.commandKey)) "command journal key"
  match table.rows.get key with
  | some existing => do
    refuseIf (sameJson commandRowJson existing row.1 = false)
      (.thrown (("Gateway command journal conflict for " : JsString) ++ key))
    .ok table
  | none => .ok (table.insert row.1 row.2)

/-- The rows in the order of their keys. -/
def CommandTable.selected (table : CommandTable) :
    List { row : Gateway.JournalText.CommandRow // row.checked = true } :=
  table.rows.values.attach.map fun row => ⟨row.1,by
    obtain ⟨key,hget⟩ := InsertionMap.mem_values.mp row.2
    exact table.checked hget⟩

def requireSqliteIntegrity (file : JournalFile) (label : JsString) : Except HandoffFailure Unit :=
  refuseIf (file.quickCheck = false) (.thrown (label ++ " Gateway command journal failed integrity check"))

def mergeCommandJournal (sourceFile targetFile : Option JournalFile) (generation : JsString) :
    Except HandoffFailure JournalFile :=
  match sourceFile, targetFile with
  | some source, some target => do
    requireSqliteIntegrity source "source"
    requireSqliteIntegrity target "candidate"
    refuseIf (source.schemaVersion ≠ some 2 ∨ target.schemaVersion ≠ some 2)
      (.thrown "Gateway command journal schema is not handoff-compatible")
    let commands ← source.commands.selected.foldlM mergeCommandRow target.commands
    .ok { target with generation, legacySource := none, commands }
  | _, _ => .error (.thrown "Both Gateway command journals are required for promotion")

def mergeInboxes (files : List (Option Records)) : Except HandoffFailure Records :=
  (mergeInboxFiles files).mapError fun error => .thrown error.message

def mergeOutboxes (sources : List Outbox.WalFile) : Except HandoffFailure (List Char) :=
  (Outbox.mergeMatrixMlp3OutboxWals sources).mapError .outbox

def mergeTimelineKeys (sourceFile targetFile : JsonFile) : Except HandoffFailure (Option Json) := do
  match ← readOptionalRecord sourceFile with
  | none => .ok targetFile.content
  | some source => do
    let target ← readOptionalRecord targetFile
    let target := target.getD (.ofEntries [("version",.num 1),("rooms",.obj [])])
    refuseIf (source.get "version" ≠ some (.num 1) ∨ target.get "version" ≠ some (.num 1))
      (.thrown "Unsupported Gateway timeline key store")
    let sourceRooms ← requireRecord (source.get "rooms") "source timeline key rooms"
    let targetRooms ← requireRecord (target.get "rooms") "candidate timeline key rooms"
    let rooms ← mergeMembers sourceRooms targetRooms "timeline key room"
    .ok (some (.obj [("version",.num 1),("rooms",.obj rooms.entries)]))

def replayClaim (label key : JsString) (claim : Option Json) : Except HandoffFailure ℤ :=
  match claim with
  | none => .ok 0
  | some (.num expiresAt) =>
    if Outbox.isSafeInteger expiresAt ∧ 0 ≤ expiresAt then .ok expiresAt
    else .error (.thrown (("Invalid " : JsString) ++ label ++ " replay claim " ++ key))
  | some _ => .error (.thrown (("Invalid " : JsString) ++ label ++ " replay claim " ++ key))

def mergeReplayClaim (sourceClaims targetClaims claims : Members) (key : JsString) : Except HandoffFailure Members := do
  let left ← replayClaim "source" key (sourceClaims.get key)
  let right ← replayClaim "candidate" key (targetClaims.get key)
  .ok (claims.set key (.num (max left right)))

def mergeReplayStore (name : JsString) (sourceFile targetFile : JsonFile) : Except HandoffFailure (Option Json) := do
  match ← readOptionalRecord sourceFile with
  | none => .ok targetFile.content
  | some source => do
    let target ← readOptionalRecord targetFile
    let target := target.getD (.ofEntries [("version",.num 1),("claims",.obj [])])
    refuseIf (source.get "version" ≠ some (.num 1) ∨ target.get "version" ≠ some (.num 1))
      (.thrown (("Unsupported Gateway replay store " : JsString) ++ name))
    let sourceClaims ← requireRecord (source.get "claims") "source replay claims"
    let targetClaims ← requireRecord (target.get "claims") "candidate replay claims"
    let claims ← (InsertionMap.unionKeys targetClaims sourceClaims).foldlM (mergeReplayClaim sourceClaims targetClaims)
      .empty
    .ok (some (.obj [("version",.num 1),("claims",.obj claims.entries)]))

def mergeRecordField (source target merged : Members) (field : JsString) : Except HandoffFailure Members := do
  let left ← requireRecord (source.get field) (("source " : JsString) ++ field)
  let right ← requireRecord (target.get field) (("candidate " : JsString) ++ field)
  let records ← mergeMembers left right field
  .ok (merged.set field (.obj records.entries))

def mergeRecordStore (name : JsString) (sourceFile targetFile : JsonFile) (workspaceId : JsString)
    (fields : List JsString) : Except HandoffFailure (Option Json) := do
  match ← readOptionalRecord sourceFile with
  | none => .ok targetFile.content
  | some source => do
    match ← readOptionalRecord targetFile with
    | none => .ok sourceFile.content
    | some target => do
      refuseIf (source.get "version" ≠ target.get "version" ∨ source.get "workspaceId" ≠ some (.str workspaceId) ∨
          target.get "workspaceId" ≠ some (.str workspaceId))
        (.thrown (("Gateway state store " : JsString) ++ name ++ " is not handoff-compatible"))
      let merged ← fields.foldlM (mergeRecordField source target) target
      .ok (some (.obj merged.entries))

def releaseBinding : List JsString := ["platform","channel","architecture"]

def releaseKey (value : Json) : Except HandoffFailure JsString := do
  let release ← requireRecord (some value) "native release"
  let parts ← releaseBinding.mapM fun part => requireString (release.get part) "native release binding"
  .ok (match parts with
    | [platform,channel,architecture] => platform ++ "\x00" ++ channel ++ "\x00" ++ architecture
    | _ => "")

def resolveReleases (left right : Json) : Except HandoffFailure Json := do
  let leftRelease ← requireRecord (some left) "native release"
  let rightRelease ← requireRecord (some right) "native release"
  match numberOf (leftRelease.get "versionCode"), numberOf (rightRelease.get "versionCode") with
  | some leftCode, some rightCode => do
    refuseIf (leftCode = rightCode ∧ sameJson (fun value => value) left right = false)
      (.thrown "Native release version is immutable across Gateway handoff")
    .ok (if rightCode < leftCode then left else right)
  -- Nothing is equal to, or greater than, what is no number.
  | _, _ => .ok right

def mergeNativeReleases (platform : Platform) (sourceFile targetFile : JsonFile) (workspaceId : JsString) :
    Except HandoffFailure (Option Json) := do
  match ← readOptionalRecord sourceFile with
  | none => .ok targetFile.content
  | some source => do
    let target ← readOptionalRecord targetFile
    let target := target.getD (.ofEntries [("version",.num 1),("workspaceId",.str workspaceId),("releases",.arr [])])
    refuseIf (source.get "version" ≠ some (.num 1) ∨ target.get "version" ≠ some (.num 1) ∨
        source.get "workspaceId" ≠ some (.str workspaceId) ∨ target.get "workspaceId" ≠ some (.str workspaceId))
      (.thrown "Native client release state is not handoff-compatible")
    let sourceReleases ← requireArray (source.get "releases") "source native releases"
    let targetReleases ← requireArray (target.get "releases") "candidate native releases"
    let releases ← mergeKeyedArrays platform sourceReleases targetReleases releaseKey "native release"
      (some resolveReleases)
    .ok (some (.obj [("version",.num 1),("workspaceId",.str workspaceId),("releases",.arr releases)]))

structure WebPushState where
  vapid : Members
  subscriptions : Members
  pending : Members
  completedEventIds : List JsString

def normalizedWebPushState (value : Members) (label : JsString) : Except HandoffFailure WebPushState := do
  refuseIf (value.get "version" ≠ some (.num 1))
    (.thrown (("Gateway handoff " : JsString) ++ label ++ " Web Push state is invalid"))
  let vapid ← requireRecord (value.get "vapid") (label ++ " Web Push identity")
  let _ ← requireString (vapid.get "subject") (label ++ " Web Push subject")
  let _ ← requireString (vapid.get "publicKey") (label ++ " Web Push public key")
  let _ ← requireString (vapid.get "privateKey") (label ++ " Web Push private key")
  let subscriptions ← requireRecord (value.get "subscriptions") (label ++ " Web Push subscriptions")
  let pending ← requireRecord (value.get "pending") (label ++ " Web Push pending events")
  let completedEventIds ← requireStringArray (value.get "completedEventIds") (label ++ " completed Web Push events")
  .ok { vapid, subscriptions, pending, completedEventIds }

def WebPushState.toJson (state : WebPushState) : Json :=
  .obj [("version",.num 1),("vapid",.obj state.vapid.entries),
    ("subscriptions",.obj state.subscriptions.entries),("pending",.obj state.pending.entries),
    ("completedEventIds",.arr (state.completedEventIds.map .str))]

def maxCompletedEvents : ℕ := 512

def mergeWebPush (sourceFile targetFile : JsonFile) : Except HandoffFailure (Option Json) := do
  match ← readOptionalRecord sourceFile with
  | none => .ok targetFile.content
  | some source => do
    match ← readOptionalRecord targetFile with
    | none => .ok sourceFile.content
    | some target => do
      refuseIf (source.get "version" ≠ some (.num 1) ∨ target.get "version" ≠ some (.num 1))
        (.thrown "Gateway Web Push identity is not handoff-compatible")
      let sourceState ← normalizedWebPushState source "source"
      let targetState ← normalizedWebPushState target "candidate"
      -- Subscriptions for another key cannot be used; clients subscribe again.
      if sameJson (fun vapid : Members => .obj vapid.entries) sourceState.vapid targetState.vapid = false then
        .ok (some sourceState.toJson)
      else do
        let subscriptions ← mergeLatestUpdatedRecords sourceState.subscriptions targetState.subscriptions
        let pending ← mergeMembers sourceState.pending targetState.pending "Web Push pending event"
        let completed := (sourceState.completedEventIds ++ targetState.completedEventIds).eraseDups
        .ok (some (WebPushState.toJson {
          vapid := targetState.vapid
          subscriptions
          pending
          completedEventIds := completed.drop (completed.length - maxCompletedEvents) }))

abbrev FileTree := InsertionMap JsString JsString

def mergeTree (platform : Platform) (directory : JsString) (source target : FileTree) : Except HandoffFailure FileTree :=
  (InsertionMap.union (fun left right => decide (platform.sha256 left = platform.sha256 right)) source target).mapError
    fun path => .thrown (("Gateway handoff file conflict: " : JsString) ++ directory ++ "/" ++ path)

inductive ReplayStore
  | gateway
  | envelope
  | pairing
  | enrollment
  deriving DecidableEq

def ReplayStore.name : ReplayStore → JsString
  | gateway => "gateway-replay.jsonl"
  | envelope => "envelope-replay.json"
  | pairing => "pairing-replay.json"
  | enrollment => "gateway-enrollment-replay.json"

structure GatewayFiles where
  projectCatalog : Option Json
  runtimeState : Option Json
  commandJournal : Option JournalFile
  inbox : Option Records
  shadowInbox : Option Records
  outbox : Outbox.WalFile
  shadowRooms : Option Json
  timelineKeys : Option Json
  replayStore : ReplayStore → Option Json
  artifacts : Option Json
  providerHistory : Option Json
  nativeReleases : Option Json
  webPush : Option Json
  attachments : FileTree
  scratchSessions : FileTree

def projectCatalogName : JsString := "gateway-projects.json"
def runtimeStateName : JsString := "gateway-replay.jsonl.v3-runtime-state.json"
def timelineKeysName : JsString := "envelope-replay.json.v3-project-keys.json"
def artifactsName : JsString := "gateway-replay.jsonl.v3-artifacts.json"
def providerHistoryName : JsString := "gateway-replay.jsonl.v3-provider-history-snapshots.json"
def nativeReleasesName : JsString := "gateway-replay.jsonl.v3-client-releases.json"
def webPushName : JsString := "gateway-replay.jsonl.v3-web-push.json"
def attachmentsName : JsString := "gateway-replay.jsonl.v3-attachments"
def scratchSessionsName : JsString := "scratch-sessions"

/-- `randomUUID()` is the generation of the merged journal. -/
structure HandoffInput where
  sourceDirectory : JsString
  candidateDirectory : JsString
  transactionRoot : JsString
  updateId : JsString
  candidateGatewayNodeId : JsString
  workspaceId : JsString
  retainedRoomId : Option JsString
  generation : JsString

def HandoffInput.targetDirectory (input : HandoffInput) : JsString := input.transactionRoot ++ "/" ++ input.updateId

def mergeReplayStores (source target : ReplayStore → JsonFile) :
    Except HandoffFailure (ReplayStore → Option Json) := do
  let merge (store : ReplayStore) := mergeReplayStore store.name (source store) (target store)
  let gateway ← merge .gateway
  let envelope ← merge .envelope
  let pairing ← merge .pairing
  let enrollment ← merge .enrollment
  .ok fun
    | .gateway => gateway
    | .envelope => envelope
    | .pairing => pairing
    | .enrollment => enrollment

/-- The files that the source and a copy of the candidate's files are merged into. -/
def mergeFiles (platform : Platform) (input : HandoffInput) (source candidate : GatewayFiles) :
    Except HandoffFailure (HandoffCounts × GatewayFiles) := do
  let target := candidate
  let sourceFile name content : JsonFile := ⟨input.sourceDirectory ++ "/" ++ name,content⟩
  let targetFile name content : JsonFile := ⟨input.targetDirectory ++ "/" ++ name,content⟩
  let projectCatalog ← mergeProjectCatalog platform (sourceFile projectCatalogName source.projectCatalog)
    (targetFile projectCatalogName target.projectCatalog) input.candidateGatewayNodeId input.retainedRoomId
  let (runtimeState,counts) ← mergeRuntimeState platform input.targetDirectory
    (sourceFile runtimeStateName source.runtimeState) (targetFile runtimeStateName target.runtimeState)
    input.workspaceId input.retainedRoomId
  let commandJournal ← mergeCommandJournal source.commandJournal target.commandJournal input.generation
  let inbox ← mergeInboxes [source.inbox,target.inbox,candidate.shadowInbox]
  let outbox ← mergeOutboxes [candidate.outbox,source.outbox]
  let timelineKeys ← mergeTimelineKeys (sourceFile timelineKeysName source.timelineKeys)
    (targetFile timelineKeysName target.timelineKeys)
  let replayStore ← mergeReplayStores (fun store => sourceFile store.name (source.replayStore store))
    (fun store => targetFile store.name (target.replayStore store))
  let artifacts ← mergeRecordStore artifactsName (sourceFile artifactsName source.artifacts)
    (targetFile artifactsName target.artifacts) input.workspaceId ["references","messages"]
  let providerHistory ← mergeRecordStore providerHistoryName (sourceFile providerHistoryName source.providerHistory)
    (targetFile providerHistoryName target.providerHistory) input.workspaceId ["snapshots"]
  let nativeReleases ← mergeNativeReleases platform (sourceFile nativeReleasesName source.nativeReleases)
    (targetFile nativeReleasesName target.nativeReleases) input.workspaceId
  let webPush ← mergeWebPush (sourceFile webPushName source.webPush) (targetFile webPushName target.webPush)
  let attachments ← mergeTree platform (input.targetDirectory ++ "/" ++ attachmentsName) source.attachments
    target.attachments
  let scratchSessions ← mergeTree platform (input.targetDirectory ++ "/" ++ scratchSessionsName) source.scratchSessions
    target.scratchSessions
  .ok (counts,{
    projectCatalog := some projectCatalog
    runtimeState := some runtimeState
    commandJournal := some commandJournal
    inbox := some inbox
    shadowInbox := some .empty
    outbox := some outbox
    shadowRooms := some (.arr [])
    timelineKeys
    replayStore
    artifacts
    providerHistory
    nativeReleases
    webPush
    attachments
    scratchSessions })

structure Directories where
  source : GatewayFiles
  candidate : GatewayFiles
  target : Option GatewayFiles

/-- The target directory is removed before the merge, and again when the merge fails. -/
def buildGatewayDeploymentHandoff (platform : Platform) (input : HandoffInput) (directories : Directories) :
    Except HandoffFailure HandoffCounts × Directories :=
  if Deployment.isReleaseId input.updateId = false then (.error (.thrown "Gateway update ID is invalid"),directories)
  else if input.sourceDirectory = input.candidateDirectory then
    (.error (.thrown "Gateway handoff requires isolated source and candidate directories"),directories)
  else match mergeFiles platform input directories.source directories.candidate with
    | .error failure => (.error failure,{ directories with target := none })
    | .ok (counts,files) => (.ok counts,{ directories with target := some files })

end Malink.Handoff
