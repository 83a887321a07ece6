import Malink.CommandModels

/-!
# The file of the command outbox

`encode` and `decodeForStorage` of the outbox codec, with the checks they share.
-/

namespace Malink.Native.Commands

def EVENT_STREAM_SCHEMA_VERSION : ℤ := 6
def MAX_PLAINTEXT_BYTES : ℕ := 3 * 1024 * 1024
def MAX_COMMANDS : ℕ := 128
def MAX_TOMBSTONES : ℕ := 4096

def isFingerprint (value : JsString) : Bool :=
  value.length = 64 && value.units.all fun u =>
    (48 ≤ u.toNat && u.toNat ≤ 57) || (97 ≤ u.toNat && u.toNat ≤ 102)

def requireFingerprint (value : JsString) : Except OutboxError Unit :=
  require (isFingerprint value) "Command request fingerprint is invalid."

/-- `payload["operation"]?.jsonPrimitive?.contentOrNull`. -/
def operationText (payload : JsonObject) : Except OutboxError (Option JsString) :=
  match payload.get "operation" with
  | none => .ok none
  | some e => if e.isPrimitive then .ok e.contentOrNull else .error (.illegalArgument "Element is not a JsonPrimitive")

def validateCommand (value : PersistedCommand) : Except OutboxError Unit := do
  requireOpaqueId value.operationId "operationId"
  requireOpaqueId value.commandId "commandId"
  value.retiredCommandIds.forM fun id => requireOpaqueId id "retiredCommandId"
  require (value.commandId ∉ value.retiredCommandIds ∧ value.retiredCommandIds.Nodup)
    "Retired command ids are invalid."
  requireUuid value.idempotencyKey
  requireFingerprint value.requestFingerprint
  requireNonnegativeJsonInteger value.submittedAt "Command submitted timestamp"
  requireNonnegativeJsonInteger value.updatedAt "Command updated timestamp"
  require (value.submittedAt ≤ value.updatedAt) "Command timestamps are invalid."
  checkPresent (requireOpaqueId · "sessionId") value.sessionId
  checkPresent (requireOpaqueId · "projectId") value.projectId
  checkPresent (requireNonnegativeJsonInteger · "Command creation timestamp") value.createdAt
  checkPresent (requireOpaqueId · "matrixEventId") value.matrixEventId
  require (value.state = .queued ∨ value.createdAt ≠ none)
    "A submitted command must retain its signed creation timestamp."
  require ((JsonElement.object value.payload).size ≤ MAX_PAYLOAD_BYTES) "Command payload is too large."
  let operation ← operationText value.payload
  require (operation.any (fun text => !text.isBlank)) "Command payload operation is invalid."
  require (value.state.isTerminal = value.completion.isSome) "Terminal commands must contain exactly one completion."
  require (∀ completion ∈ value.completion,completion.commandId = value.commandId)
    "Command completion does not belong to its command."

def validateTombstone (value : ReleasedCommandTombstone) : Except OutboxError Unit := do
  requireOpaqueId value.operationId "operationId"
  requireOpaqueId value.commandId "commandId"
  value.retiredCommandIds.forM fun id => requireOpaqueId id "retiredCommandId"
  require (value.commandId ∉ value.retiredCommandIds ∧ value.retiredCommandIds.Nodup)
    "Released command retired ids are invalid."
  requireUuid value.idempotencyKey
  requireFingerprint value.requestFingerprint
  requireNonnegativeJsonInteger value.releasedAt "Released command timestamp"

def PersistedCommand.ids (command : PersistedCommand) : List JsString :=
  command.operationId :: command.commandId :: command.retiredCommandIds

def ReleasedCommandTombstone.ids (tombstone : ReleasedCommandTombstone) : List JsString :=
  tombstone.operationId :: tombstone.commandId :: tombstone.retiredCommandIds

def CommandOutboxSnapshot.durableIds (value : CommandOutboxSnapshot) : List JsString :=
  value.commands.flatMap PersistedCommand.ids ++ value.released.flatMap ReleasedCommandTombstone.ids

def validateSnapshot (value : CommandOutboxSnapshot) : Except OutboxError Unit := do
  require (value.commands.length ≤ MAX_COMMANDS ∧ value.released.length ≤ MAX_TOMBSTONES)
    "Command outbox capacity is exceeded."
  require (value.commands.map (·.commandId)).Nodup "Command outbox contains duplicate command ids."
  require (value.commands.map (·.idempotencyKey)).Nodup "Command outbox contains duplicate idempotency keys."
  require value.durableIds.Nodup "Command outbox contains duplicate durable identifiers."
  require (value.released.map (·.idempotencyKey)).Nodup "Command outbox contains duplicate released idempotency keys."
  require (∀ command ∈ value.commands,∀ tombstone ∈ value.released,
    tombstone.idempotencyKey ≠ command.idempotencyKey) "Active and released commands overlap."
  value.commands.forM validateCommand
  value.released.forM validateTombstone

def optionalStringElement : Option JsString → JsonElement
  | none => .null
  | some s => .string s

def optionalLongElement : Option ℤ → JsonElement
  | none => .null
  | some n => .long n

def encodeError (value : PublicCommandError) : JsonObject :=
  [("code",.string value.code),("message",.string value.message),("retryable",.bool value.retryable)]

def encodeCompletion (value : CommandCompletion) : JsonObject :=
  [("commandId",.string value.commandId),("outcome",.string value.outcome.wireName),
    ("sessionId",optionalStringElement value.sessionId),("result",value.result.getD .null),
    ("error",(value.error.map fun error => JsonElement.object (encodeError error)).getD .null)]

def encodeCommand (value : PersistedCommand) : JsonObject :=
  [("operationId",.string value.operationId),("commandId",.string value.commandId),
    ("retiredCommandIds",.array (value.retiredCommandIds.map JsonElement.string)),
    ("idempotencyKey",.string value.idempotencyKey),("requestFingerprint",.string value.requestFingerprint),
    ("state",.string value.state.wireName),("submittedAt",.long value.submittedAt),
    ("updatedAt",.long value.updatedAt),("sessionId",optionalStringElement value.sessionId),
    ("projectId",optionalStringElement value.projectId),("createdAt",optionalLongElement value.createdAt),
    ("matrixEventId",optionalStringElement value.matrixEventId),("cancelRequested",.bool value.cancelRequested),
    ("completion",(value.completion.map fun completion => JsonElement.object (encodeCompletion completion)).getD .null),
    ("payload",.object value.payload)]

def encodeTombstone (value : ReleasedCommandTombstone) : JsonObject :=
  [("operationId",.string value.operationId),("commandId",.string value.commandId),
    ("retiredCommandIds",.array (value.retiredCommandIds.map JsonElement.string)),
    ("idempotencyKey",.string value.idempotencyKey),("requestFingerprint",.string value.requestFingerprint),
    ("releasedAt",.long value.releasedAt)]

def encodeSnapshot (value : CommandOutboxSnapshot) : JsonElement :=
  .object [("schemaVersion",.long EVENT_STREAM_SCHEMA_VERSION),
    ("commands",.array (value.commands.map fun command => .object (encodeCommand command))),
    ("released",.array (value.released.map fun tombstone => .object (encodeTombstone tombstone)))]

def encode (value : CommandOutboxSnapshot) : Except OutboxError (List Char) := do
  validateSnapshot value
  let encoded := (encodeSnapshot value).print
  require (utf8Length encoded ≤ MAX_PLAINTEXT_BYTES) "Command outbox is too large."
  .ok encoded

def parseToJsonElement (text : List Char) : Except OutboxError JsonElement :=
  match JsonElement.parse text with
  | none => .error .serialization
  | some element => .ok element

def jsonObject : JsonElement → Except OutboxError JsonObject
  | .object entries => .ok entries
  | _ => .error (.illegalArgument "Element is not a JsonObject")

def jsonArray : JsonElement → Except OutboxError (List JsonElement)
  | .array items => .ok items
  | _ => .error (.illegalArgument "Element is not a JsonArray")

def jsonPrimitive (e : JsonElement) : Except OutboxError JsonElement :=
  if e.isPrimitive then .ok e else .error (.illegalArgument "Element is not a JsonPrimitive")

/-- `contentOrNull` of a primitive that `isString`. -/
def stringContent : JsonElement → Option JsString
  | .string content => some content
  | _ => none

def tokenContent : JsonElement → Option (List Char)
  | .token content => some content
  | _ => none

namespace JsonObject

def requireExactKeys (value : JsonObject) (expected : List JsString) : Except OutboxError Unit :=
  require ((∀ key ∈ value.map Prod.fst,key ∈ expected) ∧ ∀ key ∈ expected,key ∈ value.map Prod.fst)
    "Command outbox object fields are invalid."

def getValue (value : JsonObject) (name : JsString) : Except OutboxError JsonElement :=
  match value.get name with
  | none => .error .noSuchElement
  | some e => .ok e

def requiredArray (value : JsonObject) (name : JsString) : Except OutboxError (List JsonElement) :=
  match value.get name with
  | none | some .null => .error (.illegalArgument (name ++ (" is required." : JsString)))
  | some e => jsonArray e

def optionalObject (value : JsonObject) (name : JsString) : Except OutboxError (Option JsonObject) :=
  match value.get name with
  | none | some .null => .ok none
  | some e => (jsonObject e).map some

def requiredString (value : JsonObject) (name : JsString) (allowEmpty : Bool) : Except OutboxError JsString :=
  match value.get name with
  | none => .error (.illegalArgument (name ++ (" is required." : JsString)))
  | some e => do
    let primitive ← jsonPrimitive e
    match stringContent primitive with
    | none => .error (.illegalArgument (name ++ (" is required." : JsString)))
    | some content =>
      require (content.length ≤ 4096 ∧ (allowEmpty ∨ content.isBlank = false))
        (name ++ (" is required." : JsString))
      .ok content

def optionalString (value : JsonObject) (name : JsString) : Except OutboxError (Option JsString) :=
  match value.get name with
  | none => .error (.illegalArgument (name ++ (" is required." : JsString)))
  | some .null => .ok none
  | some e => do
    let primitive ← jsonPrimitive e
    match stringContent primitive with
    | none => .error (.illegalArgument (name ++ (" is invalid." : JsString)))
    | some content =>
      require (content.length ≤ 4096) (name ++ (" is invalid." : JsString))
      .ok (some content)

section Numbers

variable (longOrNull : List Char → Option ℤ)

def requiredLong (value : JsonObject) (name : JsString) : Except OutboxError ℤ :=
  match value.get name with
  | none => .error (.illegalArgument (name ++ (" is required." : JsString)))
  | some e => do
    let primitive ← jsonPrimitive e
    require (stringContent primitive = none) (name ++ (" is invalid." : JsString))
    match (tokenContent primitive).bind longOrNull with
    | none => .error (.illegalArgument (name ++ (" is required." : JsString)))
    | some n => .ok n

def optionalLong (value : JsonObject) (name : JsString) : Except OutboxError (Option ℤ) :=
  match value.get name with
  | none => .error (.illegalArgument (name ++ (" is required." : JsString)))
  | some .null => .ok none
  | some e => do
    let primitive ← jsonPrimitive e
    require (stringContent primitive = none) (name ++ (" is invalid." : JsString))
    match (tokenContent primitive).bind longOrNull with
    | none => .error (.illegalArgument (name ++ (" is invalid." : JsString)))
    | some n => .ok (some n)

end Numbers

/-- `booleanOrNull`, which takes a string for its content and ignores the case. -/
def booleanOrNull (e : JsonElement) : Option Bool :=
  e.contentOrNull.bind fun content =>
    let lower := content.units.map fun u => if 65 ≤ u.toNat ∧ u.toNat ≤ 90 then u + 32 else u
    if lower = ("true" : JsString).units then some true
    else if lower = ("false" : JsString).units then some false
    else none

def requiredBoolean (value : JsonObject) (name : JsString) : Except OutboxError Bool :=
  match value.get name with
  | none => .error (.illegalArgument (name ++ (" is required." : JsString)))
  | some e => do
    let primitive ← jsonPrimitive e
    match booleanOrNull primitive with
    | none => .error (.illegalArgument (name ++ (" is required." : JsString)))
    | some b => .ok b

end JsonObject

open JsonObject

/-- `jsonPrimitive.requiredStringValue()` of the items of an array. -/
def requiredStringValue (e : JsonElement) : Except OutboxError JsString := do
  let primitive ← jsonPrimitive e
  match stringContent primitive with
  | none => .error (.illegalArgument "Array string value is invalid.")
  | some content =>
    require (content.isBlank = false ∧ content.length ≤ 4096) "Array string value is invalid."
    .ok content

/-- `?.let(decode)`. -/
def decodeOptional {α : Type} (decode : JsonObject → Except OutboxError α) :
    Option JsonObject → Except OutboxError (Option α)
  | none => .ok none
  | some value => (decode value).map some

def decodeError (value : JsonObject) : Except OutboxError PublicCommandError := do
  value.requireExactKeys ["code","message","retryable"]
  let code ← value.requiredString "code" false
  let message ← value.requiredString "message" true
  let retryable ← value.requiredBoolean "retryable"
  publicCommandError code message retryable

/-- Keys that a schema adds to a record. -/
def keysIf (c : Prop) [Decidable c] (keys : List JsString) : List JsString := if c then keys else []

def completionKeys : List JsString := ["commandId","outcome","sessionId","result","error"]

def decodeCompletion (value : JsonObject) (schemaVersion : ℤ) : Except OutboxError CommandCompletion := do
  value.requireExactKeys
    (completionKeys ++ keysIf (schemaVersion < EVENT_STREAM_SCHEMA_VERSION) ["sequence","revision"])
  let commandId ← value.requiredString "commandId" false
  let outcomeName ← value.requiredString "outcome" false
  let outcome ← CommandOutcome.fromWireName outcomeName
  let sessionId ← value.optionalString "sessionId"
  let result ← value.getValue "result"
  let errorObject ← value.optionalObject "error"
  let error ← decodeOptional decodeError errorObject
  commandCompletion commandId outcome sessionId (if result = .null then none else some result) error

section Records

variable (longOrNull : List Char → Option ℤ)

def commandKeys : List JsString :=
  ["operationId","commandId","retiredCommandIds","idempotencyKey","requestFingerprint","state","submittedAt",
    "updatedAt","sessionId","projectId","createdAt","matrixEventId","cancelRequested","completion","payload"]

def legacyCommandKeys : List JsString :=
  ["operationId","commandId","retiredCommandIds","idempotencyKey","requestFingerprint","state","submittedAt",
    "updatedAt","sessionId","sequence","baseRevision","revision","cancelRequested","completion",
    "expectedRevision","payload"]

def decodeCommand (value : JsonObject) (schemaVersion : ℤ) : Except OutboxError PersistedCommand := do
  let current := decide (schemaVersion = EVENT_STREAM_SCHEMA_VERSION)
  value.requireExactKeys <|
    if current then commandKeys
    else legacyCommandKeys ++ keysIf (2 ≤ schemaVersion) ["authenticationIssuedAt","authenticationNonce"] ++
      keysIf (4 ≤ schemaVersion) ["revisionEpoch","revisionEpochGeneration"] ++
      keysIf (5 ≤ schemaVersion) ["projectId"]
  let operationId ← value.requiredString "operationId" false
  let commandId ← value.requiredString "commandId" false
  let retired ← value.requiredArray "retiredCommandIds"
  let retiredCommandIds ← retired.mapM requiredStringValue
  let idempotencyKey ← value.requiredString "idempotencyKey" false
  let requestFingerprint ← value.requiredString "requestFingerprint" false
  let stateName ← value.requiredString "state" false
  let state ← CommandState.fromWireName stateName
  let submittedAt ← value.requiredLong longOrNull "submittedAt"
  let updatedAt ← value.requiredLong longOrNull "updatedAt"
  let sessionId ← value.optionalString "sessionId"
  let projectId ← if 5 ≤ schemaVersion then value.optionalString "projectId" else .ok none
  let createdAt ←
    if current then value.optionalLong longOrNull "createdAt"
    else if 2 ≤ schemaVersion then value.optionalLong longOrNull "authenticationIssuedAt" else .ok none
  let matrixEventId ← if current then value.optionalString "matrixEventId" else .ok none
  let cancelRequested ← value.requiredBoolean "cancelRequested"
  let completionObject ← value.optionalObject "completion"
  let completion ← decodeOptional (decodeCompletion · schemaVersion) completionObject
  let payloadElement ← value.getValue "payload"
  let payload ← jsonObject payloadElement
  .ok { operationId, commandId, retiredCommandIds, idempotencyKey, requestFingerprint, state, submittedAt, updatedAt,
        sessionId, projectId, createdAt, matrixEventId, cancelRequested, completion, payload }

def tombstoneKeys : List JsString := ["operationId","commandId","idempotencyKey","requestFingerprint","releasedAt"]

def decodeTombstone (value : JsonObject) (schemaVersion : ℤ) : Except OutboxError ReleasedCommandTombstone := do
  value.requireExactKeys (tombstoneKeys ++ keysIf (3 ≤ schemaVersion) ["retiredCommandIds"])
  let operationId ← value.requiredString "operationId" false
  let commandId ← value.requiredString "commandId" false
  let retired ← if 3 ≤ schemaVersion then value.requiredArray "retiredCommandIds" else .ok []
  let retiredCommandIds ← retired.mapM requiredStringValue
  let idempotencyKey ← value.requiredString "idempotencyKey" false
  let requestFingerprint ← value.requiredString "requestFingerprint" false
  let releasedAt ← value.requiredLong longOrNull "releasedAt"
  .ok { operationId, commandId, retiredCommandIds, idempotencyKey, requestFingerprint, releasedAt }

structure DecodedCommandOutbox where
  snapshot : CommandOutboxSnapshot
  migration : Option CommandOutboxMigration

/-- Before the third schema a command could be sent without keeping its signed time. -/
def isQuarantined (schemaVersion : ℤ) (command : PersistedCommand) : Bool :=
  schemaVersion < 3 && command.state ≠ .queued && command.createdAt = none

def rootKeys : List JsString := ["schemaVersion","commands","released"]

def legacyRootKeys : List JsString := ["schemaVersion","lastAcknowledgedSequence","lastRevision","commands","released"]

def decodeForStorage (text : List Char) : Except OutboxError DecodedCommandOutbox := do
  require (utf8Length text ≤ MAX_PLAINTEXT_BYTES) "Command outbox is too large."
  let element ← parseToJsonElement text
  let root ← jsonObject element
  let schemaVersion ← root.requiredLong longOrNull "schemaVersion"
  require (1 ≤ schemaVersion ∧ schemaVersion ≤ EVENT_STREAM_SCHEMA_VERSION) "Command outbox schema is unsupported."
  root.requireExactKeys <|
    if schemaVersion = EVENT_STREAM_SCHEMA_VERSION then rootKeys
    else legacyRootKeys ++ keysIf (4 ≤ schemaVersion) ["revisionEpoch","revisionEpochGeneration"]
  let commandElements ← root.requiredArray "commands"
  require (commandElements.length ≤ MAX_COMMANDS) "Command outbox contains too many commands."
  let commands ← commandElements.mapM fun e => do decodeCommand longOrNull (← jsonObject e) schemaVersion
  let releasedElements ← root.requiredArray "released"
  require (releasedElements.length ≤ MAX_TOMBSTONES) "Command outbox contains too many tombstones."
  let released ← releasedElements.mapM fun e => do decodeTombstone longOrNull (← jsonObject e) schemaVersion
  let quarantined := commands.filter (isQuarantined schemaVersion)
  require (released.length + quarantined.length ≤ MAX_TOMBSTONES)
    "Command outbox cannot safely quarantine legacy commands."
  let quarantinedIds := quarantined.map (·.commandId)
  let snapshot : CommandOutboxSnapshot := {
    commands := commands.filter fun command => command.commandId ∉ quarantinedIds
    released := released ++ quarantined.map fun command => command.toReleasedTombstone command.updatedAt }
  validateSnapshot snapshot
  .ok {
    snapshot
    migration := if schemaVersion = EVENT_STREAM_SCHEMA_VERSION then none
      else some ⟨schemaVersion,quarantined.length⟩ }

def decode (text : List Char) : Except OutboxError CommandOutboxSnapshot :=
  (decodeForStorage longOrNull text).map (·.snapshot)

end Records

end Malink.Native.Commands
