import Malink.CommandOutboxRoundTrip

/-!
# The durable command outbox

The operations over the snapshot in memory, and the device that holds the file. Each saves at most one snapshot, and
takes it into memory when the save returns.
-/

namespace Malink.Native.Commands

/-- The JSON library's numbers, the payload validator and the digest. Each payload of the validator takes its session
ID from the field of that name. -/
structure Platform where
  longOrNull : List Char → Option ℤ
  readsDecimals : ReadsDecimals longOrNull
  validate : JsonObject → Except OutboxError ValidatedCommandPayload
  validate_sessionId : ∀ payload validated id, validate payload = .ok validated → validated.sessionId = some id →
    payload.get "sessionId" = some (.string id)
  sha256Hex : List Char → JsString

mutual
def canonicalize : JsonElement → JsonElement
  | .object entries => .object ((canonicalizeEntries entries).insertionSort fun a b => a.1 ≤ b.1)
  | .array items => .array (canonicalizeItems items)
  | .null => .null
  | .token content => .token content
  | .string content => .string content

def canonicalizeItems : List JsonElement → List JsonElement
  | [] => []
  | item :: items => canonicalize item :: canonicalizeItems items

def canonicalizeEntries : List (JsString × JsonElement) → List (JsString × JsonElement)
  | [] => []
  | (key,value) :: entries => (key,canonicalize value) :: canonicalizeEntries entries
end

def requestFingerprint (platform : Platform) (payload : JsonObject) (sessionId projectId : Option JsString) :
    JsString :=
  platform.sha256Hex (JsonElement.object [("payload",canonicalize (.object payload)),
    ("sessionId",optionalStringElement sessionId),("projectId",optionalStringElement projectId)]).print

inductive Reply where
  | receipt (receipt : CommandReceipt)
  | transmission (transmission : Option CommandTransmission)
  | view (view : Option CommandView)
  | recorded (changed : Bool)
  | opened (retiredGatewayStatusProbeIds : List JsString)
  | cleared
  deriving DecidableEq

/-- What an operation answers, and the snapshot it commits before that. -/
inductive Plan where
  | keep (reply : Reply)
  | commit (next : CommandOutboxSnapshot) (reply : Reply)

def GATEWAY_STATUS_PROBE_REUSE_WINDOW_MS : ℤ := 2 * 60000

def filterChecked {α : Type} (p : α → Except OutboxError Bool) : List α → Except OutboxError (List α)
  | [] => .ok []
  | a :: as => do
    let keep ← p a
    let rest ← filterChecked p as
    .ok (if keep then a :: rest else rest)

/-- `maxByOrNull(submittedAt)`, the first of the latest. -/
def latestSubmitted : List PersistedCommand → Option PersistedCommand
  | [] => none
  | command :: commands => match latestSubmitted commands with
    | none => some command
    | some later => if command.submittedAt < later.submittedAt then some later else some command

def gatewayStatusProbeCanBeReused (submittedAt now : ℤ) : Except OutboxError Bool := do
  requireNonnegativeJsonInteger submittedAt "Gateway status probe submitted timestamp"
  requireNonnegativeJsonInteger now "Gateway status probe current timestamp"
  .ok (decide (now < submittedAt ∨ now - submittedAt ≤ GATEWAY_STATUS_PROBE_REUSE_WINDOW_MS))

/-- The clock's reading, refused outside the safe range. -/
def nonnegativeNow (now : ℤ) : Except OutboxError Unit := requireNonnegativeJsonInteger now "Command clock timestamp"

def monotonicNow (now previous : ℤ) : Except OutboxError ℤ := do
  nonnegativeNow now
  .ok (max now previous)

namespace CommandOutboxSnapshot

def findCurrent (snapshot : CommandOutboxSnapshot) (commandId : JsString) : Option PersistedCommand :=
  snapshot.commands.find? fun command => command.commandId = commandId

/-- `replaceAndCommit`. -/
def replace (snapshot : CommandOutboxSnapshot) (before after : PersistedCommand) : CommandOutboxSnapshot :=
  { snapshot with commands := snapshot.commands.map fun command => if command = before then after else command }

/-- The commands move to the ledger of released identities. -/
def retire (snapshot : CommandOutboxSnapshot) (commands : List PersistedCommand) (releasedAt : ℤ) :
    CommandOutboxSnapshot where
  commands := snapshot.commands.filter fun command => command ∉ commands
  released := snapshot.released ++ commands.map fun command => command.toReleasedTombstone releasedAt

def newUniqueId (snapshot : CommandOutboxSnapshot) (candidate field : JsString) (additionallyForbidden : List JsString) :
    Except OutboxError Unit := do
  requireOpaqueId candidate field
  require (candidate ∉ additionallyForbidden ∧ candidate ∉ snapshot.durableIds)
    (field ++ (" collides with an existing durable identifier." : JsString))

end CommandOutboxSnapshot

def sameElement : Option JsonElement → Option JsonElement → Bool
  | none, none => true
  | some a, some b => a.same b
  | _, _ => false

section Operations

variable (platform : Platform) (snapshot : CommandOutboxSnapshot) (now : ℤ)

/-- The unfinished observations that ask the same thing of the same project. -/
def statusProbes (payload : JsonObject) (projectId : Option JsString) : Except OutboxError (List PersistedCommand) :=
  filterChecked (fun candidate =>
    if candidate.state.isTerminal = false ∧ candidate.projectId = projectId ∧
        sameElement (candidate.payload.get "includeExecutionTracks") (payload.get "includeExecutionTracks") ∧
        sameElement (candidate.payload.get "includeOperationCapabilities")
          (payload.get "includeOperationCapabilities") then do
      let validated ← platform.validate candidate.payload
      .ok validated.operation.isGatewayStatusProbe
    else .ok false) snapshot.commands

def reusableProbe (operation : CommandOperation) (probes : List PersistedCommand) :
    Except OutboxError (Option PersistedCommand) := do
  let matching ← filterChecked (fun candidate => do
    let validated ← platform.validate candidate.payload
    .ok (decide (validated.operation = operation))) probes
  let recent ← filterChecked (fun candidate => gatewayStatusProbeCanBeReused candidate.submittedAt now) matching
  .ok (latestSubmitted recent)

def ledgerFull : JsString :=
  "The released-command safety ledger is full; revoke this native account before clearing it."

/-- A new command, and the observations that it supersedes. -/
def admitCommand (idempotencyKey fingerprint : JsString) (payload : JsonObject) (sessionId projectId : Option JsString)
    (operationId commandId : JsString) (expired : List PersistedCommand) : Except OutboxError Plan := do
  require (snapshot.released.length + expired.length ≤ MAX_TOMBSTONES) ledgerFull
  require (snapshot.commands.length < MAX_COMMANDS + expired.length)
    "Release completed commands before adding another command."
  snapshot.newUniqueId operationId "operationId" []
  snapshot.newUniqueId commandId "commandId" [operationId]
  let command : PersistedCommand := {
    operationId, commandId
    retiredCommandIds := []
    idempotencyKey
    requestFingerprint := fingerprint
    state := .queued
    submittedAt := now
    updatedAt := now
    sessionId, projectId
    createdAt := none
    matrixEventId := none
    cancelRequested := false
    completion := none
    payload }
  let retired := snapshot.retire expired now
  .ok (.commit { retired with commands := retired.commands ++ [command] } (.receipt command.toView.toReceipt))

/-- A liveness check is answered by the one that is under way. -/
def reuseProbe (reusable : PersistedCommand) (expired : List PersistedCommand) : Except OutboxError Plan := do
  require (snapshot.released.length + expired.length ≤ MAX_TOMBSTONES) ledgerFull
  let receipt := Reply.receipt reusable.toView.toReceipt
  .ok (if expired = [] then .keep receipt else .commit (snapshot.retire expired now) receipt)

def enqueueNew (idempotencyKey fingerprint : JsString) (payload : JsonObject) (validated : ValidatedCommandPayload)
    (projectId : Option JsString) (operationId commandId : JsString) : Except OutboxError Plan := do
  nonnegativeNow now
  let add := admitCommand snapshot now idempotencyKey fingerprint payload validated.sessionId projectId operationId
    commandId
  if validated.operation.isGatewayStatusProbe then
    let probes ← statusProbes platform snapshot payload projectId
    let reusable ← reusableProbe platform now validated.operation probes
    match reusable with
    | some reusable => reuseProbe snapshot now reusable (probes.erase reusable)
    | none => add probes
  else add []

def enqueue (idempotencyKey : JsString) (payload : JsonObject) (sessionId projectId : Option JsString)
    (operationId commandId : JsString) : Except OutboxError Plan := do
  requireUuid idempotencyKey
  checkPresent (requireOpaqueId · "sessionId") sessionId
  checkPresent (requireOpaqueId · "projectId") projectId
  let validated ← platform.validate payload
  require (sessionId = none ∨ sessionId = validated.sessionId) "The command session id does not match its payload."
  let fingerprint := requestFingerprint platform payload validated.sessionId projectId
  match snapshot.commands.find? fun command => command.idempotencyKey = idempotencyKey with
  | some existing =>
    if existing.requestFingerprint = fingerprint then .ok (.keep (.receipt existing.toView.toReceipt))
    else .error (.idempotencyConflict "The idempotency key is already associated with a different command.")
  | none => match snapshot.released.find? fun tombstone => tombstone.idempotencyKey = idempotencyKey with
    | some released =>
      if released.requestFingerprint = fingerprint then
        .error (.releasedCommand (("Command " : JsString) ++ released.commandId ++
          (" was already completed and released; it will not be executed again." : JsString)))
      else .error (.idempotencyConflict "The released idempotency key belongs to a different command.")
    | none =>
      enqueueNew platform snapshot now idempotencyKey fingerprint payload validated projectId operationId commandId

def claimForTransmission (commandId : JsString) : Except OutboxError Plan :=
  match snapshot.findCurrent commandId with
  | none => .ok (.keep (.transmission none))
  | some command =>
    if command.state ≠ .queued then .ok (.keep (.transmission none))
    else do
      let updatedAt ← monotonicNow now command.updatedAt
      let next : PersistedCommand := { command with
        state := .transmitting
        updatedAt := updatedAt
        createdAt := some (command.createdAt.getD updatedAt) }
      let transmission ← next.toTransmission false
      .ok (.commit (snapshot.replace command next) (.transmission (some transmission)))

def claimRecovery (commandId : JsString) : Except OutboxError Plan :=
  match snapshot.findCurrent commandId with
  | none => .ok (.keep (.transmission none))
  | some command =>
    if command.state ≠ .recoveryRequired then .ok (.keep (.transmission none))
    else do
      let updatedAt ← monotonicNow now command.updatedAt
      require (command.createdAt ≠ none) "Recoverable command creation time is missing."
      let next : PersistedCommand := { command with state := .transmitting, updatedAt := updatedAt }
      let transmission ← next.toTransmission true
      .ok (.commit (snapshot.replace command next) (.transmission (some transmission)))

def markTransmissionUncertain (commandId : JsString) : Except OutboxError Plan :=
  match snapshot.findCurrent commandId with
  | none => .ok (.keep (.view none))
  | some command =>
    if command.state ≠ .transmitting then .ok (.keep (.view (some command.toView)))
    else do
      let updatedAt ← monotonicNow now command.updatedAt
      let next : PersistedCommand := { command with state := .recoveryRequired, updatedAt := updatedAt }
      .ok (.commit (snapshot.replace command next) (.view (some next.toView)))

def recordPublished (commandId matrixEventId : JsString) : Except OutboxError Plan := do
  requireOpaqueId matrixEventId "matrixEventId"
  match snapshot.findCurrent commandId with
  | none => .ok (.keep (.recorded false))
  | some command =>
    if command.state.isTerminal then .ok (.keep (.recorded false))
    else if command.matrixEventId ≠ none ∧ command.matrixEventId ≠ some matrixEventId then
      .error (.illegalState "A command was published under a different Matrix event id.")
    else do
      let updatedAt ← monotonicNow now command.updatedAt
      let next : PersistedCommand := { command with
        state := if command.state = .running then .running else .published
        updatedAt := updatedAt
        matrixEventId := some matrixEventId }
      .ok (if next = command then .keep (.recorded false)
        else .commit (snapshot.replace command next) (.recorded true))

def recordProgress (commandId : JsString) (sessionId : Option JsString) : Except OutboxError Plan := do
  checkPresent (requireOpaqueId · "sessionId") sessionId
  match snapshot.findCurrent commandId with
  | none => .ok (.keep (.recorded false))
  | some command =>
    if command.state.isTerminal then .ok (.keep (.recorded false))
    else do
      let updatedAt ← monotonicNow now command.updatedAt
      let next : PersistedCommand := { command with
        state := .running
        updatedAt := updatedAt
        sessionId := sessionId.or command.sessionId }
      .ok (if next = command then .keep (.recorded false)
        else .commit (snapshot.replace command next) (.recorded true))

def terminalState : CommandOutcome → CommandState
  | .succeeded => .succeeded
  | .failed => .failed
  | .cancelled => .cancelled

def recordCompletion (completion : CommandCompletion) : Except OutboxError Plan :=
  match snapshot.findCurrent completion.commandId with
  | none => .ok (.keep (.recorded false))
  | some command => match command.completion with
    | some existing =>
      if existing.same completion then .ok (.keep (.recorded false))
      else .error (.illegalState "A different terminal result is already stored for this command.")
    | none => do
      let updatedAt ← monotonicNow now command.updatedAt
      let next : PersistedCommand := { command with
        state := terminalState completion.outcome
        updatedAt := updatedAt
        sessionId := completion.sessionId.or command.sessionId
        completion := some completion }
      .ok (.commit (snapshot.replace command next) (.recorded true))

def markCancelRequested (commandId : JsString) : Except OutboxError Plan :=
  match snapshot.findCurrent commandId with
  | none => .ok (.keep (.view none))
  | some command =>
    if command.state.isTerminal ∨ command.cancelRequested then .ok (.keep (.view (some command.toView)))
    else do
      let updatedAt ← monotonicNow now command.updatedAt
      let next : PersistedCommand := { command with cancelRequested := true, updatedAt := updatedAt }
      .ok (.commit (snapshot.replace command next) (.view (some next.toView)))

def retireCommand (command : PersistedCommand) : Except OutboxError Plan := do
  require (snapshot.released.length < MAX_TOMBSTONES) ledgerFull
  nonnegativeNow now
  .ok (.commit ⟨snapshot.commands.erase command,snapshot.released ++ [command.toReleasedTombstone now]⟩
    (.recorded true))

def release (commandId : JsString) : Except OutboxError Plan :=
  match snapshot.findCurrent commandId with
  | none => .ok (.keep (.recorded false))
  | some command => do
    let validated ← platform.validate command.payload
    require (command.state.isTerminal ∨ validated.operation.isGatewayStatusProbe)
      "Only completed commands and read-only Gateway status probes can be released."
    retireCommand snapshot now command

def retireUnavailableProjectCommand (commandId : JsString) : Except OutboxError Plan :=
  match snapshot.findCurrent commandId with
  | none => .ok (.keep (.recorded false))
  | some command => do
    require (command.state.isTerminal = false) "Completed commands must use normal release."
    require (command.projectId ≠ none) "Only a project-scoped command can be retired after route removal."
    retireCommand snapshot now command

def retireUnverifiedCommand (commandId : JsString) : Except OutboxError Plan :=
  match snapshot.findCurrent commandId with
  | none => .ok (.keep (.recorded false))
  | some command => retireCommand snapshot now command

end Operations

inductive Request where
  | enqueue (idempotencyKey : JsString) (payload : JsonObject) (sessionId projectId : Option JsString)
    (operationId commandId : JsString)
  | claimForTransmission (commandId : JsString)
  | claimRecovery (commandId : JsString)
  | markTransmissionUncertain (commandId : JsString)
  | recordPublished (commandId matrixEventId : JsString)
  | recordProgress (commandId : JsString) (sessionId : Option JsString)
  | recordCompletion (completion : CommandCompletion)
  | markCancelRequested (commandId : JsString)
  | release (commandId : JsString)
  | retireUnavailableProjectCommand (commandId : JsString)
  | retireUnverifiedCommand (commandId : JsString)

def plan (platform : Platform) (snapshot : CommandOutboxSnapshot) (now : ℤ) : Request → Except OutboxError Plan
  | .enqueue idempotencyKey payload sessionId projectId operationId commandId =>
    enqueue platform snapshot now idempotencyKey payload sessionId projectId operationId commandId
  | .claimForTransmission commandId => claimForTransmission snapshot now commandId
  | .claimRecovery commandId => claimRecovery snapshot now commandId
  | .markTransmissionUncertain commandId => markTransmissionUncertain snapshot now commandId
  | .recordPublished commandId matrixEventId => recordPublished snapshot now commandId matrixEventId
  | .recordProgress commandId sessionId => recordProgress snapshot now commandId sessionId
  | .recordCompletion completion => recordCompletion snapshot now completion
  | .markCancelRequested commandId => markCancelRequested snapshot now commandId
  | .release commandId => release platform snapshot now commandId
  | .retireUnavailableProjectCommand commandId => retireUnavailableProjectCommand snapshot now commandId
  | .retireUnverifiedCommand commandId => retireUnverifiedCommand snapshot now commandId

/-- The file, and the snapshot in the memory of a process that has opened it. -/
structure Device where
  file : Option (List Char)
  memory : Option CommandOutboxSnapshot

/-- How replacing or deleting the file ends: a failure leaves it as it was. -/
inductive Write where
  | done
  | failed
  | killed (written : Bool)

inductive Outcome where
  | returned (reply : Reply)
  | threw (error : OutboxError)
  | killed
  | absent
  deriving DecidableEq

/-- `store.save(next)`, and `next` in memory once it has returned. -/
def commit (device : Device) (write : Write) (next : CommandOutboxSnapshot) (reply : Reply) : Device × Outcome :=
  match encode next with
  | .error error => (device,.threw error)
  | .ok text => match write with
    | .done => (⟨some text,some next⟩,.returned reply)
    | .failed => (device,.threw .io)
    | .killed true => (⟨some text,none⟩,.killed)
    | .killed false => (⟨device.file,none⟩,.killed)

def perform (device : Device) (write : Write) : Except OutboxError Plan → Device × Outcome
  | .error error => (device,.threw error)
  | .ok (.keep reply) => (device,.returned reply)
  | .ok (.commit next reply) => commit device write next reply

/-- A transmission whose result was lost with the process must be recovered. -/
def recoverCommand (now : ℤ) (command : PersistedCommand) : Except OutboxError PersistedCommand :=
  if command.state = .transmitting then do
    let updatedAt ← monotonicNow now command.updatedAt
    .ok { command with state := .recoveryRequired, updatedAt := updatedAt }
  else .ok command

def recoverCommands (clock : ℕ → ℤ) : ℕ → List PersistedCommand → Except OutboxError (List PersistedCommand)
  | _, [] => .ok []
  | i, command :: commands => do
    let recovered ← recoverCommand (clock i) command
    let rest ← recoverCommands clock (i + 1) commands
    .ok (recovered :: rest)

def isUnfinishedStatusProbe (command : PersistedCommand) : Bool :=
  !command.state.isTerminal &&
    (command.payload.get "operation" = some (.string CommandOperation.gatewayUpdateStatus.wireName) ||
      command.payload.get "operation" = some (.string CommandOperation.gatewayDeploymentStatus.wireName) ||
      command.payload.get "operation" = some (.string CommandOperation.gatewayRestartStatus.wireName))

/-- The snapshot in memory after `init`, and the observations that were retired. -/
def recover (clock : ℕ → ℤ) (loaded : CommandOutboxSnapshot) :
    Except OutboxError (CommandOutboxSnapshot × List PersistedCommand) := do
  let recoveredCommands ← recoverCommands clock 0 loaded.commands
  let probes := (recoveredCommands.filter isUnfinishedStatusProbe).take (MAX_TOMBSTONES - loaded.released.length)
  let retiredIds := probes.map (·.commandId)
  let releasedAt := clock loaded.commands.length
  checkPresent (fun _ => nonnegativeNow releasedAt) probes.head?
  .ok (⟨recoveredCommands.filter fun command => command.commandId ∉ retiredIds,
    loaded.released ++ probes.map fun command => command.toReleasedTombstone (max releasedAt command.updatedAt)⟩,probes)

/-- `init` after `store.load()`. -/
def openLoaded (clock : ℕ → ℤ) (device : Device) (write : Write) (loaded : CommandOutboxSnapshot) : Device × Outcome :=
  match recover clock loaded with
  | .error error => (⟨device.file,none⟩,.threw error)
  | .ok (recovered,probes) =>
    let reply := Reply.opened (probes.map (·.commandId))
    if recovered = loaded then (⟨device.file,some recovered⟩,.returned reply)
    else commit ⟨device.file,none⟩ write recovered reply

/-- The constructor, in a new process. An older file is replaced before it is used. -/
def start (platform : Platform) (clock : ℕ → ℤ) (writes : ℕ → Write) (device : Device) : Device × Outcome :=
  match device.file with
  | none => openLoaded clock device (writes 1) .empty
  | some text => match decodeForStorage platform.longOrNull text with
    | .error error => (⟨device.file,none⟩,.threw error)
    | .ok decoded => match decoded.migration with
      | none => openLoaded clock device (writes 1) decoded.snapshot
      | some _ => match commit ⟨device.file,none⟩ (writes 0) decoded.snapshot .cleared with
        | (saved,.returned _) => openLoaded clock saved (writes 1) decoded.snapshot
        | (saved,outcome) => (saved,outcome)

def clearOutbox (device : Device) : Write → Device × Outcome
  | .done => (⟨none,some .empty⟩,.returned .cleared)
  | .failed => (device,.threw .io)
  | .killed true => (⟨none,none⟩,.killed)
  | .killed false => (⟨device.file,none⟩,.killed)

inductive Action where
  | start (clock : ℕ → ℤ) (writes : ℕ → Write)
  | call (request : Request) (now : ℤ) (write : Write)
  | clear (write : Write)
  | kill

def Device.step (platform : Platform) (device : Device) : Action → Device × Outcome
  | .start clock writes => Commands.start platform clock writes device
  | .call request now write => match device.memory with
    | none => (device,.absent)
    | some snapshot => perform device write (plan platform snapshot now request)
  | .clear write => match device.memory with
    | none => (device,.absent)
    | some _ => clearOutbox device write
  | .kill => (⟨device.file,none⟩,.killed)

def Device.run (platform : Platform) (device : Device) (actions : List Action) : Device :=
  actions.foldl (fun device action => (device.step platform action).1) device

def Device.outcomes (platform : Platform) : Device → List Action → List Outcome
  | _, [] => []
  | device, action :: actions =>
    (device.step platform action).2 :: Device.outcomes platform (device.step platform action).1 actions

end Malink.Native.Commands
