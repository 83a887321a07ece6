import Malink.ProjectionRestore

/-!
# The MLP/3 client

The client as one machine: its store, its projection, its calls, transmissions, promises and the worker that drains
its inbox. A step runs from one `await` to the next.
-/

namespace Malink.Client

open Malink.Mlp3

inductive OutboxStatus
  | pending
  | completed
  deriving DecidableEq

/-- `MatrixMlp3OutboxRecord` -/
structure OutboxRecord where
  command : Command
  content : Json
  transactionId : JsString
  status : OutboxStatus
  matrixEventId : Option JsString
  completion : Option CommandCompletion
  deriving DecidableEq

/-- `MatrixMlp3RawEvent` -/
structure RawEvent where
  roomId : JsString
  eventId : JsString
  timestamp : ℕ
  content : Json
  deriving DecidableEq

inductive InboxStatus
  | pending
  | projected
  | quarantined
  deriving DecidableEq

/-- `MatrixMlp3InboxRecord` -/
structure InboxRecord where
  raw : RawEvent
  status : InboxStatus
  error : Option JsString
  deriving DecidableEq

/-- `MatrixMlp3ClientStore` -/
structure Store where
  outbox : InsertionMap JsString OutboxRecord
  inbox : InsertionMap JsString InboxRecord
  projectionState : Option ProjectionState
  deriving DecidableEq

def Store.empty : Store := ⟨.empty,.empty,none⟩

def Store.putOutbox (store : Store) (record : OutboxRecord) : Store :=
  { store with outbox := store.outbox.set record.command.commandId record }

def Store.deleteOutbox (store : Store) (commandId : JsString) : Store :=
  { store with outbox := store.outbox.delete commandId }

def Store.updateInbox (store : Store) (eventId : JsString) (status : InboxStatus)
    (error : Option JsString) : Option Store :=
  (store.inbox.get eventId).map fun record =>
    { store with inbox := store.inbox.set eventId { record with status, error := error.filter JsString.truthy } }

def Store.deleteInbox (store : Store) (eventId : JsString) : Store :=
  { store with inbox := store.inbox.delete eventId }

def Store.pendingInbox (store : Store) : List InboxRecord :=
  store.inbox.values.filter (·.status = .pending)

def Store.pendingOutbox (store : Store) : List OutboxRecord :=
  store.outbox.values.filter (·.status = .pending)

structure ProjectKey where
  keyId : JsString
  key : JsString
  deriving DecidableEq

/-- `Mlp3ProjectKeyGrantPlaintext` -/
structure ProjectKeyGrant where
  activeKeyId : JsString
  keys : List ProjectKey
  deriving DecidableEq

inductive Plaintext
  | signedCommand (command : Command) (signature : Json)
  | signedEvent (event : Event) (signature : Json)
  deriving DecidableEq

structure OpenedEnvelope where
  logicalEventId : JsString
  plaintext : Plaintext
  deriving DecidableEq

inductive CommandVerification
  | valid
  | bindingMismatch (message : JsString)
  | invalid (message : JsString)
  deriving DecidableEq

/-- The configuration and identity of a client, and the security library as the host runs it. -/
structure ClientHost extends Host where
  schemas : Schemas
  workspaceId : JsString
  projectId : JsString
  roomId : JsString
  /-- The key of the device, which is its ID. -/
  keyId : JsString
  certificateId : JsString
  gatewayKeyId : JsString
  /-- `openMlp3Envelope`, with the error that it throws. -/
  openMlp3Envelope : ProjectKey → Json → Except JsString OpenedEnvelope
  verifyMlp3Command : Command → Json → CommandVerification
  verifyMlp3Event : Event → Json → Except JsString Unit
  verifyWorkspaceGatewayDirectory : Json → Except JsString Unit

/-- What a raw event brings to the projection. -/
inductive RawOutcome
  /-- Not of this protocol, or nothing that is verified here. -/
  | passed
  | command (command : Command)
  | event (event : Event) (threadRootHint : Option JsString)
  | failed (message : JsString)
  deriving DecidableEq

def matrixExtension : JsString := "io.malink"

/-- The envelope of the extension, if the content has one of this version. -/
def envelopeOf (content : Json) : Option Json :=
  (content.field matrixExtension).bind fun extension =>
    if extension.field "version" = some (.num 3) then (extension.field "envelope").filter (· ≠ .null)
    else none

def envelopeKeyId (envelope : Json) : JsString :=
  match envelope.field "keyId" with
  | some (.str keyId) => keyId
  | _ => ""

def threadRootHint (content : Json) : Option JsString :=
  (content.field "m.relates_to").bind fun relation =>
    if relation.field "rel_type" = some (.str "m.thread") then
      match relation.field "event_id" with
      | some (.str eventId) => some eventId
      | _ => none
    else none

def keyForEnvelope (grant : Option ProjectKeyGrant) (envelope : Json) : Except JsString ProjectKey :=
  let keyId := envelopeKeyId envelope
  match grant.bind fun grant => grant.keys.find? (·.keyId = keyId) with
  | some key => .ok key
  | none => .error ("MLP/3 project key " ++ (if keyId.truthy then keyId else "<missing>") ++
      " is unavailable.")

variable (host : ClientHost)

/-- A command of this device. One that an older certificate signed is history. -/
def openCommand (logicalEventId : JsString) (command : Command) (signature : Json) : RawOutcome :=
  if command.deviceId ≠ host.keyId then .passed
  else if logicalEventId ≠ command.commandId then
    .failed "The MLP/3 command envelope logical ID is invalid."
  else match host.verifyMlp3Command command signature with
    | .valid => .command command
    | .bindingMismatch message =>
      if command.workspaceId = host.workspaceId ∧ command.projectId = some host.projectId ∧
          command.certificateId ≠ host.certificateId then .passed
      else .failed message
    | .invalid message => .failed message

/-- What a workspace snapshot has to prove beside its signature. -/
def verifySnapshot : EventPayload → Except JsString Unit
  | .workspaceSnapshot payload =>
    if payload.gatewayKeyId ≠ host.gatewayKeyId then
      .error "The MLP/3 workspace capability snapshot names another Gateway key."
    else match payload.gatewayDirectory with
      | some directory => host.verifyWorkspaceGatewayDirectory directory
      | none => .ok ()
  | _ => .ok ()

def openEvent (logicalEventId : JsString) (event : Event) (signature : Json)
    (threadRootHint : Option JsString) : RawOutcome :=
  match (host.verifyMlp3Event event signature).bind fun _ => verifySnapshot host event.payload with
  | .error message => .failed message
  | .ok () =>
    if logicalEventId ≠ event.eventId then .failed "The MLP/3 event envelope logical ID is invalid."
    else .event event threadRootHint

/-- The part of `projectRaw` before it touches the projection, under the keys that it reads. -/
def openRaw (grant : Option ProjectKeyGrant) (raw : RawEvent) : RawOutcome :=
  match envelopeOf raw.content with
  | none => .passed
  | some envelope =>
    match (keyForEnvelope grant envelope).bind fun key => host.openMlp3Envelope key envelope with
    | .error message => .failed message
    | .ok opened =>
      match opened.plaintext with
      | .signedCommand command signature => openCommand host opened.logicalEventId command signature
      | .signedEvent event signature =>
        openEvent host opened.logicalEventId event signature (threadRootHint raw.content)

/-- Where a transmission of a command stands. -/
inductive TransmitPhase
  /-- The Matrix send has not answered. -/
  | sending
  /-- The record is to be written with the event ID of the answer. -/
  | storing (eventId : JsString)
  | stored (eventId : JsString)
  | saving
  deriving DecidableEq

/-- `transmit`, with the copy of the record that it was given. -/
structure Transmit where
  id : ℕ
  record : OutboxRecord
  phase : TransmitPhase
  deriving DecidableEq

/-- Where a promise of `observeCompletion` stands. -/
inductive ObserverPhase
  | reading
  /-- The store has answered with the completion of the record, if it has one. -/
  | found (completion : Option CommandCompletion)
  | waiting
  | resolved (completion : CommandCompletion)
  deriving DecidableEq

structure Observer where
  id : ℕ
  commandId : JsString
  phase : ObserverPhase
  deriving DecidableEq

inductive CallPhase
  /-- `sendCommand` after the record was stored. -/
  | sent (record : OutboxRecord)
  /-- `recover` after the record was read. -/
  | recovered (record : OutboxRecord)
  | retrying (records : List OutboxRecord)
  /-- `release` after the record was read, and while it deletes it. -/
  | releasing (record : OutboxRecord)
  | deleting (commandId : JsString)
  /-- `ingest` of an event that the inbox holds already. -/
  | present (raw : RawEvent)
  | looking (raw : RawEvent)
  | looked (raw : RawEvent) (status : Option InboxStatus)
  | marking (raw : RawEvent)
  /-- `ingest` before it drains the inbox. -/
  | ingested
  deriving DecidableEq

structure Call where
  id : ℕ
  phase : CallPhase
  deriving DecidableEq

/-- A completion that `recordCompletion` stores and hands to the waiters. -/
structure Recording where
  completion : CommandCompletion
  commandId : JsString
  changed : Bool
  raw : RawEvent
  rest : List InboxRecord
  deriving DecidableEq

/-- Where the drain of the inbox stands. -/
inductive Worker
  | idle
  | draining (records : List InboxRecord)
  | opened (raw : RawEvent) (outcome : RawOutcome) (rest : List InboxRecord)
  | reading (recording : Recording)
  | completing (recording : Recording) (record : OutboxRecord)
  | settled (recording : Recording)
  | persisting (raw : RawEvent) (rest : List InboxRecord)
  | deleting (raw : RawEvent) (rest : List InboxRecord)
  | quarantining (raw : RawEvent) (message : JsString) (rest : List InboxRecord)
  deriving DecidableEq

/-- Who waits for a save of the projection. -/
inductive Saver
  | worker
  | transmit (id : ℕ)
  deriving DecidableEq

structure State where
  store : Store
  projection : Projection
  keyGrant : Option ProjectKeyGrant
  retriedQuarantinedEventIds : List JsString
  /-- The observers that wait for the completion of a command. -/
  waiters : InsertionMap JsString (List ℕ)
  observers : List Observer
  transmits : List Transmit
  calls : List Call
  /-- The drains that were asked for and have not started. -/
  drains : ℕ
  worker : Worker
  /-- `projectionSaveChain`, and the state that its first save writes. -/
  saves : List Saver
  saving : Option ProjectionState
  nextId : ℕ
  /-- The identifiers of the commands sent so far; `crypto.randomUUID` gives none of them again. -/
  sentCommandIds : List JsString
  deriving DecidableEq

/-- A client that has initialized over a store. A state that cannot be restored is discarded. -/
def State.started (store : Store) (sentCommandIds : List JsString) : State :=
  let restored := store.projectionState.bind fun state => (restore host.schemas host.toHost state).toOption
  { store := if restored.isSome then store
      else { store with inbox := .empty, projectionState := none }
    projection := restored.getD .empty
    keyGrant := none
    retriedQuarantinedEventIds := []
    waiters := .empty
    observers := []
    transmits := []
    calls := []
    drains := 0
    worker := .idle
    saves := []
    saving := none
    nextId := 0
    sentCommandIds }

inductive Action
  | acceptKeyGrant (grant : ProjectKeyGrant)
  /-- `sendCommand` of a signed command under its sealed content. -/
  | sendCommand (command : Command) (content : Json)
  | recover (commandId : JsString)
  | retryPending
  | release (commandId : JsString)
  | observeCompletion (commandId : JsString)
  | ingest (raw : RawEvent)
  | drainInbox
  /-- A call goes on; whether the write it makes succeeds. -/
  | resume (id : ℕ) (ok : Bool)
  | observe (id : ℕ)
  | transmit (id : ℕ) (ok : Bool)
  /-- The Matrix send of a transmission answers or fails. -/
  | respond (id : ℕ) (eventId : Option JsString)
  /-- The worker goes on; whether the write it makes succeeds. -/
  | work (ok : Bool)
  | beginSave
  | endSave (ok : Bool)
  | restart
  deriving DecidableEq

namespace State

def addCall (s : State) (phase : CallPhase) : State :=
  { s with calls := s.calls ++ [⟨s.nextId,phase⟩], nextId := s.nextId + 1 }

def setCall (s : State) (id : ℕ) (phase : CallPhase) : State :=
  { s with calls := s.calls.map fun call => if call.id = id then { call with phase } else call }

def endCall (s : State) (id : ℕ) : State :=
  { s with calls := s.calls.filter fun call => call.id ≠ id }

def addTransmit (s : State) (t : Transmit) : State :=
  { s with transmits := s.transmits ++ [t], nextId := s.nextId + 1 }

def setTransmit (s : State) (id : ℕ) (phase : TransmitPhase) : State :=
  { s with transmits := s.transmits.map fun t => if t.id = id then { t with phase } else t }

def endTransmit (s : State) (id : ℕ) : State :=
  { s with transmits := s.transmits.filter fun t => t.id ≠ id }

def addObserver (s : State) (commandId : JsString) : State :=
  { s with observers := s.observers ++ [⟨s.nextId,commandId,.reading⟩], nextId := s.nextId + 1 }

def setObserver (s : State) (id : ℕ) (phase : ObserverPhase) : State :=
  { s with observers := s.observers.map fun o => if o.id = id then { o with phase } else o }

/-- A projection that has changed is saved before its caller goes on. -/
def persist (s : State) (saver : Saver) : State := { s with saves := s.saves ++ [saver] }

/-- The end of `transmit`: the command reaches the projection. -/
def project (s : State) (t : Transmit) (eventId : JsString) : State :=
  let applied := s.projection.applyCommand t.record.command eventId t.record.command.createdAt
  let s := { s with projection := applied.1 }
  if applied.2 then (s.setTransmit t.id .saving).persist (.transmit t.id) else s.endTransmit t.id

/-- `transmit` up to its first `await`: a record that was acknowledged is not sent again. -/
def startTransmit (s : State) (record : OutboxRecord) : State :=
  let t : Transmit := ⟨s.nextId,record,.sending⟩
  match record.matrixEventId with
  | some eventId => (s.addTransmit t).project t eventId
  | none => s.addTransmit t

def stepTransmit (s : State) (t : Transmit) (ok : Bool) : Option State :=
  match t.phase with
  | .sending => none
  | .storing eventId =>
    if ok then
      some ({ s with store := s.store.putOutbox { t.record with matrixEventId := some eventId } }.setTransmit
        t.id (.stored eventId))
    else some (s.endTransmit t.id)
  | .stored eventId => some (s.project t eventId)
  | .saving => none

def respond (s : State) (t : Transmit) (eventId : Option JsString) : Option State :=
  if t.phase ≠ .sending then none
  else match eventId with
    | some eventId => some (s.setTransmit t.id (.storing eventId))
    | none => some (s.endTransmit t.id)

def stepObserver (s : State) (o : Observer) : Option State :=
  match o.phase with
  | .reading =>
    some (s.setObserver o.id (.found ((s.store.outbox.get o.commandId).bind (·.completion))))
  | .found (some completion) => some (s.setObserver o.id (.resolved completion))
  | .found none =>
    some { s.setObserver o.id .waiting with
      waiters := s.waiters.set o.commandId ((s.waiters.get o.commandId).getD [] ++ [o.id]) }
  | .waiting => none
  | .resolved _ => none

/-- `recordCompletion` hands the completion to the observers that wait. -/
def resolveWaiters (s : State) (commandId : JsString) (completion : CommandCompletion) : State :=
  let waiting := (s.waiters.get commandId).getD []
  { s with
    waiters := s.waiters.delete commandId
    observers := s.observers.map fun o =>
      if o.id ∈ waiting then { o with phase := .resolved completion } else o }

def transactionId (commandId : JsString) : JsString := "malink.v3.command." ++ commandId

def outboxRecord (command : Command) (content : Json) : OutboxRecord where
  command := command
  content := content
  transactionId := transactionId command.commandId
  status := .pending
  matrixEventId := none
  completion := none

def activeProjectKey (grant : Option ProjectKeyGrant) : Option ProjectKey :=
  grant.bind fun grant => grant.keys.find? (·.keyId = grant.activeKeyId)

/-- `sendCommand` up to the write of the record. Without the active key of the project it fails. -/
def sendCommand (s : State) (command : Command) (content : Json) : Option State :=
  if command.commandId ∈ s.sentCommandIds then none
  else if (activeProjectKey s.keyGrant).isNone then some s
  else
    let record := outboxRecord command content
    some ({ s with
      store := s.store.putOutbox record
      sentCommandIds := s.sentCommandIds ++ [command.commandId] }.addCall (.sent record))

def recover (s : State) (commandId : JsString) : State :=
  match s.store.outbox.get commandId with
  | none => s
  | some record => s.addCall (.recovered record)

def release (s : State) (commandId : JsString) : State :=
  match s.store.outbox.get commandId with
  | none => s
  | some record => s.addCall (.releasing record)

def ingest (s : State) (raw : RawEvent) : State :=
  if raw.roomId ≠ host.roomId then s
  else if s.store.inbox.has raw.eventId then s.addCall (.present raw)
  else
    let record : InboxRecord := { raw, status := .pending, error := none }
    { s with store := { s.store with inbox := s.store.inbox.set raw.eventId record } }.addCall .ingested

/-- `recover` once the record is read: a completed command is not sent again. -/
def resumeRecovered (s : State) (record : OutboxRecord) : State :=
  if record.completion.isSome then s
  else
    let s := s.addObserver record.command.commandId
    if record.matrixEventId.isSome then s else s.startTransmit record

def resumeCall (s : State) (id : ℕ) (phase : CallPhase) (ok : Bool) : State :=
  match phase with
  | .sent record => ((s.endCall id).addObserver record.command.commandId).startTransmit record
  | .recovered record => (s.endCall id).resumeRecovered record
  | .retrying records => records.foldl startTransmit (s.endCall id)
  | .releasing record =>
    if record.status ≠ .completed then s.endCall id
    else { s with waiters := s.waiters.delete record.command.commandId }.setCall id
      (.deleting record.command.commandId)
  | .deleting commandId =>
    if ok then { s with store := s.store.deleteOutbox commandId }.endCall id else s.endCall id
  | .present raw =>
    if raw.eventId ∈ s.retriedQuarantinedEventIds then s.endCall id else s.setCall id (.looking raw)
  | .looking raw => s.setCall id (.looked raw ((s.store.inbox.get raw.eventId).map (·.status)))
  | .looked raw status =>
    if status ≠ some .quarantined ∨ raw.eventId ∈ s.retriedQuarantinedEventIds then s.endCall id
    else { s with retriedQuarantinedEventIds := s.retriedQuarantinedEventIds ++ [raw.eventId] }.setCall id
      (.marking raw)
  | .marking raw =>
    match s.store.updateInbox raw.eventId .pending none with
    | some store => if ok then { s with store }.setCall id .ingested else s.endCall id
    | none => s.endCall id
  | .ingested => { s with drains := s.drains + 1 }.endCall id

/-- After the projection was touched: a change is saved, then the record goes. -/
def finishItem (s : State) (changed : Bool) (raw : RawEvent) (rest : List InboxRecord) : State :=
  if changed then { s with worker := .persisting raw rest }.persist .worker
  else { s with worker := .deleting raw rest }

/-- `applyEvent`, and the start of `recordCompletion`. -/
def projectEvent (s : State) (event : Event) (threadRootHint : Option JsString) (raw : RawEvent)
    (rest : List InboxRecord) : State :=
  match Projection.applyEvent host.toHost s.projection event raw.eventId threadRootHint with
  | .error error => { s with worker := .quarantining raw error.message rest }
  | .ok (projection,changed) =>
    let s := { s with projection }
    match event.causationCommandId.bind fun commandId =>
        (projection.completions.get commandId).map (commandId,·) with
    | some (commandId,completion) =>
      { s with worker := .reading { completion, commandId, changed, raw, rest } }
    | none => s.finishItem changed raw rest

def projectOutcome (s : State) (outcome : RawOutcome) (raw : RawEvent) (rest : List InboxRecord) : State :=
  match outcome with
  | .passed => s.finishItem false raw rest
  | .failed message => { s with worker := .quarantining raw message rest }
  | .command command =>
    let applied := s.projection.applyCommand command raw.eventId raw.timestamp
    { s with projection := applied.1 }.finishItem applied.2 raw rest
  | .event event threadRootHint => s.projectEvent host event threadRootHint raw rest

def writeFailed : JsString := "IndexedDB transaction failed."

def stepWorker (s : State) (ok : Bool) : Option State :=
  match s.worker with
  | .idle =>
    if s.drains = 0 then none
    else some { s with drains := s.drains - 1, worker := .draining s.store.pendingInbox }
  | .draining [] => some { s with worker := .idle }
  | .draining (record :: rest) =>
    some { s with worker := .opened record.raw (openRaw host s.keyGrant record.raw) rest }
  | .opened raw outcome rest => some (s.projectOutcome host outcome raw rest)
  | .reading recording =>
    match s.store.outbox.get recording.commandId with
    | some record =>
      let record := { record with status := .completed, completion := some recording.completion }
      some { s with worker := .completing recording record }
    | none => some { s with worker := .settled recording }
  | .completing recording record =>
    if ok then some { s with store := s.store.putOutbox record, worker := .settled recording }
    else some { s with worker := .quarantining recording.raw writeFailed recording.rest }
  | .settled recording =>
    some ((s.resolveWaiters recording.commandId recording.completion).finishItem recording.changed
      recording.raw recording.rest)
  | .persisting _ _ => none
  | .deleting raw rest =>
    if ok then some { s with store := s.store.deleteInbox raw.eventId, worker := .draining rest }
    else some { s with worker := .quarantining raw writeFailed rest }
  | .quarantining raw message rest =>
    match s.store.updateInbox raw.eventId .quarantined (some message) with
    | some store => if ok then some { s with store, worker := .draining rest } else some { s with worker := .idle }
    | none => some { s with worker := .idle }

def beginSave (s : State) : Option State :=
  if s.saves = [] ∨ s.saving.isSome then none
  else some { s with saving := some s.projection.durableState }

/-- What the one who asked for a save does once it has ended. -/
def resumeSaver (s : State) (saver : Saver) (ok : Bool) : State :=
  match saver with
  | .transmit id => s.endTransmit id
  | .worker =>
    match s.worker with
    | .persisting raw rest =>
      if ok then { s with worker := .deleting raw rest }
      else { s with worker := .quarantining raw writeFailed rest }
    | _ => s

def endSave (s : State) (ok : Bool) : Option State :=
  match s.saves, s.saving with
  | saver :: saves, some state =>
    let store := if ok then { s.store with projectionState := some state } else s.store
    some ({ s with store, saves, saving := none }.resumeSaver saver ok)
  | _, _ => none

def step (s : State) : Action → Option State
  | .acceptKeyGrant grant => some { s with keyGrant := some grant }
  | .sendCommand command content => s.sendCommand command content
  | .recover commandId => some (s.recover commandId)
  | .retryPending => some (s.addCall (.retrying s.store.pendingOutbox))
  | .release commandId => some (s.release commandId)
  | .observeCompletion commandId => some (s.addObserver commandId)
  | .ingest raw => some (s.ingest host raw)
  | .drainInbox => some { s with drains := s.drains + 1 }
  | .resume id ok => (s.calls.find? (·.id = id)).map fun call => s.resumeCall id call.phase ok
  | .observe id => (s.observers.find? (·.id = id)).bind s.stepObserver
  | .transmit id ok => (s.transmits.find? (·.id = id)).bind fun t => s.stepTransmit t ok
  | .respond id eventId => (s.transmits.find? (·.id = id)).bind fun t => s.respond t eventId
  | .work ok => s.stepWorker host ok
  | .beginSave => s.beginSave
  | .endSave ok => s.endSave ok
  | .restart => some (started host s.store s.sentCommandIds)

def run (s : State) : List Action → Option State
  | [] => some s
  | action :: actions => (s.step host action).bind fun s' => s'.run actions

end State

end Malink.Client
