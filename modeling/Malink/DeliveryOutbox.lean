import Malink.InsertionMaps
import Malink.JsonText

/-!
# The delivery outbox

The outbox hands messages to a channel. Sends and edits of the control lane and of the normal lane wait for each other,
and progressive edits of one key are merged while they wait.
-/

namespace Malink.Delivery

inductive DeliveryStatus
  | pending
  | queued
  | sent
  | edited
  | failed
  | skipped
  deriving DecidableEq

inductive DeliveryLane
  | control
  | normal
  | progressiveEdit
  deriving DecidableEq

inductive SkippedReason
  | missingMessageId
  | coalesced
  | rateLimited
  deriving DecidableEq

inductive MessageId
  | text (id : JsString)
  | number (id : ℤ)
  deriving DecidableEq

/-- `String(messageId)` -/
def MessageId.toText : MessageId → JsString
  | text id => id
  | number id => JsString.ofChars (Json.stringifyInt id)

/-- A message, which the outbox only hands on. -/
structure ChannelMessage where
  text : JsString
  deriving DecidableEq

/-- What an operation throws: a `DeliveryTimeoutError` or a `ChannelDeliveryQueuedError`, which may come with a
confirmation, or another error, as far as the outbox looks at it. -/
inductive DeliveryError
  | deferred (confirmation : Bool)
  | rejected (message : JsString) (retryAfterMs : Option ℕ) (network : Bool)
  deriving DecidableEq

structure DeliveryOptions where
  lane : Option DeliveryLane
  coalesceKey : Option JsString
  terminal : Bool
  finalSnapshot : Bool
  retryOf : Option ℕ
  deriving DecidableEq

/-- What a late confirmation does: a sent message may resolve the failure of the delivery that it retries. -/
inductive Confirmation
  | sent (original : Option ℕ)
  | edited
  deriving DecidableEq

def Confirmation.status : Confirmation → DeliveryStatus
  | sent _ => .sent
  | edited => .edited

/-- A delivery, which is named by its place in the list of records. `settled` says that its promise has resolved, and
`confirmation` that a late confirmation is awaited. -/
structure DeliveryRecord where
  status : DeliveryStatus
  message : ChannelMessage
  messageId : Option MessageId
  error : Option DeliveryError
  lane : Option DeliveryLane
  coalesceKey : Option JsString
  terminal : Bool
  finalSnapshot : Bool
  retryOf : Option ℕ
  resolvedBy : Option ℕ
  skippedReason : Option SkippedReason
  settled : Bool
  confirmation : Option Confirmation
  deriving DecidableEq

/-- `createRecord`, which leaves out an empty key. -/
def createRecord (message : ChannelMessage) (options : DeliveryOptions) : DeliveryRecord where
  status := .pending
  message := message
  messageId := none
  error := none
  lane := options.lane
  coalesceKey := options.coalesceKey.filter JsString.truthy
  terminal := options.terminal
  finalSnapshot := options.finalSnapshot
  retryOf := options.retryOf
  resolvedBy := none
  skippedReason := none
  settled := false
  confirmation := none

namespace DeliveryRecord

def succeed (status : DeliveryStatus) (record : DeliveryRecord) : DeliveryRecord := { record with status := status }

def fail (error : DeliveryError) (record : DeliveryRecord) : DeliveryRecord :=
  { record with status := .failed, error := some error }

def skip (reason : SkippedReason) (record : DeliveryRecord) : DeliveryRecord :=
  { record with status := .skipped, skippedReason := some reason }

def settle (record : DeliveryRecord) : DeliveryRecord := { record with settled := true }

/-- `deferTimedOutDelivery`, or what is done where the error is not a deferred one. -/
def catchError (success : Confirmation) (otherwise : DeliveryRecord → DeliveryRecord) (error : DeliveryError)
    (record : DeliveryRecord) : DeliveryRecord :=
  match error with
  | .deferred confirmation =>
    { record with
      status := .queued
      error := some error
      confirmation := if confirmation then some success else none }
  | .rejected _ _ _ => otherwise record

end DeliveryRecord

structure DeliveryOutboxConfig where
  /-- Whether the channel has an `edit`. -/
  canEdit : Bool
  maxRateLimitRetries : ℕ
  maxRateLimitDelayMs : ℕ
  maxNetworkRetries : ℕ
  progressiveEditDebounceMs : ℕ

inductive PortCall
  | send (message : ChannelMessage) (terminal finalSnapshot : Bool)
  | edit (messageId : MessageId) (message : ChannelMessage) (terminal progressive finalSnapshot : Bool)
  deriving DecidableEq

/-- Where `withRateLimitRetry` is: a call of the channel is under way, or the next one waits for its delay. -/
structure Attempt where
  call : PortCall
  attempt : ℕ
  networkAttempts : ℕ
  resting : Bool
  deriving DecidableEq

def Attempt.first (call : PortCall) : Attempt := ⟨call,0,0,false⟩

/-- What follows an error: the delay before another attempt, or nothing where the error is thrown. -/
def Attempt.afterError (config : DeliveryOutboxConfig) (attempt : Attempt) : DeliveryError → Option Attempt
  | .deferred _ => none
  | .rejected _ retryAfterMs network =>
    if retryAfterMs.isNone ∨ attempt.attempt ≥ config.maxRateLimitRetries then
      if retryAfterMs.isNone ∧ network ∧ attempt.networkAttempts < config.maxNetworkRetries then
        some { attempt with
          attempt := attempt.attempt + 1
          networkAttempts := attempt.networkAttempts + 1
          resting := true }
      else none
    else some { attempt with attempt := attempt.attempt + 1, resting := true }

/-- How a call of the channel ends, and for a send what the callback that is told of it throws. -/
inductive Outcome
  | resolved (messageId : Option MessageId) (thrown : Option DeliveryError)
  | rejected (error : DeliveryError)
  deriving DecidableEq

inductive Operation
  | send
  | edit (messageId : MessageId) (fallbackToSend : Bool)
  | editDeferred (fallbackToSend : Bool)
  deriving DecidableEq

inductive Phase
  | waiting
  | direct (attempt : Attempt)
  | fallback (attempt : Attempt)
  | ended
  deriving DecidableEq

structure Job where
  record : ℕ
  operation : Operation
  phase : Phase
  deriving DecidableEq

/-- The deliveries of a promise chain that have not come to their end, and the counter of the lane. -/
structure Lane where
  jobs : List Job
  pending : ℤ
  deriving DecidableEq

def sendCall (record : DeliveryRecord) : PortCall := .send record.message record.terminal record.finalSnapshot

def editCall (messageId : MessageId) (record : DeliveryRecord) : PortCall :=
  .edit messageId record.message record.terminal false record.finalSnapshot

/-- A retry that was sent resolves the failure of the original delivery. -/
def resolveOriginal (id : ℕ) (retryOf : Option ℕ) (records : List DeliveryRecord) : List DeliveryRecord :=
  match retryOf with
  | none => records
  | some original => records.modify original fun record =>
      if record.status = .failed then { record with resolvedBy := some id } else record

/-- An operation begins. What `resolveMessageId` returns or throws counts for a deferred edit. -/
def Job.start (config : DeliveryOutboxConfig) (resolved : Except DeliveryError (Option MessageId)) (job : Job)
    (record : DeliveryRecord) (records : List DeliveryRecord) : List DeliveryRecord × Phase :=
  match job.operation with
  | .send => (records,.direct (.first (sendCall record)))
  | .edit messageId _ => (records,.direct (.first (editCall messageId record)))
  | .editDeferred fallbackToSend =>
    match resolved with
    | .error error => (records.modify job.record (.fail error),.ended)
    | .ok messageId =>
      match if config.canEdit then messageId else none with
      | none =>
        if fallbackToSend then (records,.fallback (.first (sendCall record)))
        else (records.modify job.record (.skip .missingMessageId),.ended)
      | some messageId =>
        (records.modify job.record fun record => { record with messageId := some messageId },
          .direct (.first (editCall messageId record)))

/-- What an operation does with an error that is not tried again. -/
def Job.catchError (error : DeliveryError) (job : Job) (record : DeliveryRecord) (records : List DeliveryRecord) :
    List DeliveryRecord × Phase :=
  match job.operation, error with
  | .send, error => (records.modify job.record (.catchError (.sent record.retryOf) (.fail error) error),.ended)
  | .edit _ true, .rejected _ _ _ | .editDeferred true, .rejected _ _ _ =>
    (records,.fallback (.first (sendCall record)))
  | .edit _ _, error | .editDeferred _, error =>
    (records.modify job.record (.catchError .edited (.fail error) error),.ended)

def Job.settle (config : DeliveryOutboxConfig) (outcome : Outcome) (job : Job) (record : DeliveryRecord)
    (records : List DeliveryRecord) : Option (List DeliveryRecord × Phase) :=
  match job.phase with
  | .direct attempt =>
    if attempt.resting then none
    else match outcome with
      | .rejected error =>
        match attempt.afterError config error with
        | some attempt => some (records,.direct attempt)
        | none => some (job.catchError error record records)
      | .resolved messageId thrown =>
        match job.operation with
        | .send =>
          let sent := resolveOriginal job.record record.retryOf
            (records.modify job.record fun record => { record with status := .sent, messageId := messageId })
          match thrown with
          | none => some (sent,.ended)
          | some error => some (job.catchError error record sent)
        | .edit _ _ | .editDeferred _ => some (records.modify job.record (.succeed .edited),.ended)
  | .fallback attempt =>
    if attempt.resting then none
    else match outcome with
      | .rejected error =>
        match attempt.afterError config error with
        | some attempt => some (records,.fallback attempt)
        | none => some (records.modify job.record (.catchError (.sent none) (.fail error) error),.ended)
      | .resolved messageId _ =>
        some (records.modify job.record fun record =>
          { record with status := .sent, messageId := messageId, error := none },.ended)
  | .waiting | .ended => none

/-- The delay before an attempt ends. -/
def Job.rest (job : Job) : Option Phase :=
  match job.phase with
  | .direct attempt => if attempt.resting then some (.direct { attempt with resting := false }) else none
  | .fallback attempt => if attempt.resting then some (.fallback { attempt with resting := false }) else none
  | .waiting | .ended => none

/-- `ProgressiveEditTask`, with the flags of its record. -/
structure ProgressiveEditTask where
  key : JsString
  record : ℕ
  messageId : MessageId
  message : ChannelMessage
  terminal : Bool
  finalSnapshot : Bool
  fallbackToSend : Bool
  attempts : ℕ
  deriving DecidableEq

def ProgressiveEditTask.again (task : ProgressiveEditTask) : ProgressiveEditTask :=
  { task with attempts := task.attempts + 1 }

/-- Where `runProgressiveEditLoop` is. -/
inductive EditLoop
  | idle
  | debouncing
  /-- The debounce has ended, and whether a terminal edit cut it short. -/
  | woken (terminalWake : Bool)
  /-- The delay until the rate limit is over. -/
  | blocked (terminalWake : Bool)
  | editing (task : ProgressiveEditTask) (rest : List ProgressiveEditTask)
  | sendingFallback (task : ProgressiveEditTask) (attempt : Attempt) (rest : List ProgressiveEditTask)
  | closing
  deriving DecidableEq

/-- What was enqueued, what the channel was asked, and what it has accepted, in order. -/
structure EditHistory where
  enqueued : List ProgressiveEditTask
  attempted : List ℕ
  applied : List ℕ
  deriving DecidableEq

structure DeliveryOutbox where
  now : ℕ
  records : List DeliveryRecord
  control : Lane
  normal : Lane
  progressiveEdits : InsertionMap JsString ProgressiveEditTask
  progressiveEditLoop : EditLoop
  progressiveEditBlockedUntil : ℕ
  history : EditHistory
  deriving DecidableEq

namespace DeliveryOutbox

def fresh : DeliveryOutbox := ⟨0,[],⟨[],0⟩,⟨[],0⟩,.empty,.idle,0,⟨[],[],[]⟩⟩

variable (config : DeliveryOutboxConfig) (outbox : DeliveryOutbox)

/-- The loop asks the channel for the first of the tasks. -/
def startEdit (task : ProgressiveEditTask) (rest : List ProgressiveEditTask) : DeliveryOutbox :=
  { outbox with
    progressiveEditLoop := .editing task rest
    history := { outbox.history with attempted := outbox.history.attempted ++ [task.record] } }

/-- After a wake by a terminal edit only the terminal edits are taken. -/
def tasksToTake (terminalWake : Bool) : List ProgressiveEditTask :=
  outbox.progressiveEdits.values.filter fun task => !terminalWake || task.terminal

def deleteTasks (edits : InsertionMap JsString ProgressiveEditTask) (tasks : List ProgressiveEditTask) :
    InsertionMap JsString ProgressiveEditTask :=
  tasks.foldl (fun edits task => edits.delete task.key) edits

/-- The loop takes tasks out of the map. Without any it starts again, which happens only after a terminal edit has cut
the debounce short and was replaced, so that there is an edit to wait for. -/
def takeTasks (terminalWake : Bool) : DeliveryOutbox :=
  match outbox.tasksToTake terminalWake with
  | [] => { outbox with progressiveEditLoop := if outbox.progressiveEdits.size = 0 then .closing else .debouncing }
  | task :: tasks =>
    { outbox with progressiveEdits := deleteTasks outbox.progressiveEdits (task :: tasks) }.startEdit task tasks

def afterDebounce (terminalWake : Bool) : DeliveryOutbox :=
  if outbox.progressiveEditBlockedUntil > outbox.now then { outbox with progressiveEditLoop := .blocked terminalWake }
  else outbox.takeTasks terminalWake

def loopHead : DeliveryOutbox :=
  if outbox.progressiveEdits.size = 0 then { outbox with progressiveEditLoop := .closing }
  else if (outbox.progressiveEdits.values.all (·.terminal)) = false ∧ config.progressiveEditDebounceMs > 0 then
    { outbox with progressiveEditLoop := .debouncing }
  else outbox.afterDebounce false

def ensureProgressiveEditLoop : DeliveryOutbox :=
  if outbox.progressiveEditLoop = .idle then outbox.loopHead config else outbox

def nextTask (rest : List ProgressiveEditTask) : DeliveryOutbox :=
  match rest with
  | [] => outbox.loopHead config
  | task :: rest => outbox.startEdit task rest

def updateRecord (id : ℕ) (change : DeliveryRecord → DeliveryRecord) : DeliveryOutbox :=
  { outbox with records := outbox.records.modify id change }

/-- A waiting edit gives way to a newer one, unless it is terminal. -/
def coalesce (key : JsString) : DeliveryOutbox :=
  match outbox.progressiveEdits.get key with
  | none => outbox
  | some existing =>
    if existing.terminal then outbox
    else outbox.updateRecord existing.record fun record => (record.skip .coalesced).settle

/-- `progressiveEditDebounceWake` -/
def wake : DeliveryOutbox :=
  if outbox.progressiveEditLoop = .debouncing then { outbox with progressiveEditLoop := .woken true } else outbox

def addRecord (record : DeliveryRecord) : DeliveryOutbox := { outbox with records := outbox.records ++ [record] }

def newTask (record : DeliveryRecord) (messageId : MessageId) (fallbackToSend : Bool) : ProgressiveEditTask where
  key := record.coalesceKey.getD messageId.toText
  record := outbox.records.length
  messageId := messageId
  message := record.message
  terminal := record.terminal
  finalSnapshot := record.finalSnapshot
  fallbackToSend := fallbackToSend
  attempts := 0

def setTask (task : ProgressiveEditTask) : DeliveryOutbox :=
  { outbox with
    progressiveEdits := outbox.progressiveEdits.set task.key task
    history := { outbox.history with enqueued := outbox.history.enqueued ++ [task] } }

def enqueueProgressiveEdit (record : DeliveryRecord) (messageId : MessageId) (fallbackToSend : Bool) : DeliveryOutbox :=
  let task := outbox.newTask record messageId fallbackToSend
  let waiting := ((outbox.addRecord record).coalesce task.key).setTask task
  (if task.terminal then waiting.wake else waiting).ensureProgressiveEditLoop config

def finishTask (task : ProgressiveEditTask) (rest : List ProgressiveEditTask)
    (change : DeliveryRecord → DeliveryRecord) : DeliveryOutbox :=
  (outbox.updateRecord task.record fun record => (change record).settle).nextTask config rest

/-- A rate limit blocks the loop. A terminal edit is tried again, and any other one is dropped. -/
def rateLimit (task : ProgressiveEditTask) (rest : List ProgressiveEditTask) (error : DeliveryError)
    (retryAfterMs : ℕ) : DeliveryOutbox :=
  let blocked : DeliveryOutbox :=
    { outbox with
      progressiveEditBlockedUntil :=
        max outbox.progressiveEditBlockedUntil (outbox.now + min retryAfterMs config.maxRateLimitDelayMs) }
  if task.terminal ∧ task.attempts < config.maxRateLimitRetries then
    { blocked with progressiveEdits := blocked.progressiveEdits.set task.key task.again }.nextTask config rest
  else blocked.finishTask config task rest fun record => { record.skip .rateLimited with error := some error }

def editSettles (task : ProgressiveEditTask) (rest : List ProgressiveEditTask) : Outcome → DeliveryOutbox
  | .resolved _ _ =>
    { outbox with history := { outbox.history with applied := outbox.history.applied ++ [task.record] } }.finishTask
      config
      task rest (.succeed .edited)
  | .rejected (.deferred confirmation) =>
    outbox.finishTask config task rest (.catchError .edited id (.deferred confirmation))
  | .rejected (.rejected message (some retryAfterMs) network) =>
    outbox.rateLimit config task rest (.rejected message (some retryAfterMs) network) retryAfterMs
  | .rejected (.rejected message none network) =>
    let error := DeliveryError.rejected message none network
    if task.fallbackToSend then
      { outbox.updateRecord task.record (.fail error) with
        progressiveEditLoop :=
          .sendingFallback task (.first (.send task.message task.terminal task.finalSnapshot)) rest }
    else outbox.finishTask config task rest (.fail error)

def fallbackSettles (task : ProgressiveEditTask) (attempt : Attempt) (rest : List ProgressiveEditTask) :
    Outcome → DeliveryOutbox
  | .resolved messageId _ =>
    outbox.finishTask config task rest fun record => { record with status := .sent, messageId := messageId }
  | .rejected error =>
    match attempt.afterError config error with
    | some attempt => { outbox with progressiveEditLoop := .sendingFallback task attempt rest }
    | none => outbox.finishTask config task rest (.catchError (.sent none) (.fail error) error)

inductive LaneName
  | control
  | normal
  deriving DecidableEq

def lane : LaneName → Lane
  | .control => outbox.control
  | .normal => outbox.normal

def setLane (lane : Lane) : LaneName → DeliveryOutbox
  | .control => { outbox with control := lane }
  | .normal => { outbox with normal := lane }

def laneName (lane : Option DeliveryLane) : LaneName := if lane = some .control then .control else .normal

def enqueueReliable (record : DeliveryRecord) (operation : Operation) : DeliveryOutbox :=
  let name := laneName record.lane
  let lane := outbox.lane name
  (outbox.addRecord record).setLane ⟨lane.jobs ++ [⟨outbox.records.length,operation,.waiting⟩],lane.pending + 1⟩ name

/-- `options.lane ?? 'normal'` -/
def withLane (options : DeliveryOptions) : DeliveryOptions := { options with lane := some (options.lane.getD .normal) }

def send (message : ChannelMessage) (options : DeliveryOptions) : DeliveryOutbox :=
  outbox.enqueueReliable (createRecord message (withLane options)) .send

def retry (deliveryId : ℕ) (options : DeliveryOptions) : DeliveryOutbox :=
  match outbox.records[deliveryId]? with
  | none => outbox
  | some original =>
    if original.status = .pending ∨ original.status = .queued then outbox
    else outbox.send original.message
      { lane := some (options.lane.getD (if original.lane = some .control then .control else .normal))
        coalesceKey := none
        terminal := false
        finalSnapshot := false
        retryOf := some deliveryId }

def edit (messageId : Option MessageId) (message : ChannelMessage) (fallbackToSend : Bool) (options : DeliveryOptions) :
    DeliveryOutbox :=
  match if config.canEdit then messageId else none with
  | none =>
    if fallbackToSend then outbox.send message options
    else outbox.addRecord (((createRecord message options).skip .missingMessageId).settle)
  | some messageId =>
    let record := { createRecord message (withLane options) with messageId := some messageId }
    if record.lane = some .progressiveEdit then outbox.enqueueProgressiveEdit config record messageId fallbackToSend
    else outbox.enqueueReliable record (.edit messageId fallbackToSend)

def editDeferred (message : ChannelMessage) (fallbackToSend : Bool) (options : DeliveryOptions) : DeliveryOutbox :=
  outbox.enqueueReliable (createRecord message (withLane options)) (.editDeferred fallbackToSend)

inductive DeliveryCall
  | send (message : ChannelMessage) (options : DeliveryOptions)
  | retry (deliveryId : ℕ) (options : DeliveryOptions)
  | edit (messageId : Option MessageId) (message : ChannelMessage) (fallbackToSend : Bool) (options : DeliveryOptions)
  | editDeferred (message : ChannelMessage) (fallbackToSend : Bool) (options : DeliveryOptions)
  deriving DecidableEq

/-- What happens: a call, a step of a lane or of the loop, a late confirmation, or the passing of time. -/
inductive Event
  | call (call : DeliveryCall)
  | starts (lane : LaneName) (resolved : Except DeliveryError (Option MessageId))
  | settles (lane : LaneName) (outcome : Outcome)
  | rested (lane : LaneName)
  | ends (lane : LaneName)
  | debounced
  | resumes
  | unblocked
  | editSettles (outcome : Outcome)
  | fallbackSettles (outcome : Outcome)
  | fallbackRested
  | closes
  | confirmed (deliveryId : ℕ) (outcome : Outcome)
  | passes (ms : ℕ)

def perform : DeliveryCall → DeliveryOutbox
  | .send message options => outbox.send message options
  | .retry deliveryId options => outbox.retry deliveryId options
  | .edit messageId message fallbackToSend options => outbox.edit config messageId message fallbackToSend options
  | .editDeferred message fallbackToSend options => outbox.editDeferred message fallbackToSend options

def stepHead (name : LaneName)
    (step : Job → DeliveryRecord → List DeliveryRecord → Option (List DeliveryRecord × Phase)) :
    Option DeliveryOutbox :=
  match (outbox.lane name).jobs with
  | [] => none
  | job :: jobs =>
    match outbox.records[job.record]? with
    | none => none
    | some record => (step job record outbox.records).map fun stepped =>
        { outbox with records := stepped.1 }.setLane
          { outbox.lane name with jobs := { job with phase := stepped.2 } :: jobs } name

/-- The counter of the lane goes down, and the promise of the delivery resolves. -/
def endHead (name : LaneName) : Option DeliveryOutbox :=
  match (outbox.lane name).jobs with
  | [] => none
  | job :: jobs =>
    if job.phase = .ended then
      some ((outbox.updateRecord job.record .settle).setLane ⟨jobs,(outbox.lane name).pending - 1⟩ name)
    else none

def confirmQueued (deliveryId : ℕ) (confirmation : Confirmation) : Outcome → DeliveryOutbox
  | .resolved messageId _ =>
    let confirmed := fun record : DeliveryRecord =>
      { record with status := confirmation.status, error := none, confirmation := none }
    match confirmation with
    | .sent original =>
      { outbox with
        records := resolveOriginal deliveryId original
          (outbox.records.modify deliveryId fun record => { confirmed record with messageId := messageId }) }
    | .edited =>
      { outbox.updateRecord deliveryId confirmed with
        history := { outbox.history with applied := outbox.history.applied ++
          if deliveryId ∈ outbox.history.enqueued.map (·.record) then [deliveryId] else [] } }
  | .rejected error => outbox.updateRecord deliveryId fun record =>
      match error with
      | .deferred later => { record with error := some error, confirmation := if later then some confirmation else none }
      | .rejected _ _ _ => { record with status := .failed, error := some error, confirmation := none }

/-- `observeLateConfirmation` -/
def confirm (deliveryId : ℕ) (outcome : Outcome) : Option DeliveryOutbox :=
  match outbox.records[deliveryId]? with
  | none => none
  | some record =>
    match record.confirmation with
    | none => none
    | some confirmation =>
      if record.status = .queued then some (outbox.confirmQueued deliveryId confirmation outcome) else none

def next (event : Event) (outbox : DeliveryOutbox) : Option DeliveryOutbox :=
  match event with
  | .call call => some (outbox.perform config call)
  | .starts name resolved => outbox.stepHead name fun job record records =>
      if job.phase = .waiting then some (job.start config resolved record records) else none
  | .settles name outcome => outbox.stepHead name fun job record records => job.settle config outcome record records
  | .rested name => outbox.stepHead name fun job _ records => job.rest.map fun phase => (records,phase)
  | .ends name => outbox.endHead name
  | .debounced => if outbox.progressiveEditLoop = .debouncing then
      some { outbox with progressiveEditLoop := .woken false } else none
  | .resumes =>
    match outbox.progressiveEditLoop with
    | .woken terminalWake => some (outbox.afterDebounce terminalWake)
    | _ => none
  | .unblocked =>
    match outbox.progressiveEditLoop with
    | .blocked terminalWake => some (outbox.takeTasks terminalWake)
    | _ => none
  | .editSettles outcome =>
    match outbox.progressiveEditLoop with
    | .editing task rest => some (outbox.editSettles config task rest outcome)
    | _ => none
  | .fallbackSettles outcome =>
    match outbox.progressiveEditLoop with
    | .sendingFallback task attempt rest =>
      if attempt.resting then none else some (outbox.fallbackSettles config task attempt rest outcome)
    | _ => none
  | .fallbackRested =>
    match outbox.progressiveEditLoop with
    | .sendingFallback task attempt rest =>
      if attempt.resting then
        some { outbox with progressiveEditLoop := .sendingFallback task { attempt with resting := false } rest }
      else none
    | _ => none
  | .closes =>
    match outbox.progressiveEditLoop with
    | .closing =>
      let closed := { outbox with progressiveEditLoop := .idle }
      some (if outbox.progressiveEdits.size > 0 then closed.ensureProgressiveEditLoop config else closed)
    | _ => none
  | .confirmed deliveryId outcome => outbox.confirm deliveryId outcome
  | .passes ms => some { outbox with now := outbox.now + ms }

end DeliveryOutbox

end Malink.Delivery
