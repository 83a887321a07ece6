import Malink.CanonicalJson
import Malink.OutboxFailures

/-!
# The delivery of events

The content layer hands every delivery to its outbox and to one pump, which sends the deliveries of all rooms one
after another. Each action is a stretch of code between two awaits.
-/

namespace Malink.Content

open Outbox

structure MatrixDeliveryJob where
  delivery : Delivery
  promise : ℕ
  deriving DecidableEq

/-- What the transport throws: its class, the first number among its status fields, its code. -/
structure SendError where
  contentTooLarge : Bool
  status : Option ℤ
  errcode : Option JsString
  message : JsString
  deriving DecidableEq

def isPermanentMatrixDeliveryError (error : SendError) : Bool :=
  if error.contentTooLarge then true
  else match error.status with
    | some status => decide (status ∈ [400,404,405,413,422])
    | none => decide (error.errcode = some "M_TOO_LARGE")

def supersededDeliveryError (deliveryId : JsString) : JsString :=
  ("Matrix delivery " : JsString) ++ deliveryId ++ " was superseded by a newer logical version"

def maxTimelineContentBytes : ℕ := 40 * 1024

def contentBytes (content : List (JsString × Json)) : ℕ := byteLength (Json.stringify (Json.sortKeys (.obj content)))

def isOversizedTimelineDelivery : Delivery → Bool
  | .event d => decide (maxTimelineContentBytes < contentBytes d.content)
  | .state _ => false

def contentTooLargeError (bytes : ℕ) : JsString :=
  ("MLP/3 Matrix timeline content is " : JsString) ++ JsString.ofNat bytes ++ " bytes; " ++
    "the safe limit is " ++ JsString.ofNat maxTimelineContentBytes ++ " bytes"

def deliveryContent : Delivery → List (JsString × Json)
  | .event d => d.content
  | .state d => d.content

/-- What the caller does with the result of an outbox call. -/
inductive Continuation
  /-- `enqueueEvent` and `enqueueStateEvent`, which hand out a confirmation. -/
  | enqueue (d : Delivery)
  /-- `sendEvent` -/
  | send (d : Delivery)
  /-- Key grants and pointers. -/
  | publish (d : Delivery)
  | classify
  /-- The pump after a send that has succeeded. -/
  | delivered (job : MatrixDeliveryJob) (eventId : JsString)
  | confirmed (deliveryId eventId : JsString)
  /-- The pump after a permanent error. -/
  | dropped (job : MatrixDeliveryJob) (reason : JsString)
  /-- The loop of `retryPending` at an oversized delivery, with the rest of what it read. -/
  | oversized (deliveryId reason : JsString) (rest : List Delivery)

structure Call where
  operation : Operation
  continuation : Continuation

structure RunningCall where
  call : Call
  start : Memory
  compactedAt : Timestamp
  written : ℕ

inductive Pump
  | idle
  /-- About to look at the queue. -/
  | ready
  | sending (job : MatrixDeliveryJob)
  | completing (job : MatrixDeliveryJob)
  | dropping (job : MatrixDeliveryJob)

structure Confirmation where
  deliveryId : JsString
  promise : ℕ
  deriving DecidableEq

structure ContentLayer where
  outbox : Memory
  /-- The calls that wait in `serial`. -/
  chain : List Call
  running : Option RunningCall
  deliveryQueue : InsertionMap JsString MatrixDeliveryJob
  inFlightDeliveries : InsertionMap JsString ℕ
  deliveryConfirmations : InsertionMap JsString ℕ
  retryTimers : List JsString
  deliveryPump : Pump
  nextPromise : ℕ
  handedOut : List Confirmation
  settled : List (ℕ × Except JsString JsString)

/-- A new process over a loaded outbox. -/
def ContentLayer.start (outbox : Memory) : ContentLayer where
  outbox
  chain := []
  running := none
  deliveryQueue := .empty
  inFlightDeliveries := .empty
  deliveryConfirmations := .empty
  retryTimers := []
  deliveryPump := .idle
  nextPromise := 0
  handedOut := []
  settled := []

end Malink.Content

namespace Malink.Outbox

def Operation.superseded (o : Options) (m : Memory) (compactedAt : Timestamp) : Operation → List JsString
  | stage d => (Outbox.stage o m d compactedAt).1
  | classifyMany cs now => (Outbox.classifyMany o m cs now compactedAt).1
  | _ => []

def Operation.throws (m : Memory) : Operation → Bool
  | markDelivered id _ _ | markSuperseded id _ _ => !m.terminal.has id && !m.pendingEntries.has id
  | _ => false

end Malink.Outbox

namespace Malink.Content.ContentLayer

open Outbox

def finishDeliveryJob (s : ContentLayer) (job : MatrixDeliveryJob) : ContentLayer :=
  if s.inFlightDeliveries.get job.delivery.deliveryId = some job.promise then
    { s with inFlightDeliveries := s.inFlightDeliveries.delete job.delivery.deliveryId }
  else s

def scheduleRetry (s : ContentLayer) (roomId : JsString) : ContentLayer :=
  if roomId ∈ s.retryTimers then s else { s with retryTimers := s.retryTimers ++ [roomId] }

def pauseQueuedAttempts (s : ContentLayer) : ContentLayer :=
  { s.deliveryQueue.values.foldl (fun s job =>
      (s.finishDeliveryJob job).scheduleRetry job.delivery.roomId) s with deliveryQueue := .empty }

def resolveConfirmation (s : ContentLayer) (deliveryId eventId : JsString) : ContentLayer :=
  match s.deliveryConfirmations.get deliveryId with
  | none => s
  | some promise => { s with
      deliveryConfirmations := s.deliveryConfirmations.delete deliveryId
      settled := (promise,.ok eventId) :: s.settled }

def rejectConfirmation (s : ContentLayer) (deliveryId error : JsString) : ContentLayer :=
  match s.deliveryConfirmations.get deliveryId with
  | none => s
  | some promise => { s with
      deliveryConfirmations := s.deliveryConfirmations.delete deliveryId
      settled := (promise,.error error) :: s.settled }

def unqueue (s : ContentLayer) (deliveryId : JsString) : ContentLayer :=
  match s.deliveryQueue.get deliveryId with
  | none => s
  | some job =>
    { s with deliveryQueue := s.deliveryQueue.delete deliveryId }.finishDeliveryJob job

def rejectSupersededConfirmations (s : ContentLayer) (deliveryIds : List JsString) : ContentLayer :=
  deliveryIds.foldl (fun s id => (s.rejectConfirmation id (supersededDeliveryError id)).unqueue id) s

def confirmationFor (s : ContentLayer) (deliveryId : JsString) : ContentLayer :=
  match s.outbox.receipt deliveryId with
  | some eventId => { s with
      nextPromise := s.nextPromise + 1
      handedOut := ⟨deliveryId,s.nextPromise⟩ :: s.handedOut
      settled := (s.nextPromise,.ok eventId) :: s.settled }
  | none => match s.deliveryConfirmations.get deliveryId with
    | some promise => { s with handedOut := ⟨deliveryId,promise⟩ :: s.handedOut }
    | none => { s with
        nextPromise := s.nextPromise + 1
        deliveryConfirmations := s.deliveryConfirmations.set deliveryId s.nextPromise
        handedOut := ⟨deliveryId,s.nextPromise⟩ :: s.handedOut }

def ensureDeliveryPump (s : ContentLayer) : ContentLayer :=
  match s.deliveryPump with
  | .idle => { s with deliveryPump := .ready }
  | _ => s

/-- The promise that `deliver` returns is settled by the job and is not followed here. -/
def deliver (s : ContentLayer) (d : Delivery) : ContentLayer :=
  if (s.outbox.receipt d.deliveryId).isSome then s
  else if !s.outbox.isPending d.deliveryId then s
  else if (s.inFlightDeliveries.get d.deliveryId).isSome then s
  else { s with
    deliveryQueue := s.deliveryQueue.set d.deliveryId ⟨d,s.nextPromise⟩
    inFlightDeliveries := s.inFlightDeliveries.set d.deliveryId s.nextPromise
    nextPromise := s.nextPromise + 1 }.ensureDeliveryPump

/-- `this.outbox.delivery(delivery.deliveryId) ?? delivery` -/
def stored (s : ContentLayer) (d : Delivery) : Delivery := (s.outbox.deliveries.get d.deliveryId).getD d

def request (s : ContentLayer) (operation : Operation) (continuation : Continuation) : ContentLayer :=
  { s with chain := s.chain ++ [⟨operation,continuation⟩] }

/-- The loop of `retryPending`, up to the first delivery that it has to supersede. -/
def retryDeliveries (s : ContentLayer) (now : Timestamp) : List Delivery → ContentLayer
  | [] => s
  | d :: ds =>
    if isOversizedTimelineDelivery d then
      let reason := contentTooLargeError (contentBytes (deliveryContent d))
      s.request (.markSuperseded d.deliveryId reason now.ms) (.oversized d.deliveryId reason ds)
    else (s.deliver d).retryDeliveries now ds

def resume (s : ContentLayer) (superseded : List JsString) (now : Timestamp) :
    Continuation → ContentLayer
  | .enqueue d =>
    let s := s.rejectSupersededConfirmations superseded
    if d.deliveryId ∈ superseded then s
    else (s.confirmationFor d.deliveryId).deliver (s.stored d)
  | .send d =>
    let s := s.rejectSupersededConfirmations superseded
    if d.deliveryId ∈ superseded then s else s.deliver (s.stored d)
  | .publish d =>
    let s := s.rejectSupersededConfirmations superseded
    s.deliver (s.stored d)
  | .classify => s.rejectSupersededConfirmations superseded
  | .delivered job eventId =>
    { (s.resolveConfirmation job.delivery.deliveryId eventId).finishDeliveryJob job with
      deliveryPump := .ready }
  | .confirmed deliveryId eventId => (s.resolveConfirmation deliveryId eventId).unqueue deliveryId
  | .dropped job reason =>
    { s.rejectConfirmation job.delivery.deliveryId reason with deliveryPump := .ready }
  | .oversized deliveryId reason rest => (s.rejectConfirmation deliveryId reason).retryDeliveries now rest

/-- What an outbox call that throws leaves. An error of the pump's own marks pauses the queue. -/
def throwInto (s : ContentLayer) : Continuation → ContentLayer
  | .delivered job _ =>
    { ((s.finishDeliveryJob job).pauseQueuedAttempts).scheduleRetry job.delivery.roomId with
      deliveryPump := .idle }
  | .dropped _ _ => { s.pauseQueuedAttempts with deliveryPump := .idle }
  | _ => s

variable (o : Options)

def begin (s : ContentLayer) (compactedAt : Timestamp) : Option ContentLayer :=
  match s.running, s.chain with
  | none, call :: calls =>
    if call.operation.throws s.outbox then some ({ s with chain := calls }.throwInto call.continuation)
    else some { s with
      chain := calls
      outbox := call.operation.memoryAt o s.outbox compactedAt 0
      running := some ⟨call,s.outbox,compactedAt,0⟩ }
  | _, _ => none

def write (s : ContentLayer) : Option ContentLayer :=
  s.running.bind fun r =>
    if r.written < (r.call.operation.commits o r.start r.compactedAt).length then
      some { s with
        outbox := r.call.operation.memoryAt o r.start r.compactedAt (r.written + 1)
        running := some { r with written := r.written + 1 } }
    else none

def finish (s : ContentLayer) (now : Timestamp) : Option ContentLayer :=
  s.running.bind fun r =>
    if r.written = (r.call.operation.commits o r.start r.compactedAt).length then
      some ({ s with running := none }.resume (r.call.operation.superseded o r.start r.compactedAt) now
        r.call.continuation)
    else none

/-- `compareDeliveryJobs(left, right) <= 0` -/
def jobAtMost (left right : MatrixDeliveryJob) : Bool :=
  decide (deliveryPriority left.delivery < deliveryPriority right.delivery) ||
    (decide (deliveryPriority left.delivery = deliveryPriority right.delivery) &&
      decide (left.delivery.createdAt ≤ right.delivery.createdAt))

/-- `[...this.deliveryQueue.values()].sort(compareDeliveryJobs)[0]` -/
def nextJob (s : ContentLayer) : Option MatrixDeliveryJob :=
  (s.deliveryQueue.values.insertionSort (fun left right => jobAtMost left right = true)).head?

def take (s : ContentLayer) : Option ContentLayer :=
  match s.deliveryPump with
  | .ready => match s.nextJob with
    | none => some { s with deliveryPump := .idle }
    | some job =>
      let taken := { s with deliveryQueue := s.deliveryQueue.delete job.delivery.deliveryId }
      if !s.outbox.isPending job.delivery.deliveryId then some (taken.finishDeliveryJob job)
      else some { taken with deliveryPump := .sending job }
  | _ => none

def accept (s : ContentLayer) (eventId : JsString) (now : Timestamp) : Option ContentLayer :=
  match s.deliveryPump with
  | .sending job => some ({ s with deliveryPump := .completing job }.request
      (.markDelivered job.delivery.deliveryId eventId now.ms) (.delivered job eventId))
  | _ => none

def reject (s : ContentLayer) (error : SendError) (now : Timestamp) : Option ContentLayer :=
  match s.deliveryPump with
  | .sending job =>
    let s := s.finishDeliveryJob job
    if isPermanentMatrixDeliveryError error then
      some ({ s with deliveryPump := .dropping job }.request
        (.markSuperseded job.delivery.deliveryId error.message now.ms) (.dropped job error.message))
    else some { s.pauseQueuedAttempts.scheduleRetry job.delivery.roomId with deliveryPump := .idle }
  | _ => none

def retryPending (s : ContentLayer) (roomId : JsString) (now : Timestamp) : ContentLayer :=
  s.retryDeliveries now (s.outbox.pending (some roomId))

def fireTimer (s : ContentLayer) (roomId : JsString) (now : Timestamp) : Option ContentLayer :=
  if roomId ∈ s.retryTimers then
    some ({ s with retryTimers := s.retryTimers.filter (fun r => decide (r ≠ roomId)) }.retryPending roomId now)
  else none

/-- The first pending event with the content of the echo. -/
def echoed (s : ContentLayer) (roomId : JsString) (content : List (JsString × Json)) : Option Delivery :=
  (s.outbox.pending (some roomId)).find? fun
    | .event d => decide (Json.canonicalJson (.obj d.content) = Json.canonicalJson (.obj content))
    | .state _ => false

def confirmTimelineDelivery (s : ContentLayer) (roomId eventId : JsString)
    (content : List (JsString × Json)) (now : Timestamp) : ContentLayer :=
  match s.echoed roomId content with
  | none => s
  | some d => s.request (.markDelivered d.deliveryId eventId now.ms) (.confirmed d.deliveryId eventId)

end Malink.Content.ContentLayer

namespace Malink.Content

open Outbox

inductive Action
  | enqueueEvent (d : EventDelivery)
  | enqueueStateEvent (d : StateDelivery)
  | sendEvent (d : EventDelivery)
  | publishState (d : StateDelivery)
  | deliverPrevious (roomId eventType stateKey : JsString)
  | classifyPendingEvents (cs : List (JsString × DeliveryMetadata)) (now : Timestamp)
  | retryPending (roomId : JsString) (now : Timestamp)
  | confirmTimelineDelivery (roomId eventId : JsString) (content : List (JsString × Json)) (now : Timestamp)
  | fireTimer (roomId : JsString) (now : Timestamp)
  | stopRetries
  | begin (compactedAt : Timestamp)
  | write
  | finish (now : Timestamp)
  | take
  | accept (eventId : JsString) (now : Timestamp)
  | reject (error : SendError) (now : Timestamp)

namespace ContentLayer

variable (o : Options)

def step (s : ContentLayer) : Action → Option ContentLayer
  | .enqueueEvent d => some (s.request (.stage (.event d)) (.enqueue (.event d)))
  | .enqueueStateEvent d => some (s.request (.stage (.state d)) (.enqueue (.state d)))
  | .sendEvent d => some (s.request (.stage (.event d)) (.send (.event d)))
  | .publishState d => some (s.request (.stage (.state d)) (.publish (.state d)))
  | .deliverPrevious roomId eventType stateKey =>
    (s.outbox.latestState roomId eventType stateKey).map (fun d => s.deliver (.state d))
  | .classifyPendingEvents cs now => some (s.request (.classifyMany cs now.ms) .classify)
  | .retryPending roomId now => some (s.retryPending roomId now)
  | .confirmTimelineDelivery roomId eventId content now =>
    some (s.confirmTimelineDelivery roomId eventId content now)
  | .fireTimer roomId now => s.fireTimer roomId now
  | .stopRetries => some { s with retryTimers := [] }
  | .begin compactedAt => s.begin o compactedAt
  | .write => s.write o
  | .finish now => s.finish o now
  | .take => s.take
  | .accept eventId now => s.accept eventId now
  | .reject error now => s.reject error now

def run (s : ContentLayer) : List Action → Option ContentLayer
  | [] => some s
  | action :: actions => (s.step o action).bind (fun s' => s'.run actions)

end ContentLayer

end Malink.Content
