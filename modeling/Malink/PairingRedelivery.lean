import Malink.OfferAuthority

/-!
# Deliveries of one request

The request of a device may be delivered again and again. A crash may end a delivery at any step, each access may
fail, and other calls work on the same disk.
-/

namespace Malink.Pairing

open DurableProgram

/-- An access that is not disturbed. -/
def CleanStep (disk : Disk) (ask : Ask) (reply : Except JsString ask.Reply) (disk' : Disk) : Prop :=
  ∃ answer, Answers disk ask answer ∧ disk.settle answer = (reply,disk')

/-- The disk after an access that has failed: nothing has been done, or all of it. -/
def FailedStep (disk : Disk) (ask : Ask) (disk' : Disk) : Prop :=
  disk' = disk ∨ ∃ value, Answers disk ask (.ok (value,disk'))

structure Delivery where
  program : Task ReceivedRequest
  /-- an access has failed -/
  faulty : Bool

structure Redelivery where
  disk : Disk
  deliveries : List Delivery
  /-- what the deliveries have returned -/
  responses : List SignedPairingResponse

inductive Event
  | deliver (now rejectedAt : ℕ)
  | answered (ask : Ask)
  | failed
  | ended
  | crash
  | other (ask : Ask)

variable (identity : GatewayPairingIdentity) (options : ServiceOptions) (request : SignedPairingRequest)

inductive RedeliveryStep : Redelivery → Event → Redelivery → Prop
  | deliver (disk : Disk) (deliveries : List Delivery) (responses : List SignedPairingResponse) (now rejectedAt : ℕ) :
    RedeliveryStep ⟨disk,deliveries,responses⟩ (.deliver now rejectedAt)
      ⟨disk,⟨((acceptRequest identity options request now rejectedAt).advance ()).1,false⟩ :: deliveries,responses⟩
  | answered {disk disk' : Disk} (before after : List Delivery) (responses : List SignedPairingResponse) (ask : Ask)
    (next : Except JsString ask.Reply → Task ReceivedRequest) (faulty : Bool) (reply : Except JsString ask.Reply)
    (h : CleanStep disk ask reply disk') :
    RedeliveryStep ⟨disk,before ++ ⟨.ask ask next,faulty⟩ :: after,responses⟩ (.answered ask)
      ⟨disk',before ++ ⟨((next reply).advance ()).1,faulty⟩ :: after,responses⟩
  | failed {disk disk' : Disk} (before after : List Delivery) (responses : List SignedPairingResponse) (ask : Ask)
    (next : Except JsString ask.Reply → Task ReceivedRequest) (faulty : Bool) (message : JsString)
    (h : FailedStep disk ask disk') :
    RedeliveryStep ⟨disk,before ++ ⟨.ask ask next,faulty⟩ :: after,responses⟩ .failed
      ⟨disk',before ++ ⟨((next (.error message)).advance ()).1,true⟩ :: after,responses⟩
  | returned (disk : Disk) (before after : List Delivery) (responses : List SignedPairingResponse)
    (received : ReceivedRequest) (faulty : Bool) :
    RedeliveryStep ⟨disk,before ++ ⟨.pure received,faulty⟩ :: after,responses⟩ .ended
      ⟨disk,before ++ after,received.response :: responses⟩
  | thrown (disk : Disk) (before after : List Delivery) (responses : List SignedPairingResponse) (message : JsString)
    (faulty : Bool) :
    RedeliveryStep ⟨disk,before ++ ⟨.throw message,faulty⟩ :: after,responses⟩ .ended
      ⟨disk,before ++ after,responses⟩
  | crash (disk : Disk) (deliveries : List Delivery) (responses : List SignedPairingResponse) :
    RedeliveryStep ⟨disk,deliveries,responses⟩ .crash ⟨disk,[],responses⟩
  | other {disk disk' : Disk} (deliveries : List Delivery) (responses : List SignedPairingResponse) (ask : Ask)
    (reply : Except JsString ask.Reply) (h : HostStep disk ask reply disk') :
    RedeliveryStep ⟨disk,deliveries,responses⟩ (.other ask) ⟨disk',deliveries,responses⟩

/-- Runs, each of whose steps is as it must be. -/
inductive RedeliveryRun (allowed : Redelivery → Event → Redelivery → Prop) : Redelivery → Redelivery → Prop
  | refl (state : Redelivery) : RedeliveryRun allowed state state
  | step {first state state' : Redelivery} {event : Event} (h : RedeliveryRun allowed first state)
    (hstep : RedeliveryStep identity options request state event state') (hallowed : allowed state event state') :
    RedeliveryRun allowed first state'

variable (signedOffer : SignedPairingOffer)

/-- The request has been recorded, and what has been decided about it. -/
def Disk.pendingOf (disk : Disk) : Option StoredPendingPairing := disk.registry.pending.get request.request.requestId

def Disk.Approved (disk : Disk) : Prop := ∃ pending, disk.pendingOf request = some pending ∧ pending.status = .approved

def Disk.Claimed (disk : Disk) : Prop := ∃ claim ∈ offerClaims identity signedOffer.offer, disk.claims.has claim.1

/-- The challenge has been claimed, but there is no record of the request. -/
def Disk.Unrecorded (disk : Disk) : Prop := disk.pendingOf request = none ∧ disk.Claimed identity signedOffer

/-- The key of the device may be used: nobody else has it, and the device has no other one. -/
structure Disk.Acceptable (disk : Disk) : Prop where
  own : ∀ record, disk.registry.trustedDevices.get request.request.deviceId = some record → record.status = .active →
    record.certificate.certificate.deviceKey = request.request.deviceKey
  free : disk.registry.keyTaken request.request.deviceId request.request.deviceKey.keyId = false

/-- The offer is kept, under its ID. -/
def Disk.Keeps (disk : Disk) (status : OfferStatus) : Prop :=
  ∃ stored, disk.registry.offers.get request.request.offerId = some stored ∧ stored.status = status ∧
    stored.signedOffer = signedOffer

/-- What the schemas and the options ask of a request, and that the offer is one of this Gateway. -/
structure Suitable : Prop where
  operations : ValidOperations request.request.requestedOperations
  gatewayId : signedOffer.offer.gatewayId = identity.gatewayId
  gatewayKey : signedOffer.offer.gatewayKey.keyId = identity.key.keyId
  user : ∀ userId ∈ options.clientMatrixUserId, request.request.deviceTransport.userId = userId

/-- Neither the request nor its device has a name that every object inherits. -/
structure Named : Prop where
  requestId : ¬ PlainObject.Inherits request.request.requestId
  deviceId : ¬ PlainObject.Inherits request.request.deviceId

/-- A new request for an open offer, from a device that may be paired. -/
structure Pairable (disk : Disk) : Prop where
  suitable : Suitable identity options request signedOffer
  open_ : disk.Keeps request signedOffer .open_
  unrecorded : disk.pendingOf request = none
  unclaimed : ¬ disk.Claimed identity signedOffer
  acceptable : disk.Acceptable request

/-- What a run is about: the request is delivered while it is valid, and nobody denies it, cancels its offer or revokes
its device. -/
def Expected (_ : Redelivery) (event : Event) (_ : Redelivery) : Prop :=
  match event with
  | .deliver now _ => VerifiedRequest identity request signedOffer now
  | .other (.deny requestId _) => requestId ≠ request.request.requestId
  | .other (.cancelOffer offerId _) => offerId ≠ request.request.offerId
  | .other (.revoke deviceId _ _) => deviceId ≠ request.request.deviceId
  | _ => True

/-- What others leave alone: the record of the request, its offer and its claims until it is recorded and decided, and
its device. -/
structure Untouched (disk disk' : Disk) : Prop where
  pending : disk'.pendingOf request = disk.pendingOf request
  offer : ¬ disk.Approved request →
    disk'.registry.offers.get request.request.offerId = disk.registry.offers.get request.request.offerId
  claims : ¬ disk.Claimed identity signedOffer → ¬ disk'.Claimed identity signedOffer
  acceptable : ¬ disk.Approved request → disk.Acceptable request → disk'.Acceptable request
  device : disk.Approved request → disk'.registry.trustedDevices.get request.request.deviceId =
    disk.registry.trustedDevices.get request.request.deviceId

/-- A timestamp can be reserved, also for a certificate. -/
def Room (disk : Disk) : Ask → Prop
  | .reserveGatewayIssuedAt now => now ≤ MAX_SAFE_INTEGER ∧
      disk.registry.nextGatewayIssuedAt now + CERTIFICATE_LIFETIME_MS ≤ MAX_SAFE_INTEGER
  | _ => True

/-- What a step of a run must be like for the request to be resumed: one delivery at a time, no crash and no failure
that leaves the challenge claimed and the request unrecorded, no failure once the request is approved, and others that
leave the request alone. -/
def Undisturbed (state : Redelivery) (event : Event) (state' : Redelivery) : Prop :=
  match event with
  | .deliver _ _ => state.deliveries = []
  | .answered asked => Room state.disk asked
  | .failed => ¬ state'.disk.Unrecorded identity request signedOffer ∧ ¬ state'.disk.Approved request
  | .crash => ¬ state.disk.Unrecorded identity request signedOffer
  | .other _ => Untouched identity request signedOffer state.disk state'.disk
  | .ended => True

structure Resumes (state : Redelivery) : Prop where
  returns : ∀ delivery ∈ state.deliveries, delivery.faulty = false → ∀ message, delivery.program ≠ .throw message
  persisted : ∀ delivery ∈ state.deliveries, ∀ received, delivery.program = .pure received →
    Persisted request.request.requestId received.response state.disk
  same : ∀ response ∈ state.responses, Persisted request.request.requestId response state.disk
  /-- no rejection is signed for a request that was approved -/
  unrejected : ∀ delivery ∈ state.deliveries, ∀ rejection next,
    delivery.program = .ask (.sendRejection rejection) next → ¬ state.disk.Approved request
  ends : ∀ delivery ∈ state.deliveries, Acc RestOf delivery.program

end Malink.Pairing
