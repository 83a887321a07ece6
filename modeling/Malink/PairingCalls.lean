import Malink.CanonicalJson
import Malink.DurablePrograms
import Malink.ErrorTexts
import Malink.PairingRegistry

/-!
# The calls of the pairing service

A call waits at every transaction and at every service of its host, and other calls go on meanwhile. The challenge is
claimed in one file before the request is recorded in the other.
-/

namespace Malink.Pairing

open Workspace (MatrixTransportBinding)
open DurableProgram

/-- What a call waits for. -/
inductive Ask
  | getPending (requestId : JsString)
  | getOffer (offerId : JsString) (now : ℕ)
  | getOfferForAudit (offerId : JsString)
  | addOffer (signedOffer : SignedPairingOffer) (source : Option PairingOfferSource)
  | claimAll (claims : List (JsString × ℕ)) (now : ℕ)
  | addVerifiedRequest (offerId : JsString) (pending : StoredPendingPairing) (now : ℕ)
  | approve (requestId : JsString) (certificate : SignedPairingCertificate) (response : SignedPairingResponse) (now : ℕ)
    (workspaceGrant : Option SignedWorkspaceDeviceGrant)
  | deny (requestId : JsString) (now : ℕ)
  | revoke (deviceId : JsString) (reason : Option JsString) (now : ℕ)
  | cancelOffer (offerId : JsString) (now : ℕ)
  | listOffers (now : ℕ)
  | pruneOffers (now retentionMs : ℕ)
  | get (deviceId : JsString)
  | listActive (now : ℕ)
  | reserveGatewayIssuedAt (now : ℕ)
  | randomUUID
  | generatePairingChallenge
  | workspaceDirectory
  | sendRejection (rejection : SignedPairingRejection)

abbrev Ask.Reply : Ask → Type
  | .getPending _ => Option (Option StoredPendingPairing)
  | .getOffer _ _ | .getOfferForAudit _ => Option SignedPairingOffer
  | .addOffer _ _ | .addVerifiedRequest _ _ _ | .deny _ _ | .revoke _ _ _ | .sendRejection _ => Unit
  | .claimAll _ _ | .cancelOffer _ _ => Bool
  | .approve _ _ _ _ _ => TrustedDeviceRecord
  | .listOffers _ => List StoredPairingOffer
  | .pruneOffers _ _ => ℕ × ℕ
  | .get _ => Option (Option TrustedDeviceRecord)
  | .listActive _ => List TrustedDeviceRecord
  | .reserveGatewayIssuedAt _ => ℕ
  | .randomUUID | .generatePairingChallenge => JsString
  | .workspaceDirectory => Option Json

abbrev Task (α : Type) := DurableProgram Unit JsString Ask Ask.Reply α

structure ServiceOptions where
  clientMatrixUserId : Option JsString
  hasDirectory : Bool

variable (identity : GatewayPairingIdentity) (options : ServiceOptions)

def DEFAULT_CREATED_OFFER_LIFETIME_MS : ℕ := 5 * 60000
def MAX_OFFER_LIFETIME_MS : ℕ := 10 * 60000
def REJECTION_LIFETIME_MS : ℕ := 2 * 60000
def CERTIFICATE_LIFETIME_MS : ℕ := 365 * 24 * 60 * 60000

structure CreatePairingOfferInput where
  gatewayName : JsString
  gatewayTransport : MatrixTransportBinding
  allowedOperations : Option (List PairingOperation)
  source : Option PairingOfferSource
  lifetimeMs : Option ℕ

/-- `unique` -/
def unique (operations : List PairingOperation) : Except JsString (List PairingOperation) :=
  if operations.Nodup then .ok operations else .error "Pairing values must be unique"

def createOffer (input : CreatePairingOfferInput) (now : ℕ) : Task SignedPairingOffer := do
  let lifetimeMs := input.lifetimeMs.getD DEFAULT_CREATED_OFFER_LIFETIME_MS
  ofExcept (require (30000 ≤ lifetimeMs ∧ lifetimeMs ≤ MAX_OFFER_LIFETIME_MS)
    "Pairing offer lifetime must be between 30 seconds and 10 minutes")
  let issuedAt ← perform (Ask.reserveGatewayIssuedAt now)
  let offerId ← perform Ask.randomUUID
  ofExcept (require (1 ≤ input.gatewayName.length ∧ input.gatewayName.length ≤ 128) "gatewayName is invalid")
  let challenge ← perform Ask.generatePairingChallenge
  let allowedOperations ← ofExcept (unique (input.allowedOperations.getD DEFAULT_PAIRING_OPERATIONS))
  let signedOffer ← ofExcept (signPairingOffer identity ⟨offerId,identity.gatewayId,some identity.gatewayNodeId,
    input.gatewayName,identity.key,input.gatewayTransport,challenge,allowedOperations,issuedAt,issuedAt + lifetimeMs⟩)
  perform (Ask.addOffer signedOffer input.source)
  return signedOffer

/-- The two claims of `PairingOfferGuard.consume`. -/
def offerClaims (offer : PairingOffer) : List (JsString × ℕ) :=
  let scope := Json.canonicalJson (.arr [.str offer.gatewayId,.str offer.offerId])
  [(scope ++ ":pairing-offer",offer.expiresAt),
    (scope ++ ":pairing-challenge:" ++ identity.sha256 offer.challenge,offer.expiresAt)]

def consume (signedOffer : SignedPairingOffer) (signedRequest : SignedPairingRequest) (now : ℕ) : Task Unit := do
  ofExcept (verifyPairingRequest identity signedRequest signedOffer now)
  let accepted ← perform (Ask.claimAll (offerClaims identity signedOffer.offer) now)
  ofExcept (require (accepted = true) "Pairing offer has already been consumed")

structure PairingGrantPolicy where
  allowedOperations : Option (List PairingOperation)
  certificateLifetimeMs : Option ℕ

def constrainedOperations (requested : List PairingOperation) (policy : Option (List PairingOperation)) :
    Except JsString (List PairingOperation) := do
  let normalized ← unique requested
  match policy with
  | none => return normalized
  | some policy => do
    let allowed ← unique policy
    require (∀ operation ∈ normalized,operation ∈ allowed) "Requested operation exceeds the approval policy"
    return normalized

def certificateOf (offer : SignedPairingOffer) (request : SignedPairingRequest) (certificateId : JsString)
    (allowedOperations : List PairingOperation) (issuedAt expiresAt : ℕ) : PairingCertificate :=
  ⟨certificateId,offer.offer.offerId,identity.offerDigest offer,request.request.requestId,
    identity.requestDigest request,identity.gatewayId,identity.key.keyId,offer.offer.gatewayTransport,
    request.request.deviceId,request.request.deviceName,request.request.deviceKey,request.request.deviceTransport,
    allowedOperations,issuedAt,expiresAt⟩

def grantOf (certificate : PairingCertificate) (grantId : JsString) : SignedWorkspaceDeviceGrant :=
  let grant : WorkspaceDeviceGrant := ⟨grantId,identity.workspaceId,certificate.certificateId,certificate.deviceId,
    certificate.deviceName,certificate.deviceKey,certificate.deviceTransport,certificate.allowedOperations,
    certificate.issuedAt,certificate.expiresAt⟩
  ⟨grant,⟨identity.key.keyId,identity.signGrant grant⟩⟩

/-- The certificate of a request is signed, and recorded with the response. -/
def issue (requestId : JsString) (request : SignedPairingRequest) (offer : SignedPairingOffer)
    (policy : PairingGrantPolicy) (now : ℕ) : Task SignedPairingResponse := do
  let allowedOperations ←
    ofExcept (constrainedOperations request.request.requestedOperations policy.allowedOperations)
  let certificateLifetimeMs := policy.certificateLifetimeMs.getD CERTIFICATE_LIFETIME_MS
  ofExcept (require (60000 ≤ certificateLifetimeMs ∧ certificateLifetimeMs ≤ 366 * 24 * 60 * 60000)
    "Certificate lifetime is outside policy")
  let issuedAt ← perform (Ask.reserveGatewayIssuedAt now)
  let certificateId ← perform Ask.randomUUID
  let certificate ← ofExcept (signPairingCertificate identity (certificateOf identity offer request certificateId
    allowedOperations issuedAt (issuedAt + certificateLifetimeMs)) offer request)
  let grantId ← perform Ask.randomUUID
  let workspaceGrant := grantOf identity certificate.certificate grantId
  let existingDevice ← perform (Ask.get request.request.deviceId)
  ofExcept (require (∀ existing ∈ existingDevice.join,existing.status = .active →
    existing.certificate.certificate.deviceKey = request.request.deviceKey)
    (PairingState.rebindText request.request.deviceId))
  let activeDevices ← perform (Ask.listActive now)
  let replacesActiveDevice := activeDevices.any fun record =>
    record.certificate.certificate.deviceId = request.request.deviceId
  let gatewayDirectory ← if options.hasDirectory then perform Ask.workspaceDirectory else .pure none
  let response ← ofExcept (signPairingResponse identity ⟨offer.offer.offerId,request.request.requestId,
    identity.requestDigest request,identity.gatewayId,
    activeDevices.length + (if replacesActiveDevice then 0 else 1),certificate,workspaceGrant,gatewayDirectory,
    issuedAt,certificate.certificate.expiresAt⟩)
  let _ ← perform (Ask.approve requestId certificate response now (some workspaceGrant))
  return response

/-- `approve` of a request that waits for it. -/
def approvePending (requestId : JsString) (request : SignedPairingRequest) (policy : PairingGrantPolicy) (now : ℕ) :
    Task SignedPairingResponse := do
  ofExcept (require (∀ userId ∈ options.clientMatrixUserId,request.request.deviceTransport.userId = userId)
    "New Malink devices must use the Workspace client Matrix account")
  match ← perform (Ask.getOfferForAudit request.request.offerId) with
  | none => .throw "Pairing offer record is missing"
  | some offer => issue identity options requestId request offer policy now

def approve (requestId : JsString) (policy : PairingGrantPolicy) (now : ℕ) : Task SignedPairingResponse := do
  match ← perform (Ask.getPending requestId) with
  | none | some none => .throw "Pairing request is not awaiting approval"
  | some (some pending) =>
    match pending.status, pending.response with
    | .approved, some response => return response
    | .pending, _ => approvePending identity options requestId pending.request policy now
    | _, _ => .throw "Pairing request is not awaiting approval"

/-- `canonicalJson` of a property that is missing -/
def undefinedText : JsString := "Canonical JSON cannot encode undefined"

/-- What `receiveRequest` returns. -/
structure ReceivedRequest where
  requestId : JsString
  deviceId : JsString
  deviceName : JsString
  verificationCode : JsString
  response : SignedPairingResponse

def received (request : PairingRequest) (verificationCode : JsString) (response : SignedPairingResponse) :
    ReceivedRequest :=
  ⟨request.requestId,request.deviceId,request.deviceName,verificationCode,response⟩

/-- A request that was approved before: its device must still be the one of that approval. -/
def replay (existing : StoredPendingPairing) (request : PairingRequest) (response : SignedPairingResponse) (now : ℕ) :
    Task ReceivedRequest := do
  let active ← perform (Ask.get request.deviceId)
  ofExcept (require (∃ record ∈ active.join,record.status = .active ∧ now < record.certificate.certificate.expiresAt ∧
    record.certificate.certificate.certificateId = response.response.certificate.certificate.certificateId)
    "Pairing approval is no longer active")
  return received request existing.verificationCode response

/-- A request that is delivered for the first time. -/
def receiveNew (signedRequest : SignedPairingRequest) (now : ℕ) : Task ReceivedRequest := do
  let some signedOffer ← perform (Ask.getOffer signedRequest.request.offerId now)
    | .throw "Pairing offer is unavailable"
  consume identity signedOffer signedRequest now
  let verificationCode := identity.verificationCode signedOffer.offer.offerId signedOffer.offer.challenge
    signedOffer.offer.gatewayKey.keyId
  perform (Ask.addVerifiedRequest signedRequest.request.offerId
    ⟨signedRequest,verificationCode,now,.pending,none,none⟩ now)
  let response ← approve identity options signedRequest.request.requestId ⟨none,none⟩ now
  return received signedRequest.request verificationCode response

def receiveRequest (signedRequest : SignedPairingRequest) (now : ℕ) : Task ReceivedRequest := do
  match ← perform (Ask.getPending signedRequest.request.requestId) with
  | none => receiveNew identity options signedRequest now
  | some none => .throw undefinedText
  | some (some existing) =>
    ofExcept (require (existing.request = signedRequest) "Pairing request ID conflicts with a different signed request")
    match existing.status, existing.response with
    | .approved, some response => replay existing signedRequest.request response now
    | .pending, _ => do
      let response ← approve identity options existing.request.request.requestId ⟨none,none⟩ now
      return received signedRequest.request existing.verificationCode response
    | _, _ => .throw "Pairing request was denied"

/-- What a rejection says about the failure of a request, and whether it may be retried. -/
def pairingRejectionDetails (message : JsString) : PairingRejectionCode × JsString × Bool :=
  if message.mentions "different application key" || message.mentions "already uses this application key" then
    (.deviceConflict,"This device identity conflicts with an active paired device. Scan a new invitation.",false)
  else if message.mentions "denied" || message.mentions "rejected" || message.mentions "no longer active" ||
      message.mentions "workspace client matrix account" then
    (.gatewayRejected,"The Gateway rejected this pairing request. Scan a new invitation.",false)
  else (.gatewayError,"The Gateway could not complete secure pairing. Retry this invitation.",true)

/-- `createRejectionForVerifiedRequest` -/
def createRejection (signedRequest : SignedPairingRequest) (message : JsString) (now : ℕ) :
    Task (Option SignedPairingRejection) := do
  let some found ← perform (Ask.getPending signedRequest.request.requestId) | return none
  let some pending := found | .throw undefinedText
  if pending.request = signedRequest then do
    let issuedAt ← perform (Ask.reserveGatewayIssuedAt now)
    let details := pairingRejectionDetails message
    let rejection : PairingRejection := ⟨signedRequest.request.offerId,signedRequest.request.requestId,
      identity.requestDigest signedRequest,identity.gatewayId,details.1,details.2.1,details.2.2,issuedAt,
      issuedAt + REJECTION_LIFETIME_MS⟩
    return some ⟨rejection,⟨identity.key.keyId,identity.signRejection rejection⟩⟩
  else return none

/-- A failure is answered with a rejection, where the request has been recorded. -/
def rejectRequest (signedRequest : SignedPairingRequest) (message : JsString) (now : ℕ) : Task ReceivedRequest := do
  match ← createRejection identity signedRequest message now with
  | none => .throw message
  | some rejection => do
    perform (Ask.sendRejection rejection)
    .throw message

/-- What `acceptMatrixPairing` does with the request of an event. -/
def acceptRequest (signedRequest : SignedPairingRequest) (now rejectedAt : ℕ) : Task ReceivedRequest :=
  (receiveRequest identity options signedRequest now).handle fun message =>
    rejectRequest identity signedRequest message rejectedAt

end Malink.Pairing
