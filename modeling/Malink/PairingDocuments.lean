import Malink.WorkspaceAuthorization

/-!
# Pairing documents

An offer is answered by a request, a request by a certificate and a response, each bound to the ones before it, and
nobody is granted more than the offer allows.
-/

namespace Malink.Pairing

open Workspace (MatrixTransportBinding PairingPublicKey Signature)

inductive PairingOperation
  | prompt
  | cancel
  | decision
  | sessionSettings
  | sessionCreate
  | projectCreate
  | projectSettings
  | providerSessionsList
  | providerSessionInspect
  | providerHistoryMaterialize
  | artifactMaterialize
  | extensionCryptoGrant
  | sessionArchive
  | sessionRestore
  | sessionDelete
  | deviceInvite
  | privilegeApprove
  | gatewayUpdate
  deriving DecidableEq

/-- What an offer allows unless it says otherwise. -/
def DEFAULT_PAIRING_OPERATIONS : List PairingOperation :=
  [.prompt,.cancel,.decision,.sessionSettings,.sessionCreate,.projectCreate,.projectSettings,
    .providerSessionsList,.providerSessionInspect,.providerHistoryMaterialize,.artifactMaterialize,.sessionArchive,
    .sessionRestore,.sessionDelete,.deviceInvite,.gatewayUpdate]

def MAX_SAFE_INTEGER : ℕ := 9007199254740991
def DEFAULT_FUTURE_SKEW_MS : ℕ := 30000
def DEFAULT_OFFER_LIFETIME_MS : ℕ := 10 * 60000
def DEFAULT_REQUEST_LIFETIME_MS : ℕ := 2 * 60000

structure PairingOffer where
  offerId : JsString
  gatewayId : JsString
  gatewayNodeId : Option JsString
  gatewayName : JsString
  gatewayKey : PairingPublicKey
  gatewayTransport : MatrixTransportBinding
  challenge : JsString
  allowedOperations : List PairingOperation
  issuedAt : ℕ
  expiresAt : ℕ
  deriving DecidableEq

structure SignedPairingOffer where
  offer : PairingOffer
  signature : Signature
  deriving DecidableEq

structure PairingRequest where
  requestId : JsString
  offerId : JsString
  offerDigest : JsString
  gatewayId : JsString
  deviceId : JsString
  deviceName : JsString
  deviceKey : PairingPublicKey
  deviceTransport : MatrixTransportBinding
  requestedOperations : List PairingOperation
  issuedAt : ℕ
  expiresAt : ℕ
  deriving DecidableEq

structure SignedPairingRequest where
  request : PairingRequest
  signature : Signature
  deriving DecidableEq

structure PairingCertificate where
  certificateId : JsString
  offerId : JsString
  offerDigest : JsString
  requestId : JsString
  requestDigest : JsString
  gatewayId : JsString
  gatewayKeyId : JsString
  gatewayTransport : MatrixTransportBinding
  deviceId : JsString
  deviceName : JsString
  deviceKey : PairingPublicKey
  deviceTransport : MatrixTransportBinding
  allowedOperations : List PairingOperation
  issuedAt : ℕ
  expiresAt : ℕ
  deriving DecidableEq

structure SignedPairingCertificate where
  certificate : PairingCertificate
  signature : Signature
  deriving DecidableEq

structure WorkspaceDeviceGrant where
  grantId : JsString
  workspaceId : JsString
  certificateId : JsString
  deviceId : JsString
  deviceName : JsString
  deviceKey : PairingPublicKey
  deviceTransport : MatrixTransportBinding
  allowedOperations : List PairingOperation
  issuedAt : ℕ
  expiresAt : ℕ
  deriving DecidableEq

structure SignedWorkspaceDeviceGrant where
  grant : WorkspaceDeviceGrant
  signature : Signature
  deriving DecidableEq

/-- The directory is passed on as it is. -/
structure PairingResponse where
  offerId : JsString
  requestId : JsString
  requestDigest : JsString
  gatewayId : JsString
  activeDeviceCount : ℕ
  certificate : SignedPairingCertificate
  workspaceGrant : SignedWorkspaceDeviceGrant
  gatewayDirectory : Option Json
  issuedAt : ℕ
  expiresAt : ℕ
  deriving DecidableEq

structure SignedPairingResponse where
  response : PairingResponse
  signature : Signature
  deriving DecidableEq

inductive PairingRejectionCode
  | gatewayRejected
  | deviceConflict
  | gatewayError
  deriving DecidableEq

structure PairingRejection where
  offerId : JsString
  requestId : JsString
  requestDigest : JsString
  gatewayId : JsString
  code : PairingRejectionCode
  message : JsString
  retryable : Bool
  issuedAt : ℕ
  expiresAt : ℕ
  deriving DecidableEq

structure SignedPairingRejection where
  rejection : PairingRejection
  signature : Signature
  deriving DecidableEq

/-- The root key of the Gateway, and the crypto library of the host. -/
structure GatewayPairingIdentity where
  gatewayId : JsString
  gatewayNodeId : JsString
  workspaceId : JsString
  key : PairingPublicKey
  /-- the failure of `importPublicDeviceKey` -/
  keyFailure : PairingPublicKey → Option JsString
  /-- the text of a failed schema -/
  schemaText : JsString
  offerDigest : SignedPairingOffer → JsString
  requestDigest : SignedPairingRequest → JsString
  sha256 : JsString → JsString
  verificationCode : JsString → JsString → JsString → JsString
  verifyOffer : PairingOffer → JsString → Bool
  /-- the challenge of the offer is part of what is signed -/
  verifyRequest : JsString → PairingRequest → JsString → Bool
  signOffer : PairingOffer → JsString
  signCertificate : PairingCertificate → JsString
  signGrant : WorkspaceDeviceGrant → JsString
  signResponse : PairingResponse → JsString
  signRejection : PairingRejection → JsString

/-- What the schemas ask of a list of operations. -/
def ValidOperations (operations : List PairingOperation) : Prop :=
  operations ≠ [] ∧ operations.length ≤ 18 ∧ operations.Nodup

instance (operations : List PairingOperation) : Decidable (ValidOperations operations) :=
  inferInstanceAs (Decidable (_ ∧ _ ∧ _))

/-- What the schemas ask of the two times of a document. -/
def ValidTimes (issuedAt expiresAt : ℕ) : Prop := issuedAt < expiresAt ∧ expiresAt ≤ MAX_SAFE_INTEGER

instance (issuedAt expiresAt : ℕ) : Decidable (ValidTimes issuedAt expiresAt) := inferInstanceAs (Decidable (_ ∧ _))

variable (identity : GatewayPairingIdentity)

def require (holds : Prop) [Decidable holds] (message : JsString) : Except JsString Unit :=
  if holds then .ok () else .error message

def assertWindow (issuedAt expiresAt now maxLifetimeMs : ℕ) : Except JsString Unit := do
  require (now < expiresAt) "Pairing document has expired"
  require (issuedAt ≤ now + DEFAULT_FUTURE_SKEW_MS) "Pairing document issue time is too far in the future"
  require (expiresAt ≤ issuedAt + maxLifetimeMs) "Pairing document validity window exceeds policy"

def assertOperationsSubset (requested allowed : List PairingOperation) : Except JsString Unit :=
  require (∀ operation ∈ requested,operation ∈ allowed) "Pairing capabilities exceed the signed offer"

def checkedPairingKey (key : PairingPublicKey) : Except JsString Unit :=
  match identity.keyFailure key with
  | none => .ok ()
  | some message => .error message

def verifyPairingOffer (signed : SignedPairingOffer) (now : ℕ) : Except JsString Unit := do
  checkedPairingKey identity signed.offer.gatewayKey
  require (signed.signature.keyId = signed.offer.gatewayKey.keyId ∧
    identity.verifyOffer signed.offer signed.signature.value) "Pairing offer signature is invalid"
  assertWindow signed.offer.issuedAt signed.offer.expiresAt now DEFAULT_OFFER_LIFETIME_MS

def assertRequestBindings (request : PairingRequest) (offer : SignedPairingOffer) : Except JsString Unit := do
  require (request.offerId = offer.offer.offerId ∧ request.gatewayId = offer.offer.gatewayId ∧
    request.offerDigest = identity.offerDigest offer) "Pairing request is not bound to this offer"
  assertOperationsSubset request.requestedOperations offer.offer.allowedOperations
  require (request.expiresAt ≤ offer.offer.expiresAt) "Pairing request is outside the offer window"

def verifyPairingRequest (signed : SignedPairingRequest) (offer : SignedPairingOffer) (now : ℕ) :
    Except JsString Unit := do
  verifyPairingOffer identity offer now
  assertRequestBindings identity signed.request offer
  checkedPairingKey identity signed.request.deviceKey
  require (signed.signature.keyId = signed.request.deviceKey.keyId ∧
    identity.verifyRequest offer.offer.challenge signed.request signed.signature.value)
    "Pairing request signature is invalid"
  assertWindow signed.request.issuedAt signed.request.expiresAt now DEFAULT_REQUEST_LIFETIME_MS

def assertCertificateBindings (certificate : PairingCertificate) (offer : SignedPairingOffer)
    (request : SignedPairingRequest) : Except JsString Unit := do
  require (certificate.offerId = offer.offer.offerId ∧ certificate.offerDigest = identity.offerDigest offer ∧
    certificate.requestId = request.request.requestId ∧ certificate.requestDigest = identity.requestDigest request ∧
    certificate.gatewayId = offer.offer.gatewayId ∧ certificate.gatewayKeyId = offer.offer.gatewayKey.keyId ∧
    certificate.deviceId = request.request.deviceId ∧ certificate.deviceName = request.request.deviceName)
    "Pairing certificate is not bound to the handshake"
  require (certificate.gatewayTransport = offer.offer.gatewayTransport)
    "Certificate Gateway transport does not match the signed offer"
  require (certificate.deviceKey = request.request.deviceKey)
    "Certificate device key does not match the signed request"
  require (certificate.deviceTransport = request.request.deviceTransport)
    "Certificate device transport does not match the signed request"
  assertOperationsSubset certificate.allowedOperations request.request.requestedOperations

def signPairingOffer (offer : PairingOffer) : Except JsString SignedPairingOffer := do
  require (ValidOperations offer.allowedOperations ∧ ValidTimes offer.issuedAt offer.expiresAt) identity.schemaText
  require (offer.gatewayKey.keyId = identity.key.keyId) "Offer Gateway key does not match its signer"
  return ⟨offer,⟨identity.key.keyId,identity.signOffer offer⟩⟩

def signPairingCertificate (certificate : PairingCertificate) (offer : SignedPairingOffer)
    (request : SignedPairingRequest) : Except JsString SignedPairingCertificate := do
  require (ValidOperations certificate.allowedOperations ∧ ValidTimes certificate.issuedAt certificate.expiresAt)
    identity.schemaText
  assertCertificateBindings identity certificate offer request
  require (certificate.gatewayKeyId = identity.key.keyId) "Certificate Gateway key does not match its signer"
  return ⟨certificate,⟨identity.key.keyId,identity.signCertificate certificate⟩⟩

def signPairingResponse (response : PairingResponse) : Except JsString SignedPairingResponse := do
  require (response.gatewayId = response.certificate.certificate.gatewayId ∧
    response.certificate.certificate.gatewayKeyId = identity.key.keyId ∧
    response.certificate.signature.keyId = identity.key.keyId) "Pairing response certificate is for another Gateway"
  return ⟨response,⟨identity.key.keyId,identity.signResponse response⟩⟩

variable {u : Unit}

theorem require_eq_ok {holds : Prop} [Decidable holds] {message : JsString} :
    require holds message = .ok u ↔ holds := by
  rw [require]
  split
  · next h => exact ⟨fun _ => h,fun _ => rfl⟩
  · next h => exact ⟨fun heq => (by cases heq),fun holds => absurd holds h⟩

variable {identity}

theorem assertWindow_eq_ok {issuedAt expiresAt now maxLifetimeMs : ℕ} :
    assertWindow issuedAt expiresAt now maxLifetimeMs = .ok u ↔ now < expiresAt ∧
      issuedAt ≤ now + DEFAULT_FUTURE_SKEW_MS ∧ expiresAt ≤ issuedAt + maxLifetimeMs := by
  simp only [assertWindow,bind_eq_ok,require_eq_ok]
  exact ⟨fun ⟨_,hnow,_,hissued,hexpires⟩ => ⟨hnow,hissued,hexpires⟩,
    fun ⟨hnow,hissued,hexpires⟩ => ⟨(),hnow,(),hissued,hexpires⟩⟩

structure VerifiedRequest (identity : GatewayPairingIdentity) (signed : SignedPairingRequest)
    (offer : SignedPairingOffer) (now : ℕ) : Prop where
  offerKey : checkedPairingKey identity offer.offer.gatewayKey = .ok ()
  offerSigned : offer.signature.keyId = offer.offer.gatewayKey.keyId ∧
    identity.verifyOffer offer.offer offer.signature.value
  offerWindow : now < offer.offer.expiresAt ∧ offer.offer.issuedAt ≤ now + DEFAULT_FUTURE_SKEW_MS ∧
    offer.offer.expiresAt ≤ offer.offer.issuedAt + DEFAULT_OFFER_LIFETIME_MS
  offerId : signed.request.offerId = offer.offer.offerId
  gatewayId : signed.request.gatewayId = offer.offer.gatewayId
  offerDigest : signed.request.offerDigest = identity.offerDigest offer
  operations : ∀ operation ∈ signed.request.requestedOperations, operation ∈ offer.offer.allowedOperations
  inOffer : signed.request.expiresAt ≤ offer.offer.expiresAt
  deviceKey : checkedPairingKey identity signed.request.deviceKey = .ok ()
  requestSigned : signed.signature.keyId = signed.request.deviceKey.keyId ∧
    identity.verifyRequest offer.offer.challenge signed.request signed.signature.value
  requestWindow : now < signed.request.expiresAt ∧ signed.request.issuedAt ≤ now + DEFAULT_FUTURE_SKEW_MS ∧
    signed.request.expiresAt ≤ signed.request.issuedAt + DEFAULT_REQUEST_LIFETIME_MS

variable {offer : SignedPairingOffer}

theorem verifyPairingRequest_eq_ok {signed : SignedPairingRequest} {now : ℕ} :
    verifyPairingRequest identity signed offer now = .ok u ↔ VerifiedRequest identity signed offer now := by
  simp only [verifyPairingRequest,verifyPairingOffer,assertRequestBindings,assertOperationsSubset,bind_eq_ok,
    require_eq_ok,assertWindow_eq_ok]
  constructor
  · rintro ⟨_,⟨_,hofferKey,_,hofferSigned,hofferWindow⟩,_,⟨_,hbound,_,hoperations,hinOffer⟩,_,hdeviceKey,
      _,hsigned,hwindow⟩
    exact ⟨hofferKey,hofferSigned,hofferWindow,hbound.1,hbound.2.1,hbound.2.2,hoperations,hinOffer,hdeviceKey,
      hsigned,hwindow⟩
  · intro h
    exact ⟨(),⟨(),h.offerKey,(),h.offerSigned,h.offerWindow⟩,(),⟨(),⟨h.offerId,h.gatewayId,h.offerDigest⟩,(),
      h.operations,h.inOffer⟩,(),h.deviceKey,(),h.requestSigned,h.requestWindow⟩

structure BoundCertificate (identity : GatewayPairingIdentity) (certificate : PairingCertificate)
    (offer : SignedPairingOffer) (request : SignedPairingRequest) : Prop where
  offerId : certificate.offerId = offer.offer.offerId
  offerDigest : certificate.offerDigest = identity.offerDigest offer
  requestId : certificate.requestId = request.request.requestId
  requestDigest : certificate.requestDigest = identity.requestDigest request
  gatewayId : certificate.gatewayId = offer.offer.gatewayId
  gatewayKeyId : certificate.gatewayKeyId = offer.offer.gatewayKey.keyId
  deviceId : certificate.deviceId = request.request.deviceId
  deviceName : certificate.deviceName = request.request.deviceName
  gatewayTransport : certificate.gatewayTransport = offer.offer.gatewayTransport
  deviceKey : certificate.deviceKey = request.request.deviceKey
  deviceTransport : certificate.deviceTransport = request.request.deviceTransport
  operations : ∀ operation ∈ certificate.allowedOperations, operation ∈ request.request.requestedOperations

theorem assertCertificateBindings_eq_ok {certificate : PairingCertificate} {request : SignedPairingRequest} :
    assertCertificateBindings identity certificate offer request = .ok u ↔
      BoundCertificate identity certificate offer request := by
  simp only [assertCertificateBindings,assertOperationsSubset,bind_eq_ok,require_eq_ok]
  constructor
  · rintro ⟨_,⟨hofferId,hofferDigest,hrequestId,hrequestDigest,hgatewayId,hgatewayKeyId,hdeviceId,hdeviceName⟩,
      _,hgatewayTransport,_,hdeviceKey,_,hdeviceTransport,hoperations⟩
    exact ⟨hofferId,hofferDigest,hrequestId,hrequestDigest,hgatewayId,hgatewayKeyId,hdeviceId,hdeviceName,
      hgatewayTransport,hdeviceKey,hdeviceTransport,hoperations⟩
  · intro h
    exact ⟨(),⟨h.offerId,h.offerDigest,h.requestId,h.requestDigest,h.gatewayId,h.gatewayKeyId,h.deviceId,
      h.deviceName⟩,(),h.gatewayTransport,(),h.deviceKey,(),h.deviceTransport,h.operations⟩

end Malink.Pairing
