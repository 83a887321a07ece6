import Malink.PairingDocuments
import Malink.PlainObjects

/-!
# The registry of the Gateway

Offers, the requests that answered them, and the devices that are trusted, in one file. Every transition is one
transaction on it.
-/

namespace Malink.Pairing

open Workspace (MatrixTransportBinding)

inductive OfferStatus
  | open_
  | consumed
  | cancelled
  | expired
  deriving DecidableEq

inductive PairingOfferSource
  | gatewayStartup
  | localAdmin
  | pairedDevice (deviceId : JsString) (commandId : Option JsString)
  deriving DecidableEq

structure StoredPairingOffer where
  signedOffer : SignedPairingOffer
  status : OfferStatus
  source : Option PairingOfferSource
  consumedAt : Option ℕ
  cancelledAt : Option ℕ
  expiredAt : Option ℕ
  requestId : Option JsString
  deriving DecidableEq

namespace StoredPairingOffer

/-- An open offer whose time is over. -/
def Due (now : ℕ) (stored : StoredPairingOffer) : Prop :=
  stored.status = .open_ ∧ stored.signedOffer.offer.expiresAt ≤ now

instance (now : ℕ) (stored : StoredPairingOffer) : Decidable (stored.Due now) := inferInstanceAs (Decidable (_ ∧ _))

def expire (stored : StoredPairingOffer) (now : ℕ) : StoredPairingOffer :=
  { stored with status := .expired, expiredAt := some now }

def expireDue (now : ℕ) (stored : StoredPairingOffer) : StoredPairingOffer :=
  if stored.Due now then stored.expire now else stored

def terminalAt (stored : StoredPairingOffer) : ℕ :=
  ((stored.consumedAt.or stored.cancelledAt).or stored.expiredAt).getD stored.signedOffer.offer.expiresAt

/-- An offer that is not open any more and has been kept for long enough. -/
def Stale (now retentionMs : ℕ) (stored : StoredPairingOffer) : Prop :=
  stored.status ≠ .open_ ∧ stored.terminalAt + retentionMs ≤ now

instance (now retentionMs : ℕ) (stored : StoredPairingOffer) : Decidable (stored.Stale now retentionMs) :=
  inferInstanceAs (Decidable (_ ∧ _))

end StoredPairingOffer

inductive PendingStatus
  | pending
  | approved
  | denied
  deriving DecidableEq

structure StoredPendingPairing where
  request : SignedPairingRequest
  verificationCode : JsString
  receivedAt : ℕ
  status : PendingStatus
  decidedAt : Option ℕ
  response : Option SignedPairingResponse
  deriving DecidableEq

inductive DeviceStatus
  | active
  | revoked
  deriving DecidableEq

structure TrustedDeviceRecord where
  status : DeviceStatus
  certificate : SignedPairingCertificate
  workspaceGrant : Option SignedWorkspaceDeviceGrant
  /-- the transport that the device has acknowledged -/
  gatewayTransport : MatrixTransportBinding
  activatedAt : ℕ
  revokedAt : Option ℕ
  revocationReason : Option JsString
  deriving DecidableEq

structure PairingState where
  offers : InsertionMap JsString StoredPairingOffer
  pending : InsertionMap JsString StoredPendingPairing
  trustedDevices : InsertionMap JsString TrustedDeviceRecord
  gatewayIssuedAt : Option ℕ
  gatewayTransport : Option MatrixTransportBinding
  gatewayRotationIssuedAt : Option ℕ
  gatewaySnapshotIssuedAt : Option ℕ

def initialState : PairingState := ⟨.empty,.empty,.empty,none,none,none,none⟩

/-- The result, and the state where it has changed. -/
abbrev Transition (α : Type) := Except JsString (α × Option PairingState)

namespace PairingState

variable (state : PairingState)

def addOffer (signedOffer : SignedPairingOffer) (source : Option PairingOfferSource) : Transition Unit :=
  if PlainObject.holds id state.offers signedOffer.offer.offerId then
    .error ("Pairing offer already exists: " ++ signedOffer.offer.offerId)
  else .ok ((),some { state with
    offers := state.offers.set signedOffer.offer.offerId ⟨signedOffer,.open_,source,none,none,none,none⟩ })

/-- An open offer whose time is over is closed when it is looked up. What a name inherits is no open offer. -/
def getOffer (offerId : JsString) (now : ℕ) : Transition (Option SignedPairingOffer) :=
  match state.offers.get offerId with
  | none => .ok (none,none)
  | some stored =>
    if stored.Due now then
      .ok (none,some { state with offers := state.offers.set offerId (stored.expire now) })
    else .ok (if stored.status = .open_ then some stored.signedOffer else none,none)

def getOfferForAudit (offerId : JsString) : Transition (Option SignedPairingOffer) :=
  .ok ((state.offers.get offerId).map (·.signedOffer),none)

def cancelOffer (offerId : JsString) (now : ℕ) : Transition Bool :=
  match state.offers.get offerId with
  | none => .ok (false,none)
  | some stored =>
    if stored.status ≠ .open_ then .ok (false,none)
    else if stored.signedOffer.offer.expiresAt ≤ now then
      .ok (false,some { state with offers := state.offers.set offerId (stored.expire now) })
    else .ok (true,some { state with
      offers := state.offers.set offerId { stored with status := .cancelled, cancelledAt := some now } })

/-- The state with other offers, where they differ. -/
def withOffers (offers : InsertionMap JsString StoredPairingOffer) : Option PairingState :=
  if offers = state.offers then none else some { state with offers }

def listOffers (now : ℕ) : Transition (List StoredPairingOffer) :=
  let offers := state.offers.mapValues (StoredPairingOffer.expireDue now)
  .ok ((PlainObject.ownEntries id offers).map (·.2),state.withOffers offers)

/-- The numbers of offers that have expired and of those that are deleted. -/
def pruneOffers (now retentionMs : ℕ) : Transition (ℕ × ℕ) :=
  let listed := state.offers.mapValues (StoredPairingOffer.expireDue now)
  let offers := listed.filter fun _ stored => !decide (stored.Stale now retentionMs)
  .ok ((state.offers.values.countP fun stored => stored.Due now,state.offers.size - offers.size),
    state.withOffers offers)

def addVerifiedRequest (offerId : JsString) (pending : StoredPendingPairing) (now : ℕ) : Transition Unit :=
  match state.offers.get offerId with
  | none => .error "Pairing offer is unavailable"
  | some offer =>
    if offer.status ≠ .open_ then .error "Pairing offer is unavailable"
    else if PlainObject.holds id state.pending pending.request.request.requestId then
      .error "Pairing request already exists"
    else .ok ((),some { state with
      offers := state.offers.set offerId { offer with
        status := .consumed, consumedAt := some now, requestId := some pending.request.request.requestId }
      pending := state.pending.set pending.request.request.requestId pending })

/-- A clone of the request: of the prototype, an object without properties. -/
def getPending (requestId : JsString) : Transition (Option (Option StoredPendingPairing)) :=
  (PlainObject.copy state.pending requestId).map (·,none)

/-- What a name inherits is no pending request. -/
def noRequestText (requestId : JsString) : JsString :=
  if PlainObject.Inherits requestId then "Pairing request was already decided" else "Unknown pending pairing request"

/-- Another active device holds the key. -/
def keyTaken (deviceId keyId : JsString) : Bool :=
  state.trustedDevices.values.any fun record => record.status = .active &&
    record.certificate.certificate.deviceId ≠ deviceId && record.certificate.certificate.deviceKey.keyId = keyId

/-- An active record of the device is for another key. -/
def rebinds (certificate : PairingCertificate) : Bool :=
  (state.trustedDevices.get certificate.deviceId).any fun existing =>
    existing.status = .active && existing.certificate.certificate.deviceKey ≠ certificate.deviceKey

def rebindText (deviceId : JsString) : JsString :=
  "Active device " ++ deviceId ++ " cannot renew with a different application key"

def approve (requestId : JsString) (certificate : SignedPairingCertificate) (response : SignedPairingResponse) (now : ℕ)
    (workspaceGrant : Option SignedWorkspaceDeviceGrant) : Transition TrustedDeviceRecord :=
  match state.pending.get requestId with
  | none => .error (noRequestText requestId)
  | some pending =>
    if pending.status ≠ .pending then .error "Pairing request was already decided"
    else if state.rebinds certificate.certificate then
      .error (rebindText certificate.certificate.deviceId)
    else if state.keyTaken certificate.certificate.deviceId certificate.certificate.deviceKey.keyId then
      .error "An active device already uses this application key"
    else
      let record : TrustedDeviceRecord :=
        ⟨.active,certificate,workspaceGrant,certificate.certificate.gatewayTransport,now,none,none⟩
      .ok (record,some { state with
        pending := state.pending.set requestId { pending with
          status := .approved, decidedAt := some now, response := some response }
        trustedDevices := PlainObject.assign id state.trustedDevices certificate.certificate.deviceId record
        gatewayTransport := some certificate.certificate.gatewayTransport })

def deny (requestId : JsString) (now : ℕ) : Transition Unit :=
  match state.pending.get requestId with
  | none => .error (noRequestText requestId)
  | some pending =>
    if pending.status ≠ .pending then .error "Pairing request was already decided"
    else .ok ((),some { state with
      pending := state.pending.set requestId { pending with status := .denied, decidedAt := some now } })

/-- What a name inherits is marked in the place of a record. -/
def revoke (deviceId : JsString) (reason : Option JsString) (now : ℕ) : Transition Unit :=
  match state.trustedDevices.get deviceId with
  | none =>
    if PlainObject.Inherits deviceId then .ok ((),some state) else .error ("Unknown trusted device: " ++ deviceId)
  | some record =>
    if record.status = .revoked then .error ("Device is already revoked: " ++ deviceId)
    else .ok ((),some { state with
      trustedDevices := state.trustedDevices.set deviceId { record with
        status := .revoked
        revokedAt := some now
        revocationReason := (reason.filter JsString.truthy).or record.revocationReason } })

def get (deviceId : JsString) : Transition (Option (Option TrustedDeviceRecord)) :=
  (PlainObject.copy state.trustedDevices deviceId).map (·,none)

def listActive (now : ℕ) : Transition (List TrustedDeviceRecord) :=
  .ok (((PlainObject.ownEntries id state.trustedDevices).map (·.2)).filter fun record => record.status = .active &&
    now < record.certificate.certificate.expiresAt,none)

/-- The latest of two times, one of which may be missing. -/
def later (latest : Option ℕ) (time : ℕ) : Option ℕ := some (max (latest.getD 0) time)

def laterOf (latest time : Option ℕ) : Option ℕ := time.elim latest (later latest)

/-- `latestGatewayIssuedAt`, where nothing has been issued yet it is missing. -/
def latestGatewayIssuedAt : Option ℕ :=
  let latest := laterOf (laterOf state.gatewayIssuedAt state.gatewayRotationIssuedAt) state.gatewaySnapshotIssuedAt
  let latest := state.offers.values.foldl (fun latest stored => later latest stored.signedOffer.offer.issuedAt) latest
  let latest := state.pending.values.foldl (fun latest pending => match pending.response with
    | none => latest
    | some response => later (later latest response.response.issuedAt)
        response.response.certificate.certificate.issuedAt) latest
  state.trustedDevices.values.foldl (fun latest record => later latest record.certificate.certificate.issuedAt) latest

def nextGatewayIssuedAt (now : ℕ) : ℕ := state.latestGatewayIssuedAt.elim now fun latest => max now (latest + 1)

def reserveGatewayIssuedAt (now : ℕ) : Transition ℕ :=
  if MAX_SAFE_INTEGER < now then .error "Gateway now timestamp is invalid"
  else if MAX_SAFE_INTEGER < state.nextGatewayIssuedAt now then
    .error "Gateway timestamp exceeds the safe integer range"
  else .ok (state.nextGatewayIssuedAt now,some { state with gatewayIssuedAt := some (state.nextGatewayIssuedAt now) })

end PairingState

end Malink.Pairing
