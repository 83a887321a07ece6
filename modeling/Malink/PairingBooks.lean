import Malink.PairingHost

/-!
# The books of the Gateway

Offers, requests and devices, without what a Gateway keeps beside them.
-/

namespace Malink.Pairing

open Workspace (MatrixTransportBinding)
open Option (some)

structure Books where
  /-- every offer that has been stored, whether it is still kept or not -/
  offered : List SignedPairingOffer
  offers : InsertionMap JsString StoredPairingOffer
  pending : InsertionMap JsString StoredPendingPairing
  devices : InsertionMap JsString TrustedDeviceRecord

def Disk.books (disk : Disk) : Books :=
  ⟨disk.offered,disk.registry.offers,disk.registry.pending,disk.registry.trustedDevices⟩

/-- Offers stay as they are, are closed while they are open, or are deleted later. -/
def Closes (offers offers' : InsertionMap JsString StoredPairingOffer) : Prop :=
  ∀ offerId stored', offers'.get offerId = some stored' → ∃ stored, offers.get offerId = some stored ∧
    (stored' = stored ∨ stored.status = .open_ ∧ stored'.status ≠ .open_ ∧ stored'.signedOffer = stored.signedOffer)

variable (identity : GatewayPairingIdentity)

/-- The offer that a request answers, as it was checked when the request was received. -/
structure Answered (offered : List SignedPairingOffer) (pending : StoredPendingPairing)
    (signedOffer : SignedPairingOffer) : Prop where
  mem : signedOffer ∈ offered
  verified : verifyPairingRequest identity pending.request signedOffer pending.receivedAt = .ok ()

structure Granted (signedOffer : SignedPairingOffer) (request : SignedPairingRequest)
    (response : SignedPairingResponse) : Prop where
  bound : assertCertificateBindings identity response.response.certificate.certificate signedOffer request = .ok ()
  grant : ∃ grantId, response.response.workspaceGrant =
    grantOf identity response.response.certificate.certificate grantId

namespace Books

/-- What can be done to the books. -/
inductive Move (books : Books) : Books → Prop
  | offer (signedOffer : SignedPairingOffer) (source : Option PairingOfferSource)
    (hnew : signedOffer.offer.offerId ∉ books.offered.map (·.offer.offerId)) :
    Move books { books with
      offered := signedOffer :: books.offered
      offers := books.offers.set signedOffer.offer.offerId ⟨signedOffer,.open_,source,none,none,none,none⟩ }
  | close (offers : InsertionMap JsString StoredPairingOffer) (h : Closes books.offers offers) :
    Move books { books with offers }
  | record (pending : StoredPendingPairing) (offer : StoredPairingOffer) (now : ℕ)
    (hoffer : books.offers.get pending.request.request.offerId = some offer) (hopen : offer.status = .open_)
    (hnew : books.pending.get pending.request.request.requestId = none) (hresponse : pending.response = none)
    (hstatus : pending.status = .pending)
    (hanswered : ∃ signedOffer,Answered identity books.offered pending signedOffer) :
    Move books { books with
      offers := books.offers.set pending.request.request.offerId { offer with
        status := .consumed, consumedAt := some now, requestId := some pending.request.request.requestId }
      pending := books.pending.set pending.request.request.requestId pending }
  | approve (requestId : JsString) (pending : StoredPendingPairing) (response : SignedPairingResponse) (now : ℕ)
    (signedOffer : SignedPairingOffer) (hpending : books.pending.get requestId = some pending)
    (hstatus : pending.status = .pending) (hanswered : Answered identity books.offered pending signedOffer)
    (hgranted : Granted identity signedOffer pending.request response)
    (hkeys : ∀ deviceId record,books.devices.get deviceId = some record → record.status = .active →
      record.certificate.certificate.deviceKey.keyId = response.response.certificate.certificate.deviceKey.keyId →
      record.certificate.certificate.deviceId = response.response.certificate.certificate.deviceId)
    (hbinding : ∀ record,books.devices.get response.response.certificate.certificate.deviceId = some record →
      record.status = .active →
      record.certificate.certificate.deviceKey = response.response.certificate.certificate.deviceKey) :
    Move books { books with
      pending := books.pending.set requestId { pending with
        status := .approved, decidedAt := some now, response := some response }
      devices := PlainObject.assign id books.devices response.response.certificate.certificate.deviceId
        ⟨.active,response.response.certificate,some response.response.workspaceGrant,
          response.response.certificate.certificate.gatewayTransport,now,none,none⟩ }
  | deny (requestId : JsString) (pending : StoredPendingPairing) (now : ℕ)
    (hpending : books.pending.get requestId = some pending) (hstatus : pending.status = .pending) :
    Move books { books with
      pending := books.pending.set requestId { pending with status := .denied, decidedAt := some now } }
  | revoke (deviceId : JsString) (record : TrustedDeviceRecord) (reason : Option JsString) (now : ℕ)
    (hrecord : books.devices.get deviceId = some record) :
    Move books { books with
      devices := books.devices.set deviceId { record with
        status := .revoked, revokedAt := some now, revocationReason := reason } }

/-- What holds of the books at all times. -/
structure Sound (books : Books) : Prop where
  distinct : (books.offered.map (·.offer.offerId)).Nodup
  offers : ∀ {offerId stored}, books.offers.get offerId = some stored →
    stored.signedOffer.offer.offerId = offerId ∧ stored.signedOffer ∈ books.offered
  pending : ∀ {requestId pending}, books.pending.get requestId = some pending →
    pending.request.request.requestId = requestId ∧ ∃ signedOffer, Answered identity books.offered pending signedOffer
  consumed : ∀ {requestId pending stored}, books.pending.get requestId = some pending →
    books.offers.get pending.request.request.offerId = some stored → stored.status = .consumed
  single : ∀ {requestId requestId' pending pending'}, books.pending.get requestId = some pending →
    books.pending.get requestId' = some pending' →
    pending.request.request.offerId = pending'.request.request.offerId → requestId = requestId'
  granted : ∀ {requestId pending response}, books.pending.get requestId = some pending →
    pending.response = some response → pending.status = .approved ∧ ∃ signedOffer,
      Answered identity books.offered pending signedOffer ∧ Granted identity signedOffer pending.request response
  devices : ∀ {deviceId record}, books.devices.get deviceId = some record →
    record.certificate.certificate.deviceId = deviceId ∧ ∃ requestId pending response,
      books.pending.get requestId = some pending ∧ pending.response = some response ∧
        record.certificate = response.response.certificate ∧
        record.workspaceGrant = some response.response.workspaceGrant
  keys : ∀ {deviceId deviceId' record record'}, books.devices.get deviceId = some record →
    books.devices.get deviceId' = some record' → record.status = .active → record'.status = .active →
    record.certificate.certificate.deviceKey.keyId = record'.certificate.certificate.deviceKey.keyId →
      deviceId = deviceId'

/-- An offer that was made, is not open any more, and has not been answered. -/
structure Closed (books : Books) (offerId : JsString) : Prop where
  offered : offerId ∈ books.offered.map (·.offer.offerId)
  closed : ∀ stored, books.offers.get offerId = some stored → stored.status ≠ .open_
  unanswered : ∀ requestId pending, books.pending.get requestId = some pending →
    pending.request.request.offerId ≠ offerId

/-- How the books go on. -/
structure Evolves (books books' : Books) : Prop where
  offered : ∀ signedOffer ∈ books.offered, signedOffer ∈ books'.offered
  pending : ∀ {requestId pending}, books.pending.get requestId = some pending →
    ∃ pending', books'.pending.get requestId = some pending' ∧ pending'.request = pending.request ∧
      pending'.receivedAt = pending.receivedAt ∧ (pending.status ≠ .pending → pending' = pending)
  closed : ∀ {offerId}, books.Closed offerId → books'.Closed offerId

theorem Evolves.refl (books : Books) : Evolves books books :=
  ⟨fun _ => id,fun h => ⟨_,h,rfl,rfl,fun _ => rfl⟩,id⟩

theorem Evolves.trans {first second third : Books} (h : Evolves first second) (h' : Evolves second third) :
    Evolves first third where
  offered signedOffer hoffered := h'.offered signedOffer (h.offered signedOffer hoffered)
  pending hget := by
    obtain ⟨pending',hget',hrequest',hreceived',hdecided'⟩ := h.pending hget
    obtain ⟨pending'',hget'',hrequest'',hreceived'',hdecided''⟩ := h'.pending hget'
    refine ⟨pending'',hget'',hrequest''.trans hrequest',hreceived''.trans hreceived',fun hstatus => ?_⟩
    have hsame := hdecided' hstatus
    subst hsame
    exact hdecided'' hstatus
  closed hclosed := h'.closed (h.closed hclosed)

variable {identity} {books books' : Books}

theorem Evolves.decided (h : Evolves books books') {requestId : JsString} {pending : StoredPendingPairing}
    (hget : books.pending.get requestId = some pending) (hstatus : pending.status ≠ .pending) :
    books'.pending.get requestId = some pending := by
  obtain ⟨pending',hget',-,-,hdecided⟩ := h.pending hget
  rwa [hdecided hstatus] at hget'

theorem Sound.closed (h : Sound identity books) {offerId : JsString} {stored : StoredPairingOffer}
    (hget : books.offers.get offerId = some stored) (hopen : stored.status ≠ .open_)
    (hconsumed : stored.status ≠ .consumed) : books.Closed offerId := by
  obtain ⟨hid,hmem⟩ := h.offers hget
  refine ⟨hid ▸ List.mem_map_of_mem hmem,fun stored' hget' => ?_,fun requestId pending hpending heq => ?_⟩
  · rw [some.inj (hget'.symm.trans hget)]
    exact hopen
  · subst heq
    exact hconsumed (h.consumed hpending hget)

/-- No active device gets another key. -/
def KeepsBindings (books books' : Books) : Prop :=
  ∀ deviceId record record', books.devices.get deviceId = some record → books'.devices.get deviceId = some record' →
    record.status = .active → record'.status = .active →
    record'.certificate.certificate.deviceKey = record.certificate.certificate.deviceKey

theorem KeepsBindings.refl (books : Books) : KeepsBindings books books := by
  intro deviceId record record' hget hget' _ _
  rw [some.inj (hget'.symm.trans hget)]

end Books

variable {identity}

variable {offered offered' : List SignedPairingOffer} {signedOffer : SignedPairingOffer}
  {pending pending' : StoredPendingPairing}

theorem Answered.mono (h : Answered identity offered pending signedOffer) (hoffered : offered ⊆ offered')
    (hrequest : pending'.request = pending.request) (hreceived : pending'.receivedAt = pending.receivedAt) :
    Answered identity offered' pending' signedOffer := by
  refine ⟨hoffered h.mem,?_⟩
  rw [hrequest,hreceived]
  exact h.verified

theorem Answered.request (h : Answered identity offered pending signedOffer) :
    VerifiedRequest identity pending.request signedOffer pending.receivedAt :=
  verifyPairingRequest_eq_ok.mp h.verified

theorem Granted.certificate {request : SignedPairingRequest} {response : SignedPairingResponse}
    (h : Granted identity signedOffer request response) :
    BoundCertificate identity response.response.certificate.certificate signedOffer request :=
  assertCertificateBindings_eq_ok.mp h.bound

end Malink.Pairing
