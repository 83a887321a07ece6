import Malink.PairingCalls
import Malink.ProgramPools

/-!
# The host of the pairing service

The registry and the replay store are on disk. A transaction may be done, be refused, or fail before or after its
effect.
-/

namespace Malink.Pairing

open Workspace (MatrixTransportBinding)
open DurableProgram

/-- `claimAll` of the replay store -/
def claimAll (stored : InsertionMap JsString ℕ) (claims : List (JsString × ℕ)) (now : ℕ) :
    Bool × InsertionMap JsString ℕ :=
  let kept := stored.filter fun _ expiresAt => decide (now < expiresAt)
  if claims.any (fun claim => kept.has claim.1) then (false,kept)
  else (true,claims.foldl (fun kept claim => kept.set claim.1 claim.2) kept)

/-- The two files, with the offers that have been stored and the rejections that have been sent. -/
structure Disk where
  registry : PairingState
  claims : InsertionMap JsString ℕ
  offered : List SignedPairingOffer
  rejected : List SignedPairingRejection

namespace Disk

def initial : Disk := ⟨initialState,.empty,[],[]⟩

def transact {α : Type} (disk : Disk) (transition : Transition α) : Except JsString (α × Disk) :=
  transition.map fun outcome => (outcome.1,{ disk with registry := outcome.2.getD disk.registry })

def offer (disk : Disk) (signedOffer : SignedPairingOffer) : Disk :=
  { disk with offered := signedOffer :: disk.offered }

def reject (disk : Disk) (rejection : SignedPairingRejection) : Disk :=
  { disk with rejected := rejection :: disk.rejected }

end Disk

/-- What a host answers that does not fail. A UUID is never the ID of two offers. -/
def Answers (disk : Disk) : (ask : Ask) → Except JsString (ask.Reply × Disk) → Prop
  | .getPending requestId, answer => answer = disk.transact (disk.registry.getPending requestId)
  | .getOffer offerId now, answer => answer = disk.transact (disk.registry.getOffer offerId now)
  | .getOfferForAudit offerId, answer => answer = disk.transact (disk.registry.getOfferForAudit offerId)
  | .addOffer signedOffer source, answer => signedOffer.offer.offerId ∉ disk.offered.map (·.offer.offerId) ∧
      answer = (disk.offer signedOffer).transact (disk.registry.addOffer signedOffer source)
  | .claimAll claims now, answer =>
      answer = .ok ((claimAll disk.claims claims now).1,{ disk with claims := (claimAll disk.claims claims now).2 })
  | .addVerifiedRequest offerId pending now, answer =>
      answer = disk.transact (disk.registry.addVerifiedRequest offerId pending now)
  | .approve requestId certificate response now workspaceGrant, answer =>
      answer = disk.transact (disk.registry.approve requestId certificate response now workspaceGrant)
  | .deny requestId now, answer => answer = disk.transact (disk.registry.deny requestId now)
  | .revoke deviceId reason now, answer => answer = disk.transact (disk.registry.revoke deviceId reason now)
  | .cancelOffer offerId now, answer => answer = disk.transact (disk.registry.cancelOffer offerId now)
  | .listOffers now, answer => answer = disk.transact (disk.registry.listOffers now)
  | .pruneOffers now retentionMs, answer => answer = disk.transact (disk.registry.pruneOffers now retentionMs)
  | .get deviceId, answer => answer = disk.transact (disk.registry.get deviceId)
  | .listActive now, answer => answer = disk.transact (disk.registry.listActive now)
  | .reserveGatewayIssuedAt now, answer => answer = disk.transact (disk.registry.reserveGatewayIssuedAt now)
  | .randomUUID, answer => ∃ uuid : JsString, answer = .ok (uuid,disk)
  | .generatePairingChallenge, answer => ∃ challenge : JsString, answer = .ok (challenge,disk)
  | .workspaceDirectory, answer => ∃ directory : Option Json, answer = .ok (directory,disk)
  | .sendRejection rejection, answer => answer = .ok ((),disk.reject rejection)

inductive HostStep (disk : Disk) : (ask : Ask) → Except JsString ask.Reply → Disk → Prop
  | answered {ask : Ask} {value : ask.Reply} {disk' : Disk} (h : Answers disk ask (.ok (value,disk'))) :
    HostStep disk ask (.ok value) disk'
  | refused {ask : Ask} {message : JsString} (h : Answers disk ask (.error message)) :
    HostStep disk ask (.error message) disk
  | failed (ask : Ask) (message : JsString) : HostStep disk ask (.error message) disk
  /-- the transaction has been done -/
  | failedLate {ask : Ask} {value : ask.Reply} {disk' : Disk} (h : Answers disk ask (.ok (value,disk')))
    (message : JsString) : HostStep disk ask (.error message) disk'

variable {disk : Disk} {ask : Ask}

theorem HostStep.disk_cases {disk' : Disk} {reply : Except JsString ask.Reply}
    (h : HostStep disk ask reply disk') : disk' = disk ∨ ∃ value, Answers disk ask (.ok (value,disk')) := by
  cases h with
  | answered h => exact .inr ⟨_,h⟩
  | refused | failed => exact .inl rfl
  | failedLate h => exact .inr ⟨_,h⟩

theorem HostStep.answers {disk' : Disk} {value : ask.Reply} (h : HostStep disk ask (.ok value) disk') :
    Answers disk ask (.ok (value,disk')) := by
  cases h with
  | answered h => exact h

/-- What is left of an answer: a transaction that was refused changes nothing. -/
def Disk.settle {α : Type} (disk : Disk) : Except JsString (α × Disk) → Except JsString α × Disk
  | .ok (value,disk') => (.ok value,disk')
  | .error message => (.error message,disk)

def Disk.reply (random : JsString) (disk : Disk) : (ask : Ask) → Except JsString ask.Reply × Disk
  | .getPending requestId => disk.settle (disk.transact (disk.registry.getPending requestId))
  | .getOffer offerId now => disk.settle (disk.transact (disk.registry.getOffer offerId now))
  | .getOfferForAudit offerId => disk.settle (disk.transact (disk.registry.getOfferForAudit offerId))
  | .addOffer signedOffer source =>
    if signedOffer.offer.offerId ∈ disk.offered.map (·.offer.offerId) then (.error random,disk)
    else disk.settle ((disk.offer signedOffer).transact (disk.registry.addOffer signedOffer source))
  | .claimAll claims now =>
    (.ok (claimAll disk.claims claims now).1,{ disk with claims := (claimAll disk.claims claims now).2 })
  | .addVerifiedRequest offerId pending now =>
    disk.settle (disk.transact (disk.registry.addVerifiedRequest offerId pending now))
  | .approve requestId certificate response now workspaceGrant =>
    disk.settle (disk.transact (disk.registry.approve requestId certificate response now workspaceGrant))
  | .deny requestId now => disk.settle (disk.transact (disk.registry.deny requestId now))
  | .revoke deviceId reason now => disk.settle (disk.transact (disk.registry.revoke deviceId reason now))
  | .cancelOffer offerId now => disk.settle (disk.transact (disk.registry.cancelOffer offerId now))
  | .listOffers now => disk.settle (disk.transact (disk.registry.listOffers now))
  | .pruneOffers now retentionMs => disk.settle (disk.transact (disk.registry.pruneOffers now retentionMs))
  | .get deviceId => disk.settle (disk.transact (disk.registry.get deviceId))
  | .listActive now => disk.settle (disk.transact (disk.registry.listActive now))
  | .reserveGatewayIssuedAt now => disk.settle (disk.transact (disk.registry.reserveGatewayIssuedAt now))
  | .randomUUID | .generatePairingChallenge => (.ok random,disk)
  | .workspaceDirectory => (.ok none,disk)
  | .sendRejection rejection => (.ok (),disk.reject rejection)

variable (identity : GatewayPairingIdentity) (options : ServiceOptions)

inductive Call
  | createOffer (input : CreatePairingOfferInput) (now : ℕ)
  | receiveRequest (signedRequest : SignedPairingRequest) (now : ℕ)
  | approve (requestId : JsString) (policy : PairingGrantPolicy) (now : ℕ)
  | deny (requestId : JsString) (now : ℕ)
  | revoke (deviceId : JsString) (reason : Option JsString) (now : ℕ)
  | cancelOffer (offerId : JsString) (now : ℕ)
  | listOffers (now : ℕ)
  | pruneOffers (now retentionMs : ℕ)

inductive Returned
  | offer (signedOffer : SignedPairingOffer)
  | received (request : ReceivedRequest)
  | response (response : SignedPairingResponse)
  | denied (requestId : JsString)
  | cancelled (offerId : JsString)
  | other

def Call.program : Call → Task Returned
  | .createOffer input now => do
    let signedOffer ← Pairing.createOffer identity input now
    return .offer signedOffer
  | .receiveRequest signedRequest now => do
    let request ← Pairing.receiveRequest identity options signedRequest now
    return .received request
  | .approve requestId policy now => do
    let response ← Pairing.approve identity options requestId policy now
    return .response response
  | .deny requestId now => do
    perform (Ask.deny requestId now)
    return .denied requestId
  | .revoke deviceId reason now => do
    perform (Ask.revoke deviceId reason now)
    return .other
  | .cancelOffer offerId now => do
    let cancelled ← perform (Ask.cancelOffer offerId now)
    return if cancelled then .cancelled offerId else .other
  | .listOffers now => do
    let _ ← perform (Ask.listOffers now)
    return .other
  | .pruneOffers now retentionMs => do
    let _ ← perform (Ask.pruneOffers now retentionMs)
    return .other

/-- The calls that go on, and the disk. -/
abbrev ServicePool := Pool JsString Ask Ask.Reply Returned Disk

def ServicePool.initial : ServicePool := ⟨.initial,[]⟩

end Malink.Pairing
