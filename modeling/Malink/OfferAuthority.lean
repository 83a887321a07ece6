import Malink.PairingCallsSound

/-!
# One offer, one authority

What holds of the disk after every run of the service, and what a run never undoes.
-/

namespace Malink.Pairing

open Workspace (MatrixTransportBinding)
open DurableProgram
open Option (some)

variable (identity : GatewayPairingIdentity) (options : ServiceOptions)

/-- A certificate is kept in a response or for a device. -/
inductive Disk.Holds (disk : Disk) : SignedPairingCertificate → Prop
  | response {requestId : JsString} {pending : StoredPendingPairing} {response : SignedPairingResponse}
    (hget : disk.registry.pending.get requestId = some pending) (hresponse : pending.response = some response) :
    Holds disk response.response.certificate
  | device {deviceId : JsString} {record : TrustedDeviceRecord}
    (hget : disk.registry.trustedDevices.get deviceId = some record) : Holds disk record.certificate

variable {identity} {options} {disk disk' : Disk}

/-- A certificate that is kept belongs to a request that was approved. -/
theorem Disk.Holds.granted {certificate : SignedPairingCertificate} (h : disk.Holds certificate)
    (hsound : disk.books.Sound identity) : ∃ requestId pending response signedOffer,
      disk.registry.pending.get requestId = some pending ∧ pending.response = some response ∧
        pending.status = .approved ∧ Answered identity disk.offered pending signedOffer ∧
        Granted identity signedOffer pending.request response ∧ certificate = response.response.certificate := by
  cases h with
  | response hget hresponse =>
    obtain ⟨hstatus,signedOffer,hanswered,hgranted⟩ := hsound.granted hget hresponse
    exact ⟨_,_,_,signedOffer,hget,hresponse,hstatus,hanswered,hgranted,rfl⟩
  | device hget =>
    obtain ⟨-,requestId,pending,response,hpending,hresponse,hcertificate,-⟩ := hsound.devices hget
    obtain ⟨hstatus,signedOffer,hanswered,hgranted⟩ := hsound.granted hpending hresponse
    exact ⟨requestId,pending,response,signedOffer,hpending,hresponse,hstatus,hanswered,hgranted,hcertificate⟩

theorem Granted.offerId {signedOffer : SignedPairingOffer} {pending : StoredPendingPairing}
    {response : SignedPairingResponse} {offered : List SignedPairingOffer}
    (h : Granted identity signedOffer pending.request response)
    (hanswered : Answered identity offered pending signedOffer) :
    response.response.certificate.certificate.offerId = pending.request.request.offerId :=
  h.certificate.offerId.trans hanswered.request.offerId.symm

theorem sound_initial : Disk.initial.books.Sound identity := ⟨List.nodup_nil,nofun,nofun,nofun,nofun,nofun,nofun,nofun⟩

variable {pool pool' : ServicePool}

/-- A Gateway whose signatures are all the same. -/
def sampleIdentity : GatewayPairingIdentity where
  gatewayId := "gateway"
  gatewayNodeId := "node"
  workspaceId := "workspace"
  key := ⟨"root",.null⟩
  keyFailure _ := none
  schemaText := "invalid"
  offerDigest signed := signed.offer.offerId
  requestDigest signed := signed.request.requestId
  sha256 := id
  verificationCode _ _ _ := "code"
  verifyOffer _ value := value = "signed"
  verifyRequest _ _ value := value = "signed"
  signOffer _ := "signed"
  signCertificate _ := "signed"
  signGrant _ := "signed"
  signResponse _ := "signed"
  signRejection _ := "signed"

def sampleOptions : ServiceOptions := ⟨none,false⟩

def sampleTransport : MatrixTransportBinding := ⟨"https://m","!r","@u","D","e"⟩

def sampleOfferCall : Call := .createOffer ⟨"Home",sampleTransport,some [.prompt,.cancel],none,none⟩ 1000

/-- A phone asks for one of the two operations that are offered. -/
def sampleRequest : SignedPairingRequest :=
  ⟨⟨"request","uuid","uuid","gateway","phone","Phone",⟨"key",.null⟩,sampleTransport,[.prompt],1500,60000⟩,
    ⟨"key","signed"⟩⟩

def sampleRun (call : Call) (disk : Disk) : Except JsString Returned × Unit × Disk :=
  run (Disk.reply "uuid") (call.program sampleIdentity sampleOptions) () disk

def sampleOffered : Disk := (sampleRun sampleOfferCall .initial).2.2

end Malink.Pairing
