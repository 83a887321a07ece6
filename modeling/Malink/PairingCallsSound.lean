import Malink.PairingTransactions

/-!
# The calls keep the books sound

Each call asks only what its own checks allow, whatever the others do while it waits.
-/

namespace Malink.Pairing

open DurableProgram

variable (identity : GatewayPairingIdentity)

/-- What the calls rely on. -/
def evolution : Evolution HostStep where
  invariant disk := disk.books.Sound identity
  evolves disk disk' := disk.books.Evolves disk'.books
  allowed := Allowed identity
  refl disk := .refl disk.books
  trans := .trans
  keeps := by
    intro disk ask reply disk' hinvariant hallowed hstep
    rcases hostStep_moves hallowed hstep with hsame | hmove
    · rw [hsame]
      exact ⟨hinvariant,.refl disk.books⟩
    · exact hmove.sound hinvariant

/-- The response that is kept for a request. -/
def Persisted (requestId : JsString) (response : SignedPairingResponse) (disk : Disk) : Prop :=
  ∃ pending, disk.registry.pending.get requestId = some pending ∧ pending.status = .approved ∧
    pending.response = some response

/-- A request that answers an offer. -/
def Waits (requestId : JsString) (request : SignedPairingRequest) (signedOffer : SignedPairingOffer) (disk : Disk) :
    Prop :=
  ∃ pending, disk.registry.pending.get requestId = some pending ∧ pending.request = request ∧
    Answered identity disk.offered pending signedOffer

variable {identity} {options : ServiceOptions} {disk disk' : Disk} {requestId : JsString}
  {request : SignedPairingRequest} {response : SignedPairingResponse} {signedOffer : SignedPairingOffer} {now : ℕ}

theorem Persisted.evolves (h : Persisted requestId response disk) (hevolves : disk.books.Evolves disk'.books) :
    Persisted requestId response disk' := by
  obtain ⟨pending,hget,hstatus,hresponse⟩ := h
  exact ⟨pending,hevolves.decided hget (by rw [hstatus]; nofun),hstatus,hresponse⟩

theorem Waits.evolves (h : Waits identity requestId request signedOffer disk)
    (hevolves : disk.books.Evolves disk'.books) : Waits identity requestId request signedOffer disk' := by
  obtain ⟨pending,hget,hrequest,hanswered⟩ := h
  obtain ⟨pending',hget',hrequest',hreceived',-⟩ := hevolves.pending hget
  exact ⟨pending',hget',hrequest'.trans hrequest,hanswered.mono hevolves.offered hrequest' hreceived'⟩

theorem transact_read {α : Type} {value value' : α}
    (h : Except.ok (value,disk') = disk.transact (.ok (value',none))) : disk' = disk ∧ value = value' := by
  obtain ⟨next,hnext,rfl⟩ := Disk.transact_eq_ok.mp h.symm
  cases hnext
  exact ⟨rfl,rfl⟩

section

variable {α : Type} {p : α → Disk → Prop} {ask : Ask} {next : ask.Reply → Task α}

end

variable {policy : PairingGrantPolicy}

def Kept : Returned → Disk → Prop
  | .offer signedOffer, disk => signedOffer ∈ disk.offered
  | .received request, disk => ∃ requestId, Persisted requestId request.response disk
  | .response response, disk => ∃ requestId, Persisted requestId response disk
  | .denied requestId, disk => ∃ pending, disk.registry.pending.get requestId = some pending ∧ pending.status = .denied
  | .cancelled offerId, disk => disk.books.Closed offerId
  | .other, _ => True

end Malink.Pairing
