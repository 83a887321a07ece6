import Malink.PairingRedelivery

/-!
# The stages of a request

Its offer is open, the request is recorded, or it is approved. What others do leaves the stage alone, and a delivery
goes from one stage to the next.
-/

namespace Malink.Pairing

open DurableProgram

variable (identity : GatewayPairingIdentity) (request : SignedPairingRequest) (signedOffer : SignedPairingOffer)

structure Opened (disk : Disk) : Prop where
  unrecorded : disk.pendingOf request = none
  open_ : disk.Keeps request signedOffer .open_
  acceptable : disk.Acceptable request

/-- The request has been recorded, and waits for its approval. -/
structure Recorded (disk : Disk) : Prop where
  pending : ∃ pending, disk.pendingOf request = some pending ∧ pending.request = request ∧ pending.status = .pending
  offer : ∃ stored, disk.registry.offers.get request.request.offerId = some stored ∧ stored.signedOffer = signedOffer
  acceptable : disk.Acceptable request

/-- The request has been approved, and its device is still the one of the approval. -/
structure Done (response : SignedPairingResponse) (disk : Disk) : Prop where
  pending : ∃ pending, disk.pendingOf request = some pending ∧ pending.request = request ∧
    pending.status = .approved ∧ pending.response = some response
  device : ∃ record, disk.registry.trustedDevices.get request.request.deviceId = some record ∧
    record.status = .active ∧ request.request.expiresAt ≤ record.certificate.certificate.expiresAt ∧
    record.certificate.certificate.certificateId = response.response.certificate.certificate.certificateId

inductive Staged (disk : Disk) : Prop
  | opened (h : Opened request signedOffer disk)
  | recorded (h : Recorded request signedOffer disk)
  | done (response : SignedPairingResponse) (h : Done request response disk)

/-- A stage at which a delivery may end. -/
def Settled (disk : Disk) : Prop := Staged request signedOffer disk ∧ ¬ disk.Unrecorded identity request signedOffer

variable {identity} {request} {signedOffer} {disk disk' : Disk} {response response' : SignedPairingResponse}

theorem Persisted.approved (h : Persisted request.request.requestId response disk) : disk.Approved request := by
  obtain ⟨pending,hget,hstatus,-⟩ := h
  exact ⟨pending,hget,hstatus⟩

theorem Opened.not_approved (h : Opened request signedOffer disk) : ¬ disk.Approved request := by
  rintro ⟨pending,hget,-⟩
  rw [h.unrecorded] at hget
  cases hget

theorem Recorded.not_approved (h : Recorded request signedOffer disk) : ¬ disk.Approved request := by
  rintro ⟨pending,hget,hstatus⟩
  obtain ⟨pending',hget',-,hstatus'⟩ := h.pending
  obtain rfl := Option.some.inj (hget.symm.trans hget')
  rw [hstatus] at hstatus'
  cases hstatus'

theorem Done.approved (h : Done request response disk) : disk.Approved request := by
  obtain ⟨pending,hget,-,hstatus,-⟩ := h.pending
  exact ⟨pending,hget,hstatus⟩

theorem Recorded.recorded (h : Recorded request signedOffer disk) : ¬ disk.Unrecorded identity request signedOffer := by
  rintro ⟨hnone,-⟩
  obtain ⟨pending,hget,-⟩ := h.pending
  rw [hnone] at hget
  cases hget

theorem Done.recorded (h : Done request response disk) : ¬ disk.Unrecorded identity request signedOffer := by
  rintro ⟨hnone,-⟩
  obtain ⟨pending,hget,-⟩ := h.pending
  rw [hnone] at hget
  cases hget

theorem Recorded.settled (h : Recorded request signedOffer disk) : Settled identity request signedOffer disk :=
  ⟨.recorded h,h.recorded⟩

theorem Done.settled (h : Done request response disk) : Settled identity request signedOffer disk :=
  ⟨.done response h,h.recorded⟩

theorem Done.persisted (h : Done request response disk) : Persisted request.request.requestId response disk := by
  obtain ⟨pending,hget,-,hstatus,hresponse⟩ := h.pending
  exact ⟨pending,hget,hstatus,hresponse⟩

section

variable (huntouched : Untouched identity request signedOffer disk disk')
include huntouched

theorem Disk.Approved.untouched : disk'.Approved request ↔ disk.Approved request := by
  rw [Disk.Approved,Disk.Approved,huntouched.pending]

theorem Opened.untouched (h : Opened request signedOffer disk) : Opened request signedOffer disk' where
  unrecorded := huntouched.pending.trans h.unrecorded
  open_ := by
    obtain ⟨stored,hget,hstored⟩ := h.open_
    exact ⟨stored,(huntouched.offer h.not_approved).trans hget,hstored⟩
  acceptable := huntouched.acceptable h.not_approved h.acceptable

theorem Recorded.untouched (h : Recorded request signedOffer disk) : Recorded request signedOffer disk' where
  pending := by
    rw [huntouched.pending]
    exact h.pending
  offer := by
    rw [huntouched.offer h.not_approved]
    exact h.offer
  acceptable := huntouched.acceptable h.not_approved h.acceptable

theorem Done.untouched (h : Done request response disk) : Done request response disk' where
  pending := by
    rw [huntouched.pending]
    exact h.pending
  device := by
    rw [huntouched.device h.approved]
    exact h.device

theorem Staged.untouched (h : Staged request signedOffer disk) : Staged request signedOffer disk' := by
  cases h with
  | opened h => exact .opened (h.untouched huntouched)
  | recorded h => exact .recorded (h.untouched huntouched)
  | done response h => exact .done response (h.untouched huntouched)

theorem Disk.Unrecorded.untouched
    (h : ¬ disk.Unrecorded identity request signedOffer) : ¬ disk'.Unrecorded identity request signedOffer := by
  rintro ⟨hnone,hclaimed⟩
  rw [huntouched.pending] at hnone
  exact huntouched.claims (fun hclaimed => h ⟨hnone,hclaimed⟩) hclaimed

theorem Settled.untouched (h : Settled identity request signedOffer disk) :
    Settled identity request signedOffer disk' :=
  ⟨h.1.untouched huntouched,Disk.Unrecorded.untouched huntouched h.2⟩

theorem Untouched.persisted
    (h : Persisted request.request.requestId response disk) : Persisted request.request.requestId response disk' := by
  obtain ⟨pending,hget,hkept⟩ := h
  exact ⟨pending,huntouched.pending.trans hget,hkept⟩

end

theorem Untouched.trans {disk'' : Disk} (h : Untouched identity request signedOffer disk disk')
    (h' : Untouched identity request signedOffer disk' disk'') :
    Untouched identity request signedOffer disk disk'' := by
  have happroved := Disk.Approved.untouched h
  refine ⟨h'.pending.trans h.pending,fun hnot => ?_,fun hnot => h'.claims (h.claims hnot),fun hnot hacceptable => ?_,
    fun hdone => ?_⟩
  · exact (h'.offer (mt happroved.mp hnot)).trans (h.offer hnot)
  · exact h'.acceptable (mt happroved.mp hnot) (h.acceptable hnot hacceptable)
  · exact (h'.device (happroved.mpr hdone)).trans (h.device hdone)

/-- Two disks with the same books and claims. -/
structure Alike (disk disk' : Disk) : Prop where
  books : disk'.books = disk.books
  claims : disk'.claims = disk.claims

theorem Alike.refl (disk : Disk) : Alike disk disk := ⟨rfl,rfl⟩

theorem Alike.untouched (h : Alike disk disk') : Untouched identity request signedOffer disk disk' := by
  have hoffers : disk'.registry.offers = disk.registry.offers := congrArg Books.offers h.books
  have hpending : disk'.registry.pending = disk.registry.pending := congrArg Books.pending h.books
  have hdevices : disk'.registry.trustedDevices = disk.registry.trustedDevices := congrArg Books.devices h.books
  refine ⟨?_,fun _ => ?_,fun hnot => ?_,fun _ hacceptable => ⟨?_,?_⟩,fun _ => ?_⟩
  · rw [Disk.pendingOf,Disk.pendingOf,hpending]
  · rw [hoffers]
  · rwa [Disk.Claimed,h.claims]
  · rw [hdevices]
    exact hacceptable.own
  · rw [PairingState.keyTaken,hdevices]
    exact hacceptable.free
  · rw [hdevices]

theorem claimAll_of_unclaimed {now : ℕ} {stored : InsertionMap JsString ℕ} {claims : List (JsString × ℕ)}
    (h : ∀ claim ∈ claims,stored.has claim.1 = false) : (claimAll stored claims now).1 := by
  rw [claimAll]
  have hnone : (claims.any fun claim => (stored.filter fun _ expiresAt => decide (now < expiresAt)).has claim.1) =
      false := by
    rw [List.any_eq_false]
    intro claim hclaim hhas
    obtain ⟨expiresAt,hget⟩ := InsertionMap.has_iff.mp hhas
    have hstored : stored.has claim.1 := InsertionMap.has_iff.mpr ⟨expiresAt,(InsertionMap.get_filter.mp hget).1⟩
    rw [h claim hclaim] at hstored
    cases hstored
  rw [hnone,if_neg (by simp)]

theorem Opened.record (h : Opened request signedOffer disk) (hnamed : Named request) (pending : StoredPendingPairing)
    (now : ℕ) (hrequest : pending.request = request) :
    ∃ next, disk.registry.addVerifiedRequest request.request.offerId pending now = .ok ((),some next) ∧
      next.pending = disk.registry.pending.set request.request.requestId pending ∧
      next.trustedDevices = disk.registry.trustedDevices ∧
      ∃ stored, next.offers.get request.request.offerId = some stored ∧ stored.signedOffer = signedOffer := by
  obtain ⟨stored,hget,hstatus,hsigned⟩ := h.open_
  have hnew : PlainObject.holds id disk.registry.pending pending.request.request.requestId = false := by
    rw [hrequest]
    exact PlainObject.holds_eq_false_iff.mpr ⟨h.unrecorded,hnamed.requestId⟩
  rw [PairingState.addVerifiedRequest,hget]
  simp only [hstatus,ne_eq,not_true_eq_false,if_false,hnew,Bool.false_eq_true]
  refine ⟨_,rfl,?_,rfl,_,InsertionMap.get_set_self _ _ _,hsigned⟩
  rw [hrequest]

theorem Recorded.approve (h : Recorded request signedOffer disk) (hnamed : Named request)
    (certificate : SignedPairingCertificate) (response : SignedPairingResponse) (now : ℕ)
    (grant : Option SignedWorkspaceDeviceGrant)
    (hdevice : certificate.certificate.deviceId = request.request.deviceId)
    (hkey : certificate.certificate.deviceKey = request.request.deviceKey) :
    ∃ record next pending', disk.registry.approve request.request.requestId certificate response now grant =
        .ok (record,some next) ∧
      next.pending = disk.registry.pending.set request.request.requestId pending' ∧ pending'.request = request ∧
      pending'.status = .approved ∧ pending'.response = some response ∧
      next.trustedDevices = disk.registry.trustedDevices.set request.request.deviceId record ∧
      record.status = .active ∧ record.certificate = certificate := by
  obtain ⟨pending,hget,hrequest,hstatus⟩ := h.pending
  have hrebinds : disk.registry.rebinds certificate.certificate = false := by
    rw [PairingState.rebinds,hdevice,hkey]
    cases hrecord : disk.registry.trustedDevices.get request.request.deviceId with
    | none => rfl
    | some record =>
      by_cases hactive : record.status = .active
      · simp [h.acceptable.own record hrecord hactive]
      · simp [hactive]
  have hfree : disk.registry.keyTaken certificate.certificate.deviceId certificate.certificate.deviceKey.keyId =
      false := by
    rw [hdevice,hkey]
    exact h.acceptable.free
  have hget' : disk.registry.pending.get request.request.requestId = some pending := hget
  rw [PairingState.approve,hget']
  simp only [hstatus,ne_eq,not_true_eq_false,if_false,hrebinds,hfree,Bool.false_eq_true]
  refine ⟨_,_,_,rfl,rfl,hrequest,rfl,rfl,?_,rfl,rfl⟩
  rw [hdevice]
  exact PlainObject.assign_of_not_inherits hnamed.deviceId

end Malink.Pairing
