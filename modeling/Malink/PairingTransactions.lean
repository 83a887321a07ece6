import Malink.PairingMoves

/-!
# The transactions as moves of the books

Each transaction of the registry that has been done is a move of the books, or leaves them as they are.
-/

namespace Malink.Pairing

open DurableProgram PairingState

theorem Disk.transact_eq_ok {α : Type} {disk disk' : Disk} {transition : Transition α} {value : α} :
    disk.transact transition = .ok (value,disk') ↔
      ∃ next, transition = .ok (value,next) ∧ disk' = { disk with registry := next.getD disk.registry } := by
  cases transition with
  | error message => exact ⟨fun h => (by cases h),fun ⟨_,h,_⟩ => (by cases h)⟩
  | ok outcome =>
    obtain ⟨result,next⟩ := outcome
    constructor
    · intro h
      cases h
      exact ⟨next,rfl,rfl⟩
    · rintro ⟨_,h,rfl⟩
      cases h
      rfl

/-- A transaction that reads a clone. -/
theorem Disk.transact_copy {α : Type} {disk disk' : Disk} {found : Except JsString α} {value : α}
    (h : disk.transact (found.map (·,none)) = .ok (value,disk')) : disk' = disk ∧ found = .ok value := by
  cases found with
  | error message => cases h
  | ok found =>
    cases h
    exact ⟨rfl,rfl⟩

variable {u : Unit}

namespace PairingState

variable {state : PairingState} {offerId requestId deviceId : JsString} {now : ℕ} {next : Option PairingState}

structure ClosesOffers (state next : PairingState) : Prop where
  offers : Closes state.offers next.offers
  pending : next.pending = state.pending
  devices : next.trustedDevices = state.trustedDevices

theorem closesOffers_refl (state : PairingState) : ClosesOffers state state :=
  ⟨fun _ stored h => ⟨stored,h,.inl rfl⟩,rfl,rfl⟩

theorem closesOffers_set {stored stored' : StoredPairingOffer} (hget : state.offers.get offerId = some stored)
    (hopen : stored.status = .open_) (hclosed : stored'.status ≠ .open_)
    (hsame : stored'.signedOffer = stored.signedOffer) :
    ClosesOffers state { state with offers := state.offers.set offerId stored' } := by
  refine ⟨fun offerId' after hget' => ?_,rfl,rfl⟩
  rcases InsertionMap.get_set_cases hget' with ⟨rfl,rfl⟩ | ⟨_,hother⟩
  · exact ⟨stored,hget,.inr ⟨hopen,hclosed,hsame⟩⟩
  · exact ⟨after,hother,.inl rfl⟩

theorem closesOffers_mapValues : Closes state.offers (state.offers.mapValues (StoredPairingOffer.expireDue now)) := by
  intro offerId after hget
  rw [InsertionMap.get_mapValues] at hget
  obtain ⟨stored,hstored,rfl⟩ := Option.map_eq_some_iff.mp hget
  refine ⟨stored,hstored,?_⟩
  rw [StoredPairingOffer.expireDue]
  split
  · next hdue => exact .inr ⟨hdue.1,nofun,rfl⟩
  · exact .inl rfl

theorem closesOffers_withOffers {offers : InsertionMap JsString StoredPairingOffer}
    (h : Closes state.offers offers) : ClosesOffers state ((state.withOffers offers).getD state) := by
  rw [withOffers]
  split
  · exact closesOffers_refl state
  · exact ⟨h,rfl,rfl⟩

theorem getOffer_closes {value : Option SignedPairingOffer} (h : state.getOffer offerId now = .ok (value,next)) :
    ClosesOffers state (next.getD state) := by
  rw [getOffer] at h
  split at h
  · cases h
    exact closesOffers_refl state
  · next stored hget =>
    split at h
    · next hdue =>
      cases h
      exact closesOffers_set hget hdue.1 nofun rfl
    · cases h
      exact closesOffers_refl state

theorem cancelOffer_eq_ok {value : Bool} (h : state.cancelOffer offerId now = .ok (value,next)) :
    (value = false ∧ next = none) ∨ ∃ stored after, state.offers.get offerId = some stored ∧ stored.status = .open_ ∧
      after.status = (if value then .cancelled else .expired) ∧ after.signedOffer = stored.signedOffer ∧
        next = some { state with offers := state.offers.set offerId after } := by
  rw [cancelOffer] at h
  split at h
  · cases h
    exact .inl ⟨rfl,rfl⟩
  · next stored hget =>
    split at h
    · cases h
      exact .inl ⟨rfl,rfl⟩
    · next hopen =>
      have hstatus : stored.status = .open_ := not_not.mp hopen
      split at h
      · cases h
        refine .inr ⟨stored,_,hget,hstatus,?_,?_,rfl⟩ <;> rfl
      · cases h
        refine .inr ⟨stored,_,hget,hstatus,?_,?_,rfl⟩ <;> rfl

theorem cancelOffer_closes {value : Bool} (h : state.cancelOffer offerId now = .ok (value,next)) :
    ClosesOffers state (next.getD state) := by
  obtain ⟨-,rfl⟩ | ⟨stored,after,hget,hopen,hafter,hsame,rfl⟩ := cancelOffer_eq_ok h
  · exact closesOffers_refl state
  · refine closesOffers_set hget hopen ?_ hsame
    rw [hafter]
    cases value <;> nofun

theorem listOffers_closes {value : List StoredPairingOffer} (h : state.listOffers now = .ok (value,next)) :
    ClosesOffers state (next.getD state) := by
  rw [listOffers] at h
  cases h
  exact closesOffers_withOffers closesOffers_mapValues

theorem pruneOffers_closes {retentionMs : ℕ} {value : ℕ × ℕ}
    (h : state.pruneOffers now retentionMs = .ok (value,next)) : ClosesOffers state (next.getD state) := by
  rw [pruneOffers] at h
  cases h
  refine closesOffers_withOffers fun offerId after hget => ?_
  exact closesOffers_mapValues offerId after (InsertionMap.get_filter.mp hget).1

theorem addOffer_eq_ok {signedOffer : SignedPairingOffer} {source : Option PairingOfferSource}
    (h : state.addOffer signedOffer source = .ok (u,next)) : next = some { state with
      offers := state.offers.set signedOffer.offer.offerId ⟨signedOffer,.open_,source,none,none,none,none⟩ } := by
  rw [addOffer] at h
  split at h
  · cases h
  · cases h
    rfl

theorem addVerifiedRequest_eq_ok {pending : StoredPendingPairing}
    (h : state.addVerifiedRequest offerId pending now = .ok (u,next)) :
    ∃ offer, state.offers.get offerId = some offer ∧ offer.status = .open_ ∧
      state.pending.get pending.request.request.requestId = none ∧ next = some { state with
        offers := state.offers.set offerId { offer with
          status := .consumed, consumedAt := some now, requestId := some pending.request.request.requestId }
        pending := state.pending.set pending.request.request.requestId pending } := by
  rw [addVerifiedRequest] at h
  split at h
  · cases h
  · next offer hget =>
    split at h
    · cases h
    · next hopen =>
      split at h
      · cases h
      · next hnew =>
        cases h
        have hfree := PlainObject.holds_eq_false_iff.mp (Bool.eq_false_of_not_eq_true hnew)
        exact ⟨offer,hget,not_not.mp hopen,hfree.1,rfl⟩

theorem approve_eq_ok {certificate : SignedPairingCertificate} {response : SignedPairingResponse}
    {workspaceGrant : Option SignedWorkspaceDeviceGrant} {value : TrustedDeviceRecord}
    (h : state.approve requestId certificate response now workspaceGrant = .ok (value,next)) :
    ∃ pending, state.pending.get requestId = some pending ∧ pending.status = .pending ∧
      state.rebinds certificate.certificate = false ∧
      state.keyTaken certificate.certificate.deviceId certificate.certificate.deviceKey.keyId = false ∧
      value = ⟨.active,certificate,workspaceGrant,certificate.certificate.gatewayTransport,now,none,none⟩ ∧
      next = some { state with
        pending := state.pending.set requestId { pending with
          status := .approved, decidedAt := some now, response := some response }
        trustedDevices := PlainObject.assign id state.trustedDevices certificate.certificate.deviceId
          ⟨.active,certificate,workspaceGrant,certificate.certificate.gatewayTransport,now,none,none⟩
        gatewayTransport := some certificate.certificate.gatewayTransport } := by
  rw [approve] at h
  split at h
  · cases h
  · next pending hget =>
    split at h
    · cases h
    · next hstatus =>
      split at h
      · cases h
      · next hrebinds =>
        split at h
        · cases h
        · next htaken =>
          cases h
          exact ⟨pending,hget,not_not.mp hstatus,Bool.eq_false_of_not_eq_true hrebinds,
            Bool.eq_false_of_not_eq_true htaken,rfl,rfl⟩

theorem deny_eq_ok (h : state.deny requestId now = .ok (u,next)) :
    ∃ pending, state.pending.get requestId = some pending ∧ pending.status = .pending ∧ next = some { state with
      pending := state.pending.set requestId { pending with status := .denied, decidedAt := some now } } := by
  rw [deny] at h
  split at h
  · cases h
  · next pending hget =>
    split at h
    · cases h
    · next hstatus =>
      cases h
      exact ⟨pending,hget,not_not.mp hstatus,rfl⟩

theorem revoke_eq_ok {reason : Option JsString} (h : state.revoke deviceId reason now = .ok (u,next)) :
    next = some state ∨ ∃ record, state.trustedDevices.get deviceId = some record ∧ next = some { state with
      trustedDevices := state.trustedDevices.set deviceId { record with
        status := .revoked, revokedAt := some now
        revocationReason := (reason.filter JsString.truthy).or record.revocationReason } } := by
  rw [revoke] at h
  split at h
  · split at h
    · cases h
      exact .inl rfl
    · cases h
  · next record hget =>
    split at h
    · cases h
    · cases h
      exact .inr ⟨record,hget,rfl⟩

theorem reserveGatewayIssuedAt_eq_ok {issuedAt : ℕ} (h : state.reserveGatewayIssuedAt now = .ok (issuedAt,next)) :
    next = some { state with gatewayIssuedAt := some issuedAt } := by
  rw [reserveGatewayIssuedAt] at h
  split at h
  · cases h
  · split at h
    · cases h
    · cases h
      rfl

/-- A key that is free is nobody else's. -/
theorem of_keyTaken_eq_false {keyId : JsString} (h : state.keyTaken deviceId keyId = false) :
    ∀ deviceId' record, state.trustedDevices.get deviceId' = some record → record.status = .active →
      record.certificate.certificate.deviceKey.keyId = keyId →
      record.certificate.certificate.deviceId = deviceId := by
  intro deviceId' record hget hactive hkey
  by_contra hne
  have htaken : state.keyTaken deviceId keyId := by
    refine List.any_eq_true.mpr ⟨record,InsertionMap.mem_values.mpr ⟨deviceId',hget⟩,?_⟩
    simp [hactive,hkey,hne]
  rw [h] at htaken
  cases htaken

theorem of_rebinds_eq_false {certificate : PairingCertificate} (h : state.rebinds certificate = false) :
    ∀ record, state.trustedDevices.get certificate.deviceId = some record → record.status = .active →
      record.certificate.certificate.deviceKey = certificate.deviceKey := by
  intro record hget hactive
  rw [rebinds,hget] at h
  by_contra hne
  simp [hactive,hne] at h

end PairingState

variable (identity : GatewayPairingIdentity) (options : ServiceOptions)

/-- What a call must ask for the books to stay sound. -/
def Allowed : Ask → Disk → Prop
  | .addVerifiedRequest offerId pending _, disk => offerId = pending.request.request.offerId ∧
      pending.status = .pending ∧ pending.response = none ∧
      ∃ signedOffer, Answered identity disk.offered pending signedOffer
  | .approve requestId certificate response _ workspaceGrant, disk => ∃ pending signedOffer,
      disk.registry.pending.get requestId = some pending ∧ Answered identity disk.offered pending signedOffer ∧
        Granted identity signedOffer pending.request response ∧ certificate = response.response.certificate ∧
        workspaceGrant = some response.response.workspaceGrant
  | _, _ => True

variable {identity} {options} {disk disk' : Disk} {ask : Ask}

theorem closes_moves {next : PairingState} (h : PairingState.ClosesOffers disk.registry next) :
    Books.Move identity disk.books { disk with registry := next }.books := by
  have hbooks : { disk with registry := next }.books = { disk.books with offers := next.offers } := by
    simp [Disk.books,h.pending,h.devices]
  rw [hbooks]
  exact .close next.offers h.offers

theorem answers_moves {value : ask.Reply} (hallowed : Allowed identity ask disk)
    (h : Answers disk ask (.ok (value,disk'))) :
    disk'.books = disk.books ∨ Books.Move identity disk.books disk'.books := by
  cases ask with
  | getPending | get => exact .inl (congrArg Disk.books (Disk.transact_copy h.symm).1)
  | getOfferForAudit | listActive =>
    obtain ⟨next,hnext,rfl⟩ := Disk.transact_eq_ok.mp h.symm
    cases hnext
    exact .inl rfl
  | getOffer offerId now =>
    obtain ⟨next,hnext,rfl⟩ := Disk.transact_eq_ok.mp h.symm
    exact .inr (closes_moves (getOffer_closes hnext))
  | addOffer signedOffer source =>
    obtain ⟨hfresh,h⟩ := h
    obtain ⟨next,hnext,rfl⟩ := Disk.transact_eq_ok.mp h.symm
    obtain rfl := addOffer_eq_ok hnext
    exact .inr (.offer signedOffer source hfresh)
  | claimAll | sendRejection =>
    cases h
    exact .inl rfl
  | addVerifiedRequest offerId pending now =>
    obtain ⟨next,hnext,rfl⟩ := Disk.transact_eq_ok.mp h.symm
    obtain ⟨offer,hoffer,hopen,hnew,rfl⟩ := addVerifiedRequest_eq_ok hnext
    obtain ⟨rfl,hstatus,hresponse,hanswered⟩ := hallowed
    exact .inr (.record pending offer now hoffer hopen hnew hresponse hstatus hanswered)
  | approve requestId certificate response now workspaceGrant =>
    obtain ⟨next,hnext,rfl⟩ := Disk.transact_eq_ok.mp h.symm
    obtain ⟨pending,hget,hstatus,hrebinds,htaken,-,rfl⟩ := approve_eq_ok hnext
    obtain ⟨pending',signedOffer,hget',hanswered,hgranted,rfl,rfl⟩ := hallowed
    obtain rfl := Option.some.inj (hget'.symm.trans hget)
    exact .inr (.approve requestId pending' response now signedOffer hget hstatus hanswered hgranted
      (of_keyTaken_eq_false htaken) (of_rebinds_eq_false hrebinds))
  | deny requestId now =>
    obtain ⟨next,hnext,rfl⟩ := Disk.transact_eq_ok.mp h.symm
    obtain ⟨pending,hget,hstatus,rfl⟩ := deny_eq_ok hnext
    exact .inr (.deny requestId pending now hget hstatus)
  | revoke deviceId reason now =>
    obtain ⟨next,hnext,rfl⟩ := Disk.transact_eq_ok.mp h.symm
    rcases revoke_eq_ok hnext with rfl | ⟨record,hget,rfl⟩
    · exact .inl rfl
    · exact .inr (.revoke deviceId record _ now hget)
  | cancelOffer offerId now =>
    obtain ⟨next,hnext,rfl⟩ := Disk.transact_eq_ok.mp h.symm
    exact .inr (closes_moves (cancelOffer_closes hnext))
  | listOffers now =>
    obtain ⟨next,hnext,rfl⟩ := Disk.transact_eq_ok.mp h.symm
    exact .inr (closes_moves (listOffers_closes hnext))
  | pruneOffers now retentionMs =>
    obtain ⟨next,hnext,rfl⟩ := Disk.transact_eq_ok.mp h.symm
    exact .inr (closes_moves (pruneOffers_closes hnext))
  | reserveGatewayIssuedAt now =>
    obtain ⟨next,hnext,rfl⟩ := Disk.transact_eq_ok.mp h.symm
    obtain rfl := reserveGatewayIssuedAt_eq_ok hnext
    exact .inl rfl
  | randomUUID | generatePairingChallenge | workspaceDirectory =>
    obtain ⟨_,h⟩ := h
    cases h
    exact .inl rfl

theorem hostStep_moves {reply : Except JsString ask.Reply} (hallowed : Allowed identity ask disk)
    (h : HostStep disk ask reply disk') : disk'.books = disk.books ∨ Books.Move identity disk.books disk'.books := by
  rcases h.disk_cases with rfl | ⟨value,hanswers⟩
  · exact .inl rfl
  · exact answers_moves hallowed hanswers

end Malink.Pairing
