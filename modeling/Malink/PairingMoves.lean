import Malink.PairingBooks

/-!
# The books stay sound

Each move keeps what holds of the books, and the books only evolve.
-/

namespace Malink.Pairing

open InsertionMap (get_set_cases get_set_of_ne)

namespace Books

variable {identity : GatewayPairingIdentity} {books books' : Books}
  {decided : StoredPendingPairing} {devices : InsertionMap JsString TrustedDeviceRecord}

section

variable {requestId : JsString} {pending : StoredPendingPairing}

theorem Sound.response_eq_none (h : Sound identity books) (hget : books.pending.get requestId = some pending)
    (hstatus : pending.status = .pending) : pending.response = none := by
  cases hresponse : pending.response with
  | none => rfl
  | some response =>
    obtain ⟨happroved,-⟩ := h.granted hget hresponse
    rw [hstatus] at happroved
    cases happroved

/-- An entry of the requests after a decision has the request of before. -/
theorem decided_cases {pending' : StoredPendingPairing} {requestId' : JsString}
    (hget : books.pending.get requestId = some pending) (hrequest : decided.request = pending.request)
    (hreceived : decided.receivedAt = pending.receivedAt)
    (h : (books.pending.set requestId decided).get requestId' = some pending') :
    ∃ before, books.pending.get requestId' = some before ∧ pending'.request = before.request ∧
      pending'.receivedAt = before.receivedAt := by
  rcases get_set_cases h with ⟨rfl,rfl⟩ | ⟨_,hother⟩
  · exact ⟨pending,hget,hrequest,hreceived⟩
  · exact ⟨pending',hother,rfl,rfl⟩

/-- A decision of a waiting request keeps what does not depend on the decision. -/
theorem decided_evolves (hget : books.pending.get requestId = some pending) (hstatus : pending.status = .pending)
    (hrequest : decided.request = pending.request) (hreceived : decided.receivedAt = pending.receivedAt) :
    Evolves books { books with pending := books.pending.set requestId decided, devices } where
  offered _ := id
  pending {requestId' pending'} hget' := by
    by_cases heq : requestId' = requestId
    · subst heq
      obtain rfl := Option.some.inj (hget'.symm.trans hget)
      exact ⟨decided,InsertionMap.get_set_self _ _ _,hrequest,hreceived,fun hdecided => absurd hstatus hdecided⟩
    · exact ⟨pending',(get_set_of_ne _ _ heq).trans hget',rfl,rfl,fun _ => rfl⟩
  closed hclosed := by
    refine ⟨hclosed.offered,hclosed.closed,fun requestId' pending' hget' => ?_⟩
    obtain ⟨before,hbefore,hsame,-⟩ := decided_cases hget hrequest hreceived hget'
    rw [hsame]
    exact hclosed.unanswered requestId' before hbefore

end

variable {signedOffer : SignedPairingOffer} {source : Option PairingOfferSource}

theorem Sound.offer (h : Sound identity books)
    (hnew : signedOffer.offer.offerId ∉ books.offered.map (·.offer.offerId)) : Sound identity { books with
      offered := signedOffer :: books.offered
      offers := books.offers.set signedOffer.offer.offerId ⟨signedOffer,.open_,source,none,none,none,none⟩ } where
  distinct := List.nodup_cons.mpr ⟨hnew,h.distinct⟩
  offers hget := by
    rcases get_set_cases hget with ⟨rfl,rfl⟩ | ⟨_,hother⟩
    · exact ⟨rfl,List.mem_cons_self⟩
    · exact ⟨(h.offers hother).1,List.mem_cons_of_mem _ (h.offers hother).2⟩
  pending hget := by
    obtain ⟨hid,offer,hanswered⟩ := h.pending hget
    exact ⟨hid,offer,hanswered.mono (fun _ => List.mem_cons_of_mem _) rfl rfl⟩
  consumed hget hstored := by
    rcases get_set_cases hstored with ⟨hid,-⟩ | ⟨_,hother⟩
    · -- no request answers an offer that has not been made
      obtain ⟨-,offer,hanswered⟩ := h.pending hget
      rw [hanswered.request.offerId] at hid
      exact absurd (hid ▸ List.mem_map_of_mem hanswered.mem) hnew
    · exact h.consumed hget hother
  single := h.single
  granted hget hresponse := by
    obtain ⟨hstatus,offer,hanswered,hgranted⟩ := h.granted hget hresponse
    exact ⟨hstatus,offer,hanswered.mono (fun _ => List.mem_cons_of_mem _) rfl rfl,hgranted⟩
  devices := h.devices
  keys := h.keys

theorem offer_evolves (hnew : signedOffer.offer.offerId ∉ books.offered.map (·.offer.offerId)) :
    Evolves books { books with
      offered := signedOffer :: books.offered
      offers := books.offers.set signedOffer.offer.offerId ⟨signedOffer,.open_,source,none,none,none,none⟩ } where
  offered _ := List.mem_cons_of_mem _
  pending hget := ⟨_,hget,rfl,rfl,fun _ => rfl⟩
  closed hclosed := by
    refine ⟨List.mem_cons_of_mem _ hclosed.offered,fun stored hget => ?_,hclosed.unanswered⟩
    rcases get_set_cases hget with ⟨rfl,-⟩ | ⟨_,hother⟩
    · exact absurd hclosed.offered hnew
    · exact hclosed.closed stored hother

variable {offers : InsertionMap JsString StoredPairingOffer}

theorem Sound.close (h : Sound identity books) (hcloses : Closes books.offers offers) :
    Sound identity { books with offers } where
  distinct := h.distinct
  offers hget := by
    obtain ⟨stored,hstored,rfl | ⟨_,_,hsame⟩⟩ := hcloses _ _ hget
    · exact h.offers hstored
    · rw [hsame]
      exact h.offers hstored
  pending := h.pending
  consumed hget hstored' := by
    obtain ⟨stored,hstored,rfl | ⟨hopen,-⟩⟩ := hcloses _ _ hstored'
    · exact h.consumed hget hstored
    · have hconsumed := h.consumed hget hstored
      rw [hopen] at hconsumed
      cases hconsumed
  single := h.single
  granted := h.granted
  devices := h.devices
  keys := h.keys

theorem close_evolves (hcloses : Closes books.offers offers) : Evolves books { books with offers } where
  offered _ := id
  pending hget := ⟨_,hget,rfl,rfl,fun _ => rfl⟩
  closed hclosed := by
    refine ⟨hclosed.offered,fun stored' hget => ?_,hclosed.unanswered⟩
    obtain ⟨stored,hstored,rfl | ⟨_,hclosed',_⟩⟩ := hcloses _ _ hget
    · exact hclosed.closed _ hstored
    · exact hclosed'

section

variable {pending : StoredPendingPairing} {offer consumed : StoredPairingOffer}

theorem Sound.record (h : Sound identity books)
    (hoffer : books.offers.get pending.request.request.offerId = some offer) (hopen : offer.status = .open_)
    (hnew : books.pending.get pending.request.request.requestId = none) (hresponse : pending.response = none)
    (hanswered : ∃ signedOffer,Answered identity books.offered pending signedOffer)
    (hsame : consumed.signedOffer = offer.signedOffer) (hconsumed : consumed.status = .consumed) :
    Sound identity { books with
      offers := books.offers.set pending.request.request.offerId consumed
      pending := books.pending.set pending.request.request.requestId pending } := by
  have hfree : ∀ requestId before,books.pending.get requestId = some before →
      before.request.request.offerId ≠ pending.request.request.offerId := by
    intro requestId before hget heq
    have hstatus := h.consumed hget ((congrArg books.offers.get heq).trans hoffer)
    rw [hopen] at hstatus
    cases hstatus
  have hkeeps : ∀ {requestId before},books.pending.get requestId = some before →
      (books.pending.set pending.request.request.requestId pending).get requestId = some before := by
    intro requestId before hget
    have hne : requestId ≠ pending.request.request.requestId := by
      rintro rfl
      rw [hnew] at hget
      cases hget
    exact (get_set_of_ne _ _ hne).trans hget
  refine ⟨h.distinct,?_,?_,?_,?_,?_,?_,h.keys⟩
  · intro offerId stored hget
    rcases get_set_cases hget with ⟨rfl,rfl⟩ | ⟨_,hother⟩
    · rw [hsame]
      exact h.offers hoffer
    · exact h.offers hother
  · intro requestId pending' hget
    rcases get_set_cases hget with ⟨rfl,rfl⟩ | ⟨_,hother⟩
    · exact ⟨rfl,hanswered.imp fun _ hanswered => hanswered.mono (fun _ => id) rfl rfl⟩
    · obtain ⟨hid,signedOffer,hbefore⟩ := h.pending hother
      exact ⟨hid,signedOffer,hbefore.mono (fun _ => id) rfl rfl⟩
  · intro requestId pending' stored hget hstored
    rcases get_set_cases hstored with ⟨_,rfl⟩ | ⟨hne,hstored⟩
    · exact hconsumed
    · rcases get_set_cases hget with ⟨rfl,rfl⟩ | ⟨_,hother⟩
      · exact absurd rfl hne
      · exact h.consumed hother hstored
  · intro requestId requestId' pending₁ pending₂ hget₁ hget₂ heq
    rcases get_set_cases hget₁ with ⟨rfl,rfl⟩ | ⟨_,hother₁⟩
    · rcases get_set_cases hget₂ with ⟨rfl,rfl⟩ | ⟨_,hother₂⟩
      · rfl
      · exact absurd heq.symm (hfree _ _ hother₂)
    · rcases get_set_cases hget₂ with ⟨rfl,rfl⟩ | ⟨_,hother₂⟩
      · exact absurd heq (hfree _ _ hother₁)
      · exact h.single hother₁ hother₂ heq
  · intro requestId pending' response hget hresponse'
    rcases get_set_cases hget with ⟨rfl,rfl⟩ | ⟨_,hother⟩
    · rw [hresponse] at hresponse'
      cases hresponse'
    · obtain ⟨hstatus,signedOffer,hbefore,hgranted⟩ := h.granted hother hresponse'
      exact ⟨hstatus,signedOffer,hbefore.mono (fun _ => id) rfl rfl,hgranted⟩
  · intro deviceId record hget
    obtain ⟨hid,requestId,before,response,hbefore,hresponse',hcertificate,hgrant⟩ := h.devices hget
    exact ⟨hid,requestId,before,response,hkeeps hbefore,hresponse',hcertificate,hgrant⟩

theorem record_evolves (hoffer : books.offers.get pending.request.request.offerId = some offer)
    (hopen : offer.status = .open_) (hnew : books.pending.get pending.request.request.requestId = none) :
    Evolves books { books with
      offers := books.offers.set pending.request.request.offerId consumed
      pending := books.pending.set pending.request.request.requestId pending } where
  offered _ := id
  pending {requestId before} hget := by
    have hne : requestId ≠ pending.request.request.requestId := by
      rintro rfl
      rw [hnew] at hget
      cases hget
    exact ⟨before,(get_set_of_ne _ _ hne).trans hget,rfl,rfl,fun _ => rfl⟩
  closed {offerId} hclosed := by
    have hne : offerId ≠ pending.request.request.offerId := by
      rintro rfl
      exact hclosed.closed offer hoffer hopen
    refine ⟨hclosed.offered,fun stored hget => ?_,fun requestId pending' hget => ?_⟩
    · exact hclosed.closed stored ((get_set_of_ne _ _ hne).symm.trans hget)
    · rcases get_set_cases hget with ⟨rfl,rfl⟩ | ⟨_,hother⟩
      · exact hne.symm
      · exact hclosed.unanswered requestId pending' hother

end

variable {deviceId : JsString}

section

variable {requestId : JsString} {pending decided : StoredPendingPairing}

section

variable (h : Sound identity books) (hget : books.pending.get requestId = some pending)
include h hget

theorem Sound.decide (hrequest : decided.request = pending.request)
    (hreceived : decided.receivedAt = pending.receivedAt)
    (hgranted : ∀ response,decided.response = some response → decided.status = .approved ∧ ∃ signedOffer,
      Answered identity books.offered pending signedOffer ∧ Granted identity signedOffer pending.request response)
    (hdevices : ∀ {deviceId record},devices.get deviceId = some record →
      record.certificate.certificate.deviceId = deviceId ∧ ∃ requestId' pending' response,
        (books.pending.set requestId decided).get requestId' = some pending' ∧ pending'.response = some response ∧
          record.certificate = response.response.certificate ∧
          record.workspaceGrant = some response.response.workspaceGrant)
    (hkeys : ∀ {deviceId deviceId' record record'},devices.get deviceId = some record →
      devices.get deviceId' = some record' → record.status = .active → record'.status = .active →
      record.certificate.certificate.deviceKey.keyId = record'.certificate.certificate.deviceKey.keyId →
        deviceId = deviceId') :
    Sound identity { books with pending := books.pending.set requestId decided, devices } := by
  refine ⟨h.distinct,h.offers,?_,?_,?_,?_,hdevices,hkeys⟩
  · intro requestId' pending' hget'
    obtain ⟨before,hbefore,hsame,hsameTime⟩ := decided_cases hget hrequest hreceived hget'
    obtain ⟨hid,signedOffer,hanswered⟩ := h.pending hbefore
    exact ⟨hsame ▸ hid,signedOffer,hanswered.mono (fun _ => id) hsame hsameTime⟩
  · intro requestId' pending' stored hget' hstored
    obtain ⟨before,hbefore,hsame,-⟩ := decided_cases hget hrequest hreceived hget'
    exact h.consumed hbefore (hsame ▸ hstored)
  · intro requestId₁ requestId₂ pending₁ pending₂ hget₁ hget₂ heq
    obtain ⟨before₁,hbefore₁,hsame₁,-⟩ := decided_cases hget hrequest hreceived hget₁
    obtain ⟨before₂,hbefore₂,hsame₂,-⟩ := decided_cases hget hrequest hreceived hget₂
    exact h.single hbefore₁ hbefore₂ (hsame₁ ▸ hsame₂ ▸ heq)
  · intro requestId' pending' response hget' hresponse
    rcases get_set_cases hget' with ⟨rfl,rfl⟩ | ⟨_,hother⟩
    · obtain ⟨hstatus,signedOffer,hanswered,hbound⟩ := hgranted response hresponse
      exact ⟨hstatus,signedOffer,hanswered.mono (fun _ => id) hrequest hreceived,hrequest ▸ hbound⟩
    · obtain ⟨hstatus,signedOffer,hanswered,hbound⟩ := h.granted hother hresponse
      exact ⟨hstatus,signedOffer,hanswered.mono (fun _ => id) rfl rfl,hbound⟩

variable {record : TrustedDeviceRecord}

/-- The certificate of a device that is trusted already is not the one that is decided about now. -/
theorem Sound.devices_decided (hstatus : pending.status = .pending)
    (hrecord : books.devices.get deviceId = some record) :
    record.certificate.certificate.deviceId = deviceId ∧ ∃ requestId' pending' response,
      (books.pending.set requestId decided).get requestId' = some pending' ∧ pending'.response = some response ∧
        record.certificate = response.response.certificate ∧
        record.workspaceGrant = some response.response.workspaceGrant := by
  obtain ⟨hid,requestId',pending',response,hget',hresponse,hcertificate⟩ := h.devices hrecord
  have hne : requestId' ≠ requestId := by
    rintro rfl
    obtain rfl := Option.some.inj (hget.symm.trans hget')
    rw [h.response_eq_none hget hstatus] at hresponse
    cases hresponse
  exact ⟨hid,requestId',pending',response,(get_set_of_ne _ _ hne).trans hget',hresponse,hcertificate⟩

theorem Sound.approve {response : SignedPairingResponse} (hstatus : pending.status = .pending)
    (hanswered : Answered identity books.offered pending signedOffer)
    (hgranted : Granted identity signedOffer pending.request response)
    (hkeys : ∀ deviceId record,books.devices.get deviceId = some record → record.status = .active →
      record.certificate.certificate.deviceKey.keyId = response.response.certificate.certificate.deviceKey.keyId →
      record.certificate.certificate.deviceId = response.response.certificate.certificate.deviceId)
    (hrequest : decided.request = pending.request) (hreceived : decided.receivedAt = pending.receivedAt)
    (hdecided : decided.status = .approved) (hresponse : decided.response = some response)
    (hcertificate : record.certificate = response.response.certificate)
    (hgrant : record.workspaceGrant = some response.response.workspaceGrant) : Sound identity { books with
      pending := books.pending.set requestId decided
      devices := PlainObject.assign id books.devices response.response.certificate.certificate.deviceId record } := by
  have hown : record.certificate.certificate.deviceId = response.response.certificate.certificate.deviceId := by
    rw [hcertificate]
  refine h.decide hget hrequest hreceived ?_ ?_ ?_
  · intro response' hresponse'
    obtain rfl := Option.some.inj (hresponse.symm.trans hresponse')
    exact ⟨hdecided,signedOffer,hanswered,hgranted⟩
  · intro deviceId record' hget'
    rcases PlainObject.get_assign_cases hget' with ⟨rfl,rfl⟩ | hother
    · exact ⟨hown,requestId,decided,response,InsertionMap.get_set_self _ _ _,hresponse,hcertificate,hgrant⟩
    · exact h.devices_decided hget hstatus hother
  · intro deviceId deviceId' record₁ record₂ hget₁ hget₂ hactive₁ hactive₂ hkey
    rcases PlainObject.get_assign_cases hget₁ with ⟨rfl,rfl⟩ | hother₁
    · rcases PlainObject.get_assign_cases hget₂ with ⟨rfl,rfl⟩ | hother₂
      · rfl
      · rw [hcertificate] at hkey
        exact (hkeys _ _ hother₂ hactive₂ hkey.symm).symm.trans (h.devices hother₂).1
    · rcases PlainObject.get_assign_cases hget₂ with ⟨rfl,rfl⟩ | hother₂
      · rw [hcertificate] at hkey
        exact (h.devices hother₁).1.symm.trans (hkeys _ _ hother₁ hactive₁ hkey)
      · exact h.keys hother₁ hother₂ hactive₁ hactive₂ hkey

end

end

theorem Sound.revoke (h : Sound identity books) {record revoked : TrustedDeviceRecord}
    (hget : books.devices.get deviceId = some record) (hstatus : revoked.status = .revoked)
    (hcertificate : revoked.certificate = record.certificate)
    (hgrant : revoked.workspaceGrant = record.workspaceGrant) :
    Sound identity { books with devices := books.devices.set deviceId revoked } := by
  refine ⟨h.distinct,h.offers,h.pending,h.consumed,h.single,h.granted,?_,?_⟩
  · intro deviceId' record' hget'
    rcases get_set_cases hget' with ⟨rfl,rfl⟩ | ⟨_,hother⟩
    · rw [hcertificate,hgrant]
      exact h.devices hget
    · exact h.devices hother
  · intro deviceId₁ deviceId₂ record₁ record₂ hget₁ hget₂ hactive₁ hactive₂ hkey
    rcases get_set_cases hget₁ with ⟨-,rfl⟩ | ⟨_,hother₁⟩
    · rw [hstatus] at hactive₁
      cases hactive₁
    · rcases get_set_cases hget₂ with ⟨-,rfl⟩ | ⟨_,hother₂⟩
      · rw [hstatus] at hactive₂
        cases hactive₂
      · exact h.keys hother₁ hother₂ hactive₁ hactive₂ hkey

theorem Move.sound (hmove : Move identity books books') (h : Sound identity books) :
    Sound identity books' ∧ Evolves books books' := by
  cases hmove with
  | offer signedOffer source hnew => exact ⟨h.offer hnew,offer_evolves hnew⟩
  | close offers hcloses => exact ⟨h.close hcloses,close_evolves hcloses⟩
  | record pending offer now hoffer hopen hnew hresponse hstatus hanswered =>
    exact ⟨h.record hoffer hopen hnew hresponse hanswered rfl rfl,record_evolves hoffer hopen hnew⟩
  | approve requestId pending response now signedOffer hpending hstatus hanswered hgranted hkeys hbinding =>
    exact ⟨h.approve hpending hstatus hanswered hgranted hkeys rfl rfl rfl rfl rfl rfl,
      decided_evolves hpending hstatus rfl rfl⟩
  | deny requestId pending now hpending hstatus =>
    refine ⟨h.decide hpending rfl rfl ?_ (h.devices_decided hpending hstatus) h.keys,
      decided_evolves hpending hstatus rfl rfl⟩
    intro response hresponse
    have hnone := h.response_eq_none hpending hstatus
    cases hnone.symm.trans hresponse
  | revoke deviceId record reason now hrecord =>
    exact ⟨h.revoke hrecord rfl rfl rfl,⟨fun _ => id,fun hget => ⟨_,hget,rfl,rfl,fun _ => rfl⟩,
      fun hclosed => ⟨hclosed.offered,hclosed.closed,hclosed.unanswered⟩⟩⟩

end Books

end Malink.Pairing
