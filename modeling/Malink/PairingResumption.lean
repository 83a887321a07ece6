import Malink.PairingStages

/-!
# A pairing can be resumed

From each stage a delivery goes on to the response that is kept, or it is ended where the next one can go on.
-/

namespace Malink.Pairing

open DurableProgram

variable (identity : GatewayPairingIdentity) (options : ServiceOptions) (request : SignedPairingRequest)
  (signedOffer : SignedPairingOffer)

/-- An access of a delivery: the disk, and whether an access has failed so far. -/
def Accesses (host : Disk × Bool) (ask : Ask) (reply : Except JsString ask.Reply) (host' : Disk × Bool) : Prop :=
  CleanStep host.1 ask reply host'.1 ∧ Room host.1 ask ∧ host'.2 = host.2 ∨
    ∃ message, reply = .error message ∧ FailedStep host.1 ask host'.1 ∧
      ¬ host'.1.Unrecorded identity request signedOffer ∧ ¬ host'.1.Approved request ∧ host'.2

/-- What the others do while a delivery waits. -/
def Relies (first second : Unit × Disk × Bool) : Prop :=
  Untouched identity request signedOffer first.2.1 second.2.1 ∧ second.2.2 = first.2.2

/-- What a delivery does not undo. -/
def Advances (disk disk' : Disk) : Prop :=
  Staged request signedOffer disk' ∧ ∀ response, Persisted request.request.requestId response disk →
    Persisted request.request.requestId response disk'

/-- Whatever happens to a delivery that may happen, it ends as it should. -/
def Proceeds {α : Type} (post : Except JsString α → Disk → Bool → Prop) (program : Task α) (disk : Disk)
    (faulty : Bool) : Prop :=
  Guarded (Accesses identity request signedOffer) (Relies identity request signedOffer)
    (fun first second => Advances request signedOffer first.2.1 second.2.1)
    (fun ask _ host => ∀ rejection,ask = .sendRejection rejection → ¬ host.1.Approved request)
    (fun result _ host => post result host.1 host.2) program () (disk,faulty)

variable {identity} {options} {request} {signedOffer} {α β : Type} {post : Except JsString α → Disk → Bool → Prop}
  {disk disk' : Disk} {faulty : Bool}

theorem Proceeds.bind {program : Task α} {next : α → Task β} {post' : Except JsString β → Disk → Bool → Prop}
    (h : Proceeds identity request signedOffer post program disk faulty)
    (hok : ∀ value disk faulty,post (.ok value) disk faulty →
      Proceeds identity request signedOffer post' (next value) disk faulty)
    (herror : ∀ error disk faulty,post (.error error) disk faulty → post' (.error error) disk faulty) :
    Proceeds identity request signedOffer post' (program >>= next) disk faulty :=
  Guarded.bind h (fun value _ host hpost => hok value host.1 host.2 hpost) fun error _ host hpost =>
    herror error host.1 host.2 hpost

section

variable {ask : Ask} {next : ask.Reply → Task α}

section

variable (stage : Disk → Prop) (hstage : stage disk)
  (hstable : ∀ disk disk',stage disk → Untouched identity request signedOffer disk disk' → stage disk')
include stage hstage hstable

theorem proceeds_ask
    (hallowed : ∀ disk,stage disk → ∀ rejection,ask = .sendRejection rejection → ¬ disk.Approved request)
    (hclean : ∀ disk disk' reply,stage disk → CleanStep disk ask reply disk' → Room disk ask →
      Advances request signedOffer disk disk' ∧ ∃ value,reply = .ok value ∧
        Proceeds identity request signedOffer post (next value) disk' faulty)
    (hfailed : ∀ disk disk' message,stage disk → FailedStep disk ask disk' →
      ¬ disk'.Unrecorded identity request signedOffer → ¬ disk'.Approved request →
      Advances request signedOffer disk disk' ∧ post (.error message) disk' true) :
    Proceeds identity request signedOffer post (perform ask >>= next) disk faulty := by
  rintro ⟨⟩ ⟨disk₁,faulty₁⟩ ⟨huntouched,hsame⟩
  obtain rfl : faulty₁ = faulty := hsame
  have hstage₁ : stage disk₁ := hstable _ _ hstage huntouched
  refine ⟨hallowed disk₁ hstage₁,?_⟩
  rintro reply ⟨disk₂,faulty₂⟩ (⟨hclean',hroom,hsame₂⟩ | ⟨message,rfl,hfailed',hrecorded,happroved,hfaulty⟩)
  · obtain rfl : faulty₂ = faulty₁ := hsame₂
    obtain ⟨hadvances,value,rfl,hnext⟩ := hclean disk₁ disk₂ reply hstage₁ hclean' hroom
    exact ⟨hadvances,hnext⟩
  · obtain rfl : faulty₂ := hfaulty
    exact hfailed disk₁ disk₂ message hstage₁ hfailed' hrecorded happroved

theorem proceeds_quiet
    (hallowed : ∀ disk,stage disk → ∀ rejection,ask = .sendRejection rejection → ¬ disk.Approved request)
    (hstaged : ∀ disk,stage disk → Staged request signedOffer disk)
    (hquiet : ∀ disk disk' value,stage disk → Answers disk ask (.ok (value,disk')) → Alike disk disk')
    (hrefused : ∀ disk message,stage disk → Room disk ask → ¬ Answers disk ask (.error message))
    (hnext : ∀ disk disk' value,stage disk → stage disk' → Room disk ask → Answers disk ask (.ok (value,disk')) →
      Proceeds identity request signedOffer post (next value) disk' faulty)
    (hfailed : ∀ disk message,stage disk → ¬ disk.Unrecorded identity request signedOffer →
      ¬ disk.Approved request → post (.error message) disk true) :
    Proceeds identity request signedOffer post (perform ask >>= next) disk faulty := by
  have hadvances : ∀ disk disk',stage disk → Alike disk disk' → Advances request signedOffer disk disk' := by
    intro disk disk' hstage halike
    have huntouched : Untouched identity request signedOffer disk disk' := halike.untouched
    exact ⟨(hstaged disk hstage).untouched huntouched,fun _ => huntouched.persisted⟩
  refine proceeds_ask stage hstage hstable hallowed ?_ ?_
  · rintro disk disk' reply hstage ⟨answer,hanswers,hsettle⟩ hroom
    cases answer with
    | error message => exact absurd hanswers (hrefused disk message hstage hroom)
    | ok outcome =>
      obtain ⟨value,after⟩ := outcome
      cases hsettle
      have halike := hquiet disk disk' value hstage hanswers
      exact ⟨hadvances disk disk' hstage halike,value,rfl,
        hnext disk disk' value hstage (hstable _ _ hstage halike.untouched) hroom hanswers⟩
  · rintro disk disk' message hstage (rfl | ⟨value,hanswers⟩) hrecorded happroved
    · exact ⟨hadvances disk' disk' hstage (.refl disk'),hfailed disk' message hstage hrecorded happroved⟩
    · have halike := hquiet disk disk' value hstage hanswers
      exact ⟨hadvances disk disk' hstage halike,
        hfailed disk' message (hstable _ _ hstage halike.untouched) hrecorded happroved⟩

end

end

/-- How a delivery ends: with the response that is kept, or after a failure where the next one can go on. -/
def Ends (identity : GatewayPairingIdentity) (request : SignedPairingRequest) (signedOffer : SignedPairingOffer)
    (response : α → SignedPairingResponse) : Except JsString α → Disk → Bool → Prop
  | .ok value, disk, _ => Done request (response value) disk
  | .error _, disk, faulty => Settled identity request signedOffer disk ∧ ¬ disk.Approved request ∧ faulty

variable {issuedAt : ℕ} {message : JsString}
  {operations : List PairingOperation} {response : α → SignedPairingResponse}

theorem signPairingCertificate_certificateOf {certificateId : JsString}
    {expiresAt : ℕ} (hoperations : ValidOperations operations) (htimes : ValidTimes issuedAt expiresAt)
    (hsubset : ∀ operation ∈ operations,operation ∈ request.request.requestedOperations)
    (hgateway : signedOffer.offer.gatewayId = identity.gatewayId)
    (hkey : signedOffer.offer.gatewayKey.keyId = identity.key.keyId) : signPairingCertificate identity
        (certificateOf identity signedOffer request certificateId operations issuedAt expiresAt) signedOffer request =
      .ok ⟨certificateOf identity signedOffer request certificateId operations issuedAt expiresAt,
        ⟨identity.key.keyId,identity.signCertificate
          (certificateOf identity signedOffer request certificateId operations issuedAt expiresAt)⟩⟩ := by
  have hbound : assertCertificateBindings identity
      (certificateOf identity signedOffer request certificateId operations issuedAt expiresAt) signedOffer request =
      .ok () :=
    assertCertificateBindings_eq_ok.mpr ⟨rfl,rfl,rfl,rfl,hgateway.symm,hkey.symm,rfl,rfl,rfl,rfl,rfl,hsubset⟩
  have hvalid : require (ValidOperations (certificateOf identity signedOffer request certificateId operations issuedAt
      expiresAt).allowedOperations ∧ ValidTimes issuedAt expiresAt) identity.schemaText = .ok () :=
    require_eq_ok.mpr ⟨hoperations,htimes⟩
  have hsigner : require ((certificateOf identity signedOffer request certificateId operations issuedAt
      expiresAt).gatewayKeyId = identity.key.keyId) "Certificate Gateway key does not match its signer" = .ok () :=
    require_eq_ok.mpr rfl
  rw [signPairingCertificate]
  simp only [hbound]
  rw [certificateOf] at hvalid hsigner ⊢
  rw [hvalid,hsigner]
  rfl

theorem constrainedOperations_none (h : operations.Nodup) : constrainedOperations operations none = .ok operations := by
  rw [constrainedOperations,unique,if_pos h]
  rfl

theorem signPairingResponse_of_certificate {document : PairingResponse}
    (hgateway : document.gatewayId = document.certificate.certificate.gatewayId)
    (hkey : document.certificate.certificate.gatewayKeyId = identity.key.keyId)
    (hsigner : document.certificate.signature.keyId = identity.key.keyId) :
    signPairingResponse identity document = .ok ⟨document,⟨identity.key.keyId,identity.signResponse document⟩⟩ := by
  have hchecked : require (document.gatewayId = document.certificate.certificate.gatewayId ∧
      document.certificate.certificate.gatewayKeyId = identity.key.keyId ∧
      document.certificate.signature.keyId = identity.key.keyId)
      "Pairing response certificate is for another Gateway" = .ok () := require_eq_ok.mpr ⟨hgateway,hkey,hsigner⟩
  rw [signPairingResponse,hchecked]
  rfl

theorem reserve_answers {now : ℕ} (h : Answers disk (.reserveGatewayIssuedAt now) (.ok (issuedAt,disk'))) :
    Alike disk disk' ∧ issuedAt = disk.registry.nextGatewayIssuedAt now := by
  obtain ⟨next,hnext,rfl⟩ := Disk.transact_eq_ok.mp h.symm
  rw [PairingState.reserveGatewayIssuedAt] at hnext
  split at hnext
  · cases hnext
  · split at hnext
    · cases hnext
    · cases hnext
      exact ⟨⟨rfl,rfl⟩,rfl⟩

theorem le_nextGatewayIssuedAt (state : PairingState) (now : ℕ) : now ≤ state.nextGatewayIssuedAt now := by
  rw [PairingState.nextGatewayIssuedAt]
  cases state.latestGatewayIssuedAt with
  | none => exact le_refl now
  | some latest => exact Nat.le_max_left now (latest + 1)

theorem reserve_not_refused {now : ℕ} (hroom : Room disk (.reserveGatewayIssuedAt now)) :
    ¬ Answers disk (.reserveGatewayIssuedAt now) (.error message) := by
  intro h
  have hrefused : Except.error message = disk.transact (disk.registry.reserveGatewayIssuedAt now) := h
  have hnow : ¬ MAX_SAFE_INTEGER < now := Nat.not_lt.mpr hroom.1
  have hnext : ¬ MAX_SAFE_INTEGER < disk.registry.nextGatewayIssuedAt now :=
    Nat.not_lt.mpr ((Nat.le_add_right _ _).trans hroom.2)
  rw [PairingState.reserveGatewayIssuedAt,if_neg hnow,if_neg hnext] at hrefused
  cases hrefused

theorem join_map_some (found : Option α) : (found.map some).join = found := by
  cases found with
  | none => rfl
  | some value => rfl

/-- What is read of a request and of its device. -/
theorem getPending_answer {answer : Except JsString (Option (Option StoredPendingPairing) × Disk)}
    (hnamed : Named request) (h : Answers disk (.getPending request.request.requestId) answer) :
    answer = disk.transact (.ok ((disk.pendingOf request).map some,none)) := by
  rw [← show disk.registry.getPending request.request.requestId = .ok ((disk.pendingOf request).map some,none) by
    rw [PairingState.getPending,PlainObject.copy_of_not_inherits hnamed.requestId]
    rfl]
  exact h

theorem get_answer {answer : Except JsString (Option (Option TrustedDeviceRecord) × Disk)}
    (hnamed : Named request) (h : Answers disk (.get request.request.deviceId) answer) :
    answer = disk.transact
      (.ok ((disk.registry.trustedDevices.get request.request.deviceId).map some,none)) := by
  rw [← show disk.registry.get request.request.deviceId =
      .ok ((disk.registry.trustedDevices.get request.request.deviceId).map some,none) by
    rw [PairingState.get,PlainObject.copy_of_not_inherits hnamed.deviceId]
    rfl]
  exact h

section

variable {now : ℕ}

structure Delivers (identity : GatewayPairingIdentity) (options : ServiceOptions) (request : SignedPairingRequest)
    (signedOffer : SignedPairingOffer) (now : ℕ) : Prop where
  suitable : Suitable identity options request signedOffer
  named : Named request
  verified : VerifiedRequest identity request signedOffer now

theorem Delivers.outlives (h : Delivers identity options request signedOffer now) (hnow : now ≤ issuedAt) :
    request.request.expiresAt ≤ issuedAt + CERTIFICATE_LIFETIME_MS := by
  obtain ⟨-,hissued,hwindow⟩ := h.verified.requestWindow
  rw [DEFAULT_FUTURE_SKEW_MS] at hissued
  rw [DEFAULT_REQUEST_LIFETIME_MS] at hwindow
  rw [CERTIFICATE_LIFETIME_MS]
  omega

theorem proceeds_persist (hnamed : Named request) {certificate : SignedPairingCertificate}
    {response : SignedPairingResponse}
    {grant : Option SignedWorkspaceDeviceGrant} (hstage : Recorded request signedOffer disk)
    (hdevice : certificate.certificate.deviceId = request.request.deviceId)
    (hkey : certificate.certificate.deviceKey = request.request.deviceKey)
    (hexpires : request.request.expiresAt ≤ certificate.certificate.expiresAt)
    (hcertificate : response.response.certificate = certificate) :
    Proceeds identity request signedOffer (Ends identity request signedOffer id)
      (perform (Ask.approve request.request.requestId certificate response now grant) >>= fun _ => .pure response) disk
      faulty := by
  have hdone : ∀ {disk disk' : Disk} {value : TrustedDeviceRecord},Recorded request signedOffer disk →
      Answers disk (.approve request.request.requestId certificate response now grant) (.ok (value,disk')) →
      Done request response disk' := by
    intro disk disk' value hstage hanswers
    obtain ⟨record,next,pending,happrove,hpending,hrequest,hstatus,hresponse,hdevices,hactive,hsame⟩ :=
      hstage.approve hnamed certificate response now grant hdevice hkey
    have htransact : Except.ok (value,disk') =
        disk.transact (disk.registry.approve request.request.requestId certificate response now grant) := hanswers
    rw [happrove] at htransact
    cases htransact
    refine ⟨⟨pending,?_,hrequest,hstatus,hresponse⟩,record,?_,hactive,?_,?_⟩
    · show next.pending.get _ = _
      rw [hpending,InsertionMap.get_set_self]
    · show next.trustedDevices.get _ = _
      rw [hdevices,InsertionMap.get_set_self]
    · rw [hsame]
      exact hexpires
    · rw [hsame,hcertificate]
  refine proceeds_ask (Recorded request signedOffer) hstage (fun _ _ h hsame => h.untouched hsame)
    (fun _ _ _ heq => by cases heq) ?_ ?_
  · rintro disk disk' reply hstage ⟨answer,hanswers,hsettle⟩ -
    cases answer with
    | error message =>
      obtain ⟨record,next,-,happrove,-⟩ := hstage.approve hnamed certificate response now grant hdevice hkey
      have htransact : Except.error message =
          disk.transact (disk.registry.approve request.request.requestId certificate response now grant) := hanswers
      rw [happrove] at htransact
      cases htransact
    | ok outcome =>
      obtain ⟨value,after⟩ := outcome
      cases hsettle
      have hdone' := hdone hstage hanswers
      exact ⟨⟨.done response hdone',fun _ hpersisted => absurd hpersisted.approved hstage.not_approved⟩,value,rfl,
        hdone'⟩
  · rintro disk disk' message hstage (rfl | ⟨value,hanswers⟩) hrecorded happroved
    · exact ⟨⟨.recorded hstage,fun _ => id⟩,hstage.settled,happroved,rfl⟩
    · exact absurd (hdone hstage hanswers).approved happroved

theorem proceeds_check {holds : Prop} [Decidable holds] {next : Unit → Task α} (hholds : holds)
    (hnext : Proceeds identity request signedOffer post (next ()) disk faulty) :
    Proceeds identity request signedOffer post (ofExcept (require holds message) >>= next) disk faulty := by
  rw [require,if_pos hholds]
  exact hnext

theorem proceeds_value {result : Except JsString β} {value : β} {next : β → Task α} (hresult : result = .ok value)
    (hnext : Proceeds identity request signedOffer post (next value) disk faulty) :
    Proceeds identity request signedOffer post (ofExcept result >>= next) disk faulty := by
  rw [hresult]
  exact hnext

theorem proceeds_recorded {ask : Ask} {next : ask.Reply → Task α}
    (hstage : Recorded request signedOffer disk) (hallowed : ∀ rejection,ask ≠ .sendRejection rejection)
    (hquiet : ∀ disk disk' value,Answers disk ask (.ok (value,disk')) → Alike disk disk')
    (hrefused : ∀ disk message,Room disk ask → ¬ Answers disk ask (.error message))
    (hnext : ∀ disk disk' value,Recorded request signedOffer disk → Recorded request signedOffer disk' →
      Room disk ask → Answers disk ask (.ok (value,disk')) →
      Proceeds identity request signedOffer (Ends identity request signedOffer response) (next value) disk' faulty) :
    Proceeds identity request signedOffer (Ends identity request signedOffer response) (perform ask >>= next) disk
      faulty :=
  proceeds_quiet (Recorded request signedOffer) hstage (fun _ _ h hsame => h.untouched hsame)
    (fun _ _ rejection heq => absurd heq (hallowed rejection)) (fun _ => .recorded)
    (fun disk disk' value _ => hquiet disk disk' value) (fun disk message _ => hrefused disk message) hnext
    (fun _ _ hstage _ happroved => ⟨hstage.settled,happroved,rfl⟩)

theorem read_quiet {α : Type} {value value' : α}
    (h : Except.ok (value,disk') = disk.transact (.ok (value',none))) : Alike disk disk' := by
  obtain ⟨rfl,-⟩ := transact_read h
  exact .refl disk'

theorem read_not_refused {α : Type} {value : α} : ¬ Except.error message = disk.transact (.ok (value,none)) := by
  intro h
  cases h

theorem uuid_quiet (disk disk' : Disk) (uuid : JsString) (h : Answers disk .randomUUID (.ok (uuid,disk'))) :
    Alike disk disk' := by
  obtain ⟨_,h⟩ := h
  cases h
  exact .refl disk

theorem uuid_not_refused (disk : Disk) (message : JsString) (_ : Room disk .randomUUID) :
    ¬ Answers disk .randomUUID (.error message) := by
  rintro ⟨_,h⟩
  cases h

theorem directory_quiet (disk disk' : Disk) (directory : Option Json)
    (h : Answers disk .workspaceDirectory (.ok (directory,disk'))) : Alike disk disk' := by
  obtain ⟨_,h⟩ := h
  cases h
  exact .refl disk

theorem directory_not_refused (disk : Disk) (message : JsString) (_ : Room disk .workspaceDirectory) :
    ¬ Answers disk .workspaceDirectory (.error message) := by
  rintro ⟨_,h⟩
  cases h

theorem proceeds_issue (hdelivers : Delivers identity options request signedOffer now)
    (hstage : Recorded request signedOffer disk) :
    Proceeds identity request signedOffer (Ends identity request signedOffer id)
      (issue identity options request.request.requestId request signedOffer ⟨none,none⟩ now) disk faulty := by
  have hoperations := hdelivers.suitable.operations
  rw [issue]
  refine proceeds_value (constrainedOperations_none hoperations.2.2) (proceeds_check (by decide) ?_)
  refine proceeds_recorded hstage (fun _ heq => by cases heq)
    (fun _ _ _ h => (reserve_answers h).1) (fun _ _ => reserve_not_refused) ?_
  intro disk₁ disk₂ issuedAt _ hstage₂ hroom hanswers
  obtain ⟨-,rfl⟩ := reserve_answers hanswers
  have hnow := le_nextGatewayIssuedAt disk₁.registry now
  have htimes : ValidTimes (disk₁.registry.nextGatewayIssuedAt now)
      (disk₁.registry.nextGatewayIssuedAt now + CERTIFICATE_LIFETIME_MS) :=
    ⟨Nat.lt_add_of_pos_right (by decide),hroom.2⟩
  refine proceeds_recorded hstage₂ (fun _ heq => by cases heq) uuid_quiet uuid_not_refused ?_
  intro disk₃ disk₄ certificateId _ hstage₄ _ _
  refine proceeds_value (signPairingCertificate_certificateOf hoperations htimes (fun _ => id)
    hdelivers.suitable.gatewayId hdelivers.suitable.gatewayKey) ?_
  refine proceeds_recorded hstage₄ (fun _ heq => by cases heq) uuid_quiet uuid_not_refused ?_
  intro disk₅ disk₆ grantId _ hstage₆ _ _
  refine proceeds_recorded hstage₆ (fun _ heq => by cases heq)
    (fun _ _ _ h => read_quiet (get_answer hdelivers.named h))
    (fun _ _ _ h => read_not_refused (get_answer hdelivers.named h)) ?_
  intro disk₇ disk₈ existingDevice hstage₇ hstage₈ _ hanswers
  obtain ⟨rfl,rfl⟩ := transact_read (get_answer hdelivers.named hanswers)
  rw [join_map_some]
  refine proceeds_check (fun existing hexisting hactive => hstage₇.acceptable.own existing hexisting hactive) ?_
  refine proceeds_recorded hstage₈ (fun _ heq => by cases heq)
    (fun _ _ _ => read_quiet) (fun _ _ _ => read_not_refused) ?_
  intro disk₉ disk₁₀ activeDevices _ hstage₁₀ _ _
  -- the response is signed and recorded, with or without a directory
  have hrest (gatewayDirectory : Option Json) (activeDeviceCount : ℕ) (disk : Disk)
      (hstage : Recorded request signedOffer disk) (certificate : SignedPairingCertificate)
      (hcertificate : certificate.certificate = certificateOf identity signedOffer request certificateId
        request.request.requestedOperations (disk₁.registry.nextGatewayIssuedAt now)
        (disk₁.registry.nextGatewayIssuedAt now + CERTIFICATE_LIFETIME_MS))
      (hsigner : certificate.signature.keyId = identity.key.keyId) (grant : SignedWorkspaceDeviceGrant) :
      Proceeds identity request signedOffer (Ends identity request signedOffer id)
        (ofExcept (signPairingResponse identity ⟨signedOffer.offer.offerId,request.request.requestId,
          identity.requestDigest request,identity.gatewayId,activeDeviceCount,certificate,grant,gatewayDirectory,
          disk₁.registry.nextGatewayIssuedAt now,certificate.certificate.expiresAt⟩) >>= fun response =>
            perform (Ask.approve request.request.requestId certificate response now (some grant)) >>= fun _ =>
              .pure response) disk faulty := by
    refine proceeds_value (signPairingResponse_of_certificate ?_ ?_ hsigner) ?_
    · rw [hcertificate]
      rfl
    · rw [hcertificate]
      rfl
    · refine proceeds_persist hdelivers.named hstage ?_ ?_ ?_ rfl
      · rw [hcertificate]
        rfl
      · rw [hcertificate]
        rfl
      · rw [hcertificate]
        exact hdelivers.outlives hnow
  cases options.hasDirectory with
  | true =>
    refine proceeds_recorded hstage₁₀ (fun _ heq => by cases heq) directory_quiet directory_not_refused ?_
    intro disk₁₁ disk₁₂ directory _ hstage₁₂ _ _
    exact hrest _ _ disk₁₂ hstage₁₂ _ rfl rfl _
  | false => exact hrest _ _ disk₁₀ hstage₁₀ _ rfl rfl _

theorem proceeds_approve (hdelivers : Delivers identity options request signedOffer now)
    (hstage : Recorded request signedOffer disk) :
    Proceeds identity request signedOffer (Ends identity request signedOffer id)
      (approve identity options request.request.requestId ⟨none,none⟩ now) disk faulty := by
  rw [approve]
  refine proceeds_recorded hstage (fun _ heq => by cases heq)
    (fun _ _ _ h => read_quiet (getPending_answer hdelivers.named h))
    (fun _ _ _ h => read_not_refused (getPending_answer hdelivers.named h)) ?_
  intro disk₁ disk₂ found hstage₁ hstage₂ _ hanswers
  obtain ⟨rfl,rfl⟩ := transact_read (getPending_answer hdelivers.named hanswers)
  obtain ⟨pending,hfound,hrequest,hstatus⟩ := hstage₁.pending
  obtain ⟨pendingRequest,verificationCode,receivedAt,status,decidedAt,kept⟩ := pending
  obtain rfl : pendingRequest = request := hrequest
  obtain rfl : status = .pending := hstatus
  rw [hfound]
  show Proceeds _ _ _ _
    (approvePending identity options pendingRequest.request.requestId pendingRequest ⟨none,none⟩ now) disk₂ faulty
  rw [approvePending]
  refine proceeds_check hdelivers.suitable.user ?_
  refine proceeds_recorded hstage₂ (fun _ heq => by cases heq)
    (fun _ _ _ => read_quiet) (fun _ _ _ => read_not_refused) ?_
  intro disk₃ disk₄ offer hstage₃ hstage₄ _ hanswers'
  obtain ⟨rfl,rfl⟩ := transact_read hanswers'
  obtain ⟨stored,hstored,hsigned⟩ := hstage₃.offer
  rw [hstored,Option.map_some,hsigned]
  exact proceeds_issue hdelivers hstage₄

theorem Ends.bind {program : Task SignedPairingResponse} {next : SignedPairingResponse → α}
    (hresponse : ∀ value,response (next value) = value)
    (h : Proceeds identity request signedOffer (Ends identity request signedOffer id) program disk faulty) :
    Proceeds identity request signedOffer (Ends identity request signedOffer response)
      (program >>= fun value => .pure (next value)) disk faulty := by
  refine h.bind (fun value disk faulty hdone => ?_) fun _ _ _ => id
  show Done request (response (next value)) disk
  rw [hresponse]
  exact hdone

theorem Opened.getOffer (h : Opened request signedOffer disk) (hnow : now < signedOffer.offer.expiresAt) :
    disk.registry.getOffer request.request.offerId now = .ok (some signedOffer,none) := by
  obtain ⟨stored,hget,hstatus,hsigned⟩ := h.open_
  have hdue : ¬ stored.Due now := fun hdue => absurd hdue.2 (by rw [hsigned]; exact Nat.not_le.mpr hnow)
  rw [PairingState.getOffer,hget]
  simp only [hdue,if_false,hstatus,if_true,hsigned]

def EndsClaim (identity : GatewayPairingIdentity) (request : SignedPairingRequest) (signedOffer : SignedPairingOffer) :
    Except JsString Unit → Disk → Bool → Prop
  | .ok _, disk, _ => Opened request signedOffer disk
  | .error _, disk, faulty => Settled identity request signedOffer disk ∧ ¬ disk.Approved request ∧ faulty

section

variable (hdelivers : Delivers identity options request signedOffer now)
include hdelivers

theorem proceeds_consume
    (hopened : Opened request signedOffer disk) (hunclaimed : ¬ disk.Claimed identity signedOffer) :
    Proceeds identity request signedOffer (EndsClaim identity request signedOffer)
      (consume identity signedOffer request now) disk faulty := by
  rw [consume]
  have hverified : verifyPairingRequest identity request signedOffer now = .ok () :=
    verifyPairingRequest_eq_ok.mpr hdelivers.verified
  refine proceeds_value hverified ?_
  refine proceeds_ask (fun disk => Opened request signedOffer disk ∧ ¬ disk.Claimed identity signedOffer)
    ⟨hopened,hunclaimed⟩ (fun _ _ h huntouched => ⟨h.1.untouched huntouched,huntouched.claims h.2⟩)
    (fun _ _ _ heq => by cases heq) ?_ ?_
  · rintro disk disk' reply ⟨hopened,hunclaimed⟩ ⟨answer,hanswers,hsettle⟩ -
    cases hanswers
    cases hsettle
    have haccepted : (claimAll disk.claims (offerClaims identity signedOffer.offer) now).1 := by
      refine claimAll_of_unclaimed fun claim hclaim => Bool.eq_false_of_not_eq_true fun hhas => ?_
      exact hunclaimed ⟨claim,hclaim,hhas⟩
    have hafter : Opened request signedOffer
        { disk with claims := (claimAll disk.claims (offerClaims identity signedOffer.offer) now).2 } :=
      ⟨hopened.unrecorded,hopened.open_,⟨hopened.acceptable.own,hopened.acceptable.free⟩⟩
    refine ⟨⟨.opened hafter,fun _ hpersisted => absurd hpersisted.approved hopened.not_approved⟩,_,rfl,?_⟩
    rw [haccepted]
    exact hafter
  · rintro disk disk' message ⟨hopened,hunclaimed⟩ (rfl | ⟨value,hanswers⟩) hrecorded happroved
    · exact ⟨⟨.opened hopened,fun _ => id⟩,⟨.opened hopened,hrecorded⟩,happroved,rfl⟩
    · cases hanswers
      have hafter : Opened request signedOffer
          { disk with claims := (claimAll disk.claims (offerClaims identity signedOffer.offer) now).2 } :=
        ⟨hopened.unrecorded,hopened.open_,⟨hopened.acceptable.own,hopened.acceptable.free⟩⟩
      exact ⟨⟨.opened hafter,fun _ hpersisted => absurd hpersisted.approved hopened.not_approved⟩,
        ⟨.opened hafter,hrecorded⟩,happroved,rfl⟩

theorem proceeds_record {verificationCode : JsString} (hopened : Opened request signedOffer disk) :
    Proceeds identity request signedOffer (Ends identity request signedOffer ReceivedRequest.response)
      (perform (Ask.addVerifiedRequest request.request.offerId
        ⟨request,verificationCode,now,.pending,none,none⟩ now) >>= fun _ =>
          approve identity options request.request.requestId ⟨none,none⟩ now >>= fun response =>
            .pure (received request.request verificationCode response)) disk faulty := by
  have hrecorded : ∀ {disk disk' : Disk} {u : Unit},Opened request signedOffer disk →
      Answers disk (.addVerifiedRequest request.request.offerId
        ⟨request,verificationCode,now,.pending,none,none⟩ now) (.ok (u,disk')) →
      Recorded request signedOffer disk' := by
    intro disk disk' u hopened hanswers
    obtain ⟨next,hadd,hpending,hdevices,hoffer⟩ :=
      hopened.record hdelivers.named ⟨request,verificationCode,now,.pending,none,none⟩ now rfl
    have htransact : Except.ok (u,disk') = disk.transact (disk.registry.addVerifiedRequest request.request.offerId
        ⟨request,verificationCode,now,.pending,none,none⟩ now) := hanswers
    rw [hadd] at htransact
    cases htransact
    refine ⟨⟨⟨request,verificationCode,now,.pending,none,none⟩,?_,rfl,rfl⟩,hoffer,?_,?_⟩
    · show next.pending.get _ = _
      rw [hpending,InsertionMap.get_set_self]
    · show ∀ record,next.trustedDevices.get _ = _ → _
      rw [hdevices]
      exact hopened.acceptable.own
    · show next.keyTaken _ _ = _
      rw [PairingState.keyTaken,hdevices]
      exact hopened.acceptable.free
  refine proceeds_ask (Opened request signedOffer) hopened (fun _ _ h hsame => h.untouched hsame)
    (fun _ _ _ heq => by cases heq) ?_ ?_
  · rintro disk disk' reply hopened ⟨answer,hanswers,hsettle⟩ -
    cases answer with
    | error message =>
      obtain ⟨next,hadd,-⟩ := hopened.record hdelivers.named ⟨request,verificationCode,now,.pending,none,none⟩ now rfl
      have htransact : Except.error message = disk.transact (disk.registry.addVerifiedRequest request.request.offerId
          ⟨request,verificationCode,now,.pending,none,none⟩ now) := hanswers
      rw [hadd] at htransact
      cases htransact
    | ok outcome =>
      obtain ⟨value,after⟩ := outcome
      cases hsettle
      have hstage := hrecorded hopened hanswers
      exact ⟨⟨.recorded hstage,fun _ hpersisted => absurd hpersisted.approved hopened.not_approved⟩,value,rfl,
        Ends.bind (fun _ => rfl) (proceeds_approve hdelivers hstage)⟩
  · rintro disk disk' message hopened (rfl | ⟨value,hanswers⟩) hrecorded' happroved
    · exact ⟨⟨.opened hopened,fun _ => id⟩,⟨.opened hopened,hrecorded'⟩,happroved,rfl⟩
    · have hstage := hrecorded hopened hanswers
      exact ⟨⟨.recorded hstage,fun _ hpersisted => absurd hpersisted.approved hopened.not_approved⟩,
        hstage.settled,happroved,rfl⟩

theorem proceeds_receiveNew
    (hopened : Opened request signedOffer disk) (hunclaimed : ¬ disk.Claimed identity signedOffer) :
    Proceeds identity request signedOffer (Ends identity request signedOffer ReceivedRequest.response)
      (receiveNew identity options request now) disk faulty := by
  have hnow := hdelivers.verified.offerWindow.1
  rw [receiveNew]
  refine proceeds_quiet (fun disk => Opened request signedOffer disk ∧ ¬ disk.Claimed identity signedOffer)
    ⟨hopened,hunclaimed⟩ (fun _ _ h huntouched => ⟨h.1.untouched huntouched,huntouched.claims h.2⟩)
    (fun _ _ _ heq => by cases heq) (fun _ h => .opened h.1) ?_ ?_ ?_ ?_
  · intro disk disk' value h hanswers
    have htransact : Except.ok (value,disk') = disk.transact (disk.registry.getOffer request.request.offerId now) :=
      hanswers
    rw [h.1.getOffer hnow] at htransact
    exact read_quiet htransact
  · intro disk message h _ hanswers
    have htransact : Except.error message = disk.transact (disk.registry.getOffer request.request.offerId now) :=
      hanswers
    rw [h.1.getOffer hnow] at htransact
    exact read_not_refused htransact
  · intro disk disk' value h h' _ hanswers
    have htransact : Except.ok (value,disk') = disk.transact (disk.registry.getOffer request.request.offerId now) :=
      hanswers
    rw [h.1.getOffer hnow] at htransact
    obtain ⟨rfl,rfl⟩ := transact_read htransact
    refine (proceeds_consume hdelivers h'.1 h'.2).bind ?_ fun _ _ _ => id
    exact fun _ disk faulty hopened => proceeds_record hdelivers hopened
  · exact fun disk message h hrecorded happroved => ⟨⟨.opened h.1,hrecorded⟩,happroved,rfl⟩

theorem proceeds_replay {existing : StoredPendingPairing} {response : SignedPairingResponse}
    (hdone : Done request response disk) :
    Proceeds identity request signedOffer (Ends identity request signedOffer ReceivedRequest.response)
      (replay existing request.request response now) disk faulty := by
  rw [replay]
  refine proceeds_quiet (Done request response) hdone (fun _ _ h hsame => h.untouched hsame)
    (fun _ _ _ heq => by cases heq)
    (fun _ => .done response) (fun _ _ _ _ h => read_quiet (get_answer hdelivers.named h))
    (fun _ _ _ _ h => read_not_refused (get_answer hdelivers.named h)) ?_ ?_
  · intro disk disk' active h h' _ hanswers
    obtain ⟨rfl,rfl⟩ := transact_read (get_answer hdelivers.named hanswers)
    rw [join_map_some]
    obtain ⟨record,hrecord,hactive,hexpires,hcertificate⟩ := h.device
    refine proceeds_check ⟨record,hrecord,hactive,?_,hcertificate⟩ h'
    exact hdelivers.verified.requestWindow.1.trans_le hexpires
  · exact fun disk message h _ happroved => absurd h.approved happroved

theorem proceeds_receiveRequest (hsettled : Settled identity request signedOffer disk) :
    Proceeds identity request signedOffer (Ends identity request signedOffer ReceivedRequest.response)
      (receiveRequest identity options request now) disk faulty := by
  rw [receiveRequest]
  refine proceeds_quiet (Settled identity request signedOffer) hsettled (fun _ _ h hsame => h.untouched hsame)
    (fun _ _ _ heq => by cases heq) (fun _ h => h.1)
    (fun _ _ _ _ h => read_quiet (getPending_answer hdelivers.named h))
    (fun _ _ _ _ h => read_not_refused (getPending_answer hdelivers.named h)) ?_ ?_
  · intro disk disk' found h h' _ hanswers
    obtain ⟨rfl,rfl⟩ := transact_read (getPending_answer hdelivers.named hanswers)
    cases h'.1 with
    | opened hopened =>
      rw [hopened.unrecorded]
      exact proceeds_receiveNew hdelivers hopened fun hclaimed => h'.2 ⟨hopened.unrecorded,hclaimed⟩
    | recorded hrecorded =>
      obtain ⟨pending,hfound,hrequest,hstatus⟩ := hrecorded.pending
      obtain ⟨pendingRequest,verificationCode,receivedAt,status,decidedAt,kept⟩ := pending
      obtain rfl : pendingRequest = request := hrequest
      obtain rfl : status = .pending := hstatus
      rw [hfound]
      refine proceeds_check rfl ?_
      exact Ends.bind (fun _ => rfl) (proceeds_approve hdelivers hrecorded)
    | done response hdone =>
      obtain ⟨pending,hfound,hrequest,hstatus,hresponse⟩ := hdone.pending
      obtain ⟨pendingRequest,verificationCode,receivedAt,status,decidedAt,kept⟩ := pending
      obtain rfl : pendingRequest = request := hrequest
      obtain rfl : status = .approved := hstatus
      obtain rfl : kept = some response := hresponse
      rw [hfound]
      refine proceeds_check rfl ?_
      exact proceeds_replay hdelivers hdone
  · exact fun disk message h hrecorded happroved => ⟨h,happroved,rfl⟩

end

/-- How a delivery ends, rejection and all. -/
def Finishes (identity : GatewayPairingIdentity) (request : SignedPairingRequest) (signedOffer : SignedPairingOffer) :
    Except JsString ReceivedRequest → Disk → Bool → Prop
  | .ok received, disk, _ => Done request received.response disk
  | .error _, disk, faulty => Settled identity request signedOffer disk ∧ faulty

theorem sendRejection_quiet (disk disk' : Disk) (rejection : SignedPairingRejection) (u : Unit)
    (h : Answers disk (.sendRejection rejection) (.ok (u,disk'))) : Alike disk disk' := by
  cases h
  exact ⟨rfl,rfl⟩

theorem proceeds_rejectRequest {rejectedAt : ℕ} (hnamed : Named request)
    (hsettled : Settled identity request signedOffer disk) (happroved : ¬ disk.Approved request) :
    Proceeds identity request signedOffer (Finishes identity request signedOffer)
      (rejectRequest identity request message rejectedAt) disk true := by
  have hstable : ∀ disk disk',(Settled identity request signedOffer disk ∧ ¬ disk.Approved request) →
      Untouched identity request signedOffer disk disk' →
      Settled identity request signedOffer disk' ∧ ¬ disk'.Approved request :=
    fun _ _ h huntouched => ⟨h.1.untouched huntouched,mt (Disk.Approved.untouched huntouched).mp h.2⟩
  have hcreate : Proceeds identity request signedOffer
      (fun _ disk faulty => (Settled identity request signedOffer disk ∧ ¬ disk.Approved request) ∧ faulty)
      (createRejection identity request message rejectedAt) disk true := by
    rw [createRejection]
    refine proceeds_quiet _ ⟨hsettled,happroved⟩ hstable (fun _ _ _ heq => by cases heq) (fun _ h => h.1.1)
      (fun _ _ _ _ h => read_quiet (getPending_answer hnamed h))
      (fun _ _ _ _ h => read_not_refused (getPending_answer hnamed h)) ?_ fun _ _ h _ _ => ⟨h,rfl⟩
    intro disk disk' found _ h _ hanswers
    obtain ⟨rfl,rfl⟩ := transact_read (getPending_answer hnamed hanswers)
    cases disk'.pendingOf request with
    | none => exact ⟨h,rfl⟩
    | some pending =>
    dsimp only [Option.map_some]
    split
    · refine proceeds_quiet _ h hstable (fun _ _ _ heq => by cases heq) (fun _ h => h.1.1)
        (fun _ _ _ _ h => (reserve_answers h).1) (fun _ _ _ => reserve_not_refused) ?_ fun _ _ h _ _ => ⟨h,rfl⟩
      exact fun _ _ _ _ h _ _ => ⟨h,rfl⟩
    · exact ⟨h,rfl⟩
  rw [rejectRequest]
  refine hcreate.bind ?_ fun _ _ _ h => ⟨h.1.1,h.2⟩
  rintro created disk faulty ⟨h,rfl⟩
  cases created with
  | none => exact ⟨h.1,rfl⟩
  | some rejection =>
    refine proceeds_quiet _ h hstable (fun _ h _ _ => h.2) (fun _ h => h.1.1)
      (fun disk disk' u _ => sendRejection_quiet disk disk' rejection u) (fun _ _ _ _ h => (by cases h)) ?_
      fun _ _ h _ _ => ⟨h.1,rfl⟩
    exact fun _ _ _ _ h _ _ => ⟨h.1,rfl⟩

theorem proceeds_acceptRequest {rejectedAt : ℕ} (hdelivers : Delivers identity options request signedOffer now)
    (hsettled : Settled identity request signedOffer disk) :
    Proceeds identity request signedOffer (Finishes identity request signedOffer)
      (acceptRequest identity options request now rejectedAt) disk faulty := by
  rw [acceptRequest]
  refine Guarded.handle _ (proceeds_receiveRequest hdelivers hsettled) (fun _ _ _ hdone => hdone) ?_
  rintro message ⟨⟩ ⟨disk,faulty⟩ ⟨hsettled,happroved,hfaulty⟩
  obtain rfl : faulty := hfaulty
  exact proceeds_rejectRequest hdelivers.named hsettled happroved

end

end Malink.Pairing
