import Malink.PairingResumption

/-!
# Runs of deliveries

One delivery after another, whatever ends them: what holds of each run whose steps leave the request alone.
-/

namespace Malink.Pairing

open DurableProgram List

variable {identity : GatewayPairingIdentity} {options : ServiceOptions} {request : SignedPairingRequest}
  {signedOffer : SignedPairingOffer} {state state' : Redelivery} {event : Event}

/-- What holds after each step of such a run. -/
structure RunSound (identity : GatewayPairingIdentity) (request : SignedPairingRequest)
    (signedOffer : SignedPairingOffer) (state : Redelivery) : Prop where
  staged : Staged request signedOffer state.disk
  idle : state.deliveries = [] → Settled identity request signedOffer state.disk
  single : state.deliveries.length ≤ 1
  waiting : ∀ delivery ∈ state.deliveries, (delivery.program.advance ()).1 = delivery.program
  proceeds : ∀ delivery ∈ state.deliveries, Proceeds identity request signedOffer
    (Finishes identity request signedOffer) delivery.program state.disk delivery.faulty
  same : ∀ response ∈ state.responses, Persisted request.request.requestId response state.disk

theorem relies_refl (disk : Disk) (faulty : Bool) :
    Relies identity request signedOffer ((),disk,faulty) ((),disk,faulty) :=
  ⟨(Alike.refl disk).untouched,rfl⟩

variable {disk : Disk} {faulty : Bool} {program : Task ReceivedRequest}

theorem Finishes.untouched {result : Except JsString ReceivedRequest} {disk' : Disk}
    (h : Finishes identity request signedOffer result disk faulty)
    (huntouched : Untouched identity request signedOffer disk disk') :
    Finishes identity request signedOffer result disk' faulty := by
  cases result with
  | ok received => exact Done.untouched huntouched h
  | error message => exact ⟨h.1.untouched huntouched,h.2⟩

/-- While a delivery waits or has ended, the others leave it alone. -/
theorem Proceeds.wait {disk' : Disk} (hwaiting : (program.advance ()).1 = program)
    (h : Proceeds identity request signedOffer (Finishes identity request signedOffer) program disk faulty)
    (huntouched : Untouched identity request signedOffer disk disk') :
    Proceeds identity request signedOffer (Finishes identity request signedOffer) program disk' faulty := by
  refine Guarded.stay (fun first second third hfirst hsecond => ?_) (fun result hpost => ?_) hwaiting h ⟨huntouched,rfl⟩
  · exact ⟨hfirst.1.trans hsecond.1,hsecond.2.trans hfirst.2⟩
  · have hfinished : Finishes identity request signedOffer result disk faulty := hpost
    exact hfinished.untouched huntouched

theorem Proceeds.advance
    (h : Proceeds identity request signedOffer (Finishes identity request signedOffer) program disk faulty) :
    Proceeds identity request signedOffer (Finishes identity request signedOffer) (program.advance ()).1 disk faulty :=
  (Guarded.advance h).2

theorem single_delivery {before after : List Delivery} {delivery : Delivery}
    (h : (before ++ delivery :: after).length ≤ 1) : before = [] ∧ after = [] := by
  rw [length_append,length_cons] at h
  exact ⟨eq_nil_of_length_eq_zero (by omega),eq_nil_of_length_eq_zero (by omega)⟩

/-- A state with one delivery, after an access of it. -/
theorem runSound_access {responses : List SignedPairingResponse} (hstaged : Staged request signedOffer disk)
    (hproceeds : Proceeds identity request signedOffer (Finishes identity request signedOffer) program disk faulty)
    (hsame : ∀ response ∈ responses,Persisted request.request.requestId response disk) :
    RunSound identity request signedOffer ⟨disk,[⟨(program.advance ()).1,faulty⟩],responses⟩ := by
  refine ⟨hstaged,nofun,le_refl 1,?_,?_,hsame⟩
  · exact forall_mem_singleton.mpr (advance_advance program () ())
  · exact forall_mem_singleton.mpr hproceeds.advance

theorem RunSound.step (h : RunSound identity request signedOffer state)
    (hsuitable : Suitable identity options request signedOffer) (hnamed : Named request)
    (hstep : RedeliveryStep identity options request state event state')
    (hexpected : Expected identity request signedOffer state event state')
    (hundisturbed : Undisturbed identity request signedOffer state event state') :
    RunSound identity request signedOffer state' := by
  cases hstep with
  | deliver disk deliveries responses now rejectedAt =>
    obtain rfl : deliveries = [] := hundisturbed
    exact runSound_access h.staged (proceeds_acceptRequest ⟨hsuitable,hnamed,hexpected⟩ (h.idle rfl)) h.same
  | answered before after responses ask next faulty reply hclean =>
    obtain ⟨rfl,rfl⟩ := single_delivery h.single
    obtain ⟨-,hnext⟩ := h.proceeds _ mem_cons_self () _ (relies_refl _ faulty)
    obtain ⟨⟨hstaged,hkept⟩,hproceeds⟩ := hnext reply (_,faulty) (.inl ⟨hclean,hundisturbed,rfl⟩)
    exact runSound_access hstaged hproceeds fun response hresponse => hkept response (h.same response hresponse)
  | failed before after responses ask next faulty message hfailed =>
    obtain ⟨rfl,rfl⟩ := single_delivery h.single
    obtain ⟨-,hnext⟩ := h.proceeds _ mem_cons_self () _ (relies_refl _ faulty)
    obtain ⟨⟨hstaged,hkept⟩,hproceeds⟩ := hnext (.error message) (_,true)
      (.inr ⟨message,rfl,hfailed,hundisturbed.1,hundisturbed.2,rfl⟩)
    exact runSound_access hstaged hproceeds fun response hresponse => hkept response (h.same response hresponse)
  | returned disk before after responses received faulty =>
    obtain ⟨rfl,rfl⟩ := single_delivery h.single
    have hdone : Done request received.response disk := h.proceeds _ mem_cons_self
    refine ⟨h.staged,fun _ => hdone.settled,Nat.zero_le 1,forall_mem_nil _,forall_mem_nil _,?_⟩
    exact forall_mem_cons.mpr ⟨hdone.persisted,h.same⟩
  | thrown disk before after responses message faulty =>
    obtain ⟨rfl,rfl⟩ := single_delivery h.single
    have hfinished : Settled identity request signedOffer disk ∧ faulty := h.proceeds _ mem_cons_self
    exact ⟨h.staged,fun _ => hfinished.1,Nat.zero_le 1,forall_mem_nil _,forall_mem_nil _,h.same⟩
  | crash disk deliveries responses =>
    exact ⟨h.staged,fun _ => ⟨h.staged,hundisturbed⟩,Nat.zero_le 1,forall_mem_nil _,forall_mem_nil _,
      h.same⟩
  | @other disk disk' deliveries responses ask reply hother =>
    have huntouched : Untouched identity request signedOffer disk disk' := hundisturbed
    refine ⟨h.staged.untouched huntouched,fun hnone => (h.idle hnone).untouched huntouched,h.single,h.waiting,?_,
      ?_⟩
    · exact fun delivery hdelivery => (h.proceeds delivery hdelivery).wait (h.waiting delivery hdelivery) huntouched
    · exact fun response hresponse => huntouched.persisted (h.same response hresponse)

theorem RunSound.resumes (h : RunSound identity request signedOffer state) : Resumes request state where
  returns delivery hdelivery hfaulty message hthrown := by
    have hproceeds := h.proceeds delivery hdelivery
    rw [hthrown] at hproceeds
    have hfinished : Settled identity request signedOffer state.disk ∧ delivery.faulty := hproceeds
    rw [hfaulty] at hfinished
    cases hfinished.2
  persisted delivery hdelivery received hreturned := by
    have hproceeds := h.proceeds delivery hdelivery
    rw [hreturned] at hproceeds
    have hdone : Done request received.response state.disk := hproceeds
    exact hdone.persisted
  same := h.same
  unrejected delivery hdelivery rejection next hasked := by
    have hproceeds := h.proceeds delivery hdelivery
    rw [hasked] at hproceeds
    exact (hproceeds () _ (relies_refl _ _)).1 rejection rfl
  ends delivery _ := restOf_wellFounded.apply delivery.program

theorem Pairable.runSound {start : Disk} (h : Pairable identity options request signedOffer start) :
    RunSound identity request signedOffer ⟨start,[],[]⟩ := by
  have hopened : Staged request signedOffer start := .opened ⟨h.unrecorded,h.open_,h.acceptable⟩
  exact ⟨hopened,fun _ => ⟨hopened,fun hunrecorded => h.unclaimed hunrecorded.2⟩,Nat.zero_le 1,
    forall_mem_nil _,forall_mem_nil _,forall_mem_nil _⟩

/-- An interrupted pairing is resumed in every run whose steps leave the request alone. -/
theorem pairing_resumes {start : Disk} (hstart : Pairable identity options request signedOffer start)
    (hnamed : Named request) (hrun : RedeliveryRun identity options request (fun before event after =>
      Expected identity request signedOffer before event after ∧
        Undisturbed identity request signedOffer before event after)
      ⟨start,[],[]⟩ state) : Resumes request state := by
  have hsound : RunSound identity request signedOffer state := by
    induction hrun with
    | refl => exact hstart.runSound
    | step _ hstep hallowed ih => exact ih.step hstart.suitable hnamed hstep hallowed.1 hallowed.2
  exact hsound.resumes

def Ask.makesOffer : Ask → Bool
  | .addOffer _ _ => true
  | _ => false

theorem cleanStep_reply {asked : Ask} (hasked : asked.makesOffer = false) :
    CleanStep disk asked (disk.reply "uuid" asked).1 (disk.reply "uuid" asked).2 := by
  cases asked with
  | addOffer signedOffer source => cases hasked
  | randomUUID | generatePairingChallenge => exact ⟨_,⟨_,rfl⟩,rfl⟩
  | workspaceDirectory => exact ⟨_,⟨none,rfl⟩,rfl⟩
  | _ => exact ⟨_,rfl,rfl⟩

def Redelivery.answer (state : Redelivery) : Redelivery :=
  match state.deliveries with
  | ⟨.ask asked next,faulty⟩ :: after =>
    if asked.makesOffer = false then
      ⟨(state.disk.reply "uuid" asked).2,⟨((next (state.disk.reply "uuid" asked).1).advance ()).1,faulty⟩ :: after,
        state.responses⟩
    else state
  | _ => state

section

variable {allowed : Redelivery → Event → Redelivery → Prop} {first : Redelivery}

section

variable (h : RedeliveryRun identity options request allowed first state)
include h

theorem run_answer {asked : Ask} {next : Except JsString asked.Reply → Task ReceivedRequest} {after : List Delivery}
    (hasked : state.deliveries = ⟨.ask asked next,faulty⟩ :: after) (hoffer : asked.makesOffer = false)
    (hallowed : allowed state (.answered asked) state.answer) :
    RedeliveryRun identity options request allowed first state.answer := by
  obtain ⟨disk,deliveries,responses⟩ := state
  obtain rfl : deliveries = ⟨.ask asked next,faulty⟩ :: after := hasked
  have hanswer : Redelivery.answer ⟨disk,⟨.ask asked next,faulty⟩ :: after,responses⟩ =
      ⟨(disk.reply "uuid" asked).2,⟨((next (disk.reply "uuid" asked).1).advance ()).1,faulty⟩ :: after,
        responses⟩ := by
    rw [Redelivery.answer]
    exact if_pos hoffer
  rw [hanswer] at hallowed ⊢
  exact h.step (.answered [] after responses asked next faulty _ (cleanStep_reply hoffer)) hallowed

theorem run_deliver {now : ℕ} (hallowed : ∀ after,allowed state (.deliver now now) after) :
    RedeliveryRun identity options request allowed first
      ⟨state.disk,⟨((acceptRequest identity options request now now).advance ()).1,false⟩ :: state.deliveries,
        state.responses⟩ :=
  h.step (.deliver state.disk state.deliveries state.responses now now) (hallowed _)

theorem run_crash (hallowed : ∀ after,allowed state .crash after) :
    RedeliveryRun identity options request allowed first ⟨state.disk,[],state.responses⟩ :=
  h.step (.crash state.disk state.deliveries state.responses) (hallowed _)

end

end

def sampleOffer : SignedPairingOffer :=
  ⟨⟨"uuid","gateway",some "node","Home",⟨"root",.null⟩,sampleTransport,"uuid",[.prompt,.cancel],1000,301000⟩,
    ⟨"root","signed"⟩⟩

def sampleDeliver (state : Redelivery) (now : ℕ) : Redelivery :=
  ⟨state.disk,⟨((acceptRequest sampleIdentity sampleOptions sampleRequest now now).advance ()).1,false⟩ ::
    state.deliveries,state.responses⟩

/-- A delivery has been going on for some answers when the process crashes. -/
def sampleCrash (answers : ℕ) : Redelivery :=
  ⟨(Redelivery.answer^[answers] (sampleDeliver ⟨sampleOffered,[],[]⟩ 2000)).disk,[],[]⟩

theorem sampleVerified {now : ℕ} (hfirst : 2000 ≤ now) (hlast : now ≤ 3000) :
    VerifiedRequest sampleIdentity sampleRequest sampleOffer now where
  offerKey := rfl
  offerSigned := ⟨rfl,rfl⟩
  offerWindow := by
    refine ⟨hlast.trans_lt (by decide),hfirst.trans' (by decide) |>.trans (Nat.le_add_right _ _),by decide⟩
  offerId := rfl
  gatewayId := rfl
  offerDigest := rfl
  operations := by decide
  inOffer := by decide
  deviceKey := rfl
  requestSigned := ⟨rfl,rfl⟩
  requestWindow := by
    refine ⟨hlast.trans_lt (by decide),hfirst.trans' (by decide) |>.trans (Nat.le_add_right _ _),by decide⟩

theorem samplePairable : Pairable sampleIdentity sampleOptions sampleRequest sampleOffer sampleOffered where
  suitable := ⟨by decide,rfl,rfl,nofun⟩
  open_ := ⟨_,rfl,rfl,rfl⟩
  unrecorded := rfl
  unclaimed := by
    rintro ⟨claim,-,hclaimed⟩
    cases hclaimed
  acceptable := ⟨nofun,rfl⟩

/-- The challenge is claimed and the request is not recorded, and the request is delivered again. -/
def sampleRefused : Redelivery := (sampleDeliver (sampleCrash 3) 3000).answer.answer.answer.answer

theorem sampleRefused_run :
    RedeliveryRun sampleIdentity sampleOptions sampleRequest (Expected sampleIdentity sampleRequest sampleOffer)
      ⟨sampleOffered,[],[]⟩ sampleRefused := by
  have hstart : RedeliveryRun sampleIdentity sampleOptions sampleRequest
      (Expected sampleIdentity sampleRequest sampleOffer) ⟨sampleOffered,[],[]⟩ ⟨sampleOffered,[],[]⟩ := .refl _
  have hfirst := run_deliver hstart fun _ => sampleVerified (le_refl 2000) (by decide)
  have hclaimed := run_answer (run_answer (run_answer hfirst rfl rfl trivial) rfl rfl trivial) rfl rfl trivial
  have hagain := run_deliver (run_crash hclaimed fun _ => trivial) fun _ => sampleVerified (by decide) (le_refl 3000)
  have hread := run_answer (run_answer hagain rfl rfl trivial) rfl rfl trivial
  exact run_answer (run_answer hread rfl rfl trivial) rfl rfl trivial

/-- A crash between the claim and the record ends the pairing for good. -/
theorem pairing_not_resumed : ¬ ∀ (identity : GatewayPairingIdentity) (options : ServiceOptions)
    (request : SignedPairingRequest) (signedOffer : SignedPairingOffer) (start : Disk) (state : Redelivery),
    Pairable identity options request signedOffer start →
    RedeliveryRun identity options request (Expected identity request signedOffer) ⟨start,[],[]⟩ state →
      Resumes request state := by
  intro h
  have hthrown : ∃ delivery ∈ sampleRefused.deliveries,delivery.faulty = false ∧
      delivery.program = .throw "Pairing offer has already been consumed" := ⟨_,mem_cons_self,rfl,rfl⟩
  obtain ⟨delivery,hdelivery,hfaulty,hthrown⟩ := hthrown
  have hresumes := h sampleIdentity sampleOptions sampleRequest sampleOffer sampleOffered sampleRefused
    samplePairable sampleRefused_run
  exact hresumes.returns delivery hdelivery hfaulty _ hthrown

/-- The request is recorded when the process crashes, and the request is delivered again. -/
def sampleResumed : Redelivery := Redelivery.answer^[9] (sampleDeliver (sampleCrash 4) 3000)

theorem sampleResumed_run :
    RedeliveryRun sampleIdentity sampleOptions sampleRequest (fun before event after =>
        Expected sampleIdentity sampleRequest sampleOffer before event after ∧
          Undisturbed sampleIdentity sampleRequest sampleOffer before event after)
      ⟨sampleOffered,[],[]⟩ sampleResumed := by
  have hstart : RedeliveryRun sampleIdentity sampleOptions sampleRequest (fun before event after =>
        Expected sampleIdentity sampleRequest sampleOffer before event after ∧
          Undisturbed sampleIdentity sampleRequest sampleOffer before event after)
      ⟨sampleOffered,[],[]⟩ ⟨sampleOffered,[],[]⟩ := .refl _
  have hfirst := run_deliver hstart fun _ => ⟨sampleVerified (le_refl 2000) (by decide),rfl⟩
  have hclaimed := run_answer (run_answer (run_answer hfirst rfl rfl ⟨trivial,trivial⟩) rfl rfl ⟨trivial,trivial⟩)
    rfl rfl ⟨trivial,trivial⟩
  have hrecorded := run_answer hclaimed rfl rfl ⟨trivial,trivial⟩
  have hcrashed := run_crash hrecorded fun _ => ⟨trivial,fun hunrecorded => (by cases hunrecorded.1)⟩
  have hagain := run_deliver hcrashed fun _ => ⟨sampleVerified (by decide) (le_refl 3000),rfl⟩
  -- the request, its record and its offer are read
  have hread := run_answer (run_answer (run_answer hagain rfl rfl ⟨trivial,trivial⟩) rfl rfl ⟨trivial,trivial⟩)
    rfl rfl ⟨trivial,trivial⟩
  have hreserved := run_answer hread rfl rfl ⟨trivial,by decide,by decide⟩
  have hsigned := run_answer (run_answer hreserved rfl rfl ⟨trivial,trivial⟩) rfl rfl ⟨trivial,trivial⟩
  have hchecked := run_answer (run_answer hsigned rfl rfl ⟨trivial,trivial⟩) rfl rfl ⟨trivial,trivial⟩
  exact run_answer hchecked rfl rfl ⟨trivial,trivial⟩

theorem pairing_resumes_sample : (∃ delivery ∈ sampleResumed.deliveries,∃ received,delivery.program = .pure received) ∧
    Resumes sampleRequest sampleResumed :=
  ⟨⟨_,mem_cons_self,_,rfl⟩,pairing_resumes samplePairable ⟨by decide,by decide⟩ sampleResumed_run⟩

end Malink.Pairing
