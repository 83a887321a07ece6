import Malink.DeploymentFailures

/-!
# The attempts that come to rest

A preparation, a promotion and a discard end in a phase of rest, with no refused write, exactly where the texts of their
failures can be recorded.
-/

namespace Malink.Deployment

open DurableProgram Option

variable {outcomes : Outcomes} {computerId : JsString} {schemaText : Refused → JsString} {state : CoordinatorState}
  {status start : Status} {active candidate : Slot} {transition : Transition} {recovering : Bool} {marker : Option Bool}
  {detail : JsString} {α : Type}

theorem fits_of_isValid (h : status.isValid) (hdetail : status.detail = some detail) : Fits detail := by
  simp only [Status.isValid,hdetail,all_some,Bool.and_eq_true,decide_eq_true_eq] at h
  exact h.1.2

theorem InTransaction.check_steady (h : InTransaction computerId start active candidate state)
    (hstatus : status.isValid) (hcomputerId : status.computerId = state.status.computerId) :
    (state.withStatus status (some false)).check computerId = none :=
  h.check_withStatus hstatus (hcomputerId.trans h.continues.computerId) fun hmarker => by cases hmarker

variable {post : Except Thrown Status → CoordinatorState → Bool → Prop} {previous : Option RecoverySlot}
  {program : Program Status} {error : Thrown}

/-- The recovery is back, or it is the one failure of the removal. -/
theorem ends_restore (hok : (previous.bind fun _ => failed outcomes.restoreRecovery) = none →
      Ends outcomes post program state recovering)
    (herror : ∀ error,(previous.bind fun _ => failed outcomes.restoreRecovery) = some error →
      post (.error error) state recovering) :
    Ends outcomes post (do
      match previous with
      | none => .pure ()
      | some recovery => Host.restoreRecovery recovery
      program) state recovering := by
  cases previous with
  | none => exact hok rfl
  | some recovery =>
    rw [bind_some] at hok herror
    refine safe_bind.mpr (ends_host rfl (fun text hrestore => herror _ ?_) fun value hrestore => hok ?_)
    · rw [hrestore,failed]
    · rw [hrestore,failed]

theorem ends_removal (hok : outcomes.removal previous = none → Ends outcomes post program state recovering)
    (herror : ∀ error,outcomes.removal previous = some error → post (.error error) state recovering) :
    Ends outcomes post (do
      Host.discardCandidate transition
      match previous with
      | none => .pure ()
      | some recovery => Host.restoreRecovery recovery
      program) state recovering := by
  rw [Outcomes.removal] at hok herror
  refine safe_bind.mpr (ends_host rfl (fun text hdiscard => herror _ ?_) fun value hdiscard => ?_)
  · rw [hdiscard,failed,some_or]
  · rw [hdiscard,failed,none_or] at hok herror
    exact ends_restore hok herror

theorem preparation_ne_status (h : outcomes.preparation candidate = some error) :
    ∀ status, error ≠ .schema (.status status) := by
  rw [Outcomes.preparation] at h
  split at h
  · rintro status rfl
    cases h
  · exact slotFailure_ne_status h

theorem removal_ne_status (h : outcomes.removal previous = some error) :
    ∀ status, error ≠ .schema (.status status) := by
  rcases or_eq_some_iff.mp h with h | ⟨-,h⟩
  · exact failed_ne_status h
  · obtain ⟨recovery,-,h⟩ := bind_eq_some_iff.mp h
    exact failed_ne_status h

theorem ends_discardCandidate (h : InTransaction computerId start active candidate state)
    (hbegun : Begun start active candidate) (hphase : state.status.phase = .discarding)
    (hrotated : ∀ slot,state.rotatedRecovery = some slot →
      slot.isValid ∧ slot.gatewayNodeId ≠ state.status.active.gatewayNodeId) :
    Ends outcomes (fun result state' _ => Recorded result state' ↔
      outcomes.RecordsDiscard schemaText state.rotatedRecovery) (handle (do
      Host.discardCandidate transition
      restoreRotatedRecovery computerId state.status state.rotatedRecovery "Candidate Gateway was discarded")
      (fun error => do
        let _ ← writeStatus computerId
          { state.status with
            phase := .trial
            detail := some (("Candidate discard failed; active Gateway unchanged: " : JsString) ++
              formatError schemaText error) } none
        .throw error)) state false := by
  have hvalid := (check_eq_none_iff.mp h.valid).1
  have hrecovery : ∀ slot,state.rotatedRecovery.or state.status.recovery = some slot →
      slot.isValid ∧ slot.gatewayNodeId ≠ state.status.active.gatewayNodeId := by
    intro slot hslot
    rcases or_eq_some_iff.mp hslot with hslot | ⟨-,hslot⟩
    · exact hrotated slot hslot
    · exact recovery_isValid hvalid hslot
  have hsteady := isValid_steady hvalid hrecovery (⟨by decide,by decide⟩ : Fits "Candidate Gateway was discarded")
  refine Safe.handle (ThrowsIff (outcomes.removal state.rotatedRecovery) (· = state) Finished) ?_ ?_ ?_
  · refine ends_removal (fun hnone => ?_) fun error hsome => ?_
    · rw [hnone]
      exact ends_writeStatus h.valid hsteady (h.check_steady hsteady rfl) ⟨⟨_,rfl⟩,rfl⟩
    · rw [hsome]
      exact ⟨rfl,rfl⟩
  · intro value state' recovering' hremoved
    rcases hremoved.cases with ⟨error,-,herror,-⟩ | ⟨hremoval,-,hsteady⟩
    · cases herror
    · rw [Outcomes.RecordsDiscard,hremoval]
      refine iff_of_true ⟨hsteady ▸ rfl,fun status hstatus => ?_⟩ fun error herror => ?_
      · cases hstatus
      · cases herror
  · intro error state' recovering' hremoved
    rcases hremoved.cases with ⟨error',hremoval,herror,rfl⟩ | ⟨-,⟨value,hvalue⟩,-⟩
    · obtain rfl := Except.error.inj herror
      have hresting : state'.status.phase.isResting = false := hphase ▸ rfl
      have hcontinues : Continues start { state'.status with
          phase := .trial
          detail := some (("Candidate discard failed; active Gateway unchanged: " : JsString) ++
            formatError schemaText error) } active candidate :=
        { h.continues with phase := fun hphase => by cases hphase }
      simp only [Outcomes.RecordsDiscard,hremoval,some.injEq,forall_eq']
      refine ends_rethrow (removal_ne_status hremoval) ((ends_recordedIff h hbegun hcontinues rfl rfl fun hmarker =>
        ?_).mono fun _ _ _ hrecorded => hrecorded.restsIff hresting)
      exact absurd (Bool.and_eq_true_iff.mp hmarker).2 Bool.false_ne_true
    · cases hvalue

/-- A detail that is too long for the schema is too long with the text of the refusal as well. -/
theorem not_fits_cleanup (htext : ∀ refused,2 ≤ (schemaText refused).length) (refused : Refused)
    (h : ¬ Fits (("Candidate preparation failed; active Gateway unchanged: " : JsString) ++
      formatError schemaText error)) :
    ¬ Fits (("Candidate preparation failed (" : JsString) ++ formatError schemaText error ++ "); cleanup also failed: " ++
      formatError schemaText (.schema refused)) := by
  have hprefix : ("Candidate preparation failed; active Gateway unchanged: " : JsString).length = 56 := by decide
  have hopening : ("Candidate preparation failed (" : JsString).length = 30 := by decide
  have hmiddle : ("); cleanup also failed: " : JsString).length = 24 := by decide
  have hrefused : 2 ≤ (formatError schemaText (.schema refused)).length := htext refused
  simp only [Fits,JsString.length_append, hprefix,hopening,hmiddle,maxDetail] at h ⊢
  omega

section

variable (htext : ∀ refused,2 ≤ (schemaText refused).length)
  (h : InTransaction computerId start active candidate state) (hbegun : Begun start active candidate)
include htext h hbegun

theorem ends_cleanUpPreparation (hphase : state.status.phase = .preparing) (hprevious : ∀ slot,previous = some slot →
      slot.isValid ∧ slot.gatewayNodeId ≠ state.status.active.gatewayNodeId) :
    Ends outcomes (RestsIff (match outcomes.removal previous with
      | none =>
        Fits (("Candidate preparation failed; active Gateway unchanged: " : JsString) ++ formatError schemaText error)
      | some cleanupError =>
        Fits (("Candidate preparation failed (" : JsString) ++ formatError schemaText error ++
          "); cleanup also failed: " ++ formatError schemaText cleanupError)))
      (cleanUpPreparation computerId schemaText state.status transition previous error) state recovering := by
  have hresting : state.status.phase.isResting = false := hphase ▸ rfl
  have hvalid := (check_eq_none_iff.mp h.valid).1
  have hrecovery : ∀ slot,previous.or state.status.recovery = some slot →
      slot.isValid ∧ slot.gatewayNodeId ≠ state.status.active.gatewayNodeId := by
    intro slot hslot
    rcases or_eq_some_iff.mp hslot with hslot | ⟨-,hslot⟩
    · exact hprevious slot hslot
    · exact recovery_isValid hvalid hslot
  refine Safe.handle (ThrowsIff (outcomes.removal previous) (· = state) fun result state' =>
    (Fits (("Candidate preparation failed; active Gateway unchanged: " : JsString) ++ formatError schemaText error) ∧
      Finished result state') ∨
    (¬ Fits (("Candidate preparation failed; active Gateway unchanged: " : JsString) ++ formatError schemaText error) ∧
      (∃ status,result = .error (.schema (.status status))) ∧ state' = state)) ?_ ?_ ?_
  · refine ends_removal (fun hnone => ?_) fun error hsome => ?_
    · rw [hnone]
      by_cases hfits : Fits (("Candidate preparation failed; active Gateway unchanged: " : JsString) ++
          formatError schemaText error)
      · have hsteady := isValid_steady hvalid hrecovery hfits
        exact ends_writeStatus h.valid hsteady (h.check_steady hsteady rfl) (.inl ⟨hfits,⟨_,rfl⟩,rfl⟩)
      · refine ends_writeStatus_refused (Bool.eq_false_iff.mpr fun hstatus => ?_) (.inr ⟨hfits,⟨_,rfl⟩,rfl⟩)
        exact hfits (fits_of_isValid hstatus rfl)
    · rw [hsome]
      exact ⟨rfl,rfl⟩
  · intro value state' recovering' hremoved
    rcases hremoved.cases with ⟨error,-,herror,-⟩ | ⟨hremoval,hremoved⟩
    · cases herror
    · rw [hremoval]
      rcases hremoved with ⟨hfits,hvalue,hsteady⟩ | ⟨-,⟨status,hstatus⟩,-⟩
      · exact .inl ⟨hfits,hvalue,hsteady ▸ rfl⟩
      · cases hstatus
  · intro error' state' recovering' hremoved
    rcases hremoved.cases with ⟨cleanupError,hremoval,herror,rfl⟩ | ⟨hremoval,hremoved⟩
    · obtain rfl := Except.error.inj herror
      rw [hremoval]
      exact (ends_markRepairRequired h hbegun).mono fun _ _ _ hrecorded => hrecorded.restsIff hresting
    · rw [hremoval]
      rcases hremoved with ⟨-,⟨value,hvalue⟩,-⟩ | ⟨hfits,⟨status,hstatus⟩,rfl⟩
      · cases hvalue
      · obtain rfl := Except.error.inj hstatus
        refine (ends_markRepairRequired h hbegun).mono fun result state'' _ hrecorded => ?_
        rcases hrecorded with ⟨hlonger,-⟩ | ⟨-,-,rfl⟩
        · exact absurd hlonger (not_fits_cleanup htext _ hfits)
        · exact .inr ⟨hfits,hresting⟩

/-- A candidate that is not the prepared one is removed, and the error is thrown again. -/
theorem ends_prepareCandidate
    (hphase : state.status.phase = .preparing) (ht : transitionFromStatus state.status = some transition)
    (hprevious : ∀ slot,previous = some slot → slot.isValid ∧ slot.gatewayNodeId ≠ state.status.active.gatewayNodeId) :
    Ends outcomes (fun result state' _ => Recorded result state' ↔
      outcomes.RecordsPreparation candidate schemaText previous) (handle (do
      let prepared ← Host.prepareCandidate transition
      assertPreparedCandidate transition prepared
      writeStatus computerId
        { state.status with
          phase := .trial
          candidate := some prepared
          detail := some "Candidate Gateway is ready for user-directed trial work" } none)
      (fun error => do
        let _ ← cleanUpPreparation computerId schemaText state.status transition previous error
        .throw error)) state false := by
  have hcandidate := h.candidate_identity ht
  refine Safe.handle (ThrowsIff (outcomes.preparation candidate) (· = state) fun result state' =>
    (∃ value,result = .ok value) ∧ state'.status.phase = .trial) ?_ ?_ ?_
  · rw [Outcomes.preparation]
    refine safe_bind.mpr (ends_host rfl (fun text hprepare => ?_) fun prepared hprepare => ?_)
    · rw [hprepare]
      exact ⟨rfl,rfl⟩
    · rw [hprepare]
      refine safe_bind.mpr (ends_assertMatchingSlot (fun hok => ?_) fun error herror => ?_)
      · obtain ⟨hvalid,hidentity⟩ := slotFailure_eq_none.mp hok
        rw [slotFailure_congr hcandidate] at hok
        dsimp only
        rw [hok]
        have hcontinues : Continues start { state.status with
            phase := .trial
            candidate := some prepared
            detail := some "Candidate Gateway is ready for user-directed trial work" } active candidate :=
          { h.continues with
            candidate := ⟨_,rfl,hvalid,hidentity.trans hcandidate⟩
            phase := fun hphase => by cases hphase }
        have hstatus := (hcontinues.isValid_iff hbegun rfl).mpr ⟨by decide,by decide⟩
        have htrial := h.withStatus none hcontinues hstatus fun hmarker =>
          absurd (Bool.and_eq_true_iff.mp hmarker).2 Bool.false_ne_true
        exact ends_writeStatus h.valid hstatus htrial.valid ⟨⟨_,rfl⟩,rfl⟩
      · rw [slotFailure_congr hcandidate] at herror
        dsimp only
        rw [herror]
        exact ⟨rfl,rfl⟩
  · intro value state' recovering' hprepared
    rcases hprepared.cases with ⟨error,-,herror,-⟩ | ⟨hpreparation,-,htrial⟩
    · cases herror
    · rw [Outcomes.RecordsPreparation,hpreparation]
      refine iff_of_true ⟨htrial ▸ rfl,fun status hstatus => ?_⟩ fun error herror => ?_
      · cases hstatus
      · cases herror
  · intro error state' recovering' hprepared
    rcases hprepared.cases with ⟨error',hpreparation,herror,rfl⟩ | ⟨-,⟨value,hvalue⟩,-⟩
    · obtain rfl := Except.error.inj herror
      simp only [Outcomes.RecordsPreparation,hpreparation,some.injEq,forall_eq']
      exact ends_rethrow (preparation_ne_status hpreparation) (ends_cleanUpPreparation htext h hbegun hphase hprevious)
    · cases hvalue

end

theorem ends_rotate (hvalid : state.check computerId = none) {recovery : Option RecoverySlot}
    (hpost : post (.ok state.status) (state.rotate recovery) recovering) :
    Ends outcomes post (changeState computerId fun current => { current with rotatedRecovery := recovery }) state
      recovering := by
  refine safe_changeState hvalid (fun _ => ⟨trivial,hpost⟩) fun thrown hcheck => ?_
  rw [show CoordinatorState.check computerId { state with rotatedRecovery := recovery } = none from hvalid] at hcheck
  cases hcheck

theorem ends_rotatePrevious (hvalid : state.check computerId = none) :
    Ends outcomes (fun result state' recovering' => match outcomes.rotation state.status.recovery with
      | none => result = .ok () ∧ (∃ recovery,state' = state.rotate recovery) ∧ recovering' = false
      | some _ => (∃ text,result = .error (.host text)) ∧ state'.status = state.status)
      (rotatePrevious computerId state.status.recovery) state false := by
  cases hprevious : state.status.recovery with
  | none => exact ⟨rfl,⟨state.rotatedRecovery,rfl⟩,rfl⟩
  | some previous =>
    have hvalid' : (state.rotate (some previous)).check computerId = none := hvalid
    rw [Outcomes.rotation,bind_some]
    refine safe_bind.mpr (ends_rotate hvalid (safe_handle.mpr ?_))
    refine ends_host rfl (fun text hrotate => ?_) fun value hrotate => ?_
    · rw [hrotate]
      refine safe_bind.mpr (ends_host rfl (fun text' _ => ⟨⟨text',rfl⟩,rfl⟩) fun value _ => ?_)
      exact safe_bind.mpr (ends_rotate hvalid' ⟨⟨text,rfl⟩,rfl⟩)
    · rw [hrotate]
      exact ⟨rfl,⟨some previous,rfl⟩,rfl⟩

def preparing (status : Status) (candidate : Slot) (updateId : JsString) : Status :=
  { status with
    phase := .preparing
    recovery := none
    candidate := some candidate
    updateId := some updateId
    detail := some "Preparing an isolated candidate Gateway; the active Gateway remains available" }

variable {updateId : JsString}

theorem begun_preparing (hvalid : status.isValid) (hcandidate : candidate.isValid)
    (hne : candidate.gatewayNodeId ≠ status.active.gatewayNodeId) (hupdateId : isOpaqueId updateId) :
    Begun (preparing status candidate updateId) status.active candidate where
  valid := by
    have hfits : Fits "Preparing an isolated candidate Gateway; the active Gateway remains available" :=
      ⟨by decide,by decide⟩
    simp only [Status.isValid,Bool.and_eq_true] at hvalid
    simp [Status.isValid,Status.isConsistent,preparing,hvalid,hcandidate,hne,hupdateId,hfits.1,hfits.2]
  active := rfl
  candidate := rfl
  updateId := rfl

theorem inTransaction_preparing (hvalid : state.check computerId = none)
    (hbegun : Begun (preparing state.status candidate updateId) state.status.active candidate) :
    InTransaction computerId (preparing state.status candidate updateId) state.status.active candidate
      (state.withStatus (preparing state.status candidate updateId) none) where
  valid := check_eq_none_iff.mpr ⟨hbegun.valid,(check_eq_none_iff.mp hvalid).2.1,
    fun hmarker => absurd (Bool.and_eq_true_iff.mp hmarker).2 Bool.false_ne_true,fun _ hscheduled => by
      cases hscheduled⟩
  unscheduled := rfl
  continues :=
    { computerId := rfl
      updateId := rfl
      recovery := rfl
      active := ⟨hbegun.isValid_active,rfl⟩
      candidate := ⟨candidate,rfl,hbegun.isValid_candidate,rfl⟩
      phase := fun hphase => by cases hphase }

theorem ends_prepareNew (htext : ∀ refused,2 ≤ (schemaText refused).length)
    (hvalid : state.check computerId = none) (hphase : state.status.phase = .steady)
    (hcandidate : candidate.isValid) (hne : candidate.gatewayNodeId ≠ state.status.active.gatewayNodeId)
    (hupdateId : isOpaqueId updateId) :
    Ends outcomes (fun result state' _ => Recorded result state' ↔ (outcomes.rotation state.status.recovery = none →
      outcomes.RecordsPreparation candidate schemaText state.status.recovery))
      (prepareNew computerId schemaText state candidate updateId) state false := by
  have hstatus := (check_eq_none_iff.mp hvalid).1
  have hbegun := begun_preparing hstatus hcandidate hne hupdateId
  refine Safe.bind (ends_rotatePrevious hvalid) ?_ ?_
  · intro value state' recovering' hrotated
    cases hrotation : outcomes.rotation state.status.recovery with
    | some error =>
      rw [hrotation] at hrotated
      obtain ⟨⟨text,htext⟩,-⟩ := hrotated
      cases htext
    | none =>
      rw [hrotation] at hrotated
      obtain ⟨-,⟨recovery,rfl⟩,rfl⟩ := hrotated
      have hrotate : (state.rotate recovery).check computerId = none := hvalid
      have hpreparing := inTransaction_preparing hrotate hbegun
      refine safe_bind.mpr (ends_writeStatus hrotate hbegun.valid hpreparing.valid ?_)
      refine safe_bind.mpr (safe_requireTransition (fun transition ht => ?_) fun thrown hnone => ?_)
      · refine (ends_prepareCandidate htext hpreparing hbegun rfl ht fun slot hslot =>
          recovery_isValid hstatus hslot).mono fun result state' _ hrecorded => hrecorded.trans ?_
        exact ⟨fun hrecords _ => hrecords,fun hrecords => hrecords rfl⟩
      · obtain ⟨transition,ht⟩ := hpreparing.exists_transition hbegun
        cases ht.symm.trans hnone
  · intro error state' recovering' hrotated
    cases hrotation : outcomes.rotation state.status.recovery with
    | none =>
      rw [hrotation] at hrotated
      cases hrotated.1
    | some error =>
      rw [hrotation] at hrotated
      obtain ⟨⟨text,htext⟩,hsame⟩ := hrotated
      obtain rfl := Except.error.inj htext
      refine iff_of_true ⟨?_,fun status hstatus => ?_⟩ fun hnone => ?_
      · rw [hsame,hphase]
        rfl
      · cases hstatus
      · cases hnone

inductive Attempt
  | prepare (input : PrepareInput) (ids : NewIds)
  | promote (updateId : JsString) (mode : Mode)
  | discard (updateId : JsString)

def Attempt.call : Attempt → Call
  | prepare input ids => .prepare input ids
  | promote updateId mode => .promote updateId mode
  | discard updateId => .discard updateId

/-- The identifier of a new update is one that the schema allows. -/
def Attempt.HasIds : Attempt → Prop
  | prepare _ ids => isOpaqueId ids.updateId = true
  | _ => True

/-- The attempt is not refused before its first write. -/
def Attempt.Begins (outcomes : Outcomes) (state : CoordinatorState) : Attempt → Prop
  | prepare input ids =>
    state.status.phase = .steady ∧ (input.newCandidate ids).isValid ∧
      (input.newCandidate ids).gatewayNodeId ≠ state.status.active.gatewayNodeId ∧
        outcomes.rotation state.status.recovery = none
  | promote updateId _ => state.status.phase = .trial ∧ state.status.updateId = some updateId
  | discard updateId => state.status.phase = .trial ∧ state.status.updateId = some updateId

def Attempt.Records (outcomes : Outcomes) (schemaText : Refused → JsString) (state : CoordinatorState) : Attempt → Prop
  | prepare input ids => outcomes.RecordsPreparation (input.newCandidate ids) schemaText state.status.recovery
  | promote _ _ => ∀ candidate, state.status.candidate = some candidate →
      outcomes.RecordsPromotion state.status.active candidate schemaText
  | discard _ => outcomes.RecordsDiscard schemaText state.rotatedRecovery

theorem ends_unit {condition : Prop}
    (h : Ends outcomes (fun result state' _ => Recorded result state' ↔ condition) program state recovering) :
    Ends outcomes (fun result state' _ => Recorded result state' ↔ condition) (do let _ ← program) state recovering := by
  refine Safe.bind h ?_ ?_
  · intro value state' recovering' hrecorded
    refine Iff.trans ⟨fun hresting => ⟨hresting.1,fun status hstatus => ?_⟩,fun hresting =>
      ⟨hresting.1,fun status hstatus => ?_⟩⟩ hrecorded
    · cases hstatus
    · cases hstatus
  · intro error state' recovering' hrecorded
    refine Iff.trans ⟨fun hresting => ⟨hresting.1,fun status hstatus => ?_⟩,fun hresting =>
      ⟨hresting.1,fun status hstatus => ?_⟩⟩ hrecorded
    · obtain rfl := Except.error.inj hstatus
      exact hresting.2 status rfl
    · obtain rfl := Except.error.inj hstatus
      exact hresting.2 status rfl

theorem recorded_refused {thrown : Thrown} {begins records : Prop} (hnot : ∀ status,thrown ≠ .schema (.status status))
    (hbegins : state.status.phase.isResting → ¬ begins) :
    Recorded (.error thrown : Except Thrown Status) state ↔
      state.status.phase.isResting ∧ (begins → records) := by
  constructor
  · rintro ⟨hresting,-⟩
    exact ⟨hresting,fun hbegin => absurd hbegin (hbegins hresting)⟩
  · rintro ⟨hresting,-⟩
    exact ⟨hresting,fun status hstatus => hnot status (Except.error.inj hstatus)⟩

theorem ends_prepare (htext : ∀ refused,2 ≤ (schemaText refused).length) (hvalid : state.check computerId = none)
    (input : PrepareInput) {ids : NewIds} (hids : isOpaqueId ids.updateId) :
    Ends outcomes (fun result state' _ => Recorded result state' ↔ state.status.phase.isResting ∧
      ((Attempt.prepare input ids).Begins outcomes state → (Attempt.prepare input ids).Records outcomes schemaText state))
      (prepare computerId schemaText input ids) state false := by
  refine safe_bind.mpr ((safe_readCoordinatorState hvalid).mpr ?_)
  dsimp only [onResult]
  have hstatus := (check_eq_none_iff.mp hvalid).1
  cases hcandidate : state.status.candidate with
  | some candidate =>
    have hnot : ¬ (Attempt.prepare input ids).Begins outcomes state := by
      intro hbegins
      rw [(bare_of_steady hstatus hbegins.1).1] at hcandidate
      cases hcandidate
    dsimp only
    split
    · next hsame =>
      have hresting : state.status.phase.isResting := hsame.2 ▸ rfl
      exact iff_of_true ⟨hresting,fun status hstatus => by cases hstatus⟩
        ⟨hresting,fun hbegins => absurd hbegins hnot⟩
    · exact recorded_refused (fun status hstatus => by cases hstatus) fun _ => hnot
  | none =>
    refine safe_bind.mpr (ends_refuseUnless (fun hphase => ?_) fun hphase => ?_)
    · have hphase : state.status.phase = .steady := of_decide_eq_true hphase
      refine safe_bind.mpr (ends_refuseUnless (fun hslot => ?_) fun hslot => ?_)
      · refine safe_bind.mpr (ends_refuseUnless (fun hne => ?_) fun hne => ?_)
        · have hne := of_decide_eq_true hne
          refine (ends_prepareNew htext hvalid hphase hslot hne hids).mono fun result state' _ hrecorded =>
            hrecorded.trans ?_
          constructor
          · exact fun hrecords => ⟨hphase ▸ rfl,fun hbegins => hrecords hbegins.2.2.2⟩
          · exact fun hrecords hrotation => hrecords.2 ⟨hphase,hslot,hne,hrotation⟩
        · exact recorded_refused (fun status hstatus => by cases hstatus) fun _ hbegins =>
            of_decide_eq_false hne hbegins.2.2.1
      · refine recorded_refused (fun status hstatus => by cases hstatus) fun _ hbegins => ?_
        exact Bool.false_ne_true (hslot.symm.trans hbegins.2.1)
    · refine recorded_refused (fun status hstatus => by cases hstatus) fun _ hbegins => ?_
      exact of_decide_eq_false hphase hbegins.1

theorem begun_trial (hvalid : status.isValid)
    (ht : transitionFromStatus status = some transition) : Begun status status.active transition.candidate where
  valid := hvalid
  active := rfl
  candidate := candidate_of_transition ht
  updateId := by
    rw [updateId_of_transition ht]
    rfl

theorem continues_trial (hbegun : Begun start start.active candidate) (hcandidate : status.candidate = some candidate)
    (hactive : status.active = start.active) (hcomputerId : status.computerId = start.computerId)
    (hupdateId : status.updateId = start.updateId) (hrecovery : status.recovery = start.recovery)
    (hphase : status.phase ≠ .steady) : Continues start status start.active candidate where
  computerId := hcomputerId
  updateId := hupdateId
  recovery := hrecovery
  active := by
    rw [hactive]
    exact ⟨hbegun.isValid_active,rfl⟩
  candidate := ⟨candidate,hcandidate,hbegun.isValid_candidate,rfl⟩
  phase := hphase

theorem inTransaction_trial (status : Status) (hvalid : state.check computerId = none)
    (hphase : state.status.phase = .trial)
    (hbegun : Begun state.status state.status.active candidate) (hcandidate : status.candidate = some candidate)
    (hactive : status.active = state.status.active) (hcomputerId : status.computerId = state.status.computerId)
    (hupdateId : status.updateId = state.status.updateId) (hrecovery : status.recovery = state.status.recovery)
    (hsteady : status.phase ≠ .steady) (hmarked : status.phase ≠ .committing ∧ status.phase ≠ .repairRequired)
    (hdetail : status.detail = some detail) (hfits : Fits detail) :
    status.isValid ∧ (state.withStatus status none).commitStarted = false ∧
      InTransaction computerId state.status state.status.active candidate (state.withStatus status none) := by
  have hunscheduled : state.scheduledPromotion = none := by
    cases hscheduled : state.scheduledPromotion with
    | none => rfl
    | some scheduled =>
      have hdraining := (check_eq_none_iff.mp hvalid).2.2.2 scheduled hscheduled
      rw [ScheduledPromotion.isValid,hphase] at hdraining
      exact absurd (Bool.and_eq_true_iff.mp hdraining).1 Bool.false_ne_true
  have htrial : InTransaction computerId state.status state.status.active candidate state :=
    ⟨hvalid,hunscheduled,continues_trial hbegun hbegun.candidate rfl rfl rfl rfl (hphase ▸ (by decide))⟩
  have hcontinues := continues_trial hbegun hcandidate hactive hcomputerId hupdateId hrecovery hsteady
  have hstatus := (hcontinues.isValid_iff hbegun hdetail).mpr hfits
  have hmarker : (state.withStatus status none).commitStarted = false := by
    simp [CoordinatorState.withStatus,hmarked]
  refine ⟨hstatus,hmarker,htrial.withStatus none hcontinues hstatus fun hmarked => ?_⟩
  rw [hmarker] at hmarked
  cases hmarked

theorem fits_drainingDetail (mode : Mode) : Fits (drainingDetail mode) := by
  cases mode with
  | whenIdle | force => exact ⟨by decide,by decide⟩

theorem truthy_of_isValid (h : status.isValid) (hupdateId : status.updateId = some updateId) : updateId.truthy := by
  simp only [Status.isValid,Bool.and_eq_true,hupdateId,all_some,isOpaqueId,decide_eq_true_eq] at h
  exact JsString.truthy_iff.mpr h.1.1.2.1

theorem ends_assertUpdate {records : Prop} {next : Unit → Program Status} (hvalid : state.status.isValid)
    (hok : state.status.phase = .trial → state.status.updateId = some updateId →
      Ends outcomes (fun result state' _ => Recorded result state' ↔ records) (next ()) state false) :
    Ends outcomes (fun result state' _ => Recorded result state' ↔ state.status.phase.isResting ∧
      (state.status.phase = .trial ∧ state.status.updateId = some updateId → records))
      (assertUpdate state.status updateId >>= next) state false := by
  refine safe_bind.mpr (safe_bind.mpr (ends_refuseUnless (fun hupdateId => ?_) fun hupdateId => ?_))
  · refine ends_refuseUnless (fun hphase => ?_) fun hphase => ?_
    · have hphase := of_decide_eq_true hphase
      have hupdateId := of_decide_eq_true (Bool.and_eq_true_iff.mp hupdateId).1
      refine (hok hphase hupdateId).mono fun result state' _ hrecorded => hrecorded.trans ?_
      exact ⟨fun hrecords => ⟨hphase ▸ rfl,fun _ => hrecords⟩,fun hrecords => hrecords.2 ⟨hphase,hupdateId⟩⟩
    · exact recorded_refused (fun status hstatus => by cases hstatus) fun _ hbegins =>
        of_decide_eq_false hphase hbegins.1
  · refine recorded_refused (fun status hstatus => by cases hstatus) fun _ hbegins => ?_
    rw [truthy_of_isValid hvalid hbegins.2,Bool.and_true] at hupdateId
    exact of_decide_eq_false hupdateId hbegins.2

theorem ends_promote (hvalid : state.check computerId = none) (updateId : JsString) (mode : Mode) :
    Ends outcomes (fun result state' _ => Recorded result state' ↔ state.status.phase.isResting ∧
      ((Attempt.promote updateId mode).Begins outcomes state →
        (Attempt.promote updateId mode).Records outcomes schemaText state))
      (promote computerId schemaText updateId mode) state false := by
  have hstatus := (check_eq_none_iff.mp hvalid).1
  refine safe_bind.mpr ((safe_readCoordinatorState hvalid).mpr (ends_assertUpdate hstatus fun hphase _ => ?_))
  obtain ⟨transition,ht⟩ := bound_of_trial hstatus hphase
  have hbegun := begun_trial hstatus ht
  obtain ⟨hvalid',hunmarked,htransaction⟩ := inTransaction_trial
    { state.status with phase := .draining, detail := some (drainingDetail mode) } hvalid hphase hbegun
    hbegun.candidate rfl rfl rfl rfl (by simp) (by simp) rfl (fits_drainingDetail mode)
  rw [requireTransition_bind ht]
  refine safe_bind.mpr (ends_writeStatus hvalid hvalid' htransaction.valid ?_)
  refine (ends_performPromotion ⟨htransaction,.inl rfl,hunmarked⟩ hbegun ht mode).mono fun result state' _ hrecorded =>
    hrecorded.trans ⟨fun hrecords slot hslot => ?_,fun hrecords => hrecords _ hbegun.candidate⟩
  rw [hbegun.candidate] at hslot
  exact some.inj hslot ▸ hrecords

theorem ends_discard (hvalid : state.check computerId = none) (hrotated : ∀ slot,state.rotatedRecovery = some slot →
      slot.isValid ∧ slot.gatewayNodeId ≠ state.status.active.gatewayNodeId) (updateId : JsString) :
    Ends outcomes (fun result state' _ => Recorded result state' ↔ state.status.phase.isResting ∧
      ((Attempt.discard updateId).Begins outcomes state → (Attempt.discard updateId).Records outcomes schemaText state))
      (discard computerId schemaText updateId) state false := by
  have hstatus := (check_eq_none_iff.mp hvalid).1
  refine safe_bind.mpr ((safe_readCoordinatorState hvalid).mpr (ends_assertUpdate hstatus fun hphase _ => ?_))
  obtain ⟨transition,ht⟩ := bound_of_trial hstatus hphase
  have hbegun := begun_trial hstatus ht
  have hfits : Fits "Discarding only the candidate Gateway and its trial-owned work" := ⟨by decide,by decide⟩
  obtain ⟨hvalid',-,htransaction⟩ := inTransaction_trial
    { state.status with
      phase := .discarding, detail := some "Discarding only the candidate Gateway and its trial-owned work" } hvalid
    hphase hbegun hbegun.candidate rfl rfl rfl rfl (by simp) (by simp) rfl hfits
  rw [requireTransition_bind ht]
  refine safe_bind.mpr (ends_writeStatus hvalid hvalid' htransaction.valid ?_)
  exact ends_discardCandidate htransaction hbegun rfl hrotated

/-- An attempt comes to rest exactly where its failures can be recorded. -/
theorem attempt_recorded_iff {host : HostState} (htext : ∀ refused,2 ≤ (schemaText refused).length)
    (h : Reached computerId schemaText (fun _ _ => True) (fun _ _ => False) state host) (attempt : Attempt)
    (hids : attempt.HasIds) (outcomes : Outcomes) :
    Recorded (run outcomes.answer (attempt.call.program computerId schemaText) state false).1
        (run outcomes.answer (attempt.call.program computerId schemaText) state false).2.1 ↔
      state.status.phase.isResting = true ∧
        (attempt.Begins outcomes state → attempt.Records outcomes schemaText state) := by
  have hsound : Sound computerId False False state host :=
    h.sound (fun _ _ htracked => htracked.elim) fun _ _ hguarded => hguarded.elim
  cases attempt with
  | prepare input ids => exact run_of_safe (ends_unit (ends_prepare htext hsound.valid input hids))
  | promote updateId mode => exact run_of_safe (ends_unit (ends_promote hsound.valid updateId mode))
  | discard updateId => exact run_of_safe (ends_unit (ends_discard hsound.valid hsound.rotated updateId))

/-- A host that answers as the transaction expects, with two requests that throw. -/
def sampleOutcomes (discarded committed : Except JsString Unit)
    (recovered : Except JsString CommitResult) : Outcomes where
  prepareCandidate := .ok (sampleSlot "b")
  discardCandidate := discarded
  drainDeployments := .ok ⟨none,none,none⟩
  transferState := .ok (sampleSlot "b")
  commitCandidate := committed
  retainedRecovery := fun _ => .ok none
  rotateRecovery := .ok ()
  restoreRecovery := .ok ()
  rollbackPreCommit := .ok ⟨none,none⟩
  recoverPreparation := .ok none
  recoverCommit := recovered

/-- A discard that fails leaves the trial, with the error in its detail. -/
theorem attempt_recorded_iff_sample :
    Recorded
      (run (sampleOutcomes (.error "busy") (.ok ()) (.ok .unknown)).answer
        ((Attempt.discard "update b").call.program "computer" sampleText) sampleTrial.1 false).1
      (run (sampleOutcomes (.error "busy") (.ok ()) (.ok .unknown)).answer
        ((Attempt.discard "update b").call.program "computer" sampleText) sampleTrial.1 false).2.1 := by
  have htext : ∀ refused,2 ≤ (sampleText refused).length := fun _ => by
    rw [sampleText]
    decide
  have hfits : Fits (("Candidate discard failed; active Gateway unchanged: " : JsString) ++
      formatError sampleText (.host "busy")) := ⟨by decide,by decide⟩
  refine (attempt_recorded_iff htext (reached_sampleTrial trivial) (.discard "update b") trivial
    (sampleOutcomes (.error "busy") (.ok ()) (.ok .unknown))).mpr ⟨rfl,fun _ error herror => ?_⟩
  obtain rfl := some.inj (herror : some (Thrown.host "busy") = some error)
  exact hfits

/-- The commit throws, and the host cannot say whether it has happened. -/
def unrecoveredCommit : Except Thrown Unit × CoordinatorState × Bool :=
  run (sampleOutcomes (.ok ()) (.error "no route") (.error "no route")).answer
    ((Attempt.promote "update b" .whenIdle).call.program "computer" sampleText) sampleTrial.1 false

theorem promotion_leaves_committing :
    Reached "computer" sampleText (fun _ _ => True) (fun _ _ => False) sampleTrial.1 sampleTrial.2 ∧
      ¬ Recorded unrecoveredCommit.1 unrecoveredCommit.2.1 := by
  have hphase : unrecoveredCommit.2.1.status.phase = .committing := by decide
  refine ⟨reached_sampleTrial trivial,fun hrecorded => ?_⟩
  have hresting := hrecorded.1
  rw [hphase] at hresting
  cases hresting

end Malink.Deployment
