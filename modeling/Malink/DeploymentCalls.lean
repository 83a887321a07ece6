import Malink.DeploymentPromotion

/-!
# Every call keeps the file and the host together

Preparation, discarding and the start of the process, after the promotion.
-/

namespace Malink.Deployment

open DurableProgram Option

variable {tracked guarded careful : Prop} {host host' : HostState} {status : Status} {transition : Transition}
  {computerId : JsString} {state : CoordinatorState} {detail : JsString} {schemaText : Refused → JsString}

theorem Sound.isValid (h : Sound computerId tracked guarded state host) : state.status.isValid :=
  (check_eq_none_iff.mp h.valid).1

/-- The recovery that a valid status names runs another node than the active one. -/
theorem recovery_isValid (h : status.isValid) {recovery : RecoverySlot} (hrecovery : status.recovery = some recovery) :
    recovery.isValid ∧ recovery.gatewayNodeId ≠ status.active.gatewayNodeId := by
  simp only [Status.isValid,Status.isConsistent,Bool.and_eq_true,hrecovery,all_some,decide_eq_true_eq] at h
  exact ⟨h.1.1.1.2,h.2.1.1.1.1⟩

def Request.changesPrepared : Request → Bool
  | prepareCandidate _ => true
  | discardCandidate _ => true
  | recoverPreparation _ => true
  | _ => false

theorem hostStep_changesPrepared {request : Request} {reply : Except Thrown request.Reply}
    (hchanges : request.changesPrepared) (hstep : hostStep careful host request reply host') :
    ∃ prepared, host' = { host with prepared := prepared } := by
  cases request with
  | prepareCandidate transition =>
    rcases reply with error | slot
    · rcases hstep with rfl | rfl
      · exact ⟨host'.prepared,rfl⟩
      · exact ⟨_,rfl⟩
    · exact ⟨_,hstep⟩
  | discardCandidate transition =>
    rcases reply with error | _
    · rcases hstep with rfl | ⟨-,rfl⟩
      · exact ⟨host'.prepared,rfl⟩
      · exact ⟨_,rfl⟩
    · exact ⟨_,hstep⟩
  | recoverPreparation transition =>
    rcases reply with error | candidate
    · rcases hstep with rfl | rfl | rfl
      · exact ⟨host'.prepared,rfl⟩
      · exact ⟨_,rfl⟩
      · exact ⟨_,rfl⟩
    · cases candidate with
      | none | some => exact ⟨_,hstep⟩
  | _ => cases hchanges

/-- In a phase that promises no candidate, the host may prepare and discard one. -/
theorem kept_perform_prepared (request : Request) (hchanges : request.changesPrepared)
    (h : Sound computerId tracked guarded state host) (hphase : state.status.phase.hasCandidate = false)
    (hunmarked : state.commitStarted = false) :
    Kept computerId tracked guarded careful
      (fun reply state' host' => state' = state ∧ Sound computerId tracked guarded state host' ∧
        hostStep careful host request reply host')
      (perform request) state host := by
  refine safe_perform.mpr ⟨?_,fun reply host' hstep => ?_⟩
  · cases request with
    | commitCandidate | rollbackPreCommit => cases hchanges
    | _ => trivial
  · obtain ⟨prepared,rfl⟩ := hostStep_changesPrepared hchanges hstep
    have hsound := h.setPrepared prepared hphase hunmarked
    exact ⟨hsound,rfl,hsound,hstep⟩

theorem live_of_prepared (ht : transitionFromStatus state.status = some transition)
    (hprepared : host.prepared = some (transition.updateId,transition.candidate.identity)) :
    Live host state.status := by
  intro transition' ht' _
  rw [ht] at ht'
  obtain rfl := some.inj ht'
  exact hprepared

theorem kept_trial (h : Sound computerId tracked guarded state host) (hunmarked : state.commitStarted = false)
    (hlive : guarded → Live host state.status) (hsame : SameBinding status state.status)
    (hphase : status.phase = .trial) :
    Kept computerId tracked guarded careful (Settled [.trial] state host) (writeStatus computerId status none) state
      host := by
  refine (kept_sameBinding h hunmarked hsame ?_ fun hguarded _ => hlive hguarded).mono fun _ _ _ hwritten =>
    hwritten.settled (List.mem_singleton.mpr hphase)
  rw [hphase]
  decide

def CoordinatorState.rotate (state : CoordinatorState) (recovery : Option RecoverySlot) : CoordinatorState :=
  { state with rotatedRecovery := recovery }

variable {recovery : Option RecoverySlot}

section

variable (h : Sound computerId tracked guarded state host)
include h

theorem Sound.rotate (hrecovery : ∀ slot,recovery = some slot →
      slot.isValid ∧ slot.gatewayNodeId ≠ state.status.active.gatewayNodeId) :
    Sound computerId tracked guarded (state.rotate recovery) host := ⟨h.valid,h.marked,hrecovery,h.status⟩

theorem kept_rotate (hrecovery : ∀ slot,recovery = some slot →
      slot.isValid ∧ slot.gatewayNodeId ≠ state.status.active.gatewayNodeId) :
    Kept computerId tracked guarded careful
      (fun result state' host' => state' = state.rotate recovery ∧ host' = host ∧ result = .ok state.status)
      (changeState computerId fun current => { current with rotatedRecovery := recovery }) state host := by
  refine safe_changeState h.valid (fun _ => ⟨h.rotate hrecovery,rfl,rfl,rfl⟩) fun thrown hcheck => ?_
  rw [show CoordinatorState.check computerId { state with rotatedRecovery := recovery } = none from h.valid] at hcheck
  cases hcheck

theorem kept_rotatePrevious :
    Kept computerId tracked guarded careful (onResult
      (fun _ state' host' => ∃ recovery,state' = state.rotate recovery ∧ host' = host) fun _ _ _ => True)
      (rotatePrevious computerId state.status.recovery) state host := by
  cases hprevious : state.status.recovery with
  | none => exact ⟨state.rotatedRecovery,rfl,rfl⟩
  | some previous =>
    have hvalid : ∀ slot,some previous = some slot →
        slot.isValid ∧ slot.gatewayNodeId ≠ state.status.active.gatewayNodeId := by
      rintro slot heq
      obtain rfl := some.inj heq
      exact recovery_isValid h.isValid hprevious
    refine Safe.bind (kept_rotate h hvalid) ?_ fun _ _ _ _ => trivial
    rintro _ _ host ⟨rfl,rfl,-⟩
    have hrotated := h.rotate hvalid
    refine Safe.handle _ (kept_perform (.rotateRecovery previous) rfl hrotated trivial) ?_ ?_
    · rintro _ _ host ⟨rfl,rfl,-⟩
      exact ⟨_,rfl,rfl⟩
    · rintro error _ host ⟨rfl,rfl,-⟩
      refine Safe.bind (kept_perform (.restoreRecovery previous) rfl hrotated trivial) ?_ fun _ _ _ _ => trivial
      rintro _ _ host ⟨rfl,rfl,-⟩
      exact Safe.bind (kept_rotate hrotated fun slot hslot => by cases hslot) (fun _ _ _ _ => trivial)
        fun _ _ _ _ => trivial

variable {previous : Option RecoverySlot}

theorem kept_cleanUpPreparation (hphase : state.status.phase = .preparing) {error : Thrown} :
    Kept computerId tracked guarded careful (fun _ _ _ => True)
      (cleanUpPreparation computerId schemaText state.status transition previous error) state host := by
  have hunmarked := h.commitStarted_eq_false (hphase ▸ (by decide)) (hphase ▸ (by decide))
  refine Safe.handle (onResult (fun _ _ _ => True)
    fun _ state' host' => state' = state ∧ Sound computerId tracked guarded state host') ?_ (fun _ _ _ _ => trivial) ?_
  · refine Safe.bind (kept_perform_prepared (.discardCandidate transition) rfl h (hphase ▸ rfl) hunmarked) ?_ ?_
    · rintro _ state host ⟨rfl,hsound,-⟩
      have hreturn : Kept computerId tracked guarded careful
          (onResult (fun _ _ _ => True)
            fun _ state' host' => state' = state ∧ Sound computerId tracked guarded state host')
          (returnToSteady computerId { state.status with recovery := previous.or state.status.recovery }
            (("Candidate preparation failed; active Gateway unchanged: " : JsString) ++ formatError schemaText error))
          state host := by
        have hsame : SameBinding { state.status with recovery := previous.or state.status.recovery } state.status :=
          ⟨rfl,rfl,rfl,rfl⟩
        refine (kept_returnToSteady hsound (hsound.status.isOpen hunmarked) hsame).mono ?_
        rintro (error | value) state' host' hsettled
        · obtain ⟨rfl,rfl⟩ := hsettled
          exact ⟨rfl,hsound⟩
        · trivial
      cases previous with
      | none => exact hreturn
      | some recovery =>
        refine Safe.bind (kept_perform (.restoreRecovery recovery) rfl hsound trivial) ?_ ?_
        · rintro _ state host ⟨rfl,rfl,-⟩
          exact hreturn
        · rintro _ state host ⟨rfl,rfl,-⟩
          exact ⟨rfl,hsound⟩
    · rintro _ state host ⟨rfl,hsound,-⟩
      exact ⟨rfl,hsound⟩
  · rintro cleanupError state host ⟨rfl,hsound⟩
    refine (kept_markRepairRequired hsound (fun _ => hsound.status.isOpen hunmarked) (fun _ hmarked => ?_)
      (.refl _)).mono fun _ _ _ _ => trivial
    cases hmarked

variable {updateId : JsString}

/-- A new update begins with a candidate that the host has not prepared. -/
theorem statusSound_preparing (hphase : state.status.phase = .steady) (hfresh : updateId ∉ host.commits)
    {candidate : Slot} {marker : Bool} (hmarker : marker = false) :
    StatusSound tracked guarded host marker { state.status with
      phase := .preparing, recovery, candidate := some candidate, updateId := some updateId, detail := some detail } where
  follows := by
    refine ⟨rfl,fun htracked _ => ?_,?_⟩
    · have hunmarked := h.commitStarted_eq_false (hphase ▸ (by decide)) (hphase ▸ (by decide))
      exact h.status.follows.before htracked (h.status.isOpen hunmarked)
    · rintro - transition ht hmem
      obtain rfl := some.inj (updateId_of_transition ht)
      exact absurd hmem hfresh
  isOpen := by
    rintro - id hid
    obtain rfl := some.inj hid
    exact hfresh
  live := by
    rintro - (hlive | hmarked)
    · cases hlive
    · rw [hmarker] at hmarked
      cases hmarked

/-- The candidate has to match before the trial begins, and anything else is cleaned up. -/
theorem kept_prepareCandidate (hphase : state.status.phase = .preparing)
    (ht : transitionFromStatus state.status = some transition) :
    Kept computerId tracked guarded careful (fun _ _ _ => True) (handle (do
      let prepared ← Host.prepareCandidate transition
      assertPreparedCandidate transition prepared
      writeStatus computerId
        { state.status with
          phase := .trial
          candidate := some prepared
          detail := some "Candidate Gateway is ready for user-directed trial work" } none)
      (fun error => do
        let _ ← cleanUpPreparation computerId schemaText state.status transition previous error
        .throw error)) state host := by
  have hunmarked := h.commitStarted_eq_false (hphase ▸ (by decide)) (hphase ▸ (by decide))
  refine Safe.handle (onResult (fun _ _ _ => True)
    fun _ state' host' => state' = state ∧ Sound computerId tracked guarded state host') ?_ (fun _ _ _ _ => trivial) ?_
  · refine Safe.bind (kept_perform_prepared (.prepareCandidate transition) rfl h (hphase ▸ rfl) hunmarked) ?_ ?_
    · rintro prepared state host' ⟨rfl,hsound,hstep⟩
      refine Safe.bind kept_assertMatchingSlot ?_ ?_
      · rintro _ state host' ⟨rfl,rfl,hmatches⟩
        obtain ⟨-,hidentity⟩ := hmatches rfl
        have hsame : SameBinding { state.status with
            phase := .trial, candidate := some prepared,
            detail := some "Candidate Gateway is ready for user-directed trial work" } state.status := by
          refine ⟨rfl,rfl,rfl,?_⟩
          rw [candidate_of_transition ht]
          exact congrArg some hidentity
        have hlive : Live host' state.status := live_of_prepared ht (congrArg HostState.prepared hstep)
        refine (kept_trial hsound hunmarked (fun _ => hlive) hsame rfl).mono ?_
        rintro (error | value) state' host' hsettled
        · obtain ⟨rfl,rfl⟩ := hsettled
          exact ⟨rfl,hsound⟩
        · trivial
      · rintro _ state host' ⟨rfl,rfl,-⟩
        exact ⟨rfl,hsound⟩
    · rintro _ state host' ⟨rfl,hsound,-⟩
      exact ⟨rfl,hsound⟩
  · rintro error state host' ⟨rfl,hsound⟩
    exact Safe.bind (kept_cleanUpPreparation hsound hphase) (fun _ _ _ _ => trivial) fun _ _ _ _ => trivial

theorem kept_prepareNew (hphase : state.status.phase = .steady) (hfresh : updateId ∉ host.commits) (candidate : Slot) :
    Kept computerId tracked guarded careful (fun _ _ _ => True)
      (prepareNew computerId schemaText state candidate updateId) state host := by
  refine Safe.bind ((kept_rotatePrevious h).keep h) ?_ fun _ _ _ _ => trivial
  rintro _ _ host ⟨⟨recovery,rfl,rfl⟩,hsound⟩
  refine Safe.bind ((kept_writeStatus _ none hsound (statusSound_preparing hsound hphase hfresh ?_)
    (fun hcommitting => ?_) fun _ => rfl).keep hsound) ?_ fun _ _ _ _ => trivial
  · exact Bool.and_false _
  · cases hcommitting
  · rintro preparing state' host ⟨⟨hpreparing,rfl,rfl⟩,hsound'⟩
    refine safe_bind.mpr (safe_requireTransition (fun transition ht => ?_) fun _ _ => trivial)
    subst hpreparing
    exact kept_prepareCandidate hsound' rfl ht

theorem kept_prepare (input : PrepareInput) {ids : NewIds} (hfresh : ids.updateId ∉ host.commits) :
    Kept computerId tracked guarded careful (fun _ _ _ => True) (prepare computerId schemaText input ids) state
      host := by
  refine safe_bind.mpr ((safe_readCoordinatorState h.valid).mpr ?_)
  dsimp only [onResult]
  cases hcandidate : state.status.candidate with
  | some candidate =>
    dsimp only
    split
    · trivial
    · trivial
  | none =>
    refine safe_bind.mpr (safe_refuseUnless.mpr ?_)
    split
    · next hphase =>
      refine safe_bind.mpr (safe_refuseUnless.mpr ?_)
      split
      · refine safe_bind.mpr (safe_refuseUnless.mpr ?_)
        split
        · exact kept_prepareNew h (of_decide_eq_true hphase) hfresh _
        · trivial
      · trivial
    · trivial

end

theorem isValid_steady (h : status.isValid)
    (hrecovery : ∀ slot,recovery = some slot → slot.isValid ∧ slot.gatewayNodeId ≠ status.active.gatewayNodeId)
    (hdetail : 1 ≤ detail.length ∧ detail.length ≤ maxDetail) : { status with
      phase := .steady, candidate := none, recovery, updateId := none, activeTurns := none,
      detail := some detail : Status }.isValid = true := by
  simp only [Status.isValid,Status.isConsistent,Bool.and_eq_true] at h ⊢
  cases recovery with
  | none => simp [h,hdetail]
  | some slot => simp [h,hdetail,hrecovery slot rfl]

section

variable (h : Sound computerId tracked guarded state host)
include h

theorem kept_returnToSteady_valid (hopen : Open host state.status) (hrecovery : ∀ slot,recovery = some slot →
      slot.isValid ∧ slot.gatewayNodeId ≠ state.status.active.gatewayNodeId)
    (hdetail : 1 ≤ detail.length ∧ detail.length ≤ maxDetail)
    {post : Except Thrown Status → CoordinatorState → HostState → Prop}
    (hpost : ∀ value state',state'.status = value → value.phase = .steady → post (.ok value) state' host) :
    Kept computerId tracked guarded careful post (returnToSteady computerId { state.status with recovery } detail) state
      host := by
  have hsteady := isValid_steady h.isValid hrecovery hdetail
  refine Safe.mono (kept_returnToSteady_written h hopen ⟨rfl,rfl,rfl,rfl⟩) ?_
  rintro (error | value) state' host' hwritten
  · refine absurd ⟨hsteady,?_⟩ hwritten.2.2
    refine check_eq_none_iff.mpr ⟨hsteady,(check_eq_none_iff.mp h.valid).2.1,fun hmarker => ?_,fun _ hscheduled => ?_⟩
    · cases hmarker
    · cases hscheduled
  · obtain ⟨rfl,rfl,rfl⟩ := hwritten
    exact hpost _ _ rfl rfl

theorem kept_restoreRotatedRecovery
    (hopen : Open host state.status) (hdetail : 1 ≤ detail.length ∧ detail.length ≤ maxDetail) :
    Kept computerId tracked guarded careful
      (onResult (fun value state' _ => state'.status = value ∧ value.phase = .steady)
      fun _ state' host' => ¬ careful ∧ state' = state ∧ host' = host)
      (restoreRotatedRecovery computerId state.status state.rotatedRecovery detail) state host := by
  unfold restoreRotatedRecovery
  cases hrotated : state.rotatedRecovery with
  | none =>
    exact kept_returnToSteady_valid h hopen (fun slot hslot => recovery_isValid h.isValid hslot) hdetail
      fun _ _ hstatus hphase => ⟨hstatus,hphase⟩
  | some recovery =>
    refine Safe.bind (kept_perform (.restoreRecovery recovery) rfl h trivial) ?_ ?_
    · rintro _ state host ⟨rfl,rfl,-⟩
      refine kept_returnToSteady_valid h hopen (fun slot hslot => ?_) hdetail
        fun _ _ hstatus hphase => ⟨hstatus,hphase⟩
      obtain rfl := some.inj hslot
      exact h.rotated recovery hrotated
    · rintro error state host ⟨rfl,rfl,hstep⟩
      exact ⟨hstep.1,rfl,rfl⟩

/-- A discard that throws leaves the candidate of a careful host prepared, so the trial goes on. -/
theorem kept_discardCandidate (hcareful : guarded → careful)
    (hphase : state.status.phase = .discarding) (hlive : guarded → Live host state.status) :
    Kept computerId tracked guarded careful (fun _ _ _ => True) (handle (do
      Host.discardCandidate transition
      restoreRotatedRecovery computerId state.status state.rotatedRecovery "Candidate Gateway was discarded")
      (fun error => do
        let _ ← writeStatus computerId
          { state.status with
            phase := .trial
            detail := some (("Candidate discard failed; active Gateway unchanged: " : JsString) ++
              formatError schemaText error) } none
        .throw error)) state host := by
  have hunmarked := h.commitStarted_eq_false (hphase ▸ (by decide)) (hphase ▸ (by decide))
  refine Safe.handle (onResult (fun _ _ _ => True) fun _ state' host' =>
    state' = state ∧ Sound computerId tracked guarded state host' ∧ (guarded → host' = host)) ?_
      (fun _ _ _ _ => trivial) ?_
  · refine Safe.bind (kept_perform_prepared (.discardCandidate transition) rfl h (hphase ▸ rfl) hunmarked) ?_ ?_
    · rintro _ state host' ⟨rfl,hsound,-⟩
      refine (kept_restoreRotatedRecovery hsound (hsound.status.isOpen hunmarked) (by decide)).mono ?_
      rintro (error | value) state' host' hrestored
      · obtain ⟨hnot,rfl,rfl⟩ := hrestored
        exact ⟨rfl,hsound,fun hguarded => absurd (hcareful hguarded) hnot⟩
      · trivial
    · rintro error state host' ⟨rfl,hsound,hstep⟩
      refine ⟨rfl,hsound,fun hguarded => ?_⟩
      rcases hstep with rfl | ⟨hnot,-⟩
      · rfl
      · exact absurd (hcareful hguarded) hnot
  · rintro error state host' ⟨rfl,hsound,hkept⟩
    have hsame : SameBinding { state.status with
        phase := .trial
        detail := some (("Candidate discard failed; active Gateway unchanged: " : JsString) ++
          formatError schemaText error) } state.status := ⟨rfl,rfl,rfl,rfl⟩
    refine Safe.bind (kept_trial hsound hunmarked (fun hguarded => ?_) hsame rfl) (fun _ _ _ _ => trivial)
      fun _ _ _ _ => trivial
    rw [hkept hguarded]
    exact hlive hguarded

theorem kept_discard (hcareful : guarded → careful) (updateId : JsString) :
    Kept computerId tracked guarded careful (fun _ _ _ => True) (discard computerId schemaText updateId) state host := by
  refine safe_bind.mpr ((safe_readCoordinatorState h.valid).mpr (safe_bind.mpr (safe_assertUpdate
    (fun _ hphase => ?_) fun _ => trivial)))
  refine safe_bind.mpr (safe_requireTransition (fun transition ht => ?_) fun _ _ => trivial)
  have hunmarked := h.commitStarted_eq_false (hphase ▸ (by decide)) (hphase ▸ (by decide))
  have hsame : SameBinding { state.status with
      phase := .discarding, detail := some "Discarding only the candidate Gateway and its trial-owned work" }
      state.status := ⟨rfl,rfl,rfl,rfl⟩
  have hlive : guarded → Live host state.status := fun hguarded => h.status.live hguarded (.inl (hphase ▸ rfl))
  refine Safe.bind ((kept_sameBinding h hunmarked hsame (fun hc => by cases hc) fun _ hcandidate => by
    cases hcandidate).keep h) ?_ fun _ _ _ _ => trivial
  rintro discarding state' host ⟨⟨hdiscarding,rfl,rfl⟩,hsound⟩
  subst hdiscarding
  exact kept_discardCandidate hsound hcareful rfl fun hguarded => (hlive hguarded).sameBinding hsame

end

def Started : Except Thrown Unit → CoordinatorState → HostState → Prop
  | .ok _, state, _ => state.status.phase ≠ .committing
  | .error _, _, _ => True

theorem started_pure (h : state.status.phase ≠ .committing) :
    Kept computerId tracked guarded careful Started (Pure.pure ()) state host := h

variable {state' : CoordinatorState}

theorem Ended.started {result : Except Thrown Unit} (h : Ended state host result state' host') :
    Started result state' host' := by
  cases result with
  | ok value => exact h
  | error error => trivial

theorem bare_of_steady (h : status.isValid) (hphase : status.phase = .steady) :
    status.candidate = none ∧ status.updateId = none := by
  simp [Status.isValid,Status.isConsistent,hphase] at h
  exact h.2.1.2

variable {active : Slot}

/-- The installed release is the recorded one already, where the host has committed what is installed. -/
theorem kept_reconcileSteadyActive (h : Sound computerId tracked guarded state' host)
    (hphase : state'.status.phase = .steady) (hrotated : state'.rotatedRecovery = none)
    (hstatus : state'.status = state.status) (hactive : tracked → active.identity = host.active) :
    Kept computerId tracked guarded careful Started (reconcileSteadyActive computerId active state) state' host := by
  have hunmarked := h.commitStarted_eq_false (hphase ▸ (by decide)) (hphase ▸ (by decide))
  obtain ⟨hcandidate,hupdateId⟩ := bare_of_steady h.isValid hphase
  have hnot : state'.status.phase ≠ .committing := hphase ▸ (by decide)
  refine safe_bind.mpr (safe_refuseUnless.mpr ?_)
  by_cases hvalid : active.isValid
  · rw [if_pos hvalid]
    dsimp only [onResult]
    split
    · refine safe_bind.mpr (safe_changeState h.valid (fun hvalid => ?_) fun _ _ => trivial)
      rw [if_neg (not_not.mpr hphase)] at hvalid ⊢
      refine ⟨⟨hvalid,fun hcommitting => absurd hcommitting hnot,fun recovery hrecovery => ?_,?_⟩,hnot⟩
      · rw [hrotated] at hrecovery
        cases hrecovery
      · refine statusSound_steady hphase hupdateId hcandidate fun htracked => ⟨hactive htracked,?_⟩
        obtain ⟨hidentity,hgeneration⟩ := h.status.follows.before htracked (h.status.isOpen hunmarked)
        rw [hstatus] at hidentity
        rw [if_neg (not_not.mpr (hidentity.trans (hactive htracked).symm))]
        exact hgeneration
    · exact hnot
  · rw [if_neg hvalid]
    trivial

theorem kept_initializeSteady (h : Sound computerId tracked guarded state host) (hphase : state.status.phase = .steady)
    (hactive : tracked → active.identity = host.active) :
    Kept computerId tracked guarded careful Started (initializeSteady computerId active state) state host := by
  unfold initializeSteady
  cases hrotated : state.rotatedRecovery with
  | none => exact kept_reconcileSteadyActive h hphase hrotated rfl hactive
  | some recovery =>
    refine Safe.bind (kept_perform (.restoreRecovery recovery) rfl h trivial) ?_ fun _ _ _ _ => trivial
    rintro _ state host ⟨rfl,rfl,-⟩
    refine Safe.bind ((kept_rotate h fun slot hslot => by cases hslot).keep h) ?_ fun _ _ _ _ => trivial
    rintro _ _ host ⟨⟨rfl,rfl,-⟩,hsound⟩
    exact kept_reconcileSteadyActive hsound hphase rfl rfl hactive

/-- What an interrupted preparation or discard leaves to its handler. -/
def Interrupted (computerId : JsString) (tracked guarded : Prop) (state : CoordinatorState) {α : Type} :
    Except Thrown α → CoordinatorState → HostState → Prop
  | .ok _, state', _ => state'.status.phase ≠ .committing
  | .error _, state', host' => state' = state ∧ Sound computerId tracked guarded state host'

section

variable (h : Sound computerId tracked guarded state host)
include h

theorem kept_interrupted {phases : List Phase} {program : Program Status}
    (hprogram : Kept computerId tracked guarded careful (Settled phases state host) program state host)
    (hphases : .committing ∉ phases) :
    Kept computerId tracked guarded careful (Interrupted computerId tracked guarded state) (do let _ ← program) state
      host := by
  refine (kept_ended hprogram hphases).mono ?_
  rintro (error | value) state' host' hended
  · obtain ⟨rfl,rfl⟩ := hended
    exact ⟨rfl,h⟩
  · exact hended

theorem kept_initializeInterrupted (hunmarked : state.commitStarted = false) {program : Program Unit}
    (hprogram : Kept computerId tracked guarded careful (Interrupted computerId tracked guarded state) program state host)
    (text : JsString) :
    Kept computerId tracked guarded careful Started (program.handle fun error => do
      let _ ← markRepairRequired computerId state.status (text ++ formatError schemaText error) false) state host := by
  refine Safe.handle _ hprogram (fun _ _ _ hended => hended) ?_
  rintro error state host ⟨rfl,hsound⟩
  refine (kept_ended (kept_markRepairRequired hsound (fun _ => hsound.status.isOpen hunmarked)
    (fun _ hmarked => ?_) (.refl _)) (by decide)).mono fun _ _ _ hended => hended.started
  cases hmarked

theorem kept_initializePreparing
    (hphase : state.status.phase = .preparing) (ht : transitionFromStatus state.status = some transition) :
    Kept computerId tracked guarded careful Started (initializePreparing computerId schemaText state transition) state
      host := by
  have hunmarked := h.commitStarted_eq_false (hphase ▸ (by decide)) (hphase ▸ (by decide))
  refine kept_initializeInterrupted h hunmarked ?_ _
  refine Safe.bind (kept_perform_prepared (.recoverPreparation transition) rfl h (hphase ▸ rfl) hunmarked) ?_ ?_
  · rintro result state host' ⟨rfl,hsound,hstep⟩
    cases result with
    | none =>
      have hreturn : Kept computerId tracked guarded careful (Interrupted computerId tracked guarded state) (do
          let _ ← returnToSteady computerId
            { state.status with recovery := state.rotatedRecovery.or state.status.recovery }
            "Interrupted candidate preparation was removed") state host' := by
        have hsame : SameBinding { state.status with recovery := state.rotatedRecovery.or state.status.recovery }
            state.status := ⟨rfl,rfl,rfl,rfl⟩
        exact kept_interrupted hsound (kept_returnToSteady hsound (hsound.status.isOpen hunmarked) hsame) (by decide)
      dsimp only
      cases hrotated : state.rotatedRecovery with
      | none =>
        rw [hrotated] at hreturn
        exact hreturn
      | some recovery =>
        rw [hrotated] at hreturn
        refine Safe.bind (kept_perform (.restoreRecovery recovery) rfl hsound trivial) ?_ ?_
        · rintro _ state host ⟨rfl,rfl,-⟩
          exact hreturn
        · rintro error state host ⟨rfl,rfl,-⟩
          exact ⟨rfl,hsound⟩
    | some candidate =>
      refine Safe.bind kept_assertMatchingSlot ?_ ?_
      · rintro _ state host' ⟨rfl,rfl,hmatches⟩
        obtain ⟨-,hidentity⟩ := hmatches rfl
        have hsame : SameBinding { state.status with
            phase := .trial, candidate := some candidate,
            detail := some "Candidate recovered and is ready for user-directed trial work" } state.status := by
          refine ⟨rfl,rfl,rfl,?_⟩
          rw [candidate_of_transition ht]
          exact congrArg some hidentity
        have hlive : Live host' state.status := live_of_prepared ht (congrArg HostState.prepared hstep)
        exact kept_interrupted hsound (kept_trial hsound hunmarked (fun _ => hlive) hsame rfl) (by decide)
      · rintro error state host' ⟨rfl,rfl,-⟩
        exact ⟨rfl,hsound⟩
  · rintro error state host' ⟨rfl,hsound,-⟩
    exact ⟨rfl,hsound⟩

theorem kept_initializeDiscarding (hphase : state.status.phase = .discarding) :
    Kept computerId tracked guarded careful Started (initializeDiscarding computerId schemaText state transition) state
      host := by
  have hunmarked := h.commitStarted_eq_false (hphase ▸ (by decide)) (hphase ▸ (by decide))
  refine kept_initializeInterrupted h hunmarked ?_ _
  refine Safe.bind (kept_perform_prepared (.discardCandidate transition) rfl h (hphase ▸ rfl) hunmarked) ?_ ?_
  · rintro _ state host' ⟨rfl,hsound,-⟩
    refine Safe.bind (kept_restoreRotatedRecovery hsound (hsound.status.isOpen hunmarked) (by decide)) ?_ ?_
    · rintro value state' host ⟨rfl,hsteady⟩ hcommitting
      rw [hsteady] at hcommitting
      cases hcommitting
    · rintro error state' host ⟨-,rfl,rfl⟩
      exact ⟨rfl,hsound⟩
  · rintro error state host' ⟨rfl,hsound,-⟩
    exact ⟨rfl,hsound⟩

theorem open_of_unbound (ht : transitionFromStatus state.status = none) : Open host state.status := by
  intro updateId hupdateId
  have hbound := h.status.follows.bound
  rw [hupdateId,isSome_some] at hbound
  obtain ⟨candidate,hcandidate⟩ := isSome_iff_exists.mp hbound.symm
  rw [transitionFromStatus,hupdateId,hcandidate] at ht
  cases ht

theorem kept_initializeUnbound (ht : transitionFromStatus state.status = none) :
    Kept computerId tracked guarded careful Started (initializeUnbound computerId state) state host := by
  have hmark (text : JsString) : Kept computerId tracked guarded careful Started
      (do let _ ← markRepairRequired computerId state.status text false) state host := by
    refine (kept_ended (kept_markRepairRequired h (fun _ => open_of_unbound h ht) (fun _ hmarked => ?_) (.refl _))
      (by decide)).mono fun _ _ _ hended => hended.started
    cases hmarked
  unfold initializeUnbound
  split
  · next hphase => exact started_pure (hphase ▸ (by decide))
  · exact hmark _
  · exact hmark _
  · exact hmark _

theorem kept_initializeCoordinator (hactive : tracked → active.identity = host.active)
    (hcareful : guarded → state.status.phase = .repairRequired → state.commitStarted = false → careful) :
    Kept computerId tracked guarded careful Started (initializeCoordinator computerId schemaText active) state host := by
  refine safe_bind.mpr ((safe_readCoordinatorState h.valid).mpr ?_)
  dsimp only [onResult]
  split
  · next hphase => exact kept_initializeSteady h hphase hactive
  · next hphase => exact started_pure (hphase ▸ (by decide))
  · next hsteady htrial =>
    split
    · next hscheduled => exact started_pure (hscheduled.1 ▸ (by decide))
    · cases ht : transitionFromStatus state.status with
      | none => exact kept_initializeUnbound h ht
      | some transition =>
        dsimp only
        split
        · next hphase => exact kept_initializePreparing h hphase ht
        · next hphase => exact kept_initializeDiscarding h hphase
        · next hpreparing hdiscarding =>
          split
          · next hmarked =>
            have hmarked : state.commitStarted := hmarked.elim id h.marked
            exact (kept_recoverCommit ⟨h,hmarked,ht⟩).mono fun _ _ _ hended => hended.started
          · next hunmarked =>
            obtain ⟨hunmarked,hcommitting⟩ := not_or.mp hunmarked
            have hunmarked : state.commitStarted = false := Bool.of_not_eq_true hunmarked
            have hlive : guarded → careful ∨ Live host state.status := by
              intro hguarded
              cases hphase : state.status.phase with
              | draining | transferring => exact .inr (h.status.live hguarded (.inl (hphase ▸ rfl)))
              | repairRequired => exact .inl (hcareful hguarded hphase hunmarked)
              | steady => exact absurd hphase hsteady
              | trial => exact absurd hphase htrial
              | preparing => exact absurd hphase hpreparing
              | discarding => exact absurd hphase hdiscarding
              | committing => exact absurd hphase hcommitting
            exact (kept_ended (kept_rollbackToTrial h ht (h.status.isOpen hunmarked) hlive) (by decide)).mono
              fun _ _ _ hended => hended.started

end

end Malink.Deployment
