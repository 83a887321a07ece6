import Malink.DeploymentInvariants

/-!
# A promotion keeps the file and the host together

The ends of a transaction, the recovery of a commit and the promotion are safe wherever the invariant holds, and their
results say which phase the file is left in.
-/

namespace Malink.Deployment

open DurableProgram

abbrev Kept (computerId : JsString) (tracked guarded careful : Prop) {α : Type}
    (post : Except Thrown α → CoordinatorState → HostState → Prop) (program : Program α) (state : CoordinatorState)
    (host : HostState) : Prop :=
  Safe (hostStep careful) (Sound computerId tracked guarded) BeforeCommit post program state host

def Written (computerId : JsString) (state : CoordinatorState) (host : HostState) (status : Status)
    (marker : Option Bool) :
    Except Thrown Status → CoordinatorState → HostState → Prop
  | .ok value, state', host' => value = status ∧ state' = state.withStatus status marker ∧ host' = host
  | .error _, state', host' =>
    state' = state ∧ host' = host ∧ ¬ (status.isValid ∧ (state.withStatus status marker).check computerId = none)

def Settled (phases : List Phase) (state : CoordinatorState) (host : HostState) :
    Except Thrown Status → CoordinatorState → HostState → Prop
  | .ok value, state', _ => state'.status = value ∧ value.phase ∈ phases
  | .error _, state', host' => state' = state ∧ host' = host

variable {tracked guarded careful : Prop} {host host' : HostState} {status : Status} {transition : Transition}
  {computerId : JsString} {state : CoordinatorState} {marker : Option Bool} {detail : JsString} {marked : Bool}
  {schemaText : Refused → JsString} {phases : List Phase}
  {result : Except Thrown Status} {state' : CoordinatorState}

theorem Written.settled (hphase : status.phase ∈ phases)
    (h : Written computerId state host status marker result state' host') :
    Settled phases state host result state' host' := by
  cases result with
  | ok value =>
    obtain ⟨rfl,rfl,-⟩ := h
    exact ⟨rfl,hphase⟩
  | error thrown => exact ⟨h.1,h.2.1⟩

theorem Settled.mono {phases' : List Phase}
    (h : Settled phases state host result state' host') (hphases : ∀ phase ∈ phases,phase ∈ phases') :
    Settled phases' state host result state' host' := by
  cases result with
  | ok value => exact ⟨h.1,hphases _ h.2⟩
  | error thrown => exact h

theorem kept_writeStatus (status : Status) (marker : Option Bool) (h : Sound computerId tracked guarded state host)
    (hstatus : StatusSound tracked guarded host (state.withStatus status marker).commitStarted status)
    (hcommitting : status.phase = .committing → (state.withStatus status marker).commitStarted)
    (hactive : status.phase ≠ .steady → status.active.gatewayNodeId = state.status.active.gatewayNodeId) :
    Kept computerId tracked guarded careful (Written computerId state host status marker)
      (writeStatus computerId status marker)
      state host :=
  safe_writeStatus h.valid (fun hvalid => ⟨sound_withStatus h hvalid hstatus hcommitting hactive,rfl,rfl,rfl⟩)
    fun _ hrefused => ⟨rfl,rfl,hrefused⟩

theorem SameBinding.gatewayNodeId {status other : Status} (h : SameBinding status other) :
    status.active.gatewayNodeId = other.active.gatewayNodeId := congrArg Identity.gatewayNodeId h.active

theorem Sound.commitStarted_eq_false (h : Sound computerId tracked guarded state host)
    (hcommitting : state.status.phase ≠ .committing) (hrepair : state.status.phase ≠ .repairRequired) :
    state.commitStarted = false := by
  obtain ⟨-,-,hmarker,-⟩ := check_eq_none_iff.mp h.valid
  cases hcommit : state.commitStarted with
  | false => rfl
  | true => exact absurd (hmarker hcommit) (not_or.mpr ⟨hcommitting,hrepair⟩)

theorem requireTransition_bind {α : Type} {next : Transition → Program α}
    (ht : transitionFromStatus status = some transition) : requireTransition status >>= next = next transition := by
  rw [requireTransition,ht]
  rfl

/-- The requests that neither commit nor prepare nor discard anything. -/
def Request.keepsHost : Request → Bool
  | drainDeployments _ _ => true
  | transferState _ => true
  | retainedRecovery _ => true
  | rotateRecovery _ => true
  | restoreRecovery _ => true
  | rollbackPreCommit _ => true
  | recoverCommit _ => true
  | _ => false

theorem hostStep_keepsHost {request : Request} {reply : Except Thrown request.Reply} (hkeeps : request.keepsHost)
    (hstep : hostStep careful host request reply host') : host' = host := by
  cases request with
  | prepareCandidate | discardCandidate | commitCandidate | recoverPreparation => cases hkeeps
  | drainDeployments | transferState | retainedRecovery | rotateRecovery => cases reply <;> exact hstep
  | restoreRecovery recovery =>
    cases reply with
    | ok value => exact hstep
    | error thrown => exact hstep.2
  | rollbackPreCommit transition =>
    cases reply with
    | ok restored => exact hstep.1
    | error thrown => exact hstep
  | recoverCommit transition =>
    rcases reply with thrown | result
    · exact hstep
    · cases result with
      | committed | notCommitted => exact hstep.1
      | unknown => exact hstep

theorem kept_perform (request : Request) (hkeeps : request.keepsHost)
    (h : Sound computerId tracked guarded state host) (hallowed : BeforeCommit request state host) :
    Kept computerId tracked guarded careful
      (fun reply state' host' => state' = state ∧ host' = host ∧ hostStep careful host request reply host)
      (perform request) state host := by
  refine safe_perform.mpr ⟨hallowed,fun reply host' hstep => ?_⟩
  obtain rfl := hostStep_keepsHost hkeeps hstep
  exact ⟨h,rfl,rfl,hstep⟩

theorem kept_assertMatchingSlot {expected actual : Slot} {label : JsString} :
    Kept computerId tracked guarded careful
      (fun result state' host' => state' = state ∧ host' = host ∧
        (result = .ok () → actual.isValid ∧ actual.identity = expected.identity))
      (assertMatchingSlot expected actual label) state host :=
  safe_assertMatchingSlot (fun hvalid hidentity => ⟨rfl,rfl,fun _ => ⟨hvalid,hidentity⟩⟩)
    fun _ => ⟨rfl,rfl,fun h => by cases h⟩

section

variable (h : Sound computerId tracked guarded state host)
include h

theorem kept_returnToSteady_written (hopen : Open host state.status) (hsame : SameBinding status state.status) :
    Kept computerId tracked guarded careful (Written computerId state host { status with
        phase := .steady, candidate := none, updateId := none, activeTurns := none, detail := some detail } (some false))
      (returnToSteady computerId status detail) state host := by
  have hfollows := fun htracked => h.status.follows.before htracked hopen
  have hstatus : StatusSound tracked guarded host false { status with
      phase := .steady, candidate := none, updateId := none, activeTurns := none, detail := some detail } := by
    refine statusSound_steady rfl rfl rfl fun htracked => ?_
    rw [← (hfollows htracked).1,← (hfollows htracked).2]
    exact ⟨hsame.active,hsame.generation⟩
  refine kept_writeStatus _ (some false) h hstatus ?_ ?_
  · exact fun hphase => by cases hphase
  · exact fun hphase => absurd rfl hphase

theorem kept_returnToSteady (hopen : Open host state.status) (hsame : SameBinding status state.status) :
    Kept computerId tracked guarded careful (Settled [.steady] state host)
      (returnToSteady computerId status detail) state host :=
  (kept_returnToSteady_written h hopen hsame).mono fun _ _ _ hwritten => hwritten.settled List.mem_cons_self

theorem kept_markRepairRequired
    (hopen : marked = false → Open host state.status) (hlive : guarded → marked → Live host state.status)
    (hsame : SameBinding status state.status) :
    Kept computerId tracked guarded careful (Settled [.repairRequired] state host)
      (markRepairRequired computerId status detail marked) state host := by
  have hsame' : SameBinding { status with phase := .repairRequired, detail := some detail } state.status :=
    ⟨hsame.updateId,hsame.generation,hsame.active,hsame.candidate⟩
  have hstatus : StatusSound tracked guarded host marked
      { status with phase := .repairRequired, detail := some detail } := by
    refine ⟨h.status.follows.sameBinding hsame',fun hmarked => (hopen hmarked).sameBinding hsame',?_⟩
    rintro hguarded (hcandidate | hmarked)
    · cases hcandidate
    · exact (hlive hguarded hmarked).sameBinding hsame'
  refine (kept_writeStatus _ (some marked) h hstatus ?_ ?_).mono fun _ _ _ hwritten =>
    hwritten.settled List.mem_cons_self
  · exact fun hphase => by cases hphase
  · exact fun _ => hsame'.gatewayNodeId

/-- A rollback keeps the binding, and the candidate is still prepared: the file says so, or the host would have
refused. -/
theorem kept_rollbackToTrial (ht : transitionFromStatus state.status = some transition) (hopen : Open host state.status)
    (hlive : guarded → careful ∨ Live host state.status) :
    Kept computerId tracked guarded careful (Settled [.trial,.repairRequired] state host)
      (rollbackToTrial computerId schemaText state.status transition detail) state host := by
  have hnot : transition.updateId ∉ host.commits := hopen _ (updateId_of_transition ht)
  have hactive := active_of_transition ht
  refine Safe.handle (Settled [.trial,.repairRequired] state host) ?_ (fun _ _ _ hsettled => hsettled) ?_
  · refine Safe.bind (kept_perform (.rollbackPreCommit transition) rfl h hnot) ?_ ?_
    · rintro restored state host ⟨rfl,rfl,hstep⟩
      refine Safe.bind kept_assertMatchingSlot ?_ ?_
      · rintro _ state host ⟨rfl,rfl,hmatches⟩
        obtain ⟨-,hidentity⟩ := hmatches rfl
        cases hcandidate : restored.candidate.or state.status.candidate with
        | none => exact ⟨rfl,rfl⟩
        | some candidate =>
          refine Safe.bind kept_assertMatchingSlot ?_ ?_
          · rintro _ state host ⟨rfl,rfl,hprepared⟩
            obtain ⟨-,hcandidateIdentity⟩ := hprepared rfl
            have hsame : SameBinding { state.status with
                phase := .trial, active := restored.active.getD state.status.active, candidate := some candidate,
                activeTurns := none, detail := some detail } state.status :=
              ⟨rfl,rfl,hidentity.trans (congrArg Slot.identity hactive).symm,by
                rw [candidate_of_transition ht]
                exact congrArg some hcandidateIdentity⟩
            have hprepared : guarded → Live host state.status := by
              intro hguarded
              rcases hlive hguarded with hcareful | hlive
              · intro transition' ht' _
                rw [ht] at ht'
                obtain rfl := Option.some.inj ht'
                exact hstep.2 hcareful
              · exact hlive
            refine (kept_writeStatus _ (some false) h ⟨h.status.follows.sameBinding hsame,
              fun _ => hopen.sameBinding hsame,fun hguarded _ => (hprepared hguarded).sameBinding hsame⟩ ?_ ?_).mono ?_
            · exact fun hphase => by cases hphase
            · exact fun _ => hsame.gatewayNodeId
            · exact fun _ _ _ hwritten => hwritten.settled List.mem_cons_self
          · rintro error state host ⟨rfl,rfl,-⟩
            exact ⟨rfl,rfl⟩
      · rintro error state host ⟨rfl,rfl,-⟩
        exact ⟨rfl,rfl⟩
    · rintro error state host ⟨rfl,rfl,-⟩
      exact ⟨rfl,rfl⟩
  · rintro error state host ⟨rfl,rfl⟩
    refine (kept_markRepairRequired h (fun _ => hopen) (fun _ hmarked => by cases hmarked) (.refl _)).mono ?_
    exact fun _ _ _ hsettled => hsettled.mono fun phase hphase => List.mem_cons_of_mem _ hphase

/-- The committed candidate becomes the active release, which is the one that the host has committed. -/
theorem kept_finishCommit
    (ht : transitionFromStatus state.status = some transition) (hmem : transition.updateId ∈ host.commits) :
    Kept computerId tracked guarded careful (Settled [.steady] state host) (finishCommit computerId state.status) state
      host := by
  have hcandidate := candidate_of_transition ht
  have hwrite (recovery : Option RecoverySlot) : Kept computerId tracked guarded careful (Settled [.steady] state host)
      (writeStatus computerId
        { computerId := state.status.computerId, generation := state.status.generation + 1, phase := .steady,
          active := transition.candidate, candidate := none, recovery, updateId := none, activeTurns := none,
          detail := some (recoveryDetail recovery) } (some false)) state host := by
    refine (kept_writeStatus _ (some false) h (statusSound_steady rfl rfl rfl fun htracked =>
      h.status.follows.after htracked transition ht hmem) ?_ ?_).mono ?_
    · exact fun hphase => by cases hphase
    · exact fun hphase => absurd rfl hphase
    · exact fun _ _ _ hwritten => hwritten.settled List.mem_cons_self
  simp only [finishCommit,hcandidate,requireTransition_bind ht]
  refine Safe.bind (kept_perform (.retainedRecovery transition) rfl h trivial) ?_ ?_
  · rintro recovery state host ⟨rfl,rfl,-⟩
    cases recovery with
    | none => exact hwrite none
    | some slot =>
      refine safe_bind.mpr (safe_refuseUnless.mpr ?_)
      split
      · refine safe_bind.mpr (safe_refuseUnless.mpr ?_)
        split
        · exact hwrite (some slot)
        · exact ⟨rfl,rfl⟩
      · exact ⟨rfl,rfl⟩
  · rintro error state host ⟨rfl,rfl,-⟩
    exact ⟨rfl,rfl⟩

end

/-- The file while the ownership commit may have happened. -/
structure Committing (computerId : JsString) (tracked guarded : Prop) (transition : Transition)
    (state : CoordinatorState) (host : HostState) : Prop where
  sound : Sound computerId tracked guarded state host
  marked : state.commitStarted
  binding : transitionFromStatus state.status = some transition

/-- The file is not left at a commit, or nothing has changed. -/
def Ended (state : CoordinatorState) (host : HostState) : Except Thrown Unit → CoordinatorState → HostState → Prop
  | .ok _, state', _ => state'.status.phase ≠ .committing
  | .error _, state', host' => state' = state ∧ host' = host

theorem kept_ended {program : Program Status}
    (h : Kept computerId tracked guarded careful (Settled phases state host) program state host)
    (hphases : .committing ∉ phases) :
    Kept computerId tracked guarded careful (Ended state host) (do let _ ← program) state host := by
  refine Safe.bind h ?_ ?_
  · rintro value state' host' ⟨rfl,hphase⟩
    intro hcommitting
    exact hphases (hcommitting ▸ hphase)
  · exact fun _ _ _ hsettled => hsettled

/-- What the host reports decides between finishing the commit, rolling it back and the fence. -/
theorem kept_recoverCommit_cases (h : Committing computerId tracked guarded transition state host)
    {notCommitted unknown : JsString} :
    Kept computerId tracked guarded careful (Ended state host) (do
      match ← Host.recoverCommit transition with
      | .committed =>
        let _ ← finishCommit computerId state.status
      | .notCommitted =>
        let _ ← rollbackToTrial computerId schemaText state.status transition notCommitted
      | .unknown =>
        let _ ← markRepairRequired computerId state.status unknown true) state host := by
  have hlive : guarded → Live host state.status := fun hguarded => h.sound.status.live hguarded (.inr h.marked)
  refine Safe.bind (kept_perform (.recoverCommit transition) rfl h.sound trivial) ?_ ?_
  · rintro result state host ⟨rfl,rfl,hstep⟩
    cases result with
    | committed => exact kept_ended (kept_finishCommit h.sound h.binding hstep.2) (by decide)
    | notCommitted =>
      have hopen : Open host state.status := by
        intro updateId hupdateId
        rw [updateId_of_transition h.binding] at hupdateId
        exact Option.some.inj hupdateId ▸ hstep.2
      exact kept_ended (kept_rollbackToTrial h.sound h.binding hopen fun hguarded => .inr (hlive hguarded)) (by decide)
    | unknown =>
      refine kept_ended (kept_markRepairRequired h.sound (fun hmarked => ?_) (fun hguarded _ => hlive hguarded)
        (.refl _)) (by decide)
      cases hmarked
  · rintro error state host ⟨rfl,rfl,-⟩
    exact ⟨rfl,rfl⟩

theorem kept_recoverCommit (h : Committing computerId tracked guarded transition state host) :
    Kept computerId tracked guarded careful (Ended state host)
      (recoverCommit computerId schemaText state.status transition) state host := by
  refine Safe.handle _ (kept_recoverCommit_cases h) (fun _ _ _ hended => hended) ?_
  rintro error state host ⟨rfl,rfl⟩
  refine kept_ended (kept_markRepairRequired h.sound (fun hmarked => ?_) (fun hguarded _ => ?_) (.refl _)) (by decide)
  · cases hmarked
  · exact h.sound.status.live hguarded (.inr h.marked)

/-- The file while a promotion has not reached the commit. -/
structure Promoting (computerId : JsString) (tracked guarded : Prop) (transition : Transition)
    (state : CoordinatorState) (host : HostState) : Prop where
  sound : Sound computerId tracked guarded state host
  unmarked : state.commitStarted = false
  candidate : state.status.phase.hasCandidate
  binding : transitionFromStatus state.status = some transition

theorem Promoting.opens (h : Promoting computerId tracked guarded transition state host) : Open host state.status :=
  h.sound.status.isOpen h.unmarked

theorem Promoting.live (h : Promoting computerId tracked guarded transition state host) :
    guarded → Live host state.status := fun hguarded => h.sound.status.live hguarded (.inl h.candidate)

/-- What a promotion leaves to its handler. -/
def Attempted : Except Thrown Status → CoordinatorState → HostState → Prop
  | .ok value, state, _ => state.status = value ∧ value.phase = .steady
  | .error _, state, _ => state.status.phase.hasCandidate = true ∨ state.commitStarted

theorem Promoting.attempted (h : Promoting computerId tracked guarded transition state host) (error : Thrown) :
    Attempted (.error error) state host := .inl h.candidate

theorem SameBinding.exists_binding {status other : Status} (h : SameBinding status other)
    (ht : transitionFromStatus other = some transition) :
    ∃ transition', transitionFromStatus status = some transition' ∧ transition'.updateId = transition.updateId := by
  obtain ⟨transition',ht',hupdateId,-⟩ :=
    (⟨h.updateId.symm,h.generation.symm,h.active.symm,h.candidate.symm⟩ : SameBinding other status).exists_transition ht
  exact ⟨transition',ht',hupdateId⟩

/-- A write about the same update, with a phase that promises no more than the file did. -/
theorem kept_sameBinding (h : Sound computerId tracked guarded state host) (hunmarked : state.commitStarted = false)
    (hsame : SameBinding status state.status) (hphase : status.phase ≠ .committing)
    (hlive : guarded → status.phase.hasCandidate → Live host state.status) :
    Kept computerId tracked guarded careful (Written computerId state host status none)
      (writeStatus computerId status none) state host := by
  have hstatus : StatusSound tracked guarded host (state.withStatus status none).commitStarted status := by
    refine ⟨h.status.follows.sameBinding hsame,fun _ => (h.status.isOpen hunmarked).sameBinding hsame,?_⟩
    rintro hguarded (hcandidate | hmarked)
    · exact (hlive hguarded hcandidate).sameBinding hsame
    · obtain ⟨hmarked,-⟩ := Bool.and_eq_true_iff.mp hmarked
      rw [hunmarked] at hmarked
      cases hmarked
  exact kept_writeStatus status none h hstatus (fun hcommitting => absurd hcommitting hphase) fun _ => hsame.gatewayNodeId

theorem kept_promoting (h : Promoting computerId tracked guarded transition state host)
    (hsame : SameBinding status state.status) (hphase : status.phase.hasCandidate) :
    Kept computerId tracked guarded careful (onResult
      (fun value state' host' => state'.status = value ∧ value = status ∧
        ∃ transition',Promoting computerId tracked guarded transition' state' host')
      (fun _ state' host' => state' = state ∧ host' = host))
      (writeStatus computerId status none) state host := by
  have hcommitting : status.phase ≠ .committing := by
    intro hcommitting
    rw [hcommitting] at hphase
    cases hphase
  have hrepair : status.phase ≠ .repairRequired := by
    intro hrepair
    rw [hrepair] at hphase
    cases hphase
  refine ((kept_sameBinding h.sound h.unmarked hsame hcommitting fun hguarded _ => h.live hguarded).keep h.sound).mono ?_
  rintro (error | value) state' host' ⟨hwritten,hsound⟩
  · exact ⟨hwritten.1,hwritten.2.1⟩
  · obtain ⟨rfl,rfl,rfl⟩ := hwritten
    obtain ⟨transition',ht',-⟩ := hsame.exists_binding h.binding
    exact ⟨rfl,rfl,transition',hsound,hsound.commitStarted_eq_false hcommitting hrepair,hphase,ht'⟩

theorem kept_committing (h : Promoting computerId tracked guarded transition state host)
    (hsame : SameBinding status state.status) (hphase : status.phase = .committing) :
    Kept computerId tracked guarded careful (onResult
      (fun value state' host' => state'.status = value ∧ value = status ∧ ∃ transition',
        Committing computerId tracked guarded transition' state' host' ∧ transition'.updateId ∉ host'.commits)
      (fun _ state' host' => state' = state ∧ host' = host))
      (writeStatus computerId status (some true)) state host := by
  have hstatus : StatusSound tracked guarded host (state.withStatus status (some true)).commitStarted status :=
    ⟨h.sound.status.follows.sameBinding hsame,fun _ => h.opens.sameBinding hsame,
      fun hguarded _ => (h.live hguarded).sameBinding hsame⟩
  refine ((kept_writeStatus _ (some true) h.sound hstatus (fun _ => rfl) fun _ => hsame.gatewayNodeId).keep
    h.sound).mono ?_
  rintro (error | value) state' host' ⟨hwritten,hsound⟩
  · exact ⟨hwritten.1,hwritten.2.1⟩
  · obtain ⟨rfl,rfl,rfl⟩ := hwritten
    obtain ⟨transition',ht',hupdateId⟩ := hsame.exists_binding h.binding
    refine ⟨rfl,rfl,transition',⟨hsound,rfl,ht'⟩,?_⟩
    rw [hupdateId]
    exact h.opens _ (updateId_of_transition h.binding)

theorem kept_commitCandidate (h : Committing computerId tracked guarded transition state host)
    (hnot : transition.updateId ∉ host.commits) :
    Kept computerId tracked guarded careful Attempted
      (do Host.commitCandidate transition; finishCommit computerId state.status) state host := by
  have hsound := h.sound.commit h.marked h.binding hnot
  refine safe_bind.mpr (safe_perform.mpr ⟨hnot,fun reply host' hstep => ?_⟩)
  cases reply with
  | ok value =>
    obtain rfl := hstep
    refine ⟨hsound,(kept_finishCommit hsound h.binding List.mem_cons_self).mono ?_⟩
    rintro (error | value) state' host' hsettled
    · obtain ⟨rfl,-⟩ := hsettled
      exact .inr h.marked
    · exact ⟨hsettled.1,List.mem_singleton.mp hsettled.2⟩
  | error error =>
    rcases hstep with rfl | rfl
    · exact ⟨h.sound,.inr h.marked⟩
    · exact ⟨hsound,.inr h.marked⟩

theorem kept_transferState (h : Promoting computerId tracked guarded transition state host) :
    Kept computerId tracked guarded careful Attempted (do
      let transition ← requireTransition state.status
      let transferred ← Host.transferState transition
      assertPreparedCandidate transition transferred
      let status ← writeStatus computerId
        { state.status with
          phase := .committing
          candidate := some transferred
          detail := some "Candidate accepted the complete handoff; committing all routes" } (some true)
      let transition ← requireTransition status
      Host.commitCandidate transition
      finishCommit computerId status) state host := by
  rw [requireTransition_bind h.binding]
  refine Safe.bind (kept_perform (.transferState transition) rfl h.sound trivial) ?_ ?_
  · rintro transferred state host ⟨rfl,rfl,-⟩
    refine Safe.bind kept_assertMatchingSlot ?_ ?_
    · rintro _ state host ⟨rfl,rfl,hprepared⟩
      obtain ⟨-,hidentity⟩ := hprepared rfl
      refine Safe.bind (kept_committing h ⟨rfl,rfl,rfl,?_⟩ rfl) ?_ ?_
      · rw [candidate_of_transition h.binding]
        exact congrArg some hidentity
      · rintro value state' host' ⟨rfl,-,transition',hcommitting,hnot⟩
        rw [requireTransition_bind hcommitting.binding]
        exact kept_commitCandidate hcommitting hnot
      · rintro error state host ⟨rfl,rfl⟩
        exact h.attempted _
    · rintro error state host ⟨rfl,rfl,-⟩
      exact h.attempted _
  · rintro error state host ⟨rfl,rfl,-⟩
    exact h.attempted _

theorem kept_attemptPromotion (h : Promoting computerId tracked guarded transition state host) (mode : Mode) :
    Kept computerId tracked guarded careful Attempted
      (attemptPromotion computerId state.status transition mode) state host := by
  have hactive := active_of_transition h.binding
  rw [attemptPromotion]
  refine Safe.bind (kept_perform (.drainDeployments transition mode) rfl h.sound trivial) ?_ ?_
  · rintro drained state host ⟨rfl,rfl,-⟩
    refine Safe.bind kept_assertMatchingSlot ?_ ?_
    · rintro _ state host ⟨rfl,rfl,hmatches⟩
      obtain ⟨-,hidentity⟩ := hmatches rfl
      cases hcandidate : drained.candidate.or state.status.candidate with
      | none => exact h.attempted _
      | some candidate =>
        refine Safe.bind kept_assertMatchingSlot ?_ ?_
        · rintro _ state host ⟨rfl,rfl,hprepared⟩
          obtain ⟨-,hcandidateIdentity⟩ := hprepared rfl
          refine Safe.bind (kept_promoting h
            ⟨rfl,rfl,hidentity.trans (congrArg Slot.identity hactive).symm,?_⟩ rfl) ?_ ?_
          · rw [candidate_of_transition h.binding]
            exact congrArg some hcandidateIdentity
          · rintro value state' host' ⟨rfl,-,transition',hpromoting⟩
            exact kept_transferState hpromoting
          · rintro error state host ⟨rfl,rfl⟩
            exact h.attempted _
        · rintro error state host ⟨rfl,rfl,-⟩
          exact h.attempted _
    · rintro error state host ⟨rfl,rfl,-⟩
      exact h.attempted _
  · rintro error state host ⟨rfl,rfl,-⟩
    exact h.attempted _

def Promoted : Except Thrown Status → CoordinatorState → HostState → Prop
  | .ok value, state, _ => state.status = value ∧ value.phase = .steady
  | .error _, _, _ => True

/-- The handler rolls back before the marker is written, and asks the host after it. -/
theorem kept_performPromotion (h : Promoting computerId tracked guarded transition state host) (mode : Mode) :
    Kept computerId tracked guarded careful Promoted
      (performPromotion computerId schemaText state.status transition mode) state host := by
  refine Safe.handle _ ((kept_attemptPromotion h mode).keep h.sound) (fun _ _ _ hattempted => hattempted.1) ?_
  rintro error latest host ⟨hattempted,hsound⟩
  refine safe_bind.mpr ((safe_readCoordinatorState hsound.valid).mpr (safe_bind.mpr (safe_requireTransition
    (fun transition ht => ?_) fun _ _ => trivial)))
  dsimp only [onResult]
  split
  · next hmarked =>
    have hmarked : latest.commitStarted := hmarked.elim id hsound.marked
    exact Safe.bind (kept_recoverCommit_cases ⟨hsound,hmarked,ht⟩) (fun _ _ _ _ => trivial) fun _ _ _ _ => trivial
  · next hunmarked =>
    have hunmarked : latest.commitStarted = false := by
      cases hcommit : latest.commitStarted with
      | false => rfl
      | true => exact absurd (.inl hcommit) hunmarked
    have hcandidate : latest.status.phase.hasCandidate := by
      rcases hattempted with hcandidate | hmarked
      · exact hcandidate
      · rw [hunmarked] at hmarked
        cases hmarked
    exact Safe.bind (kept_rollbackToTrial hsound ht (hsound.status.isOpen hunmarked)
      fun hguarded => .inr (hsound.status.live hguarded (.inl hcandidate)))
        (fun _ _ _ _ => trivial) fun _ _ _ _ => trivial

theorem safe_assertUpdate {updateId : JsString} {post : Except Thrown Unit → CoordinatorState → HostState → Prop}
    (hok : status.updateId = some updateId → status.phase = .trial → post (.ok ()) state host)
    (herror : ∀ thrown,post (.error thrown) state host) :
    Kept computerId tracked guarded careful post (assertUpdate status updateId) state host := by
  refine safe_bind.mpr (safe_refuseUnless.mpr ?_)
  split
  · next hupdateId =>
    refine safe_refuseUnless.mpr ?_
    split
    · next hphase =>
      exact hok (of_decide_eq_true (Bool.and_eq_true_iff.mp hupdateId).1) (of_decide_eq_true hphase)
    · exact herror _
  · exact herror _

section

variable (h : Sound computerId tracked guarded state host)
include h

theorem kept_promote (updateId : JsString) (mode : Mode) :
    Kept computerId tracked guarded careful Promoted (promote computerId schemaText updateId mode) state host := by
  refine safe_bind.mpr ((safe_readCoordinatorState h.valid).mpr (safe_bind.mpr (safe_assertUpdate
    (fun _ hphase => ?_) fun _ => trivial)))
  refine safe_bind.mpr (safe_requireTransition (fun transition ht => ?_) fun _ _ => trivial)
  have hunmarked := h.commitStarted_eq_false (hphase ▸ (by decide)) (hphase ▸ (by decide))
  refine Safe.bind (kept_promoting ⟨h,hunmarked,hphase ▸ rfl,ht⟩ ⟨rfl,rfl,rfl,rfl⟩ rfl) ?_ fun _ _ _ _ => trivial
  rintro value state' host' ⟨rfl,hstatus,transition',hpromoting⟩
  have ht' := hpromoting.binding
  rw [hstatus] at ht'
  obtain rfl := Option.some.inj (ht.symm.trans ht')
  exact kept_performPromotion hpromoting mode

theorem kept_schedulePromote (updateId : JsString) (mode : Mode) (scheduledAt : ℕ) :
    Kept computerId tracked guarded careful (fun _ _ _ => True) (schedulePromote computerId updateId mode scheduledAt)
      state host := by
  refine safe_bind.mpr ((safe_readCoordinatorState h.valid).mpr ?_)
  dsimp only [onResult]
  split
  · trivial
  · refine safe_bind.mpr (safe_assertUpdate (fun _ hphase => ?_) fun _ => trivial)
    have hunmarked := h.commitStarted_eq_false (hphase ▸ (by decide)) (hphase ▸ (by decide))
    refine safe_changeState h.valid (fun hvalid => ⟨⟨hvalid,fun hcommitting => ?_,h.rotated,?_⟩,trivial⟩)
      fun _ _ => trivial
    · cases hcommitting
    · have hsame : SameBinding { state.status with phase := .draining, detail := some (scheduledDetail mode) }
          state.status := ⟨rfl,rfl,rfl,rfl⟩
      exact ⟨h.status.follows.sameBinding hsame,fun _ => (h.status.isOpen hunmarked).sameBinding hsame,
        fun hguarded _ => (h.status.live hguarded (.inl (hphase ▸ rfl))).sameBinding hsame⟩

theorem kept_firePromotion :
    Kept computerId tracked guarded careful (fun _ _ _ => True) (firePromotion computerId schemaText) state host := by
  refine safe_bind.mpr ((safe_readCoordinatorState h.valid).mpr ?_)
  dsimp only [onResult]
  cases hscheduled : state.scheduledPromotion with
  | none => trivial
  | some scheduled =>
    dsimp only
    split
    · next hphase =>
      refine safe_bind.mpr (safe_changeState h.valid (fun hvalid => ?_) fun _ _ => trivial)
      have hsound : Sound computerId tracked guarded { state with scheduledPromotion := none } host :=
        ⟨hvalid,h.marked,h.rotated,h.status⟩
      refine ⟨hsound,safe_bind.mpr (safe_requireTransition (fun transition ht => ?_) fun _ _ => trivial)⟩
      have hunmarked := h.commitStarted_eq_false (hphase ▸ (by decide)) (hphase ▸ (by decide))
      have hpromoting : Promoting computerId tracked guarded transition { state with scheduledPromotion := none } host :=
        ⟨hsound,hunmarked,hphase ▸ rfl,ht⟩
      exact Safe.bind (kept_performPromotion hpromoting scheduled.mode) (fun _ _ _ _ => trivial) fun _ _ _ _ => trivial
    · trivial

end

end Malink.Deployment
