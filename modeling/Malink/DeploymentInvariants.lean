import Malink.DeploymentCoordinator

/-!
# What the coordinator keeps

The file is compared with the host after every step: with the ownership that the host has committed, and with the
candidate that it has prepared.
-/

namespace Malink.Deployment

open DurableProgram Option

/-- The release that owns the routes, the updates whose ownership was committed, and the candidate that was completely
prepared and not discarded since. -/
structure HostState where
  active : Identity
  commits : List JsString
  prepared : Option (JsString × Identity)
  deriving DecidableEq

def HostState.commit (host : HostState) (transition : Transition) : HostState :=
  ⟨transition.candidate.identity,transition.updateId :: host.commits,none⟩

def HostState.prepare (host : HostState) (transition : Transition) : HostState :=
  { host with prepared := some (transition.updateId,transition.candidate.identity) }

def HostState.discard (host : HostState) : HostState := { host with prepared := none }

/-- What a request does to the host, whether it returns or throws. The ownership commit is atomic, and the host says
truly whether it has happened. With `careful`, a discard that throws has discarded nothing, a recovery is always
restored, and a rollback returns only while the candidate is prepared. -/
def hostStep (careful : Prop) (host : HostState) : (request : Request) → Except Thrown request.Reply → HostState → Prop
  | .prepareCandidate transition, .ok _, host' => host' = host.prepare transition
  | .prepareCandidate transition, .error _, host' => host' = host ∨ host' = host.prepare transition
  | .discardCandidate _, .ok _, host' => host' = host.discard
  | .discardCandidate _, .error _, host' => host' = host ∨ (¬ careful ∧ host' = host.discard)
  | .commitCandidate transition, .ok _, host' => host' = host.commit transition
  | .commitCandidate transition, .error _, host' => host' = host ∨ host' = host.commit transition
  | .recoverCommit transition, .ok .committed, host' => host' = host ∧ transition.updateId ∈ host.commits
  | .recoverCommit transition, .ok .notCommitted, host' => host' = host ∧ transition.updateId ∉ host.commits
  | .recoverPreparation transition, .ok (some _), host' => host' = host.prepare transition
  | .recoverPreparation _, .ok none, host' => host' = host.discard
  | .recoverPreparation transition, .error _, host' =>
    host' = host ∨ host' = host.discard ∨ host' = host.prepare transition
  | .restoreRecovery _, .error _, host' => ¬ careful ∧ host' = host
  | .rollbackPreCommit transition, .ok _, host' =>
    host' = host ∧ (careful → host.prepared = some (transition.updateId,transition.candidate.identity))
  | _, _, host' => host' = host

/-- Nothing is rolled back and nothing is committed again after the ownership commit. -/
def BeforeCommit : Request → CoordinatorState → HostState → Prop
  | .rollbackPreCommit transition, _, host => transition.updateId ∉ host.commits
  | .commitCandidate transition, _, host => transition.updateId ∉ host.commits
  | _, _, _ => True

/-- The update of the status is not committed. -/
def Open (host : HostState) (status : Status) : Prop :=
  ∀ updateId, status.updateId = some updateId → updateId ∉ host.commits

/-- The status has one update and one candidate or none of both. While the configured release is the one that the host
has committed, the status names that release, and its generation counts the commits, until its own update is
committed. -/
structure Follows (tracked : Prop) (host : HostState) (status : Status) : Prop where
  bound : status.updateId.isSome = status.candidate.isSome
  before : tracked → Open host status →
    status.active.identity = host.active ∧ status.generation = host.commits.length
  after : tracked → ∀ transition, transitionFromStatus status = some transition →
    transition.updateId ∈ host.commits →
      transition.candidate.identity = host.active ∧ status.generation + 1 = host.commits.length

def Live (host : HostState) (status : Status) : Prop :=
  ∀ transition, transitionFromStatus status = some transition → transition.updateId ∉ host.commits →
    host.prepared = some (transition.updateId,transition.candidate.identity)

def Phase.hasCandidate : Phase → Bool
  | trial => true
  | draining => true
  | transferring => true
  | _ => false

structure StatusSound (tracked guarded : Prop) (host : HostState) (marker : Bool) (status : Status) : Prop where
  follows : Follows tracked host status
  isOpen : marker = false → Open host status
  live : guarded → (status.phase.hasCandidate ∨ marker) → Live host status

structure Sound (computerId : JsString) (tracked guarded : Prop) (state : CoordinatorState) (host : HostState) :
    Prop where
  valid : state.check computerId = none
  marked : state.status.phase = .committing → state.commitStarted
  rotated : ∀ recovery, state.rotatedRecovery = some recovery →
    recovery.isValid ∧ recovery.gatewayNodeId ≠ state.status.active.gatewayNodeId
  status : StatusSound tracked guarded host state.commitStarted state.status

/-- Two statuses are about the same update, candidate and active release. -/
structure SameBinding (status other : Status) : Prop where
  updateId : status.updateId = other.updateId
  generation : status.generation = other.generation
  active : status.active.identity = other.active.identity
  candidate : status.candidate.map (·.identity) = other.candidate.map (·.identity)

variable {tracked guarded careful : Prop} {host host' : HostState} {status other : Status} {transition : Transition}
  {computerId : JsString} {state : CoordinatorState}

theorem check_eq_none_iff : state.check computerId = none ↔
    state.status.isValid ∧ state.status.computerId = computerId ∧
      (state.commitStarted → state.status.phase = .committing ∨ state.status.phase = .repairRequired) ∧
        ∀ scheduled, state.scheduledPromotion = some scheduled → scheduled.isValid state.status := by
  rw [CoordinatorState.check]
  split
  · next hvalid => simp [hvalid]
  split
  · next hcomputer => simp [hcomputer]
  split
  · next hmarker =>
    simp only [reduceCtorEq,false_iff]
    rintro ⟨-,-,hphases,-⟩
    exact not_or.mpr hmarker.2 (hphases hmarker.1)
  split
  · next hscheduled =>
    simp only [reduceCtorEq,false_iff]
    rintro ⟨-,-,-,hvalid⟩
    obtain ⟨scheduled,heq,hinvalid⟩ := (any_eq_true _ _).mp hscheduled
    rw [hvalid scheduled heq] at hinvalid
    cases hinvalid
  · next hvalid hcomputer hmarker hscheduled =>
    simp only [true_iff]
    refine ⟨Bool.of_not_eq_false hvalid,not_not.mp hcomputer,fun hcommit => ?_,fun scheduled heq => ?_⟩
    · by_contra hphases
      exact hmarker ⟨hcommit,not_or.mp hphases⟩
    · by_contra hinvalid
      exact hscheduled ((any_eq_true _ _).mpr ⟨scheduled,heq,by simp [hinvalid]⟩)

theorem SameBinding.refl (status : Status) : SameBinding status status := ⟨rfl,rfl,rfl,rfl⟩

theorem transitionFromStatus_eq_some : transitionFromStatus status = some transition ↔
    ∃ candidate, status.candidate = some candidate ∧ status.updateId = some transition.updateId ∧
      transition = ⟨transition.updateId,status.computerId,status.generation,status.active,candidate⟩ := by
  rw [transitionFromStatus]
  cases hu : status.updateId with
  | none => simp
  | some updateId =>
    cases hc : status.candidate with
    | none => simp
    | some candidate =>
      simp only [some.injEq,exists_eq_left']
      constructor
      · rintro rfl
        exact ⟨rfl,rfl⟩
      · rintro ⟨rfl,h⟩
        exact h.symm

section

variable (h : transitionFromStatus status = some transition)
include h

theorem updateId_of_transition :
    status.updateId = some transition.updateId := (transitionFromStatus_eq_some.mp h).choose_spec.2.1

theorem candidate_of_transition : status.candidate = some transition.candidate := by
  obtain ⟨candidate,hcandidate,-,heq⟩ := transitionFromStatus_eq_some.mp h
  rw [heq]
  exact hcandidate

theorem active_of_transition : status.active = transition.active := by
  obtain ⟨candidate,-,-,heq⟩ := transitionFromStatus_eq_some.mp h
  rw [heq]

end

/-- The transition of a status with the same binding names the same update and release. -/
theorem SameBinding.exists_transition (h : SameBinding other status) (ht : transitionFromStatus other = some transition) :
    ∃ transition', transitionFromStatus status = some transition' ∧ transition'.updateId = transition.updateId ∧
      transition'.candidate.identity = transition.candidate.identity := by
  have hu := updateId_of_transition ht
  have hc := candidate_of_transition ht
  have hcandidate := h.candidate
  rw [hc] at hcandidate
  obtain ⟨candidate,hcandidate',hidentity⟩ := map_eq_some_iff.mp hcandidate.symm
  refine ⟨⟨transition.updateId,status.computerId,status.generation,status.active,candidate⟩,?_,rfl,hidentity⟩
  rw [transitionFromStatus,← h.updateId,hu,hcandidate']

theorem Open.sameBinding (h : Open host status) (hsame : SameBinding other status) : Open host other := by
  intro updateId hupdateId
  exact h updateId (hsame.updateId ▸ hupdateId)

theorem Follows.sameBinding (h : Follows tracked host status) (hsame : SameBinding other status) :
    Follows tracked host other where
  bound := by
    have hcandidate := congrArg isSome hsame.candidate
    rw [isSome_map,isSome_map] at hcandidate
    rw [hsame.updateId,hcandidate]
    exact h.bound
  before := by
    intro htracked hopen
    have hopen' : Open host status := fun updateId hupdateId => hopen updateId (hsame.updateId.trans hupdateId)
    rw [hsame.active,hsame.generation]
    exact h.before htracked hopen'
  after := by
    intro htracked transition ht hmem
    obtain ⟨transition',ht',hupdateId,hcandidate⟩ := hsame.exists_transition ht
    rw [← hcandidate,hsame.generation]
    exact h.after htracked transition' ht' (hupdateId ▸ hmem)

theorem Live.sameBinding (h : Live host status) (hsame : SameBinding other status) : Live host other := by
  intro transition ht hnot
  obtain ⟨transition',ht',hupdateId,hcandidate⟩ := hsame.exists_transition ht
  rw [← hupdateId,← hcandidate]
  exact h transition' ht' (hupdateId ▸ hnot)

/-- A status without an update. -/
theorem Follows.ofSteady (hu : status.updateId = none) (hc : status.candidate = none)
    (h : tracked → status.active.identity = host.active ∧ status.generation = host.commits.length) :
    Follows tracked host status where
  bound := by
    rw [hu,hc]
    rfl
  before := fun htracked _ => h htracked
  after := by
    intro _ transition ht
    rw [transitionFromStatus,hu] at ht
    cases ht

theorem statusSound_steady (hphase : status.phase = .steady) (hu : status.updateId = none) (hc : status.candidate = none)
    (h : tracked → status.active.identity = host.active ∧ status.generation = host.commits.length) :
    StatusSound tracked guarded host false status where
  follows := .ofSteady hu hc h
  isOpen := by
    intro _ updateId hupdateId
    rw [hu] at hupdateId
    cases hupdateId
  live := by
    rintro - (hcandidate | hmarker)
    · rw [hphase] at hcandidate
      cases hcandidate
    · cases hmarker

variable {marker : Option Bool}

section

variable (h : Sound computerId tracked guarded state host)
include h

theorem Sound.setPrepared (prepared : Option (JsString × Identity))
    (hphase : state.status.phase.hasCandidate = false) (hmarker : state.commitStarted = false) :
    Sound computerId tracked guarded state { host with prepared := prepared } where
  valid := h.valid
  marked := h.marked
  rotated := h.rotated
  status :=
    { follows := ⟨h.status.follows.bound,h.status.follows.before,h.status.follows.after⟩
      isOpen := h.status.isOpen
      live := by
        rintro - (hcandidate | hmarked)
        · rw [hphase] at hcandidate
          cases hcandidate
        · rw [hmarker] at hmarked
          cases hmarked }

theorem Sound.commit (hmarker : state.commitStarted)
    (ht : transitionFromStatus state.status = some transition) (hnot : transition.updateId ∉ host.commits) :
    Sound computerId tracked guarded state (host.commit transition) where
  valid := h.valid
  marked := h.marked
  rotated := h.rotated
  status := by
    have hu := updateId_of_transition ht
    have hopen : Open host state.status := by
      intro updateId hupdateId
      rw [hu] at hupdateId
      obtain rfl := some.inj hupdateId
      exact hnot
    refine ⟨⟨h.status.follows.bound,?_,?_⟩,?_,?_⟩
    · intro _ hopen'
      exact absurd List.mem_cons_self (hopen' _ hu)
    · intro htracked transition' ht' _
      rw [ht] at ht'
      obtain rfl := some.inj ht'
      refine ⟨rfl,?_⟩
      rw [(h.status.follows.before htracked hopen).2]
      rfl
    · intro hfalse
      rw [hmarker] at hfalse
      cases hfalse
    · intro _ _ transition' ht' hnot'
      rw [ht] at ht'
      obtain rfl := some.inj ht'
      exact absurd List.mem_cons_self hnot'

theorem sound_withStatus (hvalid : (state.withStatus status marker).check computerId = none)
    (hstatus : StatusSound tracked guarded host (state.withStatus status marker).commitStarted status)
    (hcommitting : status.phase = .committing → (state.withStatus status marker).commitStarted)
    (hactive : status.phase ≠ .steady → status.active.gatewayNodeId = state.status.active.gatewayNodeId) :
    Sound computerId tracked guarded (state.withStatus status marker) host where
  valid := hvalid
  marked := hcommitting
  rotated := by
    intro recovery hrecovery
    simp only [CoordinatorState.withStatus] at hrecovery ⊢
    split at hrecovery
    · cases hrecovery
    · next hsteady =>
      rw [hactive hsteady]
      exact h.rotated recovery hrecovery
  status := hstatus

end

section

variable {η : Type} {step : η → (request : Request) → Except Thrown request.Reply → η → Prop} {host : η}
  {invariant : CoordinatorState → η → Prop}
  {allowed : Request → CoordinatorState → η → Prop}

theorem safe_refuseUnless {condition : Bool} {thrown : Thrown} {post : Except Thrown Unit → CoordinatorState → η → Prop} :
    Safe step invariant allowed post (refuseUnless condition thrown) state host ↔
      post (if condition then .ok () else .error thrown) state host := by
  rw [refuseUnless]
  split
  · rfl
  · rfl

theorem safe_readCoordinatorState (hvalid : state.check computerId = none)
    {post : Except Thrown CoordinatorState → CoordinatorState → η → Prop} :
    Safe step invariant allowed post (readCoordinatorState computerId) state host ↔
      post (.ok state) state host := by
  rw [readCoordinatorState,safe_bind]
  change Safe step invariant allowed post (validateCoordinatorState computerId state >>= fun _ => Pure.pure state)
    state host ↔ _
  rw [validateCoordinatorState,hvalid]
  rfl

variable {post : Except Thrown Status → CoordinatorState → η → Prop}

/-- A change of the state is written if the state that it makes is valid, and throws otherwise. -/
theorem safe_changeState (hvalid : state.check computerId = none) {change : CoordinatorState → CoordinatorState}
    (hok : (change state).check computerId = none →
      invariant (change state) host ∧ post (.ok (change state).status) (change state) host)
    (herror : ∀ thrown,(change state).check computerId = some thrown → post (.error thrown) state host) :
    Safe step invariant allowed post (changeState computerId change) state host := by
  rw [changeState,safe_bind,safe_readCoordinatorState hvalid]
  change Safe step invariant allowed post
    (validateCoordinatorState computerId (change state) >>= fun _ => writeState (change state) >>= fun _ =>
      Pure.pure (change state).status) state host
  rw [validateCoordinatorState]
  cases hcheck : (change state).check computerId with
  | none => exact hok hcheck
  | some thrown => exact herror thrown hcheck

theorem safe_writeStatus (hvalid : state.check computerId = none)
    (hok : (state.withStatus status marker).check computerId = none →
      invariant (state.withStatus status marker) host ∧ post (.ok status) (state.withStatus status marker) host)
    (herror : ∀ thrown,¬ (status.isValid ∧ (state.withStatus status marker).check computerId = none) →
      post (.error thrown) state host)
    : Safe step invariant allowed post (writeStatus computerId status marker) state host := by
  rw [writeStatus,safe_bind,safe_refuseUnless]
  split
  · next hstatus =>
    refine safe_changeState hvalid hok fun thrown hcheck => herror thrown fun hc => ?_
    rw [hc.2] at hcheck
    cases hcheck
  · next hstatus => exact herror _ fun hc => hstatus hc.1

theorem safe_requireTransition {post : Except Thrown Transition → CoordinatorState → η → Prop}
    (hok : ∀ transition,transitionFromStatus status = some transition → post (.ok transition) state host)
    (herror : ∀ thrown,transitionFromStatus status = none → post (.error thrown) state host) :
    Safe step invariant allowed post (requireTransition status) state host := by
  rw [requireTransition]
  cases ht : transitionFromStatus status with
  | none => exact herror _ ht
  | some transition => exact hok transition ht

theorem safe_assertMatchingSlot {expected actual : Slot} {label : JsString}
    {post : Except Thrown Unit → CoordinatorState → η → Prop}
    (hok : actual.isValid → actual.identity = expected.identity → post (.ok ()) state host)
    (herror : ∀ thrown,post (.error thrown) state host) :
    Safe step invariant allowed post (assertMatchingSlot expected actual label) state host := by
  rw [assertMatchingSlot,safe_bind,safe_refuseUnless]
  split
  · next hvalid =>
    change Safe step invariant allowed post (refuseUnless _ _) state host
    rw [safe_refuseUnless]
    split
    · next heq => exact hok hvalid (of_decide_eq_true heq)
    · exact herror _
  · exact herror _

end

end Malink.Deployment
