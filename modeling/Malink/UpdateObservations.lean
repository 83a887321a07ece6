import Malink.ExecutionStatus
import Mathlib.Data.Finset.Basic

/-!
# Observations of a Gateway update

A client hears of one Gateway's update on several ways, and keeps what it takes for the newest.
-/

namespace Malink.UpdateTrigger

open Tracks (GatewayUpdatePhase GatewayUpdateStatus)

open List
open Option (some)
open Finset (mem_toList)

def gatewayUpdatePhaseOrder : GatewayUpdatePhase → ℕ
  | .idle => 0
  | .staging => 1
  | .agentRequired => 2
  | .agentRunning => 3
  | .agentValidating => 4
  | .staged => 5
  | .waitingForIdle => 6
  | .scheduled => 7
  | .activating => 8
  | .probation => 9
  | .committed | .rolledBack | .failed | .repairRequired => 10

/-- The spread at the beginning of `latestGatewayUpdateStatus`. -/
def keepTracks (current incoming : GatewayUpdateStatus) : GatewayUpdateStatus :=
  if current.executionTracks ≠ none ∧ incoming.executionTracks = none ∧
      current.releaseId = incoming.releaseId ∧ current.currentBuildId = incoming.currentBuildId then
    { incoming with executionTracks := current.executionTracks }
  else incoming

def later (current incoming : GatewayUpdateStatus) : GatewayUpdateStatus :=
  if incoming.updatedAt > current.updatedAt then incoming
  else if incoming.updatedAt < current.updatedAt then current
  else if incoming.updateId ≠ current.updateId ∨ incoming.releaseId ≠ current.releaseId then incoming
  else if gatewayUpdatePhaseOrder incoming.phase ≥ gatewayUpdatePhaseOrder current.phase then incoming
  else current

def latestGatewayUpdateStatus (current : Option GatewayUpdateStatus) (incoming : GatewayUpdateStatus) :
    GatewayUpdateStatus :=
  match current with
  | none => incoming
  | some current => later current (keepTracks current incoming)

def merged (observations : List GatewayUpdateStatus) : Option GatewayUpdateStatus :=
  observations.foldl (fun current incoming => some (latestGatewayUpdateStatus current incoming)) none

/-- An order of the observations of a set, with repetitions. -/
def Lists (statuses : Finset GatewayUpdateStatus) (observations : List GatewayUpdateStatus) : Prop :=
  ∀ status, status ∈ observations ↔ status ∈ statuses

structure Newest (statuses : Finset GatewayUpdateStatus) (result : GatewayUpdateStatus) : Prop where
  attained : ∃ status ∈ statuses, status.updatedAt = result.updatedAt
  updatedAt : ∀ status ∈ statuses, status.updatedAt ≤ result.updatedAt
  phase : ∀ status ∈ statuses, status.updatedAt = result.updatedAt → status.updateId = result.updateId →
    status.releaseId = result.releaseId → gatewayUpdatePhaseOrder status.phase ≤ gatewayUpdatePhaseOrder result.phase

/-- Whatever the order and the repetitions, the merge ends with the same newest observation. -/
structure OrderIndependent (statuses : Finset GatewayUpdateStatus) : Prop where
  agrees : ∀ observations observations', Lists statuses observations → Lists statuses observations' →
    merged observations = merged observations'
  newest : ∀ observations result, Lists statuses observations → merged observations = some result →
    Newest statuses result

/-- Whether an observation that comes later does not replace another one. -/
def Precedes (status last : GatewayUpdateStatus) : Prop :=
  status.updatedAt < last.updatedAt ∨ status.updatedAt = last.updatedAt ∧ status.updateId = last.updateId ∧
    status.releaseId = last.releaseId ∧ gatewayUpdatePhaseOrder status.phase < gatewayUpdatePhaseOrder last.phase

/-- One observation decides: the others precede it or only lack its tracks, and none has tracks to give to it. -/
structure Decides (statuses : Finset GatewayUpdateStatus) (last : GatewayUpdateStatus) : Prop where
  mem : last ∈ statuses
  behind : ∀ status ∈ statuses, status ≠ last → Precedes status last ∨
    status.executionTracks = none ∧ { status with executionTracks := last.executionTracks } = last
  tracks : last.executionTracks = none → ∀ status ∈ statuses, status.executionTracks ≠ none →
    ¬(status.releaseId = last.releaseId ∧ status.currentBuildId = last.currentBuildId)

variable {statuses : Finset GatewayUpdateStatus} {current incoming last status : GatewayUpdateStatus}
  {observations : List GatewayUpdateStatus}

theorem keepTracks_cases (current incoming : GatewayUpdateStatus) :
    keepTracks current incoming = incoming ∨ current.executionTracks ≠ none ∧ incoming.executionTracks = none ∧
      current.releaseId = incoming.releaseId ∧ current.currentBuildId = incoming.currentBuildId ∧
        keepTracks current incoming = { incoming with executionTracks := current.executionTracks } := by
  unfold keepTracks
  split
  · next h => exact .inr ⟨h.1,h.2.1,h.2.2.1,h.2.2.2,rfl⟩
  · exact .inl rfl

theorem precedes_keepTracks : Precedes (keepTracks current incoming) last ↔ Precedes incoming last := by
  unfold keepTracks
  split <;> exact Iff.rfl

theorem Precedes.not_symm (h : Precedes status last) : ¬ Precedes last status := by
  unfold Precedes at h ⊢
  omega

theorem not_precedes_self (status : GatewayUpdateStatus) : ¬ Precedes status status :=
  fun h => h.not_symm h

theorem later_of_precedes (h : Precedes incoming current) : later current incoming = current := by
  unfold later
  rcases h with h | ⟨htime,hupdate,hrelease,hphase⟩
  · rw [if_neg (by omega),if_pos h]
  · rw [if_neg (by omega),if_neg (by omega),if_neg (by simp [hupdate,hrelease]),if_neg (by omega)]

theorem later_of_not_precedes (h : ¬ Precedes incoming current) : later current incoming = incoming := by
  unfold later
  split
  · rfl
  next hgreater =>
  rw [if_neg fun hless => h (.inl hless)]
  split
  · rfl
  next hid =>
  obtain ⟨hupdate,hrelease⟩ := not_or.mp hid
  exact if_pos (not_lt.mp fun hphase =>
    h (.inr ⟨by unfold Precedes at h; omega,not_not.mp hupdate,not_not.mp hrelease,hphase⟩))

theorem later_self (status : GatewayUpdateStatus) : later status status = status :=
  later_of_not_precedes (not_precedes_self status)

theorem eq_of_withoutTracks {tracks : Option Tracks.GatewayExecutionTracksStatus}
    (hcurrent : current.executionTracks = none) (hincoming : incoming.executionTracks = none)
    (h : { current with executionTracks := tracks } = { incoming with executionTracks := tracks }) :
    current = incoming := by
  cases current
  cases incoming
  simp_all

theorem merged_append (observations : List GatewayUpdateStatus) (incoming : GatewayUpdateStatus) :
    merged (observations ++ [incoming]) = some (latestGatewayUpdateStatus (merged observations) incoming) := by
  rw [merged,merged,foldl_append,foldl_cons,foldl_nil]

/-- An observation that all later ones leave stays to the end. -/
theorem merged_stays (before : List GatewayUpdateStatus)
    (hlast : latestGatewayUpdateStatus (merged before) incoming = last)
    (hstays : ∀ status ∈ observations,later last (keepTracks last status) = last) :
    merged (before ++ incoming :: observations) = some last := by
  induction observations using reverseRecOn with
  | nil => rw [merged_append,hlast]
  | append_singleton observations status ih =>
    rw [← cons_append,← append_assoc,merged_append,ih fun other hother => hstays other (mem_append_left _ hother)]
    exact congrArg some (hstays status (mem_append_right _ mem_cons_self))

/-- What a sequence of observations of a set ends with: one of them, perhaps with the tracks of another one. -/
structure Derived (statuses : Finset GatewayUpdateStatus) (current : GatewayUpdateStatus) : Prop where
  source : ∃ status ∈ statuses, { status with executionTracks := current.executionTracks } = current
  tracks : current.executionTracks ≠ none → ∃ status ∈ statuses, status.executionTracks ≠ none ∧
    status.releaseId = current.releaseId ∧ status.currentBuildId = current.currentBuildId

theorem derived_of_mem (h : status ∈ statuses) : Derived statuses status :=
  ⟨⟨status,h,rfl⟩,fun htracks => ⟨status,h,htracks,rfl,rfl⟩⟩

theorem Derived.later (h : Derived statuses current) (hincoming : incoming ∈ statuses) :
    Derived statuses (later current (keepTracks current incoming)) := by
  by_cases hprecedes : Precedes (keepTracks current incoming) current
  · rw [later_of_precedes hprecedes]
    exact h
  rw [later_of_not_precedes hprecedes]
  rcases keepTracks_cases current incoming with hkeep | ⟨htracks,-,hrelease,hbuild,hkeep⟩
  · rw [hkeep]
    exact derived_of_mem hincoming
  · obtain ⟨status,hstatus,hgiven,hrelease',hbuild'⟩ := h.tracks htracks
    rw [hkeep]
    exact ⟨⟨incoming,hincoming,rfl⟩,fun _ =>
      ⟨status,hstatus,hgiven,hrelease'.trans hrelease,hbuild'.trans hbuild⟩⟩

theorem derived_merged (hall : ∀ status ∈ observations,status ∈ statuses) :
    ∀ result, merged observations = some result → Derived statuses result := by
  induction observations using reverseRecOn with
  | nil => exact fun result h => (nomatch h)
  | append_singleton observations incoming ih =>
    intro result h
    rw [merged_append] at h
    obtain rfl := some.inj h
    have hincoming : incoming ∈ statuses := hall incoming (mem_append_right _ mem_cons_self)
    cases hmerged : merged observations with
    | none => exact derived_of_mem hincoming
    | some current =>
      exact (ih (fun status hstatus => hall status (mem_append_left _ hstatus)) current hmerged).later hincoming

theorem Decides.stays (h : Decides statuses last) (hstatus : status ∈ statuses) :
    later last (keepTracks last status) = last := by
  by_cases hprecedes : Precedes status last
  · exact later_of_precedes (precedes_keepTracks.mpr hprecedes)
  have hkept : keepTracks last status = last := by
    by_cases hsame : status = last
    · rw [hsame,keepTracks,if_neg fun htracks => htracks.1 htracks.2.1]
    · obtain ⟨hnone,heq⟩ := (h.behind status hstatus hsame).resolve_left hprecedes
      by_cases htracks : last.executionTracks = none
      · rw [htracks,← hnone] at heq
        exact absurd heq hsame
      · rw [keepTracks,if_pos ⟨htracks,hnone,by rw [← heq],by rw [← heq]⟩,heq]
  rw [hkept,later_self]

theorem Decides.replaces (h : Decides statuses last) (hcurrent : Derived statuses current) :
    later current (keepTracks current last) = last := by
  have hkept : keepTracks current last = last := by
    rcases keepTracks_cases current last with hkept | ⟨htracks,hnone,hrelease,hbuild,-⟩
    · exact hkept
    · obtain ⟨status,hstatus,hgiven,hrelease',hbuild'⟩ := hcurrent.tracks htracks
      exact absurd ⟨hrelease'.trans hrelease,hbuild'.trans hbuild⟩ (h.tracks hnone status hstatus hgiven)
  rw [hkept]
  obtain ⟨status,hstatus,hsource⟩ := hcurrent.source
  refine later_of_not_precedes ?_
  rw [← hsource]
  by_cases hsame : status = last
  · rw [hsame]
    exact not_precedes_self last
  · rcases h.behind status hstatus hsame with hprecedes | ⟨-,heq⟩
    · exact hprecedes.not_symm
    · rw [← heq]
      exact not_precedes_self status

theorem Decides.merged_eq (h : Decides statuses last) (hall : Lists statuses observations) :
    merged observations = some last := by
  obtain ⟨before,after,rfl⟩ := append_of_mem ((hall last).mpr h.mem)
  refine merged_stays before ?_ fun status hstatus =>
    h.stays ((hall status).mp (mem_append_right _ (mem_cons_of_mem _ hstatus)))
  cases hmerged : merged before with
  | none => rfl
  | some current =>
    exact h.replaces (derived_merged (fun status hstatus => (hall status).mp (mem_append_left _ hstatus))
      current hmerged)

theorem Decides.newest (h : Decides statuses last) : Newest statuses last := by
  have hbehind : ∀ status ∈ statuses,status.updatedAt ≤ last.updatedAt ∧ (status.updatedAt = last.updatedAt →
      gatewayUpdatePhaseOrder status.phase ≤ gatewayUpdatePhaseOrder last.phase) := by
    intro status hstatus
    by_cases hsame : status = last
    · rw [hsame]
      exact ⟨le_rfl,fun _ => le_rfl⟩
    · rcases h.behind status hstatus hsame with hprecedes | ⟨-,heq⟩
      · unfold Precedes at hprecedes
        omega
      · rw [← heq]
        exact ⟨le_rfl,fun _ => le_rfl⟩
  exact ⟨⟨last,h.mem,rfl⟩,fun status hstatus => (hbehind status hstatus).1,
    fun status hstatus htime _ _ => (hbehind status hstatus).2 htime⟩

section

variable (h : OrderIndependent statuses) (hmerged : merged statuses.toList = some last)
include h hmerged

theorem OrderIndependent.again (before : List GatewayUpdateStatus) (hall : ∀ status ∈ before,status ∈ statuses) :
    merged (before ++ statuses.toList) = some last := by
  rw [← hmerged]
  refine h.agrees _ _ (fun status => ?_) fun _ => mem_toList
  rw [mem_append,mem_toList]
  exact or_iff_right_of_imp (hall status)

/-- The result stays when one of the observations comes once more. -/
theorem OrderIndependent.behind (hstatus : status ∈ statuses) (hne : status ≠ last) : Precedes status last ∨
    status.executionTracks = none ∧ { status with executionTracks := last.executionTracks } = last := by
  have hagain : merged (statuses.toList ++ [status]) = merged statuses.toList := by
    refine h.agrees _ _ (fun other => ?_) fun _ => mem_toList
    rw [mem_append,mem_toList,mem_singleton]
    exact or_iff_left_of_imp fun heq => heq ▸ hstatus
  rw [merged_append,hmerged] at hagain
  have hstays : later last (keepTracks last status) = last := some.inj hagain
  by_cases hprecedes : Precedes (keepTracks last status) last
  · exact .inl (precedes_keepTracks.mp hprecedes)
  rw [later_of_not_precedes hprecedes] at hstays
  rcases keepTracks_cases last status with hsame | ⟨-,hnone,-,-,hkept⟩
  · exact absurd (hsame.symm.trans hstays) hne
  · exact .inr ⟨hnone,hkept.symm.trans hstays⟩

/-- The result is an observation: otherwise it only lacks its tracks, and wins without them when it comes first. -/
theorem OrderIndependent.mem : last ∈ statuses := by
  obtain ⟨source,hsource,heq⟩ := (derived_merged (fun status hstatus => mem_toList.mp hstatus) last hmerged).source
  by_contra hnot
  have hbehind {status : GatewayUpdateStatus} (hstatus : status ∈ statuses) :=
    h.behind hmerged hstatus fun hsame => hnot (hsame ▸ hstatus)
  have hnone : source.executionTracks = none := by
    rcases hbehind hsource with hprecedes | hlacks
    · rw [← heq] at hprecedes
      exact absurd hprecedes (not_precedes_self source)
    · exact hlacks.1
  have hfirst : merged (source :: statuses.toList) = some source := by
    refine merged_stays [] rfl fun status hstatus => ?_
    rw [keepTracks,if_neg fun htracks => htracks.1 hnone]
    rcases hbehind (mem_toList.mp hstatus) with hprecedes | ⟨hlacks,hsame⟩
    · rw [← heq] at hprecedes
      exact later_of_precedes hprecedes
    · rw [eq_of_withoutTracks hlacks hnone (hsame.trans heq.symm),later_self]
  have hagain := h.again hmerged [source] fun status hstatus => mem_singleton.mp hstatus ▸ hsource
  exact hnot (some.inj (hfirst.symm.trans hagain) ▸ hsource)

/-- Tracks that another observation could give would stay, if that one came first. -/
theorem OrderIndependent.tracks (hnone : last.executionTracks = none) (hstatus : status ∈ statuses)
    (hgives : status.executionTracks ≠ none) :
    ¬(status.releaseId = last.releaseId ∧ status.currentBuildId = last.currentBuildId) := by
  rintro ⟨hrelease,hbuild⟩
  have hbehind {other : GatewayUpdateStatus} (hother : other ∈ statuses) (hne : other ≠ last) : Precedes other last :=
    (h.behind hmerged hother hne).resolve_right fun hlacks => hne (eq_of_withoutTracks hlacks.1 hnone hlacks.2)
  have hfirst : merged ([status] ++ last :: statuses.toList) =
      some { last with executionTracks := status.executionTracks } := by
    refine merged_stays [status] ?_ fun other hother => ?_
    · change later status (keepTracks status last) = _
      rw [keepTracks,if_pos ⟨hgives,hnone,hrelease,hbuild⟩]
      exact later_of_not_precedes (hbehind hstatus fun hsame => hgives (hsame ▸ hnone)).not_symm
    · by_cases hsame : other = last
      · rw [hsame,keepTracks,if_pos ⟨hgives,hnone,rfl,rfl⟩,later_self]
      · exact later_of_precedes (precedes_keepTracks.mpr (hbehind (mem_toList.mp hother) hsame))
  have hagain := h.again hmerged [status,last] fun other hother => by
    rcases mem_cons.mp hother with rfl | hother
    · exact hstatus
    · exact mem_singleton.mp hother ▸ h.mem hmerged
  have hsame := some.inj (hfirst.symm.trans hagain)
  rw [← hsame] at hnone
  exact hgives hnone

end

/-- The order does not matter exactly when one observation decides. -/
theorem orderIndependent_iff (statuses : Finset GatewayUpdateStatus) :
    OrderIndependent statuses ↔ (statuses.Nonempty → ∃ last,Decides statuses last) := by
  constructor
  · intro h hnonempty
    rcases eq_nil_or_concat statuses.toList with hnil | ⟨before,incoming,hlist⟩
    · exact absurd (Finset.toList_eq_nil.mp hnil) hnonempty.ne_empty
    · have hmerged := merged_append before incoming
      rw [← concat_eq_append,← hlist] at hmerged
      exact ⟨_,h.mem hmerged,fun status => h.behind hmerged,fun hnone status => h.tracks hmerged hnone⟩
  · intro h
    have hmerged {observations result} (hall : Lists statuses observations)
        (hresult : merged observations = some result) : Decides statuses result := by
      obtain ⟨status,hstatus,-⟩ :=
        (derived_merged (fun status hstatus => (hall status).mp hstatus) result hresult).source
      obtain ⟨last,hlast⟩ := h ⟨status,hstatus⟩
      exact some.inj ((hlast.merged_eq hall).symm.trans hresult) ▸ hlast
    refine ⟨fun observations observations' hall hall' => ?_,fun _ _ hall hresult => (hmerged hall hresult).newest⟩
    cases hresult : merged observations with
    | some result => exact ((hmerged hall hresult).merged_eq hall').symm
    | none =>
      cases hresult' : merged observations' with
      | some result => exact hresult.symm.trans ((hmerged hall' hresult').merged_eq hall)
      | none => rfl

def tracked : GatewayUpdateStatus where
  phase := .committed
  updateId := none
  releaseId := some "new"
  targetBuildId := none
  currentBuildId := none
  previousReleaseId := none
  executionTracks := some ⟨2,"new",none,.steady,none,none,none⟩
  supportedOperations := none
  activationMode := none
  detail := none
  maintenanceSessionId := none
  activeTurns := none
  updatedAt := 123

def untracked : GatewayUpdateStatus := { tracked with executionTracks := none, updatedAt := 124 }

/-- The newer copy takes the tracks over only when it comes second. -/
theorem tracks_lost_in_other_order : ¬ OrderIndependent {tracked, untracked} := by
  intro h
  have hagrees := h.agrees [tracked,untracked] [untracked,tracked] (by simp [Lists]) (by simp [Lists,or_comm])
  exact absurd hagrees (by decide)

end Malink.UpdateTrigger
