import Malink.GatewaySessionOrder

/-!
# Answers are final

Whatever the processes over one journal do, a row keeps its command and its origin, the answer that was once
recorded for it stays, and so does the Matrix event that carried it.
-/

namespace Malink.Gateway

open Mlp3 CommandJournal Option

namespace State

variable {host : Host} {s s' : State} {now : ℕ}

variable (host s) in
theorem settleAndDeliver_continues (command : Command) (terminal : Terminal) (allowExpiredExecution : Bool) (now : ℕ) :
    Continues s.journal (s.settleAndDeliver host command terminal allowExpiredExecution now).journal := by
  unfold settleAndDeliver
  split
  · exact .refl _
  · simp only [settled]
    split
    · next journal h => exact settle_continues _ h
    · exact .refl _

theorem recoverNext_continues (h : s.recoverNext host now = some s') : Continues s.journal s'.journal := by
  unfold recoverNext at h
  split at h
  · cases h
    exact .refl _
  · next record records _ =>
    cases h
    have hsettle (terminal : Terminal) := settleAndDeliver_continues host { s with recovery := .recovering records }
      record.command terminal false now
    unfold recoverRecord
    cases { s with recovery := .recovering records }.recoveryDecision host record now with
    | skip => exact .refl _
    | schedule roomId => exact .refl _
    | complete terminal caught =>
      simp only
      split
      · exact hsettle terminal
      · exact hsettle terminal
    | interrupt terminal => exact hsettle terminal
  · cases h

theorem step_continues {action : Action} (h : s.step host action = some s') : Continues s.journal s'.journal := by
  cases action with
  | receive incoming now =>
    simp only [step,receive] at h
    split at h
    · cases h
    obtain ⟨project,-,h⟩ := bind_eq_some_iff.mp h
    split at h
    · cases h
    split at h
    · cases h
      exact .refl _
    · next hclaim =>
      cases h
      exact claim_continues hclaim
  | handle now =>
    simp only [step,handle] at h
    split at h
    · obtain ⟨project,-,rfl⟩ := map_eq_some_iff.mp h
      split <;> exact .refl _
    · cases h
  | settleHandled now =>
    simp only [step,settleHandled] at h
    split at h
    · obtain ⟨project,-,h⟩ := bind_eq_some_iff.mp h
      obtain ⟨terminal,-,rfl⟩ := map_eq_some_iff.mp h
      exact settleAndDeliver_continues host { s with handler := .idle } _ _ _ _
    · obtain ⟨project,-,rfl⟩ := map_eq_some_iff.mp h
      exact settleAndDeliver_continues host { s with handler := .idle } _ _ _ _
    · cases h
  | recoverNext now => exact recoverNext_continues h
  | markDispatched id now =>
    obtain ⟨task,-,h⟩ := bind_eq_some_iff.mp h
    unfold markTaskDispatched at h
    split at h
    · cases h
    simp only at h
    split at h
    · cases h
      exact .refl _
    · next hmark =>
      cases h
      exact markDispatched_continues hmark
  | settle id command terminal now =>
    obtain ⟨task,-,h⟩ := bind_eq_some_iff.mp h
    unfold settleExecuting at h
    split at h
    · cases h
      exact settleAndDeliver_continues host s _ _ _ _
    · cases h
  | archiveItem id roomId sessionId itemCommandId now =>
    obtain ⟨task,-,h⟩ := bind_eq_some_iff.mp h
    unfold archiveItem at h
    split at h
    · cases h
    obtain ⟨project,-,h⟩ := bind_eq_some_iff.mp h
    split at h
    · cases h
    simp only at h
    split at h
    · cases h
    · next hclaim =>
      split at h <;> cases h <;> exact claim_continues hclaim
  | settleFailure id now =>
    obtain ⟨task,-,h⟩ := bind_eq_some_iff.mp h
    unfold settleFailure at h
    split at h
    · obtain ⟨project,-,h⟩ := bind_eq_some_iff.mp h
      obtain ⟨terminal,-,rfl⟩ := map_eq_some_iff.mp h
      exact settleAndDeliver_continues host s _ _ _ _
    · cases h
  | deliver command matrixEventId now =>
    simp only [step,deliver] at h
    split at h
    · next hdelivered =>
      cases h
      exact markTerminalDelivered_continues hdelivered
    · cases h
  | reopen =>
    cases h
    obtain ⟨t,he,hj,-⟩ := foldl_scheduleExecution host s.deferredUpdateCommands.values
      { s with updateDrainState := .opened, deferredUpdateCommands := .empty }
    rw [reopen,he,hj]
    exact .refl _
  | _ =>
    -- The other actions leave the journal alone.
    have hj : s'.journal = s.journal := by
      simp only [step,start,finalizeProjectDeletion,updateSessions,enter,execute,beginAgentDispatch,
        cancelPrompt,complete,throw,expire,endLate,fail,lookUpDeletion,bind_eq_some_iff,map_eq_some_iff] at h
      grind [stoppedOver,finishTask,setPhase,replaceTask,bind_eq_some_iff,map_eq_some_iff]
    rw [hj]
    exact .refl _

/-- Over every run, crashes and restarts included, no row is lost, rewritten or taken back, and every answer and
its carrier are final. -/
theorem answers_are_final {actions : List Action} (h : s.run host actions = some s') :
    Continues s.journal s'.journal := by
  induction actions generalizing s with
  | nil =>
    cases h
    exact .refl _
  | cons action actions ih =>
    obtain ⟨s'',hs,h⟩ := bind_eq_some_iff.mp h
    exact (step_continues hs).trans (ih h)

end State

def renameAnswered : CommandRecord where
  command := renameFirst
  roomId := some "!project:home"
  matrixEventId := some "$1"
  acceptedAt := 1
  progress := .terminal (some 1) 2 (compactDeliveredTerminal ⟨.succeeded,"answer",none,none,none,none,none,false,none⟩)
    (some ⟨"$2",2⟩)

set_option maxRecDepth 100000 in
theorem answers_are_final_rename :
    ∃ s ∈ (stoppedOver (CommandJournal.empty.put renameAnswered) [] []).run sampleHost
        [.start sampleProjects,.receive (sampleIncoming "$3" renameFirst) 3,.handle 3,.crash],
      Continues (CommandJournal.empty.put renameAnswered) s.journal := by
  have hrun := (some_get (x := (stoppedOver (CommandJournal.empty.put renameAnswered) [] []).run sampleHost
    [.start sampleProjects,.receive (sampleIncoming "$3" renameFirst) 3,.handle 3,.crash]) (by decide)).symm
  exact ⟨_,hrun,State.answers_are_final hrun⟩

end Malink.Gateway
