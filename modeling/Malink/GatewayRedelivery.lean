import Malink.GatewayFailure

/-!
# Redelivery of a command in flight

A copy of a command whose row is dispatched, or accepted with a live task, should only be reconciled. The handler
first asks whether the project is being deleted and what the policy allows.
-/

namespace Malink.Gateway

open Mlp3 CommandJournal Option
open JsString (within)

def Action.isReceive : Action → Bool
  | receive _ _ => true
  | _ => false

variable {now : ℕ}

namespace State

variable {host : Host} {s s' : State}

/-- The row of a command is left alone, and no execution of anything is scheduled, now or for later. -/
structure Neutral (key : CommandKey) (s s' : State) : Prop where
  row : s'.journal.row key = s.journal.row key
  tasks : s'.tasks = s.tasks
  deferred : s'.deferredUpdateCommands = s.deferredUpdateCommands

instance (key : CommandKey) (s s' : State) : Decidable (Neutral key s s') :=
  decidable_of_iff (s'.journal.row key = s.journal.row key ∧ s'.tasks = s.tasks ∧
    s'.deferredUpdateCommands = s.deferredUpdateCommands)
    ⟨fun ⟨h,h',h''⟩ => ⟨h,h',h''⟩,fun h => ⟨h.row,h.tasks,h.deferred⟩⟩

/-- A run in which the steps of the handler are neutral for a command, whatever else takes place between
them. -/
def NeutralRun (host : Host) (key : CommandKey) (s : State) : List Action → Prop
  | [] => True
  | action :: actions => ∀ s' ∈ s.step host action,
      (action.isHandling → Neutral key s s') ∧ NeutralRun host key s' actions

/-- The condition on the state before a step of the handler. When it decides, it has read the record as
dispatched, or the task is still active, or the command is deferred already, or it is turned away because its
project is being deleted or its device lacks the right. When it then settles the command, the row has become terminal, an expired
execution holds the terminal back, or the event does not pass its schema. -/
def isUndisturbed (host : Host) (s : State) : Action → Bool
  | .handle _ =>
    match s.handler with
    | .claimed roomId command claim rejection =>
      decide (claim.record.status = .dispatched) || s.activeCommands.has (commandKey command) ||
        rejection.isSome || (s.project roomId).any (·.deletingCommandId.isSome) ||
        (decide (s.updateDrainState = .sealed) &&
          decide (s.deferredUpdateCommands.get (commandKey command) = some (roomId,claim.record)))
    | _ => true
  | .settleHandled now =>
    match s.handler with
    | .failing roomId command =>
      decide (s.journal.status (mlp3CommandKey command) = some .terminal) ||
        decide (commandKey command ∈ s.expiredCommandExecutions) ||
        !(isTimestamp now && (s.project roomId).all (isTurnReportable host · command))
    | .rejecting _ command _ =>
      decide (s.journal.status (mlp3CommandKey command) = some .terminal) ||
        decide (commandKey command ∈ s.expiredCommandExecutions) || !isTimestamp now
    | _ => true
  | _ => true

def UndisturbedRun (host : Host) (s : State) : List Action → Prop
  | [] => True
  | action :: actions => ∀ s' ∈ s.step host action,
      isUndisturbed host s action ∧ UndisturbedRun host s' actions

/-- The handler is busy with one command, at most. -/
structure Handles (host : Host) (s : State) (command : Command) : Prop where
  valid : commandSchema host.schemas command
  row : ∃ row, s.journal.row (mlp3CommandKey command) = some row ∧ row.command = command
  claimed : ∀ {roomId : JsString} {command' : Command} {claim : Claim} {rejection : Option Rejection},
    s.handler = .claimed roomId command' claim rejection → command' = command ∧
      claim.record.status ≠ .terminal ∧ ∀ r ∈ rejection, within r.code 1 128 ∧
        within r.message 1 8192
  failing : ∀ {roomId : JsString} {command' : Command}, s.handler = .failing roomId command' →
    command' = command
  rejecting : ∀ {roomId : JsString} {command' : Command} {r : Rejection},
    s.handler = .rejecting roomId command' r → command' = command ∧
      within r.code 1 128 ∧ within r.message 1 8192

variable {command : Command}

theorem row_of_advances {journal journal' : CommandJournal} (hj : Advances journal journal')
    (h : ∃ row,journal.row (mlp3CommandKey command) = some row ∧ row.command = command) :
    ∃ row, journal'.row (mlp3CommandKey command) = some row ∧ row.command = command := by
  obtain ⟨row,hrow,hc⟩ := h
  obtain ⟨row',hrow',hc',-⟩ := hj _ row hrow
  exact ⟨row',hrow',hc'.trans hc⟩

theorem handles_of_idle (valid : commandSchema host.schemas command)
    (row : ∃ row,s.journal.row (mlp3CommandKey command) = some row ∧ row.command = command)
    (idle : s.handler = .idle) : Handles host s command where
  valid := valid
  row := row
  claimed h := by
    rw [idle] at h
    cases h
  failing h := by
    rw [idle] at h
    cases h
  rejecting h := by
    rw [idle] at h
    cases h

theorem decision_cases (s : State) (project : ProjectRuntime) (command : Command) {record : CommandRecord}
    (rejection : Option Rejection) (hne : record.status ≠ .terminal) :
    (s.decision project command record rejection = .ignore ∧
        (record.status = .dispatched ∨ s.activeCommands.has (commandKey command))) ∨
      (s.decision project command record rejection = .fail ∧ project.deletingCommandId.isSome) ∨
      (∃ r,rejection = some r ∧ s.decision project command record rejection = .reject r) ∨
      (record.status ≠ .dispatched ∧ s.activeCommands.has (commandKey command) = false ∧ rejection = none ∧
        project.deletingCommandId.isSome = false ∧ s.decision project command record rejection =
          if s.updateDrainState = .sealed then .defer else .schedule) := by
  unfold decision
  rw [if_neg hne]
  cases hdelete : project.deletingCommandId.isSome with
  | true => exact .inr (.inl ⟨by simp,rfl⟩)
  | false =>
    simp only [Bool.false_eq_true,if_false]
    cases rejection with
    | some r =>
      by_cases hd : record.status = .dispatched
      · exact .inl ⟨by simp [hd],.inl hd⟩
      · exact .inr (.inr (.inl ⟨r,rfl,by simp [hd]⟩))
    | none =>
      by_cases hd : record.status = .dispatched ∨ s.activeCommands.has (commandKey command)
      · exact .inl ⟨by simp [hd],hd⟩
      · have hn := not_or.mp hd
        exact .inr (.inr (.inr ⟨hn.1,Bool.not_eq_true _ ▸ hn.2,rfl,trivial,by simp only [hd,if_false]⟩))

/-- A map that already has an entry is not changed by writing it again. -/
theorem deferred_set_eq_self {map : InsertionMap JsString (JsString × CommandRecord)} {key : JsString}
    {e : JsString × CommandRecord} : map.set key e = map ↔ map.get key = some e := by
  constructor
  · intro h
    rw [← h,InsertionMap.get_set_self]
  · exact InsertionMap.set_eq_self

theorem handle_neutral_iff (hh : Handles host s command) (h : s.handle host now = some s') :
    Neutral (mlp3CommandKey command) s s' ↔ isUndisturbed host s (.handle now) := by
  unfold handle at h
  split at h
  · next roomId command' claim rejection hhandler =>
    obtain ⟨project,hproject,rfl⟩ := map_eq_some_iff.mp h
    obtain ⟨rfl,hne,-⟩ := hh.claimed hhandler
    simp only [isUndisturbed,hhandler,hproject,any_some]
    rcases decision_cases s project command' rejection hne with
      ⟨hd,hcase⟩ | ⟨hd,hcase⟩ | ⟨r,rfl,hd⟩ | ⟨hdispatched,hactive,rfl,hdelete,hd⟩
    · simp only [hd]
      refine ⟨fun _ => ?_,fun _ => ⟨rfl,rfl,rfl⟩⟩
      rcases hcase with hcase | hcase <;> simp [hcase]
    · simp only [hd]
      exact ⟨fun _ => by simp [hcase],fun _ => ⟨rfl,rfl,rfl⟩⟩
    · simp only [hd]
      exact ⟨fun _ => by simp,fun _ => ⟨rfl,rfl,rfl⟩⟩
    · simp only [hd]
      by_cases hsealed : s.updateDrainState = .sealed
      · simp only [hsealed,if_true,hdispatched,hactive,hdelete,decide_false,decide_true,
          isSome_none,Bool.or_self,Bool.false_or,Bool.true_and,decide_eq_true_eq]
        rw [← deferred_set_eq_self]
        exact ⟨fun hn => hn.deferred,fun he => ⟨rfl,rfl,he⟩⟩
      · simp only [hsealed,if_false,hdispatched,hactive,hdelete,decide_false,isSome_none,
          Bool.or_self,Bool.false_and,Bool.false_eq_true,iff_false]
        intro hn
        have hlength := congrArg List.length hn.tasks
        simp [scheduleExecution] at hlength
  · cases h

theorem neutral_settleAndDeliver_iff {terminal : Terminal} {handler : Handler}
    (hrow : ∃ row,s.journal.row (mlp3CommandKey command) = some row ∧ row.command = command) :
    Neutral (mlp3CommandKey command) s
        ({ s with handler }.settleAndDeliver host command terminal false now) ↔
      s.journal.status (mlp3CommandKey command) = some .terminal ∨ ¬ s.Settles host command terminal false := by
  obtain ⟨row,hrow,hc⟩ := hrow
  have hstatus : s.journal.status (mlp3CommandKey command) = some row.status := by
    rw [status,hrow,map_some]
  rw [hstatus,some.injEq]
  constructor
  · intro hn
    by_contra hcontra
    rw [not_or,not_not] at hcontra
    have hterminal := status_settleAndDeliver (s := { s with handler }) now hrow hc hcontra.2 hcontra.1
    rw [status,hn.row,hrow,map_some] at hterminal
    exact hcontra.1 (some.inj hterminal)
  · intro hkeep
    obtain ⟨journal,-,he⟩ := settleAndDeliver_eq host { s with handler } command terminal false now
    refine ⟨?_,by rw [he],by rw [he]⟩
    rw [row_settleAndDeliver (s := { s with handler }) hrow hkeep,hrow]

theorem settleHandled_neutral_iff (hh : Handles host s command) (h : s.settleHandled host now = some s') :
    Neutral (mlp3CommandKey command) s s' ↔ isUndisturbed host s (.settleHandled now) := by
  unfold settleHandled at h
  split at h
  · next roomId command' hhandler =>
    obtain rfl := hh.failing hhandler
    simp only [bind_eq_some_iff,map_eq_some_iff] at h
    obtain ⟨project,hproject,terminal,hterminal,rfl⟩ := h
    have hvalid : isMlp3CommandTerminal host.schemas terminal =
        (isTimestamp now && isTurnReportable host project command') := by
      have hmessage : within "This project is being deleted and no longer accepts commands" 1 8192 = true := by decide
      cases hterminal
      rw [isMlp3CommandTerminal_failure hh.valid,hmessage,Bool.and_true]
    rw [neutral_settleAndDeliver_iff hh.row]
    simp only [isUndisturbed,hhandler,hproject,all_some,Settles,hvalid,Bool.or_eq_true,
      decide_eq_true_eq,Bool.not_eq_true',Bool.false_eq_true,or_false,not_and,Bool.not_eq_true]
    tauto
  · next roomId command' rejection hhandler =>
    obtain ⟨rfl,hcode,hmessage⟩ := hh.rejecting hhandler
    obtain ⟨project,hproject,rfl⟩ := map_eq_some_iff.mp h
    rw [neutral_settleAndDeliver_iff hh.row]
    simp only [isUndisturbed,hhandler,Settles,isMlp3CommandTerminal_rejection hh.valid project hcode hmessage,
      Bool.or_eq_true,decide_eq_true_eq,Bool.not_eq_true',Bool.false_eq_true,or_false,not_and,Bool.not_eq_true]
    tauto
  · cases h

theorem Handles.handle (hh : Handles host s command) (h : s.handle host now = some s') : Handles host s' command := by
  have hrow := row_of_advances (handle_transition h).journal.advances hh.row
  unfold State.handle at h
  split at h
  · next roomId command' claim rejection hhandler =>
    obtain ⟨project,hproject,rfl⟩ := map_eq_some_iff.mp h
    obtain ⟨rfl,hne,hbounds⟩ := hh.claimed hhandler
    rcases decision_cases s project command' rejection hne with
      ⟨hd,-⟩ | ⟨hd,-⟩ | ⟨r,rfl,hd⟩ | ⟨-,-,-,-,hd⟩
    · simp only [hd] at hrow ⊢
      exact handles_of_idle hh.valid hrow rfl
    · simp only [hd] at hrow ⊢
      exact ⟨hh.valid,hrow,fun hc => (nomatch hc),fun hc => (Handler.failing.inj hc).2.symm,
        fun hc => (nomatch hc)⟩
    · simp only [hd] at hrow ⊢
      refine ⟨hh.valid,hrow,fun hc => (nomatch hc),fun hc => (nomatch hc),fun hc => ?_⟩
      cases hc
      exact ⟨rfl,hbounds r rfl⟩
    · simp only [hd] at hrow ⊢
      by_cases hsealed : s.updateDrainState = .sealed
      · simp only [hsealed,if_true] at hrow ⊢
        exact handles_of_idle hh.valid hrow rfl
      · simp only [hsealed,if_false] at hrow ⊢
        exact handles_of_idle hh.valid hrow rfl
  · cases h

theorem handler_settleHandled (h : s.settleHandled host now = some s') : s'.handler = .idle := by
  have key : ∀ command terminal,({ s with handler := .idle }.settleAndDeliver host command terminal
      false now).handler = .idle := by
    intro command terminal
    obtain ⟨journal,-,he⟩ := settleAndDeliver_eq host { s with handler := .idle } command terminal false now
    rw [he]
  unfold settleHandled at h
  split at h
  · simp only [bind_eq_some_iff,map_eq_some_iff] at h
    obtain ⟨project,-,terminal,-,rfl⟩ := h
    exact key _ _
  · obtain ⟨project,-,rfl⟩ := map_eq_some_iff.mp h
    exact key _ _
  · cases h

theorem Handles.step {action : Action} (hh : Handles host s command) (h : s.step host action = some s')
    (hr : action.isReceive = false) : Handles host s' command := by
  have he := step_effect h
  have hrow := row_of_advances he.journal hh.row
  cases hhandling : action.isHandling with
  | false =>
    rcases he.handler hhandling with hsame | hidle
    · exact ⟨hh.valid,hrow,fun hc => hh.claimed (hsame ▸ hc),fun hc => hh.failing (hsame ▸ hc),
        fun hc => hh.rejecting (hsame ▸ hc)⟩
    · exact handles_of_idle hh.valid hrow hidle
  | true =>
    cases action with
    | receive incoming now => cases hr
    | handle now => exact hh.handle h
    | settleHandled now => exact handles_of_idle hh.valid hrow (handler_settleHandled h)
    | _ => cases hhandling

theorem neutral_step_iff {action : Action} (hh : Handles host s command) (h : s.step host action = some s')
    (hr : action.isReceive = false) : (action.isHandling → Neutral (mlp3CommandKey command) s s') ↔
      isUndisturbed host s action := by
  cases action with
  | receive incoming now => cases hr
  | handle now =>
    rw [← handle_neutral_iff hh h]
    exact ⟨fun hn => hn rfl,fun hn _ => hn⟩
  | settleHandled now =>
    rw [← settleHandled_neutral_iff hh h]
    exact ⟨fun hn => hn rfl,fun hn _ => hn⟩
  | _ => exact ⟨fun _ => rfl,fun _ hc => nomatch hc⟩

theorem neutralRun_iff {actions : List Action} (hh : Handles host s command)
    (hr : ∀ action ∈ actions,action.isReceive = false) :
    NeutralRun host (mlp3CommandKey command) s actions ↔ UndisturbedRun host s actions := by
  induction actions generalizing s with
  | nil => exact Iff.rfl
  | cons action actions ih =>
    have hfirst := hr action (List.mem_cons_self ..)
    have hrest := fun a ha => hr a (List.mem_cons_of_mem _ ha)
    unfold NeutralRun UndisturbedRun
    cases hs : s.step host action with
    | none => simp
    | some s' =>
      simp only [mem_some,forall_eq']
      rw [neutral_step_iff hh hs hfirst,ih (hh.step hs hfirst) hrest]

theorem receive_handles {incoming : Incoming} {row : CommandRecord}
    (hrow : s.journal.row (mlp3CommandKey incoming.command) = some row) (hc : row.command = incoming.command)
    (hne : row.status ≠ .terminal) (h : s.receive host incoming now = some s') :
    Neutral (mlp3CommandKey incoming.command) s s' ∧ Handles host s' incoming.command := by
  unfold receive at h
  split at h
  · cases h
  · obtain ⟨project,-,h⟩ := bind_eq_some_iff.mp h
    split at h
    · cases h
    · next hverified =>
      have hvalid : commandSchema host.schemas incoming.command := by
        simp only [isVerified,Bool.not_eq_true',Bool.not_eq_false,Bool.and_eq_true] at hverified
        tauto
      have hclaim : s.journal.claim incoming.command now
          (some ⟨incoming.roomId,incoming.matrixEventId⟩) = .ok (⟨.duplicate,row⟩,s.journal) := by
        simp only [claim,hrow,ne_eq,hc,not_true_eq_false,if_false]
      simp only [hclaim,some.injEq] at h
      subst h
      refine ⟨⟨rfl,rfl,rfl⟩,hvalid,⟨row,hrow,hc⟩,fun hhandler => ?_,fun hhandler => (nomatch hhandler),
        fun hhandler => (nomatch hhandler)⟩
      cases hhandler
      exact ⟨rfl,hne,fun r hr => within_of_authorize hr⟩

/-- A copy of a command in flight is handled neutrally, whatever else takes place meanwhile, exactly when every
step of the handler is undisturbed. -/
theorem redelivery_neutral_iff {incoming : Incoming} {now : ℕ} {actions : List Action} {row : CommandRecord}
    (hrow : s.journal.row (mlp3CommandKey incoming.command) = some row) (hc : row.command = incoming.command)
    (hstatus : row.status = .dispatched ∨
      row.status = .accepted ∧ s.activeCommands.has (commandKey incoming.command) = true)
    (hr : ∀ action ∈ actions,action.isReceive = false) :
    NeutralRun host (mlp3CommandKey incoming.command) s (.receive incoming now :: actions) ↔
      UndisturbedRun host s (.receive incoming now :: actions) := by
  have hne : row.status ≠ .terminal := by
    rcases hstatus with h | ⟨h,-⟩ <;> rw [h] <;> decide
  unfold NeutralRun UndisturbedRun
  refine forall₂_congr fun s' hs' => ?_
  obtain ⟨hneutral,hh⟩ := receive_handles hrow hc hne hs'
  rw [neutralRun_iff hh hr]
  exact and_congr_left fun _ => ⟨fun _ => rfl,fun _ _ => hneutral⟩

def decidableNeutralRun (host : Host) (key : CommandKey) (s : State) :
    (actions : List Action) → Decidable (NeutralRun host key s actions)
  | [] => isTrue trivial
  | action :: actions =>
    have : ∀ s',Decidable (NeutralRun host key s' actions) := fun s' => decidableNeutralRun host key s' actions
    inferInstanceAs (Decidable (∀ s' ∈ s.step host action,_ ∧ _))

instance (key : CommandKey) (s : State) (actions : List Action) : Decidable (NeutralRun host key s actions) :=
  decidableNeutralRun host key s actions

def decidableUndisturbedRun (host : Host) (s : State) :
    (actions : List Action) → Decidable (UndisturbedRun host s actions)
  | [] => isTrue trivial
  | action :: actions =>
    have : ∀ s',Decidable (UndisturbedRun host s' actions) := fun s' => decidableUndisturbedRun host s' actions
    inferInstanceAs (Decidable (∀ s' ∈ s.step host action,_ ∧ _))

instance (s : State) (actions : List Action) : Decidable (UndisturbedRun host s actions) :=
  decidableUndisturbedRun host s actions

end State

/-- The rename is under way, and a project.delete waits for it. -/
def deletionQueued : List Action :=
  renameUnderWay ++ [.receive (sampleIncoming "$2" (sampleCommand "delete-1" none .projectDelete)) 2,.handle 2]

def reached (actions : List Action) : State :=
  ((stoppedOver .empty [] []).run sampleHost actions).getD (stoppedOver .empty [] [])

set_option maxRecDepth 100000 in
theorem redelivery_neutral_iff_underWay :
    State.NeutralRun sampleHost (mlp3CommandKey renameFirst) (reached renameUnderWay)
      [.receive (sampleIncoming "$3" renameFirst) 3,.handle 3,.complete 0] :=
  (@State.redelivery_neutral_iff sampleHost (reached renameUnderWay) (sampleIncoming "$3" renameFirst) 3
    [.handle 3,.complete 0]
    (((reached renameUnderWay).journal.row (mlp3CommandKey renameFirst)).get (by decide))
    (by decide) (by decide) (by decide) (by decide)).mpr (by decide)

set_option maxRecDepth 100000 in
/-- A copy that arrives while the deletion of its project is queued settles the running command as failed. -/
theorem redelivery_not_neutral :
    ¬ ∀ (host : Host) (s : State) (incoming : Incoming) (now : ℕ) (actions : List Action)
        (row : CommandRecord), s.journal.row (mlp3CommandKey incoming.command) = some row →
      row.command = incoming.command →
      (row.status = .dispatched ∨ row.status = .accepted ∧ s.activeCommands.has (commandKey incoming.command) = true) →
      (∀ action ∈ actions,action.isReceive = false) →
      State.NeutralRun host (mlp3CommandKey incoming.command) s (.receive incoming now :: actions) := by
  intro h
  have hneutral := h sampleHost (reached deletionQueued) (sampleIncoming "$3" renameFirst) 3
    [.handle 3,.settleHandled 3]
    (((reached deletionQueued).journal.row (mlp3CommandKey renameFirst)).get (by decide))
    (by decide) (by decide) (by decide) (by decide)
  exact absurd hneutral (by decide)

end Malink.Gateway
