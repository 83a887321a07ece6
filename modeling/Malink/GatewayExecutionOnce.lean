import Malink.GatewaySteps

/-!
# Commands are executed once

The runner admits a command while its row is accepted and no task of it is alive. As long as that is so at every step
that schedules, and the recovery reads the journal before a command is under way, no body begins twice.
-/

namespace Malink.Gateway

open Mlp3 CommandJournal Option

variable {key : CommandKey} {action : Action}

namespace State

variable {host : Host} {s s' : State}

def Spent (s : State) (key : CommandKey) : Prop := ∃ row, s.journal.row key = some row ∧ row.status ≠ .accepted

/-- The starts of every command: a row that is no longer accepted spends it. -/
def ledger (s : State) : OnceLedger CommandKey where
  spent := s.Spent
  pending := pendingCount s.tasks
  begun := fun key => s.begun.count key

/-- A batch archive or one of its items, which a later process resumes. -/
def isResumable (s : State) (key : CommandKey) : Bool :=
  decide (key ∈ s.batchChildren) ||
    (s.journal.row key).any (fun row => decide (row.command.operation = .sessionArchiveBatch))

/-- No body has begun twice, and the recovery has interrupted no command of its own process. -/
def ExecutedOnce (s : State) : Prop :=
  (∀ key,s.isResumable key = false → s.begun.count key ≤ 1) ∧
    ∀ key ∈ s.interruptedHere, key ∉ s.dispatchedHere

/-- The condition on the state before a step: whatever is scheduled is accepted and has no task, and the
unfinished rows are read while none of them is under way in this process. -/
def Timely (host : Host) (s : State) (action : Action) : Prop :=
  (∀ record ∈ scheduledBy host s action,s.isResumable (mlp3CommandKey record.command) = false →
    s.journal.status (mlp3CommandKey record.command) = some .accepted ∧
      ∀ task ∈ s.tasks,mlp3CommandKey task.command ≠ mlp3CommandKey record.command) ∧
  (action = .readUnfinished → ∀ key ∈ s.dispatchedHere,s.journal.status key = some .dispatched →
    (s.journal.row key).any (fun row => decide (row.command.operation = .sessionArchiveBatch)))

instance (s : State) (action : Action) : Decidable (Timely host s action) := inferInstanceAs (Decidable (_ ∧ _))

def TimelyRun (host : Host) (s : State) : List Action → Prop
  | [] => True
  | action :: actions => Timely host s action ∧ ∀ s' ∈ s.step host action, TimelyRun host s' actions

def decidableTimelyRun (host : Host) (s : State) :
    (actions : List Action) → Decidable (TimelyRun host s actions)
  | [] => isTrue trivial
  | _ :: actions =>
    have : ∀ s',Decidable (TimelyRun host s' actions) := fun s' => decidableTimelyRun host s' actions
    inferInstanceAs (Decidable (_ ∧ _))

instance (s : State) (actions : List Action) : Decidable (TimelyRun host s actions) := decidableTimelyRun host s actions

structure OnceInvariant (s : State) : Prop where
  keyed : s.Keyed
  sound : ∀ key, s.isResumable key = false → s.ledger.Sound key
  dispatched : ∀ t ∈ s.tasks, t.phase = .dispatched → s.Spent (mlp3CommandKey t.command)
  recovery : ∀ r ∈ s.recoveryRecords, r.status ≠ .accepted → r.command.operation ≠ .sessionArchiveBatch →
    s.Spent (mlp3CommandKey r.command) ∧ mlp3CommandKey r.command ∉ s.dispatchedHere
  interrupted : ∀ key ∈ s.interruptedHere,
    s.journal.status key = some .terminal ∧ key ∉ s.dispatchedHere

theorem spent_of_advances (h : Advances s.journal s'.journal) (hs : s.Spent key) : s'.Spent key := by
  obtain ⟨row,hrow,hne⟩ := hs
  obtain ⟨row',hrow',-,hr⟩ := h key row hrow
  refine ⟨row',hrow',fun hc => ?_⟩
  rw [hc] at hr
  cases hst : row.status with
  | accepted => exact hne hst
  | dispatched | terminal => rw [hst] at hr; exact absurd hr (by decide)

theorem terminal_of_advances {journal journal' : CommandJournal} (h : Advances journal journal')
    (hs : journal.status key = some .terminal) : journal'.status key = some .terminal := by
  obtain ⟨row,hrow,hst⟩ := map_eq_some_iff.mp hs
  obtain ⟨row',hrow',-,hr⟩ := h key row hrow
  rw [hst] at hr
  cases hst' : row'.status with
  | accepted | dispatched => rw [hst'] at hr; exact absurd hr (by decide)
  | terminal => rw [status,hrow',map_some,hst']

theorem not_spent_of_accepted (h : s.journal.status key = some .accepted) : ¬ s.Spent key := by
  rintro ⟨row,hrow,hne⟩
  rw [status,hrow] at h
  exact hne (some.inj h)

theorem isResumable_of_effect (h : Effect host s action s')
    (hs : s'.isResumable key = false) : s.isResumable key = false := by
  rw [isResumable,Bool.or_eq_false_iff,decide_eq_false_iff_not] at hs ⊢
  refine ⟨fun hc => hs.1 (h.children hc),?_⟩
  cases hrow : s.journal.row key with
  | none => rfl
  | some row =>
    obtain ⟨row',hrow',hc,-⟩ := h.journal key row hrow
    rw [hrow'] at hs
    simpa only [any_some,hc] using hs.2

theorem recordCount_deferred_le_one (h : s.Keyed) (key : CommandKey) :
    recordCount (s.deferredUpdateCommands.values.map Prod.snd) key ≤ 1 := by
  have hkey : ∀ e ∈ s.deferredUpdateCommands.entries,mlp3CommandKey e.2.2.command = key →
      e.1 = key.deviceId ++ nul ++ key.certificateId ++ nul ++ key.commandId := by
    rintro ⟨k,e⟩ he rfl
    exact (h.deferred (InsertionMap.get_eq_some.mpr he)).symm
  calc recordCount (s.deferredUpdateCommands.values.map Prod.snd) key
      = s.deferredUpdateCommands.entries.countP
          (fun e => decide (mlp3CommandKey e.2.2.command = key)) := by
        rw [recordCount,InsertionMap.values,List.countP_map,List.countP_map]
        rfl
    _ ≤ s.deferredUpdateCommands.entries.countP (fun e => e.1 ==
          key.deviceId ++ nul ++ key.certificateId ++ nul ++ key.commandId) := by
        apply List.countP_mono_left
        intro e he hp
        exact beq_iff_eq.mpr (hkey e he (of_decide_eq_true hp))
    _ = (s.deferredUpdateCommands.entries.map Prod.fst).count
          (key.deviceId ++ nul ++ key.certificateId ++ nul ++ key.commandId) := by
        rw [List.count,List.countP_map]
        rfl
    _ ≤ 1 := List.nodup_iff_count_le_one.mp s.deferredUpdateCommands.nodup_keys _

theorem recordCount_singleton_le_one (record : CommandRecord) (key : CommandKey) : recordCount [record] key ≤ 1 := by
  rw [recordCount,List.countP_singleton]
  split <;> decide

theorem recordCount_scheduledBy_le_one (host : Host) (h : s.Keyed) (action : Action) (key : CommandKey) :
    recordCount (scheduledBy host s action) key ≤ 1 := by
  unfold scheduledBy
  split
  · split
    · split
      · exact recordCount_singleton_le_one _ key
      · exact Nat.zero_le 1
    · exact Nat.zero_le 1
  · split
    · split
      · exact recordCount_singleton_le_one _ key
      · exact Nat.zero_le 1
    · exact Nat.zero_le 1
  · exact recordCount_deferred_le_one h key
  · exact Nat.zero_le 1

/-- A timely step does to every command what a ledger allows. -/
theorem change_of_effect (hi : s.OnceInvariant) (he : Effect host s action s')
    (ht : Timely host s action) (hr : s'.isResumable key = false) : OnceLedger.Change s.ledger s'.ledger key := by
  have keep : s'.begun = s.begun → pendingCount s'.tasks key ≤ pendingCount s.tasks key →
      OnceLedger.Change s.ledger s'.ledger key := fun hb hp =>
    .keep (by simp only [ledger,hb]) hp
  cases he.work with
  | restart tasks begun dispatchedHere interruptedHere =>
    exact keep begun (by rw [tasks]; exact Nat.zero_le _)
  | quiet tasks ghosts => exact keep ghosts.begun (tasks.pending key)
  | schedule pending dispatched ghosts =>
    by_cases hcount : recordCount (scheduledBy host s action) key = 0
    · exact keep ghosts.begun (by rw [pending,hcount,Nat.add_zero])
    · obtain ⟨record,hrecord,hk⟩ := List.countP_pos_iff.mp (Nat.pos_of_ne_zero hcount)
      obtain rfl := of_decide_eq_true hk
      obtain ⟨haccepted,htasks⟩ := ht.1 record hrecord (isResumable_of_effect he hr)
      have hfree := pendingCount_eq_zero htasks
      refine .enqueue (not_spent_of_accepted haccepted) hfree (by simp only [ledger,ghosts.begun]) ?_
      have hone := recordCount_scheduledBy_le_one host hi.keyed action (mlp3CommandKey record.command)
      simp only [ledger,pending,hfree]
      omega
  | child child hchild pending dispatched ghosts =>
    refine keep ghosts.begun (le_of_eq (pending key ?_))
    rintro rfl
    rw [isResumable,Bool.or_eq_false_iff,decide_eq_false_iff_not] at hr
    exact hr.1 hchild
  | mark task pending dispatched status begun interruptedHere dispatchedHere =>
    exact keep begun (pending key)
  | begin task mem phase pending fewer dispatched begun dispatchedHere interruptedHere =>
    by_cases hk : mlp3CommandKey task.command = key
    · subst hk
      refine .start (spent_of_advances he.journal (hi.dispatched task mem phase)) ?_ fewer
      simp only [ledger,begun,List.count_cons_self]
    · refine .keep ?_ (pending key)
      simp only [ledger,begun]
      exact List.count_cons_of_ne hk
  | interrupt record mem snapshot operation status tasks begun dispatchedHere interruptedHere =>
    exact keep begun (by rw [tasks])

theorem dispatched_of_effect (hi : s.OnceInvariant) (he : Effect host s action s') :
    ∀ t ∈ s'.tasks, t.phase = .dispatched → s'.Spent (mlp3CommandKey t.command) := by
  have old : NoNewDispatched s.tasks s'.tasks →
      ∀ t ∈ s'.tasks, t.phase = .dispatched → s'.Spent (mlp3CommandKey t.command) := by
    intro hn t' ht' hp'
    obtain ⟨t,ht,hp,hc⟩ := hn t' ht' hp'
    rw [← hc]
    exact spent_of_advances he.journal (hi.dispatched t ht hp)
  cases he.work with
  | restart tasks begun dispatchedHere interruptedHere =>
    intro t ht
    rw [tasks] at ht
    cases ht
  | quiet tasks ghosts => exact old tasks.dispatched
  | schedule pending dispatched ghosts => exact old dispatched
  | child child hchild pending dispatched ghosts => exact old dispatched
  | mark task pending dispatched status begun interruptedHere dispatchedHere =>
    intro t' ht' hp'
    rcases dispatched t' ht' hp' with hc | ⟨t,ht,hp,hc⟩
    · rw [hc]
      exact status
    · rw [← hc]
      exact spent_of_advances he.journal (hi.dispatched t ht hp)
  | begin task mem phase pending fewer dispatched begun dispatchedHere interruptedHere =>
    exact old dispatched
  | interrupt record mem snapshot operation status tasks begun dispatchedHere interruptedHere =>
    exact old (tasks ▸ (NoNewWork.refl _).dispatched)

theorem not_mem_dispatchedHere (he : Effect host s action s')
    (hs : s.Spent key) (hn : key ∉ s.dispatchedHere) : key ∉ s'.dispatchedHere := by
  cases he.work with
  | restart tasks begun dispatchedHere interruptedHere => simp [dispatchedHere]
  | quiet tasks ghosts => rwa [ghosts.dispatchedHere]
  | schedule pending dispatched ghosts => rwa [ghosts.dispatchedHere]
  | child child hchild pending dispatched ghosts => rwa [ghosts.dispatchedHere]
  | mark task pending dispatched status begun interruptedHere dispatchedHere =>
    rw [dispatchedHere]
    split
    · next haccepted =>
      rw [List.mem_cons,not_or]
      refine ⟨?_,hn⟩
      rintro rfl
      exact not_spent_of_accepted haccepted hs
    · exact hn
  | begin task mem phase pending fewer dispatched begun dispatchedHere interruptedHere => rwa [dispatchedHere]
  | interrupt record mem snapshot operation status tasks begun dispatchedHere interruptedHere =>
    rwa [dispatchedHere]

theorem spent_of_terminal (h : s.journal.status key = some .terminal) : s.Spent key := by
  obtain ⟨row,hrow,hst⟩ := map_eq_some_iff.mp h
  exact ⟨row,hrow,by rw [hst]; decide⟩

theorem recovery_of_effect (hi : s.OnceInvariant) (he : Effect host s action s')
    (ht : Timely host s action) : ∀ r ∈ s'.recoveryRecords, r.status ≠ .accepted →
      r.command.operation ≠ .sessionArchiveBatch →
      s'.Spent (mlp3CommandKey r.command) ∧ mlp3CommandKey r.command ∉ s'.dispatchedHere := by
  intro r hr hne hop
  have hbefore : s.Spent (mlp3CommandKey r.command) ∧ mlp3CommandKey r.command ∉ s.dispatchedHere := by
    rcases he.recovery r hr with hr | ⟨rfl,hr⟩
    · exact hi.recovery r hr hne hop
    · obtain ⟨hrow,hterminal⟩ := mem_unfinished.mp hr
      refine ⟨⟨r,hrow,hne⟩,fun hmem => hop ?_⟩
      have hdispatched : s.journal.status (mlp3CommandKey r.command) = some .dispatched := by
        rw [status,hrow,map_some]
        cases hst : r.status with
        | accepted => exact absurd hst hne
        | dispatched => rfl
        | terminal => exact absurd hst hterminal
      simpa [hrow] using ht.2 rfl _ hmem hdispatched
  exact ⟨spent_of_advances he.journal hbefore.1,not_mem_dispatchedHere he hbefore.1 hbefore.2⟩

theorem interrupted_of_effect (hi : s.OnceInvariant) (he : Effect host s action s') :
    ∀ key ∈ s'.interruptedHere, s'.journal.status key = some .terminal ∧ key ∉ s'.dispatchedHere := by
  have old : s'.interruptedHere = s.interruptedHere →
      ∀ key ∈ s'.interruptedHere, s'.journal.status key = some .terminal ∧ key ∉ s'.dispatchedHere := by
    intro h key hk
    rw [h] at hk
    obtain ⟨hst,hn⟩ := hi.interrupted key hk
    exact ⟨terminal_of_advances he.journal hst,not_mem_dispatchedHere he (spent_of_terminal hst) hn⟩
  cases he.work with
  | restart tasks begun dispatchedHere interruptedHere =>
    intro key hk
    rw [interruptedHere] at hk
    cases hk
  | quiet tasks ghosts => exact old ghosts.interruptedHere
  | schedule pending dispatched ghosts => exact old ghosts.interruptedHere
  | child child hchild pending dispatched ghosts => exact old ghosts.interruptedHere
  | mark task pending dispatched status begun interruptedHere dispatchedHere => exact old interruptedHere
  | begin task mem phase pending fewer dispatched begun dispatchedHere interruptedHere =>
    exact old interruptedHere
  | interrupt record mem snapshot operation status tasks begun dispatchedHere interruptedHere =>
    intro key hk
    rw [interruptedHere,List.mem_cons] at hk
    rcases hk with rfl | hk
    · exact ⟨status,by rw [dispatchedHere]; exact (hi.recovery record mem snapshot operation).2⟩
    · obtain ⟨hst,hn⟩ := hi.interrupted key hk
      exact ⟨terminal_of_advances he.journal hst,by rwa [dispatchedHere]⟩

theorem OnceInvariant.step (hi : s.OnceInvariant) (h : s.step host action = some s')
    (ht : Timely host s action) : s'.OnceInvariant := by
  have he := step_effect h
  refine ⟨he.keyed hi.keyed,fun key hr => ?_,dispatched_of_effect hi he,recovery_of_effect hi he ht,
    interrupted_of_effect hi he⟩
  exact (hi.sound key (isResumable_of_effect he hr)).step (spent_of_advances he.journal) (change_of_effect hi he ht hr)

theorem OnceInvariant.run {actions : List Action} (hi : s.OnceInvariant)
    (h : s.run host actions = some s') (ht : TimelyRun host s actions) : s'.OnceInvariant := by
  induction actions generalizing s with
  | nil =>
    cases h
    exact hi
  | cons action actions ih =>
    obtain ⟨s'',hs,h⟩ := bind_eq_some_iff.mp h
    exact ih (hi.step hs ht.1) h (ht.2 s'' hs)

theorem onceInvariant_stoppedOver (journal : CommandJournal) : (stoppedOver journal [] []).OnceInvariant where
  keyed := ⟨fun hc => (nomatch hc),fun hc => (nomatch hc)⟩
  sound _ _ := ⟨Nat.zero_le 1,fun h => absurd h (Nat.lt_irrefl 0)⟩
  dispatched _ ht := (nomatch ht)
  recovery _ hr := (nomatch hr)
  interrupted _ hk := (nomatch hk)

theorem OnceInvariant.executedOnce (hi : s.OnceInvariant) : s.ExecutedOnce :=
  ⟨fun key hr => (hi.sound key hr).begun_le_one,fun key hk => (hi.interrupted key hk).2⟩

/-- In every run over any journal whose steps are all timely, no body begins twice. -/
theorem executedOnce_of_timely {journal : CommandJournal} {actions : List Action}
    (h : (stoppedOver journal [] []).run host actions = some s)
    (ht : TimelyRun host (stoppedOver journal [] []) actions) : s.ExecutedOnce :=
  ((onceInvariant_stoppedOver journal).run h ht).executedOnce

end State

/-- A rename arrives, is carried out and completed, in a process that has found nothing to recover. -/
def renameRun : List Action :=
  [.start sampleProjects,.readUnfinished,.recoverNext 1,.receive (sampleIncoming "$1" renameFirst) 1,
    .handle 1,.enter 0,.markDispatched 0 1,.execute 0,.complete 0]

set_option maxRecDepth 100000 in
theorem executedOnce_of_timely_rename :
    ∃ s ∈ (stoppedOver .empty [] []).run sampleHost renameRun,
      s.ExecutedOnce ∧ s.begun = [mlp3CommandKey renameFirst] := by
  have hrun : (stoppedOver .empty [] []).run sampleHost renameRun =
      some (((stoppedOver .empty [] []).run sampleHost renameRun).get (by decide)) := by
    rw [some_get]
  exact ⟨_,hrun,State.executedOnce_of_timely hrun (by decide),by decide⟩

/-- The second process reads both rows, and while it settles the first one a copy of the second command
arrives and is carried out. The recovery then schedules it from the row that it has read before. -/
def staleRecoveryRun : List Action :=
  [.start sampleProjects,.receive (sampleIncoming "$1" renameFirst) 1,.handle 1,.enter 0,
    .markDispatched 0 1,.receive (sampleIncoming "$2" renameSecond) 2,.handle 2,.crash,
    .start sampleProjects,.readUnfinished,.receive (sampleIncoming "$3" renameSecond) 3,.handle 3,
    .recoverNext 3,.enter 0,.markDispatched 0 3,.execute 0,.complete 0,.recoverNext 4,.enter 1,
    .markDispatched 1 4,.execute 1]

/-- A command is carried out before the recovery of the same process has read the journal. -/
def earlyCommandRun : List Action :=
  [.start sampleProjects,.receive (sampleIncoming "$1" renameFirst) 1,.handle 1,.enter 0,
    .markDispatched 0 1,.execute 0,.readUnfinished,.recoverNext 2]

set_option maxRecDepth 100000 in
/-- The runner alone guarantees neither: a body begins twice, and a running command is interrupted. -/
theorem runner_not_executedOnce : (¬ ∀ (host : Host) (journal : CommandJournal) (actions : List Action) (s : State),
      (stoppedOver journal [] []).run host actions = some s → ∀ key,s.isResumable key = false → s.begun.count key ≤ 1) ∧
    (¬ ∀ (host : Host) (journal : CommandJournal) (actions : List Action) (s : State),
      (stoppedOver journal [] []).run host actions = some s →
        ∀ key ∈ s.interruptedHere,key ∉ s.dispatchedHere) := by
  constructor
  · intro h
    have hrun : (stoppedOver .empty [] []).run sampleHost staleRecoveryRun =
        some (((stoppedOver .empty [] []).run sampleHost staleRecoveryRun).get (by decide)) := by
      rw [some_get]
    exact absurd (h _ _ _ _ hrun (mlp3CommandKey renameSecond) (by decide)) (by decide)
  · intro h
    have hrun : (stoppedOver .empty [] []).run sampleHost earlyCommandRun =
        some (((stoppedOver .empty [] []).run sampleHost earlyCommandRun).get (by decide)) := by
      rw [some_get]
    exact absurd (by decide) (h _ _ _ _ hrun (mlp3CommandKey renameFirst) (by decide))

end Malink.Gateway
