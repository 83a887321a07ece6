import Malink.GatewaySessionOrder
import Malink.MatrixEventInbox

/-!
# The order of a session over a restart

The recovery schedules the accepted rows by their times of acceptance, and the drain processes the inbox by the times
of receipt.
-/

namespace Malink.Gateway

open Mlp3 CommandJournal List

/-- Two commands that are accepted and not dispatched, the first one before the second. -/
def AcceptedInTurn (journal : CommandJournal) (a b : CommandRecord) : Prop :=
  [a,b].Sublist journal.rows.values ∧ a.status = .accepted ∧ b.status = .accepted

/-- Two commands that came from one room and wait in one chain. -/
def SameSession (host : Host) (a b : CommandRecord) : Prop :=
  ∃ roomId key, a.roomId = some roomId ∧ b.roomId = some roomId ∧
    chainOf host roomId a.command = some key ∧ chainOf host roomId b.command = some key

/-- No command of a session was accepted at a time that puts it before an earlier one. -/
def ClockKeepsSessions (host : Host) (journal : CommandJournal) : Prop :=
  ∀ a b, AcceptedInTurn journal a b → SameSession host a b → acceptedBefore b a = false

/-- The bodies that began since the restart: none of a session after the body of a later command. -/
def BeginsInOrder (host : Host) (journal : CommandJournal) (begun : List CommandKey) (s : State) : Prop :=
  ∃ fresh, s.begun = fresh ++ begun ∧
    ∀ a b, AcceptedInTurn journal a b → SameSession host a b → ∀ after before,
      fresh = after ++ mlp3CommandKey a.command :: before → mlp3CommandKey b.command ∉ before

/-- The states of one process that starts over a journal, whose steps all satisfy a condition. -/
inductive Restarts (host : Host) (allowed : State → Action → Prop) (journal : CommandJournal)
    (begun batchChildren : List CommandKey) : State → Prop
  | start {projects : InsertionMap JsString ProjectRuntime} {s : State} :
      (stoppedOver journal begun batchChildren).start host projects = some s →
      Restarts host allowed journal begun batchChildren s
  | step {s s' : State} (action : Action) : Restarts host allowed journal begun batchChildren s →
      (∀ projects,action ≠ .start projects) → action ≠ .crash → allowed s action →
      s.step host action = some s' → Restarts host allowed journal begun batchChildren s'

/-- Nothing but the recovery schedules a command that the journal held as accepted. -/
def LeavesToRecovery (host : Host) (journal : CommandJournal) (s : State) (action : Action) : Prop :=
  (∀ now,action ≠ .recoverNext now) →
    ∀ key ∈ s.scheduledKeys host action, journal.status key ≠ some .accepted

/-- The records that wait for their event stand in the order of their times of receipt. -/
def ClockKeepsInbox (records : Inbox.Records) : Prop :=
  (records.values.filter Inbox.isPending).Pairwise (fun l r => Inbox.receivedBefore l r = true)

instance (records : Inbox.Records) : Decidable (ClockKeepsInbox records) :=
  inferInstanceAs (Decidable (Pairwise _ _))

theorem textAtMost_total (s t : List Char) : textAtMost s t ∨ textAtMost t s := by
  induction s generalizing t with
  | nil => exact .inl rfl
  | cons a s ih =>
    cases t with
    | nil => exact .inr rfl
    | cons b t =>
      simp only [textAtMost,Bool.or_eq_true,Bool.and_eq_true,decide_eq_true_eq]
      rcases Nat.lt_trichotomy a.toNat b.toNat with hlt | heq | hgt
      · exact .inl (.inl hlt)
      · have hab : a = b := Char.toNat_inj.mp heq
        exact (ih t).imp (fun h => .inr ⟨hab,h⟩) (fun h => .inr ⟨hab.symm,h⟩)
      · exact .inr (.inl hgt)

theorem textAtMost_trans {s t u : List Char} (hst : textAtMost s t) (htu : textAtMost t u) : textAtMost s u := by
  induction s generalizing t u with
  | nil => rfl
  | cons a s ih =>
    cases t with
    | nil => cases hst
    | cons b t =>
      cases u with
      | nil => cases htu
      | cons c u =>
        simp only [textAtMost,Bool.or_eq_true,Bool.and_eq_true,decide_eq_true_eq] at hst htu ⊢
        rcases hst with hab | ⟨rfl,hst⟩
        · rcases htu with hbc | ⟨rfl,-⟩
          · exact .inl (hab.trans hbc)
          · exact .inl hab
        · rcases htu with hbc | ⟨rfl,htu⟩
          · exact .inl hbc
          · exact .inr ⟨rfl,ih hst htu⟩

theorem acceptedBefore_total (r s : CommandRecord) : acceptedBefore r s ∨ acceptedBefore s r := by
  simp only [acceptedBefore,Bool.or_eq_true,Bool.and_eq_true,decide_eq_true_eq]
  rcases Nat.lt_trichotomy r.acceptedAt s.acceptedAt with hlt | heq | hgt
  · exact .inl (.inl hlt)
  · exact (textAtMost_total (mlp3CommandKey r.command).text (mlp3CommandKey s.command).text).imp
      (fun h => .inr ⟨heq,h⟩) (fun h => .inr ⟨heq.symm,h⟩)
  · exact .inr (.inl hgt)

variable {r : CommandRecord} {journal : CommandJournal}

theorem acceptedBefore_trans {s t : CommandRecord} (hrs : acceptedBefore r s)
    (hst : acceptedBefore s t) : acceptedBefore r t := by
  simp only [acceptedBefore,Bool.or_eq_true,Bool.and_eq_true,decide_eq_true_eq] at hrs hst ⊢
  rcases hrs with hrs | ⟨hrs,hkeys⟩
  · rcases hst with hst | ⟨hst,-⟩
    · exact .inl (hrs.trans hst)
    · exact .inl (hst ▸ hrs)
  · rcases hst with hst | ⟨hst,hkeys'⟩
    · exact .inl (hrs ▸ hst)
    · exact .inr ⟨hrs.trans hst,textAtMost_trans hkeys hkeys'⟩

theorem pairwise_unfinished (journal : CommandJournal) :
    journal.unfinished.Pairwise (fun r s => acceptedBefore r s = true) := by
  have : Std.Total fun r s : CommandRecord => acceptedBefore r s = true := ⟨acceptedBefore_total⟩
  have : IsTrans CommandRecord fun r s => acceptedBefore r s = true := ⟨fun _ _ _ => acceptedBefore_trans⟩
  exact pairwise_insertionSort _ _

/-- The order of two rows is that of their acceptances. -/
theorem acceptedBefore_congr {r' s s' : CommandRecord} (hr : r'.command = r.command)
    (hrat : r'.acceptedAt = r.acceptedAt) (hs : s'.command = s.command) (hsat : s'.acceptedAt = s.acceptedAt) :
    acceptedBefore r' s' = acceptedBefore r s := by
  simp only [acceptedBefore,hr,hrat,hs,hsat]

theorem row_of_mem_values (h : r ∈ journal.rows.values) : journal.row (mlp3CommandKey r.command) = some r := by
  obtain ⟨key,hkey⟩ := InsertionMap.mem_values.mp h
  rw [journal.keyed hkey]
  exact hkey

/-- What the order of two commands rests on. -/
structure InTurn (host : Host) (journal : CommandJournal) (a b : CommandRecord) (key : JsString) : Prop where
  rowA : journal.row (mlp3CommandKey a.command) = some a
  rowB : journal.row (mlp3CommandKey b.command) = some b
  acceptedA : a.status = .accepted
  acceptedB : b.status = .accepted
  ne : mlp3CommandKey a.command ≠ mlp3CommandKey b.command
  before : acceptedBefore b a = false
  chain : ∃ roomId, a.roomId = some roomId ∧ b.roomId = some roomId ∧
    chainOf host roomId a.command = some key ∧ chainOf host roomId b.command = some key

theorem inTurn_of_clock {host : Host} (h : ClockKeepsSessions host journal)
    {a b : CommandRecord} (hturn : AcceptedInTurn journal a b) (hsession : SameSession host a b) :
    ∃ key, InTurn host journal a b key := by
  have hrowA := row_of_mem_values (hturn.1.subset mem_cons_self)
  have hrowB := row_of_mem_values (hturn.1.subset (mem_cons_of_mem _ mem_cons_self))
  have hbefore := h a b hturn hsession
  obtain ⟨roomId,key,hroomA,hroomB,hkeyA,hkeyB⟩ := hsession
  refine ⟨key,hrowA,hrowB,hturn.2.1,hturn.2.2,fun heq => ?_,hbefore,roomId,hroomA,hroomB,hkeyA,hkeyB⟩
  rw [heq,hrowB,Option.some.injEq] at hrowA
  subst hrowA
  rw [(acceptedBefore_total b b).elim id id] at hbefore
  cases hbefore

namespace State

def works (s : State) : List (JsString × Command) := s.tasks.map (fun t => (t.roomId,t.command))

/-- The recovery has not come to a command yet. -/
def Due (s : State) (key : CommandKey) : Prop :=
  s.recovery = .starting ∨ ∃ r ∈ s.recoveryRecords, mlp3CommandKey r.command = key

variable {host : Host} {s s' : State} {journal : CommandJournal} {begun : List CommandKey}
  {a b : CommandRecord} {key : JsString}

theorem works_taskStep {keys : List CommandKey} (h : TaskStep host s s' keys) :
    ∃ kept added, s'.works = kept ++ added ∧ kept.Sublist s.works ∧
      ∀ w ∈ added, mlp3CommandKey w.2 ∈ keys := by
  have hsame : ∀ {t u : State},SameTasks t u → u.works = t.works := fun hs => by rw [works,works,hs.tasks]
  cases h with
  | keep same =>
    refine ⟨s.works,[],?_,Sublist.refl _,fun _ hw => by cases hw⟩
    rw [hsame same,append_nil]
  | replace task task' mem id roomId command previous ready same =>
    refine ⟨s.works,[],?_,Sublist.refl _,fun _ hw => by cases hw⟩
    rw [hsame same,append_nil]
    simp only [works,replaceTask,map_map]
    refine map_congr_left fun t _ => ?_
    simp only [Function.comp_apply]
    split
    · next heq => rw [heq,roomId,command]
    · rfl
  | finish task mem ready same =>
    refine ⟨(s.finishTask host task).works,[],?_,filter_sublist.map _,fun _ hw => by cases hw⟩
    rw [hsame same,append_nil]
  | schedule es same =>
    have hfold : ∀ (es : List (JsString × CommandRecord)) (t : State),
        (es.foldl (fun t e => t.scheduleExecution host e.1 e.2) t).works =
          t.works ++ es.map (fun e => (e.1,e.2.command)) := by
      intro es
      induction es with
      | nil => exact fun t => (append_nil _).symm
      | cons e es ih =>
        intro t
        rw [foldl_cons,ih]
        simp [works,scheduleExecution,newTask]
    refine ⟨s.works,es.map (fun e => (e.1,e.2.command)),?_,Sublist.refl _,fun w hw => ?_⟩
    · rw [hsame same,hfold]
    · obtain ⟨e,he,rfl⟩ := mem_map.mp hw
      exact mem_map.mpr ⟨e,he,rfl⟩

variable {action : Action}

theorem begun_of_step (h : s.step host action = some s') :
    s'.begun = s.begun ∨ ∃ task ∈ s.tasks, task.phase = .dispatched ∧
      s'.begun = mlp3CommandKey task.command :: s.begun := by
  cases (step_effect h).work with
  | restart tasks begun dispatchedHere interruptedHere => exact .inl begun
  | quiet tasks ghosts => exact .inl ghosts.begun
  | schedule pending dispatched ghosts => exact .inl ghosts.begun
  | child key child pending dispatched ghosts => exact .inl ghosts.begun
  | mark task pending dispatched status begun interruptedHere dispatchedHere => exact .inl begun
  | begin task mem phase pending fewer dispatched begun dispatchedHere interruptedHere =>
    exact .inr ⟨task,mem,phase,begun⟩
  | interrupt record mem snapshot operation status tasks begun dispatchedHere interruptedHere => exact .inl begun

/-- Of the bodies that began since the restart: none of the later command while the earlier one may still begin. -/
def BegunInTurn (begun : List CommandKey) (a b : CommandRecord) (s : State) (log : List CommandKey) : Prop :=
  ∃ fresh, log = fresh ++ begun ∧ (mlp3CommandKey b.command ∈ fresh → ¬ s.Due (mlp3CommandKey a.command) ∧
      ∀ w ∈ s.works,mlp3CommandKey w.2 ≠ mlp3CommandKey a.command) ∧
    ∀ after before, fresh = after ++ mlp3CommandKey a.command :: before → mlp3CommandKey b.command ∉ before

/-- Of two commands of one session: the later one is behind the earlier one in the recovery, in the chain of
the session and among the bodies that began. -/
structure KeepsTurn (host : Host) (journal : CommandJournal) (begun : List CommandKey) (a b : CommandRecord)
    (key : JsString) (s : State) : Prop where
  chained : Chained host s
  keeps : KeepsAcceptances journal s.journal
  sorted : s.recoveryRecords.Pairwise (fun r r' => acceptedBefore r r' = true)
  rows : ∀ r ∈ s.recoveryRecords, ∀ row, journal.row (mlp3CommandKey r.command) = some row →
    r.command = row.command ∧ r.roomId = row.roomId ∧ r.acceptedAt = row.acceptedAt
  session : ∀ w ∈ s.works, mlp3CommandKey w.2 = mlp3CommandKey a.command ∨
    mlp3CommandKey w.2 = mlp3CommandKey b.command → chainOf host w.1 w.2 = some key
  order : s.works.Pairwise (fun w w' => mlp3CommandKey w.2 = mlp3CommandKey b.command →
    mlp3CommandKey w'.2 ≠ mlp3CommandKey a.command)
  behind : ∀ w ∈ s.works, mlp3CommandKey w.2 = mlp3CommandKey b.command → ¬ s.Due (mlp3CommandKey a.command)
  begun : BegunInTurn begun a b s s.begun

section

variable (h : KeepsTurn host journal begun a b key s) (ht : InTurn host journal a b key)
include h ht

/-- A task of the later command that is past its waiting has no task of the earlier one behind it. -/
theorem KeepsTurn.no_task_behind {task : Task} (hm : task ∈ s.tasks) (hready : s.Ready task)
    (hkey : mlp3CommandKey task.command = mlp3CommandKey b.command) :
    ∀ w ∈ s.works, mlp3CommandKey w.2 ≠ mlp3CommandKey a.command := by
  intro w hw hwa
  obtain ⟨t,htm,rfl⟩ := mem_map.mp hw
  have hsession : ∀ u ∈ s.tasks,mlp3CommandKey u.command = mlp3CommandKey a.command ∨
      mlp3CommandKey u.command = mlp3CommandKey b.command → u.chain host = some key :=
    fun u hu => h.session _ (mem_map_of_mem hu)
  obtain ⟨rest,hrest⟩ := h.chained.head_of_ready hm hready (hsession task hm (.inr hkey))
  have hmem : t ∈ State.chained host key s.tasks := mem_chained.mpr ⟨htm,hsession t htm (.inl hwa)⟩
  have horder := (pairwise_map.mp h.order).sublist (filter_sublist (p := fun t => decide (t.chain host = some key)))
  rw [← State.chained,hrest] at horder
  rw [hrest] at hmem
  rcases mem_cons.mp hmem with rfl | hmem
  · exact ht.ne (hwa.symm.trans hkey)
  · exact rel_of_pairwise_cons horder hmem hkey hwa

/-- A body begins after the recovery has let go of the command, and in its turn. -/
theorem KeepsTurn.begin {task : Task} (hm : task ∈ s.tasks) (hphase : task.phase = .dispatched) :
    BegunInTurn begun a b s (mlp3CommandKey task.command :: s.begun) := by
  obtain ⟨fresh,hfresh,hdone,horder⟩ := h.begun
  have hw : (task.roomId,task.command) ∈ s.works := mem_map_of_mem hm
  refine ⟨mlp3CommandKey task.command :: fresh,by rw [hfresh,cons_append],fun hmem => ?_,
    fun after before heq => ?_⟩
  · rcases mem_cons.mp hmem with hkey | hmem
    · exact ⟨h.behind _ hw hkey.symm,
        h.no_task_behind ht hm (.inl (by rw [hphase]; simp)) hkey.symm⟩
    · exact hdone hmem
  · cases after with
    | nil =>
      rw [nil_append,cons.injEq] at heq
      rw [← heq.2]
      exact fun hmem => (hdone hmem).2 _ hw heq.1
    | cons k after =>
      rw [cons_append,cons.injEq] at heq
      exact horder after before heq.2

/-- A step that schedules neither of the two commands. -/
theorem KeepsTurn.next (chained : Chained host s') (keeps : KeepsAcceptances s.journal s'.journal)
    (sorted : s'.recoveryRecords.Pairwise (fun r r' => acceptedBefore r r' = true))
    (rows : ∀ r ∈ s'.recoveryRecords,∀ row,journal.row (mlp3CommandKey r.command) = some row →
      r.command = row.command ∧ r.roomId = row.roomId ∧ r.acceptedAt = row.acceptedAt)
    (due : s'.Due (mlp3CommandKey a.command) → s.Due (mlp3CommandKey a.command))
    (works : ∃ kept added,s'.works = kept ++ added ∧ kept.Sublist s.works ∧ ∀ w ∈ added,
      mlp3CommandKey w.2 ≠ mlp3CommandKey a.command ∧ mlp3CommandKey w.2 ≠ mlp3CommandKey b.command)
    (hbegun : s'.begun = s.begun ∨ ∃ task ∈ s.tasks,task.phase = .dispatched ∧
      s'.begun = mlp3CommandKey task.command :: s.begun) : KeepsTurn host journal begun a b key s' := by
  obtain ⟨kept,added,hworks,hkept,hadded⟩ := works
  have hold : ∀ w ∈ s'.works,mlp3CommandKey w.2 = mlp3CommandKey a.command ∨
      mlp3CommandKey w.2 = mlp3CommandKey b.command → w ∈ s.works := by
    intro w hw hkey
    rw [hworks] at hw
    rcases mem_append.mp hw with hw | hw
    · exact hkept.subset hw
    · exact absurd hkey (not_or.mpr (hadded w hw))
  refine ⟨chained,h.keeps.trans keeps,sorted,rows,fun w hw hkey => h.session w (hold w hw hkey) hkey,?_,
    fun w hw hkey hdue => h.behind w (hold w hw (.inr hkey)) hkey (due hdue),?_⟩
  · rw [hworks,pairwise_append]
    refine ⟨h.order.sublist hkept,?_,fun w _ w' hw' _ => (hadded w' hw').1⟩
    exact pairwise_of_forall_mem_list fun _ _ w' hw' _ => (hadded w' hw').1
  · have hstart : BegunInTurn begun a b s s'.begun := by
      rcases hbegun with heq | ⟨task,hm,hphase,heq⟩
      · rw [heq]
        exact h.begun
      · rw [heq]
        exact h.begin ht hm hphase
    obtain ⟨fresh,hfresh,hdone,horder⟩ := hstart
    refine ⟨fresh,hfresh,fun hmem => ⟨fun hdue => (hdone hmem).1 (due hdue),fun w hw hkey => ?_⟩,horder⟩
    exact (hdone hmem).2 w (hold w hw (.inl hkey)) hkey

end

variable {record : CommandRecord} {now : ℕ}

theorem recoveryDecision_schedule {roomId r : JsString} (h : s.recoveryDecision host record now = .schedule roomId)
    (hr : record.roomId = some r) : roomId = r := by
  unfold recoveryDecision at h
  split at h
  · cases h
  split at h
  · cases h
  · next hproject =>
    have hroom : ∀ {room project},s.projectForRecord record = some (room,project) → room = r := by
      intro room project hp
      unfold projectForRecord at hp
      rw [hr] at hp
      obtain ⟨p,-,heq⟩ := Option.map_eq_some_iff.mp hp
      exact (congrArg Prod.fst heq).symm
    split at h
    · cases h
      exact hroom hproject
    · split at h <;> cases h

theorem KeepsTurn.schedule (h : KeepsTurn host journal begun a b key s) (ht : InTurn host journal a b key)
    {records : List CommandRecord} {roomId : JsString} (hrecovery : s.recovery = .recovering (record :: records))
    (hdecision : s.recoveryDecision host record now = .schedule roomId) : KeepsTurn host journal begun a b key
      ({ s with recovery := .recovering records }.scheduleExecution host roomId record) := by
  set s' := { s with recovery := .recovering records }.scheduleExecution host roomId record with hs'
  have hrecords : s.recoveryRecords = record :: records := by rw [recoveryRecords,hrecovery]
  have hrecords' : s'.recoveryRecords = records := rfl
  have hworks : s'.works = s.works ++ [(roomId,record.command)] := by
    simp [hs',works,scheduleExecution,newTask]
  have hsame : Chained host { s with recovery := .recovering records } := h.chained.same ⟨rfl,rfl,rfl⟩
  have hchained : Chained host s' := hsame.schedule roomId record
  have hsorted : s'.recoveryRecords.Pairwise (fun r r' => acceptedBefore r r' = true) := by
    have hold := h.sorted
    rw [hrecords] at hold
    exact hold.of_cons
  have hrows : ∀ r ∈ s'.recoveryRecords,∀ row,journal.row (mlp3CommandKey r.command) = some row →
      r.command = row.command ∧ r.roomId = row.roomId ∧ r.acceptedAt = row.acceptedAt := by
    intro r hr
    exact h.rows r (hrecords ▸ mem_cons_of_mem _ hr)
  have hdue : ∀ {k},s'.Due k → s.Due k := by
    rintro k (hstart | ⟨r,hr,hk⟩)
    · cases hstart
    · exact .inr ⟨r,hrecords ▸ mem_cons_of_mem _ hr,hk⟩
  have hown : s.Due (mlp3CommandKey record.command) := .inr ⟨record,hrecords ▸ mem_cons_self,rfl⟩
  have hrow := h.rows record (hrecords ▸ mem_cons_self)
  obtain ⟨r,hroomA,hroomB,hkeyA,hkeyB⟩ := ht.chain
  by_cases hka : mlp3CommandKey record.command = mlp3CommandKey a.command
  · obtain ⟨hcommand,hroom,-⟩ := hrow a (hka ▸ ht.rowA)
    have hroomId := recoveryDecision_schedule hdecision (hroom.trans hroomA)
    rw [hka] at hown
    have hnone : ∀ w ∈ s.works,mlp3CommandKey w.2 ≠ mlp3CommandKey b.command :=
      fun w hw hkey => h.behind w hw hkey hown
    have hnew : ∀ w ∈ s'.works,mlp3CommandKey w.2 ≠ mlp3CommandKey b.command := by
      intro w hw
      rw [hworks] at hw
      rcases mem_append.mp hw with hw | hw
      · exact hnone w hw
      · rw [mem_singleton.mp hw]
        exact fun hkey => ht.ne (hka.symm.trans hkey)
    refine ⟨hchained,h.keeps,hsorted,hrows,fun w hw hkey => ?_,?_,
      fun w hw hkey => absurd hkey (hnew w hw),?_⟩
    · rw [hworks] at hw
      rcases mem_append.mp hw with hw | hw
      · exact h.session w hw hkey
      · rw [mem_singleton.mp hw,hroomId,hcommand]
        exact hkeyA
    · exact pairwise_of_forall_mem_list fun w hw _ _ hkey => absurd hkey (hnew w hw)
    · obtain ⟨fresh,hfresh,hdone,horder⟩ := h.begun
      exact ⟨fresh,hfresh,fun hmem => absurd hown (hdone hmem).1,horder⟩
  · by_cases hkb : mlp3CommandKey record.command = mlp3CommandKey b.command
    · obtain ⟨hcommand,hroom,haccepted⟩ := hrow b (hkb ▸ ht.rowB)
      have hroomId := recoveryDecision_schedule hdecision (hroom.trans hroomB)
      -- The earlier command is not behind the later one in the sorted rows.
      have hpast : ¬ s'.Due (mlp3CommandKey a.command) := by
        rintro (hstart | ⟨r',hr',hk⟩)
        · cases hstart
        · obtain ⟨hcommand',-,haccepted'⟩ := hrows r' hr' a (hk ▸ ht.rowA)
          have hold := h.sorted
          rw [hrecords] at hold
          have hbefore := rel_of_pairwise_cons hold hr'
          rw [acceptedBefore_congr hcommand haccepted hcommand' haccepted',ht.before] at hbefore
          cases hbefore
      refine ⟨hchained,h.keeps,hsorted,hrows,fun w hw hkey => ?_,?_,fun _ _ _ => hpast,?_⟩
      · rw [hworks] at hw
        rcases mem_append.mp hw with hw | hw
        · exact h.session w hw hkey
        · rw [mem_singleton.mp hw,hroomId,hcommand]
          exact hkeyB
      · rw [hworks,pairwise_append]
        refine ⟨h.order,pairwise_singleton _ _,fun w _ w' hw' _ => ?_⟩
        rw [mem_singleton.mp hw']
        exact hka
      · obtain ⟨fresh,hfresh,hdone,horder⟩ := h.begun
        refine ⟨fresh,hfresh,fun hmem => ⟨hpast,fun w hw => ?_⟩,horder⟩
        rw [hworks] at hw
        rcases mem_append.mp hw with hw | hw
        · exact (hdone hmem).2 w hw
        · rw [mem_singleton.mp hw]
          exact hka
    · refine h.next ht hchained (.refl _) hsorted hrows hdue ⟨s.works,_,hworks,Sublist.refl _,fun w hw => ?_⟩
        (.inl rfl)
      rw [mem_singleton.mp hw]
      exact ⟨hka,hkb⟩

/-- The recovery schedules a row, or it goes on without scheduling one. -/
theorem recoverNext_cases (h : s.recoverNext host now = some s') :
    (∃ record records roomId,s.recovery = .recovering (record :: records) ∧
      s.recoveryDecision host record now = .schedule roomId ∧
      s' = { s with recovery := .recovering records }.scheduleExecution host roomId record) ∨
    (s.scheduledKeys host (.recoverNext now) = [] ∧ s'.recoveryRecords.Sublist s.recoveryRecords ∧
      s'.recovery ≠ .starting) := by
  unfold recoverNext at h
  split at h
  · next hrecovery =>
    cases h
    exact .inr ⟨by simp [scheduledKeys,scheduledBy,hrecovery],nil_sublist _,by simp⟩
  · next record records hrecovery =>
    have hrecords : s.recoveryRecords = record :: records := by rw [recoveryRecords,hrecovery]
    have hdecision : { s with recovery := .recovering records }.recoveryDecision host record now =
        s.recoveryDecision host record now := rfl
    cases h
    unfold recoverRecord
    rw [hdecision,hrecords]
    cases hd : s.recoveryDecision host record now with
    | schedule roomId => exact .inl ⟨record,records,roomId,hrecovery,hd,rfl⟩
    | skip =>
      exact .inr ⟨by simp [scheduledKeys,scheduledBy,hrecovery,hd],sublist_cons_self _ _,by simp⟩
    | complete terminal caught =>
      obtain ⟨journal,-,heq⟩ := settleAndDeliver_eq host { s with recovery := .recovering records }
        record.command terminal false now
      simp only [heq]
      split
      · exact .inr ⟨by simp [scheduledKeys,scheduledBy,hrecovery,hd],nil_sublist _,by simp⟩
      · exact .inr ⟨by simp [scheduledKeys,scheduledBy,hrecovery,hd],sublist_cons_self _ _,by simp⟩
    | interrupt terminal =>
      obtain ⟨journal,-,heq⟩ := settleAndDeliver_eq host { s with recovery := .recovering records }
        record.command terminal false now
      simp only [heq]
      exact .inr ⟨by simp [scheduledKeys,scheduledBy,hrecovery,hd],sublist_cons_self _ _,by simp⟩
  · cases h

theorem KeepsTurn.step (h : KeepsTurn host journal begun a b key s) (ht : InTurn host journal a b key)
    (hstart : ∀ projects,action ≠ .start projects) (hcrash : action ≠ .crash)
    (hleaves : LeavesToRecovery host journal s action) (hs : s.step host action = some s') :
    KeepsTurn host journal begun a b key s' := by
  have hr : action.isRestart = false := by
    cases action with
    | start projects => exact absurd rfl (hstart projects)
    | crash => exact absurd rfl hcrash
    | _ => rfl
  have hmoves := step_moves hs hr
  have hchained := h.chained.step hs
  have hbegun := begun_of_step hs
  -- What is scheduled outside the recovery is none of the two commands.
  have hworks : (∀ now,action ≠ .recoverNext now) ∨ s.scheduledKeys host action = [] →
      ∃ kept added, s'.works = kept ++ added ∧ kept.Sublist s.works ∧ ∀ w ∈ added,
        mlp3CommandKey w.2 ≠ mlp3CommandKey a.command ∧ mlp3CommandKey w.2 ≠ mlp3CommandKey b.command := by
    intro hnone
    obtain ⟨kept,added,heq,hkept,hadded⟩ := works_taskStep hmoves.tasks
    refine ⟨kept,added,heq,hkept,fun w hw => ?_⟩
    have hkey := hadded w hw
    rcases hnone with hnot | hnil
    · have hopen := hleaves hnot _ hkey
      refine ⟨fun heq => hopen ?_,fun heq => hopen ?_⟩
      · rw [heq,CommandJournal.status,ht.rowA,Option.map_some,ht.acceptedA]
      · rw [heq,CommandJournal.status,ht.rowB,Option.map_some,ht.acceptedB]
    · rw [hnil] at hkey
      cases hkey
  cases action with
  | readUnfinished =>
    simp only [State.step] at hs
    split at hs
    · next hstarting =>
      cases hs
      refine h.next ht hchained hmoves.journal (pairwise_unfinished s.journal) (fun r hr row hrow => ?_)
        (fun _ => .inl hstarting) (hworks (.inl fun _ => by simp)) hbegun
      obtain ⟨r',hr',hcommand,hroom,haccepted⟩ := h.keeps _ row hrow
      rw [(mem_unfinished.mp hr).1,Option.some.injEq] at hr'
      subst hr'
      exact ⟨hcommand,hroom,haccepted⟩
    · cases hs
  | recoverNext now =>
    rcases recoverNext_cases hs with ⟨record,records,roomId,hrecovery,hdecision,rfl⟩ | ⟨hnil,hsub,hnot⟩
    · exact h.schedule ht hrecovery hdecision
    · refine h.next ht hchained hmoves.journal (h.sorted.sublist hsub) (fun r hr => h.rows r (hsub.subset hr))
        ?_ (hworks (.inr hnil)) hbegun
      rintro (hstarting | ⟨r,hr,hk⟩)
      · exact absurd hstarting hnot
      · exact .inr ⟨r,hsub.subset hr,hk⟩
  | _ =>
    have hrecovery := hmoves.recovery rfl
    have hrecords : s'.recoveryRecords = s.recoveryRecords := by rw [recoveryRecords,recoveryRecords,hrecovery]
    refine h.next ht hchained hmoves.journal (hrecords ▸ h.sorted) (hrecords ▸ h.rows) ?_
      (hworks (.inl fun _ => by simp)) hbegun
    rw [Due,Due,hrecovery,hrecords]
    exact id

theorem keepsTurn_start {batchChildren : List CommandKey} {projects : InsertionMap JsString ProjectRuntime}
    (hs : (stoppedOver journal begun batchChildren).start host projects = some s) :
    KeepsTurn host journal begun a b key s := by
  unfold start at hs
  split at hs
  · cases hs
  · cases hs
    refine ⟨chained_of_tasks_nil rfl,.refl _,Pairwise.nil,fun _ h => (by cases h),
      fun _ h => (by cases h),Pairwise.nil,fun _ h => (by cases h),[],rfl,fun h => (by cases h),
      fun after before h => ?_⟩
    simp at h

end State

/-- A restart keeps the order of every session, and of the inbox, as long as the clock keeps it and nothing
but the recovery schedules what it is about to recover. -/
theorem restart_keeps_order {host : Host} {journal : CommandJournal} {begun batchChildren : List CommandKey}
    {s : State} (hclock : ClockKeepsSessions host journal)
    (hs : Restarts host (LeavesToRecovery host journal) journal begun batchChildren s)
    {sha256 : JsString → JsString} {maxRecords : ℕ} {operations : List Inbox.Operation}
    (hinbox : ClockKeepsInbox (Inbox.after sha256 maxRecords operations)) :
    BeginsInOrder host journal begun s ∧ Inbox.pending sha256 (Inbox.after sha256 maxRecords operations) =
      .ok ((Inbox.after sha256 maxRecords operations).values.filter Inbox.isPending) := by
  constructor
  · have hturn : ∀ a b key,InTurn host journal a b key → State.KeepsTurn host journal begun a b key s := by
      intro a b key ht
      induction hs with
      | start h => exact State.keepsTurn_start h
      | step action _ hstart hcrash hleaves h ih => exact ih.step ht hstart hcrash hleaves h
    have hbegun : ∃ fresh,s.begun = fresh ++ begun := by
      clear hturn hclock
      induction hs with
      | @start projects s h =>
        unfold State.start at h
        split at h
        · cases h
        · cases h
          exact ⟨[],rfl⟩
      | step action _ _ _ _ h ih =>
        obtain ⟨fresh,hfresh⟩ := ih
        rcases State.begun_of_step h with heq | ⟨task,-,-,heq⟩
        · exact ⟨fresh,heq.trans hfresh⟩
        · exact ⟨_ :: fresh,by rw [heq,hfresh,cons_append]⟩
    obtain ⟨fresh,hfresh⟩ := hbegun
    refine ⟨fresh,hfresh,fun a b haccepted hsession after before heq => ?_⟩
    obtain ⟨key,ht⟩ := inTurn_of_clock hclock haccepted hsession
    obtain ⟨fresh',hfresh',-,horder⟩ := (hturn a b key ht).begun
    rw [hfresh,append_cancel_right_eq] at hfresh'
    exact horder after before (hfresh' ▸ heq)
  · unfold Inbox.pending
    rw [(Inbox.valid_after maxRecords operations).validate,ok_bind,hinbox.insertionSort_eq]

def renameOf (commandId : JsString) : Command :=
  sampleCommand commandId (some "session-1") (.other .sessionUpdate .null)

def acceptedRename (commandId matrixEventId : JsString) (acceptedAt : ℕ) : CommandRecord where
  command := renameOf commandId
  roomId := some "!project:home"
  matrixEventId := some matrixEventId
  acceptedAt
  progress := .accepted

/-- The journal after two events, handled at these times. -/
def acceptTwo (first second : ℕ) : List Action :=
  [.start sampleProjects,.readUnfinished,.recoverNext 1,.receive (sampleIncoming "$1" (renameOf "rename-2")) first,
    .handle first,.receive (sampleIncoming "$2" (renameOf "rename-1")) second,.handle second,.crash]

def journalOfTwo (first second : ℕ) : CommandJournal :=
  (CommandJournal.empty.put (acceptedRename "rename-2" "$1" first)).put (acceptedRename "rename-1" "$2" second)

def carryOutTwo : List Action :=
  [.readUnfinished,.recoverNext 8,.recoverNext 8,.enter 0,.markDispatched 0 8,.execute 0,.complete 0,
    .enter 1,.markDispatched 1 9,.execute 1]

theorem restarts_run {host : Host} {allowed : State → Action → Prop}
    {begun batchChildren : List CommandKey} {s s' : State}
    (hs : Restarts host allowed journal begun batchChildren s) {actions : List Action}
    (hactions : ∀ action ∈ actions,(∀ projects,action ≠ .start projects) ∧ action ≠ .crash ∧
      ∀ t,allowed t action) (hrun : s.run host actions = some s') :
    Restarts host allowed journal begun batchChildren s' := by
  induction actions generalizing s with
  | nil =>
    cases hrun
    exact hs
  | cons action actions ih =>
    obtain ⟨t,hstep,hrun⟩ := Option.bind_eq_some_iff.mp hrun
    obtain ⟨hstart,hcrash,hallowed⟩ := hactions action mem_cons_self
    exact ih (.step action hs hstart hcrash (hallowed s) hstep)
      (fun action ha => hactions action (mem_cons_of_mem _ ha)) hrun

theorem carryOutTwo_leavesToRecovery : ∀ action ∈ carryOutTwo, (∀ projects,action ≠ .start projects) ∧ action ≠ .crash ∧
      ∀ t, LeavesToRecovery sampleHost journal t action := by
  intro action ha
  simp only [carryOutTwo,mem_cons,not_mem_nil,or_false] at ha
  refine ⟨fun projects heq => ?_,fun heq => ?_,fun t hnot key hkey => ?_⟩
  · subst heq
    simp at ha
  · subst heq
    simp at ha
  · rcases ha with rfl | rfl | rfl | rfl | rfl | rfl | rfl | rfl | rfl | rfl
    · cases hkey
    · exact absurd rfl (hnot 8)
    · exact absurd rfl (hnot 8)
    all_goals cases hkey

set_option maxRecDepth 100000 in
/-- Two commands are accepted in one millisecond, and the restart begins the second one first. -/
theorem restart_reorders_a_session :
    ((stoppedOver .empty [] []).run sampleHost (acceptTwo 5 5)).map State.journal = some (journalOfTwo 5 5) ∧
      ∃ s, Restarts sampleHost (LeavesToRecovery sampleHost (journalOfTwo 5 5)) (journalOfTwo 5 5) [] [] s ∧
        ¬ BeginsInOrder sampleHost (journalOfTwo 5 5) [] s := by
  refine ⟨by decide +kernel,?_⟩
  have hsome : ((stoppedOver (journalOfTwo 5 5) [] []).start sampleHost sampleProjects).isSome := by decide +kernel
  have hbegun : (((stoppedOver (journalOfTwo 5 5) [] []).start sampleHost sampleProjects).bind
      (fun s => s.run sampleHost carryOutTwo)).map State.begun =
        some [mlp3CommandKey (renameOf "rename-2"),mlp3CommandKey (renameOf "rename-1")] := by decide +kernel
  obtain ⟨t,ht⟩ := Option.isSome_iff_exists.mp hsome
  rw [ht] at hbegun
  obtain ⟨s,hs,hkeys⟩ := Option.map_eq_some_iff.mp hbegun
  refine ⟨s,restarts_run (.start ht) carryOutTwo_leavesToRecovery hs,fun h => ?_⟩
  obtain ⟨fresh,hfresh,horder⟩ := h
  rw [append_nil,hkeys] at hfresh
  have haccepted : AcceptedInTurn (journalOfTwo 5 5) (acceptedRename "rename-2" "$1" 5)
      (acceptedRename "rename-1" "$2" 5) := ⟨by decide,rfl,rfl⟩
  have hsession : SameSession sampleHost (acceptedRename "rename-2" "$1" 5) (acceptedRename "rename-1" "$2" 5) :=
    ⟨"!project:home",sessionKey sampleHost "!project:home" (renameOf "rename-2"),rfl,rfl,by decide +kernel,
      by decide +kernel⟩
  exact horder _ _ haccepted hsession [] _ hfresh.symm mem_cons_self

theorem clockKeepsSessions_journalOfTwo : ClockKeepsSessions sampleHost (journalOfTwo 5 6) := by
  intro a b haccepted _
  have hrows : (journalOfTwo 5 6).rows.values =
      [acceptedRename "rename-2" "$1" 5,acceptedRename "rename-1" "$2" 6] := by decide
  have hsub := haccepted.1
  rw [hrows] at hsub
  have heq := hsub.eq_of_length rfl
  rw [cons.injEq,cons.injEq] at heq
  rw [heq.1,heq.2.1]
  decide

set_option maxRecDepth 100000 in
/-- A millisecond apart, and an inbox with two records. -/
theorem restart_keeps_a_session : ∃ s : State,
    s.begun = [mlp3CommandKey (renameOf "rename-1"),mlp3CommandKey (renameOf "rename-2")] ∧
      BeginsInOrder sampleHost (journalOfTwo 5 6) [] s ∧
      Inbox.pending Inbox.sampleSha256 (Inbox.after Inbox.sampleSha256 2 [
          .stage (Inbox.sampleEvent "$poison-2") Inbox.sampleTime,
          .stage (Inbox.sampleEvent "$later") Inbox.sampleTime]) =
        .ok ((Inbox.after Inbox.sampleSha256 2 [ .stage (Inbox.sampleEvent "$poison-2") Inbox.sampleTime,
          .stage (Inbox.sampleEvent "$later") Inbox.sampleTime]).values.filter Inbox.isPending) := by
  have hsome : ((stoppedOver (journalOfTwo 5 6) [] []).start sampleHost sampleProjects).isSome := by decide +kernel
  have hbegun : (((stoppedOver (journalOfTwo 5 6) [] []).start sampleHost sampleProjects).bind
      (fun s => s.run sampleHost carryOutTwo)).map State.begun =
        some [mlp3CommandKey (renameOf "rename-1"),mlp3CommandKey (renameOf "rename-2")] := by decide +kernel
  obtain ⟨t,ht⟩ := Option.isSome_iff_exists.mp hsome
  rw [ht] at hbegun
  obtain ⟨s,hs,hkeys⟩ := Option.map_eq_some_iff.mp hbegun
  exact ⟨s,hkeys,restart_keeps_order clockKeepsSessions_journalOfTwo
    (restarts_run (.start ht) carryOutTwo_leavesToRecovery hs) (by decide)⟩

end Malink.Gateway
