import Malink.JsStrings
import Mathlib.Data.List.Nodup

/-!
# Archiving a batch

Workers archive the sessions of a batch. Every change of an item is a new revision of the checkpoint, written and then
published.
-/

namespace Malink.BatchArchive

open List Option

structure Target where
  projectId : JsString
  sessionId : JsString
  deriving DecidableEq

inductive ItemState
  | pending
  | running
  | succeeded
  | failed
  deriving DecidableEq

structure Failure where
  code : JsString
  message : JsString
  retryable : Bool
  deriving DecidableEq

structure Item extends Target where
  state : ItemState
  error : Option Failure
  deriving DecidableEq

inductive BatchState
  | running
  | completed
  deriving DecidableEq

structure Progress where
  batchId : JsString
  revision : ℕ
  state : BatchState
  items : List Item
  deriving DecidableEq

def validId (id : JsString) : Bool := 1 ≤ id.length && id.length ≤ 512

def Target.isValid (target : Target) : Bool := validId target.projectId && validId target.sessionId

/-- `batchArchiveRequestSchema` -/
def isRequest (targets : List Target) : Bool :=
  1 ≤ targets.length && targets.length ≤ 100 && targets.all Target.isValid && decide targets.Nodup

def Failure.isValid (failure : Failure) : Bool :=
  validId failure.code && 1 ≤ failure.message.length && failure.message.length ≤ 8192

def Item.isValid (item : Item) : Bool :=
  item.toTarget.isValid && item.error.all Failure.isValid &&
    decide (item.state = .failed) == item.error.isSome

def Item.settled (item : Item) : Bool := item.state = .succeeded || item.state = .failed

def maxRevision : ℕ := 9007199254740991

/-- `batchArchiveProgressSchema` -/
def Progress.isValid (progress : Progress) : Bool :=
  validId progress.batchId && 1 ≤ progress.revision && progress.revision ≤ maxRevision &&
    1 ≤ progress.items.length && progress.items.length ≤ 100 && progress.items.all Item.isValid &&
      decide (progress.state = .completed) == progress.items.all Item.settled &&
        decide (progress.items.map (·.toTarget)).Nodup

inductive Patch
  | running
  | succeeded
  | failed (error : Failure)

def Item.patch (item : Item) : Patch → Item
  | .running => { item with state := .running }
  | .succeeded => { item with state := .succeeded }
  | .failed error => { item with state := .failed, error := some error }

def Progress.next (progress : Progress) (index : ℕ) (patch : Patch) : Progress :=
  let items := progress.items.modify index (·.patch patch)
  { progress with
    revision := progress.revision + 1
    state := if items.all Item.settled then .completed else .running
    items }

inductive StartError
  | invalidRequest
  | invalidConcurrency
  | invalidCheckpoint
  | mismatch
  deriving DecidableEq

/-- The texts of the errors that the executor itself throws. -/
def StartError.message : StartError → Option JsString
  | invalidConcurrency => some "Invalid batch concurrency"
  | mismatch => some "Batch checkpoint does not match the immutable request"
  | invalidRequest => none
  | invalidCheckpoint => none

def initialProgress (batchId : JsString) (targets : List Target) : Progress :=
  ⟨batchId,1,.running,targets.map fun target => { target with state := .pending, error := none }⟩

def startState (batchId : JsString) (targets : List Target) (concurrency : ℕ) (checkpoint : Option Progress) :
    Except StartError Progress :=
  if isRequest targets = false then .error .invalidRequest
  else if concurrency < 1 ∨ 8 < concurrency then .error .invalidConcurrency
  else if checkpoint.any (fun progress => !progress.isValid) then .error .invalidCheckpoint
  else
    let state := checkpoint.getD (initialProgress batchId targets)
    if state.batchId ≠ batchId ∨ state.items.map (·.toTarget) ≠ targets then .error .mismatch
    else .ok state

/-- Whether a write returns. One that does not may have replaced the checkpoint all the same. -/
inductive WriteOutcome
  | completes
  | fails (replaced : Bool)

/-- The write of the store refuses a revision that does not follow the one it has, and an invalid value. -/
def accepts (current : Option Progress) (value : Progress) (previousRevision : ℕ) : Bool :=
  decide ((current.map (·.revision)).getD 0 = previousRevision) && value.isValid

inductive Worker
  | ready
  /-- Its change waits for the changes before it. -/
  | updating (index : ℕ) (patch : Patch)
  /-- Its change is written. A worker that has an index archives that item next. -/
  | publishing (next : Option ℕ)
  | archiving (index : ℕ)
  | done
  | rejected

def Worker.isUpdating : Worker → Bool
  | updating _ _ => true
  | publishing _ => true
  | _ => false

def Worker.isSettled : Worker → Bool
  | done => true
  | rejected => true
  | _ => false

def Worker.isRejected : Worker → Bool
  | rejected => true
  | _ => false

/-- What an execution has in memory. The chain holds the workers whose changes are not yet published, in order, and
is rejected once a change failed. -/
structure Execution where
  state : Progress
  pending : List ℕ
  cursor : ℕ
  workers : List Worker
  chain : List ℕ
  rejected : Bool

def pendingIndexes (state : Progress) : List ℕ :=
  (range state.items.length).filter fun index => state.items[index]?.any (fun item => !item.settled)

def Execution.begin (state : Progress) (concurrency : ℕ) : Execution where
  state := state
  pending := pendingIndexes state
  cursor := 0
  workers := replicate (min concurrency (pendingIndexes state).length) .ready
  chain := []
  rejected := false

def Execution.setWorker (execution : Execution) (k : ℕ) (worker : Worker) : Execution :=
  { execution with workers := execution.workers.set k worker }

def Execution.update (execution : Execution) (k index : ℕ) (patch : Patch) : Execution :=
  if execution.rejected then execution.setWorker k .rejected
  else { execution.setWorker k (.updating index patch) with chain := execution.chain ++ [k] }

/-- Every worker takes the next item until there is none. -/
def Execution.take (execution : Execution) (k : ℕ) : Option Execution :=
  match execution.workers[k]? with
  | some .ready =>
    match execution.pending[execution.cursor]? with
    | none => some (execution.setWorker k .done)
    | some index => some ({ execution with cursor := execution.cursor + 1 }.update k index .running)
  | _ => none

def Execution.archived (execution : Execution) (k : ℕ) (failure : Option Failure) : Option Execution :=
  match execution.workers[k]? with
  | some (.archiving index) =>
    match failure with
    | none => some (execution.update k index .succeeded)
    | some failure => some (execution.update k index (.failed failure))
  | _ => none

/-- A change that fails rejects all that wait for it. -/
def Execution.reject (execution : Execution) : Execution :=
  { execution with
    workers := execution.workers.map fun worker => if worker.isUpdating then .rejected else worker
    chain := []
    rejected := true }

def Execution.head (execution : Execution) : Option (ℕ × Worker) :=
  execution.chain.head?.bind fun k => execution.workers[k]?.map fun worker => (k,worker)

def nextIndex (index : ℕ) : Patch → Option ℕ
  | .running => some index
  | _ => none

def Execution.persisted (execution : Execution) (k index : ℕ) (patch : Patch) : Execution :=
  { execution.setWorker k (.publishing (nextIndex index patch)) with state := execution.state.next index patch }

def afterPublish : Option ℕ → Worker
  | some index => .archiving index
  | none => .ready

def Execution.published (execution : Execution) (k : ℕ) (next : Option ℕ) : Execution :=
  { execution.setWorker k (afterPublish next) with chain := execution.chain.tail }

inductive Event
  | persisted (progress : Progress)
  | given (run index : ℕ)
  | published (run : ℕ) (progress : Progress)
  | returned (run : ℕ) (progress : Progress)
  deriving DecidableEq

inductive Process
  | stopped
  | creating (state : Progress) (concurrency : ℕ)
  | republishing (state : Progress)
  | working (execution : Execution)

/-- The checkpoint, the process, the number of its execution, and what happened so far, the last event first. -/
structure System where
  checkpoint : Option Progress
  process : Process
  run : ℕ
  events : List Event

inductive Action
  | start (concurrency : ℕ)
  | persist (outcome : WriteOutcome)
  | publish (returns : Bool)
  | take (worker : ℕ)
  | archived (worker : ℕ) (failure : Option Failure)
  | finish
  | crash

def System.empty : System := ⟨none,.stopped,0,[]⟩

/-- The file and the history after a write that was accepted. -/
def System.replaced (system : System) (value : Progress) (process : Process) : System :=
  { system with checkpoint := some value, process, events := .persisted value :: system.events }

def System.write (system : System) (value : Progress) (previousRevision : ℕ) (outcome : WriteOutcome)
    (completed failed : Process) : System :=
  if accepts system.checkpoint value previousRevision then
    match outcome with
    | .completes => system.replaced value completed
    | .fails true => system.replaced value failed
    | .fails false => { system with process := failed }
  else { system with process := failed }

variable (batchId : JsString) (targets : List Target)

def System.start (system : System) (concurrency : ℕ) : System :=
  match startState batchId targets concurrency system.checkpoint with
  | .error _ => { system with process := .stopped, run := system.run + 1 }
  | .ok state =>
    let process : Process :=
      match system.checkpoint with
      | none => .creating state concurrency
      | some _ =>
        if state.state = .completed then .republishing state else .working (.begin state concurrency)
    { system with process, run := system.run + 1 }

/-- The events of a change that is published: the worker may give its item to `archive`. -/
def Execution.publishedEvents (execution : Execution) (run : ℕ) (next : Option ℕ) : List Event :=
  (next.map (Event.given run)).toList ++ [.published run execution.state]

def System.perform (system : System) : Action → Option System
  | .start concurrency =>
    match system.process with
    | .stopped => some (system.start batchId targets concurrency)
    | _ => none
  | .persist outcome =>
    match system.process with
    | .creating state concurrency =>
      some (system.write state 0 outcome (.working (.begin state concurrency)) .stopped)
    | .working execution =>
      match execution.head with
      | some (k,.updating index patch) =>
        some (system.write (execution.state.next index patch) execution.state.revision outcome
          (.working (execution.persisted k index patch)) (.working execution.reject))
      | _ => none
    | _ => none
  | .publish returns =>
    match system.process with
    | .republishing state =>
      if returns then
        some { system with
               process := .stopped
               events := .returned system.run state :: .published system.run state :: system.events }
      else some { system with process := .stopped }
    | .working execution =>
      match execution.head with
      | some (k,.publishing next) =>
        if returns then
          some { system with
                 process := .working (execution.published k next)
                 events := execution.publishedEvents system.run next ++ system.events }
        else some { system with process := .working execution.reject }
      | _ => none
    | _ => none
  | .take k =>
    match system.process with
    | .working execution => (execution.take k).map fun execution => { system with process := .working execution }
    | _ => none
  | .archived k failure =>
    match system.process with
    | .working execution =>
      (execution.archived k failure).map fun execution => { system with process := .working execution }
    | _ => none
  | .finish =>
    match system.process with
    | .working execution =>
      if execution.workers.all Worker.isSettled then
        if execution.workers.any Worker.isRejected then some { system with process := .stopped }
        else
          some { system with
                 process := .stopped
                 events := .returned system.run execution.state :: system.events }
      else none
    | _ => none
  | .crash => some { system with process := .stopped }

/-- Executions of a batch with crashes between them. -/
inductive Reachable : System → Prop
  | empty : Reachable .empty
  | perform {system system' : System} (action : Action) (h : Reachable system)
    (hstep : system.perform batchId targets action = some system') : Reachable system'

variable {state : Progress} {execution : Execution}

def Progress.Unsettled (state : Progress) (i : ℕ) : Prop :=
  ∃ item : Item, state.items[i]? = some item ∧ item.settled = false

def Progress.KeepsOutcomes (state later : Progress) : Prop :=
  ∀ (i : ℕ) (item : Item), state.items[i]? = some item → item.settled → later.items[i]? = some item

theorem getElem?_next (state : Progress) (index : ℕ) (patch : Patch) (i : ℕ) : (state.next index patch).items[i]? =
      if index = i then state.items[i]?.map (·.patch patch) else state.items[i]? := by
  simp only [Progress.next,getElem?_modify]
  split
  · rfl
  · simp

variable {index i k concurrency : ℕ} {patch : Patch} {old other : Worker} {later : Execution}
  {next : Option ℕ}

theorem keepsOutcomes_next (h : state.Unsettled index) (patch : Patch) :
    state.KeepsOutcomes (state.next index patch) := by
  intro i item hitem hsettled
  rw [getElem?_next]
  split
  · next heq =>
    subst heq
    obtain ⟨old,hold,hunsettled⟩ := h
    rw [hold] at hitem
    obtain rfl := some.inj hitem
    rw [hsettled] at hunsettled
    cases hunsettled
  · exact hitem

theorem Progress.KeepsOutcomes.trans {a b c : Progress} (h : a.KeepsOutcomes b) (h' : b.KeepsOutcomes c) :
    a.KeepsOutcomes c :=
  fun i item hitem hsettled => h' i item (h i item hitem hsettled) hsettled

theorem unsettled_next_iff (hne : i ≠ index) : (state.next index patch).Unsettled i ↔ state.Unsettled i := by
  rw [Progress.Unsettled,Progress.Unsettled,getElem?_next,if_neg (Ne.symm hne)]

theorem unsettled_next_self (h : state.Unsettled index) :
    (state.next index patch).Unsettled index ↔ nextIndex index patch = some index := by
  obtain ⟨item,hitem,-⟩ := h
  rw [Progress.Unsettled,getElem?_next,if_pos rfl,hitem]
  cases patch with
  | running | succeeded | failed => simp [Item.patch,Item.settled,nextIndex]

theorem targets_next (state : Progress) (index : ℕ) (patch : Patch) :
    (state.next index patch).items.map (·.toTarget) = state.items.map (·.toTarget) := by
  refine ext_getElem? fun i => ?_
  rw [getElem?_map,getElem?_map,getElem?_next]
  split
  · cases state.items[i]? with
    | none => rfl
    | some item =>
      cases patch with
      | running | succeeded | failed => rfl
  · rfl

/-- The whole batch is completed when every item has an outcome. -/
theorem completed_iff (h : state.isValid) : state.state = .completed ↔ ∀ i, ¬ state.Unsettled i := by
  simp only [Progress.isValid,Bool.and_eq_true,beq_iff_eq] at h
  have hall : (state.state = .completed) ↔ state.items.all Item.settled := by
    rw [← h.1.2,decide_eq_true_eq]
  rw [hall,List.all_eq_true]
  constructor
  · rintro hsettled i ⟨item,hitem,hunsettled⟩
    rw [hsettled item (mem_of_getElem? hitem)] at hunsettled
    cases hunsettled
  · intro hnone item hitem
    obtain ⟨i,hi⟩ := mem_iff_getElem?.mp hitem
    by_contra hsettled
    exact hnone i ⟨item,hi,eq_false_of_ne_true hsettled⟩

theorem mem_pendingIndexes : i ∈ pendingIndexes state ↔ state.Unsettled i := by
  rw [pendingIndexes,mem_filter,mem_range]
  constructor
  · rintro ⟨hlt,hany⟩
    obtain ⟨item,hitem,hunsettled⟩ := any_eq_true _ _ |>.mp hany
    exact ⟨item,hitem,by simpa using hunsettled⟩
  · rintro ⟨item,hitem,hunsettled⟩
    refine ⟨(List.getElem?_eq_some_iff.mp hitem).1,?_⟩
    rw [hitem]
    simpa using hunsettled

def Worker.held : Worker → Option ℕ
  | updating index _ => some index
  | publishing next => next
  | archiving index => some index
  | _ => none

def Worker.willGive : Worker → Option ℕ
  | updating index .running => some index
  | publishing next => next
  | _ => none

variable {worker : Worker}

theorem Worker.held_of_willGive (h : worker.willGive = some i) : worker.held = some i := by
  cases worker with
  | updating index patch =>
    cases patch with
    | running => exact h
    | succeeded | failed => cases h
  | publishing next => exact h
  | archiving | ready | done | rejected => cases h

def Execution.heldBy (execution : Execution) (k : ℕ) : Option ℕ := execution.workers[k]?.bind Worker.held

def Execution.untaken (execution : Execution) : List ℕ := execution.pending.drop execution.cursor

/-- Every item without an outcome is taken by one worker or by none, and none is forgotten unless a change failed. -/
structure Execution.Sound (execution : Execution) : Prop where
  nodup : execution.untaken.Nodup
  untaken : ∀ i ∈ execution.untaken, execution.state.Unsettled i ∧ ∀ k, execution.heldBy k ≠ some i
  held : ∀ k i, execution.heldBy k = some i → execution.state.Unsettled i
  unique : ∀ k l i, execution.heldBy k = some i → execution.heldBy l = some i → k = l
  kept : ∀ i, execution.state.Unsettled i →
    (∃ k,execution.heldBy k = some i) ∨ i ∈ execution.untaken ∨ .rejected ∈ execution.workers
  done : .done ∈ execution.workers → execution.untaken = []
  rejected : execution.rejected → .rejected ∈ execution.workers ∧ execution.chain = []
  nonempty : execution.workers ≠ []

variable {k : ℕ}

theorem heldBy_eq (h : execution.workers[k]? = some worker) : execution.heldBy k = worker.held := by
  rw [Execution.heldBy,h]
  rfl

theorem heldBy_setWorker (h : execution.workers[k]? = some old) (worker : Worker) (l : ℕ) :
    (execution.setWorker k worker).heldBy l = if l = k then worker.held else execution.heldBy l := by
  have hlt := (List.getElem?_eq_some_iff.mp h).1
  rw [Execution.heldBy,Execution.setWorker,List.getElem?_set]
  by_cases heq : l = k
  · subst heq
    rw [if_pos rfl,if_pos hlt,if_pos rfl]
    rfl
  · rw [if_neg (Ne.symm heq),if_neg heq]
    rfl

theorem mem_workers_setWorker {worker : Worker} (h : other ∈ (execution.setWorker k worker).workers) :
    other ∈ execution.workers ∨ other = worker := mem_or_eq_of_mem_set h

theorem mem_setWorker_of_ne (hold : execution.workers[k]? = some old) (worker : Worker)
    (hne : other ≠ old) (h : other ∈ execution.workers) : other ∈ (execution.setWorker k worker).workers := by
  obtain ⟨l,hl⟩ := mem_iff_getElem?.mp h
  refine mem_iff_getElem?.mpr ⟨l,?_⟩
  rw [Execution.setWorker,getElem?_set_ne]
  · exact hl
  · rintro rfl
    rw [hold] at hl
    exact hne (some.inj hl).symm

theorem worker_mem_setWorker (hold : execution.workers[k]? = some old) (worker : Worker) :
    worker ∈ (execution.setWorker k worker).workers :=
  List.mem_iff_getElem?.mpr ⟨k,List.getElem?_set_self (List.getElem?_eq_some_iff.mp hold).1⟩

theorem setWorker_ne_nil (k : ℕ) (worker : Worker) (h : execution.workers ≠ []) :
    (execution.setWorker k worker).workers ≠ [] := by
  rw [Execution.setWorker,ne_eq,set_eq_nil_iff]
  exact h

section

variable (h : execution.Sound)
include h

theorem Execution.Sound.setChain {chain : List ℕ}
    (hchain : execution.rejected → chain = []) : Execution.Sound { execution with chain := chain } where
  nodup := h.nodup
  untaken := h.untaken
  held := h.held
  unique := h.unique
  kept := h.kept
  done := h.done
  rejected := fun hrejected => ⟨(h.rejected hrejected).1,hchain hrejected⟩
  nonempty := h.nonempty

theorem Execution.Sound.setWorker (worker : Worker)
    (hold : execution.workers[k]? = some old) (hheld : worker.held = old.held) (hne : .rejected ≠ old)
    (hdone : .done = worker → execution.untaken = []) : (execution.setWorker k worker).Sound := by
  have hsame (l : ℕ) : (execution.setWorker k worker).heldBy l = execution.heldBy l := by
    rw [heldBy_setWorker hold]
    split
    · next heq => rw [heq,heldBy_eq hold,hheld]
    · rfl
  refine ⟨h.nodup,?_,?_,?_,?_,?_,?_,setWorker_ne_nil k worker h.nonempty⟩
  · intro i hi
    refine ⟨(h.untaken i hi).1,fun l => ?_⟩
    rw [hsame]
    exact (h.untaken i hi).2 l
  · intro l i hi
    rw [hsame] at hi
    exact h.held l i hi
  · intro l m i hl hm
    rw [hsame] at hl hm
    exact h.unique l m i hl hm
  · intro i hi
    rcases h.kept i hi with ⟨l,hl⟩ | huntaken | hrejected
    · exact .inl ⟨l,(hsame l).trans hl⟩
    · exact .inr (.inl huntaken)
    · exact .inr (.inr (mem_setWorker_of_ne hold worker hne hrejected))
  · intro hmem
    rcases mem_workers_setWorker hmem with hmem | heq
    · exact h.done hmem
    · exact hdone heq
  · intro hrejected
    exact ⟨mem_setWorker_of_ne hold worker hne (h.rejected hrejected).1,(h.rejected hrejected).2⟩

theorem Execution.Sound.forget (hstate : later.state = execution.state)
    (huntaken : later.untaken.Sublist execution.untaken)
    (hheld : ∀ k i,later.heldBy k = some i → execution.heldBy k = some i)
    (hrejected : .rejected ∈ later.workers) (hdone : .done ∈ later.workers → .done ∈ execution.workers)
    (hchain : later.rejected → later.chain = []) : later.Sound where
  nodup := h.nodup.sublist huntaken
  untaken := by
    intro i hi
    rw [hstate]
    exact ⟨(h.untaken i (huntaken.subset hi)).1,fun k hk => (h.untaken i (huntaken.subset hi)).2 k (hheld k i hk)⟩
  held := by
    intro k i hk
    rw [hstate]
    exact h.held k i (hheld k i hk)
  unique := fun k l i hk hl => h.unique k l i (hheld k i hk) (hheld l i hl)
  kept := fun _ _ => .inr (.inr hrejected)
  done := by
    intro hmem
    have hnil := h.done (hdone hmem)
    rw [hnil] at huntaken
    exact eq_nil_of_sublist_nil huntaken
  rejected := fun hr => ⟨hrejected,hchain hr⟩
  nonempty := ne_nil_of_mem hrejected

theorem Execution.Sound.reject (hmem : worker ∈ execution.workers)
    (hupdating : worker.isUpdating) : execution.reject.Sound := by
  refine h.forget rfl (List.Sublist.refl _) ?_ ?_ ?_ (fun _ => rfl)
  · intro k i hk
    rw [Execution.heldBy,Execution.reject,getElem?_map] at hk
    rw [Execution.heldBy]
    cases hworker : execution.workers[k]? with
    | none =>
      rw [hworker] at hk
      cases hk
    | some other =>
      rw [hworker,map_some,bind_some] at hk
      rw [bind_some]
      split at hk
      · cases hk
      · exact hk
  · exact mem_map.mpr ⟨worker,hmem,if_pos hupdating⟩
  · intro hdone
    obtain ⟨other,hother,heq⟩ := mem_map.mp hdone
    split at heq
    · cases heq
    · exact heq ▸ hother

theorem Execution.Sound.rejectWorker (hold : execution.workers[k]? = some old)
    (cursor : ℕ) (hcursor : execution.cursor ≤ cursor) (hrejected : execution.rejected) :
    ({ execution with cursor := cursor }.setWorker k .rejected).Sound := by
  have hold' : ({ execution with cursor := cursor } : Execution).workers[k]? = some old := hold
  refine h.forget rfl ?_ ?_ ?_ ?_ (fun _ => (h.rejected hrejected).2)
  · exact drop_sublist_drop_left execution.pending hcursor
  · intro l i hl
    rw [heldBy_setWorker hold'] at hl
    split at hl
    · cases hl
    · exact hl
  · exact worker_mem_setWorker hold' .rejected
  · intro hdone
    rcases mem_workers_setWorker hdone with hdone | heq
    · exact hdone
    · cases heq

theorem Execution.Sound.archived (hold : execution.workers[k]? = some (.archiving index)) (patch : Patch) :
    (execution.update k index patch).Sound := by
  rw [Execution.update]
  split
  · next hrejected => exact h.rejectWorker hold execution.cursor (Nat.le_refl _) hrejected
  · next hrejected =>
    have hset := h.setWorker (.updating index patch) hold rfl (fun hc => by cases hc) (fun hc => by cases hc)
    exact hset.setChain fun hr => absurd hr hrejected

end

theorem untaken_eq_cons (h : execution.pending[execution.cursor]? = some index) :
    execution.untaken = index :: execution.pending.drop (execution.cursor + 1) := by
  obtain ⟨hlt,heq⟩ := List.getElem?_eq_some_iff.mp h
  rw [Execution.untaken,drop_eq_getElem_cons hlt,heq]

theorem untaken_eq_nil (h : execution.pending[execution.cursor]? = none) : execution.untaken = [] :=
  drop_eq_nil_of_le (getElem?_eq_none_iff.mp h)

theorem Execution.Sound.takeNext (h : execution.Sound) (hold : execution.workers[k]? = some .ready)
    (hindex : execution.pending[execution.cursor]? = some index) :
    ({ execution with cursor := execution.cursor + 1 }.update k index .running).Sound := by
  rw [Execution.update]
  split
  · next hrejected => exact h.rejectWorker hold _ (Nat.le_succ _) hrejected
  next hrejected =>
  have huntaken := untaken_eq_cons hindex
  have hnodup := h.nodup
  rw [huntaken,nodup_cons] at hnodup
  have hmine := h.untaken index (by rw [huntaken]; exact mem_cons_self)
  have hold' : ({ execution with cursor := execution.cursor + 1 } : Execution).workers[k]? = some .ready := hold
  have hheld (l : ℕ) : ({ execution with cursor := execution.cursor + 1 }.setWorker k
      (.updating index .running)).heldBy l = if l = k then some index else execution.heldBy l :=
    heldBy_setWorker hold' _ l
  have hset : ({ execution with cursor := execution.cursor + 1 }.setWorker k (.updating index .running)).Sound := by
    refine ⟨hnodup.2,?_,?_,?_,?_,?_,?_,setWorker_ne_nil k _ h.nonempty⟩
    · intro i hi
      have hi' := h.untaken i (by rw [huntaken]; exact mem_cons_of_mem _ hi)
      refine ⟨hi'.1,fun l hl => ?_⟩
      rw [hheld] at hl
      split at hl
      · exact hnodup.1 (some.inj hl ▸ hi)
      · exact hi'.2 l hl
    · intro l i hl
      rw [hheld] at hl
      split at hl
      · exact some.inj hl ▸ hmine.1
      · exact h.held l i hl
    · intro l m i hl hm
      rw [hheld] at hl hm
      split at hl
      · split at hm
        · next hlk hmk => exact hlk.trans hmk.symm
        · obtain rfl := some.inj hl
          exact absurd hm (hmine.2 m)
      · split at hm
        · obtain rfl := some.inj hm
          exact absurd hl (hmine.2 l)
        · exact h.unique l m i hl hm
    · intro i hi
      rcases h.kept i hi with ⟨l,hl⟩ | hmem | hmem
      · refine .inl ⟨l,?_⟩
        rw [hheld,if_neg]
        · exact hl
        · rintro rfl
          rw [heldBy_eq hold] at hl
          cases hl
      · rw [huntaken] at hmem
        rcases mem_cons.mp hmem with rfl | hmem
        · exact .inl ⟨k,by rw [hheld,if_pos rfl]⟩
        · exact .inr (.inl hmem)
      · refine .inr (.inr ?_)
        exact mem_setWorker_of_ne hold' _ (fun hc => by cases hc) hmem
    · intro hdone
      rcases mem_workers_setWorker hdone with hdone | heq
      · rw [h.done hdone] at huntaken
        cases huntaken
      · cases heq
    · intro hr
      exact absurd hr hrejected
  exact hset.setChain fun hr => absurd hr hrejected

theorem Execution.Sound.persisted (h : execution.Sound)
    (hold : execution.workers[k]? = some (.updating index patch)) : (execution.persisted k index patch).Sound := by
  have hmine : execution.heldBy k = some index := heldBy_eq hold
  have hindex := h.held k index hmine
  have hheld (l : ℕ) : (execution.persisted k index patch).heldBy l =
      if l = k then nextIndex index patch else execution.heldBy l := heldBy_setWorker hold _ l
  -- The other items are as they were.
  have hother (i : ℕ) (hne : i ≠ index) : (execution.persisted k index patch).state.Unsettled i ↔
      execution.state.Unsettled i := unsettled_next_iff hne
  have hself : (execution.persisted k index patch).state.Unsettled index ↔ nextIndex index patch = some index :=
    unsettled_next_self hindex
  have hnext (i : ℕ) (hi : nextIndex index patch = some i) : i = index := by
    cases patch with
    | running => exact (some.inj hi).symm
    | succeeded | failed => cases hi
  refine ⟨h.nodup,?_,?_,?_,?_,?_,?_,setWorker_ne_nil k _ h.nonempty⟩
  · intro i hi
    obtain ⟨hunsettled,hfree⟩ := h.untaken i hi
    have hne : i ≠ index := by
      rintro rfl
      exact hfree k hmine
    refine ⟨(hother i hne).mpr hunsettled,fun l hl => ?_⟩
    rw [hheld] at hl
    split at hl
    · exact hne (hnext i hl)
    · exact hfree l hl
  · intro l i hl
    rw [hheld] at hl
    split at hl
    · obtain rfl := hnext i hl
      exact hself.mpr hl
    · next hne =>
      have hi : i ≠ index := by
        rintro rfl
        exact hne (h.unique l k i hl hmine)
      exact (hother i hi).mpr (h.held l i hl)
  · intro l m i hl hm
    rw [hheld] at hl hm
    split at hl
    · next hlk =>
      split at hm
      · next hmk => exact hlk.trans hmk.symm
      · obtain rfl := hnext i hl
        exact hlk.trans (h.unique k m i hmine hm)
    · split at hm
      · next hmk =>
        obtain rfl := hnext i hm
        exact (h.unique l k i hl hmine).trans hmk.symm
      · exact h.unique l m i hl hm
  · intro i hi
    by_cases hne : i = index
    · subst hne
      exact .inl ⟨k,by rw [hheld,if_pos rfl]; exact hself.mp hi⟩
    · rcases h.kept i ((hother i hne).mp hi) with ⟨l,hl⟩ | hmem | hmem
      · refine .inl ⟨l,?_⟩
        rw [hheld,if_neg]
        · exact hl
        · rintro rfl
          rw [hmine] at hl
          exact hne (some.inj hl).symm
      · exact .inr (.inl hmem)
      · exact .inr (.inr (mem_setWorker_of_ne hold _ (fun hc => by cases hc) hmem))
  · intro hdone
    rcases mem_workers_setWorker hdone with hdone | heq
    · exact h.done hdone
    · cases heq
  · intro hr
    exact ⟨mem_setWorker_of_ne hold _ (fun hc => by cases hc) (h.rejected hr).1,(h.rejected hr).2⟩

theorem Execution.Sound.published (h : execution.Sound)
    (hold : execution.workers[k]? = some (.publishing next)) : (execution.published k next).Sound := by
  have hchain (hr : execution.rejected) : execution.chain.tail = [] := by
    rw [(h.rejected hr).2]
    rfl
  cases next with
  | none =>
    have hset := h.setWorker .ready hold rfl (fun hc => by cases hc) (fun hc => by cases hc)
    exact hset.setChain hchain
  | some index =>
    have hset := h.setWorker (.archiving index) hold rfl (fun hc => by cases hc) (fun hc => by cases hc)
    exact hset.setChain hchain

theorem sound_begin (hconcurrency : 0 < concurrency) (h : ∃ i,state.Unsettled i) :
    (Execution.begin state concurrency).Sound := by
  have hready (k : ℕ) (worker : Worker) (hworker : (Execution.begin state concurrency).workers[k]? = some worker) :
      worker = .ready := eq_of_mem_replicate (mem_of_getElem? hworker)
  have hheld (k i : ℕ) : (Execution.begin state concurrency).heldBy k ≠ some i := by
    intro hk
    obtain ⟨worker,hworker,hi⟩ := bind_eq_some_iff.mp hk
    rw [hready k worker hworker] at hi
    cases hi
  have huntaken : (Execution.begin state concurrency).untaken = pendingIndexes state := drop_zero
  have hne (worker : Worker) (hworker : worker ≠ .ready) : worker ∉ (Execution.begin state concurrency).workers :=
    fun hmem => hworker (eq_of_mem_replicate hmem)
  refine ⟨?_,?_,?_,?_,?_,?_,?_,?_⟩
  · rw [huntaken]
    exact nodup_range.filter _
  · intro i hi
    rw [huntaken] at hi
    exact ⟨mem_pendingIndexes.mp hi,fun k => hheld k i⟩
  · intro k i hk
    exact absurd hk (hheld k i)
  · intro k l i hk
    exact absurd hk (hheld k i)
  · intro i hi
    refine .inr (.inl ?_)
    rw [huntaken]
    exact mem_pendingIndexes.mpr hi
  · intro hdone
    exact absurd hdone (hne _ fun hc => by cases hc)
  · intro hr
    cases hr
  · obtain ⟨i,hi⟩ := h
    have hpos := length_pos_of_mem (mem_pendingIndexes.mpr hi)
    rw [Execution.begin,ne_eq,replicate_eq_nil_iff]
    omega

/-- When the workers are through and none was rejected, every item has an outcome. -/
theorem Execution.Sound.settled (h : execution.Sound) (hall : ∀ worker ∈ execution.workers,worker = .done) (i : ℕ) :
    ¬ execution.state.Unsettled i := by
  intro hi
  rcases h.kept i hi with ⟨k,hk⟩ | hmem | hmem
  · obtain ⟨worker,hworker,hheld⟩ := bind_eq_some_iff.mp hk
    rw [hall worker (mem_of_getElem? hworker)] at hheld
    cases hheld
  · obtain ⟨worker,hworker⟩ := exists_mem_of_ne_nil _ h.nonempty
    rw [h.done (hall worker hworker ▸ hworker)] at hmem
    cases hmem
  · have hc := hall _ hmem
    cases hc

def Event.checkpoint : Event → Option Progress
  | .persisted progress => some progress
  | _ => none

def Event.item : Event → Option (ℕ × ℕ)
  | .given run index => some (run,index)
  | _ => none

/-- The checkpoints of the history, the last one first. -/
def persistedIn (events : List Event) : List Progress := events.filterMap Event.checkpoint

/-- The items that were given to `archive`, each with the number of the execution. -/
def givenIn (events : List Event) : List (ℕ × ℕ) := events.filterMap Event.item

/-- An item whose outcome was recorded before is not given to `archive`. -/
def NotAgain (later earlier : Event) : Prop :=
  ∀ run i p, later = .given run i → earlier = .persisted p → ∀ item : Item, p.items[i]? = some item →
    item.settled = false

variable {p : Progress}

theorem mem_persistedIn {events : List Event} : p ∈ persistedIn events ↔ .persisted p ∈ events := by
  rw [persistedIn,mem_filterMap]
  constructor
  · rintro ⟨event,hevent,heq⟩
    cases event with
    | persisted progress =>
      obtain rfl := some.inj heq
      exact hevent
    | given | published | returned => cases heq
  · intro hevent
    exact ⟨_,hevent,rfl⟩

structure History (batchId : JsString) (targets : List Target) (checkpoint : Option Progress) (run : ℕ)
    (events : List Event) : Prop where
  latest : (persistedIn events).head? = checkpoint
  revisions : (persistedIn events).map (·.revision) = (range' 1 (persistedIn events).length).reverse
  keeps : ∀ p ∈ persistedIn events, p.isValid ∧ ∃ c, checkpoint = some c ∧ p.KeepsOutcomes c
  belongs : ∀ c, checkpoint = some c → c.batchId = batchId ∧ c.items.map (·.toTarget) = targets
  notAgain : events.Pairwise NotAgain
  once : (givenIn events).Nodup
  runs : ∀ n i, (n,i) ∈ givenIn events → n ≤ run
  returned : ∀ n p, .returned n p ∈ events →
    p.state = .completed ∧ .persisted p ∈ events ∧ .published n p ∈ events

def Process.Sound (batchId : JsString) (targets : List Target) (checkpoint : Option Progress) (run : ℕ)
    (events : List Event) : Process → Prop
  | .stopped => True
  | .creating state concurrency =>
    0 < concurrency ∧ isRequest targets ∧ state = initialProgress batchId targets ∧
      ∀ i, (run,i) ∉ givenIn events
  | .republishing state => checkpoint = some state ∧ state.state = .completed
  | .working execution =>
    execution.Sound ∧ (execution.rejected = false → checkpoint = some execution.state) ∧
      (∀ i,(run,i) ∈ givenIn events → i ∉ execution.untaken ∧ ∀ worker ∈ execution.workers,worker.willGive ≠ some i) ∧
      ((∃ next,.publishing next ∈ execution.workers) ∨ .published run execution.state ∈ events ∨
        (∃ i,execution.state.Unsettled i) ∨ execution.rejected)

structure System.Sound (batchId : JsString) (targets : List Target) (system : System) : Prop where
  history : History batchId targets system.checkpoint system.run system.events
  process : system.process.Sound batchId targets system.checkpoint system.run system.events

variable {batchId targets} {system : System} {checkpoint : Option Progress} {run : ℕ} {events : List Event}
  {value : Progress} {previousRevision : ℕ}

section

variable (h : History batchId targets checkpoint run events)
include h

theorem History.revision_eq : (checkpoint.map (·.revision)).getD 0 = (persistedIn events).length := by
  have hrevisions := h.revisions
  rw [← h.latest]
  cases hp : persistedIn events with
  | nil => rfl
  | cons p ps =>
    rw [hp,length_cons,range'_1_concat,reverse_append,map_cons] at hrevisions
    have hhead := (cons.inj hrevisions).1
    simp only [head?_cons,map_some,getD_some,length_cons]
    omega

theorem History.valid {c : Progress} (hc : checkpoint = some c) : c ∈ persistedIn events ∧ c.isValid := by
  have hmem : c ∈ persistedIn events := mem_of_head? (h.latest.trans hc)
  exact ⟨hmem,(h.keeps c hmem).1⟩

theorem History.returned_cons {event : Event} {n : ℕ} (hp : .returned n p ∈ event :: events)
    (hne : .returned n p ≠ event) :
    p.state = .completed ∧ .persisted p ∈ event :: events ∧ .published n p ∈ event :: events := by
  obtain ⟨hcompleted,hmem,hpublished⟩ := h.returned n p ((mem_cons.mp hp).resolve_left hne)
  exact ⟨hcompleted,mem_cons_of_mem _ hmem,mem_cons_of_mem _ hpublished⟩

theorem History.replaced (haccepts : accepts checkpoint value previousRevision)
    (hrevision : value.revision = previousRevision + 1) (hkeeps : ∀ c,checkpoint = some c → c.KeepsOutcomes value)
    (hbelongs : value.batchId = batchId ∧ value.items.map (·.toTarget) = targets) :
    History batchId targets (some value) run (.persisted value :: events) := by
  rw [accepts,Bool.and_eq_true,decide_eq_true_eq,h.revision_eq] at haccepts
  obtain ⟨hprevious,hvalid⟩ := haccepts
  have hpersisted : persistedIn (.persisted value :: events) = value :: persistedIn events := rfl
  have hgiven : givenIn (.persisted value :: events) = givenIn events := rfl
  refine ⟨?_,?_,?_,?_,?_,?_,?_,?_⟩
  · rw [hpersisted]
    rfl
  · rw [hpersisted,map_cons,length_cons,range'_1_concat,reverse_append,h.revisions,hrevision,← hprevious,Nat.add_comm]
    rfl
  · intro p hp
    rw [hpersisted] at hp
    rcases mem_cons.mp hp with rfl | hp
    · exact ⟨hvalid,p,rfl,fun i item hitem _ => hitem⟩
    · obtain ⟨hpvalid,c,hc,hpc⟩ := h.keeps p hp
      exact ⟨hpvalid,value,rfl,hpc.trans (hkeeps c hc)⟩
  · intro c hc
    obtain rfl := some.inj hc
    exact hbelongs
  · refine pairwise_cons.mpr ⟨?_,h.notAgain⟩
    intro earlier _ n i p hc
    cases hc
  · rw [hgiven]
    exact h.once
  · intro n i hi
    exact h.runs n i hi
  · exact fun n p hp => h.returned_cons hp fun hc => by cases hc

theorem History.published (n : ℕ) (p : Progress) :
    History batchId targets checkpoint run (.published n p :: events) := by
  refine ⟨h.latest,h.revisions,h.keeps,h.belongs,?_,h.once,h.runs,?_⟩
  · refine pairwise_cons.mpr ⟨?_,h.notAgain⟩
    intro earlier _ n i p hc
    cases hc
  · exact fun m q hq => h.returned_cons hq fun hc => by cases hc

theorem History.given (hunsettled : ∃ c,checkpoint = some c ∧ c.Unsettled i) (hnew : (run,i) ∉ givenIn events) :
    History batchId targets checkpoint run (.given run i :: events) := by
  have hgiven : givenIn (.given run i :: events) = (run,i) :: givenIn events := rfl
  refine ⟨h.latest,h.revisions,h.keeps,h.belongs,?_,?_,?_,?_⟩
  · refine pairwise_cons.mpr ⟨?_,h.notAgain⟩
    rintro earlier hearlier n j p ⟨⟩ rfl item hitem
    -- An outcome that was recorded would still be in the checkpoint.
    obtain ⟨-,c,hc,hkeeps⟩ := h.keeps p (mem_persistedIn.mpr hearlier)
    obtain ⟨c',hc',current,hcurrent,hopen⟩ := hunsettled
    rw [hc] at hc'
    obtain rfl := some.inj hc'
    by_contra hsettled
    rw [hkeeps i item hitem (eq_true_of_ne_false hsettled)] at hcurrent
    obtain rfl := some.inj hcurrent
    exact hsettled hopen
  · rw [hgiven]
    exact nodup_cons.mpr ⟨hnew,h.once⟩
  · intro n j hj
    rw [hgiven] at hj
    rcases mem_cons.mp hj with heq | hj
    · exact Nat.le_of_eq (Prod.mk.inj heq).1
    · exact h.runs n j hj
  · exact fun n p hp => h.returned_cons hp fun hc => by cases hc

theorem History.returns (hp : p.state = .completed ∧ .persisted p ∈ events ∧ .published run p ∈ events) :
    History batchId targets checkpoint run (.returned run p :: events) := by
  refine ⟨h.latest,h.revisions,h.keeps,h.belongs,?_,h.once,h.runs,?_⟩
  · refine pairwise_cons.mpr ⟨?_,h.notAgain⟩
    intro earlier _ n i p hc
    cases hc
  · intro m q hq
    rcases mem_cons.mp hq with heq | hq
    · obtain ⟨rfl,rfl⟩ := Event.returned.inj heq
      exact ⟨hp.1,mem_cons_of_mem _ hp.2.1,mem_cons_of_mem _ hp.2.2⟩
    · obtain ⟨hcompleted,hmem,hpublished⟩ := h.returned m q hq
      exact ⟨hcompleted,mem_cons_of_mem _ hmem,mem_cons_of_mem _ hpublished⟩

theorem History.nextRun : History batchId targets checkpoint (run + 1) events ∧ ∀ i, (run + 1,i) ∉ givenIn events := by
  refine ⟨⟨h.latest,h.revisions,h.keeps,h.belongs,h.notAgain,h.once,?_,h.returned⟩,?_⟩
  · intro n i hi
    exact Nat.le_succ_of_le (h.runs n i hi)
  · intro i hi
    exact Nat.not_succ_le_self run (h.runs _ i hi)

end

theorem startState_ok (h : startState batchId targets concurrency checkpoint = .ok state) :
    isRequest targets ∧ 0 < concurrency ∧ state = checkpoint.getD (initialProgress batchId targets) := by
  simp only [startState] at h
  split at h
  · cases h
  · next hrequest =>
    split at h
    · cases h
    · next hconcurrency =>
      split at h
      · cases h
      · split at h
        · cases h
        · rw [not_or,Nat.not_lt] at hconcurrency
          exact ⟨eq_true_of_ne_false hrequest,hconcurrency.1,(Except.ok.inj h).symm⟩

theorem unsettled_initial (h : isRequest targets) : ∃ i, (initialProgress batchId targets).Unsettled i := by
  simp only [isRequest,Bool.and_eq_true,decide_eq_true_eq] at h
  cases targets with
  | nil => exact absurd h.1.1.1 (Nat.not_succ_le_zero 0)
  | cons target targets => exact ⟨0,_,rfl,rfl⟩

theorem working_begin (hconcurrency : 0 < concurrency) (hopen : ∃ i,state.Unsettled i)
    (hnone : ∀ i,(run,i) ∉ givenIn events) :
    (Process.working (.begin state concurrency)).Sound batchId targets (some state) run events :=
  ⟨sound_begin hconcurrency hopen,fun _ => rfl,fun i hi => absurd hi (hnone i),.inr (.inr (.inl hopen))⟩

theorem System.Sound.start (h : system.Sound batchId targets) (concurrency : ℕ) :
    (system.start batchId targets concurrency).Sound batchId targets := by
  obtain ⟨hhistory,hnone⟩ := h.history.nextRun
  rw [System.start]
  split
  · exact ⟨hhistory,trivial⟩
  next state hstart =>
  obtain ⟨hrequest,hconcurrency,hstate⟩ := startState_ok hstart
  refine ⟨hhistory,?_⟩
  cases hc : system.checkpoint with
  | none =>
    rw [hc] at hstate
    exact ⟨hconcurrency,hrequest,hstate,hnone⟩
  | some checkpoint =>
    rw [hc,getD_some] at hstate
    subst hstate
    by_cases hcompleted : state.state = .completed
    · simp only [hcompleted,if_true]
      exact ⟨rfl,hcompleted⟩
    · simp only [hcompleted,if_false]
      refine working_begin hconcurrency ?_ hnone
      by_contra hsettled
      exact hcompleted ((completed_iff (h.history.valid hc).2).mpr (not_exists.mp hsettled))

theorem System.Sound.write (h : History batchId targets system.checkpoint system.run system.events)
    (hrevision : value.revision = previousRevision + 1)
    (hkeeps : ∀ c,system.checkpoint = some c → accepts system.checkpoint value previousRevision → c.KeepsOutcomes value)
    (hbelongs : value.batchId = batchId ∧ value.items.map (·.toTarget) = targets) (outcome : WriteOutcome)
    {completed failed : Process}
    (hcompleted : completed.Sound batchId targets (some value) system.run (.persisted value :: system.events))
    (hreplaced : failed.Sound batchId targets (some value) system.run (.persisted value :: system.events))
    (hfailed : failed.Sound batchId targets system.checkpoint system.run system.events) :
    (system.write value previousRevision outcome completed failed).Sound batchId targets := by
  simp only [System.write]
  split
  · next haccepts =>
    have hhistory := h.replaced haccepts hrevision (fun c hc => hkeeps c hc haccepts) hbelongs
    cases outcome with
    | completes => exact ⟨hhistory,hcompleted⟩
    | fails replaced =>
      cases replaced with
      | true => exact ⟨hhistory,hreplaced⟩
      | false => exact ⟨h,hfailed⟩
  · exact ⟨h,hfailed⟩

/-- A worker at the head of the chain is there because no change failed. -/
theorem head_eq (hsound : execution.Sound) (h : execution.head = some (k,worker)) :
    execution.workers[k]? = some worker ∧ execution.rejected = false := by
  obtain ⟨l,hl,hworker⟩ := bind_eq_some_iff.mp h
  obtain ⟨other,hother,heq⟩ := map_eq_some_iff.mp hworker
  obtain ⟨rfl,rfl⟩ := Prod.mk.inj heq
  refine ⟨hother,?_⟩
  cases hrejected : execution.rejected with
  | false => rfl
  | true =>
    rw [(hsound.rejected hrejected).2] at hl
    cases hl

/-- After a change failed nothing is written and nothing is given to `archive`. -/
theorem working_reject (hsound : execution.Sound) (hmem : worker ∈ execution.workers)
    (hupdating : worker.isUpdating) (hgiven : ∀ i,(run,i) ∈ givenIn events → i ∉ execution.untaken ∧
      ∀ worker ∈ execution.workers,worker.willGive ≠ some i) :
    (Process.working execution.reject).Sound batchId targets checkpoint run events := by
  refine ⟨hsound.reject hmem hupdating,?_,?_,.inr (.inr (.inr rfl))⟩
  · intro hrejected
    cases hrejected
  · intro i hi
    refine ⟨(hgiven i hi).1,?_⟩
    intro other hother hgive
    obtain ⟨before,hbefore,heq⟩ := mem_map.mp hother
    split at heq
    · rw [← heq] at hgive
      cases hgive
    · rw [← heq] at hgive
      exact (hgiven i hi).2 before hbefore hgive

section

variable (h : (Process.working execution).Sound batchId targets checkpoint run events)
include h

/-- The executions that a worker goes on in: what it gives is new. -/
theorem working_setWorker {worker : Worker}
    (hold : execution.workers[k]? = some old) (hpublishing : ∀ next,old ≠ .publishing next) (hsound : later.Sound)
    (hstate : later.state = execution.state) (hrejected : later.rejected = execution.rejected)
    (hworkers : later.workers = execution.workers.set k worker) (huntaken : later.untaken ⊆ execution.untaken)
    (hgive : ∀ i,worker.willGive = some i → i ∈ execution.untaken) :
    (Process.working later).Sound batchId targets checkpoint run events := by
  obtain ⟨-,hcheckpoint,hgiven,hpublished⟩ := h
  refine ⟨hsound,?_,?_,?_⟩
  · rw [hstate,hrejected]
    exact hcheckpoint
  · intro i hi
    refine ⟨fun hmem => (hgiven i hi).1 (huntaken hmem),?_⟩
    intro other hother hwill
    rw [hworkers] at hother
    rcases mem_or_eq_of_mem_set hother with hother | rfl
    · exact (hgiven i hi).2 other hother hwill
    · exact (hgiven i hi).1 (hgive i hwill)
  · rw [hstate,hrejected,hworkers]
    rcases hpublished with ⟨next,hnext⟩ | hrest
    · exact .inl ⟨next,mem_setWorker_of_ne hold worker (hpublishing next).symm hnext⟩
    · exact .inr hrest

theorem working_take (htake : execution.take k = some later) :
    (Process.working later).Sound batchId targets checkpoint run events := by
  have hsound := h.1
  simp only [Execution.take] at htake
  split at htake
  · next hold =>
    split at htake
    · next hnone =>
      obtain rfl := some.inj htake
      have hnil := untaken_eq_nil hnone
      refine working_setWorker h hold (fun next hc => by cases hc)
        (hsound.setWorker _ hold rfl (fun hc => by cases hc) fun _ => hnil) rfl rfl rfl (List.Subset.refl _) ?_
      intro i hi
      cases hi
    · next index hindex =>
      obtain rfl := some.inj htake
      have hcons := untaken_eq_cons hindex
      have hlater := hsound.takeNext hold hindex
      have hsubset : execution.pending.drop (execution.cursor + 1) ⊆ execution.untaken := by
        rw [hcons]
        exact subset_cons_self _ _
      rw [Execution.update] at hlater ⊢
      split at hlater
      · next hrejected =>
        rw [if_pos hrejected]
        refine working_setWorker h hold (fun next hc => by cases hc) hlater rfl rfl rfl hsubset ?_
        intro i hi
        cases hi
      · next hrejected =>
        rw [if_neg hrejected]
        refine working_setWorker h hold (fun next hc => by cases hc) hlater rfl rfl rfl hsubset ?_
        intro i hi
        obtain rfl := some.inj hi
        rw [hcons]
        exact mem_cons_self
  · cases htake

theorem working_update (hpatch : nextIndex index patch = none)
    (hold : execution.workers[k]? = some (.archiving index)) :
    (Process.working (execution.update k index patch)).Sound batchId targets checkpoint run events := by
  have hsound := h.1.archived hold patch
  rw [Execution.update] at hsound ⊢
  split at hsound
  · next hrejected =>
    rw [if_pos hrejected]
    refine working_setWorker h hold (fun next hc => by cases hc) hsound rfl rfl rfl (List.Subset.refl _) ?_
    intro i hi
    cases hi
  · next hrejected =>
    rw [if_neg hrejected]
    refine working_setWorker h hold (fun next hc => by cases hc) hsound rfl rfl rfl (List.Subset.refl _) ?_
    intro i hi
    cases patch with
    | running => cases hpatch
    | succeeded | failed => cases hi

theorem working_archived {failure : Option Failure} (harchived : execution.archived k failure = some later) :
    (Process.working later).Sound batchId targets checkpoint run events := by
  simp only [Execution.archived] at harchived
  split at harchived
  · next index hold =>
    split at harchived
    · obtain rfl := some.inj harchived
      exact working_update h rfl hold
    · obtain rfl := some.inj harchived
      exact working_update h rfl hold
  · cases harchived

/-- The item that is written next is not given to `archive` before it is published. -/
theorem working_persisted (hold : execution.workers[k]? = some (.updating index patch)) :
    (Process.working (execution.persisted k index patch)).Sound batchId targets
      (some (execution.state.next index patch)) run (.persisted (execution.state.next index patch) :: events) := by
  obtain ⟨hsound,-,hgiven,-⟩ := h
  refine ⟨hsound.persisted hold,fun _ => rfl,?_,.inl ⟨nextIndex index patch,worker_mem_setWorker hold _⟩⟩
  intro i hi
  have hi' := hgiven i hi
  refine ⟨hi'.1,?_⟩
  intro other hother hwill
  rcases mem_workers_setWorker hother with hother | rfl
  · exact hi'.2 other hother hwill
  · cases patch with
    | running => exact hi'.2 _ (mem_of_getElem? hold) hwill
    | succeeded | failed => cases hwill

end

/-- Another worker does not give the same item. -/
theorem willGive_of_published (hsound : execution.Sound) (hold : execution.workers[k]? = some (.publishing next))
    (hother : other ∈ (execution.published k next).workers) (hwill : other.willGive = some i) :
    other ∈ execution.workers ∧ next ≠ some i := by
  obtain ⟨l,hl⟩ := List.mem_iff_getElem?.mp hother
  have hlt := (List.getElem?_eq_some_iff.mp hold).1
  by_cases hlk : l = k
  · subst hlk
    have hself : (execution.published l next).workers[l]? = some (afterPublish next) := getElem?_set_self hlt
    rw [hself] at hl
    obtain rfl := some.inj hl
    cases next with
    | none | some => cases hwill
  · have hl' : execution.workers[l]? = some other := by
      rw [← hl]
      exact (getElem?_set_ne (Ne.symm hlk)).symm
    refine ⟨mem_of_getElem? hl',?_⟩
    rintro rfl
    have hheld : execution.heldBy l = some i := (heldBy_eq hl').trans (Worker.held_of_willGive hwill)
    exact hlk (hsound.unique l k i hheld (heldBy_eq hold))

theorem working_published (h : (Process.working execution).Sound batchId targets checkpoint run events)
    (hold : execution.workers[k]? = some (.publishing next)) :
    (Process.working (execution.published k next)).Sound batchId targets checkpoint run
      (execution.publishedEvents run next ++ events) := by
  obtain ⟨hsound,hcheckpoint,hgiven,-⟩ := h
  have hheld : execution.heldBy k = next := heldBy_eq hold
  have hmem (i : ℕ) (hi : (run,i) ∈ givenIn (execution.publishedEvents run next ++ events)) :
      next = some i ∨ (run,i) ∈ givenIn events := by
    cases next with
    | none => exact .inr hi
    | some index =>
      rcases mem_cons.mp hi with heq | hi
      · exact .inl (congrArg some (Prod.mk.inj heq).2.symm)
      · exact .inr hi
  refine ⟨hsound.published hold,hcheckpoint,?_,.inr (.inl ?_)⟩
  · intro i hi
    refine ⟨?_,?_⟩
    · intro huntaken
      rcases hmem i hi with rfl | hi
      · exact (hsound.untaken i huntaken).2 k hheld
      · exact (hgiven i hi).1 huntaken
    · intro other hother hwill
      obtain ⟨hother',hne⟩ := willGive_of_published hsound hold hother hwill
      exact (hgiven i ((hmem i hi).resolve_left hne)).2 other hother' hwill
  · refine mem_append_left _ ?_
    rw [Execution.publishedEvents]
    exact mem_append_right _ (mem_singleton.mpr rfl)

section

variable (h : History batchId targets checkpoint run events)
  (hprocess : (Process.working execution).Sound batchId targets checkpoint run events)
include h hprocess

theorem history_published
    (hold : execution.workers[k]? = some (.publishing next)) (hrejected : execution.rejected = false) :
    History batchId targets checkpoint run (execution.publishedEvents run next ++ events) := by
  obtain ⟨hsound,hcheckpoint,hgiven,-⟩ := hprocess
  have hpublished := h.published run execution.state
  cases next with
  | none => exact hpublished
  | some index =>
    refine hpublished.given ⟨execution.state,hcheckpoint hrejected,hsound.held k index (heldBy_eq hold)⟩ ?_
    intro hi
    exact (hgiven index hi).2 _ (mem_of_getElem? hold) rfl

theorem working_finish (hsettled : execution.workers.all Worker.isSettled)
    (hrejected : ¬ execution.workers.any Worker.isRejected) :
    execution.state.state = .completed ∧ .persisted execution.state ∈ events ∧
      .published run execution.state ∈ events := by
  obtain ⟨hsound,hcheckpoint,-,hpublished⟩ := hprocess
  have hdone (worker : Worker) (hworker : worker ∈ execution.workers) : worker = .done := by
    have hworkerSettled := all_eq_true.mp hsettled worker hworker
    cases worker with
    | done => rfl
    | rejected => exact absurd (any_eq_true.mpr ⟨_,hworker,rfl⟩) hrejected
    | ready | updating | publishing | archiving => cases hworkerSettled
  have hnotRejected : execution.rejected = false := by
    cases hr : execution.rejected with
    | false => rfl
    | true =>
      have hc := hdone _ (hsound.rejected hr).1
      cases hc
  have hstate := h.valid (hcheckpoint hnotRejected)
  have hnone := hsound.settled hdone
  refine ⟨(completed_iff hstate.2).mpr hnone,mem_persistedIn.mp hstate.1,?_⟩
  rcases hpublished with ⟨next,hnext⟩ | hmem | ⟨i,hi⟩ | hr
  · have hc := hdone _ hnext
    cases hc
  · exact hmem
  · exact absurd hi (hnone i)
  · rw [hnotRejected] at hr
    cases hr

end

variable {system' : System}

theorem System.Sound.persist (h : system.Sound batchId targets) (outcome : WriteOutcome)
    (hstep : system.perform batchId targets (.persist outcome) = some system') : system'.Sound batchId targets := by
  obtain ⟨hhistory,hprocess⟩ := h
  simp only [System.perform] at hstep
  split at hstep
  · next state concurrency hp =>
    rw [hp] at hprocess
    obtain ⟨hconcurrency,hrequest,rfl,hnone⟩ := hprocess
    obtain rfl := some.inj hstep
    have htargets : (initialProgress batchId targets).items.map (·.toTarget) = targets := by
      rw [initialProgress,List.map_map]
      exact map_id targets
    refine System.Sound.write hhistory rfl ?_ ⟨rfl,htargets⟩ outcome ?_ trivial trivial
    · intro c hc haccepts
      -- There is no checkpoint yet.
      rw [accepts,Bool.and_eq_true,decide_eq_true_eq,hhistory.revision_eq] at haccepts
      have hmem := (hhistory.valid hc).1
      rw [length_eq_zero_iff.mp haccepts.1] at hmem
      cases hmem
    · exact working_begin hconcurrency (unsettled_initial hrequest) hnone
  · next execution hp =>
    rw [hp] at hprocess
    split at hstep
    · next k index patch hhead =>
      obtain rfl := some.inj hstep
      obtain ⟨hold,hrejected⟩ := head_eq hprocess.1 hhead
      have hcheckpoint := hprocess.2.1 hrejected
      have hindex := hprocess.1.held k index (heldBy_eq hold)
      obtain ⟨hbatch,htargets⟩ := hhistory.belongs _ hcheckpoint
      have hreject {checkpoint : Option Progress} {events : List Event}
          (hevents : givenIn events = givenIn system.events) :
          (Process.working execution.reject).Sound batchId targets checkpoint system.run events := by
        refine working_reject hprocess.1 (mem_of_getElem? hold) rfl ?_
        rw [hevents]
        exact hprocess.2.2.1
      have hrevision : (execution.state.next index patch).revision = execution.state.revision + 1 := rfl
      refine System.Sound.write hhistory hrevision ?_ ⟨hbatch,?_⟩ outcome (working_persisted hprocess hold)
        (hreject rfl) (hreject rfl)
      · intro c hc _
        rw [hcheckpoint] at hc
        obtain rfl := some.inj hc
        exact keepsOutcomes_next hindex patch
      · rw [targets_next]
        exact htargets
    · cases hstep
  · cases hstep

theorem System.Sound.publish (h : system.Sound batchId targets) (returns : Bool)
    (hstep : system.perform batchId targets (.publish returns) = some system') : system'.Sound batchId targets := by
  obtain ⟨hhistory,hprocess⟩ := h
  simp only [System.perform] at hstep
  split at hstep
  · next state hp =>
    rw [hp] at hprocess
    split at hstep
    · obtain rfl := some.inj hstep
      have hmem := mem_persistedIn.mp (hhistory.valid hprocess.1).1
      refine ⟨(hhistory.published system.run state).returns ⟨hprocess.2,?_,mem_cons_self⟩,trivial⟩
      exact mem_cons_of_mem _ hmem
    · obtain rfl := some.inj hstep
      exact ⟨hhistory,trivial⟩
  · next execution hp =>
    rw [hp] at hprocess
    split at hstep
    · next k next hhead =>
      obtain ⟨hold,hrejected⟩ := head_eq hprocess.1 hhead
      split at hstep
      · obtain rfl := some.inj hstep
        exact ⟨history_published hhistory hprocess hold hrejected,working_published hprocess hold⟩
      · obtain rfl := some.inj hstep
        exact ⟨hhistory,working_reject hprocess.1 (mem_of_getElem? hold) rfl hprocess.2.2.1⟩
    · cases hstep
  · cases hstep

theorem System.Sound.perform (h : system.Sound batchId targets) {action : Action}
    (hstep : system.perform batchId targets action = some system') : system'.Sound batchId targets := by
  cases action with
  | start concurrency =>
    simp only [System.perform] at hstep
    split at hstep
    · obtain rfl := some.inj hstep
      exact h.start concurrency
    · cases hstep
  | persist outcome => exact h.persist outcome hstep
  | publish returns => exact h.publish returns hstep
  | take k =>
    simp only [System.perform] at hstep
    split at hstep
    · next execution hp =>
      obtain ⟨later,htake,rfl⟩ := map_eq_some_iff.mp hstep
      have hprocess := h.process
      rw [hp] at hprocess
      exact ⟨h.history,working_take hprocess htake⟩
    · cases hstep
  | archived k failure =>
    simp only [System.perform] at hstep
    split at hstep
    · next execution hp =>
      obtain ⟨later,harchived,rfl⟩ := map_eq_some_iff.mp hstep
      have hprocess := h.process
      rw [hp] at hprocess
      exact ⟨h.history,working_archived hprocess harchived⟩
    · cases hstep
  | finish =>
    simp only [System.perform] at hstep
    split at hstep
    · next execution hp =>
      have hprocess := h.process
      rw [hp] at hprocess
      split at hstep
      · next hsettled =>
        split at hstep
        · obtain rfl := some.inj hstep
          exact ⟨h.history,trivial⟩
        · next hrejected =>
          obtain rfl := some.inj hstep
          exact ⟨h.history.returns (working_finish h.history hprocess hsettled hrejected),trivial⟩
      · cases hstep
    · cases hstep
  | crash =>
    obtain rfl := some.inj hstep
    exact ⟨h.history,trivial⟩

theorem sound_empty : System.Sound batchId targets .empty := by
  refine ⟨⟨rfl,rfl,?_,?_,List.Pairwise.nil,nodup_nil,?_,?_⟩,trivial⟩
  · intro p hp
    cases hp
  · intro c hc
    cases hc
  · intro n i hi
    cases hi
  · intro n p hp
    cases hp

theorem sound_of_reachable (h : Reachable batchId targets system) : system.Sound batchId targets := by
  induction h with
  | empty => exact sound_empty
  | perform action _ hstep ih => exact ih.perform hstep

/-- In every run the revisions of the checkpoints count them, a checkpoint is completed exactly when all of its items
have an outcome, an item with an outcome in a checkpoint is not given to `archive` after it, an execution gives every
item to `archive` once at most, and one that returns has published the completed checkpoint that it returns. -/
theorem batch_resumes (h : Reachable batchId targets system) : ((persistedIn system.events).head? = system.checkpoint ∧
      (persistedIn system.events).map (·.revision) = (range' 1 (persistedIn system.events).length).reverse) ∧
    (∀ p ∈ persistedIn system.events,(p.state = .completed ↔ ∀ item ∈ p.items,item.settled = true)) ∧
    system.events.Pairwise NotAgain ∧ (givenIn system.events).Nodup ∧
    ∀ run p, .returned run p ∈ system.events →
      p.state = .completed ∧ .persisted p ∈ system.events ∧ .published run p ∈ system.events := by
  have hsound := (sound_of_reachable h).history
  refine ⟨⟨hsound.latest,hsound.revisions⟩,?_,hsound.notAgain,hsound.once,hsound.returned⟩
  intro p hp
  rw [completed_iff (hsound.keeps p hp).1]
  constructor
  · intro hnone item hitem
    obtain ⟨i,hi⟩ := mem_iff_getElem?.mp hitem
    by_contra hopen
    exact hnone i ⟨item,hi,eq_false_of_ne_true hopen⟩
  · rintro hall i ⟨item,hitem,hopen⟩
    rw [hall item (mem_of_getElem? hitem)] at hopen
    cases hopen

def sampleTargets : List Target := [⟨"project","first"⟩,⟨"project","second"⟩]

/-- The batch is interrupted after the first session was archived and before that was recorded. -/
def sampleActions : List Action :=
  [.start 2,.persist .completes,.take 0,.take 1,.persist .completes,.publish true,.archived 0 none,.crash,
    .start 1,.take 0,.persist .completes,.publish true,.archived 0 none,.persist .completes,.publish true,
    .take 0,.persist .completes,.publish true,.archived 0 (some ⟨"archive_item_failed","Archive failed",false⟩),
    .persist .completes,.publish true,.take 0,.finish]

def sampleRun (actions : List Action) : Option System :=
  actions.foldlM (fun system action => system.perform "batch" sampleTargets action) System.empty

theorem reachable_foldlM (actions : List Action) (h : Reachable batchId targets system)
    (hrun : actions.foldlM (fun system action => system.perform batchId targets action) system = some system') :
    Reachable batchId targets system' := by
  induction actions generalizing system with
  | nil =>
    obtain rfl := some.inj hrun
    exact h
  | cons action actions ih =>
    rw [foldlM_cons] at hrun
    obtain ⟨next,hstep,hrest⟩ := bind_eq_some_iff.mp hrun
    exact ih (.perform action h hstep) hrest

def sampleItems : List Item :=
  [⟨⟨"project","first"⟩,.succeeded,none⟩,
    ⟨⟨"project","second"⟩,.failed,some ⟨"archive_item_failed","Archive failed",false⟩⟩]

/-- The first session is given to `archive` in both executions, since nothing was recorded before the crash. -/
theorem sampleRun_ends : ((sampleRun sampleActions).map fun system => (system.checkpoint,givenIn system.events)) =
    some (some ⟨"batch",6,.completed,sampleItems⟩,[(2,1),(2,0),(1,0)]) := by decide

theorem batch_resumes_sample : ∃ system, sampleRun sampleActions = some system ∧
    system.checkpoint = some ⟨"batch",6,.completed,sampleItems⟩ ∧ (givenIn system.events).Nodup ∧
      system.events.Pairwise NotAgain := by
  cases hrun : sampleRun sampleActions with
  | none =>
    have hends := sampleRun_ends
    rw [hrun] at hends
    cases hends
  | some system =>
    have hends := sampleRun_ends
    rw [hrun,map_some] at hends
    obtain ⟨hcheckpoint,-⟩ := Prod.mk.inj (some.inj hends)
    obtain ⟨-,-,hagain,honce,-⟩ := batch_resumes (reachable_foldlM sampleActions .empty hrun)
    exact ⟨system,rfl,hcheckpoint,honce,hagain⟩

end Malink.BatchArchive
