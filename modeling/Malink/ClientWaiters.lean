import Malink.ClientMoves

/-!
# Promises of a completion

A recorded completion is written first and handed to the waiters once. A promise is left behind exactly when its
observer, whose read found no completion, joins the waiters after the hand-out.
-/

namespace Malink.Client

open Malink.Mlp3 List
open Option (some)

variable {action : Action} {c : JsString} {phase : ObserverPhase}
  {completion : CommandCompletion} {actions : List Action}

namespace State

variable {host : ClientHost} {s s' : State}

/-- What `recordCompletion` has done for a command: the completions that it processed, whether the record
has taken one, and whether one was handed out since. -/
structure Processing where
  completions : List CommandCompletion
  stored : Bool
  handedOut : Bool

def Processing.none : Processing := ⟨[],false,false⟩

def Processing.next (commandId : JsString) (s : State) (action : Action) (p : Processing) : Processing :=
  match action, s.worker with
  | .work ok, .completing recording _ =>
    if ok ∧ recording.commandId = commandId then
      { p with completions := p.completions ++ [recording.completion], stored := true }
    else p
  | .work _, .settled recording =>
    if recording.commandId = commandId then
      { p with
        completions := p.completions ++ [recording.completion]
        handedOut := p.handedOut || p.stored }
    else p
  | _, _ => p

/-- Every promise for a command that has been handed its completion is resolved, and with it. -/
structure Served (commandId : JsString) (p : Processing) (s : State) : Prop where
  waiting : p.handedOut → ∀ o ∈ s.observers, o.commandId = commandId → o.phase ≠ .waiting
  resolved : ∀ o ∈ s.observers, o.commandId = commandId → ∀ completion, o.phase = .resolved completion →
    completion ∈ p.completions

/-- After the hand-out an observer that has no step left is resolved, with a completion that was processed. -/
theorem Served.resolved_of_stuck {commandId : JsString} {p : Processing} (h : s.Served commandId p)
    (hhanded : p.handedOut) {o : Observer} (ho : o ∈ s.observers) (hcommand : o.commandId = commandId)
    (hstuck : s.stepObserver o = none) : ∃ completion ∈ p.completions, o.phase = .resolved completion := by
  rw [stepObserver] at hstuck
  cases hphase : o.phase with
  | reading =>
    simp only [hphase] at hstuck
    cases hstuck
  | found found =>
    cases found <;> simp only [hphase] at hstuck <;> cases hstuck
  | waiting => exact absurd hphase (h.waiting hhanded o ho hcommand)
  | resolved completion => exact ⟨completion,h.resolved o ho hcommand completion hphase,rfl⟩

/-- A run in every state of which the promises for a command are served. -/
def ServedRun (host : ClientHost) (commandId : JsString) (p : Processing) (s : State) :
    List Action → Prop
  | [] => s.Served commandId p
  | action :: actions => s.Served commandId p ∧ ∀ s' ∈ s.step host action,
      ServedRun host commandId (p.next commandId s action) s' actions

/-- Whether an observer that has read no completion joins the waiters after the hand-out. -/
def joinsLate (commandId : JsString) (p : Processing) (s : State) (action : Action) : Bool :=
  p.handedOut && match action with
    | .observe id =>
      (s.observers.find? (·.id = id)).any fun o => o.commandId = commandId && o.phase = .found .none
    | _ => false

/-- A run in which no observer of a command joins the waiters late. -/
def TimelyRun (host : ClientHost) (commandId : JsString) (p : Processing) (s : State) :
    List Action → Prop
  | [] => True
  | action :: actions => ∀ s' ∈ s.step host action,
      s.joinsLate commandId p action = false ∧ TimelyRun host commandId (p.next commandId s action) s' actions

/-- Whether a step of `release` drops the waiters of a command. -/
def forgets (commandId : JsString) (s : State) : Action → Bool
  | .resume id _ =>
    match s.calls.find? (·.id = id) with
    | some ⟨_,.releasing record⟩ => record.status = .completed && record.command.commandId = commandId
    | _ => false
  | _ => false

def UnreleasedRun (host : ClientHost) (commandId : JsString) (s : State) : List Action → Prop
  | [] => True
  | action :: actions => ∀ s' ∈ s.step host action,
      s.forgets commandId action = false ∧ UnreleasedRun host commandId s' actions

def waitersOf (s : State) (commandId : JsString) : List ℕ := (s.waiters.get commandId).getD []

structure WaitersSound (commandId : JsString) (p : Processing) (s : State) : Prop where
  fresh : ∀ o ∈ s.observers, o.id < s.nextId
  nodup : (s.observers.map (·.id)).Nodup
  enlisted : ∀ o ∈ s.observers, o.commandId = commandId → o.phase = .waiting → o.id ∈ s.waitersOf commandId
  owned : ∀ c, ∀ id ∈ s.waitersOf c, id < s.nextId ∧ ∀ o ∈ s.observers, o.id = id → o.commandId = c
  found : ∀ o ∈ s.observers, o.commandId = commandId → ∀ completion,
    o.phase = .found (some completion) → completion ∈ p.completions
  recorded : ∀ record, s.store.outbox.get commandId = some record → ∀ completion,
    record.completion = some completion → completion ∈ p.completions
  resolved : ∀ o ∈ s.observers, o.commandId = commandId → ∀ completion, o.phase = .resolved completion →
    completion ∈ p.completions

theorem joins_finishItem (changed : Bool) (raw : RawEvent) (rest : List InboxRecord) :
    Joins s (s.finishItem changed raw rest) := by
  unfold finishItem
  split <;> exact .of_eq rfl rfl (Nat.le_refl _)

theorem joins_projectOutcome (outcome : RawOutcome) (raw : RawEvent) (rest : List InboxRecord) :
    Joins s (s.projectOutcome host outcome raw rest) := by
  unfold projectOutcome
  split
  · exact joins_finishItem false raw rest
  · exact .of_eq rfl rfl (Nat.le_refl _)
  · exact (joins_finishItem _ raw rest).after (.of_eq rfl rfl (Nat.le_refl _))
  · unfold projectEvent
    split
    · exact .of_eq rfl rfl (Nat.le_refl _)
    · simp only
      split
      · exact .of_eq rfl rfl (Nat.le_refl _)
      · exact (joins_finishItem _ raw rest).after (.of_eq rfl rfl (Nat.le_refl _))

theorem joins_stepWorker {ok : Bool} (h : s.stepWorker host ok = some s')
    (hs : ∀ recording,s.worker ≠ .settled recording) : Joins s s' := by
  unfold stepWorker at h
  split at h
  · split at h
    · cases h
    · cases h
      exact .of_eq rfl rfl (Nat.le_refl _)
  · cases h
    exact .of_eq rfl rfl (Nat.le_refl _)
  · cases h
    exact .of_eq rfl rfl (Nat.le_refl _)
  · cases h
    exact joins_projectOutcome _ _ _
  · split at h <;> cases h <;> exact .of_eq rfl rfl (Nat.le_refl _)
  · split at h <;> cases h <;> exact .of_eq rfl rfl (Nat.le_refl _)
  · next recording hworker => exact absurd hworker (hs recording)
  · cases h
  · split at h <;> cases h <;> exact .of_eq rfl rfl (Nat.le_refl _)
  · split at h
    · split at h <;> cases h <;> exact .of_eq rfl rfl (Nat.le_refl _)
    · cases h
      exact .of_eq rfl rfl (Nat.le_refl _)

theorem joins_endSave {ok : Bool} (h : s.endSave ok = some s') : Joins s s' := by
  unfold endSave at h
  split at h
  · cases h
    unfold resumeSaver
    split
    · exact .of_eq rfl rfl (Nat.le_refl _)
    · split
      · split <;> exact .of_eq rfl rfl (Nat.le_refl _)
      · exact .of_eq rfl rfl (Nat.le_refl _)
  · cases h

/-- Whether a step is one of the four that touch observers or waiters that are there already. -/
def touchesWaiters (s : State) : Action → Bool
  | .observe _ => true
  | .restart => true
  | .work _ =>
    match s.worker with
    | .settled _ => true
    | _ => false
  | .resume id _ =>
    match s.calls.find? (·.id = id) with
    | some ⟨_,.releasing record⟩ => record.status = .completed
    | _ => false
  | _ => false

theorem joins_step (h : s.step host action = some s') (ht : s.touchesWaiters action = false) : Joins s s' := by
  cases hown : s.isOwn action with
  | false => exact (moves_step h hown).toJoins
  | true =>
    cases action with
    | work ok =>
      refine joins_stepWorker h fun recording hworker => ?_
      simp only [touchesWaiters,hworker] at ht
      cases ht
    | beginSave =>
      simp only [step,beginSave] at h
      split at h <;> cases h
      exact .of_eq rfl rfl (Nat.le_refl _)
    | endSave ok => exact joins_endSave h
    | resume id ok => exact absurd (ht.symm.trans hown) Bool.false_ne_true
    | observe | restart => cases ht
    | _ => cases hown

def NoneWaiting (commandId : JsString) (s : State) : Prop :=
  ∀ o ∈ s.observers, o.commandId = commandId → o.phase ≠ .waiting

variable {commandId : JsString} {p : Processing}

variable {p' : Processing}

theorem WaitersSound.of_joins (hs : s.WaitersSound commandId p) (h : Joins s s')
    (hp : ∀ completion ∈ p.completions,completion ∈ p'.completions)
    (hr : ∀ record,s'.store.outbox.get commandId = some record → ∀ completion,
      record.completion = some completion → completion ∈ p'.completions) : s'.WaitersSound commandId p' := by
  obtain ⟨hwaiters,hnext,added,ho,hnodup,hadded⟩ := h
  have hlist : ∀ c,s'.waitersOf c = s.waitersOf c := fun c => by rw [waitersOf,waitersOf,hwaiters]
  have hcases : ∀ o ∈ s'.observers,o ∈ s.observers ∨ (o.phase = .reading ∧ s.nextId ≤ o.id ∧ o.id < s'.nextId) := by
    intro o hmem
    rw [ho] at hmem
    exact (mem_append.mp hmem).imp id (hadded o)
  refine ⟨fun o hmem => ?_,?_,fun o hmem hc hphase => ?_,fun c id hid => ?_,
    fun o hmem hc completion hphase => ?_,hr,fun o hmem hc completion hphase => ?_⟩
  · rcases hcases o hmem with hold | ⟨-,-,hlt⟩
    · exact (hs.fresh o hold).trans_le hnext
    · exact hlt
  · rw [ho,map_append]
    refine hs.nodup.append hnodup ?_
    intro id hid hid'
    obtain ⟨o,hmem,rfl⟩ := mem_map.mp hid
    obtain ⟨o',hmem',he⟩ := mem_map.mp hid'
    have hlt := hs.fresh o hmem
    have hle := (hadded o' hmem').2.1
    omega
  · rw [hlist]
    rcases hcases o hmem with hold | ⟨hreading,-⟩
    · exact hs.enlisted o hold hc hphase
    · rw [hreading] at hphase
      cases hphase
  · rw [hlist] at hid
    obtain ⟨hlt,howned⟩ := hs.owned c id hid
    refine ⟨hlt.trans_le hnext,fun o hmem he => ?_⟩
    rcases hcases o hmem with hold | ⟨-,hle,-⟩
    · exact howned o hold he
    · omega
  · rcases hcases o hmem with hold | ⟨hreading,-⟩
    · exact hp _ (hs.found o hold hc completion hphase)
    · rw [hreading] at hphase
      cases hphase
  · rcases hcases o hmem with hold | ⟨hreading,-⟩
    · exact hp _ (hs.resolved o hold hc completion hphase)
    · rw [hreading] at hphase
      cases hphase

theorem completions_next : ∀ completion ∈ p.completions, completion ∈ (p.next commandId s action).completions := by
  intro completion hc
  unfold Processing.next
  split
  · split
    · exact mem_append_left _ hc
    · exact hc
  · split
    · exact mem_append_left _ hc
    · exact hc
  · exact hc

theorem recorded_step (hs : s.OutboxSound) (hw : s.WaitersSound commandId p) (h : s.step host action = some s') :
    ∀ record, s'.store.outbox.get commandId = some record → ∀ completion,
      record.completion = some completion → completion ∈ (p.next commandId s action).completions := by
  intro record hget completion hcompletion
  have ho := outbox_step h
  have old : s.store.outbox.get commandId = some record → completion ∈ (p.next commandId s action).completions :=
    fun hold => completions_next completion (hw.recorded record hold completion hcompletion)
  cases hwrite : s.outboxWrite action with
  | none =>
    rw [hwrite] at ho
    change s'.store.outbox = s.store.outbox at ho
    exact old (ho ▸ hget)
  | some write =>
    rw [hwrite] at ho
    cases write with
    | delete c =>
      change s'.store.outbox = s.store.outbox.delete c at ho
      rw [ho,InsertionMap.get_delete] at hget
      split at hget
      · cases hget
      · exact old hget
    | put written =>
      change s'.store.outbox = s.store.outbox.set written.command.commandId written at ho
      rw [ho,InsertionMap.get_set] at hget
      split at hget
      · next he =>
        cases hget
        cases action with
        | sendCommand command content =>
          simp only [outboxWrite] at hwrite
          split at hwrite
          · cases hwrite
          · cases hwrite
            cases hcompletion
        | transmit id ok =>
          obtain ⟨t,ht,-⟩ := Option.bind_eq_some_iff.mp h
          have hcopy := hs.transmits t (mem_of_find?_eq_some ht)
          obtain ⟨id',copy,phase⟩ := t
          simp only [outboxWrite,ht] at hwrite
          split at hwrite
          · next heq =>
            cases heq
            split at hwrite
            · cases hwrite
              rw [hcopy.completion] at hcompletion
              cases hcompletion
            · cases hwrite
          · cases hwrite
        | work ok =>
          simp only [outboxWrite] at hwrite
          split at hwrite
          · next recording copy hworker =>
            split at hwrite
            · next hok =>
              cases hwrite
              have hsound := hs.worker
              rw [hworker] at hsound
              obtain ⟨-,hrecorded,hkeyed,-⟩ := hsound
              rw [hrecorded] at hcompletion
              cases hcompletion
              simp [Processing.next,hworker,hok,← hkeyed,he]
            · cases hwrite
          · cases hwrite
        | resume id ok =>
          simp only [outboxWrite] at hwrite
          split at hwrite
          · split at hwrite <;> cases hwrite
          · cases hwrite
        | _ => cases hwrite
      · exact old hget

theorem WaitersSound.forget (hs : s.WaitersSound commandId p) (hc : c ≠ commandId) :
    { s with waiters := s.waiters.delete c }.WaitersSound commandId p := by
  have hlist : ∀ c' id,id ∈ waitersOf { s with waiters := s.waiters.delete c } c' → id ∈ s.waitersOf c' := by
    intro c' id hid
    simp only [waitersOf,InsertionMap.get_delete] at hid
    split at hid
    · cases hid
    · exact hid
  have hkept : waitersOf { s with waiters := s.waiters.delete c } commandId = s.waitersOf commandId := by
    simp only [waitersOf,InsertionMap.get_delete_of_ne _ hc.symm]
  refine ⟨hs.fresh,hs.nodup,fun o hmem ho hphase => ?_,fun c' id hid => hs.owned c' id (hlist c' id hid),
    hs.found,hs.recorded,hs.resolved⟩
  rw [hkept]
  exact hs.enlisted o hmem ho hphase

variable {o : Observer}

theorem observers_resolveWaiters (h : o ∈ (s.resolveWaiters c completion).observers) :
    ∃ o₀ ∈ s.observers, o.id = o₀.id ∧ o.commandId = o₀.commandId ∧
      ((o₀.id ∈ s.waitersOf c ∧ o.phase = .resolved completion) ∨
        (o₀.id ∉ s.waitersOf c ∧ o.phase = o₀.phase)) := by
  obtain ⟨o₀,hmem,rfl⟩ := mem_map.mp h
  by_cases hid : o₀.id ∈ (s.waiters.get c).getD []
  · exact ⟨o₀,hmem,by simp [hid],by simp [hid],.inl ⟨hid,by simp [hid]⟩⟩
  · exact ⟨o₀,hmem,by simp [hid],by simp [hid],.inr ⟨hid,by simp [hid]⟩⟩

theorem waitersOf_resolveWaiters (s : State) (c c' : JsString) (completion : CommandCompletion) :
    (s.resolveWaiters c completion).waitersOf c' = if c' = c then [] else s.waitersOf c' := by
  simp only [waitersOf,resolveWaiters,InsertionMap.get_delete]
  split <;> rfl

theorem WaitersSound.resolveWaiters (hs : s.WaitersSound commandId p)
    (hp : ∀ completion ∈ p.completions,completion ∈ p'.completions) (hc : c = commandId → completion ∈ p'.completions) :
    (s.resolveWaiters c completion).WaitersSound commandId p' := by
  refine ⟨fun o hmem => ?_,?_,fun o hmem ho hphase => ?_,fun c' id hid => ?_,
    fun o hmem ho x hphase => ?_,fun record hget x hx => hp x (hs.recorded record hget x hx),
    fun o hmem ho x hphase => ?_⟩
  · obtain ⟨o₀,hold,hid,-⟩ := observers_resolveWaiters hmem
    rw [hid]
    exact hs.fresh o₀ hold
  · have hids : (s.resolveWaiters c completion).observers.map (·.id) = s.observers.map (·.id) := by
      simp only [State.resolveWaiters,map_map]
      refine map_congr_left fun o _ => ?_
      simp only [Function.comp_apply]
      split <;> rfl
    rw [hids]
    exact hs.nodup
  · obtain ⟨o₀,hold,hid,hcommand,hcase⟩ := observers_resolveWaiters hmem
    rcases hcase with ⟨-,hresolved⟩ | ⟨hnot,hsame⟩
    · rw [hresolved] at hphase
      cases hphase
    · have hin := hs.enlisted o₀ hold (hcommand ▸ ho) (hsame ▸ hphase)
      rw [waitersOf_resolveWaiters,hid]
      split
      · next he => exact absurd (he ▸ hin) hnot
      · exact hin
  · rw [waitersOf_resolveWaiters] at hid
    split at hid
    · cases hid
    · obtain ⟨hlt,howned⟩ := hs.owned c' id hid
      refine ⟨hlt,fun o hmem he => ?_⟩
      obtain ⟨o₀,hold,hid',hcommand,-⟩ := observers_resolveWaiters hmem
      rw [hcommand]
      exact howned o₀ hold (hid' ▸ he)
  · obtain ⟨o₀,hold,-,hcommand,hcase⟩ := observers_resolveWaiters hmem
    rcases hcase with ⟨-,hresolved⟩ | ⟨-,hsame⟩
    · rw [hresolved] at hphase
      cases hphase
    · exact hp x (hs.found o₀ hold (hcommand ▸ ho) x (hsame ▸ hphase))
  · obtain ⟨o₀,hold,-,hcommand,hcase⟩ := observers_resolveWaiters hmem
    rcases hcase with ⟨hin,hresolved⟩ | ⟨-,hsame⟩
    · rw [hresolved] at hphase
      cases hphase
      refine hc ?_
      rw [← ho,hcommand]
      exact ((hs.owned c _ hin).2 o₀ hold rfl).symm
    · exact hp x (hs.resolved o₀ hold (hcommand ▸ ho) x (hsame ▸ hphase))

theorem NoneWaiting.resolveWaiters (hn : NoneWaiting commandId s) (c : JsString)
    (completion : CommandCompletion) : NoneWaiting commandId (s.resolveWaiters c completion) := by
  intro o hmem hc hphase
  obtain ⟨o₀,hold,-,hcommand,hcase⟩ := observers_resolveWaiters hmem
  rcases hcase with ⟨-,hresolved⟩ | ⟨-,hsame⟩
  · rw [hresolved] at hphase
    cases hphase
  · exact hn o₀ hold (hcommand ▸ hc) (hsame ▸ hphase)

theorem ids_setObserver (s : State) (id : ℕ) (phase : ObserverPhase) :
    (s.setObserver id phase).observers.map (·.id) = s.observers.map (·.id) := by
  simp only [setObserver,map_map]
  refine map_congr_left fun o _ => ?_
  simp only [Function.comp_apply]
  split <;> rfl

variable {id : ℕ}

theorem observers_setObserver (h : o ∈ (s.setObserver id phase).observers) :
    ∃ o₀ ∈ s.observers, o.id = o₀.id ∧ o.commandId = o₀.commandId ∧
      ((o₀.id = id ∧ o.phase = phase) ∨ (o₀.id ≠ id ∧ o.phase = o₀.phase)) := by
  obtain ⟨o₀,hmem,rfl⟩ := mem_map.mp h
  by_cases hid : o₀.id = id
  · exact ⟨o₀,hmem,by simp [hid],by simp [hid],.inl ⟨hid,by simp [hid]⟩⟩
  · exact ⟨o₀,hmem,by simp [hid],by simp [hid],.inr ⟨hid,by simp [hid]⟩⟩

/-- A promise finds out what the record holds, or is resolved with what it has found. -/
theorem WaitersSound.setObserver (hs : s.WaitersSound commandId p) (hphase : phase ≠ .waiting)
    (hc : ∀ o ∈ s.observers,o.id = id → o.commandId = commandId → ∀ completion,
      phase = .found (some completion) ∨ phase = .resolved completion → completion ∈ p.completions)
    : (s.setObserver id phase).WaitersSound commandId p := by
  refine ⟨fun o hmem => ?_,?_,fun o hmem ho hwaiting => ?_,fun c i hi => ?_,
    fun o hmem ho completion hfound => ?_,hs.recorded,fun o hmem ho completion hresolved => ?_⟩
  · obtain ⟨o₀,hold,hid,-⟩ := observers_setObserver hmem
    rw [hid]
    exact hs.fresh o₀ hold
  · rw [ids_setObserver]
    exact hs.nodup
  · obtain ⟨o₀,hold,hid,hcommand,hcase⟩ := observers_setObserver hmem
    rcases hcase with ⟨-,hset⟩ | ⟨-,hsame⟩
    · exact absurd (hset.symm.trans hwaiting) hphase
    · rw [hid]
      exact hs.enlisted o₀ hold (hcommand ▸ ho) (hsame ▸ hwaiting)
  · obtain ⟨hlt,howned⟩ := hs.owned c i hi
    refine ⟨hlt,fun o hmem he => ?_⟩
    obtain ⟨o₀,hold,hid,hcommand,-⟩ := observers_setObserver hmem
    rw [hcommand]
    exact howned o₀ hold (hid ▸ he)
  · obtain ⟨o₀,hold,hid,hcommand,hcase⟩ := observers_setObserver hmem
    rcases hcase with ⟨he,hset⟩ | ⟨-,hsame⟩
    · exact hc o₀ hold he (hcommand ▸ ho) completion (.inl (hset ▸ hfound))
    · exact hs.found o₀ hold (hcommand ▸ ho) completion (hsame ▸ hfound)
  · obtain ⟨o₀,hold,hid,hcommand,hcase⟩ := observers_setObserver hmem
    rcases hcase with ⟨he,hset⟩ | ⟨-,hsame⟩
    · exact hc o₀ hold he (hcommand ▸ ho) completion (.inr (hset ▸ hresolved))
    · exact hs.resolved o₀ hold (hcommand ▸ ho) completion (hsame ▸ hresolved)

def enlist (s : State) (o : Observer) : State :=
  { s.setObserver o.id .waiting with
    waiters := s.waiters.set o.commandId ((s.waiters.get o.commandId).getD [] ++ [o.id]) }

theorem waitersOf_enlist (s : State) (o : Observer) (c : JsString) :
    (s.enlist o).waitersOf c = if c = o.commandId then s.waitersOf c ++ [o.id] else s.waitersOf c := by
  by_cases hc : c = o.commandId
  · subst hc
    simp [waitersOf,enlist]
  · simp only [waitersOf,enlist,InsertionMap.get_set_of_ne _ _ hc,if_neg hc]

theorem WaitersSound.enlist (hs : s.WaitersSound commandId p) (ho : o ∈ s.observers) :
    (s.enlist o).WaitersSound commandId p := by
  have same : ∀ o' ∈ s.observers,o'.id = o.id → o' = o :=
    fun o' ho' he => inj_on_of_nodup_map hs.nodup ho' ho he
  refine ⟨fun o' hmem => ?_,?_,fun o' hmem hc hwaiting => ?_,fun c i hi => ?_,
    fun o' hmem hc completion hfound => ?_,hs.recorded,fun o' hmem hc completion hresolved => ?_⟩
  · obtain ⟨o₀,hold,hid,-⟩ := observers_setObserver hmem
    rw [hid]
    exact hs.fresh o₀ hold
  · have hids : (s.enlist o).observers.map (·.id) = s.observers.map (·.id) := ids_setObserver s o.id .waiting
    rw [hids]
    exact hs.nodup
  · obtain ⟨o₀,hold,hid,hcommand,hcase⟩ := observers_setObserver hmem
    rw [waitersOf_enlist,hid]
    rcases hcase with ⟨he,-⟩ | ⟨-,hsame⟩
    · rw [← hc,hcommand,same o₀ hold he,if_pos rfl]
      exact mem_append_right _ (mem_singleton_self _)
    · have hin := hs.enlisted o₀ hold (hcommand ▸ hc) (hsame ▸ hwaiting)
      split
      · exact mem_append_left _ hin
      · exact hin
  · have hcases : i ∈ s.waitersOf c ∨ (c = o.commandId ∧ i = o.id) := by
      rw [waitersOf_enlist] at hi
      split at hi
      · next he => exact (mem_append.mp hi).imp_right fun h => ⟨he,mem_singleton.mp h⟩
      · exact .inl hi
    rcases hcases with hin | ⟨rfl,rfl⟩
    · obtain ⟨hlt,howned⟩ := hs.owned c i hin
      refine ⟨hlt,fun o' hmem he => ?_⟩
      obtain ⟨o₀,hold,hid,hcommand,-⟩ := observers_setObserver hmem
      rw [hcommand]
      exact howned o₀ hold (hid ▸ he)
    · refine ⟨hs.fresh o ho,fun o' hmem he => ?_⟩
      obtain ⟨o₀,hold,hid,hcommand,-⟩ := observers_setObserver hmem
      rw [hcommand,same o₀ hold (hid ▸ he)]
  · obtain ⟨o₀,hold,-,hcommand,hcase⟩ := observers_setObserver hmem
    rcases hcase with ⟨-,hset⟩ | ⟨-,hsame⟩
    · rw [hset] at hfound
      cases hfound
    · exact hs.found o₀ hold (hcommand ▸ hc) completion (hsame ▸ hfound)
  · obtain ⟨o₀,hold,-,hcommand,hcase⟩ := observers_setObserver hmem
    rcases hcase with ⟨-,hset⟩ | ⟨-,hsame⟩
    · rw [hset] at hresolved
      cases hresolved
    · exact hs.resolved o₀ hold (hcommand ▸ hc) completion (hsame ▸ hresolved)

theorem NoneWaiting.setObserver (hn : NoneWaiting commandId s) (hphase : phase ≠ .waiting) :
    NoneWaiting commandId (s.setObserver id phase) := by
  intro o hmem hc hwaiting
  obtain ⟨o₀,hold,-,hcommand,hcase⟩ := observers_setObserver hmem
  rcases hcase with ⟨-,hset⟩ | ⟨-,hsame⟩
  · exact hphase (hset.symm.trans hwaiting)
  · exact hn o₀ hold (hcommand ▸ hc) (hsame ▸ hwaiting)

theorem stepObserver_cases (h : s.stepObserver o = some s') : (o.phase = .reading ∧
      s' = s.setObserver o.id (.found ((s.store.outbox.get o.commandId).bind (·.completion)))) ∨
    (∃ completion,o.phase = .found (some completion) ∧ s' = s.setObserver o.id (.resolved completion)) ∨
    (o.phase = .found none ∧ s' = s.enlist o) := by
  unfold stepObserver at h
  split at h
  · next hphase =>
    cases h
    exact .inl ⟨hphase,rfl⟩
  · next completion hphase =>
    cases h
    exact .inr (.inl ⟨completion,hphase,rfl⟩)
  · next hphase =>
    cases h
    exact .inr (.inr ⟨hphase,rfl⟩)
  · cases h
  · cases h

theorem waitersSound_stepObserver (hs : s.WaitersSound commandId p) (ho : o ∈ s.observers)
    (h : s.stepObserver o = some s') : s'.WaitersSound commandId p := by
  have same : ∀ o' ∈ s.observers,o'.id = o.id → o' = o :=
    fun o' ho' he => inj_on_of_nodup_map hs.nodup ho' ho he
  rcases stepObserver_cases h with ⟨-,rfl⟩ | ⟨completion,hphase,rfl⟩ | ⟨-,rfl⟩
  · refine hs.setObserver nofun fun o' ho' he hc x hx => ?_
    rcases hx with hx | hx
    · obtain ⟨record,hget,hcompletion⟩ := Option.bind_eq_some_iff.mp (ObserverPhase.found.inj hx)
      rw [← same o' ho' he,hc] at hget
      exact hs.recorded record hget x hcompletion
    · cases hx
  · refine hs.setObserver nofun fun o' ho' he hc x hx => ?_
    rcases hx with hx | hx
    · cases hx
    · cases hx
      exact hs.found o' ho' hc _ (same o' ho' he ▸ hphase)
  · exact hs.enlist ho

theorem waitersSound_started {store : Store} {sent : List JsString}
    (hr : ∀ record,(started host store sent).store.outbox.get commandId = some record → ∀ completion,
      record.completion = some completion → completion ∈ p.completions) :
    (started host store sent).WaitersSound commandId p where
  fresh _ h := nomatch h
  nodup := nodup_nil
  enlisted _ h := nomatch h
  owned _ _ h := nomatch h
  found _ h := nomatch h
  recorded := hr
  resolved _ h := nomatch h

/-- The four steps that touch the waiters, one by one; the others add nothing but new promises. -/
theorem WaitersSound.step (ho : s.OutboxSound) (hs : s.WaitersSound commandId p)
    (h : s.step host action = some s') (hf : s.forgets commandId action = false) :
    s'.WaitersSound commandId (p.next commandId s action) := by
  have hrecorded := recorded_step ho hs h
  cases ht : s.touchesWaiters action with
  | false => exact hs.of_joins (joins_step h ht) completions_next hrecorded
  | true =>
    cases action with
    | observe id =>
      obtain ⟨o,hfind,hstep⟩ := Option.bind_eq_some_iff.mp h
      exact waitersSound_stepObserver hs (mem_of_find?_eq_some hfind) hstep
    | restart =>
      cases h
      exact waitersSound_started hrecorded
    | work ok =>
      simp only [touchesWaiters] at ht
      split at ht
      · next recording hworker =>
        simp only [State.step,stepWorker,hworker,some.injEq] at h
        subst h
        refine (hs.resolveWaiters completions_next fun hc => ?_).of_joins (joins_finishItem _ _ _)
          (fun _ hx => hx) hrecorded
        simp [Processing.next,hworker,hc]
      · cases ht
    | resume id ok =>
      simp only [touchesWaiters] at ht
      split at ht
      · next id' record hcall =>
        simp only [decide_eq_true_eq] at ht
        have hother : record.command.commandId ≠ commandId := by
          simpa only [forgets,hcall,ht,decide_true,Bool.true_and,decide_eq_false_iff_not] using hf
        simp only [State.step,hcall,Option.map_some,some.injEq] at h
        subst h
        simp only [resumeCall,ht,ne_eq,not_true_eq_false,if_false]
        exact (hs.forget hother).of_joins (.of_eq rfl rfl (Nat.le_refl _)) completions_next fun record hget =>
          fun completion hc => hs.recorded record hget completion hc
      · cases ht
    | _ => cases ht

theorem ServedRun.start (h : ServedRun host commandId p s actions) : s.Served commandId p := by
  cases actions with
  | nil => exact h
  | cons action actions => exact h.1

end State

instance decidableTimelyRun (host : ClientHost) (commandId : JsString) : (p : State.Processing) → (s : State) →
    (actions : List Action) → Decidable (State.TimelyRun host commandId p s actions)
  | _, _, [] => isTrue trivial
  | p, s, action :: actions =>
    have : ∀ p' s',Decidable (State.TimelyRun host commandId p' s' actions) :=
      fun p' s' => decidableTimelyRun host commandId p' s' actions
    inferInstanceAs (Decidable (∀ s' ∈ s.step host action,s.joinsLate commandId p action = false ∧
      State.TimelyRun host commandId (p.next commandId s action) s' actions))

instance decidableUnreleasedRun (host : ClientHost) (commandId : JsString) : (s : State) →
    (actions : List Action) → Decidable (State.UnreleasedRun host commandId s actions)
  | _, [] => isTrue trivial
  | s, action :: actions =>
    have : ∀ s',Decidable (State.UnreleasedRun host commandId s' actions) :=
      fun s' => decidableUnreleasedRun host commandId s' actions
    inferInstanceAs (Decidable (∀ s' ∈ s.step host action,s.forgets commandId action = false ∧
      State.UnreleasedRun host commandId s' actions))

end Malink.Client
