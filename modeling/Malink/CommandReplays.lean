import Malink.CommandOutboxRuns

/-!
# Completions that are handed in again

A completion that the file keeps as it is stays the one that is stored, and handing it in again changes nothing.
-/

namespace Malink.Native.Commands

/-- The command of the completion is gone, or has it. -/
def Settled (completion : CommandCompletion) (snapshot : CommandOutboxSnapshot) : Prop :=
  ∀ command ∈ snapshot.commands, command.commandId = completion.commandId → command.completion = some completion

/-- The command of the completion has it, or its identity was released. -/
def Accepted (completion : CommandCompletion) (snapshot : CommandOutboxSnapshot) : Prop :=
  (∃ command ∈ snapshot.commands,command.commandId = completion.commandId ∧ command.completion = some completion) ∨
    ∃ tombstone ∈ snapshot.released, tombstone.commandId = completion.commandId

section Stored

variable {completion : CommandCompletion} {before after : CommandOutboxSnapshot} {freed drawn : JsString → Prop}

theorem Accepted.settled (h : Accepted completion before) (hvalid : before.Valid) : Settled completion before := by
  intro command hcommand hid
  rcases h with ⟨completed,hcompleted,hid',hcompletion⟩ | ⟨tombstone,htombstone,hid'⟩
  · rw [hvalid.eq_of_commandId hcommand hcompleted (hid.trans hid'.symm)]
    exact hcompletion
  · have hmem : command.commandId ∈ tombstone.ids := by
      rw [hid,← hid',ReleasedCommandTombstone.ids]
      simp
    exact absurd hmem (hvalid.ids_disjoint hcommand htombstone (by simp [PersistedCommand.ids]))

theorem Accepted.follows (h : Accepted completion before) (hfollows : Follows freed drawn before after) :
    Accepted completion after := by
  rcases h with ⟨command,hcommand,hid,hcompletion⟩ | ⟨tombstone,htombstone,hid⟩
  · rcases hfollows.kept command hcommand with ⟨next,hnext,hsuccessor⟩ | ⟨⟨tombstone,htombstone,hburied⟩,-⟩
    · exact .inl ⟨next,hnext,hsuccessor.commandId.trans hid,(hsuccessor.completion completion hcompletion).1⟩
    · exact .inr ⟨tombstone,htombstone,hburied.commandId.trans hid⟩
  · exact .inr ⟨tombstone,hfollows.released htombstone,hid⟩

/-- Without a new command of the same ID the completion stays the stored one. -/
theorem Settled.follows (h : Settled completion before) (hfollows : Follows freed drawn before after)
    (hvalid : after.Valid) (hdrawn : ¬ drawn completion.commandId) : Settled completion after := by
  intro next hnext hid
  rcases hfollows.came next hnext with ⟨command,hcommand,hid'⟩ | hdraw
  · have hcompletion := h command hcommand (hid'.trans hid)
    have haccepted : Accepted completion before := .inl ⟨command,hcommand,hid'.trans hid,hcompletion⟩
    exact (haccepted.follows hfollows).settled hvalid next hnext hid
  · rw [hid] at hdraw
    exact absurd hdraw hdrawn

/-- A stored completion is answered without a look at the clock or a write to the file. -/
theorem recordCompletion_of_settled (h : Settled completion before) (now : ℤ) :
    recordCompletion before now completion = .ok (.keep (.recorded false)) := by
  unfold recordCompletion
  cases hfind : before.findCurrent completion.commandId with
  | none => rfl
  | some command =>
    obtain ⟨hmem,hid⟩ := findCurrent_eq_some hfind
    simp only [h command hmem hid,completion.same_self,if_true]

end Stored

variable {platform : Platform} {device : Device} {snapshot : CommandOutboxSnapshot} {completion : CommandCompletion}
  {actions : List Action}

/-- A run in which no new command draws the ID keeps the completion, whether or not the outbox is cleared. -/
theorem settled_run (hholds : device.Holds platform snapshot) (hsettled : Settled completion snapshot)
    (hplain : ∀ action ∈ actions,action.Plain) (hdraws : ∀ action ∈ actions,¬ action.draws completion.commandId) :
    ∃ after, (device.run platform actions).Holds platform after ∧ Settled completion after := by
  induction actions generalizing device snapshot with
  | nil => exact ⟨snapshot,hholds,hsettled⟩
  | cons action actions ih =>
    have hstep : ∃ middle,(device.step platform action).1.Holds platform middle ∧ Settled completion middle := by
      cases hclear : action.isClear with
      | false =>
        obtain ⟨middle,hmiddle,hfollows,-⟩ := step_holds hholds (hplain action List.mem_cons_self) hclear
        exact ⟨middle,hmiddle,hsettled.follows hfollows hmiddle.valid (hdraws action List.mem_cons_self)⟩
      | true =>
        cases action with
        | clear write =>
          rcases (clear_holds hholds write).1 with hsame | hempty
          · exact ⟨snapshot,hsame,hsettled⟩
          · exact ⟨.empty,hempty,by simp [Settled,CommandOutboxSnapshot.empty]⟩
        | start | call | kill => cases hclear
    obtain ⟨middle,hmiddle,hsettled'⟩ := hstep
    exact ih hmiddle hsettled' (fun a ha => hplain a (List.mem_cons_of_mem action ha))
      fun a ha => hdraws a (List.mem_cons_of_mem action ha)

theorem accepted_run (hholds : device.Holds platform snapshot) (haccepted : Accepted completion snapshot)
    (hplain : ∀ action ∈ actions,action.Plain) (hclear : ∀ action ∈ actions,action.isClear = false) :
    ∃ after, (device.run platform actions).Holds platform after ∧ Settled completion after := by
  obtain ⟨after,hafter,hfollows⟩ := run_follows hholds hplain hclear
  exact ⟨after,hafter,(haccepted.follows hfollows).settled hafter.valid⟩

/-- In a run of plain inputs every snapshot in memory is read back from its file, and a completion that was accepted
is refused without an error whenever it is handed in again. After `clear` a new command must not draw its ID. -/
theorem completions_replay (platform : Platform) (file : Option (List Char)) (hfile : Readable platform file) :
    (∀ actions,(∀ action ∈ actions,Action.Plain action) → ∀ snapshot,
      (Device.run platform ⟨file,none⟩ actions).memory = some snapshot →
      ∃ text,encode snapshot = .ok text ∧ decode platform.longOrNull text = .ok snapshot) ∧
    ∀ actions completion now write more, (∀ action ∈ actions,Action.Plain action) → completion.Plain →
      (∀ action ∈ more,Action.Plain action) →
      ((∀ action ∈ more,action.isClear = false) ∨ ∀ action ∈ more,¬ action.draws completion.commandId) →
      let accepted := (Device.run platform ⟨file,none⟩ actions).step platform
        (.call (.recordCompletion completion) now write)
      accepted.2 = .returned (.recorded true) → (accepted.1.run platform more).memory ≠ none →
      ∀ later write', ((accepted.1.run platform more).step platform
        (.call (.recordCompletion completion) later write')).2 = .returned (.recorded false) := by
  constructor
  · intro actions hplain snapshot hmemory
    rcases holds_of_run hfile hplain with hunreadable | ⟨held,hholds⟩
    · rw [hunreadable.memory] at hmemory
      cases hmemory
    · exact hholds.decode_encode hmemory
  · intro actions completion now write more hplain hcompletion hmore hids accepted haccepted hopen later write'
    rcases holds_of_run hfile hplain with hunreadable | ⟨held,hholds⟩
    · exact absurd haccepted ((Unreadable.step hunreadable _).2 _)
    have hcall : Action.Plain (.call (.recordCompletion completion) now write) := hcompletion
    obtain ⟨middle,hmiddle,-,hanswered⟩ := step_holds hholds hcall rfl
    have haccepted' : Accepted completion middle := .inl (hanswered.completed completion now write rfl haccepted)
    have hrun : ∃ after,(accepted.1.run platform more).Holds platform after ∧ Settled completion after :=
      hids.elim (accepted_run hmiddle haccepted' hmore) (settled_run hmiddle (haccepted'.settled hmiddle.valid) hmore)
    obtain ⟨after,hafter,hsettled⟩ := hrun
    cases hmemory : (accepted.1.run platform more).memory with
    | none => exact absurd hmemory hopen
    | some open_ =>
      obtain ⟨rfl,-⟩ := hafter.memory open_ hmemory
      rw [step_call hmemory]
      simp only [plan,recordCompletion_of_settled hsettled,perform]

variable {result : JsonElement}

theorem helloResult_valid (h : result.size ≤ MAX_RESULT_BYTES) :
    (some result).all (fun element => element.size ≤ MAX_RESULT_BYTES) := by
  simpa using h

theorem helloSession_valid : (some ("session-1" : JsString)).all isOpaqueId := rfl

def helloResult (result : JsonElement) (h : result.size ≤ MAX_RESULT_BYTES) : CommandCompletion where
  commandId := "command-1"
  sequence := 1
  revision := 0
  outcome := .succeeded
  sessionId := some "session-1"
  result := some result
  error := none
  commandId_valid := rfl
  sequence_valid := defaultSequence_valid
  revision_valid := defaultRevision_valid
  sessionId_valid := helloSession_valid
  result_valid := helloResult_valid h

theorem plain_helloResult (h : result.size ≤ MAX_RESULT_BYTES) (hportable : result.portable) (hnull : result ≠ .null) :
    (helloResult result h).Plain where
  portable := by
    refine ⟨(rfl : ("command-1" : JsString).wellFormed),?_,?_,?_⟩
    · rintro id ⟨⟩
      rfl
    · rintro r ⟨⟩
      exact hportable
    · rintro error ⟨⟩
  stored := stored_completion_iff.mpr ⟨rfl,rfl,fun hresult => hnull (Option.some.inj hresult)⟩

theorem completions_replay_hello : ((((Device.run promptPlatform ⟨none,none⟩ helloRun).step promptPlatform
      (.call (.recordCompletion (helloResult (.bool true) (by decide))) 3 .done)).1.run promptPlatform
      [.start (fun _ => 4) (fun _ => .done)]).step promptPlatform
      (.call (.recordCompletion (helloResult (.bool true) (by decide))) 5 .done)).2 = .returned (.recorded false) :=
  (completions_replay promptPlatform none readable_none).2 helloRun (helloResult (.bool true) (by decide)) 3 .done
    [.start (fun _ => 4) (fun _ => .done)] helloRun_plain (plain_helloResult _ (by decide) (by simp [JsonElement.bool]))
    (by simp [Action.Plain]) (.inl (by simp [Action.isClear])) (by decide +kernel) (by decide +kernel) 5 .done

/-- The file takes an explicit `null` result for an absent one, so that its replay is taken for another result. -/
theorem null_result_replay_throws : (Device.outcomes promptPlatform ⟨none,none⟩ (helloRun ++
    [.call (.recordCompletion (helloResult .null (by decide))) 3 .done,.start (fun _ => 4) (fun _ => .done),
      .call (.recordCompletion (helloResult .null (by decide))) 5 .done])).drop 3 =
    [.returned (.recorded true),.returned (.opened []),
      .threw (.illegalState "A different terminal result is already stored for this command.")] := by
  decide +kernel

end Malink.Native.Commands
