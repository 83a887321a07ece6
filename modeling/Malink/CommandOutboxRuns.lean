import Malink.CommandOutboxSteps

/-!
# Runs of the command outbox

The file and the memory of a device hold one snapshot, through failing saves, crashes and restarts. A step moves it by
what its operation commits.
-/

namespace Malink.Native.Commands

open List
open Option (some)

variable {request : Request} {freed drawn : JsString → Prop} {actions : List Action}

section Replies

variable {platform : Platform} {snapshot : CommandOutboxSnapshot} {now : ℤ} {reply : Reply}

/-- An answer that needs a commit first. -/
def Reply.committed (request : Request) : Reply → Prop
  | .transmission (some _) => True
  | .recorded true => ∃ completion, request = .recordCompletion completion
  | _ => False

theorem retireCommand_keep {command : PersistedCommand} (h : retireCommand snapshot now command = .ok (.keep reply)) :
    False := by
  rw [retireCommand,check_bind_eq_ok,check_bind_eq_ok] at h
  cases h.2.2

theorem reply_of_kept {c : Prop} [Decidable c] {kept answer : Reply} {changed : CommandOutboxSnapshot}
    (h : (if c then Plan.keep kept else Plan.commit changed answer) = Plan.keep reply) : kept = reply := by
  by_cases hc : c
  · rw [if_pos hc] at h
    exact Plan.keep.inj h
  · rw [if_neg hc] at h
    cases h

theorem enqueue_keep {idempotencyKey operationId commandId : JsString} {payload : JsonObject}
    {sessionId projectId : Option JsString}
    (h : enqueue platform snapshot now idempotencyKey payload sessionId projectId operationId commandId =
      .ok (.keep reply)) : ∃ receipt, reply = .receipt receipt := by
  unfold enqueue at h
  simp only [check_bind_eq_ok] at h
  obtain ⟨-,-,-,h⟩ := h
  rw [bind_eq_ok] at h
  obtain ⟨validated,-,h⟩ := h
  rw [check_bind_eq_ok] at h
  replace h := h.2
  have hnew : ∀ expired fingerprint,admitCommand snapshot now idempotencyKey fingerprint payload validated.sessionId
      projectId operationId commandId expired ≠ .ok (.keep reply) := by
    intro expired fingerprint hnew
    rw [admitCommand] at hnew
    simp only [check_bind_eq_ok] at hnew
    cases hnew.2.2.2.2
  split at h
  · split at h
    · injection h with h
      exact ⟨_,(Plan.keep.inj h).symm⟩
    · cases h
  · split at h
    · split at h <;> cases h
    · rw [enqueueNew,check_bind_eq_ok] at h
      replace h := h.2
      by_cases hprobe : validated.operation.isGatewayStatusProbe
      · simp only [hprobe,if_true,bind_eq_ok] at h
        obtain ⟨probes,-,reusable,-,h⟩ := h
        cases reusable with
        | none => exact absurd h (hnew probes _)
        | some reusable =>
          simp only [reuseProbe,check_bind_eq_ok] at h
          exact ⟨_,(reply_of_kept (Except.ok.inj h.2)).symm⟩
      · simp only [hprobe,if_false,Bool.false_eq_true] at h
        exact absurd h (hnew [] _)

theorem plan_keep (h : plan platform snapshot now request = .ok (.keep reply)) : ¬ reply.committed request := by
  cases request with
  | enqueue =>
    obtain ⟨receipt,rfl⟩ := enqueue_keep h
    exact id
  | claimForTransmission | claimRecovery | markTransmissionUncertain | markCancelRequested =>
    simp only [plan,claimForTransmission,claimRecovery,markTransmissionUncertain,markCancelRequested] at h
    split at h
    · cases h
      exact id
    · split at h
      · cases h
        exact id
      · simp [bind_eq_ok] at h
  | recordPublished commandId matrixEventId =>
    rintro hcommitted
    cases reply with
    | recorded changed => cases changed <;> simp [Reply.committed] at hcommitted
    | transmission transmission =>
      simp only [plan,recordPublished,check_bind_eq_ok] at h
      replace h := h.2
      split at h
      · cases h
      · split at h
        · cases h
        · split at h
          · cases h
          · simp only [bind_eq_ok] at h
            obtain ⟨_,-,h⟩ := h
            cases reply_of_kept (Except.ok.inj h)
    | receipt | view | opened | cleared => exact hcommitted
  | recordProgress commandId sessionId =>
    rintro hcommitted
    cases reply with
    | recorded changed => cases changed <;> simp [Reply.committed] at hcommitted
    | transmission transmission =>
      simp only [plan,recordProgress,check_bind_eq_ok] at h
      replace h := h.2
      split at h
      · cases h
      · split at h
        · cases h
        · simp only [bind_eq_ok] at h
          obtain ⟨_,-,h⟩ := h
          cases reply_of_kept (Except.ok.inj h)
    | receipt | view | opened | cleared => exact hcommitted
  | recordCompletion completion =>
    simp only [plan,recordCompletion] at h
    split at h
    · cases h
      exact id
    · split at h
      · split at h
        · cases h
          exact id
        · cases h
      · simp only [bind_eq_ok] at h
        obtain ⟨_,-,h⟩ := h
        cases h
  | release commandId =>
    simp only [plan,release] at h
    split at h
    · cases h
      exact id
    · simp only [bind_eq_ok] at h
      obtain ⟨_,-,_,-,h⟩ := h
      exact (retireCommand_keep h).elim
  | retireUnavailableProjectCommand commandId =>
    simp only [plan,retireUnavailableProjectCommand] at h
    split at h
    · cases h
      exact id
    · simp only [check_bind_eq_ok] at h
      exact (retireCommand_keep h.2.2).elim
  | retireUnverifiedCommand commandId =>
    simp only [plan,retireUnverifiedCommand] at h
    split at h
    · cases h
      exact id
    · exact (retireCommand_keep h).elim

end Replies

/-- What becomes of a command when the outbox is opened. -/
def Recovered (command after : PersistedCommand) : Prop :=
  after = command ∨ command.state = .transmitting ∧
    ∃ updatedAt, after = { command with state := .recoveryRequired, updatedAt := updatedAt }

variable {clock : ℕ → ℤ}

theorem recoverCommands_recovered {i : ℕ} {commands recovered : List PersistedCommand}
    (h : recoverCommands clock i commands = .ok recovered) : List.Forall₂ Recovered commands recovered := by
  induction commands generalizing i recovered with
  | nil =>
    cases h
    exact .nil
  | cons command commands ih =>
    simp only [recoverCommands,bind_eq_ok] at h
    obtain ⟨after,hafter,rest,hrest,h⟩ := h
    cases h
    refine .cons ?_ (ih hrest)
    unfold recoverCommand at hafter
    split at hafter
    · next hstate =>
      simp only [bind_eq_ok] at hafter
      obtain ⟨updatedAt,-,hafter⟩ := hafter
      cases hafter
      exact .inr ⟨hstate,updatedAt,rfl⟩
    · cases hafter
      exact .inl rfl

section Recovery

variable {command after : PersistedCommand}

section

variable (h : Recovered command after)
include h

theorem Recovered.ids : after.ids = command.ids := by
  rcases h with rfl | ⟨-,updatedAt,rfl⟩ <;> rfl

theorem Recovered.commandId : after.commandId = command.commandId := by
  rcases h with rfl | ⟨-,updatedAt,rfl⟩ <;> rfl

theorem Recovered.idempotencyKey : after.idempotencyKey = command.idempotencyKey := by
  rcases h with rfl | ⟨-,updatedAt,rfl⟩ <;> rfl

theorem Recovered.plain (hplain : command.Plain) : after.Plain := by
  rcases h with rfl | ⟨-,updatedAt,rfl⟩
  · exact hplain
  · exact ⟨{ hplain.portable with },hplain.completion⟩

theorem Recovered.successor (hvalid : command.Valid) : Successor command after := by
  rcases h with rfl | ⟨hstate,updatedAt,rfl⟩
  · exact .refl after
  · refine ⟨rfl,rfl,rfl,rfl,rfl,fun _ => id,?_⟩
    intro completion hcompletion
    have hterminal := hvalid.terminal
    rw [hstate,hcompletion] at hterminal
    cases hterminal

theorem Recovered.unfinished (hvalid : command.Valid)
    (hstate : after.state.isTerminal = false) : command.completion = none := by
  have hterminal := hvalid.terminal
  have hcommand : command.state.isTerminal = false := by
    rcases h with rfl | ⟨htransmitting,-⟩
    · exact hstate
    · rw [htransmitting]
      rfl
  rw [hcommand] at hterminal
  exact Option.isNone_iff_eq_none.mp (Option.isSome_eq_false_iff.mp hterminal.symm)

end

end Recovery

/-- Opening retires only unfinished commands, and keeps the others under their identities. -/
theorem recover_follows {loaded recovered : CommandOutboxSnapshot} {probes : List PersistedCommand}
    (hvalid : loaded.Valid) (h : recover clock loaded = .ok (recovered,probes)) :
    Follows freed drawn loaded recovered ∧ (loaded.Plain → recovered.Plain) := by
  simp only [recover,bind_eq_ok] at h
  obtain ⟨commands,hcommands,-,-,h⟩ := h
  obtain ⟨hrecovered,hprobes⟩ := Prod.mk.inj (Except.ok.inj h)
  have hforall := recoverCommands_recovered hcommands
  have hforth : ∀ command ∈ loaded.commands,∃ after ∈ commands,Recovered command after :=
    exists_mem_of_forall₂ hforall
  have hback : ∀ after ∈ commands,∃ command ∈ loaded.commands,Recovered command after :=
    exists_mem_of_forall₂ hforall.flip
  have hprobe : ∀ probe ∈ probes,probe ∈ commands ∧ probe.state.isTerminal = false := by
    intro probe hprobe
    rw [← hprobes] at hprobe
    obtain ⟨hmem,hunfinished⟩ := mem_filter.mp (mem_of_mem_take hprobe)
    rw [isUnfinishedStatusProbe,Bool.and_eq_true,Bool.not_eq_true'] at hunfinished
    exact ⟨hmem,hunfinished.1⟩
  rw [hprobes] at hrecovered
  subst hrecovered
  refine ⟨⟨?_,?_,subset_append_left _ _⟩,?_⟩
  · intro command hcommand
    obtain ⟨after,hafter,hr⟩ := hforth command hcommand
    by_cases hmem : after.commandId ∈ probes.map (·.commandId)
    · right
      obtain ⟨probe,hprobemem,hid⟩ := mem_map.mp hmem
      obtain ⟨hprobecommand,hstate⟩ := hprobe probe hprobemem
      obtain ⟨original,horiginal,hr'⟩ := hback probe hprobecommand
      have hsame : original = command := by
        refine hvalid.eq_of_commandId horiginal hcommand ?_
        rw [← hr'.commandId,← hr.commandId,hid]
      subst hsame
      refine ⟨⟨probe.toReleasedTombstone _,mem_append_right _ (mem_map_of_mem hprobemem),?_⟩,?_⟩
      · exact ⟨hr'.ids,hr'.idempotencyKey⟩
      · exact .inl (hr'.unfinished (hvalid.commands original horiginal) hstate)
    · exact .inl ⟨after,mem_filter.mpr ⟨hafter,decide_eq_true hmem⟩,hr.successor (hvalid.commands command hcommand)⟩
  · intro next hnext
    obtain ⟨command,hcommand,hr⟩ := hback next (mem_filter.mp hnext).1
    exact .inl ⟨command,hcommand,hr.commandId.symm⟩
  · intro hplain
    constructor
    · intro next hnext
      obtain ⟨command,hcommand,hr⟩ := hback next (mem_filter.mp hnext).1
      exact hr.plain (hplain.commands command hcommand)
    · intro tombstone htombstone
      rcases mem_append.mp htombstone with htombstone | htombstone
      · exact hplain.released tombstone htombstone
      · obtain ⟨probe,hprobemem,rfl⟩ := mem_map.mp htombstone
        obtain ⟨command,hcommand,hr⟩ := hback probe (hprobe probe hprobemem).1
        exact portable_toReleasedTombstone (hr.plain (hplain.commands command hcommand)).portable _

/-- The snapshot of the file, which is the one in memory when the outbox is open. -/
structure Device.Holds (platform : Platform) (device : Device) (snapshot : CommandOutboxSnapshot) : Prop where
  valid : snapshot.Valid
  plain : snapshot.Plain
  file : (device.file = none ∧ snapshot = .empty) ∨ ∃ text migration, device.file = some text ∧
    decodeForStorage platform.longOrNull text = .ok ⟨snapshot,migration⟩ ∧
    (migration = none → ∃ text,encode snapshot = .ok text)
  memory : ∀ open_, device.memory = some open_ → open_ = snapshot ∧ ∃ text, encode snapshot = .ok text

/-- A file that no outbox can open. -/
structure Device.Unreadable (platform : Platform) (device : Device) : Prop where
  memory : device.memory = none
  file : ∃ text error, device.file = some text ∧ decodeForStorage platform.longOrNull text = .error error

variable {text : List Char}

section Steps

variable {platform : Platform} {device : Device} {snapshot next : CommandOutboxSnapshot} {reply : Reply}

theorem Device.Holds.closed (h : device.Holds platform snapshot) : Device.Holds platform ⟨device.file,none⟩ snapshot :=
  ⟨h.valid,h.plain,h.file,by simp⟩

theorem holds_of_encode {memory : Option CommandOutboxSnapshot} (hencode : encode next = .ok text)
    (hplain : next.Plain) (hmemory : memory = none ∨ memory = some next) :
    Device.Holds platform ⟨some text,memory⟩ next where
  valid := (encode_eq_ok.mp hencode).1
  plain := hplain
  file := by
    have hdecode := decodeForStorage_encode platform.readsDecimals hencode hplain.toPortable
    rw [hplain.stored_eq] at hdecode
    exact .inr ⟨text,none,rfl,hdecode,fun _ => ⟨text,hencode⟩⟩
  memory := by
    intro open_ hopen
    rcases hmemory with rfl | rfl
    · cases hopen
    · exact ⟨(some.inj hopen).symm,text,hencode⟩

/-- A save ends with the snapshot before it or with the new one, and returns with the new one. -/
theorem commit_holds (hholds : device.Holds platform snapshot) (hplain : next.Plain) (write : Write) (reply : Reply) :
    let ended := commit device write next reply
    (ended.1.Holds platform next ∧ ∀ answer,ended.2 = .returned answer → answer = reply ∧ ended.1.memory = some next) ∨
    ended.1.Holds platform snapshot ∧ ∀ answer, ended.2 ≠ .returned answer := by
  dsimp only
  unfold commit
  cases hencode : encode next with
  | error error =>
    right
    exact ⟨hholds,by rintro answer ⟨⟩⟩
  | ok text =>
    cases write with
    | done =>
      left
      refine ⟨holds_of_encode hencode hplain (.inr rfl),?_⟩
      rintro answer ⟨⟩
      exact ⟨rfl,rfl⟩
    | failed =>
      right
      exact ⟨hholds,by rintro answer ⟨⟩⟩
    | killed written =>
      cases written with
      | true =>
        left
        exact ⟨holds_of_encode hencode hplain (.inl rfl),by rintro answer ⟨⟩⟩
      | false =>
        right
        exact ⟨hholds.closed,by rintro answer ⟨⟩⟩

theorem openLoaded_holds (hholds : device.Holds platform snapshot)
    (hencode : ∃ text,encode snapshot = .ok text) (clock : ℕ → ℤ) (write : Write) :
    ∃ after, (openLoaded clock device write snapshot).1.Holds platform after ∧ Follows freed drawn snapshot after ∧
      ∀ answer, (openLoaded clock device write snapshot).2 = .returned answer → ∃ ids, answer = .opened ids := by
  unfold openLoaded
  cases hrecover : recover clock snapshot with
  | error error => exact ⟨snapshot,hholds.closed,.refl snapshot,by rintro answer ⟨⟩⟩
  | ok result =>
    obtain ⟨recovered,probes⟩ := result
    obtain ⟨hfollows,hplain⟩ : Follows freed drawn snapshot recovered ∧ (snapshot.Plain → recovered.Plain) :=
      recover_follows hholds.valid hrecover
    dsimp only
    split
    · next heq =>
      subst heq
      refine ⟨recovered,⟨hholds.valid,hholds.plain,hholds.file,?_⟩,.refl recovered,?_⟩
      · rintro open_ ⟨⟩
        exact ⟨rfl,hencode⟩
      · rintro answer ⟨⟩
        exact ⟨_,rfl⟩
    · rcases commit_holds hholds.closed (hplain hholds.plain) write (.opened (probes.map (·.commandId))) with
        ⟨hnext,hreply⟩ | ⟨hsame,hreply⟩
      · exact ⟨recovered,hnext,hfollows,fun answer hanswer => ⟨_,(hreply answer hanswer).1⟩⟩
      · exact ⟨snapshot,hsame,.refl snapshot,fun answer hanswer => absurd hanswer (hreply answer)⟩

theorem encode_empty : ∃ text, encode .empty = .ok text := by
  refine ⟨(encodeSnapshot .empty).print,encode_eq_ok.mpr ⟨valid_empty,?_,rfl⟩⟩
  decide

theorem start_holds (hholds : device.Holds platform snapshot) (clock : ℕ → ℤ)
    (writes : ℕ → Write) : ∃ after, (start platform clock writes device).1.Holds platform after ∧
      Follows freed drawn snapshot after ∧
      ∀ answer, (start platform clock writes device).2 = .returned answer → ∃ ids, answer = .opened ids := by
  unfold start
  rcases hholds.file with ⟨hfile,rfl⟩ | ⟨text,migration,hfile,hdecode,hwritten⟩
  · rw [hfile]
    exact openLoaded_holds hholds encode_empty clock (writes 1)
  · simp only [hfile,hdecode]
    cases migration with
    | none => exact openLoaded_holds hholds (hwritten rfl) clock (writes 1)
    | some migration =>
      dsimp only
      have hcommit := commit_holds hholds.closed hholds.plain (writes 0) .cleared
      dsimp only at hcommit
      rw [hfile] at hcommit
      split
      · next saved answer heq =>
        rw [heq] at hcommit
        rcases hcommit with ⟨hnext,hreply⟩ | ⟨-,hreply⟩
        · exact openLoaded_holds hnext (hnext.memory snapshot (hreply answer rfl).2).2 clock (writes 1)
        · exact absurd rfl (hreply answer)
      · next saved outcome hnot heq =>
        rw [heq] at hcommit
        have hreturned : ∀ answer,outcome ≠ .returned answer := by
          rintro answer rfl
          exact hnot answer rfl
        rcases hcommit with ⟨hnext,-⟩ | ⟨hsame,-⟩
        · exact ⟨snapshot,hnext,.refl snapshot,fun answer hanswer => absurd hanswer (hreturned answer)⟩
        · exact ⟨snapshot,hsame,.refl snapshot,fun answer hanswer => absurd hanswer (hreturned answer)⟩

end Steps

def Action.Plain : Action → Prop
  | .call request _ _ => request.Plain
  | .start _ _ | .clear _ | .kill => True

def Action.frees : Action → JsString → Prop
  | .call request _ _ => request.frees
  | .start _ _ | .clear _ | .kill => fun _ => False

def Action.draws : Action → JsString → Prop
  | .call request _ _ => request.draws
  | .start _ _ | .clear _ | .kill => fun _ => False

def Action.isClear : Action → Bool
  | .clear _ => true
  | .start _ _ | .call _ _ _ | .kill => false

/-- What the answer of a step says about the snapshot after it. -/
structure Answered (action : Action) (outcome : Outcome) (after : CommandOutboxSnapshot) : Prop where
  handedOut : ∀ transmission, outcome = .returned (.transmission (some transmission)) →
    ∃ command ∈ after.commands, ∃ recovery, command.toTransmission recovery = .ok transmission
  completed : ∀ completion now write, action = .call (.recordCompletion completion) now write →
    outcome = .returned (.recorded true) →
    ∃ command ∈ after.commands, command.commandId = completion.commandId ∧ command.completion = some completion

variable {action : Action}

theorem answered_of_silent {outcome : Outcome} {after : CommandOutboxSnapshot}
    (h : ∀ reply,outcome = .returned reply → (∃ ids,reply = .opened ids) ∨ reply = .cleared) :
    Answered action outcome after where
  handedOut := by
    rintro transmission rfl
    rcases h _ rfl with ⟨ids,hids⟩ | hcleared
    · cases hids
    · cases hcleared
  completed := by
    rintro completion now write - rfl
    rcases h _ rfl with ⟨ids,hids⟩ | hcleared
    · cases hids
    · cases hcleared

variable {platform : Platform} {device : Device} {snapshot : CommandOutboxSnapshot} {file : Option (List Char)}

theorem step_call {now : ℤ} {write : Write} (hmemory : device.memory = some snapshot) :
    device.step platform (.call request now write) = perform device write (plan platform snapshot now request) := by
  simp only [Device.step,hmemory]

section

variable (hholds : device.Holds platform snapshot)
include hholds

theorem call_holds (hplain : request.Plain) (now : ℤ)
    (write : Write) : ∃ after, (device.step platform (.call request now write)).1.Holds platform after ∧
      Follows request.frees request.draws snapshot after ∧
      Answered (.call request now write) (device.step platform (.call request now write)).2 after := by
  cases hmemory : device.memory with
  | none =>
    have hstep : device.step platform (.call request now write) = (device,.absent) := by
      simp only [Device.step,hmemory]
    rw [hstep]
    exact ⟨snapshot,hholds,.refl snapshot,answered_of_silent (by rintro reply ⟨⟩)⟩
  | some open_ =>
    obtain ⟨rfl,-⟩ := hholds.memory open_ hmemory
    rw [step_call hmemory]
    cases hplan : plan platform open_ now request with
    | error error => exact ⟨open_,hholds,.refl open_,answered_of_silent (by rintro reply ⟨⟩)⟩
    | ok planned =>
      cases planned with
      | keep reply =>
        have hkeep := plan_keep hplan
        refine ⟨open_,hholds,.refl open_,?_,?_⟩
        · rintro transmission ⟨⟩
          exact absurd trivial hkeep
        · rintro completion now' write' haction ⟨⟩
          injection haction with hrequest
          exact absurd ⟨completion,hrequest⟩ hkeep
      | commit next reply =>
        have hcommits := plan_commits hholds.valid hplan
        rcases commit_holds hholds (hcommits.plain hplain hholds.plain) write reply with
          ⟨hnext,hreply⟩ | ⟨hsame,hreply⟩
        · refine ⟨next,hnext,hcommits.follows,?_,?_⟩
          · intro transmission houtcome
            exact hcommits.handedOut transmission (hreply _ houtcome).1.symm
          · intro completion now' write' haction houtcome
            injection haction with hrequest
            exact hcommits.completed completion hrequest
        · exact ⟨open_,hsame,.refl open_,answered_of_silent fun answer hanswer => absurd hanswer (hreply answer)⟩

theorem step_holds (hplain : action.Plain) (hclear : action.isClear = false) :
    ∃ after, (device.step platform action).1.Holds platform after ∧
      Follows action.frees action.draws snapshot after ∧
      Answered action (device.step platform action).2 after := by
  cases action with
  | start clock writes =>
    obtain ⟨after,hafter,hfollows,hreply⟩ := start_holds hholds clock writes
    exact ⟨after,hafter,hfollows,answered_of_silent fun reply houtcome => .inl (hreply reply houtcome)⟩
  | call request now write => exact call_holds hholds hplain now write
  | clear write => cases hclear
  | kill => exact ⟨snapshot,hholds.closed,.refl snapshot,answered_of_silent (by rintro reply ⟨⟩)⟩

/-- Clearing leaves the snapshot or an empty one, and never completes a command. -/
theorem clear_holds (write : Write) : ((device.step platform (.clear write)).1.Holds platform snapshot ∨
      (device.step platform (.clear write)).1.Holds platform .empty) ∧
    ∀ reply, (device.step platform (.clear write)).2 = .returned reply → reply = .cleared := by
  have hempty : ∀ memory,memory = none ∨ memory = some CommandOutboxSnapshot.empty →
      Device.Holds platform ⟨none,memory⟩ .empty := by
    intro memory hmemory
    refine ⟨valid_empty,⟨by simp [CommandOutboxSnapshot.empty],by simp [CommandOutboxSnapshot.empty]⟩,
      .inl ⟨rfl,rfl⟩,?_⟩
    intro open_ hopen
    rcases hmemory with rfl | rfl
    · cases hopen
    · exact ⟨(some.inj hopen).symm,encode_empty⟩
  cases hmemory : device.memory with
  | none =>
    have hstep : device.step platform (.clear write) = (device,.absent) := by simp only [Device.step,hmemory]
    rw [hstep]
    exact ⟨.inl hholds,by rintro reply ⟨⟩⟩
  | some open_ =>
    have hstep : device.step platform (.clear write) = clearOutbox device write := by simp only [Device.step,hmemory]
    rw [hstep]
    cases write with
    | done =>
      refine ⟨.inr (hempty _ (.inr rfl)),?_⟩
      rintro reply ⟨⟩
      rfl
    | failed => exact ⟨.inl hholds,by rintro reply ⟨⟩⟩
    | killed written =>
      cases written with
      | true => exact ⟨.inr (hempty _ (.inl rfl)),by rintro reply ⟨⟩⟩
      | false => exact ⟨.inl hholds.closed,by rintro reply ⟨⟩⟩

omit hholds in
theorem run_append (actions more : List Action) :
    device.run platform (actions ++ more) = (device.run platform actions).run platform more := by
  simp only [Device.run,foldl_append]

/-- A run without clearing moves the snapshot by what its operations commit. -/
theorem run_follows (hplain : ∀ action ∈ actions,action.Plain) (hclear : ∀ action ∈ actions,action.isClear = false) :
    ∃ after, (device.run platform actions).Holds platform after ∧
      Follows (fun id => ∃ action ∈ actions,action.frees id) (fun id => ∃ action ∈ actions,action.draws id)
        snapshot after := by
  induction actions generalizing device snapshot with
  | nil => exact ⟨snapshot,hholds,.refl snapshot⟩
  | cons action actions ih =>
    obtain ⟨middle,hmiddle,hfollows,-⟩ := step_holds hholds (hplain action mem_cons_self) (hclear action mem_cons_self)
    obtain ⟨after,hafter,hfollows'⟩ := ih hmiddle (fun a ha => hplain a (mem_cons_of_mem action ha))
      (fun a ha => hclear a (mem_cons_of_mem action ha))
    refine ⟨after,hafter,(hfollows.mono ?_ ?_).trans (hfollows'.mono ?_ ?_)⟩
    · exact fun id hid => ⟨action,mem_cons_self,hid⟩
    · exact fun id hid => ⟨action,mem_cons_self,hid⟩
    · exact fun id ⟨a,ha,hid⟩ => ⟨a,mem_cons_of_mem action ha,hid⟩
    · exact fun id ⟨a,ha,hid⟩ => ⟨a,mem_cons_of_mem action ha,hid⟩

theorem run_holds
    (hplain : ∀ action ∈ actions,action.Plain) : ∃ after, (device.run platform actions).Holds platform after := by
  induction actions generalizing device snapshot with
  | nil => exact ⟨snapshot,hholds⟩
  | cons action actions ih =>
    have hstep : ∃ middle,(device.step platform action).1.Holds platform middle := by
      cases hclear : action.isClear with
      | false =>
        obtain ⟨middle,hmiddle,-⟩ := step_holds hholds (hplain action mem_cons_self) hclear
        exact ⟨middle,hmiddle⟩
      | true =>
        cases action with
        | clear write => exact (clear_holds hholds write).1.elim (fun h => ⟨_,h⟩) fun h => ⟨_,h⟩
        | start | call | kill => cases hclear
    obtain ⟨middle,hmiddle⟩ := hstep
    exact ih hmiddle fun a ha => hplain a (mem_cons_of_mem action ha)

theorem Device.Holds.decode_encode {open_ : CommandOutboxSnapshot} (hmemory : device.memory = some open_) :
    ∃ text, encode open_ = .ok text ∧ decode platform.longOrNull text = .ok open_ := by
  obtain ⟨rfl,text,hencode⟩ := hholds.memory open_ hmemory
  refine ⟨text,hencode,?_⟩
  rw [decode,decodeForStorage_encode platform.readsDecimals hencode hholds.plain.toPortable,hholds.plain.stored_eq]
  rfl

end

/-- The strings of a file that can be read are well-formed, and a file of the present schema was written by the
outbox. -/
structure Readable (platform : Platform) (file : Option (List Char)) : Prop where
  plain : ∀ text decoded, file = some text → decodeForStorage platform.longOrNull text = .ok decoded →
    decoded.snapshot.Plain
  written : ∀ text decoded, file = some text → decodeForStorage platform.longOrNull text = .ok decoded →
    decoded.migration = none → ∃ text, encode decoded.snapshot = .ok text

theorem readable_none : Readable platform none := ⟨by simp,by simp⟩

theorem Unreadable.step (h : device.Unreadable platform) (action : Action) :
    (device.step platform action).1.Unreadable platform ∧
      ∀ reply, (device.step platform action).2 ≠ .returned reply := by
  obtain ⟨hmemory,text,error,hfile,hdecode⟩ := h
  cases action with
  | start clock writes =>
    simp only [Device.step,start,hfile,hdecode]
    exact ⟨⟨rfl,text,error,rfl,hdecode⟩,by rintro reply ⟨⟩⟩
  | call | clear =>
    simp only [Device.step,hmemory]
    exact ⟨⟨hmemory,text,error,hfile,hdecode⟩,by rintro reply ⟨⟩⟩
  | kill => exact ⟨⟨rfl,text,error,hfile,hdecode⟩,by rintro reply ⟨⟩⟩

theorem Unreadable.run (h : device.Unreadable platform) (actions : List Action) :
    (device.run platform actions).Unreadable platform := by
  induction actions generalizing device with
  | nil => exact h
  | cons action actions ih => exact ih (Unreadable.step h action).1

theorem decodeForStorage_valid {decoded : DecodedCommandOutbox}
    (h : decodeForStorage platform.longOrNull text = .ok decoded) : decoded.snapshot.Valid := by
  simp only [decodeForStorage,bind_eq_ok] at h
  obtain ⟨_,-,_,-,_,-,_,-,_,-,_,-,_,-,_,-,_,-,_,-,_,-,_,-,_,-,_,hvalid,h⟩ := h
  cases h
  exact validateSnapshot_eq_ok.mp hvalid

/-- Before the first process the device holds what its file says, unless nothing can read the file. -/
theorem holds_of_readable (h : Readable platform file) :
    Device.Unreadable platform ⟨file,none⟩ ∨ ∃ snapshot, Device.Holds platform ⟨file,none⟩ snapshot := by
  cases file with
  | none =>
    refine .inr ⟨.empty,valid_empty,⟨by simp [CommandOutboxSnapshot.empty],by simp [CommandOutboxSnapshot.empty]⟩,
      .inl ⟨rfl,rfl⟩,by simp⟩
  | some text =>
    cases hdecode : decodeForStorage platform.longOrNull text with
    | error error => exact .inl ⟨rfl,text,error,rfl,hdecode⟩
    | ok decoded =>
      refine .inr ⟨decoded.snapshot,decodeForStorage_valid hdecode,h.plain text decoded rfl hdecode,
        .inr ⟨text,decoded.migration,rfl,hdecode,h.written text decoded rfl hdecode⟩,by simp⟩

theorem holds_of_run (hfile : Readable platform file) (hplain : ∀ action ∈ actions,action.Plain) :
    Device.Unreadable platform (Device.run platform ⟨file,none⟩ actions) ∨
      ∃ snapshot, (Device.run platform ⟨file,none⟩ actions).Holds platform snapshot :=
  (holds_of_readable hfile).imp (fun h => Unreadable.run h actions) fun ⟨_,h⟩ => run_holds h hplain

/-! ## Prompts

The parameters as they are for a plain prompt, whose digest is fixed. -/

def readDecimal (token : List Char) : Option ℤ :=
  if token ≠ [] ∧ token.all Char.isDigit then some (Nat.ofDigitChars 10 token 0) else none

theorem readsDecimals_readDecimal : ReadsDecimals readDecimal := by
  intro n hn _
  have hdigits : Json.stringifyInt n = Nat.toDigits 10 n.natAbs := by
    rw [Json.stringifyInt,if_neg (by omega)]
  have hall : (Nat.toDigits 10 n.natAbs).all Char.isDigit := all_eq_true.mpr fun c hc => isDigit_of_mem_toDigits hc
  rw [hdigits,readDecimal,if_pos ⟨toDigits_ne_nil _,hall⟩,Nat.ofDigitChars_ten_toDigits]
  simp only [some.injEq]
  omega

/-- Prompts without attachments and references. -/
def validatePrompt (payload : JsonObject) : Except OutboxError ValidatedCommandPayload :=
  match payload.get "sessionId" with
  | some (.string sessionId) =>
    if payload.map Prod.fst = ["operation","sessionId","text"] ∧
        payload.get "operation" = some (.string CommandOperation.prompt.wireName) then .ok ⟨.prompt,some sessionId⟩
    else .error (.illegalArgument "Command payload has missing or unexpected fields.")
  | _ => .error (.illegalArgument "Command field sessionId is invalid.")

def promptPlatform : Platform where
  longOrNull := readDecimal
  readsDecimals := readsDecimals_readDecimal
  validate := validatePrompt
  validate_sessionId := by
    intro payload validated id h hid
    unfold validatePrompt at h
    split at h
    · next sessionId hget =>
      split at h
      · cases h
        rw [hget]
        exact congrArg (fun id => some (JsonElement.string id)) (some.inj hid)
      · cases h
    · cases h
  sha256Hex := fun _ => "92940e2b60ac070037fc0894bb42268bc02f7959698f0bbd5ca7ee6bb75e8aba"

def helloPrompt : JsonObject :=
  [("operation",.string "prompt"),("sessionId",.string "session-1"),("text",.string "hello")]

def helloRun : List Action :=
  [.start (fun _ => 1) (fun _ => .done),
    .call (.enqueue "00000000-0000-4000-8000-000000000001" helloPrompt none none "operation-1" "command-1") 1 .done,
    .call (.claimForTransmission "command-1") 2 .done]

theorem helloRun_plain : ∀ action ∈ helloRun, Action.Plain action := by
  simp only [helloRun,forall_mem_cons,not_mem_nil,false_imp_iff,implies_true,and_true]
  exact ⟨trivial,⟨rfl,by simp,rfl,rfl⟩,trivial⟩

end Malink.Native.Commands
