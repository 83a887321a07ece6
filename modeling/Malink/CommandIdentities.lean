import Malink.CommandOutboxRuns
import Mathlib.Data.List.Pairwise

/-!
# Identities of commands

Until the outbox is cleared, a key names one command, a completion stays until the release, and a command is handed
out for transmission with what its first claim fixed.
-/

namespace Malink.Native.Commands

open PersistedCommand (ids)

def CommandOutboxSnapshot.Binds (snapshot : CommandOutboxSnapshot) (key commandId : JsString) : Prop :=
  (∃ command ∈ snapshot.commands,command.idempotencyKey = key ∧ command.commandId = commandId) ∨
    ∃ tombstone ∈ snapshot.released, tombstone.idempotencyKey = key ∧ tombstone.commandId = commandId

variable {command : PersistedCommand}

section Snapshots

variable {before after snapshot : CommandOutboxSnapshot} {freed drawn : JsString → Prop}

theorem Follows.binds (h : Follows freed drawn before after) {key commandId : JsString}
    (hbinds : before.Binds key commandId) : after.Binds key commandId := by
  rcases hbinds with ⟨command,hcommand,rfl,rfl⟩ | ⟨tombstone,htombstone,hbound⟩
  · rcases h.kept command hcommand with ⟨next,hnext,hsuccessor⟩ | ⟨⟨tombstone,htombstone,hburied⟩,-⟩
    · exact .inl ⟨next,hnext,hsuccessor.idempotencyKey,hsuccessor.commandId⟩
    · exact .inr ⟨tombstone,htombstone,hburied.idempotencyKey,hburied.commandId⟩
  · exact .inr ⟨tombstone,h.released htombstone,hbound⟩

/-- The checks of the codec leave one command to a key. -/
theorem CommandOutboxSnapshot.Valid.binds_unique (h : snapshot.Valid) {key commandId commandId' : JsString}
    (hbinds : snapshot.Binds key commandId) (hbinds' : snapshot.Binds key commandId') : commandId' = commandId := by
  rcases hbinds with ⟨command,hcommand,hkey,rfl⟩ | ⟨tombstone,htombstone,hkey,rfl⟩
  · rcases hbinds' with ⟨command',hcommand',hkey',rfl⟩ | ⟨tombstone,htombstone,hkey',rfl⟩
    · rw [h.eq_of_idempotencyKey hcommand' hcommand (hkey'.trans hkey.symm)]
    · exact absurd (hkey'.trans hkey.symm) (h.apart command hcommand tombstone htombstone)
  · rcases hbinds' with ⟨command,hcommand,hkey',rfl⟩ | ⟨tombstone',htombstone',hkey',rfl⟩
    · exact absurd (hkey.trans hkey'.symm) (h.apart command hcommand tombstone htombstone)
    · rw [h.released_eq_of_idempotencyKey htombstone' htombstone (hkey'.trans hkey.symm)]

theorem Follows.completed (h : Follows freed drawn before after) (hvalid : before.Valid)
    (hcommand : command ∈ before.commands) (hterminal : command.state.isTerminal)
    (hfreed : ¬ freed command.commandId) : ∃ next ∈ after.commands, next.commandId = command.commandId ∧
      next.state = command.state ∧ next.completion = command.completion := by
  have hsome : command.completion.isSome := by
    rw [← (hvalid.commands command hcommand).terminal]
    exact hterminal
  obtain ⟨completion,hcompletion⟩ := Option.isSome_iff_exists.mp hsome
  rcases h.kept command hcommand with ⟨next,hnext,hsuccessor⟩ | ⟨-,hunfinished⟩
  · obtain ⟨hnextcompletion,hstate⟩ := hsuccessor.completion completion hcompletion
    exact ⟨next,hnext,hsuccessor.commandId,hstate,hnextcompletion.trans hcompletion.symm⟩
  · rw [hcompletion] at hunfinished
    exact absurd hunfinished (by simp [hfreed])

structure CommandTransmission.Repeats (first later : CommandTransmission) : Prop where
  operationId : later.operationId = first.operationId
  commandId : later.commandId = first.commandId
  idempotencyKey : later.idempotencyKey = first.idempotencyKey
  projectId : later.projectId = first.projectId
  issuedAt : later.issuedAt = first.issuedAt
  payload : later.payload = first.payload

def CommandTransmission.SameCommand (first later : CommandTransmission) : Prop :=
  later.idempotencyKey = first.idempotencyKey ∨ later.commandId = first.commandId ∨
    later.operationId = first.operationId

theorem toTransmission_eq_ok {recovery : Bool} {transmission : CommandTransmission}
    (h : command.toTransmission recovery = .ok transmission) : command.createdAt = some transmission.issuedAt ∧
      transmission.operationId = command.operationId ∧ transmission.commandId = command.commandId ∧
      transmission.idempotencyKey = command.idempotencyKey ∧ transmission.projectId = command.projectId ∧
      transmission.payload = command.payload := by
  unfold PersistedCommand.toTransmission at h
  split at h
  · cases h
  · next createdAt hcreated =>
    cases h
    exact ⟨hcreated,rfl,rfl,rfl,rfl,rfl⟩

/-- No two commands share an identifier. -/
theorem eq_of_shared_id (h : snapshot.Valid) {a b : PersistedCommand} (ha : a ∈ snapshot.commands)
    (hb : b ∈ snapshot.commands) {id : JsString} (hida : id ∈ a.ids) (hidb : id ∈ b.ids) : a = b := by
  have hnodup := (List.nodup_append.mp h.durableIds).1
  rw [List.nodup_flatMap] at hnodup
  have hsymm : Std.Symm (Function.onFun List.Disjoint ids) := ⟨fun _ _ hdisjoint => List.disjoint_symm hdisjoint⟩
  by_contra hne
  exact hnodup.2.forall ha hb hne hida hidb

/-- A command that has been handed out stays as it was, whatever follows, so that another transmission repeats the
first. -/
theorem Follows.repeats (h : Follows freed drawn before after) (hvalid : after.Valid) {next : PersistedCommand}
    (hcommand : command ∈ before.commands) (hnext : next ∈ after.commands) {recovery recovery' : Bool}
    {first later : CommandTransmission} (hfirst : command.toTransmission recovery = .ok first)
    (hlater : next.toTransmission recovery' = .ok later) (hsame : first.SameCommand later) : first.Repeats later := by
  obtain ⟨hcreated,hoperation,hid,hkey,hproject,hpayload⟩ := toTransmission_eq_ok hfirst
  obtain ⟨hcreated',hoperation',hid',hkey',hproject',hpayload'⟩ := toTransmission_eq_ok hlater
  rw [CommandTransmission.SameCommand,hkey,hkey',hid,hid',hoperation,hoperation'] at hsame
  rcases h.kept command hcommand with ⟨kept,hkept,hsuccessor⟩ | ⟨⟨tombstone,htombstone,hburied⟩,-⟩
  · have heq : kept = next := by
      rcases hsame with hshared | hshared | hshared
      · exact hvalid.eq_of_idempotencyKey hkept hnext (hsuccessor.idempotencyKey.trans hshared.symm)
      · exact hvalid.eq_of_commandId hkept hnext (hsuccessor.commandId.trans hshared.symm)
      · have hid : next.operationId ∈ next.ids := by simp [ids]
        refine eq_of_shared_id hvalid hkept hnext ?_ hid
        rw [hshared,← hsuccessor.operationId]
        simp [ids]
    subst heq
    have hissued := hsuccessor.createdAt first.issuedAt hcreated
    rw [hcreated'] at hissued
    exact {
      operationId := hoperation'.trans (hsuccessor.operationId.trans hoperation.symm)
      commandId := hid'.trans (hsuccessor.commandId.trans hid.symm)
      idempotencyKey := hkey'.trans (hsuccessor.idempotencyKey.trans hkey.symm)
      projectId := hproject'.trans (hsuccessor.projectId.trans hproject.symm)
      issuedAt := Option.some.inj hissued
      payload := hpayload'.trans (hsuccessor.payload.trans hpayload.symm) }
  · -- A released identity is not used by an active command.
    exfalso
    rcases hsame with hshared | hshared | hshared
    · exact hvalid.apart next hnext tombstone htombstone (hburied.idempotencyKey.trans hshared.symm)
    · have hid : next.commandId ∈ next.ids := by simp [ids]
      refine hvalid.ids_disjoint hnext htombstone hid ?_
      rw [hburied.ids,hshared]
      simp [ids]
    · have hid : next.operationId ∈ next.ids := by simp [ids]
      refine hvalid.ids_disjoint hnext htombstone hid ?_
      rw [hburied.ids,hshared]
      simp [ids]

end Snapshots

/-- What holds between two moments of a run in which the outbox is not cleared. -/
structure Remembers (freed : JsString → Prop) (before after : CommandOutboxSnapshot) : Prop where
  bound : ∀ key commandId, before.Binds key commandId → after.Binds key commandId
  unique : ∀ key commandId commandId', before.Binds key commandId → after.Binds key commandId' → commandId' = commandId
  terminal : ∀ command ∈ before.commands, command.state.isTerminal → ¬ freed command.commandId →
    ∃ next ∈ after.commands, next.commandId = command.commandId ∧ next.state = command.state ∧
      next.completion = command.completion

theorem Follows.remembers {freed drawn : JsString → Prop} {before after : CommandOutboxSnapshot}
    (h : Follows freed drawn before after) (hvalid : before.Valid) (hvalid' : after.Valid) :
    Remembers freed before after where
  bound := fun _ _ => h.binds
  unique := fun _ _ _ hbinds hbinds' => hvalid'.binds_unique (h.binds hbinds) hbinds'
  terminal := fun _ => h.completed hvalid

/-- What the text of a file lists under its schema, before a command is set aside. -/
def Lists (longOrNull : List Char → Option ℤ) (text : List Char) (schemaVersion : ℤ) (listed : CommandOutboxSnapshot) :
    Prop :=
  ∃ (root : JsonObject) (commands released : List JsonElement), parseToJsonElement text = .ok (.object root) ∧
    root.requiredLong longOrNull "schemaVersion" = .ok schemaVersion ∧
    root.requiredArray "commands" = .ok commands ∧
    (commands.mapM fun e => do decodeCommand longOrNull (← jsonObject e) schemaVersion) = .ok listed.commands ∧
    root.requiredArray "released" = .ok released ∧
    (released.mapM fun e => do decodeTombstone longOrNull (← jsonObject e) schemaVersion) = .ok listed.released

/-- A listed command that the migration sets aside. -/
def SetAside (schemaVersion : ℤ) (listed : CommandOutboxSnapshot) (id : JsString) : Prop :=
  ∃ command ∈ listed.commands, command.commandId = id ∧ isQuarantined schemaVersion command

section Migration

variable {longOrNull : List Char → Option ℤ} {text : List Char} {schemaVersion : ℤ}
  {listed after : CommandOutboxSnapshot} {decoded : DecodedCommandOutbox}

theorem decodeForStorage_listed (h : decodeForStorage longOrNull text = .ok decoded)
    (hlists : Lists longOrNull text schemaVersion listed) :
    let quarantined := listed.commands.filter (isQuarantined schemaVersion)
    decoded.snapshot.commands = listed.commands.filter (fun command =>
      command.commandId ∉ quarantined.map (·.commandId)) ∧
    decoded.snapshot.released = listed.released ++ quarantined.map fun command =>
      command.toReleasedTombstone command.updatedAt := by
  obtain ⟨root,commands,released,hparse,hversion,hcommands,hdecoded,hreleased,hdecoded'⟩ := hlists
  have hroot : jsonObject (.object root) = .ok root := rfl
  simp only [decodeForStorage,check_bind_eq_ok,hparse,hroot,hversion,hcommands,hdecoded,hreleased,hdecoded',
    ok_bind] at h
  obtain ⟨-,-,-,-,-,-,-,h⟩ := h
  cases h
  exact ⟨rfl,rfl⟩

/-- A command of the file stays active, or its identity is released. -/
theorem listed_follows (h : decodeForStorage longOrNull text = .ok decoded)
    (hlists : Lists longOrNull text schemaVersion listed) (hids : (listed.commands.map (·.commandId)).Nodup)
    {drawn : JsString → Prop} : Follows (SetAside schemaVersion listed) drawn listed decoded.snapshot := by
  obtain ⟨hcommands,hreleased⟩ := decodeForStorage_listed h hlists
  refine ⟨fun command hcommand => ?_,fun next hnext => ?_,?_⟩
  · by_cases hquarantined : isQuarantined schemaVersion command
    · right
      refine ⟨⟨_,?_,buried_toReleasedTombstone command command.updatedAt⟩,.inr ⟨command,hcommand,rfl,hquarantined⟩⟩
      rw [hreleased]
      exact List.mem_append_right _ (List.mem_map.mpr ⟨command,List.mem_filter.mpr ⟨hcommand,hquarantined⟩,rfl⟩)
    · left
      refine ⟨command,?_,.refl command⟩
      rw [hcommands]
      refine List.mem_filter.mpr ⟨hcommand,decide_eq_true fun hmem => ?_⟩
      obtain ⟨other,hother,hid⟩ := List.mem_map.mp hmem
      obtain ⟨hother,hset⟩ := List.mem_filter.mp hother
      rw [List.inj_on_of_nodup_map hids hother hcommand hid] at hset
      exact hquarantined hset
  · rw [hcommands] at hnext
    exact .inl ⟨next,(List.mem_filter.mp hnext).1,rfl⟩
  · rw [hreleased]
    exact List.subset_append_left _ _

/-- What is remembered of the snapshot that a file gives is remembered of the file. -/
theorem remembers_listed {freed : JsString → Prop} (hr : Remembers freed decoded.snapshot after)
    (h : decodeForStorage longOrNull text = .ok decoded) (hlists : Lists longOrNull text schemaVersion listed)
    (hids : (listed.commands.map (·.commandId)).Nodup) :
    Remembers (fun id => freed id ∨ SetAside schemaVersion listed id) listed after := by
  have hfollows : Follows (SetAside schemaVersion listed) (fun _ => True) listed decoded.snapshot :=
    listed_follows h hlists hids
  refine ⟨fun key id hbinds => hr.bound key id (hfollows.binds hbinds),fun key id id' hbinds =>
    hr.unique key id id' (hfollows.binds hbinds),fun command hcommand hterminal hkept => ?_⟩
  obtain ⟨hcommands,-⟩ := decodeForStorage_listed h hlists
  have hmem : command ∈ decoded.snapshot.commands := by
    rw [hcommands]
    refine List.mem_filter.mpr ⟨hcommand,decide_eq_true fun hmem => hkept (.inr ?_)⟩
    obtain ⟨other,hother,hid⟩ := List.mem_map.mp hmem
    obtain ⟨hother,hset⟩ := List.mem_filter.mp hother
    exact ⟨other,hother,hid,hset⟩
  exact hr.terminal command hmem hterminal fun hfreed => hkept (.inl hfreed)

end Migration

/-- In a run of plain inputs, up to the next time the outbox is cleared: a key is bound to one command ID, also when a
legacy file is migrated and what it lists is set aside; a terminal command keeps its state and completion until it is
released; a later transmission of a command repeats the first; and every command that is not queued has a creation time,
so that the codec takes the snapshot and gives it back. -/
theorem outbox_remembers (platform : Platform) (file : Option (List Char)) (hfile : Readable platform file)
    (actions more : List Action) (hplain : ∀ action ∈ actions,action.Plain) (hmore : ∀ action ∈ more,action.Plain)
    (hclear : ∀ action ∈ more,action.isClear = false) :
    (∀ snapshot,(Device.run platform ⟨file,none⟩ actions).memory = some snapshot →
      (∀ command ∈ snapshot.commands,command.state = .queued ∨ command.createdAt ≠ none) ∧
      ∃ text,encode snapshot = .ok text ∧ decode platform.longOrNull text = .ok snapshot) ∧
    (∀ before after,(Device.run platform ⟨file,none⟩ actions).memory = some before →
      ((Device.run platform ⟨file,none⟩ actions).run platform more).memory = some after →
      Remembers (fun id => ∃ action ∈ more,action.frees id) before after) ∧
    (∀ text schemaVersion listed after,(Device.run platform ⟨file,none⟩ actions).file = some text →
      Lists platform.longOrNull text schemaVersion listed → (listed.commands.map (·.commandId)).Nodup →
      ((Device.run platform ⟨file,none⟩ actions).run platform more).memory = some after →
      Remembers (fun id => (∃ action ∈ more,action.frees id) ∨ SetAside schemaVersion listed id) listed after) ∧
    ∀ claim claim' now now' write write' first later, Request.Plain claim → Request.Plain claim' →
      ((Device.run platform ⟨file,none⟩ actions).step platform (.call claim now write)).2 =
        .returned (.transmission (some first)) →
      ((((Device.run platform ⟨file,none⟩ actions).step platform (.call claim now write)).1.run platform more).step
        platform (.call claim' now' write')).2 = .returned (.transmission (some later)) →
      first.SameCommand later → first.Repeats later := by
  rcases holds_of_run hfile hplain with hunreadable | ⟨held,hholds⟩
  · refine ⟨?_,?_,?_,?_⟩
    · intro snapshot hmemory
      rw [hunreadable.memory] at hmemory
      cases hmemory
    · intro before after hmemory
      rw [hunreadable.memory] at hmemory
      cases hmemory
    · intro text schemaVersion listed after _ _ _ hmemory
      rw [(Unreadable.run hunreadable more).memory] at hmemory
      cases hmemory
    · intro claim claim' now now' write write' first later _ _ hfirst
      exact absurd hfirst ((Unreadable.step hunreadable _).2 _)
  refine ⟨?_,?_,?_,?_⟩
  · intro snapshot hmemory
    obtain ⟨rfl,-⟩ := hholds.memory snapshot hmemory
    exact ⟨fun command hcommand => (hholds.valid.commands command hcommand).created,hholds.decode_encode hmemory⟩
  · intro before after hbefore hafter
    obtain ⟨rfl,-⟩ := hholds.memory before hbefore
    obtain ⟨last,hlast,hfollows⟩ := run_follows hholds hmore hclear
    obtain ⟨rfl,-⟩ := hlast.memory after hafter
    exact hfollows.remembers hholds.valid hlast.valid
  · intro text schemaVersion listed after hfile hlists hids hafter
    obtain ⟨last,hlast,hfollows⟩ := run_follows hholds hmore hclear
    obtain ⟨rfl,-⟩ := hlast.memory after hafter
    rcases hholds.file with ⟨hnone,-⟩ | ⟨text',migration,hsome,hdecode,-⟩
    · rw [hnone] at hfile
      cases hfile
    · rw [hsome] at hfile
      cases hfile
      exact remembers_listed (hfollows.remembers hholds.valid hlast.valid) hdecode hlists hids
  · intro claim claim' now now' write write' first later hclaim hclaim' hfirst hlater hsame
    obtain ⟨handed,hhanded,-,hanswered⟩ := call_holds hholds hclaim now write
    obtain ⟨middle,hmiddle,hfollows⟩ := run_follows hhanded hmore hclear
    obtain ⟨last,hlast,hfollows',hanswered'⟩ := call_holds hmiddle hclaim' now' write'
    obtain ⟨command,hcommand,recovery,htransmission⟩ := hanswered.handedOut first hfirst
    obtain ⟨next,hnext,recovery',htransmission'⟩ := hanswered'.handedOut later hlater
    have hbefore : Follows (fun _ => True) (fun _ => True) handed middle :=
      hfollows.mono (fun _ _ => trivial) fun _ _ => trivial
    have hboth := hbefore.trans (hfollows'.mono (fun _ _ => trivial) fun _ _ => trivial)
    exact hboth.repeats hlast.valid hcommand hnext htransmission htransmission' hsame

def helloTransmission (recovery : Bool) : CommandTransmission where
  operationId := "operation-1"
  commandId := "command-1"
  idempotencyKey := "00000000-0000-4000-8000-000000000001"
  projectId := none
  issuedAt := 2
  payload := helloPrompt
  recovery := recovery

/-- The prompt is claimed, its process ends, and the next one claims it for recovery. -/
theorem outbox_remembers_hello : (helloTransmission false).Repeats (helloTransmission true) :=
  (outbox_remembers promptPlatform none readable_none (helloRun.take 2) [.start (fun _ => 4) (fun _ => .done)]
    (fun action haction => helloRun_plain action (List.mem_of_mem_take haction)) (by simp [Action.Plain])
    (by simp [Action.isClear])).2.2.2 (.claimForTransmission "command-1") (.claimRecovery "command-1") 2 5 .done .done
    (helloTransmission false) (helloTransmission true) trivial trivial (by decide +kernel) (by decide +kernel) (.inl rfl)

def Device.keys (device : Device) : List (JsString × JsString) :=
  device.memory.elim [] fun snapshot =>
    snapshot.commands.map fun command => (command.idempotencyKey,command.commandId)

/-- The key of a command that was admitted before `clear` names another command after it. -/
theorem cleared_key_bound_again : (Device.run promptPlatform ⟨none,none⟩ helloRun).keys =
      [(("00000000-0000-4000-8000-000000000001" : JsString),("command-1" : JsString))] ∧
    (Device.run promptPlatform ⟨none,none⟩ (helloRun ++ [.clear .done,.call (.enqueue
      "00000000-0000-4000-8000-000000000001" helloPrompt none none "operation-2" "command-2") 4 .done])).keys =
      [(("00000000-0000-4000-8000-000000000001" : JsString),("command-2" : JsString))] := by
  constructor <;> decide +kernel

end Malink.Native.Commands
