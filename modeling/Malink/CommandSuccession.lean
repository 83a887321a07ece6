import Malink.DurableCommandOutbox

/-!
# What an operation may do to a snapshot

A command keeps its identity, its payload, the time of its first transmission and its completion, until its identity
moves to the ledger of released commands.
-/

namespace Malink.Native.Commands

structure Successor (before after : PersistedCommand) : Prop where
  ids : after.ids = before.ids
  idempotencyKey : after.idempotencyKey = before.idempotencyKey
  requestFingerprint : after.requestFingerprint = before.requestFingerprint
  projectId : after.projectId = before.projectId
  payload : after.payload = before.payload
  createdAt : ∀ n, before.createdAt = some n → after.createdAt = some n
  completion : ∀ completion, before.completion = some completion →
    after.completion = some completion ∧ after.state = before.state

theorem Successor.refl (command : PersistedCommand) : Successor command command where
  ids := rfl
  idempotencyKey := rfl
  requestFingerprint := rfl
  projectId := rfl
  payload := rfl
  createdAt := fun _ => id
  completion := fun _ h => ⟨h,rfl⟩

variable {a b command next : PersistedCommand} {freed drawn : JsString → Prop}
  {snapshot : CommandOutboxSnapshot}

theorem Successor.trans {c : PersistedCommand} (h : Successor a b) (h' : Successor b c) : Successor a c where
  ids := h'.ids.trans h.ids
  idempotencyKey := h'.idempotencyKey.trans h.idempotencyKey
  requestFingerprint := h'.requestFingerprint.trans h.requestFingerprint
  projectId := h'.projectId.trans h.projectId
  payload := h'.payload.trans h.payload
  createdAt := fun n hn => h'.createdAt n (h.createdAt n hn)
  completion := by
    intro completion hcompletion
    obtain ⟨hb,hstate⟩ := h.completion completion hcompletion
    obtain ⟨hc,hstate'⟩ := h'.completion completion hb
    exact ⟨hc,hstate'.trans hstate⟩

theorem Successor.commandId (h : Successor a b) : b.commandId = a.commandId := by
  have hids := h.ids
  rw [PersistedCommand.ids,PersistedCommand.ids] at hids
  exact (List.cons.inj (List.cons.inj hids).2).1

theorem Successor.operationId (h : Successor a b) : b.operationId = a.operationId := by
  have hids := h.ids
  rw [PersistedCommand.ids,PersistedCommand.ids] at hids
  exact (List.cons.inj hids).1

/-- The tombstone keeps the identity of the command. -/
structure Buried (command : PersistedCommand) (tombstone : ReleasedCommandTombstone) : Prop where
  ids : tombstone.ids = command.ids
  idempotencyKey : tombstone.idempotencyKey = command.idempotencyKey

theorem buried_toReleasedTombstone (command : PersistedCommand) (releasedAt : ℤ) :
    Buried command (command.toReleasedTombstone releasedAt) := ⟨rfl,rfl⟩

variable {command : PersistedCommand} {tombstone : ReleasedCommandTombstone}

theorem Buried.commandId (h : Buried command tombstone) : tombstone.commandId = command.commandId := by
  have hids := h.ids
  rw [PersistedCommand.ids,ReleasedCommandTombstone.ids] at hids
  exact (List.cons.inj (List.cons.inj hids).2).1

theorem Successor.buried (h : Successor a b) (hburied : Buried b tombstone) : Buried a tombstone :=
  ⟨hburied.ids.trans h.ids,hburied.idempotencyKey.trans h.idempotencyKey⟩

/-- `freed` are the commands that may be released although they are complete, `drawn` the IDs of new commands. -/
structure Follows (freed drawn : JsString → Prop) (before after : CommandOutboxSnapshot) : Prop where
  kept : ∀ command ∈ before.commands, (∃ next ∈ after.commands,Successor command next) ∨
    (∃ tombstone ∈ after.released,Buried command tombstone) ∧ (command.completion = none ∨ freed command.commandId)
  came : ∀ next ∈ after.commands, (∃ command ∈ before.commands,command.commandId = next.commandId) ∨
    drawn next.commandId
  released : before.released ⊆ after.released

namespace Follows

variable {freed drawn : JsString → Prop} {before middle after : CommandOutboxSnapshot}

theorem refl (snapshot : CommandOutboxSnapshot) : Follows freed drawn snapshot snapshot where
  kept := fun command h => .inl ⟨command,h,.refl command⟩
  came := fun command h => .inl ⟨command,h,rfl⟩
  released := List.Subset.refl _

theorem trans (h : Follows freed drawn before middle) (h' : Follows freed drawn middle after) :
    Follows freed drawn before after where
  kept := by
    intro command hcommand
    rcases h.kept command hcommand with ⟨next,hnext,hsuccessor⟩ | ⟨⟨tombstone,htombstone,hburied⟩,hfreed⟩
    · rcases h'.kept next hnext with ⟨last,hlast,hsuccessor'⟩ | ⟨⟨tombstone,htombstone,hburied⟩,hfreed⟩
      · exact .inl ⟨last,hlast,hsuccessor.trans hsuccessor'⟩
      · refine .inr ⟨⟨tombstone,htombstone,hsuccessor.buried hburied⟩,?_⟩
        rw [hsuccessor.commandId] at hfreed
        refine hfreed.imp_left fun hnone => ?_
        cases hcompletion : command.completion with
        | none => rfl
        | some completion =>
          have hnext := (hsuccessor.completion completion hcompletion).1
          rw [hnone] at hnext
          cases hnext
    · exact .inr ⟨⟨tombstone,h'.released htombstone,hburied⟩,hfreed⟩
  came := by
    intro last hlast
    rcases h'.came last hlast with ⟨next,hnext,hid⟩ | hdrawn
    · rw [← hid]
      exact h.came next hnext
    · exact .inr hdrawn
  released := List.Subset.trans h.released h'.released

theorem mono {freed' drawn' : JsString → Prop} (h : Follows freed drawn before after)
    (hfreed : ∀ id,freed id → freed' id) (hdrawn : ∀ id,drawn id → drawn' id) :
    Follows freed' drawn' before after where
  kept := fun command hcommand => (h.kept command hcommand).imp_right fun hburied =>
    ⟨hburied.1,hburied.2.imp_right (hfreed command.commandId)⟩
  came := fun next hnext => (h.came next hnext).imp_right (hdrawn next.commandId)
  released := h.released

end Follows

theorem follows_replace (h : Successor command next) :
    Follows freed drawn snapshot (snapshot.replace command next) where
  kept := by
    intro other hother
    left
    by_cases heq : other = command
    · refine ⟨next,?_,heq ▸ h⟩
      exact List.mem_map.mpr ⟨other,hother,by simp [heq]⟩
    · exact ⟨other,List.mem_map.mpr ⟨other,hother,by simp [heq]⟩,.refl other⟩
  came := by
    intro other hother
    left
    obtain ⟨original,horiginal,rfl⟩ := List.mem_map.mp hother
    refine ⟨original,horiginal,?_⟩
    split
    · next heq => rw [heq,h.commandId]
    · rfl
  released := List.Subset.refl _

theorem mem_replace (hcommand : command ∈ snapshot.commands) : next ∈ (snapshot.replace command next).commands :=
  List.mem_map.mpr ⟨command,hcommand,by simp⟩

theorem of_mem_replace {other : PersistedCommand}
    (h : other ∈ (snapshot.replace command next).commands) : other = next ∨ other ∈ snapshot.commands := by
  obtain ⟨original,horiginal,rfl⟩ := List.mem_map.mp h
  split
  · exact .inl rfl
  · exact .inr horiginal

theorem follows_retire {commands : List PersistedCommand} (releasedAt : ℤ)
    (h : ∀ command ∈ commands,command.completion = none ∨ freed command.commandId) :
    Follows freed drawn snapshot (snapshot.retire commands releasedAt) where
  kept := by
    intro command hcommand
    by_cases hmem : command ∈ commands
    · refine .inr ⟨⟨command.toReleasedTombstone releasedAt,?_,buried_toReleasedTombstone command releasedAt⟩,
        h command hmem⟩
      exact List.mem_append_right _ (List.mem_map_of_mem hmem)
    · exact .inl ⟨command,List.mem_filter.mpr ⟨hcommand,decide_eq_true hmem⟩,.refl command⟩
  came := fun command hcommand => .inl ⟨command,(List.mem_filter.mp hcommand).1,rfl⟩
  released := List.subset_append_left _ _

theorem follows_erase (releasedAt : ℤ) (h : command.completion = none ∨ freed command.commandId) :
    Follows freed drawn snapshot
      ⟨snapshot.commands.erase command,snapshot.released ++ [command.toReleasedTombstone releasedAt]⟩ where
  kept := by
    intro other hother
    by_cases heq : other = command
    · subst heq
      exact .inr ⟨⟨_,List.mem_append_right _ (List.mem_singleton_self _),buried_toReleasedTombstone other releasedAt⟩,
        h⟩
    · exact .inl ⟨other,(List.mem_erase_of_ne heq).mpr hother,.refl other⟩
  came := fun other hother => .inl ⟨other,List.mem_of_mem_erase hother,rfl⟩
  released := List.subset_append_left _ _

theorem Follows.add {before after : CommandOutboxSnapshot}
    (h : Follows freed drawn before after) (hdrawn : drawn command.commandId) :
    Follows freed drawn before { after with commands := after.commands ++ [command] } where
  kept := fun other hother => (h.kept other hother).imp_left fun ⟨next,hnext,hsuccessor⟩ =>
    ⟨next,List.mem_append_left _ hnext,hsuccessor⟩
  came := by
    intro next hnext
    rcases List.mem_append.mp hnext with hnext | hnext
    · exact h.came next hnext
    · rw [List.mem_singleton.mp hnext]
      exact .inr hdrawn
  released := h.released

end Malink.Native.Commands
