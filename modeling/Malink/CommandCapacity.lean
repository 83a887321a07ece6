import Malink.CommandGrowth

/-!
# Room for the outcome of a command

A call for an admitted command fails only for the size of the outbox. It never does while each admission, and each
opening of the outbox, leaves room for what the unfinished commands may still write. Admission itself asks for none.
-/

namespace Malink.Native.Commands

open List JsonElement
open Option (some)

variable {command : PersistedCommand}
  {snapshot : CommandOutboxSnapshot} {now : ℤ} {request : Request} {platform : Platform} {n : ℕ}

/-- When the protocol makes a call for a command. -/
def Request.Due (command : PersistedCommand) : Request → Prop
  | .claimForTransmission _ => command.state = .queued
  | .markTransmissionUncertain _ => command.state = .transmitting
  | .recordPublished _ matrixEventId => command.state.isTerminal = false ∧ command.createdAt ≠ none ∧
      isOpaqueId matrixEventId ∧ (command.matrixEventId = none ∨ command.matrixEventId = some matrixEventId)
  | .recordProgress _ sessionId => command.state.isTerminal = false ∧ command.createdAt ≠ none ∧
      ∀ id, sessionId = some id → isOpaqueId id
  | .recordCompletion _ => command.completion = none ∧ command.createdAt ≠ none
  | .enqueue .. | .claimRecovery _ | .markCancelRequested _ | .release _ | .retireUnavailableProjectCommand _
  | .retireUnverifiedCommand _ => False

/-- A call that the protocol makes for a command, at a time that the clock may read. -/
structure Called (snapshot : CommandOutboxSnapshot) (now : ℤ) (request : Request) (command : PersistedCommand) :
    Prop where
  mem : command ∈ snapshot.commands
  target : request.target = some command.commandId
  due : request.Due command
  clock : 0 ≤ now ∧ now ≤ MAX_SAFE_JSON_INTEGER

theorem valid_after (hvalid : snapshot.Valid)
    (h : Called snapshot now request command) : (command.after now request).Valid := by
  have hcommand := hvalid.commands command h.mem
  have hdue := h.due
  have hupdated : 0 ≤ max now command.updatedAt ∧ max now command.updatedAt ≤ MAX_SAFE_JSON_INTEGER :=
    ⟨le_max_of_le_left h.clock.1,max_le h.clock.2 hcommand.updatedAt.2⟩
  have hordered : command.submittedAt ≤ max now command.updatedAt := le_max_of_le_right hcommand.ordered
  have hunfinished : command.state.isTerminal = false → command.completion.isSome = false := by
    intro hstate
    rw [← hcommand.terminal,hstate]
  cases request with
  | claimForTransmission commandId =>
    have hstate : command.state = .queued := hdue
    refine { hcommand with updatedAt := hupdated, ordered := hordered, createdAt := ?_, created := ?_, terminal := ?_ }
    · rintro n ⟨⟩
      cases hcreated : command.createdAt with
      | none => exact hupdated
      | some n => exact hcommand.createdAt n hcreated
    · exact .inr (by simp [PersistedCommand.after])
    · exact (hunfinished (by rw [hstate]; rfl)).symm
  | markTransmissionUncertain commandId =>
    have hstate : command.state = .transmitting := hdue
    refine { hcommand with updatedAt := hupdated, ordered := hordered, created := ?_, terminal := ?_ }
    · exact .inr (hcommand.created.resolve_left (by rw [hstate]; decide))
    · exact (hunfinished (by rw [hstate]; rfl)).symm
  | recordPublished commandId matrixEventId =>
    obtain ⟨hstate,hcreated,hevent,-⟩ := hdue
    refine { hcommand with
      updatedAt := hupdated, ordered := hordered, created := .inr hcreated, matrixEventId := ?_, terminal := ?_ }
    · rintro id ⟨⟩
      exact hevent
    · rw [PersistedCommand.after]
      dsimp only
      rw [hunfinished hstate]
      split <;> rfl
  | recordProgress commandId sessionId =>
    obtain ⟨hstate,hcreated,hsession⟩ := hdue
    refine { hcommand with
      updatedAt := hupdated, ordered := hordered, created := .inr hcreated, sessionId := ?_, terminal := ?_ }
    · intro id hid
      cases sessionId with
      | none => exact hcommand.sessionId id hid
      | some given => exact hsession id hid
    · exact (hunfinished hstate).symm
  | recordCompletion completion =>
    obtain ⟨-,hcreated⟩ := hdue
    refine { hcommand with
      updatedAt := hupdated, ordered := hordered, created := .inr hcreated, sessionId := ?_, terminal := ?_,
      completion := ?_ }
    · intro id hid
      cases hgiven : completion.sessionId with
      | none => exact hcommand.sessionId id (by simpa [PersistedCommand.after,hgiven] using hid)
      | some given =>
        have hopaque := completion.sessionId_valid
        rw [hgiven] at hopaque
        have heq : given = id := by simpa [PersistedCommand.after,hgiven] using hid
        exact heq ▸ hopaque
    · rw [PersistedCommand.after]
      cases completion.outcome <;> rfl
    · rintro _ ⟨⟩
      exact some.inj h.target
  | enqueue | claimRecovery | markCancelRequested | release | retireUnavailableProjectCommand
    | retireUnverifiedCommand => exact hdue.elim

theorem valid_replace (hvalid : snapshot.Valid) {command next : PersistedCommand}
    (hsuccessor : Successor command next) (hnext : next.Valid) : (snapshot.replace command next).Valid := by
  have hmap : ∀ {β : Type} (f : PersistedCommand → β),f next = f command →
      (snapshot.replace command next).commands.map f = snapshot.commands.map f := by
    intro β f hf
    rw [CommandOutboxSnapshot.replace,map_map]
    apply map_congr_left
    intro other _
    rw [Function.comp_apply]
    split
    · next heq => rw [hf,heq]
    · rfl
  have hids : (snapshot.replace command next).durableIds = snapshot.durableIds := by
    rw [CommandOutboxSnapshot.durableIds,flatMap_def,hmap _ hsuccessor.ids,← flatMap_def]
    rfl
  have hlength : (snapshot.replace command next).commands.length = snapshot.commands.length := length_map _
  have hother : ∀ other ∈ (snapshot.replace command next).commands,∃ before ∈ snapshot.commands,
      other.idempotencyKey = before.idempotencyKey ∧ (before.Valid → other.Valid) := by
    intro other hother
    obtain ⟨before,hbefore,rfl⟩ := mem_map.mp hother
    refine ⟨before,hbefore,?_⟩
    split
    · next heq => exact ⟨heq ▸ hsuccessor.idempotencyKey,fun _ => hnext⟩
    · exact ⟨rfl,id⟩
  exact {
    capacity := by
      rw [hlength]
      exact hvalid.capacity
    commandIds := by
      rw [hmap _ hsuccessor.commandId]
      exact hvalid.commandIds
    idempotencyKeys := by
      rw [hmap _ hsuccessor.idempotencyKey]
      exact hvalid.idempotencyKeys
    durableIds := hids ▸ hvalid.durableIds
    releasedKeys := hvalid.releasedKeys
    apart := by
      intro other hmem tombstone htombstone
      obtain ⟨before,hbefore,hkey,-⟩ := hother other hmem
      rw [hkey]
      exact hvalid.apart before hbefore tombstone htombstone
    commands := by
      intro other hmem
      obtain ⟨before,hbefore,-,hnextvalid⟩ := hother other hmem
      exact hnextvalid (hvalid.commands before hbefore)
    released := hvalid.released }

theorem findCurrent_of_mem (hvalid : snapshot.Valid)
    (hcommand : command ∈ snapshot.commands) : snapshot.findCurrent command.commandId = some command := by
  cases hfind : snapshot.findCurrent command.commandId with
  | none =>
    have hnone := find?_eq_none.mp hfind command hcommand
    simp at hnone
  | some found =>
    obtain ⟨hmem,hid⟩ := findCurrent_eq_some hfind
    rw [hvalid.eq_of_commandId hmem hcommand hid]

theorem monotonicNow_of (h : 0 ≤ now ∧ now ≤ MAX_SAFE_JSON_INTEGER) (previous : ℤ) :
    monotonicNow now previous = .ok (max now previous) := monotonicNow_eq_ok.mpr ⟨h,rfl⟩

/-- A call that is due commits the record that it puts in the place of the command, unless nothing changes. -/
theorem plan_of_called (platform : Platform) (hvalid : snapshot.Valid) (h : Called snapshot now request command) :
    ∃ reply, plan platform snapshot now request =
      .ok (if command.after now request = command then .keep (.recorded false)
        else .commit (snapshot.replace command (command.after now request)) reply) := by
  have hdue := h.due
  have htarget := h.target
  have hfind := findCurrent_of_mem hvalid h.mem
  have hnow := monotonicNow_of h.clock
  cases request with
  | claimForTransmission commandId =>
    have hid : commandId = command.commandId := some.inj htarget
    have hstate : command.state = .queued := hdue
    have hchanges : command.after now (.claimForTransmission commandId) ≠ command := by
      intro heq
      have hafter : CommandState.transmitting = command.state := congrArg PersistedCommand.state heq
      rw [hstate] at hafter
      cases hafter
    subst hid
    apply Exists.intro
    simp only [plan,claimForTransmission,hfind,hstate,ne_eq,not_true_eq_false,if_false,hnow,ok_bind,
      PersistedCommand.toTransmission,hchanges]
    rfl
  | markTransmissionUncertain commandId =>
    have hid : commandId = command.commandId := some.inj htarget
    have hstate : command.state = .transmitting := hdue
    have hchanges : command.after now (.markTransmissionUncertain commandId) ≠ command := by
      intro heq
      have hafter : CommandState.recoveryRequired = command.state := congrArg PersistedCommand.state heq
      rw [hstate] at hafter
      cases hafter
    subst hid
    apply Exists.intro
    simp only [plan,markTransmissionUncertain,hfind,hstate,ne_eq,not_true_eq_false,if_false,hnow,ok_bind,hchanges]
    rfl
  | recordPublished commandId matrixEventId =>
    have hid : commandId = command.commandId := some.inj htarget
    obtain ⟨hstate,-,hevent,hsame⟩ := hdue
    subst hid
    have hconflict : ¬ (command.matrixEventId ≠ none ∧ command.matrixEventId ≠ some matrixEventId) := by
      rintro ⟨hnone,hother⟩
      exact hsame.elim hnone hother
    have hcheck : requireOpaqueId matrixEventId "matrixEventId" = .ok () := requireOpaqueId_eq_ok.mpr hevent
    refine ⟨.recorded true,?_⟩
    simp only [plan,recordPublished,hcheck,ok_bind,hfind,hstate,Bool.false_eq_true,if_false,hconflict,hnow]
    rfl
  | recordProgress commandId sessionId =>
    have hid : commandId = command.commandId := some.inj htarget
    obtain ⟨hstate,-,hsession⟩ := hdue
    subst hid
    have hcheck : checkPresent (requireOpaqueId · "sessionId") sessionId = .ok () :=
      checkPresent_eq_ok.mpr fun id hid => requireOpaqueId_eq_ok.mpr (hsession id hid)
    refine ⟨.recorded true,?_⟩
    simp only [plan,recordProgress,hcheck,ok_bind,hfind,hstate,Bool.false_eq_true,if_false,hnow]
    rfl
  | recordCompletion completion =>
    have hid : completion.commandId = command.commandId := some.inj htarget
    have hchanges : command.after now (.recordCompletion completion) ≠ command := by
      intro heq
      have hafter : some completion = command.completion := congrArg PersistedCommand.completion heq
      rw [hdue.1] at hafter
      cases hafter
    apply Exists.intro
    rw [if_neg hchanges]
    simp only [plan,recordCompletion,hid,hfind,hdue.1,hnow,ok_bind]
    rfl
  | enqueue | claimRecovery | markCancelRequested | release | retireUnavailableProjectCommand
    | retireUnverifiedCommand => exact hdue.elim

theorem unfinished_of_due (hvalid : snapshot.Valid)
    (h : Called snapshot now request command) : command.completion = none := by
  have hdue := h.due
  cases request with
  | claimForTransmission =>
    have hstate : command.state = .queued := hdue
    exact hvalid.unfinished h.mem (hstate ▸ rfl)
  | markTransmissionUncertain =>
    have hstate : command.state = .transmitting := hdue
    exact hvalid.unfinished h.mem (hstate ▸ rfl)
  | recordPublished | recordProgress => exact hvalid.unfinished h.mem hdue.1
  | recordCompletion => exact hdue.1
  | enqueue | claimRecovery | markCancelRequested | release | retireUnavailableProjectCommand
    | retireUnverifiedCommand => exact hdue.elim

def tooLarge : OutboxError := .illegalArgument "Command outbox is too large."

theorem encode_of_valid (hvalid : snapshot.Valid) : encode snapshot =
    if (encodeSnapshot snapshot).size ≤ MAX_PLAINTEXT_BYTES then .ok (encodeSnapshot snapshot).print
    else .error tooLarge := by
  rw [encode,validateSnapshot_eq_ok.mpr hvalid,ok_bind]
  unfold require refuseIf
  by_cases hfits : (encodeSnapshot snapshot).size ≤ MAX_PLAINTEXT_BYTES
  · have hprint : utf8Length (encodeSnapshot snapshot).print ≤ MAX_PLAINTEXT_BYTES := hfits
    simp only [hprint,hfits,not_true_eq_false,if_false,if_true]
    rfl
  · have hprint : ¬ utf8Length (encodeSnapshot snapshot).print ≤ MAX_PLAINTEXT_BYTES := hfits
    simp only [hprint,hfits,not_false_eq_true,if_false,if_true]
    rfl

variable {device : Device}

/-- The file that a call leaves. -/
def sizeAfter (snapshot : CommandOutboxSnapshot) (now : ℤ) (request : Request) (command : PersistedCommand) : ℕ :=
  (encodeSnapshot (snapshot.replace command (command.after now request))).size

/-- The file grows by what the values of the record do. -/
theorem sizeAfter_add (hvalid : snapshot.Valid) (h : Called snapshot now request command) :
    sizeAfter snapshot now request command + variableBytes command =
      (encodeSnapshot snapshot).size + variableBytes (command.after now request) := by
  have hsuccessor := successor_after command now request (unfinished_of_due hvalid h)
  have hsubmitted : (command.after now request).submittedAt = command.submittedAt := by cases request <;> rfl
  have hrecord := commandSize_add hsuccessor.ids hsuccessor.idempotencyKey hsuccessor.requestFingerprint hsubmitted
    hsuccessor.projectId hsuccessor.payload
  have hsize := size_replace hvalid h.mem (command.after now request)
  rw [sizeAfter]
  omega

/-- A call that is due is answered when it changes nothing or the file is not too large, and fails for its size
otherwise. -/
theorem called_outcome (platform : Platform) (hmemory : device.memory = some snapshot) (hvalid : snapshot.Valid)
    (h : Called snapshot now request command) : (command.after now request = command → ∀ write,
      device.step platform (.call request now write) = (device,.returned (.recorded false))) ∧
    (command.after now request ≠ command → sizeAfter snapshot now request command ≤ MAX_PLAINTEXT_BYTES →
      ∃ text reply,device.step platform (.call request now .done) =
        (⟨some text,some (snapshot.replace command (command.after now request))⟩,.returned reply) ∧
      ∀ write,(device.step platform (.call request now write)).2 ≠ .threw tooLarge) ∧
    (command.after now request ≠ command → ¬ sizeAfter snapshot now request command ≤ MAX_PLAINTEXT_BYTES →
      ∀ write,device.step platform (.call request now write) = (device,.threw tooLarge)) := by
  obtain ⟨reply,hplan⟩ := plan_of_called platform hvalid h
  have hsuccessor := successor_after command now request (unfinished_of_due hvalid h)
  have hencode := encode_of_valid (valid_replace hvalid hsuccessor (valid_after hvalid h))
  refine ⟨?_,?_,?_⟩
  · intro hsame write
    rw [if_pos hsame] at hplan
    rw [step_call hmemory,hplan]
    rfl
  · intro hchanges hfits
    rw [sizeAfter] at hfits
    rw [if_pos hfits] at hencode
    rw [if_neg hchanges] at hplan
    refine ⟨(encodeSnapshot (snapshot.replace command (command.after now request))).print,reply,?_,?_⟩
    · rw [step_call hmemory,hplan]
      simp only [perform,commit,hencode]
    · intro write
      rw [step_call hmemory,hplan]
      simp only [perform,commit,hencode]
      rcases write with - | - | ⟨- | -⟩ <;> simp [tooLarge]
  · intro hchanges hfits write
    rw [sizeAfter] at hfits
    rw [if_neg hfits] at hencode
    rw [if_neg hchanges] at hplan
    rw [step_call hmemory,hplan]
    simp only [perform,commit,hencode]

variable {write : Write}

theorem commit_valid {next open_ : CommandOutboxSnapshot} {reply : Reply}
    (hdevice : ∀ snapshot,device.memory = some snapshot → snapshot.Valid)
    (h : (commit device write next reply).1.memory = some open_) : open_.Valid := by
  unfold commit at h
  cases hencode : encode next with
  | error error =>
    simp only [hencode] at h
    exact hdevice open_ h
  | ok text =>
    simp only [hencode] at h
    cases write with
    | done =>
      cases h
      exact (encode_eq_ok.mp hencode).1
    | failed => exact hdevice open_ h
    | killed written => cases written <;> cases h

variable {clock : ℕ → ℤ}

theorem openLoaded_valid {loaded open_ : CommandOutboxSnapshot} (hloaded : loaded.Valid)
    (h : (openLoaded clock device write loaded).1.memory = some open_) : open_.Valid := by
  unfold openLoaded at h
  cases hrecover : recover clock loaded with
  | error error =>
    simp only [hrecover] at h
    cases h
  | ok result =>
    obtain ⟨recovered,probes⟩ := result
    simp only [hrecover] at h
    split at h
    · next heq =>
      cases h
      exact heq ▸ hloaded
    · exact commit_valid (by simp) h

variable {open_ : CommandOutboxSnapshot}

theorem start_valid {writes : ℕ → Write} (h : (start platform clock writes device).1.memory = some open_) :
    open_.Valid := by
  unfold start at h
  split at h
  · exact openLoaded_valid valid_empty h
  · next text hfile =>
    cases hdecode : decodeForStorage platform.longOrNull text with
    | error error =>
      simp only [hdecode] at h
      cases h
    | ok decoded =>
      simp only [hdecode] at h
      have hvalid := decodeForStorage_valid hdecode
      split at h
      · exact openLoaded_valid hvalid h
      · split at h
        · exact openLoaded_valid hvalid h
        · next saved outcome hnot heq =>
          have hclosed : ∀ snapshot,(⟨device.file,none⟩ : Device).memory = some snapshot → snapshot.Valid := by simp
          have hsaved : (commit ⟨device.file,none⟩ (writes 0) decoded.snapshot .cleared).1.memory = some open_ := by
            rw [heq]
            exact h
          exact commit_valid hclosed hsaved

theorem step_valid (hdevice : ∀ snapshot,device.memory = some snapshot → snapshot.Valid)
    (action : Action) (h : (device.step platform action).1.memory = some open_) : open_.Valid := by
  cases action with
  | start clock writes => exact start_valid h
  | call request now write =>
    simp only [Device.step] at h
    split at h
    · exact hdevice open_ h
    · next snapshot hmemory =>
      unfold perform at h
      split at h
      · exact hdevice open_ h
      · exact hdevice open_ h
      · exact commit_valid hdevice h
  | clear write =>
    simp only [Device.step] at h
    split at h
    · exact hdevice open_ h
    · unfold clearOutbox at h
      split at h
      · cases h
        exact valid_empty
      · exact hdevice open_ h
      · cases h
      · cases h
  | kill => cases h

/-- An action that brings commands into memory. -/
def Action.admits : Action → Bool
  | .start _ _ | .call (.enqueue ..) _ _ => true
  | _ => false

section Room

variable {next : CommandOutboxSnapshot} {reply : Reply}

theorem Advanced.roomy (h : Advanced snapshot now request next reply command) (hvalid : snapshot.Valid)
    (hnext : next.Valid) (hevent : KeepsEvent command request) (hroomy : Roomy snapshot) : Roomy next := by
  have hafter : (command.after now request).Valid := by
    refine hnext.commands _ ?_
    rw [h.next]
    exact mem_replace h.mem
  rw [h.next]
  exact roomy_replace hvalid h.mem (growth_after (hvalid.commands command h.mem) h.unfinished hevent hafter) hroomy

theorem keepsEvent_of_recordPublished {commandId matrixEventId : JsString} (hvalid : snapshot.Valid)
    (hcommand : command ∈ snapshot.commands) (hid : commandId = command.commandId)
    (h : recordPublished snapshot now commandId matrixEventId = .ok (.commit next reply)) :
    KeepsEvent command (.recordPublished commandId matrixEventId) := by
  rintro _ _ ⟨⟩
  rw [hid,recordPublished,check_bind_eq_ok,findCurrent_of_mem hvalid hcommand] at h
  by_contra hother
  obtain ⟨hnone,hsome⟩ := not_or.mp hother
  simp only [hnone,hsome,ne_eq,not_false_eq_true,and_self,if_true] at h
  split at h <;> cases h.2

theorem retireCommand_roomy (hcommand : command ∈ snapshot.commands)
    (h : retireCommand snapshot now command = .ok (.commit next reply)) (hroomy : Roomy snapshot) : Roomy next := by
  rw [retireCommand,check_bind_eq_ok,check_bind_eq_ok] at h
  obtain ⟨-,hnow,h⟩ := h
  cases h
  exact roomy_erase hcommand (require_eq_ok.mp hnow) hroomy

/-- No other operation takes room from the unfinished commands. -/
theorem plan_roomy (hvalid : snapshot.Valid) (hnext : next.Valid)
    (hkind : ∀ write,¬ (Action.call request now write).admits)
    (h : plan platform snapshot now request = .ok (.commit next reply)) (hroomy : Roomy snapshot) : Roomy next := by
  cases request with
  | enqueue => exact absurd rfl (hkind .done)
  | claimForTransmission =>
    obtain ⟨command,hadvanced⟩ := claimForTransmission_commits hvalid h
    exact hadvanced.roomy hvalid hnext (by rintro _ _ ⟨⟩) hroomy
  | claimRecovery =>
    obtain ⟨command,hadvanced⟩ := claimRecovery_commits hvalid h
    exact hadvanced.roomy hvalid hnext (by rintro _ _ ⟨⟩) hroomy
  | markTransmissionUncertain =>
    obtain ⟨command,hadvanced⟩ := markTransmissionUncertain_commits hvalid h
    exact hadvanced.roomy hvalid hnext (by rintro _ _ ⟨⟩) hroomy
  | recordPublished =>
    obtain ⟨command,hadvanced⟩ := recordPublished_commits hvalid h
    exact hadvanced.roomy hvalid hnext
      (keepsEvent_of_recordPublished hvalid hadvanced.mem (some.inj hadvanced.target) h) hroomy
  | recordProgress =>
    obtain ⟨command,hadvanced⟩ := recordProgress_commits hvalid h
    exact hadvanced.roomy hvalid hnext (by rintro _ _ ⟨⟩) hroomy
  | recordCompletion =>
    obtain ⟨command,hadvanced⟩ := recordCompletion_commits h
    exact hadvanced.roomy hvalid hnext (by rintro _ _ ⟨⟩) hroomy
  | markCancelRequested =>
    obtain ⟨command,hadvanced⟩ := markCancelRequested_commits hvalid h
    exact hadvanced.roomy hvalid hnext (by rintro _ _ ⟨⟩) hroomy
  | release =>
    rw [plan,release] at h
    split at h
    · cases h
    · next command hfind =>
      obtain ⟨_,-,h⟩ := bind_eq_ok.mp h
      exact retireCommand_roomy (findCurrent_eq_some hfind).1 (check_bind_eq_ok.mp h).2 hroomy
  | retireUnavailableProjectCommand =>
    rw [plan,retireUnavailableProjectCommand] at h
    split at h
    · cases h
    · next command hfind =>
      rw [check_bind_eq_ok,check_bind_eq_ok] at h
      exact retireCommand_roomy (findCurrent_eq_some hfind).1 h.2.2 hroomy
  | retireUnverifiedCommand =>
    rw [plan,retireUnverifiedCommand] at h
    split at h
    · cases h
    · next command hfind => exact retireCommand_roomy (findCurrent_eq_some hfind).1 h hroomy

/-- The outbox in memory is valid and has room. -/
def Device.Roomy (device : Device) : Prop :=
  ∀ snapshot, device.memory = some snapshot → snapshot.Valid ∧ Commands.Roomy snapshot

/-- A run in which every admission, and every opening of the outbox, leaves room in memory. -/
def LeavesRoom (platform : Platform) : Device → List Action → Prop
  | _, [] => True
  | device, action :: actions =>
    (action.admits → ∀ snapshot ∈ (device.step platform action).1.memory,Commands.Roomy snapshot) ∧
      LeavesRoom platform (device.step platform action).1 actions

instance decidableLeavesRoom (platform : Platform) :
    (device : Device) → (actions : List Action) → Decidable (LeavesRoom platform device actions)
  | _, [] => isTrue trivial
  | device, action :: actions =>
    have := decidableLeavesRoom platform (device.step platform action).1 actions
    inferInstanceAs (Decidable ((action.admits → ∀ snapshot ∈ (device.step platform action).1.memory,
      Commands.Roomy snapshot) ∧ LeavesRoom platform (device.step platform action).1 actions))

theorem commit_roomy (hdevice : device.Roomy) (hnext : next.Valid → Commands.Roomy next) :
    (commit device write next reply).1.Roomy := by
  unfold commit
  cases hencode : encode next with
  | error error => exact hdevice
  | ok text =>
    have hvalid := (encode_eq_ok.mp hencode).1
    cases write with
    | done =>
      rintro _ ⟨⟩
      exact ⟨hvalid,hnext hvalid⟩
    | failed => exact hdevice
    | killed written => cases written <;> rintro _ ⟨⟩

theorem step_roomy {action : Action} (hdevice : device.Roomy)
    (hadmits : action.admits → ∀ snapshot ∈ (device.step platform action).1.memory,Commands.Roomy snapshot) :
    (device.step platform action).1.Roomy := by
  by_cases ha : action.admits
  · exact fun snapshot h => ⟨step_valid (fun s hs => (hdevice s hs).1) action h,hadmits ha snapshot h⟩
  cases action with
  | start => exact absurd rfl ha
  | call request now write =>
    have hkind : ∀ write,¬ (Action.call request now write).admits := by
      intro other
      cases request <;> exact ha
    simp only [Device.step]
    split
    · exact hdevice
    · next snapshot hmemory =>
      obtain ⟨hvalid,hroomy⟩ := hdevice snapshot hmemory
      cases hplan : plan platform snapshot now request with
      | error error => exact hdevice
      | ok planned =>
        cases planned with
        | keep reply => exact hdevice
        | commit next reply =>
          exact commit_roomy hdevice fun hnext => plan_roomy hvalid hnext hkind hplan hroomy
  | clear write =>
    simp only [Device.step]
    split
    · exact hdevice
    · unfold clearOutbox
      split
      · rintro _ ⟨⟩
        exact ⟨valid_empty,by decide⟩
      · exact hdevice
      · rintro _ ⟨⟩
      · rintro _ ⟨⟩
  | kill => rintro _ ⟨⟩

theorem run_roomy {actions : List Action} (hdevice : device.Roomy) (h : LeavesRoom platform device actions) :
    (device.run platform actions).Roomy := by
  induction actions generalizing device with
  | nil => exact hdevice
  | cons action actions ih => exact ih (step_roomy hdevice h.1) h.2

end Room

/-- Where every admission and every opening of the outbox leaves room for the unfinished commands, each call that the
protocol makes for an admitted command is saved, whatever was admitted meanwhile. -/
theorem admitted_command_finishes (platform : Platform) (file : Option (List Char)) (actions : List Action)
    (hroom : LeavesRoom platform ⟨file,none⟩ actions) (snapshot : CommandOutboxSnapshot) (now : ℤ) (request : Request)
    (command : PersistedCommand) (hmemory : (Device.run platform ⟨file,none⟩ actions).memory = some snapshot)
    (h : Called snapshot now request command) :
    (∃ reply,((Device.run platform ⟨file,none⟩ actions).step platform (.call request now .done)).2 = .returned reply) ∧
    ∀ write, ((Device.run platform ⟨file,none⟩ actions).step platform (.call request now write)).2 ≠
      .threw tooLarge := by
  obtain ⟨hvalid,hroomy⟩ := run_roomy (by rintro _ ⟨⟩) hroom snapshot hmemory
  obtain ⟨hsame,hfits,-⟩ := called_outcome platform hmemory hvalid h
  by_cases hchanges : command.after now request = command
  · have hstep := hsame hchanges
    exact ⟨⟨_,congrArg Prod.snd (hstep .done)⟩,fun write => by rw [hstep write]; rintro ⟨⟩⟩
  · have hevent : KeepsEvent command request := by
      rintro commandId id rfl
      have hdue : command.state.isTerminal = false ∧ command.createdAt ≠ none ∧ isOpaqueId id ∧
          (command.matrixEventId = none ∨ command.matrixEventId = some id) := h.due
      exact hdue.2.2.2
    have hafter := roomy_replace hvalid h.mem (growth_after (hvalid.commands command h.mem)
      (unfinished_of_due hvalid h) hevent (valid_after hvalid h)) hroomy
    obtain ⟨text,reply,hdone,hothers⟩ := hfits hchanges (le_trans (Nat.le_add_right _ _) hafter)
    exact ⟨⟨reply,congrArg Prod.snd hdone⟩,hothers⟩

def helloCommand : PersistedCommand where
  operationId := "operation-1"
  commandId := "command-1"
  retiredCommandIds := []
  idempotencyKey := "00000000-0000-4000-8000-000000000001"
  requestFingerprint := "92940e2b60ac070037fc0894bb42268bc02f7959698f0bbd5ca7ee6bb75e8aba"
  state := .queued
  submittedAt := 1
  updatedAt := 1
  sessionId := some "session-1"
  projectId := none
  createdAt := none
  matrixEventId := none
  cancelRequested := false
  completion := none
  payload := helloPrompt

/-- The prompt is claimed, and another one is admitted after it. -/
def busyRun : List Action := helloRun ++
  [.call (.enqueue "00000000-0000-4000-8000-000000000002" helloPrompt none none "operation-2" "command-2") 3 .done]

def secondCommand : PersistedCommand :=
  { helloCommand with
    operationId := "operation-2"
    commandId := "command-2"
    idempotencyKey := "00000000-0000-4000-8000-000000000002"
    submittedAt := 3
    updatedAt := 3 }

theorem admitted_command_finishes_hello : ∃ reply, ((Device.run promptPlatform ⟨none,none⟩ busyRun).step promptPlatform
      (.call (.recordPublished "command-1" "$event") 4 .done)).2 = .returned reply := by
  have hmemory : (Device.run promptPlatform ⟨none,none⟩ busyRun).memory =
      some ⟨[helloCommand.after 2 (.claimForTransmission "command-1"),secondCommand],[]⟩ := by decide +kernel
  have hroom : LeavesRoom promptPlatform ⟨none,none⟩ busyRun := by decide +kernel
  exact (admitted_command_finishes promptPlatform none busyRun hroom _ 4 (.recordPublished "command-1" "$event") _
    hmemory {
      mem := mem_cons_self
      target := rfl
      due := ⟨rfl,Option.some_ne_none _,by decide,.inl rfl⟩
      clock := by decide }).1

def bulkPrompt (n : ℕ) : JsonObject :=
  [("operation",.string "prompt"),("sessionId",.string "session-1"),("text",.string ⟨replicate n 97⟩)]

theorem size_letters (n : ℕ) : (string ⟨replicate n 97⟩).size = n + 2 := by
  have hscrub : ∀ n,scrubUnits (replicate n 97) = replicate n 97 := by
    intro n
    induction n with
    | zero => rfl
    | succ n ih =>
      cases n with
      | zero => rfl
      | succ n => exact congrArg (97 :: ·) ih
  have hescape : ∀ n,Json.escapeUnits (replicate n 97) = replicate n 'a' := by
    intro n
    induction n with
    | zero => rfl
    | succ n ih =>
      cases n with
      | zero => rfl
      | succ n => exact congrArg ('a' :: ·) ih
  have hbytes : ∀ n,utf8Length (replicate n 'a') = n := by
    intro n
    induction n with
    | zero => rfl
    | succ n ih =>
      rw [replicate_succ,utf8Length_cons,ih,show ('a' : Char).utf8Size = 1 from rfl,Nat.add_comm]
  rw [JsonElement.size,print,quoted,hscrub,hescape,cons_append,utf8Length_cons,utf8Length_append,hbytes]
  change 1 + (n + 1) = n + 2
  omega

theorem size_bulkPrompt (n : ℕ) : (object (bulkPrompt n)).size = n + 56 := by
  have hempty : (object (bulkPrompt 0)).size = 56 := rfl
  rw [bulkPrompt,size_object] at hempty ⊢
  simp only [map_cons,map_nil,sum_cons,length_cons,length_nil,entrySize,size_letters] at hempty ⊢
  omega

def withoutPayload (command : PersistedCommand) : PersistedCommand := { command with payload := [] }

theorem commandSize_of {m : ℕ} (hempty : commandSize (withoutPayload command) = m)
    (hpayload : (object command.payload).size = n) : commandSize command + 2 = m + n := by
  rw [← hempty,← hpayload]
  simp only [commandSize,withoutPayload,size_object,encodeCommand,entrySize,map_cons,
    map_nil,sum_cons,sum_nil,length_cons,length_nil]
  omega

def bulkDigits (i : ℕ) : JsString := ⟨[48 + (i / 10).toUInt16,48 + (i % 10).toUInt16]⟩

/-- A prompt of the greatest size, as it is queued. -/
def bulkCommand (i : ℕ) : PersistedCommand where
  operationId := ("operation-" : JsString) ++ bulkDigits i
  commandId := ("command-" : JsString) ++ bulkDigits i
  retiredCommandIds := []
  idempotencyKey := ("00000000-0000-4000-8000-0000000000" : JsString) ++ bulkDigits i
  requestFingerprint := "bafda769de5ff0a97b8c9c4963e009ce64c2b352615cf24e497b6c0841c7071f"
  state := .queued
  submittedAt := 1
  updatedAt := 1
  sessionId := some "session-1"
  projectId := none
  createdAt := none
  matrixEventId := none
  cancelRequested := false
  completion := none
  payload := bulkPrompt 262088

def bulkPlatform : Platform :=
  { promptPlatform with sha256Hex := fun _ => "bafda769de5ff0a97b8c9c4963e009ce64c2b352615cf24e497b6c0841c7071f" }

def bulkRequest (i : ℕ) : Request :=
  .enqueue (bulkCommand i).idempotencyKey (bulkCommand i).payload none none (bulkCommand i).operationId
    (bulkCommand i).commandId

def bulk (n : ℕ) : CommandOutboxSnapshot := ⟨(range n).map bulkCommand,[]⟩

theorem bulkCommand_named : ∀ i < 12, isOpaqueId (bulkCommand i).operationId ∧
    isOpaqueId (bulkCommand i).commandId ∧ (bulkCommand i).idempotencyKey.isUuid ∧
    isFingerprint (bulkCommand i).requestFingerprint ∧
    commandSize (withoutPayload (bulkCommand i)) = 403 := by decide +kernel

theorem bulk_distinct : ∀ n < 12, ((bulk n).commands.map (·.commandId)).Nodup ∧
    ((bulk n).commands.map (·.idempotencyKey)).Nodup ∧ (bulk n).durableIds.Nodup := by decide

theorem bulkCommand_new : ∀ n < 11,
    (bulk n).commands.find? (fun command => command.idempotencyKey = (bulkCommand n).idempotencyKey) = none ∧
    (bulk n).newUniqueId (bulkCommand n).operationId "operationId" [] = .ok () ∧
    (bulk n).newUniqueId (bulkCommand n).commandId "commandId" [(bulkCommand n).operationId] = .ok () := by
  decide

theorem bulkCommand_valid {i : ℕ} (hi : i < 12) : (bulkCommand i).Valid where
  operationId := (bulkCommand_named i hi).1
  commandId := (bulkCommand_named i hi).2.1
  retiredCommandIds := by simp [bulkCommand]
  retired := by simp [bulkCommand]
  idempotencyKey := (bulkCommand_named i hi).2.2.1
  requestFingerprint := (bulkCommand_named i hi).2.2.2.1
  submittedAt := (by decide : (0 : ℤ) ≤ 1 ∧ 1 ≤ MAX_SAFE_JSON_INTEGER)
  updatedAt := (by decide : (0 : ℤ) ≤ 1 ∧ 1 ≤ MAX_SAFE_JSON_INTEGER)
  ordered := le_rfl
  sessionId := by
    rintro id ⟨⟩
    rfl
  projectId := by rintro id ⟨⟩
  createdAt := by rintro n ⟨⟩
  matrixEventId := by rintro id ⟨⟩
  created := .inl rfl
  payload := (size_bulkPrompt 262088).le
  operation := ⟨some "prompt",rfl,rfl⟩
  terminal := rfl
  completion := by rintro completion ⟨⟩

theorem bulk_valid (hn : n < 12) : (bulk n).Valid where
  capacity := by
    have hlength : (bulk n).commands.length = n := by simp [bulk]
    rw [hlength]
    exact ⟨hn.le.trans (by decide),Nat.zero_le _⟩
  commandIds := (bulk_distinct n hn).1
  idempotencyKeys := (bulk_distinct n hn).2.1
  durableIds := (bulk_distinct n hn).2.2
  releasedKeys := nodup_nil
  apart := by
    intro command _ tombstone htombstone
    cases htombstone
  commands := by
    intro command hcommand
    obtain ⟨i,hi,rfl⟩ := mem_map.mp hcommand
    exact bulkCommand_valid ((mem_range.mp hi).trans hn)
  released := by
    intro tombstone htombstone
    cases htombstone

theorem validate_bulkPrompt (n : ℕ) : validatePrompt (bulkPrompt n) = .ok ⟨.prompt,some "session-1"⟩ := rfl

theorem enqueue_bulk (hn : n < 11) : plan bulkPlatform (bulk n) 1 (bulkRequest n) =
    .ok (.commit (bulk (n + 1)) (.receipt (bulkCommand n).toView.toReceipt)) := by
  have hvalid := bulkCommand_valid (hn.trans (by decide))
  obtain ⟨hkey,hoperation,hcommand⟩ := bulkCommand_new n hn
  have hvalidated : bulkPlatform.validate (bulkCommand n).payload = .ok ⟨.prompt,some "session-1"⟩ :=
    validate_bulkPrompt 262088
  have hnow : nonnegativeNow 1 = .ok () := rfl
  have hreleased : (bulk n).released = [] := rfl
  have hlength : (bulk n).commands.length = n := by simp [bulk]
  have hprobe : CommandOperation.prompt.isGatewayStatusProbe = false := rfl
  have hnext : (bulk (n + 1)) = ⟨(bulk n).commands ++ [bulkCommand n],[]⟩ := by
    rw [bulk,bulk,range_succ,map_append,map_singleton]
  simp only [plan,bulkRequest,enqueue,requireUuid,require_of _ hvalid.idempotencyKey,checkPresent,ok_bind,
    hvalidated,true_or,require_of,hkey,hreleased,find?_nil,enqueueNew,hnow,hprobe,Bool.false_eq_true,
    if_false,admitCommand,hoperation,hcommand,length_nil,hlength]
  have hretire : (bulk n).retire [] 1 = bulk n := by simp [CommandOutboxSnapshot.retire,bulk]
  have hroom : n < MAX_COMMANDS + 0 := hn.trans (by decide)
  rw [require_of _ (by decide : 0 + 0 ≤ MAX_TOMBSTONES),require_of _ hroom,hretire,hnext]
  rfl

theorem commandSize_bulkCommand {i : ℕ} (hi : i < 12) : commandSize (bulkCommand i) = 262545 := by
  have hsize := commandSize_of (bulkCommand_named i hi).2.2.2.2 (size_bulkPrompt 262088)
  omega

theorem size_bulk (hn : n ≤ 12) : (encodeSnapshot (bulk n)).size = 47 + n * 262545 + (n - 1) := by
  have hsum : ((bulk n).commands.map commandSize).sum = n * 262545 := by
    induction n with
    | zero => rfl
    | succ n ih =>
      have hsizes : (bulk (n + 1)).commands.map commandSize =
          (bulk n).commands.map commandSize ++ [commandSize (bulkCommand n)] := by
        simp [bulk,range_succ]
      rw [hsizes,sum_append,ih (by omega),commandSize_bulkCommand (by omega),sum_singleton]
      omega
  have hlength : (bulk n).commands.length = n := by simp [bulk]
  have hframe : frameSize (bulk n) = 47 := (rfl : frameSize (bulk 0) = 47)
  rw [size_encodeSnapshot,hframe,hsum,hlength]

def bulkRun (n : ℕ) : List Action :=
  .start (fun _ => 1) (fun _ => .done) :: (range n).map fun i => .call (bulkRequest i) 1 .done

theorem outcomes_append (platform : Platform) (device : Device) (actions more : List Action) :
    device.outcomes platform (actions ++ more) =
      device.outcomes platform actions ++ (device.run platform actions).outcomes platform more := by
  induction actions generalizing device with
  | nil => rfl
  | cons action actions ih => exact congrArg _ (ih _)

theorem run_bulk (hn : n ≤ 11) : ∃ file,
    Device.run bulkPlatform ⟨none,none⟩ (bulkRun n) = ⟨file,some (bulk n)⟩ ∧
    ∀ outcome ∈ Device.outcomes bulkPlatform ⟨none,none⟩ (bulkRun n), ∃ reply, outcome = .returned reply := by
  induction n with
  | zero =>
    refine ⟨none,rfl,?_⟩
    intro outcome houtcome
    exact ⟨.opened [],mem_singleton.mp houtcome⟩
  | succ n ih =>
    obtain ⟨file,hrun,hreturned⟩ := ih (by omega)
    have hactions : bulkRun (n + 1) = bulkRun n ++ [.call (bulkRequest n) 1 .done] := by
      simp [bulkRun,range_succ]
    have hroom : (encodeSnapshot (bulk (n + 1))).size ≤ MAX_PLAINTEXT_BYTES := by
      rw [size_bulk (by omega),MAX_PLAINTEXT_BYTES]
      omega
    have hencode := encode_of_valid (bulk_valid (n := n + 1) (by omega))
    rw [if_pos hroom] at hencode
    have hstep : (⟨file,some (bulk n)⟩ : Device).step bulkPlatform (.call (bulkRequest n) 1 .done) =
        (⟨some (encodeSnapshot (bulk (n + 1))).print,some (bulk (n + 1))⟩,
          .returned (.receipt (bulkCommand n).toView.toReceipt)) := by
      rw [step_call rfl,enqueue_bulk (by omega)]
      simp only [perform,commit,hencode]
    refine ⟨some (encodeSnapshot (bulk (n + 1))).print,?_,?_⟩
    · rw [hactions,run_append,hrun,Device.run,foldl_cons,foldl_nil,hstep]
    · intro outcome houtcome
      rw [hactions,outcomes_append,hrun,mem_append] at houtcome
      rcases houtcome with hbefore | hlast
      · exact hreturned outcome hbefore
      · rw [Device.outcomes,hstep] at hlast
        exact ⟨_,mem_singleton.mp hlast⟩

def bulkCompletion : CommandCompletion where
  commandId := "command-00"
  sequence := 1
  revision := 0
  outcome := .succeeded
  sessionId := some "session-1"
  result := some (.string ⟨replicate 262142 97⟩)
  error := none
  commandId_valid := rfl
  sequence_valid := defaultSequence_valid
  revision_valid := defaultRevision_valid
  sessionId_valid := rfl
  result_valid := by
    rw [Option.all_some,size_letters]
    decide

variable {completion : CommandCompletion}

theorem size_le_completionBytes {result : JsonElement} (h : completion.result = some result) :
    result.size ≤ completionBytes (some completion) := by
  rw [completionBytes,Option.map_some,Option.getD_some,size_object]
  simp only [encodeCompletion,entrySize,map_cons,sum_cons,h,Option.getD_some]
  omega

theorem completionBytes_bulkCompletion : 262144 ≤ completionBytes (some bulkCompletion) := by
  have hresult : bulkCompletion.result = some (.string ⟨replicate 262142 97⟩) := rfl
  have hsize := size_le_completionBytes hresult
  rw [size_letters] at hsize
  exact hsize

theorem completionBytes_le_variableBytes (h : command.completion = some completion) :
    completionBytes (some completion) ≤ variableBytes command := by
  rw [variableBytes,h]
  exact Nat.le_add_left _ _

def bulkSent : PersistedCommand := (bulkCommand 0).after 1 (.claimForTransmission "command-00")

theorem commandSize_bulkSent : commandSize bulkSent = 262548 := by
  have hpayload : bulkSent.payload = bulkPrompt 262088 := rfl
  have hprompt := size_bulkPrompt 262088
  rw [← hpayload] at hprompt
  have hempty : commandSize (withoutPayload bulkSent) = 406 := by decide +kernel
  have hsize := commandSize_of hempty hprompt
  omega

theorem full_outbox_refuses_result : ∃ snapshot,
    (Device.run bulkPlatform ⟨none,none⟩ (bulkRun 11 ++ [.call (.claimForTransmission "command-00") 1 .done])).memory =
      some snapshot ∧ bulkSent ∈ snapshot.commands ∧ (∀ outcome ∈ Device.outcomes bulkPlatform ⟨none,none⟩
      (bulkRun 11 ++ [.call (.claimForTransmission "command-00") 1 .done]),∃ reply,outcome = .returned reply) ∧
    ((Device.run bulkPlatform ⟨none,none⟩ (bulkRun 11 ++ [.call (.claimForTransmission "command-00") 1 .done])).step
      bulkPlatform (.call (.recordCompletion bulkCompletion) 2 .done)).2 = .threw tooLarge := by
  obtain ⟨file,hrun,hreturned⟩ := run_bulk (le_refl 11)
  have hvalid := bulk_valid (n := 11) (by decide)
  have hclaim : Called (bulk 11) 1 (.claimForTransmission "command-00") (bulkCommand 0) := {
    mem := mem_map.mpr ⟨0,by decide,rfl⟩
    target := rfl
    due := rfl
    clock := by decide }
  have hsize : (encodeSnapshot ((bulk 11).replace (bulkCommand 0) bulkSent)).size = 2888055 := by
    have hreplace := size_replace hvalid hclaim.mem bulkSent
    rw [size_bulk (by decide),commandSize_bulkCommand (i := 0) (by decide),commandSize_bulkSent] at hreplace
    exact Nat.add_right_cancel (m := 262545) hreplace
  have hfits : sizeAfter (bulk 11) 1 (.claimForTransmission "command-00") (bulkCommand 0) ≤ MAX_PLAINTEXT_BYTES := by
    change (encodeSnapshot ((bulk 11).replace (bulkCommand 0) bulkSent)).size ≤ MAX_PLAINTEXT_BYTES
    rw [hsize]
    decide
  have hchanges : bulkSent ≠ bulkCommand 0 := by
    intro heq
    cases congrArg PersistedCommand.state heq
  have hopen : (⟨file,some (bulk 11)⟩ : Device).memory = some (bulk 11) := rfl
  obtain ⟨text,reply,hstep,-⟩ := (called_outcome bulkPlatform hopen hvalid hclaim).2.1 hchanges hfits
  have hsuccessor := successor_after (bulkCommand 0) 1 (.claimForTransmission "command-00") rfl
  have hvalid' : ((bulk 11).replace (bulkCommand 0) bulkSent).Valid :=
    valid_replace hvalid hsuccessor (valid_after hvalid hclaim)
  have hmem : bulkSent ∈ ((bulk 11).replace (bulkCommand 0) bulkSent).commands :=
    mem_map.mpr ⟨bulkCommand 0,hclaim.mem,if_pos rfl⟩
  have hresult : Called ((bulk 11).replace (bulkCommand 0) bulkSent) 2 (.recordCompletion bulkCompletion) bulkSent := {
    mem := hmem
    target := rfl
    due := ⟨rfl,Option.some_ne_none _⟩
    clock := by decide }
  have hchanges' : bulkSent.after 2 (.recordCompletion bulkCompletion) ≠ bulkSent := by
    intro heq
    cases congrArg PersistedCommand.completion heq
  have hfull : ¬ sizeAfter ((bulk 11).replace (bulkCommand 0) bulkSent) 2 (.recordCompletion bulkCompletion)
      bulkSent ≤ MAX_PLAINTEXT_BYTES := by
    have hgrown := sizeAfter_add hvalid' hresult
    have hvariable : variableBytes bulkSent = 40 := by decide +kernel
    have hcompleted : 262144 ≤ variableBytes (bulkSent.after 2 (.recordCompletion bulkCompletion)) :=
      completionBytes_bulkCompletion.trans (completionBytes_le_variableBytes rfl)
    rw [hsize,hvariable] at hgrown
    intro hfits
    have hover := (Nat.add_le_add_left hcompleted 2888055).trans (hgrown.ge.trans (Nat.add_le_add_right hfits 40))
    exact absurd hover (by decide)
  have hrun' : Device.run bulkPlatform ⟨none,none⟩
      (bulkRun 11 ++ [.call (.claimForTransmission "command-00") 1 .done]) =
        ⟨some text,some ((bulk 11).replace (bulkCommand 0) bulkSent)⟩ := by
    rw [run_append,hrun,Device.run,foldl_cons,foldl_nil,hstep]
    rfl
  refine ⟨(bulk 11).replace (bulkCommand 0) bulkSent,congrArg Device.memory hrun',hmem,?_,?_⟩
  · intro outcome houtcome
    rw [outcomes_append,hrun,mem_append] at houtcome
    rcases houtcome with hbefore | hlast
    · exact hreturned outcome hbefore
    · rw [Device.outcomes,hstep] at hlast
      exact ⟨_,mem_singleton.mp hlast⟩
  · have hopen' : (⟨some text,some ((bulk 11).replace (bulkCommand 0) bulkSent)⟩ : Device).memory =
        some ((bulk 11).replace (bulkCommand 0) bulkSent) := rfl
    have hrefused := (called_outcome bulkPlatform hopen' hvalid' hresult).2.2 hchanges' hfull .done
    rw [hrun']
    exact congrArg Prod.snd hrefused

end Malink.Native.Commands
