import Malink.CommandSuccession

/-!
# The operations, one lemma each

What an operation commits: one command that moved on, commands that were retired, or a new command. The three kinds
come together in `plan_commits`.
-/

namespace Malink.Native.Commands

open Option
open Except (ok)
open JsonElement (object)

structure CommandCompletion.Plain (completion : CommandCompletion) : Prop where
  portable : completion.Portable
  stored : completion.stored = completion

structure PersistedCommand.Plain (command : PersistedCommand) : Prop where
  portable : command.Portable
  completion : ∀ completion, command.completion = some completion → completion.stored = completion

structure CommandOutboxSnapshot.Plain (snapshot : CommandOutboxSnapshot) : Prop where
  commands : ∀ command ∈ snapshot.commands, command.Plain
  released : ∀ tombstone ∈ snapshot.released, tombstone.Portable

def Request.Plain : Request → Prop
  | .enqueue _ payload _ projectId operationId commandId => (object payload).portable = true ∧
      (∀ id,projectId = some id → id.wellFormed) ∧ operationId.wellFormed ∧ commandId.wellFormed
  | .recordPublished _ matrixEventId => matrixEventId.wellFormed = true
  | .recordProgress _ sessionId => ∀ id, sessionId = some id → id.wellFormed
  | .recordCompletion completion => completion.Plain
  | .claimForTransmission _ | .claimRecovery _ | .markTransmissionUncertain _ | .markCancelRequested _ | .release _
  | .retireUnavailableProjectCommand _ | .retireUnverifiedCommand _ => True

theorem stored_result (completion : CommandCompletion) : completion.stored.result =
    if completion.result = some .null then none else completion.result := rfl

variable {completion : CommandCompletion} {expired : List PersistedCommand} {fingerprint : JsString}
  {givenSessionId : Option JsString}

theorem stored_completion_iff : completion.stored = completion ↔
    completion.sequence = 1 ∧ completion.revision = 0 ∧ completion.result ≠ some .null := by
  constructor
  · intro h
    refine ⟨(congrArg CommandCompletion.sequence h).symm,(congrArg CommandCompletion.revision h).symm,?_⟩
    intro hresult
    have hstored := stored_result completion
    rw [h,hresult,if_pos rfl] at hstored
    cases hstored
  · rintro ⟨hsequence,hrevision,hresult⟩
    cases completion
    simp only [CommandCompletion.stored,CommandCompletion.mk.injEq]
    exact ⟨trivial,hsequence.symm,hrevision.symm,trivial,trivial,if_neg hresult,trivial⟩

variable {snapshot : CommandOutboxSnapshot} {commandId idempotencyKey operationId : JsString}
  {sessionId projectId : Option JsString}

theorem CommandOutboxSnapshot.Plain.toPortable (h : snapshot.Plain) :
    snapshot.Portable := ⟨fun command hcommand => (h.commands command hcommand).portable,h.released⟩

variable {command : PersistedCommand}

theorem PersistedCommand.Plain.stored_eq (h : command.Plain) : command.stored = command := by
  have hcompletion : command.completion.map CommandCompletion.stored = command.completion := by
    cases hvalue : command.completion with
    | none => rfl
    | some completion => rw [map_some,h.completion completion hvalue]
  rw [PersistedCommand.stored,hcompletion]

theorem CommandOutboxSnapshot.Plain.stored_eq (h : snapshot.Plain) : snapshot.stored = snapshot := by
  have hcommands : snapshot.commands.map PersistedCommand.stored = snapshot.commands.map id :=
    List.map_congr_left fun command hcommand => (h.commands command hcommand).stored_eq
  rw [CommandOutboxSnapshot.stored,hcommands,List.map_id]

/-- The record that an operation puts in the place of an unfinished command. -/
def PersistedCommand.after (command : PersistedCommand) (now : ℤ) : Request → PersistedCommand
  | .claimForTransmission _ => { command with
      state := .transmitting
      updatedAt := max now command.updatedAt
      createdAt := some (command.createdAt.getD (max now command.updatedAt)) }
  | .claimRecovery _ => { command with state := .transmitting, updatedAt := max now command.updatedAt }
  | .markTransmissionUncertain _ => { command with state := .recoveryRequired, updatedAt := max now command.updatedAt }
  | .recordPublished _ matrixEventId => { command with
      state := if command.state = .running then .running else .published
      updatedAt := max now command.updatedAt
      matrixEventId := some matrixEventId }
  | .recordProgress _ sessionId => { command with
      state := .running
      updatedAt := max now command.updatedAt
      sessionId := sessionId.or command.sessionId }
  | .recordCompletion completion => { command with
      state := terminalState completion.outcome
      updatedAt := max now command.updatedAt
      sessionId := completion.sessionId.or command.sessionId
      completion := some completion }
  | .markCancelRequested _ => { command with cancelRequested := true, updatedAt := max now command.updatedAt }
  | .enqueue .. | .release _ | .retireUnavailableProjectCommand _ | .retireUnverifiedCommand _ => command

def Request.target : Request → Option JsString
  | .claimForTransmission commandId | .claimRecovery commandId | .markTransmissionUncertain commandId
  | .recordPublished commandId _ | .recordProgress commandId _ | .markCancelRequested commandId => some commandId
  | .recordCompletion completion => some completion.commandId
  | .enqueue .. | .release _ | .retireUnavailableProjectCommand _ | .retireUnverifiedCommand _ => none

theorem findCurrent_eq_some (h : snapshot.findCurrent commandId = some command) :
    command ∈ snapshot.commands ∧ command.commandId = commandId :=
  ⟨List.mem_of_find?_eq_some h,by simpa using List.find?_some h⟩

theorem monotonicNow_eq_ok {now previous n : ℤ} : monotonicNow now previous = .ok n ↔
    (0 ≤ now ∧ now ≤ MAX_SAFE_JSON_INTEGER) ∧ max now previous = n := by
  rw [monotonicNow,check_bind_eq_ok,nonnegativeNow,requireNonnegativeJsonInteger,require_eq_ok,ok.injEq]

theorem commit_of_changed {c : Prop} [Decidable c] {kept answer reply : Reply} {changed next : CommandOutboxSnapshot}
    (h : (if c then Plan.keep kept else Plan.commit changed answer) = Plan.commit next reply) :
    ¬ c ∧ changed = next ∧ answer = reply := by
  by_cases hc : c
  · rw [if_pos hc] at h
    cases h
  · rw [if_neg hc] at h
    injection h with hnext hreply
    exact ⟨hc,hnext,hreply⟩

/-- What an operation found and committed when it moved a command on. -/
structure Advanced (snapshot : CommandOutboxSnapshot) (now : ℤ) (request : Request) (next : CommandOutboxSnapshot)
    (reply : Reply) (command : PersistedCommand) : Prop where
  mem : command ∈ snapshot.commands
  target : request.target = some command.commandId
  unfinished : command.completion = none
  next : next = snapshot.replace command (command.after now request)
  handedOut : ∀ transmission, reply = .transmission (some transmission) →
    ∃ recovery, (command.after now request).toTransmission recovery = .ok transmission

theorem CommandOutboxSnapshot.Valid.unfinished (h : snapshot.Valid)
    (hcommand : command ∈ snapshot.commands) (hstate : command.state.isTerminal = false) :
    command.completion = none := by
  have hterminal := (h.commands command hcommand).terminal
  rw [hstate] at hterminal
  exact isSome_eq_false_iff.mp hterminal.symm |> isNone_iff_eq_none.mp

section Advances

variable {platform : Platform} {snapshot next : CommandOutboxSnapshot} {now : ℤ} {reply : Reply}

section

variable (hvalid : snapshot.Valid)
include hvalid

theorem claimForTransmission_commits (h : claimForTransmission snapshot now commandId = .ok (.commit next reply)) :
    ∃ command, Advanced snapshot now (.claimForTransmission commandId) next reply command := by
  unfold claimForTransmission at h
  split at h
  · cases h
  · next command hfind =>
    obtain ⟨hmem,rfl⟩ := findCurrent_eq_some hfind
    by_cases hstate : command.state = .queued
    · simp only [hstate,ne_eq,not_true_eq_false,if_false,bind_eq_ok,monotonicNow_eq_ok] at h
      obtain ⟨_,⟨-,rfl⟩,transmission,htransmission,h⟩ := h
      injection h with h
      injection h with hnext hreply
      refine ⟨command,hmem,rfl,hvalid.unfinished hmem (by rw [hstate]; rfl),hnext.symm,?_⟩
      rintro transmission' rfl
      rw [Reply.transmission.injEq,some.injEq] at hreply
      exact ⟨false,hreply ▸ htransmission⟩
    · simp [hstate] at h

theorem claimRecovery_commits (h : claimRecovery snapshot now commandId = .ok (.commit next reply)) :
    ∃ command, Advanced snapshot now (.claimRecovery commandId) next reply command := by
  unfold claimRecovery at h
  split at h
  · cases h
  · next command hfind =>
    obtain ⟨hmem,rfl⟩ := findCurrent_eq_some hfind
    by_cases hstate : command.state = .recoveryRequired
    · simp only [hstate,ne_eq,not_true_eq_false,if_false,bind_eq_ok,monotonicNow_eq_ok] at h
      obtain ⟨_,⟨-,rfl⟩,-,-,transmission,htransmission,h⟩ := h
      injection h with h
      injection h with hnext hreply
      refine ⟨command,hmem,rfl,hvalid.unfinished hmem (by rw [hstate]; rfl),hnext.symm,?_⟩
      rintro transmission' rfl
      rw [Reply.transmission.injEq,some.injEq] at hreply
      exact ⟨true,hreply ▸ htransmission⟩
    · simp [hstate] at h

theorem markTransmissionUncertain_commits
    (h : markTransmissionUncertain snapshot now commandId = .ok (.commit next reply)) :
    ∃ command, Advanced snapshot now (.markTransmissionUncertain commandId) next reply command := by
  unfold markTransmissionUncertain at h
  split at h
  · cases h
  · next command hfind =>
    obtain ⟨hmem,rfl⟩ := findCurrent_eq_some hfind
    by_cases hstate : command.state = .transmitting
    · simp only [hstate,ne_eq,not_true_eq_false,if_false,bind_eq_ok,monotonicNow_eq_ok] at h
      obtain ⟨_,⟨-,rfl⟩,h⟩ := h
      injection h with h
      injection h with hnext hreply
      refine ⟨command,hmem,rfl,hvalid.unfinished hmem (by rw [hstate]; rfl),hnext.symm,?_⟩
      rintro transmission rfl
      cases hreply
    · simp [hstate] at h

theorem recordPublished_commits {matrixEventId : JsString}
    (h : recordPublished snapshot now commandId matrixEventId = .ok (.commit next reply)) :
    ∃ command, Advanced snapshot now (.recordPublished commandId matrixEventId) next reply command := by
  unfold recordPublished at h
  rw [check_bind_eq_ok] at h
  replace h := h.2
  split at h
  · cases h
  · next command hfind =>
    obtain ⟨hmem,rfl⟩ := findCurrent_eq_some hfind
    by_cases hstate : command.state.isTerminal
    · simp [hstate] at h
    by_cases hevent : command.matrixEventId ≠ none ∧ command.matrixEventId ≠ some matrixEventId
    · rw [if_neg hstate,if_pos hevent] at h
      cases h
    rw [if_neg hstate,if_neg hevent] at h
    simp only [bind_eq_ok,monotonicNow_eq_ok] at h
    obtain ⟨_,⟨-,rfl⟩,h⟩ := h
    obtain ⟨-,hnext,hreply⟩ := commit_of_changed (ok.inj h)
    refine ⟨command,hmem,rfl,hvalid.unfinished hmem (by simpa using hstate),hnext.symm,?_⟩
    rintro transmission rfl
    cases hreply

theorem recordProgress_commits (h : recordProgress snapshot now commandId sessionId = .ok (.commit next reply)) :
    ∃ command, Advanced snapshot now (.recordProgress commandId sessionId) next reply command := by
  unfold recordProgress at h
  rw [check_bind_eq_ok] at h
  replace h := h.2
  split at h
  · cases h
  · next command hfind =>
    obtain ⟨hmem,rfl⟩ := findCurrent_eq_some hfind
    by_cases hstate : command.state.isTerminal
    · simp [hstate] at h
    rw [if_neg hstate] at h
    simp only [bind_eq_ok,monotonicNow_eq_ok] at h
    obtain ⟨_,⟨-,rfl⟩,h⟩ := h
    obtain ⟨-,hnext,hreply⟩ := commit_of_changed (ok.inj h)
    refine ⟨command,hmem,rfl,hvalid.unfinished hmem (by simpa using hstate),hnext.symm,?_⟩
    rintro transmission rfl
    cases hreply

omit hvalid in
theorem recordCompletion_commits (h : recordCompletion snapshot now completion = .ok (.commit next reply)) :
    ∃ command, Advanced snapshot now (.recordCompletion completion) next reply command := by
  unfold recordCompletion at h
  split at h
  · cases h
  · next command hfind =>
    obtain ⟨hmem,hid⟩ := findCurrent_eq_some hfind
    cases hcompletion : command.completion with
    | some existing =>
      simp only [hcompletion] at h
      split at h <;> cases h
    | none =>
      simp only [hcompletion,bind_eq_ok,monotonicNow_eq_ok] at h
      obtain ⟨_,⟨-,rfl⟩,h⟩ := h
      injection h with h
      injection h with hnext hreply
      refine ⟨command,hmem,congrArg some hid.symm,hcompletion,hnext.symm,?_⟩
      rintro transmission rfl
      cases hreply

theorem markCancelRequested_commits (h : markCancelRequested snapshot now commandId = .ok (.commit next reply)) :
    ∃ command, Advanced snapshot now (.markCancelRequested commandId) next reply command := by
  unfold markCancelRequested at h
  split at h
  · cases h
  · next command hfind =>
    obtain ⟨hmem,rfl⟩ := findCurrent_eq_some hfind
    by_cases hstate : command.state.isTerminal ∨ command.cancelRequested
    · simp [hstate] at h
    · rw [if_neg hstate] at h
      simp only [bind_eq_ok,monotonicNow_eq_ok] at h
      obtain ⟨_,⟨-,rfl⟩,h⟩ := h
      injection h with h
      injection h with hnext hreply
      rw [not_or] at hstate
      refine ⟨command,hmem,rfl,hvalid.unfinished hmem (by simpa using hstate.1),hnext.symm,?_⟩
      rintro transmission rfl
      cases hreply

end

end Advances

theorem successor_after (command : PersistedCommand) (now : ℤ) (request : Request) (h : command.completion = none) :
    Successor command (command.after now request) := by
  have hcompletion : ∀ (after : PersistedCommand) completion,command.completion = some completion →
      after.completion = some completion ∧ after.state = command.state := by
    intro after completion hsome
    rw [h] at hsome
    cases hsome
  cases request with
  | claimForTransmission commandId =>
    refine ⟨rfl,rfl,rfl,rfl,rfl,?_,hcompletion _⟩
    intro n hn
    simp [PersistedCommand.after,hn]
  | claimRecovery | markTransmissionUncertain | recordPublished | recordProgress | recordCompletion
    | markCancelRequested => exact ⟨rfl,rfl,rfl,rfl,rfl,fun _ => id,hcompletion _⟩
  | enqueue | release | retireUnavailableProjectCommand | retireUnverifiedCommand => exact .refl command

theorem or_wellFormed {a b : Option JsString} (ha : ∀ id,a = some id → id.wellFormed)
    (hb : ∀ id,b = some id → id.wellFormed) {id : JsString} (h : a.or b = some id) : id.wellFormed := by
  cases a with
  | none => exact hb id h
  | some a => exact ha id h

theorem plain_after (h : command.Plain) (now : ℤ) {request : Request} (hrequest : request.Plain) :
    (command.after now request).Plain := by
  cases request with
  | claimForTransmission | claimRecovery | markTransmissionUncertain | markCancelRequested =>
    exact ⟨{ h.portable with },h.completion⟩
  | recordPublished commandId matrixEventId =>
    refine ⟨{ h.portable with matrixEventId := ?_ },h.completion⟩
    rintro id ⟨⟩
    exact hrequest
  | recordProgress commandId sessionId =>
    exact ⟨{ h.portable with sessionId := fun id hid => or_wellFormed hrequest h.portable.sessionId hid },h.completion⟩
  | recordCompletion completion =>
    refine ⟨{ h.portable with sessionId := ?_, completion := ?_ },?_⟩
    · exact fun id hid => or_wellFormed hrequest.portable.sessionId h.portable.sessionId hid
    · rintro _ ⟨⟩
      exact hrequest.portable
    · rintro _ ⟨⟩
      exact hrequest.stored
  | enqueue | release | retireUnavailableProjectCommand | retireUnverifiedCommand => exact h

/-- The complete commands that a request may release. -/
def Request.frees : Request → JsString → Prop
  | .release commandId, id | .retireUnverifiedCommand commandId, id => id = commandId
  | _, _ => False

def Request.draws : Request → JsString → Prop
  | .enqueue _ _ _ _ operationId commandId, id => id = operationId ∨ id = commandId
  | _, _ => False

structure Commits (snapshot : CommandOutboxSnapshot) (request : Request) (next : CommandOutboxSnapshot)
    (reply : Reply) : Prop where
  follows : Follows request.frees request.draws snapshot next
  plain : request.Plain → snapshot.Plain → next.Plain
  handedOut : ∀ transmission, reply = .transmission (some transmission) →
    ∃ command ∈ next.commands, ∃ recovery, command.toTransmission recovery = .ok transmission
  completed : ∀ completion, request = .recordCompletion completion →
    ∃ command ∈ next.commands, command.commandId = completion.commandId ∧ command.completion = some completion

variable {platform : Platform} {snapshot next : CommandOutboxSnapshot} {now : ℤ} {reply : Reply} {request : Request}

theorem Advanced.commits (h : Advanced snapshot now request next reply command) :
    Commits snapshot request next reply where
  follows := by
    rw [h.next]
    exact follows_replace (successor_after command now request h.unfinished)
  plain := by
    intro hrequest hplain
    rw [h.next]
    refine ⟨?_,hplain.released⟩
    intro other hother
    rcases of_mem_replace hother with rfl | hother
    · exact plain_after (hplain.commands command h.mem) now hrequest
    · exact hplain.commands other hother
  handedOut := by
    intro transmission hreply
    obtain ⟨recovery,htransmission⟩ := h.handedOut transmission hreply
    rw [h.next]
    exact ⟨_,mem_replace h.mem,recovery,htransmission⟩
  completed := by
    rintro completion rfl
    rw [h.next]
    exact ⟨_,mem_replace h.mem,(some.inj h.target).symm,rfl⟩

theorem portable_toReleasedTombstone (h : command.Portable) (releasedAt : ℤ) :
    (command.toReleasedTombstone releasedAt).Portable := ⟨h.operationId,h.commandId,h.retiredCommandIds⟩

theorem CommandOutboxSnapshot.Plain.retire (h : snapshot.Plain) {commands : List PersistedCommand}
    (hcommands : ∀ command ∈ commands,command ∈ snapshot.commands) (releasedAt : ℤ) :
    (snapshot.retire commands releasedAt).Plain where
  commands := fun command hcommand => h.commands command (List.mem_filter.mp hcommand).1
  released := by
    intro tombstone htombstone
    rcases List.mem_append.mp htombstone with htombstone | htombstone
    · exact h.released tombstone htombstone
    · obtain ⟨command,hcommand,rfl⟩ := List.mem_map.mp htombstone
      exact portable_toReleasedTombstone (h.commands command (hcommands command hcommand)).portable releasedAt

theorem retireCommand_commits (hmem : command ∈ snapshot.commands)
    (hfreed : command.completion = none ∨ request.frees command.commandId)
    (hkind : ∀ completion,request ≠ .recordCompletion completion)
    (h : retireCommand snapshot now command = .ok (.commit next reply)) : Commits snapshot request next reply := by
  rw [retireCommand,check_bind_eq_ok,check_bind_eq_ok] at h
  injection h.2.2 with h
  injection h with hnext hreply
  subst hnext hreply
  exact {
    follows := follows_erase now hfreed
    plain := by
      intro _ hplain
      refine ⟨fun other hother => hplain.commands other (List.mem_of_mem_erase hother),?_⟩
      intro tombstone htombstone
      rcases List.mem_append.mp htombstone with htombstone | htombstone
      · exact hplain.released tombstone htombstone
      · rw [List.mem_singleton.mp htombstone]
        exact portable_toReleasedTombstone (hplain.commands command hmem).portable now
    handedOut := by
      rintro transmission ⟨⟩
    completed := fun completion hrequest => absurd hrequest (hkind completion) }

theorem release_commits (h : release platform snapshot now commandId = .ok (.commit next reply)) :
    Commits snapshot (.release commandId) next reply := by
  unfold release at h
  split at h
  · cases h
  · next command hfind =>
    obtain ⟨hmem,rfl⟩ := findCurrent_eq_some hfind
    simp only [bind_eq_ok] at h
    obtain ⟨validated,-,-,-,h⟩ := h
    exact retireCommand_commits hmem (.inr rfl) (by rintro completion ⟨⟩) h

theorem retireUnavailableProjectCommand_commits (hvalid : snapshot.Valid)
    (h : retireUnavailableProjectCommand snapshot now commandId = .ok (.commit next reply)) :
    Commits snapshot (.retireUnavailableProjectCommand commandId) next reply := by
  unfold retireUnavailableProjectCommand at h
  split at h
  · cases h
  · next command hfind =>
    obtain ⟨hmem,rfl⟩ := findCurrent_eq_some hfind
    simp only [check_bind_eq_ok,require_eq_ok] at h
    obtain ⟨hstate,-,h⟩ := h
    exact retireCommand_commits hmem (.inl (hvalid.unfinished hmem hstate)) (by rintro completion ⟨⟩) h

theorem retireUnverifiedCommand_commits
    (h : retireUnverifiedCommand snapshot now commandId = .ok (.commit next reply)) :
    Commits snapshot (.retireUnverifiedCommand commandId) next reply := by
  unfold retireUnverifiedCommand at h
  split at h
  · cases h
  · next command hfind =>
    obtain ⟨hmem,rfl⟩ := findCurrent_eq_some hfind
    exact retireCommand_commits hmem (.inr rfl) (by rintro completion ⟨⟩) h

theorem mem_filterChecked {α : Type} {p : α → Except OutboxError Bool} {as bs : List α}
    (h : filterChecked p as = .ok bs) {b : α} (hb : b ∈ bs) : b ∈ as ∧ p b = .ok true := by
  induction as generalizing bs with
  | nil =>
    cases h
    cases hb
  | cons a as ih =>
    simp only [filterChecked,bind_eq_ok,ok.injEq] at h
    obtain ⟨keep,hkeep,rest,hrest,rfl⟩ := h
    cases keep with
    | false => exact (ih hrest (by simpa using hb)).imp_left (List.mem_cons_of_mem a)
    | true =>
      rcases List.mem_cons.mp (by simpa using hb) with rfl | hb
      · exact ⟨List.mem_cons_self,hkeep⟩
      · exact (ih hrest hb).imp_left (List.mem_cons_of_mem a)

variable {payload : JsonObject}

theorem mem_statusProbes {probes : List PersistedCommand}
    (h : statusProbes platform snapshot payload projectId = .ok probes) (hcommand : command ∈ probes) :
    command ∈ snapshot.commands ∧ command.state.isTerminal = false := by
  obtain ⟨hmem,hcondition⟩ := mem_filterChecked h hcommand
  refine ⟨hmem,?_⟩
  split at hcondition
  · next hprobe => exact hprobe.1
  · cases hcondition

theorem reuseProbe_commits {reusable : PersistedCommand}
    (hexpired : ∀ command ∈ expired,command ∈ snapshot.commands ∧ command.completion = none)
    (hkind : ∀ completion,request ≠ .recordCompletion completion)
    (h : reuseProbe snapshot now reusable expired = .ok (.commit next reply)) : Commits snapshot request next reply := by
  rw [reuseProbe,check_bind_eq_ok] at h
  obtain ⟨-,hnext,hreply⟩ := commit_of_changed (ok.inj h.2)
  subst hnext hreply
  exact {
    follows := follows_retire now fun command hcommand => .inl (hexpired command hcommand).2
    plain := fun _ hplain => hplain.retire (fun command hcommand => (hexpired command hcommand).1) now
    handedOut := by
      rintro transmission ⟨⟩
    completed := fun completion hrequest => absurd hrequest (hkind completion) }

theorem admitCommand_commits (hexpired : ∀ command ∈ expired,command ∈ snapshot.commands ∧ command.completion = none)
    (hsession : (object payload).portable → ∀ id,sessionId = some id → id.wellFormed)
    (h : admitCommand snapshot now idempotencyKey fingerprint payload sessionId projectId operationId commandId expired =
      .ok (.commit next reply)) :
    Commits snapshot (.enqueue idempotencyKey payload givenSessionId projectId operationId commandId) next reply := by
  rw [admitCommand] at h
  simp only [check_bind_eq_ok] at h
  injection h.2.2.2.2 with h
  injection h with hnext hreply
  subst hnext hreply
  exact {
    follows := (follows_retire now fun command hcommand => .inl (hexpired command hcommand).2).add (.inr rfl)
    plain := by
      rintro ⟨hpayload,hproject,hoperation,hcommand⟩ hplain
      have hretired := hplain.retire (fun command hcommand => (hexpired command hcommand).1) now
      refine ⟨?_,hretired.released⟩
      intro command hmem
      rcases List.mem_append.mp hmem with hmem | hmem
      · exact hretired.commands command hmem
      · rw [List.mem_singleton.mp hmem]
        refine ⟨⟨hoperation,hcommand,?_,hsession hpayload,hproject,?_,?_,hpayload⟩,?_⟩
        · simp
        · simp
        · simp
        · simp
    handedOut := by
      rintro transmission ⟨⟩
    completed := by
      rintro completion ⟨⟩ }

theorem enqueueNew_commits {validated : ValidatedCommandPayload} (hvalid : snapshot.Valid)
    (hsession : (object payload).portable → ∀ id,validated.sessionId = some id → id.wellFormed)
    (h : enqueueNew platform snapshot now idempotencyKey fingerprint payload validated projectId operationId commandId =
      .ok (.commit next reply)) :
    Commits snapshot (.enqueue idempotencyKey payload givenSessionId projectId operationId commandId) next reply := by
  rw [enqueueNew,check_bind_eq_ok] at h
  replace h := h.2
  by_cases hprobe : validated.operation.isGatewayStatusProbe
  · simp only [hprobe,if_true,bind_eq_ok] at h
    obtain ⟨probes,hprobes,reusable,-,h⟩ := h
    have hunfinished : ∀ command ∈ probes,command ∈ snapshot.commands ∧ command.completion = none := by
      intro command hcommand
      obtain ⟨hmem,hstate⟩ := mem_statusProbes hprobes hcommand
      exact ⟨hmem,hvalid.unfinished hmem hstate⟩
    cases reusable with
    | some reusable =>
      exact reuseProbe_commits (fun command hcommand => hunfinished command (List.mem_of_mem_erase hcommand))
        (by rintro completion ⟨⟩) h
    | none => exact admitCommand_commits hunfinished hsession h
  · simp only [hprobe,if_false,Bool.false_eq_true] at h
    exact admitCommand_commits (by simp) hsession h

theorem enqueue_commits (hvalid : snapshot.Valid)
    (h : enqueue platform snapshot now idempotencyKey payload sessionId projectId operationId commandId =
      .ok (.commit next reply)) :
    Commits snapshot (.enqueue idempotencyKey payload sessionId projectId operationId commandId) next reply := by
  unfold enqueue at h
  simp only [check_bind_eq_ok] at h
  obtain ⟨-,-,-,h⟩ := h
  rw [bind_eq_ok] at h
  obtain ⟨validated,hvalidated,h⟩ := h
  rw [check_bind_eq_ok] at h
  replace h := h.2
  have hsession : (object payload).portable →
      ∀ id, validated.sessionId = some id → id.wellFormed := by
    intro hpayload id hid
    have hget := platform.validate_sessionId payload validated id hvalidated hid
    rw [JsonObject.get,JsonElement.field,map_eq_some_iff] at hget
    obtain ⟨entry,hentry,hvalue⟩ := hget
    have hportable := (JsonElement.portable_object.mp hpayload).2 entry (List.mem_of_find?_eq_some hentry)
    rw [hvalue] at hportable
    exact hportable.2
  split at h
  · split at h <;> cases h
  · split at h
    · split at h <;> cases h
    · exact enqueueNew_commits hvalid hsession h

theorem plan_commits (hvalid : snapshot.Valid) (h : plan platform snapshot now request = .ok (.commit next reply)) :
    Commits snapshot request next reply := by
  cases request with
  | enqueue => exact enqueue_commits hvalid h
  | claimForTransmission => exact (claimForTransmission_commits hvalid h).elim fun _ => Advanced.commits
  | claimRecovery => exact (claimRecovery_commits hvalid h).elim fun _ => Advanced.commits
  | markTransmissionUncertain => exact (markTransmissionUncertain_commits hvalid h).elim fun _ => Advanced.commits
  | recordPublished => exact (recordPublished_commits hvalid h).elim fun _ => Advanced.commits
  | recordProgress => exact (recordProgress_commits hvalid h).elim fun _ => Advanced.commits
  | recordCompletion => exact (recordCompletion_commits h).elim fun _ => Advanced.commits
  | markCancelRequested => exact (markCancelRequested_commits hvalid h).elim fun _ => Advanced.commits
  | release => exact release_commits h
  | retireUnavailableProjectCommand => exact retireUnavailableProjectCommand_commits hvalid h
  | retireUnverifiedCommand => exact retireUnverifiedCommand_commits h

end Malink.Native.Commands
