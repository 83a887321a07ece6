import Malink.CommandOutboxRuns
import Mathlib.Algebra.BigOperators.Group.List.Basic

/-!
# The bytes of the command outbox

The text of the outbox is the sum of its records. A record grows until its command is complete, and no further than its
ceiling, which no operation on the command raises.
-/

namespace Malink.Native.Commands

open List JsonElement
open Json (isHigh isLow escapeUnit escapeUnits)
open Option (some)

def stringBytes (s : JsString) : ℕ := (string s).size
def timeBytes (n : ℤ) : ℕ := (long n).size
def optionalStringBytes (s : Option JsString) : ℕ := (optionalStringElement s).size
def optionalTimeBytes (n : Option ℤ) : ℕ := (optionalLongElement n).size
def completionBytes (completion : Option CommandCompletion) : ℕ :=
  ((completion.map fun completion => object (encodeCompletion completion)).getD .null).size

def commandSize (command : PersistedCommand) : ℕ := (object (encodeCommand command)).size

/-- The bytes of the values that a transition may replace. -/
def variableBytes (command : PersistedCommand) : ℕ :=
  stringBytes command.state.wireName + timeBytes command.updatedAt + optionalStringBytes command.sessionId +
    optionalTimeBytes command.createdAt + optionalStringBytes command.matrixEventId +
    (bool command.cancelRequested).size + completionBytes command.completion

theorem commandSize_add {command after : PersistedCommand} (hids : after.ids = command.ids)
    (hkey : after.idempotencyKey = command.idempotencyKey)
    (hfingerprint : after.requestFingerprint = command.requestFingerprint)
    (hsubmitted : after.submittedAt = command.submittedAt) (hproject : after.projectId = command.projectId)
    (hpayload : after.payload = command.payload) :
    commandSize after + variableBytes command = commandSize command + variableBytes after := by
  rw [PersistedCommand.ids,PersistedCommand.ids] at hids
  obtain ⟨hoperation,hid,hretired⟩ : after.operationId = command.operationId ∧ after.commandId = command.commandId ∧
      after.retiredCommandIds = command.retiredCommandIds := by simpa using hids
  simp only [commandSize,variableBytes,stringBytes,timeBytes,optionalStringBytes,optionalTimeBytes,
    completionBytes,size_object,encodeCommand,entrySize,map_cons,map_nil,
    sum_cons,sum_nil,length_cons,length_nil,hoperation,hid,hretired,hkey,hfingerprint,hsubmitted,hproject,hpayload]
  omega

theorem sum_replace {α : Type} [DecidableEq α] {f : α → ℕ} {items : List α} {a b : α} (hnodup : items.Nodup)
    (ha : a ∈ items) : ((items.map fun x => if x = a then b else x).map f).sum + f a = (items.map f).sum + f b := by
  induction items with
  | nil => cases ha
  | cons x items ih =>
    obtain ⟨hx,hnodup⟩ := nodup_cons.mp hnodup
    by_cases heq : x = a
    · subst heq
      have hrest : (items.map fun y => if y = x then b else y) = items := by
        rw [map_congr_left (g := id),map_id]
        intro y hy
        rw [if_neg (by rintro rfl; exact hx hy)]
        rfl
      rw [map_cons,if_pos rfl,hrest,map_cons,sum_cons,map_cons,sum_cons]
      omega
    · have hmem : a ∈ items := (mem_cons.mp ha).resolve_left (Ne.symm heq)
      have hsum := ih hnodup hmem
      rw [map_cons,if_neg heq,map_cons,sum_cons,map_cons,sum_cons]
      omega

/-- The bytes of a snapshot outside its active commands. -/
def frameSize (snapshot : CommandOutboxSnapshot) : ℕ :=
  (encodeSnapshot { snapshot with commands := [] }).size

theorem size_encodeSnapshot (snapshot : CommandOutboxSnapshot) : (encodeSnapshot snapshot).size =
    frameSize snapshot + (snapshot.commands.map commandSize).sum + (snapshot.commands.length - 1) := by
  have hcommands : (JsonElement.size ∘ fun command => object (encodeCommand command)) = commandSize := rfl
  rw [frameSize,encodeSnapshot,encodeSnapshot,size_object,size_object]
  simp only [entrySize,size_array,map_cons,map_nil,map_map,sum_cons,
    sum_nil,length_cons,length_nil,length_map,hcommands]
  omega

variable {command next : PersistedCommand} {snapshot : CommandOutboxSnapshot} {now : ℤ} {request : Request}

theorem size_replace (hvalid : snapshot.Valid) (hcommand : command ∈ snapshot.commands) (next : PersistedCommand) :
    (encodeSnapshot (snapshot.replace command next)).size + commandSize command =
      (encodeSnapshot snapshot).size + commandSize next := by
  have hsum := sum_replace (f := commandSize) (b := next) hvalid.commandIds.of_map hcommand
  have hframe : frameSize (snapshot.replace command next) = frameSize snapshot := rfl
  have hcommands : (snapshot.replace command next).commands =
      snapshot.commands.map fun other => if other = command then next else other := rfl
  rw [size_encodeSnapshot,size_encodeSnapshot,hframe,hcommands,length_map]
  omega

section Bounds

variable {u : UInt16}

theorem utf8Size_ofNat_le (hhigh : ¬ isHigh u) (hlow : ¬ isLow u) : (Char.ofNat u.toNat).utf8Size ≤ 3 := by
  have hu : u.toNat < 65536 := u.toNat_lt
  have hne : (Char.ofNat u.toNat).utf8Size ≠ 4 := by
    intro h
    have hval : 0xffff < (Char.ofNat u.toNat).toNat := UInt32.lt_iff_toNat_lt.mp (Char.utf8Size_eq_four_iff.mp h)
    rw [Json.toNat_ofNat_unit hhigh hlow] at hval
    omega
  have hle := Char.utf8Size_le_four (Char.ofNat u.toNat)
  omega

theorem utf8Length_escapeUnit_le (hhigh : ¬ isHigh u) (hlow : ¬ isLow u) :
    utf8Length (escapeUnit u) ≤ 6 := by
  have hhex : ∀ n,(Json.hexDigit n).utf8Size = 1 := by
    intro n
    have hall : ∀ m : Fin 16,(Nat.digitChar m).utf8Size = 1 := by decide
    exact hall ⟨n % 16,Nat.mod_lt n (by decide)⟩
  have hunit := utf8Size_ofNat_le hhigh hlow
  rw [escapeUnit]
  split_ifs
  all_goals simp only [Json.escapeHex,utf8Length_cons,utf8Length_nil,hhex]
  all_goals first | decide | omega

/-- A unit that is no control character takes at most three bytes. -/
theorem utf8Length_escapeUnit_of_printed (h : JsString.isISOControl u = false) (hhigh : ¬ isHigh u)
    (hlow : ¬ isLow u) : utf8Length (escapeUnit u) ≤ 3 := by
  have hunit := utf8Size_ofNat_le hhigh hlow
  have hle : ¬ u.toNat < 32 := by
    intro hlt
    rw [JsString.isISOControl,Bool.or_eq_false_iff,decide_eq_false_iff_not] at h
    omega
  rw [Bool.not_eq_true] at hhigh hlow
  rw [escapeUnit,hhigh,hlow,decide_eq_false hle]
  simp only [Bool.or_self,Bool.false_eq_true,if_false]
  split_ifs
  all_goals simp only [utf8Length_cons,utf8Length_nil]
  all_goals first | decide | omega

theorem escapeUnits_cons (hu : isHigh u = false) (us : List UInt16) :
    escapeUnits (u :: us) = escapeUnit u ++ escapeUnits us := by
  cases us with
  | nil => simp [escapeUnits]
  | cons l us => simp [escapeUnits,hu]

theorem utf8Length_escaped_le {b : ℕ} (hb : 2 ≤ b) : (us : List UInt16) →
    (∀ u ∈ us,¬ isHigh u → ¬ isLow u → utf8Length (escapeUnit u) ≤ b) →
    utf8Length (escapeUnits (scrubUnits us)) ≤ b * us.length
  | [], _ => Nat.zero_le _
  | [u], h => by
    rw [scrubUnits]
    split
    · rw [length_singleton,Nat.mul_one]
      exact le_trans (by decide) hb
    · next hsurrogate =>
      rw [Bool.or_eq_true,not_or] at hsurrogate
      rw [escapeUnits,length_singleton,Nat.mul_one]
      exact h u mem_cons_self hsurrogate.1 hsurrogate.2
  | u :: l :: us, h => by
    rw [scrubUnits,length_cons,length_cons]
    split
    · next hpair =>
      have hrest := utf8Length_escaped_le hb us fun v hv => h v (mem_cons_of_mem _ (mem_cons_of_mem _ hv))
      have hpaired := Char.utf8Size_le_four (Char.ofNat (0x10000 + (u.toNat - 0xD800) * 0x400 + (l.toNat - 0xDC00)))
      rw [escapeUnits,if_pos hpair,utf8Length_cons,Nat.mul_add,Nat.mul_add]
      omega
    · have hrest := utf8Length_escaped_le hb (l :: us) fun v hv => h v (mem_cons_of_mem _ hv)
      rw [length_cons] at hrest
      split
      · rw [escapeUnits_cons (by decide),utf8Length_append,Nat.mul_add]
        have hmark : utf8Length (escapeUnit 63) = 1 := by decide
        omega
      · next hsurrogate =>
        rw [Bool.or_eq_true,not_or] at hsurrogate
        have hunit := h u mem_cons_self hsurrogate.1 hsurrogate.2
        rw [escapeUnits_cons (Bool.not_eq_true _ ▸ hsurrogate.1),utf8Length_append,Nat.mul_add]
        omega

theorem stringBytes_le {b n : ℕ} {s : JsString} (hb : 2 ≤ b) (hlength : s.length ≤ n)
    (h : ∀ u ∈ s.units,¬ isHigh u → ¬ isLow u → utf8Length (escapeUnit u) ≤ b) :
    stringBytes s ≤ 2 + b * n := by
  have hescaped := utf8Length_escaped_le hb s.units h
  have hmul : b * s.units.length ≤ b * n := Nat.mul_le_mul_left b hlength
  rw [stringBytes,JsonElement.size,print,quoted,cons_append,utf8Length_cons,utf8Length_append]
  have hquote : ('"' : Char).utf8Size = 1 := rfl
  have hquotes : utf8Length ['"'] = 1 := rfl
  omega

/-- The most bytes of an identifier, and of a safe time. -/
def IDENTIFIER_BYTES : ℕ := 2 + 3 * 512
def TIME_BYTES : ℕ := 16

theorem stringBytes_of_isOpaqueId {id : JsString} (h : isOpaqueId id) : stringBytes id ≤ IDENTIFIER_BYTES := by
  simp only [isOpaqueId,Bool.and_eq_true,Bool.not_eq_true',decide_eq_true_eq] at h
  refine stringBytes_le (by decide) h.1.2 fun u hu => utf8Length_escapeUnit_of_printed ?_
  exact Bool.eq_false_iff.mpr (any_eq_false.mp h.2 u hu)

theorem optionalStringBytes_le {id : Option JsString} (h : ∀ s,id = some s → isOpaqueId s) :
    optionalStringBytes id ≤ IDENTIFIER_BYTES := by
  cases id with
  | none => decide
  | some id => exact stringBytes_of_isOpaqueId (h id rfl)

theorem timeBytes_le {n : ℤ} (h : 0 ≤ n ∧ n ≤ MAX_SAFE_JSON_INTEGER) : timeBytes n ≤ TIME_BYTES := by
  have hsafe : n ≤ 9007199254740991 := h.2
  have hdigits : (Nat.toDigits 10 n.natAbs).length ≤ 16 := Nat.toDigits_length 10 n.natAbs 16 (by decide) (by omega)
  have hbytes : ∀ cs : List Char,(∀ c ∈ cs,c.isDigit) → utf8Length cs = cs.length := by
    intro cs hcs
    induction cs with
    | nil => rfl
    | cons c cs ih =>
      have hc : c.utf8Size = 1 := by
        have hdigit := hcs c mem_cons_self
        simp only [Char.isDigit,Bool.and_eq_true,decide_eq_true_eq] at hdigit
        exact Char.utf8Size_eq_one_iff.mpr (UInt32.le_trans hdigit.2 (by decide))
      rw [utf8Length_cons,hc,ih fun d hd => hcs d (mem_cons_of_mem c hd),length_cons,Nat.add_comm]
  rw [timeBytes,long,JsonElement.size,print,Json.stringifyInt,if_neg (by omega),
    hbytes _ fun c hc => isDigit_of_mem_toDigits hc]
  exact hdigits

/-- The most bytes of a completion of a command. -/
def completedBytes (commandId : JsString) : ℕ :=
  57 + stringBytes commandId + 11 + IDENTIFIER_BYTES + MAX_RESULT_BYTES + (33 + (2 + 6 * 128) + (2 + 6 * 4096) + 5)

theorem completionBytes_le (completion : CommandCompletion) :
    completionBytes (some completion) ≤ completedBytes completion.commandId := by
  have hsession : optionalStringBytes completion.sessionId ≤ IDENTIFIER_BYTES :=
    optionalStringBytes_le fun id hid => by simpa [hid] using completion.sessionId_valid
  have houtcome : stringBytes completion.outcome.wireName ≤ 11 := by cases completion.outcome <;> decide
  have hresult : (completion.result.getD .null).size ≤ MAX_RESULT_BYTES := by
    cases hr : completion.result with
    | none => decide
    | some result => simpa [hr] using completion.result_valid
  have herror : ((completion.error.map fun error => object (encodeError error)).getD .null).size ≤
      33 + (2 + 6 * 128) + (2 + 6 * 4096) + 5 := by
    cases completion.error with
    | none => decide
    | some error =>
      have hcode : stringBytes error.code ≤ 2 + 6 * 128 :=
        stringBytes_le (by decide) error.code_valid.2 fun _ _ => utf8Length_escapeUnit_le
      have hmessage : stringBytes error.message ≤ 2 + 6 * 4096 :=
        stringBytes_le (by decide) error.message_valid fun _ _ => utf8Length_escapeUnit_le
      have hretryable : (bool error.retryable).size ≤ 5 := by cases error.retryable <;> decide
      have hkeys : utf8Length (quoted "code") = 6 ∧ utf8Length (quoted "message") = 9 ∧
          utf8Length (quoted "retryable") = 11 := by decide
      rw [stringBytes] at hcode hmessage
      simp only [Option.map_some,Option.getD_some,size_object,encodeError,entrySize,map_cons,map_nil,sum_cons,
        sum_nil,length_cons,length_nil,hkeys]
      omega
  have hkeys : utf8Length (quoted "commandId") = 11 ∧ utf8Length (quoted "outcome") = 9 ∧
      utf8Length (quoted "sessionId") = 11 ∧ utf8Length (quoted "result") = 8 ∧ utf8Length (quoted "error") = 7 := by
    decide
  rw [optionalStringBytes] at hsession
  rw [stringBytes] at houtcome
  simp only [completionBytes,completedBytes,stringBytes,Option.map_some,Option.getD_some,size_object,
    encodeCompletion,entrySize,map_cons,map_nil,sum_cons,sum_nil,length_cons,length_nil,hkeys]
  omega

end Bounds

/-- The most bytes that the values of a record take before its command is released. Its creation time and its event are
written once. -/
def finishedBytes (command : PersistedCommand) : ℕ :=
  11 + TIME_BYTES + IDENTIFIER_BYTES + command.createdAt.elim TIME_BYTES timeBytes +
    command.matrixEventId.elim IDENTIFIER_BYTES stringBytes + (bool command.cancelRequested).size +
    completedBytes command.commandId

/-- What a record may still grow by. -/
def growth (command : PersistedCommand) : ℕ :=
  if command.completion = none then finishedBytes command - variableBytes command else 0

/-- The outbox has room for everything that its unfinished commands may still write. -/
def Roomy (snapshot : CommandOutboxSnapshot) : Prop :=
  (encodeSnapshot snapshot).size + (snapshot.commands.map growth).sum ≤ MAX_PLAINTEXT_BYTES

instance (snapshot : CommandOutboxSnapshot) : Decidable (Roomy snapshot) := inferInstanceAs (Decidable (_ ≤ _))

theorem variableBytes_le (h : command.Valid) : variableBytes command ≤ finishedBytes command := by
  have hupdated := timeBytes_le h.updatedAt
  have hsession := optionalStringBytes_le h.sessionId
  have hcreated : optionalTimeBytes command.createdAt ≤ command.createdAt.elim TIME_BYTES timeBytes := by
    cases command.createdAt with
    | none => decide
    | some n => exact le_rfl
  have hevent : optionalStringBytes command.matrixEventId ≤ command.matrixEventId.elim IDENTIFIER_BYTES stringBytes := by
    cases command.matrixEventId with
    | none => decide
    | some id => exact le_rfl
  have hcompletion : stringBytes command.state.wireName + completionBytes command.completion ≤
      11 + completedBytes command.commandId := by
    have hterminal := h.terminal
    cases hc : command.completion with
    | none =>
      have hname : stringBytes command.state.wireName ≤ 19 := by cases command.state <;> decide
      have hnull : completionBytes none = 4 := by decide
      have hroom : 57 ≤ completedBytes command.commandId := by
        rw [completedBytes]
        omega
      omega
    | some completion =>
      rw [hc,Option.isSome_some] at hterminal
      have hname : stringBytes command.state.wireName ≤ 11 := by
        revert hterminal
        cases command.state <;> decide
      have hbytes := completionBytes_le completion
      rw [h.completion completion hc] at hbytes
      omega
  rw [variableBytes,finishedBytes]
  omega

/-- An event that was recorded is not replaced by another one. -/
def KeepsEvent (command : PersistedCommand) (request : Request) : Prop :=
  ∀ commandId id, request = .recordPublished commandId id →
    command.matrixEventId = none ∨ command.matrixEventId = some id

theorem finishedBytes_after (hevent : KeepsEvent command request) (hnext : (command.after now request).Valid) :
    finishedBytes (command.after now request) ≤ finishedBytes command := by
  cases request with
  | claimForTransmission commandId =>
    have hcreated : timeBytes (command.createdAt.getD (max now command.updatedAt)) ≤
        command.createdAt.elim TIME_BYTES timeBytes := by
      cases hc : command.createdAt with
      | none => exact timeBytes_le hnext.updatedAt
      | some n => exact le_rfl
    simp only [finishedBytes,PersistedCommand.after,Option.elim_some]
    omega
  | recordPublished commandId matrixEventId =>
    have hpublished : stringBytes matrixEventId ≤ command.matrixEventId.elim IDENTIFIER_BYTES stringBytes := by
      rcases hevent commandId matrixEventId rfl with hnone | hsome
      · rw [hnone]
        exact stringBytes_of_isOpaqueId (hnext.matrixEventId matrixEventId rfl)
      · rw [hsome]
        exact le_rfl
    simp only [finishedBytes,PersistedCommand.after,Option.elim_some]
    omega
  | markCancelRequested commandId =>
    have hcancel : (bool true).size ≤ (bool command.cancelRequested).size := by cases command.cancelRequested <;> decide
    simp only [finishedBytes,PersistedCommand.after]
    omega
  | claimRecovery | markTransmissionUncertain | recordProgress | recordCompletion | enqueue | release
    | retireUnavailableProjectCommand | retireUnverifiedCommand => exact le_rfl

/-- A record and what it may still grow by do not increase. -/
theorem growth_after (hvalid : command.Valid) (hunfinished : command.completion = none)
    (hevent : KeepsEvent command request) (hnext : (command.after now request).Valid) :
    commandSize (command.after now request) + growth (command.after now request) ≤
      commandSize command + growth command := by
  have hsuccessor := successor_after command now request hunfinished
  have hsubmitted : (command.after now request).submittedAt = command.submittedAt := by cases request <;> rfl
  have hrecord := commandSize_add hsuccessor.ids hsuccessor.idempotencyKey hsuccessor.requestFingerprint hsubmitted
    hsuccessor.projectId hsuccessor.payload
  have hfinished := finishedBytes_after hevent hnext
  have hbefore := variableBytes_le hvalid
  have hafter := variableBytes_le hnext
  rw [growth,growth,if_pos hunfinished]
  split <;> omega

theorem roomy_iff : Roomy snapshot ↔ frameSize snapshot +
    (snapshot.commands.map fun command => commandSize command + growth command).sum +
      (snapshot.commands.length - 1) ≤ MAX_PLAINTEXT_BYTES := by
  rw [Roomy,size_encodeSnapshot,sum_map_add]
  omega

theorem roomy_replace (hvalid : snapshot.Valid) (hcommand : command ∈ snapshot.commands)
    (hle : commandSize next + growth next ≤ commandSize command + growth command) (h : Roomy snapshot) :
    Roomy (snapshot.replace command next) := by
  rw [roomy_iff] at h ⊢
  have hsum := sum_replace (f := fun command => commandSize command + growth command) (b := next)
    hvalid.commandIds.of_map hcommand
  have hframe : frameSize (snapshot.replace command next) = frameSize snapshot := rfl
  have hcommands : (snapshot.replace command next).commands =
      snapshot.commands.map fun other => if other = command then next else other := rfl
  rw [hframe,hcommands,length_map]
  omega

/-- The identity of a command takes less than its record. -/
theorem roomy_erase (hcommand : command ∈ snapshot.commands) {releasedAt : ℤ}
    (hreleased : 0 ≤ releasedAt ∧ releasedAt ≤ MAX_SAFE_JSON_INTEGER) (h : Roomy snapshot) :
    Roomy ⟨snapshot.commands.erase command,snapshot.released ++ [command.toReleasedTombstone releasedAt]⟩ := by
  rw [roomy_iff] at h ⊢
  have hsum := ((perm_cons_erase hcommand).map fun command => commandSize command + growth command).sum_eq
  have htime := timeBytes_le hreleased
  have hsmaller : (object (encodeTombstone (command.toReleasedTombstone releasedAt))).size + 1 ≤ commandSize command := by
    have hkeys : utf8Length (quoted "state") = 7 ∧ utf8Length (quoted "submittedAt") = 13 ∧
        utf8Length (quoted "releasedAt") = 12 := by decide
    rw [timeBytes,TIME_BYTES] at htime
    simp only [commandSize,size_object,encodeCommand,encodeTombstone,PersistedCommand.toReleasedTombstone,entrySize,
      map_cons,map_nil,sum_cons,sum_nil,length_cons,length_nil,hkeys]
    omega
  have hframe : frameSize ⟨snapshot.commands.erase command,
      snapshot.released ++ [command.toReleasedTombstone releasedAt]⟩ ≤ frameSize snapshot + commandSize command := by
    rw [frameSize,frameSize,encodeSnapshot,encodeSnapshot,size_object,size_object]
    simp only [entrySize,size_array,map_append,map_cons,map_nil,sum_cons,
      sum_nil,sum_append,length_append,length_cons,length_nil]
    omega
  have hlength := length_erase_of_mem hcommand
  rw [map_cons,sum_cons] at hsum
  dsimp only
  omega

end Malink.Native.Commands
