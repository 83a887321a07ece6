import Malink.CheckedResults
import Malink.Mlp3Schemas
import Mathlib.Data.List.Sort

/-!
# The command journal

One durable row for each accepted command. A row only moves forward: accepted, dispatched, terminal.
-/

namespace Malink.Gateway

open Mlp3
open Except (ok)

inductive CommandStatus
  | accepted
  | dispatched
  | terminal
  deriving DecidableEq

def CommandStatus.rank : CommandStatus → ℕ
  | .accepted => 0
  | .dispatched => 1
  | .terminal => 2

theorem CommandStatus.rank_le_terminal (status : CommandStatus) : status.rank ≤ terminal.rank := by
  cases status <;> decide

inductive TerminalOutcome
  | succeeded
  | failed
  | rejected
  | interrupted
  deriving DecidableEq

structure Terminal where
  outcome : TerminalOutcome
  eventId : JsString
  event : Option Event
  sessionId : Option JsString
  code : Option JsString
  error : Option JsString
  result : Option Json
  /-- `reconciledOutcome: 'cancelled'` -/
  reconciledCancelled : Bool
  retryable : Option Bool
  deriving DecidableEq

structure TerminalDelivery where
  eventId : JsString
  deliveredAt : ℕ
  deriving DecidableEq

inductive Progress
  | accepted
  | dispatched (dispatchedAt : ℕ)
  | terminal (dispatchedAt : Option ℕ) (terminalAt : ℕ) (terminal : Terminal)
      (delivery : Option TerminalDelivery)
  deriving DecidableEq

def Progress.status : Progress → CommandStatus
  | .accepted => .accepted
  | .dispatched _ => .dispatched
  | .terminal _ _ _ _ => .terminal

def Progress.dispatchedAt : Progress → Option ℕ
  | .accepted => none
  | .dispatched at' => some at'
  | .terminal at' _ _ _ => at'

def Progress.answer : Progress → Option (TerminalOutcome × JsString × Option Event)
  | .terminal _ _ t _ => some (t.outcome,t.eventId,t.event)
  | _ => none

def Progress.carrier : Progress → Option TerminalDelivery
  | .terminal _ _ _ delivery => delivery
  | _ => none

/-- Progress that goes on from another: an answer stays, and so does its carrier. -/
structure Progress.Extends (progress progress' : Progress) : Prop where
  rank : progress.status.rank ≤ progress'.status.rank
  answer : ∀ a, progress.answer = some a → progress'.answer = some a
  carrier : ∀ d, progress.carrier = some d → progress'.carrier = some d

theorem Progress.Extends.refl (progress : Progress) : progress.Extends progress :=
  ⟨le_rfl,fun _ h => h,fun _ h => h⟩

theorem Progress.Extends.trans {p p' p'' : Progress} (h : p.Extends p') (h' : p'.Extends p'') : p.Extends p'' :=
  ⟨h.rank.trans h'.rank,fun a ha => h'.answer a (h.answer a ha),fun d hd => h'.carrier d (h.carrier d hd)⟩

theorem Progress.extends_of_unsettled {progress progress' : Progress} (h : progress.status ≠ .terminal)
    (hrank : progress.status.rank ≤ progress'.status.rank) : progress.Extends progress' := by
  cases progress with
  | terminal => exact absurd rfl h
  | _ => exact ⟨hrank,fun _ ha => (by cases ha),fun _ hd => (by cases hd)⟩

structure CommandRecord where
  command : Command
  roomId : Option JsString
  matrixEventId : Option JsString
  acceptedAt : ℕ
  progress : Progress
  deriving DecidableEq

def CommandRecord.status (record : CommandRecord) : CommandStatus := record.progress.status

def CommandRecord.terminal (record : CommandRecord) : Option Terminal :=
  match record.progress with
  | .terminal _ _ terminal _ => some terminal
  | _ => none

/-- `mlp3CommandKey`: the identity of a command. -/
structure CommandKey where
  workspaceId : JsString
  deviceId : JsString
  certificateId : JsString
  commandId : JsString
  deriving DecidableEq

def mlp3CommandKey (command : Command) : CommandKey where
  workspaceId := command.workspaceId
  deviceId := command.deviceId
  certificateId := command.certificateId
  commandId := command.commandId

def CommandKey.text (key : CommandKey) : List Char :=
  Json.stringify (.arr [.str key.workspaceId,.str key.deviceId,.str key.certificateId,.str key.commandId])

inductive JournalError
  | idempotencyConflict
  | noAcceptance
  | invalidTerminal
  | differentTerminal
  | noTerminal
  | deliveredDifferently
  | notPersisted
  deriving DecidableEq

def JournalError.message : JournalError → JsString
  | idempotencyConflict => "Command ID was reused with different signed content"
  | noAcceptance => "Command has no exact durable MLP/3 acceptance"
  | invalidTerminal => "Invalid MLP/3 command terminal result"
  | differentTerminal => "Command already has a different terminal result"
  | noTerminal => "Command has no durable terminal event to mark delivered"
  | deliveredDifferently => "Command terminal was delivered with a different Matrix event ID"
  | notPersisted => "Failed to persist MLP/3 terminal delivery"

@[ext] structure CommandJournal where
  rows : InsertionMap CommandKey CommandRecord
  keyed : ∀ {key : CommandKey} {record : CommandRecord},
    rows.get key = some record → mlp3CommandKey record.command = key

instance : DecidableEq CommandJournal := fun j j' =>
  decidable_of_iff (j.rows = j'.rows) ⟨CommandJournal.ext,congrArg CommandJournal.rows⟩

namespace CommandJournal

def empty : CommandJournal := ⟨.empty,fun h => nomatch h⟩

/-- `selectCommand` -/
def row (journal : CommandJournal) (key : CommandKey) : Option CommandRecord := journal.rows.get key

def put (journal : CommandJournal) (record : CommandRecord) : CommandJournal where
  rows := journal.rows.set (mlp3CommandKey record.command) record
  keyed := by
    intro key record' h
    rw [InsertionMap.get_set] at h
    split at h
    · next hk =>
      cases h
      exact hk.symm
    · exact journal.keyed h

theorem row_put (journal : CommandJournal) (record : CommandRecord) (key : CommandKey) : (journal.put record).row key =
      if key = mlp3CommandKey record.command then some record else journal.row key :=
  InsertionMap.get_set _ _ _ _

def status (journal : CommandJournal) (key : CommandKey) : Option CommandStatus :=
  (journal.row key).map CommandRecord.status

inductive ClaimKind
  | accepted
  | duplicate
  deriving DecidableEq

structure Claim where
  kind : ClaimKind
  record : CommandRecord
  deriving DecidableEq

/-- Where a command came from: its room and the Matrix event that carried it. -/
structure ClaimContext where
  roomId : JsString
  matrixEventId : JsString
  deriving DecidableEq

def claim (journal : CommandJournal) (command : Command) (now : ℕ) (context : Option ClaimContext) :
    Except JournalError (Claim × CommandJournal) :=
  match journal.row (mlp3CommandKey command) with
  | some current =>
    if current.command ≠ command then .error .idempotencyConflict
    else .ok (⟨.duplicate,current⟩,journal)
  | none =>
    let record : CommandRecord := {
      command
      roomId := context.map ClaimContext.roomId
      matrixEventId := context.map ClaimContext.matrixEventId
      acceptedAt := now
      progress := .accepted }
    .ok (⟨.accepted,record⟩,journal.put record)

def requireExact (journal : CommandJournal) (command : Command) : Except JournalError CommandRecord :=
  match journal.row (mlp3CommandKey command) with
  | some row => if row.command = command then .ok row else .error .noAcceptance
  | none => .error .noAcceptance

def markDispatched (journal : CommandJournal) (command : Command) (now : ℕ) :
    Except JournalError CommandJournal := do
  let row ← journal.requireExact command
  match row.progress with
  | .accepted => .ok (journal.put { row with progress := .dispatched now })
  | _ => .ok journal

end CommandJournal

section

variable (schemas : Schemas)

/-- A provider listing of an older release, valid after it is cut to the present bounds. -/
def isRecoverableLegacyProviderHistoryEvent (event : Event) : Bool :=
  match event.payload with
  | .other .providerSessionsListed _ => schemas.normalizedProviderHistory event
  | .other .providerSessionInspected _ => schemas.normalizedProviderHistory event
  | _ => false

def isMlp3CommandTerminal (terminal : Terminal) : Bool :=
  decide (0 < terminal.eventId.length) &&
    terminal.event.all (fun event =>
      eventSchema schemas event || isRecoverableLegacyProviderHistoryEvent schemas event)

namespace CommandJournal

def settle (journal : CommandJournal) (command : Command) (terminal : Terminal) (now : ℕ) :
    Except JournalError CommandJournal := do
  if !isMlp3CommandTerminal schemas terminal then throw .invalidTerminal
  let row ← journal.requireExact command
  match row.progress with
  | .terminal _ _ current delivery =>
    if delivery.any (·.eventId.truthy) then .ok journal
    else if current = terminal then .ok journal
    else .error .differentTerminal
  | progress => .ok (journal.put { row with
      progress := .terminal progress.dispatchedAt now terminal none })

end CommandJournal

end

variable {journal : CommandJournal} {row : CommandRecord} {now : ℕ} {terminal : Terminal}

namespace CommandJournal

def get (journal : CommandJournal) (command : Command) : Except JournalError (Option CommandRecord) :=
  match journal.row (mlp3CommandKey command) with
  | none => .ok none
  | some row => if row.command = command then .ok (some row) else .error .idempotencyConflict

/-- The comparison of two texts code point by code point. -/
def textAtMost : List Char → List Char → Bool
  | [], _ => true
  | _ :: _, [] => false
  | a :: as, b :: bs => decide (a.toNat < b.toNat) || (decide (a = b) && textAtMost as bs)

/-- `ORDER BY accepted_at, command_key` -/
def acceptedBefore (r s : CommandRecord) : Bool :=
  decide (r.acceptedAt < s.acceptedAt) ||
    (decide (r.acceptedAt = s.acceptedAt) && textAtMost (mlp3CommandKey r.command).text (mlp3CommandKey s.command).text)

def unfinished (journal : CommandJournal) : List CommandRecord :=
  (journal.rows.values.filter (fun record => decide (record.status ≠ .terminal))).insertionSort
    (fun r s => acceptedBefore r s = true)

def terminalProjectDeletions (journal : CommandJournal) : List CommandRecord :=
  journal.rows.values.filter (fun record =>
    decide (record.status = .terminal) && decide (record.command.operation = .projectDelete))

structure TerminalError where
  code : JsString
  message : JsString
  retryable : Bool

def terminalError : EventPayload → Option TerminalError
  | .turnFailed _ _ code message => some ⟨code,message,false⟩
  | .commandRejected _ code message retryable => some ⟨code,message,retryable⟩
  | _ => none

def isCancelledTurn : EventPayload → Bool
  | .turnCompleted _ _ cancelled => cancelled
  | _ => false

/-- What is kept of a terminal once Matrix has its event: all but the result. -/
def compactDeliveredTerminal (terminal : Terminal) : Terminal :=
  let payload := terminal.event.map Event.payload
  let error := payload.bind terminalError
  { outcome := terminal.outcome
    eventId := terminal.eventId
    event := terminal.event
    sessionId := terminal.sessionId
    code := terminal.code.or (error.map TerminalError.code)
    error := terminal.error.or (error.map TerminalError.message)
    result := none
    reconciledCancelled := payload.any isCancelledTurn || terminal.reconciledCancelled
    retryable := (error.map TerminalError.retryable).or terminal.retryable }

def markTerminalDelivered (journal : CommandJournal) (command : Command) (matrixEventId : JsString)
    (now : ℕ) : Except JournalError CommandJournal := do
  let row ← journal.requireExact command
  match row.progress with
  | .terminal dispatchedAt terminalAt terminal delivery =>
    if delivery.any (·.eventId.truthy) then
      if delivery.any (·.eventId = matrixEventId) then .ok journal else .error .deliveredDifferently
    else if terminal.event.isNone then .error .noTerminal
    else if delivery.isSome then .error .notPersisted
    else .ok (journal.put { row with
      progress := .terminal dispatchedAt terminalAt (compactDeliveredTerminal terminal)
        (some ⟨matrixEventId,now⟩) })
  | _ => .error .noTerminal

variable {command : Command}

theorem requireExact_eq_ok : journal.requireExact command = .ok row ↔
      journal.row (mlp3CommandKey command) = some row ∧ row.command = command := by
  unfold requireExact
  cases hrow : journal.row (mlp3CommandKey command) with
  | none => simp
  | some current =>
    by_cases hc : current.command = command
    · simp only [hc,if_true,ok.injEq,Option.some.injEq]
      constructor
      · rintro rfl
        exact ⟨rfl,hc⟩
      · exact And.left
    · simp only [hc,if_false,reduceCtorEq,Option.some.injEq,false_iff,not_and]
      rintro rfl
      exact hc

variable {journal journal' : CommandJournal} {context : Option ClaimContext} {claim : Claim}

theorem claim_eq_ok (h : journal.claim command now context = .ok (claim,journal')) : claim.record.command = command ∧
      ((journal.row (mlp3CommandKey command) = some claim.record ∧ claim.kind = .duplicate ∧
          journal' = journal) ∨ (journal.row (mlp3CommandKey command) = none ∧ claim.kind = .accepted ∧
          claim.record.status = .accepted ∧ journal' = journal.put claim.record)) := by
  unfold CommandJournal.claim at h
  cases hrow : journal.row (mlp3CommandKey command) with
  | none =>
    simp only [hrow,ok.injEq,Prod.mk.injEq] at h
    obtain ⟨rfl,rfl⟩ := h
    exact ⟨rfl,.inr ⟨rfl,rfl,rfl,rfl⟩⟩
  | some current =>
    simp only [hrow,ne_eq,ite_not] at h
    split at h
    · next hc =>
      simp only [ok.injEq,Prod.mk.injEq] at h
      obtain ⟨rfl,rfl⟩ := h
      exact ⟨hc,.inl ⟨rfl,rfl,rfl⟩⟩
    · cases h

theorem markDispatched_eq_ok :
    journal.markDispatched command now = .ok journal' ↔
      ∃ row, journal.row (mlp3CommandKey command) = some row ∧ row.command = command ∧
        journal' = if row.status = .accepted then journal.put { row with progress := .dispatched now }
          else journal := by
  unfold markDispatched
  simp only [bind_eq_ok,requireExact_eq_ok,and_assoc]
  refine exists_congr fun row => and_congr_right fun _ => and_congr_right fun _ => ?_
  cases hp : row.progress <;> simp [CommandRecord.status,Progress.status,hp,eq_comm]

variable (schemas : Schemas)

theorem settle_eq_ok (h : journal.settle schemas command terminal now = .ok journal') :
    isMlp3CommandTerminal schemas terminal ∧
      ∃ row, journal.row (mlp3CommandKey command) = some row ∧ row.command = command ∧
        journal' = if row.status = .terminal then journal
          else journal.put { row with
            progress := .terminal row.progress.dispatchedAt now terminal none } := by
  unfold settle at h
  cases hv : isMlp3CommandTerminal schemas terminal with
  | false =>
    rw [hv] at h
    cases h
  | true =>
    rw [hv] at h
    obtain ⟨row,hrow,h⟩ := bind_eq_ok.mp h
    rw [requireExact_eq_ok] at hrow
    refine ⟨rfl,row,hrow.1,hrow.2,?_⟩
    cases hp : row.progress with
    | accepted | dispatched =>
      rw [hp] at h
      simpa [CommandRecord.status,Progress.status,hp,eq_comm] using h
    | terminal dispatchedAt terminalAt current delivery =>
      simp only [hp] at h
      have hj : journal = journal' := by
        split at h
        · exact ok.inj h
        · split at h
          · exact ok.inj h
          · cases h
      simp [CommandRecord.status,Progress.status,hp,hj]

theorem settle_of_valid (now : ℕ)
    (hv : isMlp3CommandTerminal schemas terminal) (hrow : journal.row (mlp3CommandKey command) = some row)
    (hc : row.command = command) (hs : row.status ≠ .terminal) :
    journal.settle schemas command terminal now = .ok (journal.put { row with
      progress := .terminal row.progress.dispatchedAt now terminal none }) := by
  unfold settle
  have hexact : journal.requireExact command = .ok row := requireExact_eq_ok.mpr ⟨hrow,hc⟩
  simp only [hv,Bool.not_true,Bool.false_eq_true,if_false,hexact,ok_bind]
  cases hp : row.progress with
  | accepted | dispatched => rfl
  | terminal dispatchedAt terminalAt current delivery =>
    exact absurd (by simp [CommandRecord.status,Progress.status,hp]) hs

/-- Every row is kept, with its command and with a status at least as far. -/
def Advances (journal journal' : CommandJournal) : Prop :=
  ∀ key row, journal.row key = some row →
    ∃ row', journal'.row key = some row' ∧ row'.command = row.command ∧ row.status.rank ≤ row'.status.rank

theorem Advances.trans {journal' journal'' : CommandJournal} (h : Advances journal journal')
    (h' : Advances journal' journal'') : Advances journal journal'' := by
  intro key row hrow
  obtain ⟨row',hrow',hc,hs⟩ := h key row hrow
  obtain ⟨row'',hrow'',hc',hs'⟩ := h' key row' hrow'
  exact ⟨row'',hrow'',hc'.trans hc,hs.trans hs'⟩

/-- Nothing of a row changes but its progress, and that is at least as far. -/
def Progresses (journal journal' : CommandJournal) : Prop :=
  ∀ key row, journal.row key = some row →
    ∃ progress, journal'.row key = some { row with progress } ∧ row.status.rank ≤ progress.status.rank

theorem Progresses.refl (journal : CommandJournal) : Progresses journal journal :=
  fun _ row h => ⟨row.progress,h,le_refl _⟩

theorem Progresses.advances (h : Progresses journal journal') : Advances journal journal' := by
  intro key row hrow
  obtain ⟨progress,hrow',hs⟩ := h key row hrow
  exact ⟨_,hrow',rfl,hs⟩

/-- Every row stays, and all that changes of it is its progress, which goes on. -/
def Continues (journal journal' : CommandJournal) : Prop :=
  ∀ key row, journal.row key = some row →
    ∃ progress, journal'.row key = some { row with progress } ∧ row.progress.Extends progress

theorem Continues.refl (journal : CommandJournal) : Continues journal journal :=
  fun _ row h => ⟨row.progress,h,.refl _⟩

theorem Continues.trans {journal'' : CommandJournal} (h : Continues journal journal')
    (h' : Continues journal' journal'') : Continues journal journal'' := by
  intro key row hrow
  obtain ⟨progress,hrow',hextends⟩ := h key row hrow
  obtain ⟨progress',hrow'',hextends'⟩ := h' key _ hrow'
  exact ⟨progress',hrow'',hextends.trans hextends'⟩

theorem continues_put {progress : Progress}
    (hrow : journal.row (mlp3CommandKey row.command) = some row) (hp : row.progress.Extends progress) :
    Continues journal (journal.put { row with progress }) := by
  intro key r hr
  rw [row_put]
  split
  · next hk =>
    subst hk
    obtain rfl : row = r := by simpa [hrow] using hr
    exact ⟨progress,rfl,hp⟩
  · exact ⟨r.progress,hr,.refl _⟩

theorem claim_continues (h : journal.claim command now context = .ok (claim,journal')) :
    Continues journal journal' := by
  obtain ⟨hc,⟨-,-,rfl⟩ | ⟨hnone,-,-,rfl⟩⟩ := claim_eq_ok h
  · exact .refl _
  · intro key r hr
    refine ⟨r.progress,?_,.refl _⟩
    rw [row_put,if_neg]
    · exact hr
    · rintro rfl
      rw [hc,hnone] at hr
      cases hr

theorem markDispatched_continues (h : journal.markDispatched command now = .ok journal') :
    Continues journal journal' := by
  obtain ⟨row,hrow,rfl,rfl⟩ := markDispatched_eq_ok.mp h
  split
  · next hs =>
    replace hs : row.progress.status = .accepted := hs
    exact continues_put hrow (Progress.extends_of_unsettled (by rw [hs]; decide) (by rw [hs]; exact Nat.zero_le _))
  · exact .refl _

theorem settle_continues
    (h : journal.settle schemas command terminal now = .ok journal') : Continues journal journal' := by
  obtain ⟨-,row,hrow,rfl,rfl⟩ := settle_eq_ok _ h
  split
  · exact .refl _
  · next hs => exact continues_put hrow (Progress.extends_of_unsettled hs (CommandStatus.rank_le_terminal _))

variable {matrixEventId : JsString}

theorem markTerminalDelivered_continues (h : journal.markTerminalDelivered command matrixEventId now = .ok journal') :
    Continues journal journal' := by
  unfold markTerminalDelivered at h
  simp only [bind_eq_ok,requireExact_eq_ok] at h
  obtain ⟨row,⟨hrow,rfl⟩,h⟩ := h
  split at h
  · next dispatchedAt terminalAt terminal delivery hp =>
    split at h
    · split at h
      · cases h
        exact .refl _
      · cases h
    · split at h
      · cases h
      · split at h
        · cases h
        · next hnone =>
          cases h
          refine continues_put hrow ?_
          rw [hp]
          refine ⟨le_rfl,fun a ha => ha,fun d hd => ?_⟩
          replace hd : delivery = some d := hd
          rw [hd] at hnone
          exact absurd rfl hnone
  · cases h

theorem Continues.progresses (h : Continues journal journal') : Progresses journal journal' := by
  intro key row hrow
  obtain ⟨progress,hrow',hextends⟩ := h key row hrow
  exact ⟨progress,hrow',hextends.rank⟩

theorem claim_progresses (h : journal.claim command now context = .ok (claim,journal')) : Progresses journal journal' :=
  (claim_continues h).progresses

theorem markDispatched_progresses (h : journal.markDispatched command now = .ok journal') :
    Progresses journal journal' :=
  (markDispatched_continues h).progresses

theorem settle_progresses
    (h : journal.settle schemas command terminal now = .ok journal') : Progresses journal journal' :=
  (settle_continues schemas h).progresses

theorem markTerminalDelivered_progresses (h : journal.markTerminalDelivered command matrixEventId now = .ok journal') :
    Progresses journal journal' :=
  (markTerminalDelivered_continues h).progresses

theorem status_settle (h : journal.settle schemas command terminal now = .ok journal') :
    journal'.status (mlp3CommandKey command) = some .terminal := by
  obtain ⟨-,row,hrow,hc,rfl⟩ := settle_eq_ok schemas h
  unfold CommandJournal.status
  split
  · next hs => rw [hrow,Option.map_some,hs]
  · rw [row_put,if_pos (by rw [hc])]
    rfl

end CommandJournal

end Malink.Gateway
