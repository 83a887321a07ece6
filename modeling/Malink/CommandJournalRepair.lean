import Malink.CommandJournalText

/-!
# The repair of a command journal

A journal may hold a second terminal of a command, of a process that did not know of the first. The planner replays
the text and removes what follows the first terminal and its first delivery.
-/

namespace Malink.Gateway.JournalText

open Outbox

structure DuplicateTerminal where
  commandId : JsString
  preservedTerminalLine : ℕ
  preservedTerminalEventId : JsString
  duplicateTerminalLine : ℕ
  duplicateTerminalEventId : JsString
  duplicateOutcome : JsString
  duplicateDeliveryLine : Option ℕ
  deriving DecidableEq

structure RepairPlan where
  lineCount : ℕ
  duplicateTerminals : List DuplicateTerminal
  removedLines : List ℕ
  deriving DecidableEq

structure ReplayState (V : Type) where
  commandId : JsString
  fingerprint : JsString
  status : Status
  terminal : Option V
  terminalLine : Option ℕ
  deliveryLine : Option ℕ
  pendingDuplicateIndexes : List ℕ

def acceptedState {V : Type} (commandId fingerprint : JsString) : ReplayState V where
  commandId
  fingerprint
  status := .accepted
  terminal := none
  terminalLine := none
  deliveryLine := none
  pendingDuplicateIndexes := []

structure Replay (V : Type) where
  states : InsertionMap JsString (ReplayState V)
  duplicateTerminals : List DuplicateTerminal
  removedLines : List ℕ
  headers : ℕ

def Replay.empty {V : Type} : Replay V := ⟨.empty,[],[],0⟩

variable {V : Type} (json : JsonReader V) (protocol : Protocol V)

def terminalEventId (terminal : V) : JsString := (stringField json terminal "eventId").getD ""

def terminalOutcome (terminal : V) : JsString := ((json.field terminal "outcome").bind json.text).getD ""

/-- `state.deliveryLine === undefined && canonicalJson(state.terminal) === canonicalJson(entry.terminal)` -/
def identicalUndelivered (state : ReplayState V) (terminal : V) (line : ℕ) : Except TextError Bool :=
  if state.deliveryLine.isSome then .ok false
  else match state.terminal.bind json.canonicalJson, json.canonicalJson terminal with
    | some first, some second => .ok (decide (first = second))
    | _, _ => .error ⟨.nonFiniteNumber,line⟩

/-- A second terminal of a command. -/
def replayDuplicate (replay : Replay V) (key : JsString) (state : ReplayState V) (line : ℕ) (terminal : V)
    (identical : Bool) : Replay V :=
  { replay with
    removedLines := replay.removedLines ++ [line]
    duplicateTerminals := replay.duplicateTerminals ++ [{
      commandId := state.commandId
      preservedTerminalLine := state.terminalLine.getD 0
      preservedTerminalEventId := (state.terminal.map (terminalEventId json)).getD ""
      duplicateTerminalLine := line
      duplicateTerminalEventId := terminalEventId json terminal
      duplicateOutcome := terminalOutcome json terminal
      duplicateDeliveryLine := none }]
    states := if identical then replay.states
      else replay.states.set key { state with
        pendingDuplicateIndexes := state.pendingDuplicateIndexes ++ [replay.duplicateTerminals.length] } }

/-- A later entry of a command, on the state of the command. -/
def replayTransition (replay : Replay V) (key : JsString) (state : ReplayState V) (line : ℕ) :
    Entry V → Except TextError (Replay V)
  | .dispatched _ _ _ =>
    if state.status ≠ .accepted then .error ⟨.invalidDispatchedTransition,line⟩
    else .ok { replay with states := replay.states.set key { state with status := .dispatched } }
  | .terminal _ _ _ terminal =>
    if state.status ≠ .terminal then
      let state' := { state with status := .terminal, terminal := some terminal, terminalLine := some line }
      .ok { replay with states := replay.states.set key state' }
    else do
      let identical ← identicalUndelivered json state terminal line
      if state.deliveryLine.isNone ∧ identical = false then .error ⟨.conflictingTerminal,line⟩
      else .ok (replayDuplicate json replay key state line terminal identical)
  | .terminalDelivered _ _ _ _ =>
    if state.status ≠ .terminal then .error ⟨.invalidTerminalDelivery,line⟩
    else if state.deliveryLine.isNone then
      .ok { replay with states := replay.states.set key { state with deliveryLine := some line } }
    else match state.pendingDuplicateIndexes with
      | [] => .error ⟨.duplicateTerminalDelivery,line⟩
      | index :: indexes => .ok { replay with
          removedLines := replay.removedLines ++ [line]
          duplicateTerminals := replay.duplicateTerminals.modify index
            (fun duplicate => { duplicate with duplicateDeliveryLine := some line })
          states := replay.states.set key { state with pendingDuplicateIndexes := indexes } }
  | _ => .ok replay

def replayEntry (replay : Replay V) (line : ℕ) (entry : Entry V) : Except TextError (Replay V) :=
  match entry with
  | .journal _ =>
    if 1 < replay.headers + 1 then .error ⟨.duplicateHeader,line⟩
    else .ok { replay with headers := replay.headers + 1 }
  | .accepted key fingerprint command _ _ _ =>
    if replay.states.has key then .error ⟨.duplicateAcceptance,line⟩
    else do
      checkBinding json protocol key fingerprint command line
      let commandId := (stringField json command "commandId").getD ""
      .ok { replay with states := replay.states.set key (acceptedState commandId fingerprint) }
  | entry => match entry.binding with
    | none => .ok replay
    | some (key,fingerprint) => match replay.states.get key with
      | none => .error ⟨.orphanedTransition,line⟩
      | some state =>
        if state.fingerprint ≠ fingerprint then .error ⟨.orphanedTransition,line⟩
        else replayTransition json replay key state line entry

def planMlp3CommandJournalRepair (text : List Char) : Except TextError RepairPlan := do
  let lines := splitLines text
  let replay ← overLines json protocol (replayEntry json protocol) Replay.empty 1 lines
  if replay.headers ≠ 1 then .error ⟨.missingHeader,lines.length⟩
  else .ok {
    lineCount := lines.length
    duplicateTerminals := replay.duplicateTerminals
    removedLines := replay.removedLines.insertionSort (· ≤ ·) }

/-- `filter((_line, index) => !removed.has(index + 1))`, from this number on. -/
def keepLines (removed : List ℕ) (number : ℕ) : List (List Char) → List (List Char)
  | [] => []
  | line :: lines =>
    if number ∈ removed then keepLines removed (number + 1) lines
    else line :: keepLines removed (number + 1) lines

/-- `join('\n')` -/
def joinLines : List (List Char) → List Char
  | [] => []
  | [line] => line
  | line :: lines => line ++ '\n' :: joinLines lines

def repairedText (text : List Char) (plan : RepairPlan) : List Char :=
  joinLines (keepLines plan.removedLines 1 (splitLines text))

def Entry.acceptance (key : JsString) : Entry V → Option (Record V)
  | .accepted key' fingerprint command roomId matrixEventId acceptedAt =>
    if key' = key then some (acceptedRecord command fingerprint roomId matrixEventId acceptedAt) else none
  | _ => none

def Entry.dispatchOf (key : JsString) : Entry V → Option ℤ
  | .dispatched key' _ dispatchedAt => if key' = key then some dispatchedAt else none
  | _ => none

def Entry.terminalOf (key : JsString) : Entry V → Option (ℤ × V)
  | .terminal key' _ terminalAt outcome => if key' = key then some (terminalAt,outcome) else none
  | _ => none

def Entry.deliveryOf (key : JsString) : Entry V → Option (FilledString × ℤ)
  | .terminalDelivered key' _ matrixEventId deliveredAt =>
    if key' = key then some (matrixEventId,deliveredAt) else none
  | _ => none

def firstRecord (entries : List (Entry V)) (key : JsString) : Option (Record V) :=
  let dispatch := entries.findSome? (Entry.dispatchOf key)
  let terminal := entries.findSome? (Entry.terminalOf key)
  let delivery := entries.findSome? (Entry.deliveryOf key)
  (entries.findSome? (Entry.acceptance key)).map fun record => { record with
    status := if terminal.isSome then .terminal else if dispatch.isSome then .dispatched else .accepted
    dispatchedAt := dispatch
    terminalAt := terminal.map Prod.fst
    terminal := terminal.map Prod.snd
    terminalDeliveryEventId := delivery.map Prod.fst
    terminalDeliveredAt := delivery.map Prod.snd }

def entriesOf (lines : List (List Char)) : List (Entry V) :=
  lines.filterMap fun line => if isBlank line then none else (readLine json protocol line 0).toOption

end Malink.Gateway.JournalText
