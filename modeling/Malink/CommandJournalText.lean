import Malink.CanonicalJson
import Malink.CheckedResults
import Malink.InsertionMaps
import Malink.OutboxWal

/-!
# The text of the command journal

The journal of an older release: a header, and the acceptance, the dispatch, the terminal and its delivery of every
command, a line each. The strict reader accepts each once, in this order.
-/

namespace Malink.Gateway.JournalText

open Outbox

/-- The values of the source language that a line may hold, as the reader looks at them. -/
structure JsonReader (V : Type) where
  /-- `JSON.parse` -/
  parse : List Char → Option V
  /-- An object that is neither null nor an array. -/
  isObject : V → Bool
  field : V → JsString → Option V
  asString : V → Option JsString
  asSafeInteger : V → Option ℤ
  asBoolean : V → Option Bool
  /-- `String(value)`, which may throw. -/
  text : V → Option JsString
  /-- `canonicalJson(value)`, which throws on a number that is not finite. -/
  canonicalJson : V → Option JsString
  /-- The canonical text of an array of strings. -/
  canonicalStrings : List JsString → JsString
  /-- A carriage return after a value is white space. -/
  parse_return : ∀ line, parse (line ++ ['\r']) = parse line

/-- The schemas of the protocol, and the digest, in hexadecimal digits. -/
structure Protocol (V : Type) where
  /-- `mlp3CommandSchema.parse` -/
  commandSchema : V → Option V
  /-- `mlp3EventSchema`, or an event that is only too large a listing. -/
  isTerminalEvent : V → Bool
  sha256 : JsString → JsString

abbrev FilledString := { s : JsString // s.truthy = true }

inductive Entry (V : Type)
  | journal (generation : FilledString)
  | accepted (key fingerprint : JsString) (command : V) (roomId matrixEventId : Option FilledString)
      (acceptedAt : ℤ)
  | dispatched (key fingerprint : JsString) (dispatchedAt : ℤ)
  | terminal (key fingerprint : JsString) (terminalAt : ℤ) (terminal : V)
  | terminalDelivered (key fingerprint : JsString) (matrixEventId : FilledString) (deliveredAt : ℤ)

inductive ErrorKind
  | corrupt
  | invalidEntry
  | unsupportedVersion
  | invalidHeader
  | invalidBinding
  | invalidAcceptanceTime
  | invalidCommand
  | invalidDispatchTime
  | invalidTerminal
  | unprintableOutcome
  | invalidDelivery
  | unknownEntry
  | duplicateHeader
  | duplicateAcceptance
  | invalidAcceptanceBinding
  | nonFiniteNumber
  | orphanedTransition
  | invalidDispatchedTransition
  | duplicateTerminal
  | conflictingTerminal
  | invalidTerminalDelivery
  | duplicateTerminalDelivery
  | missingHeader
  deriving DecidableEq

structure TextError where
  kind : ErrorKind
  line : ℕ
  deriving DecidableEq

def TextError.message (error : TextError) : JsString :=
  let atLine (text : JsString) : JsString := text ++ " at line " ++ JsString.ofNat error.line
  match error.kind with
  | .corrupt => atLine "Corrupt MLP/3 command journal"
  | .invalidEntry => atLine "Invalid MLP/3 command journal entry"
  | .unsupportedVersion => atLine "Unsupported command journal version"
  | .invalidHeader => atLine "Invalid MLP/3 command journal header"
  | .invalidBinding => atLine "Invalid MLP/3 command journal binding"
  | .invalidAcceptanceTime => atLine "Invalid MLP/3 command acceptance time"
  -- The text of the schema's own error is not modelled.
  | .invalidCommand => ""
  | .invalidDispatchTime => atLine "Invalid MLP/3 command dispatch time"
  | .invalidTerminal => atLine "Invalid MLP/3 command terminal entry"
  | .unprintableOutcome => "Cannot convert object to primitive value"
  | .invalidDelivery => atLine "Invalid MLP/3 command terminal delivery"
  | .unknownEntry => atLine "Unknown MLP/3 command journal entry"
  | .duplicateHeader => "Duplicate MLP/3 command journal header"
  | .duplicateAcceptance => atLine "Duplicate MLP/3 command acceptance"
  | .invalidAcceptanceBinding => atLine "Invalid MLP/3 command acceptance binding"
  | .nonFiniteNumber => "Canonical JSON cannot encode non-finite numbers"
  | .orphanedTransition => atLine "Orphaned MLP/3 command transition"
  | .invalidDispatchedTransition => atLine "Invalid MLP/3 dispatched transition"
  | .duplicateTerminal => atLine "Duplicate MLP/3 terminal transition"
  | .conflictingTerminal => atLine "Conflicting MLP/3 terminal transition" ++
      " is not safely repairable: the first terminal result was not durably delivered."
  | .invalidTerminalDelivery => atLine "Invalid MLP/3 terminal delivery"
  | .duplicateTerminalDelivery => atLine "Duplicate MLP/3 terminal delivery"
  | .missingHeader => "MLP/3 command journal is missing its generation header"

variable {V : Type} (json : JsonReader V) (protocol : Protocol V)

def stringField (value : V) (name : JsString) : Option JsString := (json.field value name).bind json.asString

def mlp3CommandKey (command : V) : JsString :=
  json.canonicalStrings ([("workspaceId" : JsString),"deviceId","certificateId","commandId"].map
    (fun name => (stringField json command name).getD ""))

def mlp3CommandFingerprint (command : V) : Option JsString :=
  (json.canonicalJson command).map fun text =>
    ("v3:" : JsString) ++ protocol.sha256 (("malink-command:v3\x00" : JsString) ++ text)

/-- `undefined`, or a value of one kind. -/
def isAbsentOr (value : V) (name : JsString) (kind : V → Bool) : Bool := (json.field value name).all kind

/-- `none` where the conversion of the outcome to a text throws. -/
def isMlp3CommandTerminal (value : V) : Option Bool :=
  if !json.isObject value then some false
  else
    let outcome := match json.field value "outcome" with
      | some outcome => json.text outcome
      | none => some ("undefined" : JsString)
    outcome.map fun outcome =>
      decide (outcome ∈ ([("succeeded" : JsString),"failed","rejected","interrupted"] : List JsString)) &&
        (stringField json value "eventId").any JsString.truthy &&
        isAbsentOr json value "sessionId" (fun v => (json.asString v).isSome) &&
        isAbsentOr json value "code" (fun v => (json.asString v).isSome) &&
        isAbsentOr json value "error" (fun v => (json.asString v).isSome) &&
        isAbsentOr json value "reconciledOutcome" (fun v => decide (json.asString v = some ("cancelled" : JsString))) &&
        isAbsentOr json value "retryable" (fun v => (json.asBoolean v).isSome) &&
        isAbsentOr json value "event" protocol.isTerminalEvent

def filledField (value : V) (name : JsString) : Option FilledString :=
  (stringField json value name).bind fun s => if h : s.truthy then some ⟨s,h⟩ else none

def integerField (value : V) (name : JsString) : Option ℤ := (json.field value name).bind json.asSafeInteger

/-- The entries below the header, which name a command. -/
def parseBoundEntry (value : V) (kind : Option JsString) (key fingerprint : JsString) (line : ℕ) :
    Except TextError (Entry V) :=
  if kind = some ("accepted" : JsString) then
    match integerField json value "acceptedAt" with
    | none => .error ⟨.invalidAcceptanceTime,line⟩
    | some acceptedAt => match (json.field value "command").bind protocol.commandSchema with
      | none => .error ⟨.invalidCommand,line⟩
      | some command => .ok (.accepted key fingerprint command (filledField json value "roomId")
          (filledField json value "matrixEventId") acceptedAt)
  else if kind = some ("dispatched" : JsString) then
    match integerField json value "dispatchedAt" with
    | none => .error ⟨.invalidDispatchTime,line⟩
    | some dispatchedAt => .ok (.dispatched key fingerprint dispatchedAt)
  else if kind = some ("terminal" : JsString) then
    match integerField json value "terminalAt", json.field value "terminal" with
    | some terminalAt, some terminal => match isMlp3CommandTerminal json protocol terminal with
      | none => .error ⟨.unprintableOutcome,line⟩
      | some false => .error ⟨.invalidTerminal,line⟩
      | some true => .ok (.terminal key fingerprint terminalAt terminal)
    | _, _ => .error ⟨.invalidTerminal,line⟩
  else if kind = some ("terminal_delivered" : JsString) then
    match integerField json value "deliveredAt", filledField json value "matrixEventId" with
    | some deliveredAt, some matrixEventId => .ok (.terminalDelivered key fingerprint matrixEventId deliveredAt)
    | _, _ => .error ⟨.invalidDelivery,line⟩
  else .error ⟨.unknownEntry,line⟩

def parseMlp3CommandJournalEntry (value : V) (line : ℕ) : Except TextError (Entry V) :=
  if !json.isObject value then .error ⟨.invalidEntry,line⟩
  else if integerField json value "version" ≠ some 3 then .error ⟨.unsupportedVersion,line⟩
  else
    let kind := stringField json value "kind"
    if kind = some ("journal" : JsString) then
      match filledField json value "generation" with
      | none => .error ⟨.invalidHeader,line⟩
      | some generation => .ok (.journal generation)
    else match filledField json value "key", filledField json value "fingerprint" with
      | some key, some fingerprint => parseBoundEntry json protocol value kind key.1 fingerprint.1 line
      | _, _ => .error ⟨.invalidBinding,line⟩

def readLine (line : List Char) (number : ℕ) : Except TextError (Entry V) :=
  match json.parse line with
  | none => .error ⟨.corrupt,number⟩
  | some value => parseMlp3CommandJournalEntry json protocol value number

inductive Status
  | accepted
  | dispatched
  | terminal
  deriving DecidableEq

structure Record (V : Type) where
  command : V
  fingerprint : JsString
  roomId : Option FilledString
  matrixEventId : Option FilledString
  status : Status
  acceptedAt : ℤ
  dispatchedAt : Option ℤ
  terminalAt : Option ℤ
  terminal : Option V
  terminalDeliveryEventId : Option FilledString
  terminalDeliveredAt : Option ℤ

structure Parsed (V : Type) where
  generation : Option FilledString
  headerCount : ℕ
  records : InsertionMap JsString (Record V)

def Parsed.empty : Parsed V := ⟨none,0,.empty⟩

/-- An acceptance is filed under the key and the fingerprint of its command. -/
def checkBinding (key fingerprint : JsString) (command : V) (line : ℕ) : Except TextError Unit :=
  if key ≠ mlp3CommandKey json command then .error ⟨.invalidAcceptanceBinding,line⟩
  else match mlp3CommandFingerprint json protocol command with
    | none => .error ⟨.nonFiniteNumber,line⟩
    | some expected => if fingerprint ≠ expected then .error ⟨.invalidAcceptanceBinding,line⟩ else .ok ()

def acceptedRecord (command : V) (fingerprint : JsString) (roomId matrixEventId : Option FilledString)
    (acceptedAt : ℤ) : Record V where
  command
  fingerprint
  roomId
  matrixEventId
  status := .accepted
  acceptedAt
  dispatchedAt := none
  terminalAt := none
  terminal := none
  terminalDeliveryEventId := none
  terminalDeliveredAt := none

/-- A later entry of a command, on the record of the command. -/
def transition (record : Record V) (line : ℕ) : Entry V → Except TextError (Record V)
  | .dispatched _ _ dispatchedAt =>
    if record.status ≠ .accepted then .error ⟨.invalidDispatchedTransition,line⟩
    else .ok { record with status := .dispatched, dispatchedAt := some dispatchedAt }
  | .terminal _ _ terminalAt terminal =>
    if record.status = .terminal then .error ⟨.duplicateTerminal,line⟩
    else .ok { record with status := .terminal, terminalAt := some terminalAt, terminal := some terminal }
  | .terminalDelivered _ _ matrixEventId deliveredAt =>
    if record.status ≠ .terminal ∨ record.terminalDeliveryEventId.isSome then
      .error ⟨.invalidTerminalDelivery,line⟩
    else .ok { record with
      terminalDeliveryEventId := some matrixEventId
      terminalDeliveredAt := some deliveredAt }
  | _ => .ok record

def Entry.binding : Entry V → Option (JsString × JsString)
  | dispatched key fingerprint _ => some (key,fingerprint)
  | terminal key fingerprint _ _ => some (key,fingerprint)
  | terminalDelivered key fingerprint _ _ => some (key,fingerprint)
  | _ => none

def readEntry (parsed : Parsed V) (line : ℕ) (entry : Entry V) : Except TextError (Parsed V) :=
  match entry with
  | .journal generation =>
    if 0 < parsed.headerCount then .error ⟨.duplicateHeader,line⟩
    else .ok { parsed with headerCount := parsed.headerCount + 1, generation := some generation }
  | .accepted key fingerprint command roomId matrixEventId acceptedAt =>
    if parsed.records.has key then .error ⟨.duplicateAcceptance,line⟩
    else do
      checkBinding json protocol key fingerprint command line
      let record := acceptedRecord command fingerprint roomId matrixEventId acceptedAt
      .ok { parsed with records := parsed.records.set key record }
  | entry => match entry.binding with
    | none => .ok parsed
    | some (key,fingerprint) => match parsed.records.get key with
      | none => .error ⟨.orphanedTransition,line⟩
      | some record =>
        if record.fingerprint ≠ fingerprint then .error ⟨.orphanedTransition,line⟩
        else do
          let record' ← transition record line entry
          .ok { parsed with records := parsed.records.set key record' }

/-- The loop over the lines, the first of them under this number. Blank lines are skipped. -/
def overLines {σ : Type} (step : σ → ℕ → Entry V → Except TextError σ) (state : σ) (number : ℕ) :
    List (List Char) → Except TextError σ
  | [] => .ok state
  | line :: lines =>
    if isBlank line then overLines step state (number + 1) lines
    else do
      let entry ← readLine json protocol line number
      let next ← step state number entry
      overLines step next (number + 1) lines

structure Journal (V : Type) where
  generation : FilledString
  records : InsertionMap JsString (Record V)

def parseMlp3CommandJournal (text : List Char) : Except TextError (Journal V) := do
  let lines := splitLines text
  let parsed ← overLines json protocol (readEntry json protocol) Parsed.empty 1 lines
  match parsed.generation with
  | none => .error ⟨.missingHeader,lines.length⟩
  | some generation => .ok ⟨generation,parsed.records⟩

def stripReturns (line : List Char) : List Char := (line.reverse.dropWhile (fun c => c = '\r')).reverse

theorem stripReturns_return (line : List Char) : stripReturns (line ++ ['\r']) = stripReturns line := by
  rw [stripReturns,stripReturns,List.reverse_append,List.reverse_singleton,List.singleton_append,
    List.dropWhile_cons,if_pos (by decide)]

/-- The reader on values whose numbers are whole. -/
def wholeJson : JsonReader Json where
  parse line := Json.parse (stripReturns line)
  isObject
    | .obj _ => true
    | _ => false
  field value name := value.field name
  asString
    | .str s => some s
    | _ => none
  asSafeInteger
    | .num n => if n.natAbs < 2 ^ 53 then some n else none
    | _ => none
  asBoolean
    | .bool b => some b
    | _ => none
  text
    | .str s => some s
    | _ => none
  canonicalJson value := some value.canonicalJson
  canonicalStrings strings := Json.canonicalJson (.arr (strings.map .str))
  parse_return line := by rw [stripReturns_return]

end Malink.Gateway.JournalText
