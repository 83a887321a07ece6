import Malink.CommandJournalText
import Malink.KotlinStrings

/-!
# The rows of the command journal

A row holds the command and the terminal as texts; of a delivered command it keeps what later requests are answered
with. A column of text is UTF-8, and is read up to its first NUL.
-/

namespace Malink.Gateway.JournalText

open Outbox

variable {V : Type}

/-- The units of a string written in UTF-8: a surrogate without its other half is U+FFFD. -/
def replacedUnits : List UInt16 → List UInt16
  | [] => []
  | [u] => if Json.isHigh u || Json.isLow u then [0xFFFD] else [u]
  | u :: l :: us =>
    if Json.isHigh u && Json.isLow l then u :: l :: replacedUnits us
    else (if Json.isHigh u || Json.isLow u then 0xFFFD else u) :: replacedUnits (l :: us)

/-- A string that was bound to a column of text, as it is read. -/
def columnText (s : JsString) : JsString := ⟨(replacedUnits s.units).takeWhile (fun u => u ≠ 0)⟩

/-- The same of a text of characters. -/
def columnChars (text : List Char) : List Char := text.takeWhile (fun c => c ≠ '\x00')

theorem replacedUnits_of_scrubUnits : (units : List UInt16) → scrubUnits units = units → replacedUnits units = units
  | [], _ => rfl
  | [u], h => by
    have hu : (Json.isHigh u || Json.isLow u) = false := by
      by_contra hs
      rw [Bool.not_eq_false] at hs
      rw [scrubUnits,if_pos hs,List.singleton_inj] at h
      subst h
      exact absurd hs (by decide)
    rw [replacedUnits,hu]
    rfl
  | u :: l :: us, h => by
    rw [scrubUnits] at h
    rw [replacedUnits]
    split at h
    · next hpair =>
      rw [if_pos hpair,replacedUnits_of_scrubUnits us (List.cons.inj (List.cons.inj h).2).2]
    · next hpair =>
      obtain ⟨hhead,htail⟩ := List.cons.inj h
      have hu : (Json.isHigh u || Json.isLow u) = false := by
        by_contra hs
        rw [Bool.not_eq_false] at hs
        rw [if_pos hs] at hhead
        subst hhead
        exact absurd hs (by decide)
      rw [if_neg hpair,hu,replacedUnits_of_scrubUnits (l :: us) htail]
      rfl

/-- A string without a lone surrogate and without a NUL is read as it was written. -/
theorem columnText_of_wellFormed {s : JsString} (hs : s.wellFormed) (hn : 0 ∉ s.units) : columnText s = s := by
  rw [columnText,replacedUnits_of_scrubUnits s.units (of_decide_eq_true hs),List.takeWhile_eq_self_iff.mpr]
  intro u hu
  rw [decide_eq_true_eq]
  rintro rfl
  exact hn hu

theorem columnChars_of_not_mem {text : List Char} (h : '\x00' ∉ text) : columnChars text = text := by
  refine List.takeWhile_eq_self_iff.mpr fun c hc => ?_
  rw [decide_eq_true_eq]
  rintro rfl
  exact h hc

/-- What the language writes. -/
structure JsonWriter (json : JsonReader V) where
  /-- `JSON.stringify` -/
  stringify : V → List Char
  /-- An object literal. Members that are undefined are not there. -/
  object : List (JsString × Option V) → V
  string : JsString → V
  boolean : Bool → V
  /-- `JSON.parse(JSON.stringify(value))` -/
  rewritten : V → V
  parse_stringify : ∀ v, json.parse (stringify v) = some (rewritten v)
  stringify_ne_nil : ∀ v, stringify v ≠ []
  nul_not_mem_stringify : ∀ v, '\x00' ∉ stringify v
  /-- The canonical text has its control characters and its lone surrogates escaped. -/
  columnText_canonicalStrings : ∀ ss, columnText (json.canonicalStrings ss) = json.canonicalStrings ss
  rewritten_of_finite : ∀ v, (json.canonicalJson v).isSome → rewritten v = v
  /-- A value with a number that is not finite has a text with a capital letter. -/
  finite_of_text : ∀ v s, json.text v = some s → (∀ u ∈ s.units,97 ≤ u.toNat ∧ u.toNat ≤ 122) →
    (json.canonicalJson v).isSome
  isObject_rewritten : ∀ v, json.isObject (rewritten v) = json.isObject v
  field_rewritten : ∀ v name, json.field (rewritten v) name = (json.field v name).map rewritten
  asString_rewritten : ∀ v, json.asString (rewritten v) = json.asString v
  asBoolean_rewritten : ∀ v, json.asBoolean (rewritten v) = json.asBoolean v
  isObject_object : ∀ members, json.isObject (object members)
  field_object : ∀ members name o, (members.map Prod.fst).Nodup → (name,o) ∈ members →
    json.field (object members) name = o
  asString_string : ∀ s, json.asString (string s) = some s
  eq_string : ∀ v s, json.asString v = some s → v = string s
  asBoolean_boolean : ∀ b, json.asBoolean (boolean b) = some b
  eq_boolean : ∀ v b, json.asBoolean v = some b → v = boolean b
  stringField_of_canonical : ∀ v w, (json.canonicalJson v).isSome →
    json.canonicalJson v = json.canonicalJson w → ∀ name, stringField json v name = stringField json w name

variable {json : JsonReader V}

/-- What the schemas of the protocol say of the values they accept. -/
structure Protocol.Lawful (protocol : Protocol V) (writer : JsonWriter json) : Prop where
  commandSchema_idem : ∀ c c', protocol.commandSchema c = some c' → protocol.commandSchema c' = some c'
  operation : ∀ c c', protocol.commandSchema c = some c' → (stringField json c' "operation").isSome
  /-- The operations are lower-case names with dots and underscores. -/
  operation_letters : ∀ c c' s, protocol.commandSchema c = some c' → stringField json c' "operation" = some s →
    ∀ u ∈ s.units, 46 ≤ u.toNat ∧ u.toNat ≤ 122
  sha256_digits : ∀ s, ∀ u ∈ (protocol.sha256 s).units, 48 ≤ u.toNat ∧ u.toNat ≤ 102
  isTerminalEvent_rewritten : ∀ e, protocol.isTerminalEvent e →
    protocol.isTerminalEvent (writer.rewritten e)
  /-- A failed turn and a rejected command have a code and a message, and the latter says whether to retry. -/
  failure : ∀ e payload, protocol.isTerminalEvent e → json.field e "payload" = some payload →
    (stringField json payload "type" = some ("turn.failed" : JsString) ∨
      stringField json payload "type" = some ("command.rejected" : JsString)) →
    (stringField json payload "code").isSome ∧ (stringField json payload "message").isSome
  rejection : ∀ e payload, protocol.isTerminalEvent e → json.field e "payload" = some payload →
    stringField json payload "type" = some ("command.rejected" : JsString) →
    ((json.field payload "retryable").bind json.asBoolean).isSome

variable (writer : JsonWriter json) (protocol : Protocol V)

/-- `terminal.event?.payload` -/
def payloadOf (json : JsonReader V) (terminal : V) : Option V :=
  (json.field terminal "event").bind (fun event => json.field event "payload")

/-- The code, the message and whether to retry. -/
structure TerminalError (V : Type) where
  code : Option V
  message : Option V
  retryable : Option V

def terminalError (payload : Option V) : Option (TerminalError V) :=
  payload.bind fun payload =>
    let error retryable := some ⟨json.field payload "code",json.field payload "message",retryable⟩
    if stringField json payload "type" = some ("turn.failed" : JsString) then error (some (writer.boolean false))
    else if stringField json payload "type" = some ("command.rejected" : JsString) then
      error (json.field payload "retryable")
    else none

def isCancelledTurn (json : JsonReader V) (payload : Option V) : Bool :=
  payload.any fun payload => decide (stringField json payload "type" = some ("turn.completed" : JsString)) &&
    decide (stringField json payload "outcome" = some ("cancelled" : JsString))

def compactMembers (terminal : V) : List (JsString × Option V) :=
  let payload := payloadOf json terminal
  let error := terminalError writer payload
  let reconciled := ((stringField json terminal "reconciledOutcome").filter JsString.truthy).map writer.string
  [("outcome",json.field terminal "outcome"),("eventId",json.field terminal "eventId"),
    ("event",json.field terminal "event"),("sessionId",json.field terminal "sessionId"),
    ("code",(json.field terminal "code").or (error.bind TerminalError.code)),
    ("error",(json.field terminal "error").or (error.bind TerminalError.message)),
    ("reconciledOutcome",if isCancelledTurn json payload then some (writer.string "cancelled") else reconciled),
    ("retryable",(error.map TerminalError.retryable).getD (json.field terminal "retryable"))]

def compactDeliveredTerminal (terminal : V) : V := writer.object (compactMembers writer terminal)

def reconciledCommandOutcome (terminal : V) : Option V :=
  (json.field terminal "reconciledOutcome").or
    (if isCancelledTurn json (payloadOf json terminal) then some (writer.string "cancelled")
    else json.field terminal "outcome")

def reconciledCommandError (terminal : V) (outcome : Option V) : Option (TerminalError V) :=
  let outcome := outcome.bind json.asString
  if outcome = some ("succeeded" : JsString) ∨ outcome = some ("cancelled" : JsString) then none
  -- The source asks for the two payloads of `terminalError` here once more.
  else match terminalError writer (payloadOf json terminal) with
    | some error => some error
    | none =>
      let interrupted := decide (outcome = some ("interrupted" : JsString))
      some {
        code := (json.field terminal "code").or
          (some (writer.string (if interrupted then "execution_interrupted" else "gateway_failed")))
        message := (json.field terminal "error").or
          (some (writer.string (if interrupted then
            "The Gateway restarted after dispatch. The command was not executed again."
          else "The Gateway recorded this command as failed.")))
        retryable := (json.field terminal "retryable").or (some (writer.boolean interrupted)) }

/-- A row as it is read. -/
structure CommandRow where
  commandKey : JsString
  fingerprint : JsString
  operation : JsString
  commandJson : Option (List Char)
  roomId : Option JsString
  sourceMatrixEventId : Option JsString
  status : Status
  acceptedAt : ℤ
  dispatchedAt : Option ℤ
  terminalAt : Option ℤ
  terminalJson : Option (List Char)
  terminalDeliveryEventId : Option JsString
  terminalDeliveredAt : Option ℤ

def CommandRow.checked (row : CommandRow) : Bool :=
  (decide (row.status ≠ .dispatched) || row.dispatchedAt.isSome) &&
    (decide (row.status ≠ .terminal) || (row.terminalAt.isSome && row.terminalJson.isSome)) &&
    decide (row.terminalDeliveryEventId.isNone = row.terminalDeliveredAt.isNone)

structure Database where
  generation : JsString
  commands : InsertionMap JsString CommandRow

inductive MigrationError
  | journal (error : TextError)
  | missingOperation
  | duplicateKey
  | checkFailed
  deriving DecidableEq

def insertRow (commands : InsertionMap JsString CommandRow) (row : CommandRow) :
    Except MigrationError (InsertionMap JsString CommandRow) :=
  if commands.has row.commandKey then .error .duplicateKey
  else if !row.checked then .error .checkFailed
  else .ok (commands.set row.commandKey row)

/-- The row of a record. Of a delivered command only a deletion of a project is kept. -/
def migratedRow (migratedAt : ℤ) (key : JsString) (record : Record V) (operation : JsString) : CommandRow :=
  let delivered := record.terminalDeliveryEventId.isSome
  let terminal := record.terminal.map fun terminal =>
    if delivered then compactDeliveredTerminal writer terminal else terminal
  { commandKey := columnText key
    fingerprint := columnText record.fingerprint
    operation := columnText operation
    commandJson :=
      if delivered ∧ operation ≠ "project.delete" then none
      else some (columnChars (writer.stringify record.command))
    roomId := record.roomId.map (fun s => columnText s.1)
    sourceMatrixEventId := record.matrixEventId.map (fun s => columnText s.1)
    status := record.status
    acceptedAt := record.acceptedAt
    dispatchedAt := record.dispatchedAt
    terminalAt := record.terminalAt
    terminalJson := terminal.map (fun t => columnChars (writer.stringify t))
    terminalDeliveryEventId := record.terminalDeliveryEventId.map (fun s => columnText s.1)
    terminalDeliveredAt := record.terminalDeliveredAt.or (if delivered then some migratedAt else none) }

def migrateRecords (migratedAt : ℤ) (commands : InsertionMap JsString CommandRow) :
    List (JsString × Record V) → Except MigrationError (InsertionMap JsString CommandRow)
  | [] => .ok commands
  | (key,record) :: records => match stringField json record.command "operation" with
    | none => .error .missingOperation
    | some operation => do
      let commands' ← insertRow commands (migratedRow writer migratedAt key record operation)
      migrateRecords migratedAt commands' records

def migrateLegacy (text : List Char) (migratedAt : ℤ) : Except MigrationError Database :=
  match parseMlp3CommandJournal json protocol text with
  | .error error => .error (.journal error)
  | .ok parsed => do
    let commands ← migrateRecords writer migratedAt .empty parsed.records.entries
    .ok ⟨columnText parsed.generation,commands⟩

inductive RowError
  | noCommand
  | invalidCommand
  | invalidBinding
  | invalidTerminalBinding
  | invalidTerminal
  | invalidCommandJson
  | invalidTerminalJson
  | nonFiniteNumber
  | unprintableOutcome
  deriving DecidableEq

def RowError.message : RowError → JsString
  | noCommand => "SQLite MLP/3 command journal has no valid command payload"
  -- The text of the schema's own error is not modelled.
  | invalidCommand => ""
  | invalidBinding => "SQLite MLP/3 command journal command binding is invalid"
  | invalidTerminalBinding => "SQLite MLP/3 command journal has an invalid terminal binding"
  | invalidTerminal => "SQLite MLP/3 command journal has an invalid terminal payload"
  | invalidCommandJson => "SQLite MLP/3 command journal has invalid command JSON"
  | invalidTerminalJson => "SQLite MLP/3 command journal has invalid terminal JSON"
  | nonFiniteNumber => "Canonical JSON cannot encode non-finite numbers"
  | unprintableOutcome => "Cannot convert object to primitive value"

variable (json)

def parseTerminal (text : List Char) : Except RowError V :=
  match json.parse text with
  | none => .error .invalidTerminalJson
  | some value => match isMlp3CommandTerminal json protocol value with
    | none => .error .unprintableOutcome
    | some false => .error .invalidTerminal
    | some true => .ok value

/-- `row.command_json ? … : fallbackCommand` -/
def rowCommand (row : CommandRow) (fallbackCommand : Option V) : Except RowError V :=
  match row.commandJson.filter (fun text => !text.isEmpty), fallbackCommand with
  | some text, _ => match json.parse text with
    | none => .error .invalidCommandJson
    | some value => match protocol.commandSchema value with
      | none => .error .invalidCommand
      | some command => .ok command
  | none, some command => .ok command
  | none, none => .error .noCommand

def rowTerminal (row : CommandRow) : Except RowError (Option V) :=
  match row.terminalJson.filter (fun text => !text.isEmpty) with
  | none => .ok none
  | some text => (parseTerminal json protocol text).map some

/-- `value ? { name: value } : {}` -/
def filled (value : Option JsString) : Option FilledString :=
  value.bind fun s => if h : s.truthy then some ⟨s,h⟩ else none

def rowToRecord (row : CommandRow) (fallbackCommand : Option V) : Except RowError (Record V) := do
  let command ← rowCommand json protocol row fallbackCommand
  if mlp3CommandKey json command ≠ row.commandKey then .error .noCommand
  else match mlp3CommandFingerprint json protocol command with
    | none => .error .nonFiniteNumber
    | some fingerprint =>
      if fingerprint ≠ row.fingerprint ∨ stringField json command "operation" ≠ some row.operation then
        .error .invalidBinding
      else do
        let terminal ← rowTerminal json protocol row
        if decide (row.status = .terminal) ≠ terminal.isSome then .error .invalidTerminalBinding
        else .ok {
          command
          fingerprint := row.fingerprint
          roomId := filled row.roomId
          matrixEventId := filled row.sourceMatrixEventId
          status := row.status
          acceptedAt := row.acceptedAt
          dispatchedAt := row.dispatchedAt
          terminalAt := row.terminalAt
          terminal
          terminalDeliveryEventId := filled row.terminalDeliveryEventId
          terminalDeliveredAt := row.terminalDeliveredAt }

/-- A string of a record after its column. -/
def fromColumn (value : Option FilledString) : Option FilledString := filled (value.map (fun s => columnText s.1))

/-- The record with the strings of its source and its delivery read from their columns. -/
def Record.inColumns (record : Record V) : Record V :=
  { record with
    roomId := fromColumn record.roomId
    matrixEventId := fromColumn record.matrixEventId
    terminalDeliveryEventId := fromColumn record.terminalDeliveryEventId }

inductive ClaimDecision (V : Type)
  | accepted
  | duplicate (record : Record V)
  | conflict

/-- `none` where the command is not valid. -/
def checkedCommand (command : V) : Option (V × JsString) :=
  (protocol.commandSchema command).bind fun command =>
    (mlp3CommandFingerprint json protocol command).map fun fingerprint => (command,fingerprint)

def Journal.claim (journal : Journal V) (command : V) : Option (ClaimDecision V) :=
  (checkedCommand json protocol command).map fun (command,fingerprint) =>
    match journal.records.get (mlp3CommandKey json command) with
    | none => .accepted
    | some record => if record.fingerprint ≠ fingerprint then .conflict else .duplicate record

def Database.claim (database : Database) (command : V) : Option (Except RowError (ClaimDecision V)) :=
  (checkedCommand json protocol command).map fun (command,fingerprint) =>
    match database.commands.get (mlp3CommandKey json command) with
    | none => .ok .accepted
    | some row =>
      if row.fingerprint ≠ fingerprint then .ok .conflict
      else (rowToRecord json protocol row (some command)).map .duplicate

def Journal.unfinished (journal : Journal V) : List (Record V) :=
  journal.records.values.filter (fun record => decide (record.status ≠ .terminal))

def Record.hasEvent (record : Record V) : Bool :=
  record.terminal.any (fun terminal => (json.field terminal "event").isSome)

def Journal.pendingTerminalDeliveries (journal : Journal V) : List (Record V) :=
  journal.records.values.filter (fun record => decide (record.status = .terminal) && record.hasEvent json &&
    record.terminalDeliveryEventId.isNone)

def codePoints : List UInt16 → List ℕ
  | [] => []
  | [u] => [u.toNat]
  | u :: v :: us =>
    if Json.isHigh u && Json.isLow v then
      (0x10000 + (u.toNat - 0xD800) * 0x400 + (v.toNat - 0xDC00)) :: codePoints us
    else u.toNat :: codePoints (v :: us)

def keyAtMost (r s : CommandRow) : Prop := codePoints r.commandKey.units ≤ codePoints s.commandKey.units

instance (r s : CommandRow) : Decidable (keyAtMost r s) := inferInstanceAs (Decidable (_ ≤ _))

/-- `ORDER BY accepted_at, command_key` -/
def acceptedBefore (r s : CommandRow) : Prop := r.acceptedAt < s.acceptedAt ∨ r.acceptedAt = s.acceptedAt ∧ keyAtMost r s

/-- `ORDER BY terminal_at, command_key`. The rows have a terminal time. -/
def settledBefore (r s : CommandRow) : Prop :=
  r.terminalAt.getD 0 < s.terminalAt.getD 0 ∨ r.terminalAt.getD 0 = s.terminalAt.getD 0 ∧ keyAtMost r s

instance (r s : CommandRow) : Decidable (acceptedBefore r s) := inferInstanceAs (Decidable (_ ∨ _))

instance (r s : CommandRow) : Decidable (settledBefore r s) := inferInstanceAs (Decidable (_ ∨ _))

def Database.unfinished (database : Database) : Except RowError (List (Record V)) :=
  ((database.commands.values.filter (fun row => decide (row.status ≠ .terminal))).insertionSort
    acceptedBefore).mapM (fun row => rowToRecord json protocol row none)

def Database.pendingTerminalDeliveries (database : Database) : Except RowError (List (Record V)) :=
  ((database.commands.values.filter (fun row => decide (row.status = .terminal) &&
    row.terminalDeliveryEventId.isNone && row.terminalJson.isSome)).insertionSort
      settledBefore).mapM (fun row => rowToRecord json protocol row none)

end Malink.Gateway.JournalText
