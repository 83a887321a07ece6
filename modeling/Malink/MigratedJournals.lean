import Malink.JournalMigration

/-!
# A migrated journal answers as the journal did

Each record of an accepted text becomes one row, and the row reads back, the strings of the source and the delivery as
their columns give them. Both journals then decide a claim in the same way, and leave the same commands to the
recovery.
-/

namespace Malink.Gateway.JournalText

open Outbox List InsertionMap Option JsString

variable {V : Type} {json : JsonReader V} {protocol : Protocol V} {writer : JsonWriter json}

structure Record.Valid (json : JsonReader V) (protocol : Protocol V) (key : JsString) (record : Record V) : Prop where
  key_eq : mlp3CommandKey json record.command = key
  fingerprint_eq : mlp3CommandFingerprint json protocol record.command = some record.fingerprint
  schema : ∃ c, protocol.commandSchema c = some record.command
  dispatchedAt : record.status = .dispatched → record.dispatchedAt.isSome
  terminal_isSome : record.terminal.isSome = decide (record.status = .terminal)
  terminalAt : record.terminalAt.isSome = record.terminal.isSome
  terminal : ∀ t, record.terminal = some t → ValidTerminal json protocol t
  delivered : record.terminalDeliveryEventId.isSome → record.status = .terminal
  deliveredAt : record.terminalDeliveredAt.isSome = record.terminalDeliveryEventId.isSome

def Entry.Valid (json : JsonReader V) (protocol : Protocol V) : Entry V → Prop
  | .accepted _ _ command _ _ _ => ∃ c, protocol.commandSchema c = some command
  | .terminal _ _ _ outcome => ValidTerminal json protocol outcome
  | _ => True

variable {entry : Entry V} {key fingerprint : JsString} {line : ℕ} {record : Record V}

private theorem parseBoundEntry_valid {value : V} {kind : Option JsString}
    (h : parseBoundEntry json protocol value kind key fingerprint line = .ok entry) : entry.Valid json protocol := by
  unfold parseBoundEntry at h
  split at h
  · cases ha : integerField json value "acceptedAt" with
    | none => simp [ha] at h
    | some acceptedAt =>
      cases hc : (json.field value "command").bind protocol.commandSchema with
      | none => simp [ha,hc] at h
      | some command =>
        simp only [ha,hc] at h
        cases h
        obtain ⟨c,-,hschema⟩ := bind_eq_some_iff.mp hc
        exact ⟨c,hschema⟩
  · split at h
    · cases hd : integerField json value "dispatchedAt" with
      | none => simp [hd] at h
      | some dispatchedAt =>
        simp only [hd] at h
        cases h
        trivial
    · split at h
      · cases ht : integerField json value "terminalAt" with
        | none => simp [ht] at h
        | some terminalAt =>
          cases ho : json.field value "terminal" with
          | none => simp [ht,ho] at h
          | some outcome =>
            rcases hi : isMlp3CommandTerminal json protocol outcome with _ | _ | _
            · simp [ht,ho,hi] at h
            · simp [ht,ho,hi] at h
            · simp only [ht,ho,hi] at h
              cases h
              exact isMlp3CommandTerminal_iff.mp hi
      · split at h
        · cases hd : integerField json value "deliveredAt" with
          | none => simp [hd] at h
          | some deliveredAt =>
            cases hm : filledField json value "matrixEventId" with
            | none => simp [hd,hm] at h
            | some matrixEventId =>
              simp only [hd,hm] at h
              cases h
              trivial
        · cases h

theorem readLine_valid {line : List Char} {number : ℕ} (h : readLine json protocol line number = .ok entry) :
    entry.Valid json protocol := by
  unfold readLine at h
  cases hp : json.parse line with
  | none => simp [hp] at h
  | some value =>
    simp only [hp,parseMlp3CommandJournalEntry] at h
    split at h
    · cases h
    split at h
    · cases h
    split at h
    · cases hg : filledField json value "generation" with
      | none => simp [hg] at h
      | some generation =>
        simp only [hg] at h
        cases h
        trivial
    · cases hkey : filledField json value "key" with
      | none => simp [hkey] at h
      | some key =>
        cases hf : filledField json value "fingerprint" with
        | none => simp [hkey,hf] at h
        | some fingerprint =>
          simp only [hkey,hf] at h
          exact parseBoundEntry_valid h

/-- What every step of a loop keeps, the loop keeps. -/
theorem overLines_invariant {σ : Type} {step : σ → ℕ → Entry V → Except TextError σ} {P : σ → Prop}
    (hstep : ∀ state state' line entry,entry.Valid json protocol → step state line entry = .ok state' →
      P state → P state') {lines : List (List Char)} {state state' : σ} {number : ℕ}
    (h : overLines json protocol step state number lines = .ok state') (hp : P state) : P state' := by
  induction lines generalizing state number with
  | nil =>
    cases h
    exact hp
  | cons line lines ih =>
    rcases overLines_cons h with ⟨-,h⟩ | ⟨-,entry,next,hentry,hnext,h⟩
    · exact ih h hp
    · exact ih h (hstep state next number entry (readLine_valid hentry) hnext hp)

theorem checkBinding_eq_ok {command : V} {u : Unit}
    (h : checkBinding json protocol key fingerprint command line = .ok u) :
    mlp3CommandKey json command = key ∧ mlp3CommandFingerprint json protocol command = some fingerprint := by
  unfold checkBinding at h
  split at h
  · cases h
  · next hkey =>
    refine ⟨(not_not.mp hkey).symm,?_⟩
    cases he : mlp3CommandFingerprint json protocol command with
    | none => simp [he] at h
    | some expected =>
      simp only [he] at h
      split at h
      · cases h
      · next hf => rw [not_not.mp hf]

def Parsed.Valid (json : JsonReader V) (protocol : Protocol V) (parsed : Parsed V) : Prop :=
  ∀ key record, parsed.records.get key = some record → record.Valid json protocol key

theorem Parsed.Valid.set {parsed : Parsed V} (h : parsed.Valid json protocol) (hr : record.Valid json protocol key) :
    Parsed.Valid json protocol { parsed with records := parsed.records.set key record } := by
  intro key' record' hget
  rw [get_set] at hget
  split at hget
  · next hk =>
    cases hget
    exact hk ▸ hr
  · exact h key' record' hget

theorem transition_valid {record' : Record V} (hr : record.Valid json protocol key) (he : entry.Valid json protocol)
    (h : transition record line entry = .ok record') : record'.Valid json protocol key := by
  cases entry with
  | journal | accepted =>
    cases h
    exact hr
  | dispatched key fingerprint dispatchedAt =>
    simp only [transition] at h
    split at h
    · cases h
    · next hs =>
      cases h
      have hs : record.status = .accepted := not_not.mp hs
      have hnone : record.terminal.isSome = false := by rw [hr.terminal_isSome,hs]; rfl
      exact { hr with
        dispatchedAt := fun _ => rfl
        terminal_isSome := hnone
        delivered := fun hd => by
          have := hr.delivered hd
          rw [hs] at this
          cases this }
  | terminal key fingerprint terminalAt outcome =>
    simp only [transition] at h
    split at h
    · cases h
    · cases h
      exact { hr with
        dispatchedAt := fun hs => by cases hs
        terminal_isSome := rfl
        terminalAt := rfl
        terminal := fun t ht => by
          cases ht
          exact he
        delivered := fun _ => rfl }
  | terminalDelivered key fingerprint matrixEventId deliveredAt =>
    simp only [transition] at h
    split at h
    · cases h
    · next hs =>
      cases h
      have hs : record.status = .terminal := not_not.mp (not_or.mp hs).1
      exact { hr with
        delivered := fun _ => hs
        deliveredAt := rfl }

theorem readEntry_valid {parsed parsed' : Parsed V} (he : entry.Valid json protocol)
    (h : readEntry json protocol parsed line entry = .ok parsed') (hp : parsed.Valid json protocol) :
    parsed'.Valid json protocol := by
  have hbound {key fingerprint : JsString} (hb : entry.binding = some (key,fingerprint)) :
      parsed'.Valid json protocol := by
    obtain ⟨record,record',hget,ht,rfl⟩ := Follows.readEntry_bound hb h
    exact hp.set (transition_valid (hp key record hget) he ht)
  cases entry with
  | journal generation =>
    simp only [readEntry] at h
    split at h
    · cases h
    · cases h
      exact hp
  | accepted key fingerprint command roomId matrixEventId acceptedAt =>
    simp only [readEntry] at h
    split at h
    · cases h
    · obtain ⟨_,hb,h⟩ := bind_eq_ok.mp h
      cases h
      obtain ⟨hkey,hfingerprint⟩ := checkBinding_eq_ok hb
      exact hp.set {
        key_eq := hkey
        fingerprint_eq := hfingerprint
        schema := he
        dispatchedAt := fun hs => by cases hs
        terminal_isSome := rfl
        terminalAt := rfl
        terminal := fun t ht => by cases ht
        delivered := fun hd => by cases hd
        deliveredAt := rfl }
  | dispatched | terminal | terminalDelivered => exact hbound rfl

variable {text : List Char}

theorem parse_valid {journal : Journal V} (h : parseMlp3CommandJournal json protocol text = .ok journal) :
    ∀ key record, journal.records.get key = some record → record.Valid json protocol key := by
  obtain ⟨parsed,hrun,h⟩ := bind_eq_ok.mp h
  have hvalid := overLines_invariant (P := Parsed.Valid json protocol)
    (fun _ _ _ _ he hstep hp => readEntry_valid he hstep hp) hrun (fun key record hget => by cases hget)
  cases hg : parsed.generation with
  | none => simp [hg] at h
  | some generation =>
    simp only [hg] at h
    cases h
    exact hvalid

def migratedTerminal (writer : JsonWriter json) (record : Record V) : Option V :=
  record.terminal.map fun t => writer.rewritten
    (if record.terminalDeliveryEventId.isSome then compactDeliveredTerminal writer t else t)

/-- A string without a lone surrogate and without a NUL comes back from its column. -/
theorem fromColumn_of_wellFormed {s : FilledString} (hs : s.1.wellFormed) (hn : 0 ∉ s.1.units) :
    fromColumn (some s) = some s := by
  rw [fromColumn,map_some,columnText_of_wellFormed hs hn]
  exact dif_pos s.2

theorem columnText_of_ascii {s : JsString} (h : ∀ u ∈ s.units,0 < u.toNat ∧ u.toNat < 128) : columnText s = s := by
  refine columnText_of_wellFormed (wellFormed_of_plain fun u hu => ?_) fun hn => ?_
  · exact not_surrogate_of_lt (by have := (h u hu).2; omega)
  · exact absurd (h 0 hn).1 (by decide)

/-- What a record is bound by, its columns give back. -/
theorem Record.Valid.columns (hl : protocol.Lawful writer) (hr : record.Valid json protocol key) :
    columnText key = key ∧ columnText record.fingerprint = record.fingerprint ∧
      ∀ operation, stringField json record.command "operation" = some operation → columnText operation = operation := by
  refine ⟨?_,?_,fun operation ho => ?_⟩
  · rw [← hr.key_eq]
    exact writer.columnText_canonicalStrings _
  · obtain ⟨text,-,htext⟩ := map_eq_some_iff.mp hr.fingerprint_eq
    rw [← htext]
    refine columnText_of_ascii fun u hu => ?_
    rcases mem_append.mp hu with hu | hu
    · have hall : ("v3:" : JsString).units.all (fun u => 0 < u.toNat && u.toNat < 128) := by decide
      simpa using List.all_eq_true.mp hall u hu
    · have := hl.sha256_digits _ u hu
      omega
  · obtain ⟨c,hc⟩ := hr.schema
    refine columnText_of_ascii fun u hu => ?_
    have := hl.operation_letters c _ operation hc ho u hu
    omega

theorem columnChars_stringify (v : V) : columnChars (writer.stringify v) = writer.stringify v :=
  columnChars_of_not_mem (writer.nul_not_mem_stringify v)

theorem filter_stringify (v : V) :
    (some (columnChars (writer.stringify v))).filter (fun text => !text.isEmpty) = some (writer.stringify v) := by
  rw [columnChars_stringify,filter_some,if_pos]
  rw [Bool.not_eq_true',isEmpty_eq_false_iff]
  exact writer.stringify_ne_nil v

theorem parseTerminal_stringify (hl : protocol.Lawful writer) {t : V} (hv : ValidTerminal json protocol t) :
    parseTerminal json protocol (writer.stringify t) = .ok (writer.rewritten t) := by
  rw [parseTerminal,writer.parse_stringify]
  simp only [isMlp3CommandTerminal_iff.mpr (hv.rewritten hl)]

theorem rowTerminal_migrated (hl : protocol.Lawful writer)
    (hr : record.Valid json protocol key) (migratedAt : ℤ) (operation : JsString) :
    rowTerminal json protocol (migratedRow writer migratedAt key record operation) =
      .ok (migratedTerminal writer record) := by
  rw [rowTerminal,migratedRow,migratedTerminal]
  cases ht : record.terminal with
  | none => rfl
  | some t =>
    have hv : ValidTerminal json protocol
        (if record.terminalDeliveryEventId.isSome then compactDeliveredTerminal writer t else t) := by
      split
      · exact (hr.terminal t ht).compact hl
      · exact hr.terminal t ht
    simp only [map_some,filter_stringify,parseTerminal_stringify hl hv]
    rfl

/-- A command that stands for the command of a record: its own, or the one a claim brings. -/
structure Stands (json : JsonReader V) (protocol : Protocol V) (key operation : JsString) (record : Record V)
    (c : V) : Prop where
  key_eq : mlp3CommandKey json c = key
  fingerprint_eq : mlp3CommandFingerprint json protocol c = some record.fingerprint
  operation_eq : stringField json c "operation" = some operation
  recorded : stringField json record.command "operation" = some operation

theorem canonicalJson_isSome {c : V}
    (h : mlp3CommandFingerprint json protocol c = some fingerprint) : (json.canonicalJson c).isSome := by
  obtain ⟨text,htext,-⟩ := map_eq_some_iff.mp h
  rw [htext]
  rfl

variable {operation : JsString}

section

variable (hl : protocol.Lawful writer)
include hl

/-- The command of a row: what was written, or else the command of the claim. -/
theorem rowCommand_migrated
    (hr : record.Valid json protocol key) (migratedAt : ℤ) (operation : JsString) (fallback : Option V) :
    rowCommand json protocol (migratedRow writer migratedAt key record operation) fallback =
      if record.terminalDeliveryEventId.isSome ∧ operation ≠ "project.delete" then
        match fallback with
        | some c => .ok c
        | none => .error .noCommand
      else .ok record.command := by
  have hjson : (migratedRow writer migratedAt key record operation).commandJson =
      if record.terminalDeliveryEventId.isSome ∧ operation ≠ "project.delete" then none
      else some (columnChars (writer.stringify record.command)) := rfl
  unfold rowCommand
  by_cases hdropped : record.terminalDeliveryEventId.isSome ∧ operation ≠ "project.delete"
  · rw [if_pos hdropped,hjson,if_pos hdropped]
    cases fallback <;> rfl
  · obtain ⟨c,hc⟩ := hr.schema
    have hfinite := canonicalJson_isSome hr.fingerprint_eq
    rw [if_neg hdropped,hjson,if_neg hdropped,filter_stringify]
    simp only [writer.parse_stringify,writer.rewritten_of_finite _ hfinite,hl.commandSchema_idem c _ hc]

theorem rowToRecord_migrated (hr : record.Valid json protocol key) (migratedAt : ℤ) {fallback : Option V} {c : V}
    (hc : rowCommand json protocol (migratedRow writer migratedAt key record operation) fallback = .ok c)
    (hs : Stands json protocol key operation record c) :
    rowToRecord json protocol (migratedRow writer migratedAt key record operation) fallback =
      .ok { record.inColumns with command := c, terminal := migratedTerminal writer record } := by
  have hstatus : ¬ decide ((migratedRow writer migratedAt key record operation).status = .terminal) ≠
      (migratedTerminal writer record).isSome := by
    rw [not_not,migratedTerminal,isSome_map,hr.terminal_isSome]
    rfl
  have hdelivered : record.terminalDeliveredAt.or
      (if record.terminalDeliveryEventId.isSome = true then some migratedAt else none) = record.terminalDeliveredAt := by
    have hiff := hr.deliveredAt
    cases hd : record.terminalDeliveredAt with
    | some at' => rfl
    | none =>
      rw [hd] at hiff
      rw [← hiff]
      rfl
  obtain ⟨hcolumn,hfingerprint,hoperation⟩ := hr.columns hl
  have hkey : ¬ mlp3CommandKey json c ≠ (migratedRow writer migratedAt key record operation).commandKey :=
    not_not_intro (hs.key_eq.trans hcolumn.symm)
  have hbinding : ¬ (record.fingerprint ≠ (migratedRow writer migratedAt key record operation).fingerprint ∨
      stringField json c "operation" ≠ some (migratedRow writer migratedAt key record operation).operation) :=
    not_or_intro (not_not_intro hfingerprint.symm)
      (not_not_intro (hs.operation_eq.trans (congrArg some (hoperation operation hs.recorded).symm)))
  rw [rowToRecord,hc,ok_bind,if_neg hkey,hs.fingerprint_eq]
  simp only [if_neg hbinding,rowTerminal_migrated hl hr,ok_bind]
  rw [if_neg hstatus]
  simp only [migratedRow,Record.inColumns,fromColumn,hdelivered,hfingerprint]

/-- A record read back: but for the strings of its columns, only the order of the members of the command and the text
of the terminal may differ. -/
structure SameRecord (writer : JsonWriter json) (r r' : Record V) : Prop where
  command : json.canonicalJson r'.command = json.canonicalJson r.command
  rest : r' = { r.inColumns with command := r'.command, terminal := r'.terminal }
  terminal : Option.Rel (SameTerminal writer writer.rewritten) r.terminal r'.terminal

theorem migratedTerminal_same (hr : record.Valid json protocol key) :
    Option.Rel (SameTerminal writer writer.rewritten) record.terminal (migratedTerminal writer record) := by
  rw [migratedTerminal]
  cases ht : record.terminal with
  | none => exact .none
  | some t =>
    have hv := hr.terminal t ht
    refine .some ?_
    split
    · exact (sameTerminal_compact hv).trans (sameTerminal_rewritten (hv.compact hl) hl)
    · exact sameTerminal_rewritten hv hl

def readBack (writer : JsonWriter json) (record : Record V) : Record V :=
  { record.inColumns with terminal := migratedTerminal writer record }

theorem sameRecord_readBack (hr : record.Valid json protocol key) : SameRecord writer record (readBack writer record) :=
  ⟨rfl,rfl,migratedTerminal_same hl hr⟩

theorem hasEvent_readBack
    (hr : record.Valid json protocol key) : (readBack writer record).hasEvent json = record.hasEvent json := by
  have hsame := migratedTerminal_same hl hr
  rw [Record.hasEvent,Record.hasEvent,readBack]
  revert hsame
  generalize migratedTerminal writer record = terminal'
  intro hsame
  cases ht : record.terminal with
  | none =>
    rw [ht] at hsame
    cases hsame
    rfl
  | some t =>
    rw [ht] at hsame
    cases hsame with
    | some h => simp only [any_some,h.event,isSome_map]

def operationOf (json : JsonReader V) (record : Record V) : JsString :=
  (stringField json record.command "operation").getD ""

theorem operationOf_eq (hr : record.Valid json protocol key) :
    stringField json record.command "operation" = some (operationOf json record) := by
  obtain ⟨c,hc⟩ := hr.schema
  obtain ⟨operation,ho⟩ := isSome_iff_exists.mp (hl.operation c _ hc)
  rw [operationOf,ho]
  rfl

theorem stands_self (hr : record.Valid json protocol key) :
    Stands json protocol key (operationOf json record) record record.command :=
  ⟨hr.key_eq,hr.fingerprint_eq,operationOf_eq hl hr,operationOf_eq hl hr⟩

def rowOf (writer : JsonWriter json) (migratedAt : ℤ) (e : JsString × Record V) : CommandRow :=
  migratedRow writer migratedAt e.1 e.2 (operationOf json e.2)

variable {e : JsString × Record V}

/-- A row reads back as its record where the command of the record is at hand. -/
theorem rowToRecord_rowOf (hr : e.2.Valid json protocol e.1) (migratedAt : ℤ) {c : V}
    (hs : Stands json protocol e.1 (operationOf json e.2) e.2 c)
    (hc : json.canonicalJson c = json.canonicalJson e.2.command) :
    ∃ record, rowToRecord json protocol (rowOf writer migratedAt e) (some c) = .ok record ∧
      SameRecord writer e.2 record := by
  have hcommand := rowCommand_migrated hl hr migratedAt (operationOf json e.2) (some c)
  split at hcommand
  · exact ⟨_,rowToRecord_migrated hl hr migratedAt hcommand hs,hc,rfl,migratedTerminal_same hl hr⟩
  · exact ⟨_,rowToRecord_migrated hl hr migratedAt hcommand (stands_self hl hr),rfl,rfl,migratedTerminal_same hl hr⟩

theorem rowToRecord_undelivered (hr : e.2.Valid json protocol e.1) (migratedAt : ℤ)
    (hd : e.2.terminalDeliveryEventId.isSome = false) :
    rowToRecord json protocol (rowOf writer migratedAt e) none = .ok (readBack writer e.2) := by
  have hcommand := rowCommand_migrated hl hr migratedAt (operationOf json e.2) none
  rw [if_neg (fun h => by rw [hd] at h; cases h.1)] at hcommand
  exact rowToRecord_migrated hl hr migratedAt hcommand (stands_self hl hr)

end

theorem checked_migratedRow (hr : record.Valid json protocol key) (migratedAt : ℤ) :
    (migratedRow writer migratedAt key record operation).checked := by
  have hdispatched : (decide (record.status ≠ .dispatched) || record.dispatchedAt.isSome) := by
    rw [Bool.or_eq_true,decide_eq_true_eq]
    exact Decidable.or_iff_not_imp_left.mpr (fun h => hr.dispatchedAt (not_not.mp h))
  have hterminal : (decide (record.status ≠ .terminal) || (record.terminalAt.isSome && record.terminal.isSome)) =
      true := by
    rw [hr.terminalAt,hr.terminal_isSome,Bool.and_self,decide_not,Bool.not_or_self]
  have hdelivered : record.terminalDeliveryEventId.isNone = (record.terminalDeliveredAt.or
      (if record.terminalDeliveryEventId.isSome = true then some migratedAt else none)).isNone := by
    have hiff := hr.deliveredAt
    cases hi : record.terminalDeliveryEventId with
    | none =>
      rw [hi] at hiff
      cases hat : record.terminalDeliveredAt with
      | none => rfl
      | some at' =>
        rw [hat] at hiff
        cases hiff
    | some id => cases record.terminalDeliveredAt <;> rfl
  simp only [CommandRow.checked,migratedRow,isSome_map,isNone_map,← hdelivered,decide_true,Bool.and_true]
  exact Bool.and_eq_true_iff.mpr ⟨hdispatched,hterminal⟩

theorem migrateRecords_ok (hl : protocol.Lawful writer) (migratedAt : ℤ) {entries : List (JsString × Record V)}
    (commands : InsertionMap JsString CommandRow) (hvalid : ∀ e ∈ entries,e.2.Valid json protocol e.1)
    (hnodup : (entries.map Prod.fst).Nodup) (hnew : ∀ e ∈ entries,e.1 ∉ commands.keys) :
    ∃ commands', migrateRecords writer migratedAt commands entries = .ok commands' ∧
      commands'.entries = commands.entries ++ entries.map (fun e => (e.1,rowOf writer migratedAt e)) := by
  induction entries generalizing commands with
  | nil => exact ⟨commands,rfl,(append_nil _).symm⟩
  | cons e entries ih =>
    obtain ⟨key,record⟩ := e
    have hr : record.Valid json protocol key := hvalid _ mem_cons_self
    have hkey : key ∉ commands.keys := hnew _ mem_cons_self
    have hcolumn : (rowOf writer migratedAt (key,record)).commandKey = key := (hr.columns hl).1
    have hinsert : insertRow commands (rowOf writer migratedAt (key,record)) =
        .ok (commands.set key (rowOf writer migratedAt (key,record))) := by
      have hhas : ¬ commands.has (rowOf writer migratedAt (key,record)).commandKey := by
        rw [hcolumn]
        exact fun h => hkey (has_iff_mem_keys.mp h)
      rw [insertRow,if_neg hhas,hcolumn,rowOf,checked_migratedRow hr]
      rfl
    obtain ⟨hfirst,hnodup⟩ := nodup_cons.mp hnodup
    obtain ⟨commands',hmigrate,hentries⟩ := ih (commands.set key (rowOf writer migratedAt (key,record)))
      (fun e he => hvalid e (mem_cons_of_mem _ he)) hnodup (fun e he hmem => by
        rcases mem_keys_set.mp hmem with hk | hmem
        · exact hfirst (mem_map.mpr ⟨e,he,hk⟩)
        · exact hnew e (mem_cons_of_mem _ he) hmem)
    refine ⟨commands',?_,?_⟩
    · rw [migrateRecords,operationOf_eq hl hr]
      exact bind_eq_ok.mpr ⟨_,hinsert,hmigrate⟩
    · rw [hentries,entries_set_of_not_mem _ hkey,append_assoc,map_cons,singleton_append]

theorem migrateLegacy_ok (hl : protocol.Lawful writer) {journal : Journal V}
    (h : parseMlp3CommandJournal json protocol text = .ok journal) (migratedAt : ℤ) :
    ∃ database, migrateLegacy writer protocol text migratedAt = .ok database ∧
      database.generation = columnText journal.generation ∧
      database.commands.entries = journal.records.entries.map (fun e => (e.1,rowOf writer migratedAt e)) := by
  have hvalid := parse_valid h
  obtain ⟨commands,hmigrate,hentries⟩ := migrateRecords_ok hl migratedAt .empty
    (fun e he => hvalid e.1 e.2 (get_eq_some.mpr he)) journal.records.nodup_keys
    (fun e _ hmem => by cases hmem)
  refine ⟨⟨columnText journal.generation,commands⟩,?_,rfl,hentries⟩
  rw [migrateLegacy,h]
  exact bind_eq_ok.mpr ⟨commands,hmigrate,rfl⟩

section answers

variable {journal : Journal V} {database : Database} {migratedAt : ℤ}

section

variable (hentries : database.commands.entries = journal.records.entries.map (fun e => (e.1,rowOf writer migratedAt e)))
include hentries

theorem get_migrated (key : JsString) :
    database.commands.get key = (journal.records.get key).map (fun record => rowOf writer migratedAt (key,record)) := by
  cases hget : journal.records.get key with
  | none =>
    rw [get_eq_none] at hget
    rw [Option.map_none,InsertionMap.get_eq_none,InsertionMap.keys,hentries,List.map_map]
    exact hget
  | some record =>
    rw [map_some,get_eq_some,hentries]
    exact mem_map.mpr ⟨(key,record),get_eq_some.mp hget,rfl⟩

theorem values_migrated : database.commands.values = journal.records.entries.map (rowOf writer migratedAt) := by
  rw [InsertionMap.values,hentries,List.map_map]
  rfl

end

/-- Two claims are decided in the same way, and a duplicate is answered with the same record. -/
inductive SameDecision (writer : JsonWriter json) : ClaimDecision V → Except RowError (ClaimDecision V) → Prop
  | accepted : SameDecision writer .accepted (.ok .accepted)
  | conflict : SameDecision writer .conflict (.ok .conflict)
  | duplicate {r r' : Record V} (h : SameRecord writer r r') :
      SameDecision writer (.duplicate r) (.ok (.duplicate r'))

/-- The digest tells the command of a claim from the command that is journaled under its key. -/
def DigestSeparates (json : JsonReader V) (protocol : Protocol V) (journal : Journal V) (command : V) : Prop :=
  ∀ checked fingerprint record, checkedCommand json protocol command = some (checked,fingerprint) →
    journal.records.get (mlp3CommandKey json checked) = some record → record.fingerprint = fingerprint →
    json.canonicalJson checked = json.canonicalJson record.command

theorem mapM_eq_ok {α β ε : Type} {f : α → Except ε β} {as : List α} {bs : List β}
    (h : List.Forall₂ (fun a b => f a = .ok b) as bs) : as.mapM f = .ok bs := by
  induction h with
  | nil => rfl
  | cons hab _ ih => rw [mapM_cons,hab,ok_bind,ih,ok_bind]; rfl

/-- The rows that a query selects and sorts read back, in an order of the entries they come from. -/
theorem query_migrated (protocol : Protocol V) (hentries : database.commands.entries =
      journal.records.entries.map (fun e => (e.1,rowOf writer migratedAt e)))
    (p : CommandRow → Bool) (le : CommandRow → CommandRow → Prop) [DecidableRel le]
    (read : JsString × Record V → Record V) (hread : ∀ e ∈ journal.records.entries,p (rowOf writer migratedAt e) →
      rowToRecord json protocol (rowOf writer migratedAt e) none = .ok (read e)) :
    ∃ es : List (JsString × Record V),
      ((database.commands.values.filter p).insertionSort le).mapM (fun row => rowToRecord json protocol row none) =
        .ok (es.map read) ∧
      es.Perm (journal.records.entries.filter (fun e => p (rowOf writer migratedAt e))) := by
  have hsorted : ((database.commands.values.filter p).insertionSort le).Perm
      ((journal.records.entries.filter (fun e => p (rowOf writer migratedAt e))).map (rowOf writer migratedAt)) := by
    rw [values_migrated hentries,List.filter_map]
    exact perm_insertionSort _ _
  obtain ⟨es,hes,hperm⟩ := perm_comp_forall₂
    (r := fun row e => rowToRecord json protocol row none = .ok (read e)) hsorted
    (forall₂_map_left_iff.mpr (forall₂_same.mpr (fun e he => hread e (mem_filter.mp he).1
      (mem_filter.mp he).2)))
  exact ⟨es,mapM_eq_ok (forall₂_map_right_iff.mpr hes),hperm⟩

section

variable (hl : protocol.Lawful writer)
    (hvalid : ∀ key record,journal.records.get key = some record → record.Valid json protocol key)
    (hentries : database.commands.entries = journal.records.entries.map (fun e => (e.1,rowOf writer migratedAt e)))
include hl hvalid hentries

theorem claim_migrated {command : V} (hdigest : DigestSeparates json protocol journal command) :
    Option.Rel (SameDecision writer) (journal.claim json protocol command) (database.claim json protocol command) := by
  rw [Journal.claim,Database.claim]
  cases hchecked : checkedCommand json protocol command with
  | none => exact .none
  | some pair =>
    obtain ⟨checked,fingerprint⟩ := pair
    refine .some ?_
    simp only [get_migrated hentries]
    cases hget : journal.records.get (mlp3CommandKey json checked) with
    | none => exact .accepted
    | some record =>
      have hr := hvalid _ record hget
      by_cases hf : record.fingerprint = fingerprint
      · have hcanonical := hdigest checked fingerprint record hchecked hget hf
        have hfingerprint : mlp3CommandFingerprint json protocol checked = some fingerprint := by
          obtain ⟨c,-,h⟩ := bind_eq_some_iff.mp hchecked
          obtain ⟨f,hf,h⟩ := map_eq_some_iff.mp h
          cases h
          exact hf
        have hoperation : stringField json checked "operation" = some (operationOf json record) := by
          rw [writer.stringField_of_canonical _ _ (canonicalJson_isSome hfingerprint) hcanonical]
          exact operationOf_eq hl hr
        obtain ⟨record',hread,hsame⟩ := rowToRecord_rowOf (e := (mlp3CommandKey json checked,record)) hl hr
          migratedAt ⟨rfl,hfingerprint.trans (congrArg some hf.symm),hoperation,operationOf_eq hl hr⟩ hcanonical
        have hrow : ¬ (rowOf writer migratedAt (mlp3CommandKey json checked,record)).fingerprint ≠ fingerprint :=
          not_not_intro ((hr.columns hl).2.1.trans hf)
        simp only [map_some,ne_eq,if_neg (not_not_intro hf),if_neg hrow,hread]
        exact .duplicate hsame
      · have hrow : (rowOf writer migratedAt (mlp3CommandKey json checked,record)).fingerprint ≠ fingerprint := by
          intro h
          exact hf ((hr.columns hl).2.1.symm.trans h)
        simp only [map_some,ne_eq,if_pos hf,if_pos hrow]
        exact .conflict

theorem unfinished_migrated :
    ∃ records, database.unfinished json protocol = .ok records ∧
      records.Perm (journal.unfinished.map Record.inColumns) := by
  obtain ⟨es,hread,hperm⟩ := query_migrated protocol hentries (fun row => decide (row.status ≠ .terminal))
    acceptedBefore (fun e => e.2.inColumns) (fun e he hp => by
      have hr := hvalid e.1 e.2 (InsertionMap.get_eq_some.mpr he)
      have hs : e.2.status ≠ .terminal := of_decide_eq_true hp
      have hd : e.2.terminalDeliveryEventId.isSome = false :=
        Bool.eq_false_iff.mpr (fun hd => hs (hr.delivered hd))
      have hnone : e.2.terminal = none := by
        have hterminal := hr.terminal_isSome
        rw [decide_eq_false hs] at hterminal
        exact not_isSome_iff_eq_none.mp (Bool.eq_false_iff.mp hterminal)
      have hback : readBack writer e.2 = e.2.inColumns := by
        rw [readBack,migratedTerminal,hnone]
        exact congrArg (fun t => { e.2.inColumns with terminal := t }) hnone.symm
      rw [rowToRecord_undelivered hl hr migratedAt hd,hback])
  refine ⟨_,hread,(hperm.map _).trans (List.Perm.of_eq ?_)⟩
  rw [Journal.unfinished,InsertionMap.values,List.filter_map,List.map_map]
  rfl

theorem pending_migrated : ∃ records, database.pendingTerminalDeliveries json protocol = .ok records ∧
      ∃ before, before.Perm (journal.pendingTerminalDeliveries json) ∧
        List.Forall₂ (SameRecord writer) before (records.filter (Record.hasEvent json)) := by
  obtain ⟨es,hread,hperm⟩ := query_migrated protocol hentries (fun row => decide (row.status = .terminal) &&
    row.terminalDeliveryEventId.isNone && row.terminalJson.isSome) settledBefore (fun e => readBack writer e.2)
    (fun e he hp => by
      have hr := hvalid e.1 e.2 (get_eq_some.mpr he)
      rw [Bool.and_eq_true,Bool.and_eq_true] at hp
      have hnone : (e.2.terminalDeliveryEventId.map (fun s => columnText s.1)).isNone := hp.1.2
      rw [isNone_map,isNone_iff_eq_none] at hnone
      exact rowToRecord_undelivered hl hr migratedAt (by rw [hnone]; rfl))
  have hvalid' : ∀ e ∈ es,e.2.Valid json protocol e.1 := fun e he =>
    hvalid e.1 e.2 (get_eq_some.mpr (mem_filter.mp (hperm.mem_iff.mp he)).1)
  refine ⟨_,hread,(es.filter (fun e => e.2.hasEvent json)).map Prod.snd,?_,?_⟩
  · refine ((hperm.filter _).map Prod.snd).trans (List.Perm.of_eq ?_)
    rw [Journal.pendingTerminalDeliveries,InsertionMap.values,List.filter_map,List.filter_filter]
    refine congrArg (List.map Prod.snd) (filter_congr (fun e he => ?_))
    have hr := hvalid e.1 e.2 (get_eq_some.mpr he)
    have hjson : (rowOf writer migratedAt e).terminalJson.isSome = decide (e.2.status = .terminal) := by
      rw [rowOf,migratedRow,isSome_map,isSome_map,hr.terminal_isSome]
    have hdelivery : (rowOf writer migratedAt e).terminalDeliveryEventId.isNone =
        e.2.terminalDeliveryEventId.isNone := isNone_map
    rw [hjson,hdelivery]
    change (e.2.hasEvent json && (decide (e.2.status = .terminal) && e.2.terminalDeliveryEventId.isNone &&
      decide (e.2.status = .terminal))) =
        (decide (e.2.status = .terminal) && e.2.hasEvent json && e.2.terminalDeliveryEventId.isNone)
    cases decide (e.2.status = .terminal) <;> cases e.2.hasEvent json <;> simp
  · have hevent : ∀ e ∈ es,(Record.hasEvent json ∘ fun e => readBack writer e.2) e = e.2.hasEvent json :=
      fun e he => hasEvent_readBack hl (hvalid' e he)
    rw [List.filter_map,List.filter_congr hevent]
    exact forall₂_map_left_iff.mpr (forall₂_map_right_iff.mpr (forall₂_same.mpr
      (fun e he => sameRecord_readBack hl (hvalid' e (mem_filter.mp he).1))))

end

end answers

/-- The database a journal is migrated to answers as the journal does, with the strings of its columns, which are
those of the journal where these are well formed. The compaction of a delivered terminal changes no answer. -/
theorem migration_preserves (hl : protocol.Lawful writer) {text : List Char} {journal : Journal V}
    (h : parseMlp3CommandJournal json protocol text = .ok journal) (migratedAt : ℤ) :
    (∃ database,migrateLegacy writer protocol text migratedAt = .ok database ∧
      database.generation = columnText journal.generation ∧
      (∀ key,journal.records.get key = none → database.commands.get key = none) ∧
      (∀ key record,journal.records.get key = some record → ∃ row record',database.commands.get key = some row ∧
          rowToRecord json protocol row (some record.command) = .ok record' ∧ SameRecord writer record record') ∧
      (∀ command,DigestSeparates json protocol journal command →
        Option.Rel (SameDecision writer) (journal.claim json protocol command) (database.claim json protocol command)) ∧
      (∃ records,database.unfinished json protocol = .ok records ∧
        records.Perm (journal.unfinished.map Record.inColumns)) ∧
      ∃ records,database.pendingTerminalDeliveries json protocol = .ok records ∧
        ∃ before,before.Perm (journal.pendingTerminalDeliveries json) ∧
          List.Forall₂ (SameRecord writer) before (records.filter (Record.hasEvent json))) ∧
    (∀ s : FilledString,s.1.wellFormed → 0 ∉ s.1.units → columnText s.1 = s.1 ∧ fromColumn (some s) = some s) ∧
    ∀ t, isMlp3CommandTerminal json protocol t = some true →
      SameTerminal writer id t (compactDeliveredTerminal writer t) ∧
        compactDeliveredTerminal writer (compactDeliveredTerminal writer t) = compactDeliveredTerminal writer t := by
  have hvalid := parse_valid h
  refine ⟨?_,fun s hs hn => ⟨columnText_of_wellFormed hs hn,fromColumn_of_wellFormed hs hn⟩,?_⟩
  · obtain ⟨database,hmigrate,hgeneration,hentries⟩ := migrateLegacy_ok hl h migratedAt
    refine ⟨database,hmigrate,hgeneration,?_,?_,fun command hd => claim_migrated hl hvalid hentries hd,
      unfinished_migrated hl hvalid hentries,pending_migrated hl hvalid hentries⟩
    · intro key hget
      rw [get_migrated hentries,hget]
      rfl
    · intro key record hget
      have hr := hvalid key record hget
      obtain ⟨record',hread,hsame⟩ := rowToRecord_rowOf (e := (key,record)) hl hr migratedAt (stands_self hl hr) rfl
      refine ⟨rowOf writer migratedAt (key,record),record',?_,hread,hsame⟩
      rw [get_migrated hentries,hget]
      rfl
  · intro t ht
    have hv := isMlp3CommandTerminal_iff.mp ht
    exact ⟨sameTerminal_compact hv,compact_compact hv hl⟩

theorem columnText_canonicalJson (v : Json) : columnText v.canonicalJson = v.canonicalJson := by
  refine columnText_of_wellFormed (wellFormed_ofChars _) fun hn => ?_
  obtain ⟨c,hc,hu⟩ := mem_flatMap.mp hn
  have hle := Json.le_toNat_stringify _ hc
  have hbound := c.valid
  rw [JsString.encodeChar] at hu
  split at hu
  · have hzero := congrArg UInt16.toNat (mem_singleton.mp hu)
    rw [UInt16.toNat_ofNat'] at hzero
    change 0 = c.toNat % 2 ^ 16 at hzero
    omega
  · rcases mem_pair.mp hu with hu | hu <;>
    · have hzero := congrArg UInt16.toNat hu
      rw [UInt16.toNat_ofNat'] at hzero
      change 0 = _ % 2 ^ 16 at hzero
      have hlt : c.toNat < 0x110000 := by
        rcases hbound with h | h
        · exact lt_trans h (by decide)
        · exact h.2
      omega

/-- What is written of values without fractions. -/
def wholeWriter : JsonWriter wholeJson where
  stringify := Json.stringify
  object := Json.ofOptions
  string := .str
  boolean := .bool
  rewritten v := v
  parse_stringify v := by
    change Json.parse (stripReturns (Json.stringify v)) = some v
    rw [stripReturns_stringify,Json.parse_stringify]
  stringify_ne_nil v h := by
    have hparse := Json.parse_stringify v
    rw [h] at hparse
    cases hparse
  nul_not_mem_stringify v h := absurd (Json.le_toNat_stringify v h) (by decide)
  columnText_canonicalStrings ss := columnText_canonicalJson (.arr (ss.map .str))
  rewritten_of_finite _ _ := rfl
  finite_of_text _ _ _ _ := rfl
  isObject_rewritten _ := rfl
  field_rewritten v name := (congrFun map_id _).symm
  asString_rewritten _ := rfl
  asBoolean_rewritten _ := rfl
  isObject_object _ := rfl
  field_object _ _ _ hnodup hmem := Json.field_ofOptions hnodup hmem
  asString_string _ := rfl
  eq_string v s h := by
    cases v with
    | str t => exact congrArg Json.str (some.inj h)
    | null | bool | num | arr | obj => cases h
  asBoolean_boolean _ := rfl
  eq_boolean v b h := by
    cases v with
    | bool c => exact congrArg Json.bool (some.inj h)
    | null | str | num | arr | obj => cases h
  stringField_of_canonical v w _ h name := by
    have hsort := Json.sortKeys_eq_of_canonicalJson (some.inj h)
    have hstring : ∀ x : Json,wholeJson.asString (Json.sortKeys x) = wholeJson.asString x := by
      intro x
      cases x <;> rw [Json.sortKeys] <;> rfl
    have hfield : ∀ x : Json,stringField wholeJson (Json.sortKeys x) name = stringField wholeJson x name := by
      intro x
      change ((Json.sortKeys x).field name).bind wholeJson.asString = (x.field name).bind wholeJson.asString
      rw [Json.field_sortKeys]
      cases x.field name with
      | none => rfl
      | some y => exact hstring y
    rw [← hfield v,hsort,hfield w]

def rejectedEvent : Json :=
  .obj [("eventId",.str "e"),("kind",.str "malink.event"),("occurredAt",.num 2),
    ("payload",.obj [("code",.str "not_allowed"),("commandId",.str "c"),("message",.str "Not allowed"),
      ("retryable",.bool false),("type",.str "command.rejected")]),("version",.num 3),("workspaceId",.str "w")]

/-- The schemas and the digest, as they are on the sample. -/
def rejectionProtocol : Protocol Json where
  commandSchema value := if value = sampleCommand then some value else none
  isTerminalEvent value := decide (value = rejectedEvent)
  sha256 _ := "ef572edf1fb3702a4444a377f90adfad410b07d34e7b845586f2ec96b2abfea8"

theorem rejectionProtocol_lawful : rejectionProtocol.Lawful wholeWriter where
  commandSchema_idem c c' h := by
    obtain ⟨hc,hc'⟩ := ite_none_right_eq_some.mp h
    cases hc'
    exact h
  operation c c' h := by
    obtain ⟨hc,hc'⟩ := ite_none_right_eq_some.mp h
    cases hc'
    rw [hc]
    decide
  operation_letters c c' s h hs := by
    obtain ⟨hc,hc'⟩ := ite_none_right_eq_some.mp h
    cases hc'
    rw [hc] at hs
    cases hs
    exact forall_iff_forall_mem.mp (by decide)
  sha256_digits _ := by
    change ∀ u ∈ JsString.units "ef572edf1fb3702a4444a377f90adfad410b07d34e7b845586f2ec96b2abfea8", _
    exact forall_iff_forall_mem.mp (by decide)
  isTerminalEvent_rewritten _ h := h
  failure e payload he hp _ := by
    rw [of_decide_eq_true he] at hp
    cases hp
    decide
  rejection e payload he hp _ := by
    rw [of_decide_eq_true he] at hp
    cases hp
    decide

/-- A command that was rejected, with its event delivered. -/
def rejectionEntries : List (List (JsString × Json)) :=
  [[("version",.num 3),("kind",.str "journal"),("generation",.str "g")],
    sampleEntry "accepted" [("command",sampleCommand),("acceptedAt",.num 1)],
    sampleEntry "terminal" [("terminalAt",.num 2),
      ("terminal",.obj [("outcome",.str "rejected"),("eventId",.str "e"),("event",rejectedEvent)])],
    sampleEntry "terminal_delivered" [("matrixEventId",.str "m"),("deliveredAt",.num 3)]]

def rejectionText : List Char := joinLines (rejectionEntries.map fun members => Json.stringify (.obj members))

set_option maxRecDepth 100000 in
theorem overValues_rejection :
    (overValues wholeJson rejectionProtocol (readEntry wholeJson rejectionProtocol) Parsed.empty 1
      (rejectionEntries.map .obj)).toOption.any (fun parsed => parsed.generation.isSome) := by
  decide

theorem parse_rejection :
    ∃ journal, parseMlp3CommandJournal wholeJson rejectionProtocol rejectionText = .ok journal := by
  obtain ⟨parsed,hrun,hparsed⟩ := eq_ok_of_toOption_any overValues_rejection
  obtain ⟨generation,hgeneration⟩ := isSome_iff_exists.mp hparsed
  rw [← overLines_stringify] at hrun
  refine ⟨⟨generation,parsed.records⟩,bind_eq_ok.mpr ⟨parsed,hrun,?_⟩⟩
  rw [hgeneration]

theorem migration_preserves_rejection :
    ∃ journal database, parseMlp3CommandJournal wholeJson rejectionProtocol rejectionText = .ok journal ∧
      migrateLegacy wholeWriter rejectionProtocol rejectionText 4 = .ok database ∧
      database.generation = columnText journal.generation := by
  obtain ⟨journal,hjournal⟩ := parse_rejection
  obtain ⟨⟨database,hmigrate,hgeneration,-⟩,-⟩ := migration_preserves rejectionProtocol_lawful hjournal 4
  exact ⟨journal,database,hjournal,hmigrate,hgeneration⟩

/-- A command accepted from a room whose ID is half of a surrogate pair. -/
def halvedEntries : List (List (JsString × Json)) :=
  [[("version",.num 3),("kind",.str "journal"),("generation",.str "g")],
    sampleEntry "accepted" [("command",sampleCommand),("roomId",.str ⟨[0xD800]⟩),("matrixEventId",.str "m"),
      ("acceptedAt",.num 1)]]

def halvedText : List Char := joinLines (halvedEntries.map fun members => Json.stringify (.obj members))

set_option maxRecDepth 100000 in
theorem overValues_halved :
    (overValues wholeJson rejectionProtocol (readEntry wholeJson rejectionProtocol) Parsed.empty 1
      (halvedEntries.map .obj)).toOption.any (fun parsed => parsed.generation.isSome &&
        parsed.records.entries.any (fun e => decide (e.2.roomId = some ⟨⟨[0xD800]⟩,rfl⟩))) := by
  decide

/-- Its record comes back with another room. -/
theorem source_not_preserved : ¬ ∀ (text : List Char) (journal : Journal Json) (database : Database),
    parseMlp3CommandJournal wholeJson rejectionProtocol text = .ok journal →
      migrateLegacy wholeWriter rejectionProtocol text 4 = .ok database →
        ∀ key record row record', journal.records.get key = some record → database.commands.get key = some row →
          rowToRecord wholeJson rejectionProtocol row (some record.command) = .ok record' →
            record'.roomId = record.roomId := by
  intro h
  obtain ⟨parsed,hrun,hparsed⟩ := eq_ok_of_toOption_any overValues_halved
  obtain ⟨hgeneration,hroom⟩ := Bool.and_eq_true_iff.mp hparsed
  obtain ⟨generation,hgeneration⟩ := isSome_iff_exists.mp hgeneration
  obtain ⟨⟨key,record⟩,hmem,hroom⟩ := any_eq_true.mp hroom
  have hroom : record.roomId = some ⟨⟨[0xD800]⟩,rfl⟩ := of_decide_eq_true hroom
  rw [← overLines_stringify] at hrun
  have hparse : parseMlp3CommandJournal wholeJson rejectionProtocol halvedText =
      .ok ⟨generation,parsed.records⟩ := by
    refine bind_eq_ok.mpr ⟨parsed,hrun,?_⟩
    rw [hgeneration]
  obtain ⟨database,hmigrate,-,hentries⟩ := migrateLegacy_ok rejectionProtocol_lawful hparse 4
  have hget : parsed.records.get key = some record := get_eq_some.mpr hmem
  have hr := parse_valid hparse key record hget
  obtain ⟨record',hread,hsame⟩ := rowToRecord_rowOf (e := (key,record)) rejectionProtocol_lawful hr 4
    (stands_self rejectionProtocol_lawful hr) rfl
  have hrow : database.commands.get key = some (rowOf wholeWriter 4 (key,record)) := by
    rw [get_migrated hentries,hget]
    rfl
  have hkept := h halvedText _ database hparse hmigrate key record _ record' hget hrow hread
  rw [hsame.rest] at hkept
  change fromColumn record.roomId = record.roomId at hkept
  rw [hroom] at hkept
  exact absurd hkept (by decide)

end Malink.Gateway.JournalText
