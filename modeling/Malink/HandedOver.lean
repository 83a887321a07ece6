import Malink.HandoffUnion

/-!
# A promoted state has everything of both Gateways

The merges of the single stores, and all of them together. A merge that is refused leaves nothing behind.
-/

namespace Malink.Handoff

open List InsertionMap
open Option (some)
open Except (ok)

variable {key field : JsString} {merged : Gateway.Inbox.Records}

section

open Gateway.JournalText (CommandRow)

variable {row other : CommandRow} {table table' : CommandTable}

theorem column_inj {α : Type} {toJson : α → Json} (hinj : Function.Injective toJson) (hnull : ∀ a,toJson a ≠ .null)
    {a b : Option α} (h : column toJson a = column toJson b) : a = b := by
  cases a with
  | none =>
    cases b with
    | none => rfl
    | some b => exact absurd h.symm (hnull b)
  | some a =>
    cases b with
    | none => exact absurd h (hnull a)
    | some b => exact congrArg some (hinj h)

theorem sortKeys_column {α : Type} {toJson : α → Json} (hleaf : ∀ a,(toJson a).sortKeys = toJson a) (a : Option α) :
    (column toJson a).sortKeys = column toJson a := by
  cases a with
  | none => simp [column,Json.sortKeys]
  | some a => exact hleaf a

theorem commandStatusText_inj {status other : Gateway.JournalText.Status}
    (h : commandStatusText status = commandStatusText other) : status = other := by
  cases status <;> cases other <;> first | rfl | (revert h; decide)

theorem commandRow_eq (h : sameJson commandRowJson row other) : row = other := by
  have hsort := Json.sortKeys_eq_of_canonicalJson (of_decide_eq_true h)
  have hfield (name : JsString) {value value' : Json} (hvalue : (commandRowJson row).field name = some value)
      (hvalue' : (commandRowJson other).field name = some value') (hleaf : value.sortKeys = value)
      (hleaf' : value'.sortKeys = value') : value = value' := by
    have hmap : ((commandRowJson row).field name).map Json.sortKeys =
        ((commandRowJson other).field name).map Json.sortKeys := by
      rw [← Json.field_sortKeys,← Json.field_sortKeys,hsort]
    rw [hvalue,hvalue',Option.map_some,Option.map_some,hleaf,hleaf'] at hmap
    exact some.inj hmap
  have hstr (text : JsString) : (Json.str text).sortKeys = .str text := by simp [Json.sortKeys]
  have hnum (n : ℤ) : (Json.num n).sortKeys = .num n := by simp [Json.sortKeys]
  have htext (text : List Char) : (textJson text).sortKeys = textJson text := hstr _
  have hstrInj : Function.Injective Json.str := fun _ _ heq => Json.str.inj heq
  have hnumInj : Function.Injective Json.num := fun _ _ heq => Json.num.inj heq
  have htextInj : Function.Injective textJson := fun _ _ heq => JsString.ofChars_injective (Json.str.inj heq)
  have hstrColumn {a b : Option JsString} (heq : column .str a = column .str b) : a = b :=
    column_inj hstrInj (fun _ hc => by cases hc) heq
  have hnumColumn {a b : Option ℤ} (heq : column .num a = column .num b) : a = b :=
    column_inj hnumInj (fun _ hc => by cases hc) heq
  have htextColumn {a b : Option (List Char)} (heq : column textJson a = column textJson b) : a = b :=
    column_inj htextInj (fun _ hc => by cases hc) heq
  have hkey := hfield "command_key" rfl rfl (hstr _) (hstr _)
  have hfingerprint := hfield "fingerprint" rfl rfl (hstr _) (hstr _)
  have hoperation := hfield "operation" rfl rfl (hstr _) (hstr _)
  have hcommand := hfield "command_json" rfl rfl (sortKeys_column htext _) (sortKeys_column htext _)
  have hroom := hfield "room_id" rfl rfl (sortKeys_column hstr _) (sortKeys_column hstr _)
  have hevent := hfield "source_matrix_event_id" rfl rfl (sortKeys_column hstr _) (sortKeys_column hstr _)
  have hstatus := hfield "status" rfl rfl (hstr _) (hstr _)
  have haccepted := hfield "accepted_at" rfl rfl (hnum _) (hnum _)
  have hdispatched := hfield "dispatched_at" rfl rfl (sortKeys_column hnum _) (sortKeys_column hnum _)
  have hterminal := hfield "terminal_at" rfl rfl (sortKeys_column hnum _) (sortKeys_column hnum _)
  have hterminalJson := hfield "terminal_json" rfl rfl (sortKeys_column htext _) (sortKeys_column htext _)
  have hdelivery := hfield "terminal_delivery_event_id" rfl rfl (sortKeys_column hstr _) (sortKeys_column hstr _)
  have hdelivered := hfield "terminal_delivered_at" rfl rfl (sortKeys_column hnum _) (sortKeys_column hnum _)
  cases row
  cases other
  simp only [CommandRow.mk.injEq]
  exact ⟨Json.str.inj hkey,Json.str.inj hfingerprint,Json.str.inj hoperation,htextColumn hcommand,hstrColumn hroom,
    hstrColumn hevent,commandStatusText_inj (Json.str.inj hstatus),Json.num.inj haccepted,hnumColumn hdispatched,
    hnumColumn hterminal,htextColumn hterminalJson,hstrColumn hdelivery,hnumColumn hdelivered⟩

/-- A row of the source is there afterwards, and no other row has changed. -/
theorem mergeCommandRow_eq_ok {row : { row : CommandRow // row.checked = true }}
    (h : mergeCommandRow table row = .ok table') :
    (∀ key found,table.rows.get key = some found → table'.rows.get key = some found) ∧
      table'.rows.get row.1.commandKey = some row.1 ∧
      ∀ key, table'.rows.has key → table.rows.has key ∨ key = row.1.commandKey := by
  obtain ⟨key,hkey,h⟩ := bind_eq_ok.mp h
  have hkey : key = row.1.commandKey := (Json.str.inj (some.inj (requireString_eq_ok.mp hkey).1)).symm
  subst hkey
  cases hget : table.rows.get row.1.commandKey with
  | some existing =>
    rw [hget] at h
    obtain ⟨u,hrefuse,h⟩ := bind_eq_ok.mp h
    obtain rfl := ok.inj h
    have hsame := refuseIf_eq_ok.mp hrefuse
    rw [Bool.not_eq_false] at hsame
    exact ⟨fun _ _ => id,commandRow_eq hsame ▸ hget,fun _ => .inl⟩
  | none =>
    rw [hget] at h
    obtain rfl := ok.inj h
    refine ⟨?_,get_set_self _ _ _,?_⟩
    · intro key found hfound
      have hne : key ≠ row.1.commandKey := by
        rintro rfl
        rw [hget] at hfound
        cases hfound
      exact (get_set_of_ne _ _ hne).trans hfound
    · intro key hhas
      by_cases heq : key = row.1.commandKey
      · exact .inr heq
      · obtain ⟨found,hfound⟩ := has_iff.mp hhas
        exact .inl (has_iff.mpr ⟨found,(get_set_of_ne _ _ heq).symm.trans hfound⟩)

theorem mergeCommandRows_eq_ok {rows : List { row : CommandRow // row.checked = true }}
    (h : rows.foldlM mergeCommandRow table = .ok table') :
    (∀ key found,table.rows.get key = some found → table'.rows.get key = some found) ∧
      (∀ row ∈ rows,table'.rows.get row.1.commandKey = some row.1) ∧
      ∀ key, table'.rows.has key → table.rows.has key ∨ ∃ row ∈ rows, key = row.1.commandKey := by
  induction rows generalizing table with
  | nil =>
    obtain rfl := ok.inj h
    refine ⟨fun _ _ => id,?_,fun _ => .inl⟩
    intro row hrow
    cases hrow
  | cons row rows ih =>
    rw [foldlM_cons] at h
    obtain ⟨next,hnext,hrest⟩ := bind_eq_ok.mp h
    obtain ⟨hkept,hrow,hhas⟩ := mergeCommandRow_eq_ok hnext
    obtain ⟨hkept',hrows,hhas'⟩ := ih hrest
    refine ⟨fun key found hfound => hkept' key found (hkept key found hfound),?_,?_⟩
    · intro other hother
      rcases mem_cons.mp hother with rfl | hother
      · exact hkept' _ _ hrow
      · exact hrows other hother
    · intro key hkey
      rcases hhas' key hkey with hkey | ⟨other,hother,rfl⟩
      · rcases hhas key hkey with hkey | rfl
        · exact .inl hkey
        · exact .inr ⟨row,mem_cons_self,rfl⟩
      · exact .inr ⟨other,mem_cons_of_mem _ hother,rfl⟩

theorem mem_selected {row : { row : CommandRow // row.checked = true }} :
    row ∈ table.selected ↔ ∃ key, table.rows.get key = some row.1 := by
  rw [CommandTable.selected,← mem_values]
  constructor
  · intro h
    obtain ⟨value,-,rfl⟩ := mem_map.mp h
    exact value.2
  · intro h
    exact mem_map.mpr ⟨⟨row.1,h⟩,mem_attach _ _,rfl⟩

theorem mergeCommandJournal_eq_ok {sourceFile targetFile : Option JournalFile} {generation : JsString}
    {file : JournalFile} (h : mergeCommandJournal sourceFile targetFile generation = .ok file) :
    JournalUnion sourceFile targetFile (some file) := by
  cases sourceFile with
  | none => cases h
  | some source =>
    cases targetFile with
    | none => cases h
    | some target =>
      obtain ⟨-,-,h⟩ := bind_eq_ok.mp h
      obtain ⟨-,-,h⟩ := bind_eq_ok.mp h
      obtain ⟨-,-,h⟩ := bind_eq_ok.mp h
      obtain ⟨commands,hcommands,h⟩ := bind_eq_ok.mp h
      obtain rfl := ok.inj h
      obtain ⟨hkept,hrows,hhas⟩ := mergeCommandRows_eq_ok hcommands
      have hsource : ∀ key found,source.commands.rows.get key = some found → commands.rows.get key = some found := by
        intro key found hget
        have hrow := hrows ⟨found,source.commands.checked hget⟩ (mem_selected.mpr ⟨key,hget⟩)
        rwa [source.commands.keyed hget] at hrow
      refine ⟨source,target,_,rfl,rfl,rfl,?_,?_⟩
      · intro key
        constructor
        · intro hkey
          rcases hhas key hkey with hkey | ⟨row,hrow,rfl⟩
          · exact .inr hkey
          · obtain ⟨key,hget⟩ := mem_selected.mp hrow
            exact .inl (has_iff.mpr ⟨row.1,(source.commands.keyed hget).symm ▸ hget⟩)
        · rintro (hkey | hkey)
          · obtain ⟨found,hget⟩ := has_iff.mp hkey
            exact has_iff.mpr ⟨found,hsource key found hget⟩
          · obtain ⟨found,hget⟩ := has_iff.mp hkey
            exact has_iff.mpr ⟨found,hkept key found hget⟩
      · rintro key found (hget | hget)
        · exact ⟨found,hsource key found hget,rfl⟩
        · exact ⟨found,hkept key found hget,rfl⟩

/-- A command that was executed is not to be executed again. -/
theorem JournalUnion.notAgain {source candidate target : Option JournalFile} (h : JournalUnion source candidate target)
    (hexecuted : WasExecuted source key ∨ WasExecuted candidate key) : ¬ ToExecute target key := by
  obtain ⟨source,candidate,target,rfl,rfl,rfl,hunion⟩ := h
  rintro ⟨file,row,hfile,hget,haccepted⟩
  obtain rfl := some.inj hfile
  have hrow : ∃ found,(source.commands.rows.get key = some found ∨ candidate.commands.rows.get key = some found) ∧
      found.status ≠ .accepted := by
    rcases hexecuted with ⟨file,found,hfile,hfound,hstatus⟩ | ⟨file,found,hfile,hfound,hstatus⟩
    · obtain rfl := some.inj hfile
      exact ⟨found,.inl hfound,hstatus⟩
    · obtain rfl := some.inj hfile
      exact ⟨found,.inr hfound,hstatus⟩
  obtain ⟨found,hfound,hstatus⟩ := hrow
  obtain ⟨kept,hkept,rfl⟩ := hunion.kept key found hfound
  rw [hget] at hkept
  obtain rfl := some.inj hkept
  exact hstatus haccepted

end

variable {records : Gateway.Inbox.Records} {files : List (Option Gateway.Inbox.Records)}
  {found : Option Members} {sourceClaims targetClaims : Members} {fields : List JsString}

theorem mergeInboxFile_eq_ok {file : Option Gateway.Inbox.Records} (h : mergeInboxFile records file = .ok merged) :
    IsUnion (fun kept event => sameJson recordJson kept event = true) records (file.getD .empty) merged := by
  cases file with
  | none =>
    obtain rfl := ok.inj h
    exact isUnion_empty_right (fun _ => decide_eq_true rfl) _
  | some state =>
    exact isUnion_of_union (fun _ => decide_eq_true rfl) (fun _ _ => id) (mapError_eq_ok.mp h)

theorem sameRecord_trans {record other third : Gateway.Inbox.MatrixEventInboxRecord}
    (h : sameJson recordJson record other) (h' : sameJson recordJson other third) : sameJson recordJson record third :=
  decide_eq_true ((of_decide_eq_true h).trans (of_decide_eq_true h'))

theorem mergeInboxFiles_union (h : files.foldlM mergeInboxFile records = .ok merged) :
    (∀ key,merged.has key ↔ records.has key ∨ ∃ state,some state ∈ files ∧ state.has key) ∧
      (∀ key event,(records.get key = some event ∨ ∃ state,some state ∈ files ∧ state.get key = some event) →
        ∃ kept,merged.get key = some kept ∧ sameJson recordJson kept event) := by
  induction files generalizing records with
  | nil =>
    obtain rfl := ok.inj h
    refine ⟨?_,?_⟩
    · intro key
      simp
    · rintro key event (hget | ⟨state,hstate,-⟩)
      · exact ⟨event,hget,decide_eq_true rfl⟩
      · cases hstate
  | cons file files ih =>
    rw [foldlM_cons] at h
    obtain ⟨next,hnext,hrest⟩ := bind_eq_ok.mp h
    have hunion := mergeInboxFile_eq_ok hnext
    obtain ⟨hhas,hkept⟩ := ih hrest
    refine ⟨?_,?_⟩
    · intro key
      rw [hhas,hunion.has,or_assoc]
      refine or_congr_right ?_
      cases file with
      | none =>
        constructor
        · rintro (hempty | ⟨state,hstate,hget⟩)
          · cases hempty
          · exact ⟨state,mem_cons_of_mem _ hstate,hget⟩
        · rintro ⟨state,hstate,hget⟩
          rcases mem_cons.mp hstate with hnone | hstate
          · cases hnone
          · exact .inr ⟨state,hstate,hget⟩
      | some state => simp
    · have hstep : ∀ key event,records.get key = some event ∨ (file.getD .empty).get key = some event →
          ∃ kept, merged.get key = some kept ∧ sameJson recordJson kept event := by
        intro key event hevent
        obtain ⟨found,hfound,hsame⟩ := hunion.kept key event hevent
        obtain ⟨kept,hget,hsame'⟩ := hkept key found (.inl hfound)
        exact ⟨kept,hget,sameRecord_trans hsame' hsame⟩
      rintro key event (hget | ⟨state,hstate,hget⟩)
      · exact hstep key event (.inl hget)
      · rcases mem_cons.mp hstate with rfl | hstate
        · exact hstep key event (.inr hget)
        · exact hkept key event (.inr ⟨state,hstate,hget⟩)

theorem mergeInboxes_eq_ok (h : mergeInboxes files = .ok merged) : InboxUnion files merged := by
  obtain ⟨records,hrecords,hsize⟩ := bind_eq_ok.mp (mapError_eq_ok.mp h)
  split at hsize
  · cases hsize
  · obtain rfl := ok.inj hsize
    obtain ⟨hhas,hkept⟩ := mergeInboxFiles_union hrecords
    constructor
    · intro key
      rw [hhas]
      constructor
      · rintro (hempty | hstate)
        · cases hempty
        · exact hstate
      · exact .inr
    · intro state hstate key event hget
      exact hkept key event (.inr ⟨state,hstate,hget⟩)

theorem mergeOutboxes_eq_ok {candidate source : Outbox.WalFile} {text : List Char}
    (h : mergeOutboxes [candidate,source] = .ok text) : OutboxUnion candidate source (some text) := by
  obtain ⟨records,merged,hrecords,rfl,hmerged⟩ := Outbox.mergedLog_of_merge (mapError_eq_ok.mp h)
  cases hcandidate : Outbox.fileEntries candidate with
  | none => simp [hcandidate] at hrecords
  | some candidateRecords =>
    cases hsource : Outbox.fileEntries source with
    | none => simp [hcandidate,hsource] at hrecords
    | some sourceRecords =>
      have hlist : [candidateRecords,sourceRecords] = records := by simpa [hcandidate,hsource] using hrecords
      subst hlist
      refine ⟨candidateRecords,sourceRecords,merged,hcandidate,hsource,rfl,?_⟩
      simpa using hmerged

section

variable {sourceFile targetFile : JsonFile} {content : Option Json} {name workspaceId : JsString}

theorem recordOf_target {default records : Members}
    (hfound : readOptionalRecord targetFile = .ok found) (hdefault : (default.get field).bind record = some .empty)
    (h : ((found.getD default).get field).bind record = some records) : recordOf field targetFile.content = records := by
  cases found with
  | none =>
    rw [readOptionalRecord_none hfound,recordOf_none]
    exact some.inj (hdefault.symm.trans h)
  | some members =>
    obtain ⟨value,hcontent,hrecord⟩ := readOptionalRecord_some hfound
    exact recordOf_eq hcontent hrecord h

theorem recordOf_field {value : Json} {records : Members} (hfield : value.field name = some (.obj records.entries)) :
    recordOf name (some value) = records := by
  rw [recordOf,Option.bind_some,hfield,Option.bind_some,record_obj_entries]
  rfl

theorem arrayOf_target {default : Members} {values : List Json}
    (hfound : readOptionalRecord targetFile = .ok found) (hdefault : default.get field = some (.arr []))
    (h : (found.getD default).get field = some (.arr values)) : arrayOf field targetFile.content = values := by
  cases found with
  | none =>
    rw [readOptionalRecord_none hfound]
    exact Json.arr.inj (some.inj (hdefault.symm.trans h))
  | some members =>
    obtain ⟨value,hcontent,hrecord⟩ := readOptionalRecord_some hfound
    exact arrayOf_eq hcontent hrecord h

theorem mergeTimelineKeys_eq_ok (h : mergeTimelineKeys sourceFile targetFile = .ok content) :
    IsUnion SameValue (recordOf "rooms" sourceFile.content) (recordOf "rooms" targetFile.content)
      (recordOf "rooms" content) := by
  obtain ⟨source,hsource,h⟩ := bind_eq_ok.mp h
  cases source with
  | none =>
    obtain rfl := ok.inj h
    rw [readOptionalRecord_none hsource,recordOf_none]
    exact isUnion_empty_left sameValue_refl _
  | some source =>
    obtain ⟨target,htarget,h⟩ := bind_eq_ok.mp h
    obtain ⟨-,-,h⟩ := bind_eq_ok.mp h
    obtain ⟨sourceRooms,hsourceRooms,h⟩ := bind_eq_ok.mp h
    obtain ⟨targetRooms,htargetRooms,h⟩ := bind_eq_ok.mp h
    obtain ⟨rooms,hrooms,h⟩ := bind_eq_ok.mp h
    obtain rfl := ok.inj h
    obtain ⟨value,hcontent,hrecord⟩ := readOptionalRecord_some hsource
    have hresult : recordOf "rooms" (some (.obj [("version",.num 1),("rooms",.obj rooms.entries)])) = rooms :=
      recordOf_field rfl
    rw [recordOf_eq hcontent hrecord (requireRecord_eq_ok.mp hsourceRooms),
      recordOf_target htarget rfl (requireRecord_eq_ok.mp htargetRooms),hresult]
    exact isUnion_of_mergeMembers hrooms

theorem replayClaim_eq_ok {label : JsString} {claim : Option Json} {expiresAt : ℤ}
    (h : replayClaim label key claim = .ok expiresAt) :
    0 ≤ expiresAt ∧ (claim = none ∧ expiresAt = 0 ∨ claim = some (.num expiresAt)) := by
  cases claim with
  | none =>
    obtain rfl := ok.inj h
    exact ⟨le_refl _,.inl ⟨rfl,rfl⟩⟩
  | some value =>
    cases value with
    | num n =>
      rw [replayClaim] at h
      split at h
      · next hvalid =>
        obtain rfl := ok.inj h
        exact ⟨hvalid.2,.inr rfl⟩
      · cases h
    | null | bool _ | str _ | arr _ | obj _ => cases h

theorem mergeReplayClaims_eq_ok {claims claims' : Members} {keys : List JsString}
    (h : keys.foldlM (mergeReplayClaim sourceClaims targetClaims) claims = .ok claims') (key : JsString) :
    (key ∈ keys → ∃ left right,replayClaim "source" key (sourceClaims.get key) = .ok left ∧
      replayClaim "candidate" key (targetClaims.get key) = .ok right ∧ claims'.get key = some (.num (max left right))) ∧
    (key ∉ keys → claims'.get key = claims.get key) := by
  induction keys generalizing claims with
  | nil =>
    obtain rfl := ok.inj h
    refine ⟨?_,fun _ => rfl⟩
    intro hkey
    cases hkey
  | cons first keys ih =>
    rw [foldlM_cons] at h
    obtain ⟨next,hnext,hrest⟩ := bind_eq_ok.mp h
    obtain ⟨left,hleft,hnext⟩ := bind_eq_ok.mp hnext
    obtain ⟨right,hright,hnext⟩ := bind_eq_ok.mp hnext
    obtain rfl := ok.inj hnext
    obtain ⟨hmem,hnot⟩ := ih hrest
    constructor
    · intro hkey
      by_cases hin : key ∈ keys
      · exact hmem hin
      · obtain rfl := (mem_cons.mp hkey).resolve_right hin
        refine ⟨left,right,hleft,hright,?_⟩
        rw [hnot hin,get_set_self]
    · intro hkey
      rw [mem_cons,not_or] at hkey
      rw [hnot hkey.2,get_set_of_ne _ _ hkey.1]

theorem mem_unionKeys {source target : Members} : key ∈ unionKeys target source ↔ source.has key ∨ target.has key := by
  rw [unionKeys,mem_append,mem_filter,has_iff_mem_keys,has_iff_mem_keys,decide_eq_true_eq]
  constructor
  · rintro (h | ⟨h,-⟩)
    · exact .inl h
    · exact .inr h
  · rintro (h | h)
    · exact .inl h
    · by_cases hmem : key ∈ source.keys
      · exact .inl hmem
      · exact .inr ⟨h,hmem⟩

theorem claimUnion_of_merge {claims : Members}
    (h : (unionKeys targetClaims sourceClaims).foldlM (mergeReplayClaim sourceClaims targetClaims) .empty =
      .ok claims) : ClaimUnion sourceClaims targetClaims claims := by
  have hclaim (key : JsString) := mergeReplayClaims_eq_ok h key
  constructor
  · intro key
    rw [← mem_unionKeys]
    by_cases hkey : key ∈ unionKeys targetClaims sourceClaims
    · obtain ⟨left,right,-,-,hget⟩ := (hclaim key).1 hkey
      exact iff_of_true (has_iff.mpr ⟨_,hget⟩) hkey
    · refine iff_of_false ?_ hkey
      rw [has,(hclaim key).2 hkey]
      exact Bool.false_ne_true
  · intro key expiresAt hget
    have hkey : key ∈ unionKeys targetClaims sourceClaims := by
      refine mem_unionKeys.mpr ?_
      rcases hget with hget | hget
      · exact .inl (has_iff.mpr ⟨_,hget⟩)
      · exact .inr (has_iff.mpr ⟨_,hget⟩)
    obtain ⟨left,right,hleft,hright,hkept⟩ := (hclaim key).1 hkey
    refine ⟨max left right,hkept,?_⟩
    rcases hget with hget | hget
    · rcases (replayClaim_eq_ok hleft).2 with ⟨hnone,-⟩ | hsome
      · rw [hget] at hnone
        cases hnone
      · rw [hget] at hsome
        cases hsome
        exact le_max_left _ _
    · rcases (replayClaim_eq_ok hright).2 with ⟨hnone,-⟩ | hsome
      · rw [hget] at hnone
        cases hnone
      · rw [hget] at hsome
        cases hsome
        exact le_max_right _ _
  · intro key claim hget
    by_cases hkey : key ∈ unionKeys targetClaims sourceClaims
    · obtain ⟨left,right,hleft,hright,hkept⟩ := (hclaim key).1 hkey
      rw [hget] at hkept
      obtain rfl := some.inj hkept
      obtain ⟨hleft0,hleft⟩ := replayClaim_eq_ok hleft
      obtain ⟨hright0,hright⟩ := replayClaim_eq_ok hright
      rcases hleft with ⟨hnone,rfl⟩ | hleft
      · rcases hright with ⟨hnone',rfl⟩ | hright
        · rcases mem_unionKeys.mp hkey with hhas | hhas
          · rw [has,hnone] at hhas
            cases hhas
          · rw [has,hnone'] at hhas
            cases hhas
        · rw [max_eq_right hright0]
          exact .inr hright
      · rcases hright with ⟨-,rfl⟩ | hright
        · rw [max_eq_left hleft0]
          exact .inl hleft
        · rcases le_total left right with hle | hle
          · rw [max_eq_right hle]
            exact .inr hright
          · rw [max_eq_left hle]
            exact .inl hleft
    · rw [(hclaim key).2 hkey] at hget
      cases hget

theorem mergeReplayStore_eq_ok (h : mergeReplayStore name sourceFile targetFile = .ok content) :
    ClaimUnion (recordOf "claims" sourceFile.content) (recordOf "claims" targetFile.content)
      (recordOf "claims" content) := by
  obtain ⟨source,hsource,h⟩ := bind_eq_ok.mp h
  cases source with
  | none =>
    obtain rfl := ok.inj h
    rw [readOptionalRecord_none hsource,recordOf_none]
    refine ⟨(isUnion_empty_left (fun _ => rfl) _ : IsUnion Eq _ _ _).has,?_,fun _ _ => .inr⟩
    rintro key expiresAt (hget | hget)
    · cases hget
    · exact ⟨expiresAt,hget,le_refl _⟩
  | some source =>
    obtain ⟨target,htarget,h⟩ := bind_eq_ok.mp h
    obtain ⟨-,-,h⟩ := bind_eq_ok.mp h
    obtain ⟨sourceClaims,hsourceClaims,h⟩ := bind_eq_ok.mp h
    obtain ⟨targetClaims,htargetClaims,h⟩ := bind_eq_ok.mp h
    obtain ⟨claims,hclaims,h⟩ := bind_eq_ok.mp h
    obtain rfl := ok.inj h
    obtain ⟨value,hcontent,hrecord⟩ := readOptionalRecord_some hsource
    have hresult : recordOf "claims" (some (.obj [("version",.num 1),("claims",.obj claims.entries)])) = claims :=
      recordOf_field rfl
    rw [recordOf_eq hcontent hrecord (requireRecord_eq_ok.mp hsourceClaims),
      recordOf_target htarget rfl (requireRecord_eq_ok.mp htargetClaims),hresult]
    exact claimUnion_of_merge hclaims

theorem mergeReplayStores_eq_ok {source target : ReplayStore → JsonFile} {merged : ReplayStore → Option Json}
    (h : mergeReplayStores source target = .ok merged) (store : ReplayStore) :
    mergeReplayStore store.name (source store) (target store) = .ok (merged store) := by
  obtain ⟨gateway,hgateway,h⟩ := bind_eq_ok.mp h
  obtain ⟨envelope,henvelope,h⟩ := bind_eq_ok.mp h
  obtain ⟨pairing,hpairing,h⟩ := bind_eq_ok.mp h
  obtain ⟨enrollment,henrollment,h⟩ := bind_eq_ok.mp h
  obtain rfl := ok.inj h
  cases store with
  | gateway => exact hgateway
  | envelope => exact henvelope
  | pairing => exact hpairing
  | enrollment => exact henrollment

theorem mergeRecordFields_eq_ok {source target merged merged' : Members}
    (h : fields.foldlM (mergeRecordField source target) merged = .ok merged') (field : JsString) :
    (field ∈ fields → ∃ left right records,(source.get field).bind record = some left ∧
      (target.get field).bind record = some right ∧ IsUnion SameValue left right records ∧
      (merged'.get field).bind record = some records) ∧ (field ∉ fields → merged'.get field = merged.get field) := by
  induction fields generalizing merged with
  | nil =>
    obtain rfl := ok.inj h
    refine ⟨?_,fun _ => rfl⟩
    intro hfield
    cases hfield
  | cons first fields ih =>
    rw [foldlM_cons] at h
    obtain ⟨next,hnext,hrest⟩ := bind_eq_ok.mp h
    obtain ⟨left,hleft,hnext⟩ := bind_eq_ok.mp hnext
    obtain ⟨right,hright,hnext⟩ := bind_eq_ok.mp hnext
    obtain ⟨records,hrecords,hnext⟩ := bind_eq_ok.mp hnext
    obtain rfl := ok.inj hnext
    obtain ⟨hmem,hnot⟩ := ih hrest
    constructor
    · intro hfield
      by_cases hin : field ∈ fields
      · exact hmem hin
      · obtain rfl := (mem_cons.mp hfield).resolve_right hin
        refine ⟨left,right,records,requireRecord_eq_ok.mp hleft,requireRecord_eq_ok.mp hright,
          isUnion_of_mergeMembers hrecords,?_⟩
        rw [hnot hin,get_set_self,Option.bind_some,record_obj_entries]
    · intro hfield
      rw [mem_cons,not_or] at hfield
      rw [hnot hfield.2,get_set_of_ne _ _ hfield.1]

theorem mergeRecordStore_eq_ok (h : mergeRecordStore name sourceFile targetFile workspaceId fields = .ok content)
    (hfield : field ∈ fields) : IsUnion SameValue (recordOf field sourceFile.content)
      (recordOf field targetFile.content) (recordOf field content) := by
  obtain ⟨source,hsource,h⟩ := bind_eq_ok.mp h
  cases source with
  | none =>
    obtain rfl := ok.inj h
    rw [readOptionalRecord_none hsource,recordOf_none]
    exact isUnion_empty_left sameValue_refl _
  | some source =>
    obtain ⟨target,htarget,h⟩ := bind_eq_ok.mp h
    cases target with
    | none =>
      obtain rfl := ok.inj h
      rw [readOptionalRecord_none htarget,recordOf_none]
      exact isUnion_empty_right sameValue_refl _
    | some target =>
      obtain ⟨-,-,h⟩ := bind_eq_ok.mp h
      obtain ⟨merged,hmerged,h⟩ := bind_eq_ok.mp h
      obtain rfl := ok.inj h
      obtain ⟨value,hcontent,hrecord⟩ := readOptionalRecord_some hsource
      obtain ⟨value',hcontent',hrecord'⟩ := readOptionalRecord_some htarget
      obtain ⟨left,right,records,hleft,hright,hunion,hrecords⟩ := (mergeRecordFields_eq_ok hmerged field).1 hfield
      rw [recordOf_eq hcontent hrecord hleft,recordOf_eq hcontent' hrecord' hright,
        recordOf_eq rfl (record_obj_entries merged) hrecords]
      exact hunion

theorem mergeNativeReleases_eq_ok {platform : Platform}
    (h : mergeNativeReleases platform sourceFile targetFile workspaceId = .ok content)
    (hsourceReleases : HasReleases sourceFile.content) (htargetReleases : HasReleases targetFile.content) :
    KeyedMerges.Collected StandsForRelease releaseKey
      (arrayOf "releases" targetFile.content ++ arrayOf "releases" sourceFile.content)
      (arrayOf "releases" content) := by
  obtain ⟨source,hsource,h⟩ := bind_eq_ok.mp h
  cases source with
  | none =>
    obtain rfl := ok.inj h
    have hempty : arrayOf "releases" sourceFile.content = [] := by
      rw [readOptionalRecord_none hsource]
      rfl
    rw [hempty,append_nil]
    exact ⟨htargetReleases.once,fun _ => id,fun release hrelease => ⟨release,hrelease,rfl,.inl rfl⟩⟩
  | some source =>
    obtain ⟨target,htarget,h⟩ := bind_eq_ok.mp h
    obtain ⟨-,-,h⟩ := bind_eq_ok.mp h
    obtain ⟨sourceReleases,hsourceArray,h⟩ := bind_eq_ok.mp h
    obtain ⟨targetReleases,htargetArray,h⟩ := bind_eq_ok.mp h
    obtain ⟨releases,hreleases,h⟩ := bind_eq_ok.mp h
    obtain rfl := ok.inj h
    obtain ⟨value,hcontent,hrecord⟩ := readOptionalRecord_some hsource
    have hversions := hsourceReleases.versions
    have hversions' := htargetReleases.versions
    rw [arrayOf_eq hcontent hrecord (requireArray_eq_ok.mp hsourceArray)] at hversions ⊢
    rw [arrayOf_target htarget rfl (requireArray_eq_ok.mp htargetArray)] at hversions' ⊢
    refine collected_of_mergeKeyedArrays (keeps_releases _ _) ?_ hreleases
    intro release hrelease
    rcases mem_append.mp hrelease with hrelease | hrelease
    · exact hversions' release hrelease
    · exact hversions release hrelease

end

theorem mergeFiles_eq_ok {platform : Platform} {input : HandoffInput} {source candidate target : GatewayFiles}
    {counts : HandoffCounts} (h : mergeFiles platform input source candidate = .ok (counts,target)) :
    HandedOver platform input source candidate target := by
  obtain ⟨projectCatalog,hcatalog,h⟩ := bind_eq_ok.mp h
  obtain ⟨⟨runtimeState,found⟩,hruntime,h⟩ := bind_eq_ok.mp h
  obtain ⟨commandJournal,hjournal,h⟩ := bind_eq_ok.mp h
  obtain ⟨inbox,hinbox,h⟩ := bind_eq_ok.mp h
  obtain ⟨outbox,houtbox,h⟩ := bind_eq_ok.mp h
  obtain ⟨timelineKeys,htimeline,h⟩ := bind_eq_ok.mp h
  obtain ⟨replayStore,hreplay,h⟩ := bind_eq_ok.mp h
  obtain ⟨artifacts,hartifacts,h⟩ := bind_eq_ok.mp h
  obtain ⟨providerHistory,hhistory,h⟩ := bind_eq_ok.mp h
  obtain ⟨nativeReleases,hreleases,h⟩ := bind_eq_ok.mp h
  obtain ⟨webPush,-,h⟩ := bind_eq_ok.mp h
  obtain ⟨attachments,-,h⟩ := bind_eq_ok.mp h
  obtain ⟨scratchSessions,-,h⟩ := bind_eq_ok.mp h
  obtain ⟨rfl,rfl⟩ := Prod.mk.inj (ok.inj h)
  have hunion := mergeCommandJournal_eq_ok hjournal
  exact {
    catalog := mergeProjectCatalog_eq_ok hcatalog
    projects := projects_of_mergeRuntimeState hruntime
    sessions := sessions_of_mergeRuntimeState hruntime
    journal := hunion
    notAgain := fun _ => hunion.notAgain
    inbox := ⟨inbox,rfl,mergeInboxes_eq_ok hinbox⟩
    outbox := mergeOutboxes_eq_ok houtbox
    timelineKeys := mergeTimelineKeys_eq_ok htimeline
    replayClaims := fun store => mergeReplayStore_eq_ok (mergeReplayStores_eq_ok hreplay store)
    artifacts := by
      intro name hname
      refine mergeRecordStore_eq_ok hartifacts ?_
      rcases hname with rfl | rfl
      · exact mem_cons_self
      · exact mem_cons_of_mem _ mem_cons_self
    snapshots := mergeRecordStore_eq_ok hhistory mem_cons_self
    releases := mergeNativeReleases_eq_ok hreleases }

/-- A handoff is refused and leaves both directories as they are, or it hands over everything of both. -/
theorem buildGatewayDeploymentHandoff_union (platform : Platform) (input : HandoffInput) (directories : Directories) :
    (buildGatewayDeploymentHandoff platform input directories).2.source = directories.source ∧
      (buildGatewayDeploymentHandoff platform input directories).2.candidate = directories.candidate ∧
      (∀ failure,(buildGatewayDeploymentHandoff platform input directories).1 = .error failure →
        (buildGatewayDeploymentHandoff platform input directories).2.target = none ∨
          (buildGatewayDeploymentHandoff platform input directories).2 = directories) ∧
      ∀ counts, (buildGatewayDeploymentHandoff platform input directories).1 = .ok counts →
        ∃ target, (buildGatewayDeploymentHandoff platform input directories).2.target = some target ∧
          HandedOver platform input directories.source directories.candidate target := by
  rw [buildGatewayDeploymentHandoff]
  by_cases hid : Deployment.isReleaseId input.updateId = false
  · rw [if_pos hid]
    refine ⟨rfl,rfl,fun _ _ => .inr rfl,?_⟩
    intro counts h
    cases h
  rw [if_neg hid]
  by_cases hsame : input.sourceDirectory = input.candidateDirectory
  · rw [if_pos hsame]
    refine ⟨rfl,rfl,fun _ _ => .inr rfl,?_⟩
    intro counts h
    cases h
  rw [if_neg hsame]
  cases hmerge : mergeFiles platform input directories.source directories.candidate with
  | error failure =>
    refine ⟨rfl,rfl,fun _ _ => .inl rfl,?_⟩
    intro counts h
    cases h
  | ok merged =>
    obtain ⟨counts,target⟩ := merged
    refine ⟨rfl,rfl,?_,fun _ _ => ⟨target,rfl,mergeFiles_eq_ok hmerge⟩⟩
    intro failure h
    cases h

instance (left right : Json) : Decidable (SameValue left right) :=
  inferInstanceAs (Decidable (left.canonicalJson = right.canonicalJson))

def samplePlatform : Platform where
  localeLe left right := decide (left ≤ right)
  sha256 text := text

def sampleInput : HandoffInput where
  sourceDirectory := "/state"
  candidateDirectory := "/candidate"
  transactionRoot := "/handoffs"
  updateId := "u1"
  candidateGatewayNodeId := "b"
  workspaceId := "w"
  retainedRoomId := some "!recovery"
  generation := "g2"

def sampleCatalog (rooms : List JsString) : Json :=
  .obj [("version",.num 1),("projects",.arr (rooms.map fun room =>
    .obj [("roomId",.str room),("conversationId",.str room)]))]

def sampleRuntime (projects : List (JsString × Json)) : Json :=
  .obj [("version",.num 3),("workspaceId",.str "w"),("projects",.obj projects)]

def emptyTable : CommandTable where
  rows := .empty
  keyed := by
    intro key row hget
    cases hget
  checked := by
    intro key row hget
    cases hget

def sampleJournal : JournalFile where
  quickCheck := true
  schemaVersion := some 2
  generation := "g1"
  legacySource := none
  commands := emptyTable

def sampleReleases (code : ℤ) : Json :=
  .obj [("version",.num 1),("workspaceId",.str "w"),("releases",.arr [.obj [("platform",.str "android"),
    ("channel",.str "stable"),("architecture",.str "arm64"),("versionCode",.num code)]])]

def sampleFiles (rooms : List JsString) (projects : List (JsString × Json)) (code : ℤ) : GatewayFiles where
  projectCatalog := some (sampleCatalog rooms)
  runtimeState := some (sampleRuntime projects)
  commandJournal := some sampleJournal
  inbox := none
  shadowInbox := none
  outbox := none
  shadowRooms := none
  timelineKeys := none
  replayStore := fun _ => none
  artifacts := none
  providerHistory := none
  nativeReleases := some (sampleReleases code)
  webPush := none
  attachments := .empty
  scratchSessions := .empty

def sampleScratch : Json := .obj [("id",.str "s"),("scope",.str "scratch"),("cwd",.str "/state/scratch-sessions/s")]

def sampleSource : GatewayFiles :=
  sampleFiles ["!recovery","!a"]
    [("!recovery",.obj [("sessions",.arr [])]),("!a",.obj [("sessions",.arr [sampleScratch])])] 1

def sampleCandidate : GatewayFiles := sampleFiles ["!b"] [("!b",.obj [("sessions",.arr [])])] 2

/-- Some of the values has no value among the merged ones. -/
def lacksOne (values merged : List Json) : Bool :=
  values.any fun value => merged.all fun other => decide (¬ SameValue other value)

theorem lacksOne_iff {values merged : List Json} (h : lacksOne values merged) :
    ∃ value ∈ values, ∀ other ∈ merged, ¬ SameValue other value := by
  obtain ⟨value,hvalue,hall⟩ := any_eq_true.mp h
  exact ⟨value,hvalue,fun other hother => of_decide_eq_true (all_eq_true.mp hall other hother)⟩

theorem mergeFiles_sample : ∃ merged, mergeFiles samplePlatform sampleInput sampleSource sampleCandidate = .ok merged ∧
    (lacksOne (arrayOf "projects" sampleSource.projectCatalog) (arrayOf "projects" merged.2.projectCatalog) &&
      lacksOne (sessionsOf (recordOf "projects" sampleSource.runtimeState))
        (sessionsOf (recordOf "projects" merged.2.runtimeState)) &&
      lacksOne (arrayOf "releases" sampleSource.nativeReleases) (arrayOf "releases" merged.2.nativeReleases)) = true :=
  eq_ok_of_toOption_any (by decide)

/-- The recovery room stays with its Gateway, a scratch session has another directory, and an older release is not
kept. -/
theorem handoff_is_no_exact_union :
    ∃ counts target, buildGatewayDeploymentHandoff samplePlatform sampleInput ⟨sampleSource,sampleCandidate,none⟩ =
        (.ok counts,⟨sampleSource,sampleCandidate,some target⟩) ∧
      (∃ project ∈ arrayOf "projects" sampleSource.projectCatalog,
        ∀ merged ∈ arrayOf "projects" target.projectCatalog,¬ SameValue merged project) ∧
      (∃ session ∈ sessionsOf (recordOf "projects" sampleSource.runtimeState),
        ∀ merged ∈ sessionsOf (recordOf "projects" target.runtimeState),¬ SameValue merged session) ∧
      ∃ release ∈ arrayOf "releases" sampleSource.nativeReleases,
        ∀ merged ∈ arrayOf "releases" target.nativeReleases, ¬ SameValue merged release := by
  obtain ⟨⟨counts,target⟩,hmerge,hlacks⟩ := mergeFiles_sample
  rw [Bool.and_eq_true,Bool.and_eq_true] at hlacks
  refine ⟨counts,target,?_,lacksOne_iff hlacks.1.1,lacksOne_iff hlacks.1.2,lacksOne_iff hlacks.2⟩
  have hid : ¬ Deployment.isReleaseId sampleInput.updateId = false := by decide
  have hdirectories : ¬ sampleInput.sourceDirectory = sampleInput.candidateDirectory := by decide
  rw [buildGatewayDeploymentHandoff,if_neg hid,if_neg hdirectories,hmerge]

end Malink.Handoff
