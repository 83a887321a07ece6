import Malink.HandoffStores

/-!
# What is handed over

The merged state has everything of both directories once, but for the projects of a retained recovery room.
-/

namespace Malink.Handoff

open List InsertionMap Option
open Except (ok)
open Json (canonicalJson field)
open Prod (fst)

def SameValue (left right : Json) : Prop := left.canonicalJson = right.canonicalJson

/-- The members are there in both values or in none, and have one canonical text. -/
def SameMember (name : JsString) (left right : Json) : Prop :=
  (left.field name).map canonicalJson = (right.field name).map canonicalJson

def arrayOf (name : JsString) (content : Option Json) : List Json :=
  match content.bind (field name) with
  | some (.arr values) => values
  | _ => []

def recordOf (name : JsString) (content : Option Json) : Members :=
  ((content.bind (field name)).bind record).getD .empty

section

variable (platform : Platform) (directory : JsString)

def sessionIdOf (session : Json) : JsString :=
  match session.field "id" with
  | some (.str sessionId) => sessionId
  | _ => ""

/-- The session is the same one, but for the directory of a scratch session. -/
structure Relocated (session relocated : Json) : Prop where
  members : ∀ name : JsString, name ≠ "cwd" → SameMember name relocated session
  cwd : (relocated.field "cwd").map canonicalJson =
    if session.field "scope" = some (.str "scratch")
    then some (canonicalJson (.str (scratchSessionDirectory platform directory (sessionIdOf session))))
    else (session.field "cwd").map canonicalJson

structure SessionUnion (sessions merged : List Json) : Prop where
  once : (merged.map (field "id")).Nodup
  kept : ∀ session ∈ sessions, ∃ relocated ∈ merged, Relocated platform directory session relocated
  from_sessions : ∀ relocated ∈ merged, ∃ session ∈ sessions, Relocated platform directory session relocated

end

def sessionsOf (projects : Members) : List Json :=
  projects.values.flatMap fun project => arrayOf "sessions" (some project)

/-- Everything of a project but its sessions, which are handed over one by one. -/
def SameProject (merged project : Json) : Prop := ∀ name : JsString, name ≠ "sessions" → SameMember name merged project

def JournalUnion (source candidate target : Option JournalFile) : Prop :=
  ∃ source' candidate' target', source = some source' ∧ candidate = some candidate' ∧ target = some target' ∧
    IsUnion Eq source'.commands.rows candidate'.commands.rows target'.commands.rows

/-- Only an accepted command is still to be executed. -/
def ToExecute (journal : Option JournalFile) (key : JsString) : Prop :=
  ∃ file row, journal = some file ∧ file.commands.rows.get key = some row ∧ row.status = .accepted

def WasExecuted (journal : Option JournalFile) (key : JsString) : Prop :=
  ∃ file row, journal = some file ∧ file.commands.rows.get key = some row ∧ row.status ≠ .accepted

structure InboxUnion (files : List (Option Gateway.Inbox.Records)) (merged : Gateway.Inbox.Records) : Prop where
  has : ∀ key, merged.has key ↔ ∃ records, some records ∈ files ∧ records.has key
  kept : ∀ records, some records ∈ files → ∀ key event, records.get key = some event →
    ∃ kept, merged.get key = some kept ∧ sameJson recordJson kept event

def OutboxUnion (candidate source target : Outbox.WalFile) : Prop :=
  ∃ candidateRecords sourceRecords merged, Outbox.fileEntries candidate = some candidateRecords ∧
    Outbox.fileEntries source = some sourceRecords ∧ target = some (Outbox.encodeEntries merged) ∧
    Outbox.MergedLog (candidateRecords ++ sourceRecords) merged

/-- A claim expires when the later one of both does. -/
structure ClaimUnion (source candidate merged : Members) : Prop where
  has : ∀ key, merged.has key ↔ source.has key ∨ candidate.has key
  kept : ∀ key expiresAt, source.get key = some (.num expiresAt) ∨ candidate.get key = some (.num expiresAt) →
    ∃ kept, merged.get key = some (.num kept) ∧ expiresAt ≤ kept
  from_claims : ∀ key claim, merged.get key = some claim → source.get key = some claim ∨ candidate.get key = some claim

def versionCode (release : Json) : Option ℤ := numberOf (release.field "versionCode")

def StandsForRelease (kept release : Json) : Prop :=
  SameValue kept release ∨ ∃ code keptCode, versionCode release = some code ∧ versionCode kept = some keptCode ∧
    code < keptCode

/-- What a Gateway stores: one release for each binding, each with its version. -/
structure HasReleases (content : Option Json) : Prop where
  versions : ∀ release ∈ arrayOf "releases" content, (versionCode release).isSome
  once : ((arrayOf "releases" content).map releaseKey).Nodup

/-- What the new directory has of both. -/
structure HandedOver (platform : Platform) (input : HandoffInput) (source candidate target : GatewayFiles) : Prop where
  catalog : KeyedMerges.Collected SameValue roomKey
    (arrayOf "projects" candidate.projectCatalog ++
      (arrayOf "projects" source.projectCatalog).filter (isHandedOver input.retainedRoomId))
    (arrayOf "projects" target.projectCatalog)
  projects : IsUnion SameProject
    ((recordOf "projects" source.runtimeState).filter fun roomId _ => decide (some roomId ≠ input.retainedRoomId))
    (recordOf "projects" candidate.runtimeState) (recordOf "projects" target.runtimeState)
  sessions : SessionUnion platform input.targetDirectory
    (sessionsOf ((recordOf "projects" source.runtimeState).filter
        fun roomId _ => decide (some roomId ≠ input.retainedRoomId)) ++
      sessionsOf (recordOf "projects" candidate.runtimeState))
    (sessionsOf (recordOf "projects" target.runtimeState))
  journal : JournalUnion source.commandJournal candidate.commandJournal target.commandJournal
  notAgain : ∀ key, WasExecuted source.commandJournal key ∨ WasExecuted candidate.commandJournal key →
    ¬ ToExecute target.commandJournal key
  inbox : ∃ merged, target.inbox = some merged ∧
    InboxUnion [source.inbox,candidate.inbox,candidate.shadowInbox] merged
  outbox : OutboxUnion candidate.outbox source.outbox target.outbox
  timelineKeys : IsUnion SameValue (recordOf "rooms" source.timelineKeys)
    (recordOf "rooms" candidate.timelineKeys) (recordOf "rooms" target.timelineKeys)
  replayClaims : ∀ store, ClaimUnion (recordOf "claims" (source.replayStore store))
    (recordOf "claims" (candidate.replayStore store)) (recordOf "claims" (target.replayStore store))
  artifacts : ∀ name : JsString, name = "references" ∨ name = "messages" → IsUnion SameValue
    (recordOf name source.artifacts) (recordOf name candidate.artifacts) (recordOf name target.artifacts)
  snapshots : IsUnion SameValue (recordOf "snapshots" source.providerHistory)
    (recordOf "snapshots" candidate.providerHistory) (recordOf "snapshots" target.providerHistory)
  releases : HasReleases source.nativeReleases → HasReleases candidate.nativeReleases →
    KeyedMerges.Collected StandsForRelease releaseKey
      (arrayOf "releases" candidate.nativeReleases ++ arrayOf "releases" source.nativeReleases)
      (arrayOf "releases" target.nativeReleases)

section

variable {members : Members} {value left right : Json} {name label : JsString} {file : JsonFile}

theorem get_foldl_set (entries : List (JsString × Json)) (members : Members) (name : JsString) :
    (entries.foldl (fun members entry => members.set entry.1 entry.2) members).get name =
      ((entries.findRev? fun entry => entry.1 = name).map Prod.snd).or (members.get name) := by
  induction entries generalizing members with
  | nil => rfl
  | cons entry entries ih =>
    rw [foldl_cons,ih,get_set,findRev?]
    cases entries.findRev? fun entry => entry.1 = name with
    | some found => rfl
    | none =>
      by_cases h : name = entry.1
      · subst h
        simp
      · simp [h,Ne.symm h]

theorem get_record (h : record value = some members) (name : JsString) : members.get name = value.field name := by
  cases value with
  | obj entries =>
    obtain rfl := some.inj h
    exact (get_foldl_set entries .empty name).trans (or_none ..)
  | null | bool _ | num _ | str _ | arr _ => cases h

theorem field_obj_entries (members : Members) (name : JsString) :
    (Json.obj members.entries).field name = members.get name :=
  have hrecord : record (.obj members.entries) = some members := congrArg some (ofEntries_entries members)
  (get_record hrecord name).symm

theorem record_obj_entries (members : Members) : record (.obj members.entries) = some members :=
  congrArg some (ofEntries_entries members)

theorem requireRecord_eq_ok {value : Option Json} : requireRecord value label = .ok members ↔
    value.bind record = some members := by
  rw [requireRecord]
  cases value.bind record with
  | none =>
    constructor
    · intro h
      cases h
    · intro h
      cases h
  | some found => exact ⟨fun h => congrArg some (ok.inj h),fun h => congrArg Except.ok (some.inj h)⟩

theorem requireArray_eq_ok {value : Option Json} {values : List Json} :
    requireArray value label = .ok values ↔ value = some (.arr values) := by
  constructor
  · intro h
    cases value with
    | none => cases h
    | some found =>
      cases found with
      | arr found => rw [ok.inj h]
      | null | bool _ | num _ | str _ | obj _ => cases h
  · rintro rfl
    rfl

theorem requireString_eq_ok {value : Option Json} {text : JsString} :
    requireString value label = .ok text ↔ value = some (.str text) ∧ text.truthy := by
  constructor
  · intro h
    cases value with
    | none => cases h
    | some found =>
      cases found with
      | str found =>
        rw [requireString] at h
        by_cases htruthy : found.truthy
        · rw [if_pos htruthy] at h
          obtain rfl := ok.inj h
          exact ⟨rfl,htruthy⟩
        · rw [if_neg htruthy] at h
          cases h
      | null | bool _ | num _ | arr _ | obj _ => cases h
  · rintro ⟨rfl,htruthy⟩
    rw [requireString,if_pos htruthy]

theorem readOptionalRecord_none (h : readOptionalRecord file = .ok none) : file.content = none := by
  rw [readOptionalRecord] at h
  cases hcontent : file.content with
  | none => rfl
  | some value =>
    rw [hcontent] at h
    simp only [Except.map] at h
    split at h <;> cases h

theorem readOptionalRecord_some (h : readOptionalRecord file = .ok (some members)) :
    ∃ value, file.content = some value ∧ record value = some members := by
  rw [readOptionalRecord] at h
  cases hcontent : file.content with
  | none =>
    rw [hcontent] at h
    cases h
  | some value =>
    rw [hcontent] at h
    simp only [Except.map] at h
    split at h
    · cases h
    · next found hfound =>
      cases h
      exact ⟨value,rfl,requireRecord_eq_ok.mp hfound⟩

theorem readRequiredRecord_eq_ok (h : readRequiredRecord file label = .ok members) :
    ∃ value, file.content = some value ∧ record value = some members := by
  obtain ⟨found,hread,hfound⟩ := bind_eq_ok.mp h
  cases found with
  | none => cases hfound
  | some found =>
    obtain rfl := ok.inj hfound
    exact readOptionalRecord_some hread

variable {content : Option Json}

theorem arrayOf_eq {values : List Json} (hcontent : content = some value) (hrecord : record value = some members)
    (h : members.get name = some (.arr values)) : arrayOf name content = values := by
  have hfield : value.field name = some (.arr values) := (get_record hrecord name).symm.trans h
  rw [arrayOf,hcontent,bind_some,hfield]

theorem recordOf_eq {found : Members} (hcontent : content = some value) (hrecord : record value = some members)
    (h : (members.get name).bind record = some found) : recordOf name content = found := by
  rw [recordOf,hcontent,bind_some,← get_record hrecord name,h]
  rfl

theorem recordOf_none (name : JsString) : recordOf name none = .empty := rfl

end

variable {value session relocated : Json}

section

variable {left right : Json} {name : JsString}

theorem sameValue_refl (value : Json) : SameValue value value := rfl

theorem sameJson_iff : sameJson (fun value => value) left right ↔ SameValue left right := decide_eq_true_iff

theorem sortKeys_of_sameValue (h : SameValue left right) : left.sortKeys = right.sortKeys :=
  Json.sortKeys_eq_of_canonicalJson h

theorem SameValue.member (h : SameValue left right) (name : JsString) : SameMember name left right := by
  have hfield : (left.field name).map Json.sortKeys = (right.field name).map Json.sortKeys := by
    rw [← Json.field_sortKeys,← Json.field_sortKeys,sortKeys_of_sameValue h]
  have hmap (value : Option Json) :
      value.map canonicalJson = (value.map Json.sortKeys).map fun value => JsString.ofChars value.stringify := by
    rw [Option.map_map]
    rfl
  rw [SameMember,hmap,hmap,hfield]

section

variable (h : SameMember name left right)
include h

theorem SameMember.sortKeys (hvalue : right.field name = some value) :
    ∃ other, left.field name = some other ∧ other.sortKeys = value.sortKeys := by
  rw [SameMember,hvalue,map_some] at h
  obtain ⟨other,hother,hsame⟩ := map_eq_some_iff.mp h
  exact ⟨other,hother,Json.sortKeys_eq_of_canonicalJson hsame⟩

theorem SameMember.symm : SameMember name right left := Eq.symm h

theorem SameMember.trans {third : Json} (h' : SameMember name right third) :
    SameMember name left third := Eq.trans h h'

theorem SameMember.text {text : JsString} (htext : right.field name = some (.str text)) :
    left.field name = some (.str text) := by
  obtain ⟨other,hother,hsort⟩ := h.sortKeys htext
  cases other with
  | str found =>
    rw [hother]
    exact congrArg some (by simpa [Json.sortKeys] using hsort)
  | null | bool _ | num _ | arr _ | obj _ => simp [Json.sortKeys] at hsort

omit h in
theorem sortElements_eq_map (values : List Json) : Json.sortElements values = values.map Json.sortKeys := by
  induction values with
  | nil => rfl
  | cons value values ih => rw [Json.sortElements,ih,map_cons]

theorem SameMember.element (hvalue : value ∈ arrayOf name (some right)) :
    ∃ other ∈ arrayOf name (some left), SameValue other value := by
  cases hfield : right.field name with
  | none =>
    rw [arrayOf,bind_some,hfield] at hvalue
    cases hvalue
  | some found =>
    cases found with
    | arr values =>
      rw [arrayOf,bind_some,hfield] at hvalue
      obtain ⟨other,hother,hsort⟩ := h.sortKeys hfield
      cases other with
      | arr others =>
        rw [Json.sortKeys,Json.sortKeys,Json.arr.injEq,sortElements_eq_map,sortElements_eq_map] at hsort
        have hmem : value.sortKeys ∈ others.map Json.sortKeys := hsort ▸ mem_map_of_mem hvalue
        obtain ⟨element,helement,heq⟩ := mem_map.mp hmem
        refine ⟨element,?_,?_⟩
        · rw [arrayOf,bind_some,hother]
          exact helement
        · rw [SameValue,canonicalJson,canonicalJson,heq]
      | null | bool _ | num _ | str _ | obj _ => simp [Json.sortKeys] at hsort
    | null | bool _ | num _ | str _ | obj _ =>
      rw [arrayOf,bind_some,hfield] at hvalue
      cases hvalue

end

theorem numberOf_sortKeys (value : Json) : numberOf (some value.sortKeys) = numberOf (some value) := by
  cases value with
  | null | bool _ | num _ | str _ | arr _ | obj _ => simp [Json.sortKeys,numberOf]

theorem SameValue.versionCode (h : SameValue left right) : versionCode left = versionCode right := by
  have hmember := h.member "versionCode"
  rw [Handoff.versionCode,Handoff.versionCode]
  cases hfield : right.field "versionCode" with
  | none =>
    rw [SameMember,hfield,map_none,map_eq_none_iff] at hmember
    rw [hmember]
  | some value =>
    obtain ⟨other,hother,hsort⟩ := hmember.sortKeys hfield
    rw [hother,← numberOf_sortKeys,hsort,numberOf_sortKeys]

end

section

variable {source target merged : Members} {label : JsString}

theorem isUnion_of_mergeMembers (h : mergeMembers source target label = .ok merged) :
    IsUnion SameValue source target merged :=
  isUnion_of_union (fun _ => rfl) (fun _ _ hsame => sameJson_iff.mp hsame)
    (mapError_eq_ok.mp (mapError_eq_ok.mp h))

variable {platform : Platform} {keyOf : Json → Except HandoffFailure JsString} {standsFor : Json → Json → Prop}
  {p : Json → Prop} {resolve : Option (Json → Json → Except HandoffFailure Json)} {values others collected : List Json}

theorem collected_of_mergeKeyedArrays (hkeeps : KeyedMerges.Keeps p standsFor keyOf (resolveValues label resolve))
    (hp : ∀ value ∈ others ++ values,p value)
    (h : mergeKeyedArrays platform values others keyOf label resolve = .ok collected) :
    KeyedMerges.Collected standsFor keyOf (others ++ values) collected := by
  obtain ⟨found,hput,hcollected⟩ := bind_eq_ok.mp h
  obtain rfl := ok.inj hcollected
  exact (KeyedMerges.holds_putAll hkeeps hp hput).collected (perm_insertionSort _ _)

theorem keeps_same (keyOf : Json → Except HandoffFailure JsString) (label : JsString) :
    KeyedMerges.Keeps (fun _ => True) SameValue keyOf (resolveValues label none) := by
  have hcurrent {key : JsString} {current value kept : Json} (h : resolveValues label none key current value = .ok kept) :
      SameValue current value ∧ kept = current := by
    rw [resolveValues] at h
    by_cases hsame : sameJson (fun value => value) current value
    · rw [if_pos hsame] at h
      exact ⟨sameJson_iff.mp hsame,(ok.inj h).symm⟩
    · rw [if_neg hsame] at h
      cases h
  constructor
  · exact fun _ => rfl
  · exact fun _ _ _ _ h => .inl (hcurrent h).2
  · intro _ _ _ _ _ _ _ _ h
    exact (hcurrent h).2 ▸ (hcurrent h).1
  · intro _ _ _ _ _ _ _ _ h hold
    exact (hcurrent h).2 ▸ hold

variable {current kept : Json}

/-- Either both are the same, or the one with the greater version is kept. -/
theorem resolveReleases_cases {key : JsString} {currentCode code : ℤ}
    (hcurrent : versionCode current = some currentCode) (hvalue : versionCode value = some code)
    (h : resolveValues label (some resolveReleases) key current value = .ok kept) :
    (SameValue current value ∧ kept = current) ∨ (code < currentCode ∧ kept = current) ∨
      (currentCode < code ∧ kept = value) := by
  rw [resolveValues] at h
  by_cases hsame : sameJson (fun value => value) current value
  · rw [if_pos hsame] at h
    exact .inl ⟨sameJson_iff.mp hsame,(ok.inj h).symm⟩
  · rw [if_neg hsame] at h
    obtain ⟨left,hleft,h⟩ := bind_eq_ok.mp h
    obtain ⟨right,hright,h⟩ := bind_eq_ok.mp h
    have hleft' : numberOf (left.get "versionCode") = some currentCode := by
      rw [get_record (requireRecord_eq_ok.mp hleft)]
      exact hcurrent
    have hright' : numberOf (right.get "versionCode") = some code := by
      rw [get_record (requireRecord_eq_ok.mp hright)]
      exact hvalue
    rw [hleft',hright'] at h
    obtain ⟨u,hrefuse,hkept⟩ := bind_eq_ok.mp h
    have hne := refuseIf_eq_ok.mp hrefuse
    have hcodes : currentCode ≠ code := fun heq => hne ⟨heq,by simpa using hsame⟩
    have hkept := (ok.inj hkept).symm
    split at hkept
    · next hlt => exact .inr (.inl ⟨hlt,hkept⟩)
    · next hle => exact .inr (.inr ⟨by omega,hkept⟩)

theorem one_resolveReleases {key : JsString}
    (h : resolveValues label (some resolveReleases) key current value = .ok kept) : kept = current ∨ kept = value := by
  rw [resolveValues] at h
  split at h
  · exact .inl (ok.inj h).symm
  · obtain ⟨left,-,h⟩ := bind_eq_ok.mp h
    obtain ⟨right,-,h⟩ := bind_eq_ok.mp h
    split at h
    · obtain ⟨-,-,h⟩ := bind_eq_ok.mp h
      have hkept := (ok.inj h).symm
      split at hkept
      · exact .inl hkept
      · exact .inr hkept
    · exact .inr (ok.inj h).symm

theorem keeps_releases (keyOf : Json → Except HandoffFailure JsString) (label : JsString) :
    KeyedMerges.Keeps (fun release => (versionCode release).isSome = true) StandsForRelease keyOf
      (resolveValues label (some resolveReleases)) where
  refl := fun _ => .inl rfl
  one := fun _ _ _ _ => one_resolveReleases
  new := by
    intro key current value kept hcurrent hvalue _ _ h
    obtain ⟨currentCode,hcurrent⟩ := isSome_iff_exists.mp hcurrent
    obtain ⟨code,hvalue⟩ := isSome_iff_exists.mp hvalue
    rcases resolveReleases_cases hcurrent hvalue h with ⟨hsame,rfl⟩ | ⟨hlt,rfl⟩ | ⟨-,rfl⟩
    · exact .inl hsame
    · exact .inr ⟨code,currentCode,hvalue,hcurrent,hlt⟩
    · exact .inl rfl
  old := by
    intro key current value kept other hcurrent hvalue _ h hold
    obtain ⟨currentCode,hcurrent⟩ := isSome_iff_exists.mp hcurrent
    obtain ⟨code,hvalue⟩ := isSome_iff_exists.mp hvalue
    rcases resolveReleases_cases hcurrent hvalue h with ⟨-,rfl⟩ | ⟨-,rfl⟩ | ⟨hlt,rfl⟩
    · exact hold
    · exact hold
    · rcases hold with hsame | ⟨otherCode,currentCode',hother,hcurrent',hlt'⟩
      · exact .inr ⟨currentCode,code,hsame.versionCode ▸ hcurrent,hvalue,hlt⟩
      · rw [hcurrent] at hcurrent'
        obtain rfl := some.inj hcurrent'
        exact .inr ⟨otherCode,code,hother,hvalue,hlt'.trans hlt⟩

end

theorem mergeProjectCatalog_eq_ok {platform : Platform} {sourceFile targetFile : JsonFile}
    {candidateGatewayNodeId : JsString} {retainedRoomId : Option JsString} {catalog : Json}
    (h : mergeProjectCatalog platform sourceFile targetFile candidateGatewayNodeId retainedRoomId = .ok catalog) :
    KeyedMerges.Collected SameValue roomKey (arrayOf "projects" targetFile.content ++
        (arrayOf "projects" sourceFile.content).filter (isHandedOver retainedRoomId))
      (arrayOf "projects" (some catalog)) := by
  obtain ⟨source,hsource,h⟩ := bind_eq_ok.mp h
  obtain ⟨target,htarget,h⟩ := bind_eq_ok.mp h
  obtain ⟨-,-,h⟩ := bind_eq_ok.mp h
  obtain ⟨sourceProjects,hsourceProjects,h⟩ := bind_eq_ok.mp h
  obtain ⟨targetProjects,htargetProjects,h⟩ := bind_eq_ok.mp h
  obtain ⟨projects,hprojects,h⟩ := bind_eq_ok.mp h
  obtain ⟨-,-,h⟩ := bind_eq_ok.mp h
  obtain ⟨-,-,h⟩ := bind_eq_ok.mp h
  obtain ⟨-,-,h⟩ := bind_eq_ok.mp h
  obtain rfl := ok.inj h
  obtain ⟨sourceValue,hsourceContent,hsourceRecord⟩ := readRequiredRecord_eq_ok hsource
  obtain ⟨targetValue,htargetContent,htargetRecord⟩ := readRequiredRecord_eq_ok htarget
  rw [arrayOf_eq hsourceContent hsourceRecord (requireArray_eq_ok.mp hsourceProjects),
    arrayOf_eq htargetContent htargetRecord (requireArray_eq_ok.mp htargetProjects)]
  exact collected_of_mergeKeyedArrays (keeps_same _ _) (fun _ _ => trivial) hprojects

section

variable {platform : Platform} {directory roomId : JsString} {seen seen' : SeenSessions}

theorem sessionIdOf_eq {sessionId : JsString} (h : session.field "id" = some (.str sessionId)) :
    sessionIdOf session = sessionId := by
  rw [sessionIdOf,h]

theorem relocateSession_eq_ok (h : relocateSession platform directory roomId seen session = .ok (seen',relocated)) :
    ∃ sessionId, sessionId ∉ seen.sessionIds ∧ seen'.sessionIds = seen.sessionIds ++ [sessionId] ∧
      relocated.field "id" = some (.str sessionId) ∧ Relocated platform directory session relocated := by
  obtain ⟨members,hmembers,h⟩ := bind_eq_ok.mp h
  obtain ⟨sessionId,hsessionId,h⟩ := bind_eq_ok.mp h
  obtain ⟨u,hrefuse,h⟩ := bind_eq_ok.mp h
  have hrecord := requireRecord_eq_ok.mp hmembers
  have hid : session.field "id" = some (.str sessionId) :=
    (get_record hrecord "id").symm.trans (requireString_eq_ok.mp hsessionId).1
  have hscope : members.get "scope" = session.field "scope" := get_record hrecord "scope"
  refine ⟨sessionId,refuseIf_eq_ok.mp hrefuse,?_⟩
  obtain ⟨hseen,hrelocated⟩ := Prod.mk.inj (ok.inj h)
  rw [hscope] at hrelocated
  refine ⟨hseen ▸ rfl,?_⟩
  by_cases hscratch : session.field "scope" = some (.str "scratch")
  · rw [if_pos hscratch] at hrelocated
    have hfield (name : JsString) : relocated.field name =
        if name = "cwd" then some (.str (scratchSessionDirectory platform directory sessionId))
        else session.field name := by
      rw [← hrelocated,field_obj_entries,get_set,get_record hrecord]
    have hother {name : JsString} (hne : name ≠ "cwd") : relocated.field name = session.field name := by
      rw [hfield,if_neg hne]
    refine ⟨(hother (by decide)).trans hid,?_,?_⟩
    · intro name hne
      rw [SameMember,hother hne]
    · rw [hfield,if_pos rfl,if_pos hscratch,sessionIdOf_eq hid]
      rfl
  · rw [if_neg hscratch] at hrelocated
    subst hrelocated
    exact ⟨hid,fun _ _ => rfl,by rw [if_neg hscratch]⟩

theorem relocateSessions_eq_ok {sessions relocated : List Json}
    (h : relocateSessions platform directory roomId seen sessions = .ok (seen',relocated)) :
    ∃ sessionIds, seen'.sessionIds = seen.sessionIds ++ sessionIds ∧
      relocated.map (field "id") = sessionIds.map (fun sessionId => some (.str sessionId)) ∧
      Forall₂ (Relocated platform directory) sessions relocated ∧
      (seen.sessionIds.Nodup → seen'.sessionIds.Nodup) := by
  induction sessions generalizing seen relocated with
  | nil =>
    obtain ⟨rfl,rfl⟩ := Prod.mk.inj (ok.inj h)
    exact ⟨[],(append_nil _).symm,rfl,.nil,id⟩
  | cons session sessions ih =>
    obtain ⟨⟨next,first⟩,hfirst,h⟩ := bind_eq_ok.mp h
    obtain ⟨⟨last,others⟩,hothers,h⟩ := bind_eq_ok.mp h
    obtain ⟨rfl,rfl⟩ := Prod.mk.inj (ok.inj h)
    obtain ⟨sessionId,hnew,hseen,hid,hrelocated⟩ := relocateSession_eq_ok hfirst
    obtain ⟨sessionIds,hseen',hids,hall,hnodup⟩ := ih hothers
    refine ⟨sessionId :: sessionIds,?_,?_,.cons hrelocated hall,?_⟩
    · rw [hseen',hseen,append_assoc,singleton_append]
    · rw [map_cons,map_cons,hid,hids]
    · intro hn
      refine hnodup ?_
      rw [hseen]
      exact hn.append (nodup_singleton _) (by simpa using hnew)

structure RelocatedProject (platform : Platform) (directory : JsString) (project relocated : Json) : Prop where
  same : SameProject relocated project
  sessions : Forall₂ (Relocated platform directory) (arrayOf "sessions" (some project))
    (arrayOf "sessions" (some relocated))

theorem relocateProject_eq_ok {project : Json}
    (h : relocateProject platform directory seen roomId project = .ok (seen',relocated)) :
    ∃ sessionIds, seen'.sessionIds = seen.sessionIds ++ sessionIds ∧
      (arrayOf "sessions" (some relocated)).map (field "id") =
        sessionIds.map (fun sessionId => some (.str sessionId)) ∧
      RelocatedProject platform directory project relocated ∧ (seen.sessionIds.Nodup → seen'.sessionIds.Nodup) := by
  obtain ⟨members,hmembers,h⟩ := bind_eq_ok.mp h
  obtain ⟨sessions,hsessions,h⟩ := bind_eq_ok.mp h
  obtain ⟨⟨last,moved⟩,hmoved,h⟩ := bind_eq_ok.mp h
  obtain ⟨rfl,rfl⟩ := Prod.mk.inj (ok.inj h)
  have hrecord := requireRecord_eq_ok.mp hmembers
  have harray : arrayOf "sessions" (some project) = sessions := arrayOf_eq rfl hrecord (requireArray_eq_ok.mp hsessions)
  have hfield (name : JsString) : (Json.obj (members.set "sessions" (.arr moved)).entries).field name =
      if name = "sessions" then some (.arr moved) else project.field name := by
    rw [field_obj_entries,get_set,get_record hrecord]
  have harray' : arrayOf "sessions" (some (.obj (members.set "sessions" (.arr moved)).entries)) = moved := by
    rw [arrayOf,bind_some,hfield,if_pos rfl]
  obtain ⟨sessionIds,hseen,hids,hall,hnodup⟩ := relocateSessions_eq_ok hmoved
  rw [harray']
  refine ⟨sessionIds,hseen,hids,⟨?_,?_⟩,hnodup⟩
  · intro name hne
    rw [SameMember,hfield,if_neg hne]
  · rw [harray,harray']
    exact hall

theorem relocateProjects_eq_ok {projects relocated : List (JsString × Json)}
    (h : relocateProjects platform directory seen projects = .ok (seen',relocated)) :
    ∃ sessionIds, seen'.sessionIds = seen.sessionIds ++ sessionIds ∧
      (relocated.flatMap fun entry => arrayOf "sessions" (some entry.2)).map (field "id") =
        sessionIds.map (fun sessionId => some (.str sessionId)) ∧
      Forall₂ (fun project moved => moved.1 = project.1 ∧
        RelocatedProject platform directory project.2 moved.2) projects relocated ∧
      (seen.sessionIds.Nodup → seen'.sessionIds.Nodup) := by
  induction projects generalizing seen relocated with
  | nil =>
    obtain ⟨rfl,rfl⟩ := Prod.mk.inj (ok.inj h)
    exact ⟨[],(append_nil _).symm,rfl,.nil,id⟩
  | cons project projects ih =>
    obtain ⟨room,value⟩ := project
    obtain ⟨⟨next,first⟩,hfirst,h⟩ := bind_eq_ok.mp h
    obtain ⟨⟨last,others⟩,hothers,h⟩ := bind_eq_ok.mp h
    obtain ⟨rfl,rfl⟩ := Prod.mk.inj (ok.inj h)
    obtain ⟨sessionIds,hseen,hids,hrelocated,hnodup⟩ := relocateProject_eq_ok hfirst
    obtain ⟨sessionIds',hseen',hids',hall,hnodup'⟩ := ih hothers
    refine ⟨sessionIds ++ sessionIds',?_,?_,.cons ⟨rfl,hrelocated⟩ hall,fun hn => hnodup' (hnodup hn)⟩
    · rw [hseen',hseen,append_assoc]
    · rw [flatMap_cons,map_append,map_append,hids,hids']

theorem Relocated.of_sameValue {other : Json} (hsame : SameValue other session)
    (hid : ∃ sessionId,other.field "id" = some (.str sessionId)) (h : Relocated platform directory other relocated) :
    Relocated platform directory session relocated := by
  obtain ⟨sessionId,hid⟩ := hid
  constructor
  · intro name hne
    exact (h.members name hne).trans (hsame.member name)
  · have hscope : session.field "scope" = some (.str "scratch") ↔ other.field "scope" = some (.str "scratch") :=
      ⟨(hsame.member "scope").text,(hsame.member "scope").symm.text⟩
    have hids : sessionIdOf session = sessionIdOf other := by
      rw [sessionIdOf_eq hid,sessionIdOf_eq ((hsame.member "id").symm.text hid)]
    rw [h.cwd,hids]
    by_cases hscratch : other.field "scope" = some (.str "scratch")
    · rw [if_pos hscratch,if_pos (hscope.mpr hscratch)]
    · rw [if_neg hscratch,if_neg (fun hc => hscratch (hscope.mp hc))]
      exact hsame.member "cwd"

end

section

variable {platform : Platform} {directory workspaceId : JsString} {sourceFile targetFile : JsonFile}
  {retainedRoomId : Option JsString} {state : Json} {counts : HandoffCounts}

theorem map_fst_of_forall₂ {entries moved : List (JsString × Json)}
    (h : Forall₂ (fun entry other => fst other = fst entry) entries moved) : moved.map fst = entries.map fst := by
  induction h with
  | nil => rfl
  | cons hfst _ ih => rw [map_cons,map_cons,hfst,ih]

theorem mergeRuntimeState_eq_ok
    (h : mergeRuntimeState platform directory sourceFile targetFile workspaceId retainedRoomId = .ok (state,counts)) :
    ∃ (projects : Members) (sessionIds : List JsString), IsUnion SameValue
        ((recordOf "projects" sourceFile.content).filter fun roomId _ => decide (some roomId ≠ retainedRoomId))
        (recordOf "projects" targetFile.content) projects ∧
      (sessionsOf (recordOf "projects" (some state))).map (field "id") =
        sessionIds.map (fun sessionId => some (.str sessionId)) ∧ sessionIds.Nodup ∧
      Forall₂ (fun project moved => moved.1 = project.1 ∧
        RelocatedProject platform directory project.2 moved.2) projects.entries
          (recordOf "projects" (some state)).entries := by
  obtain ⟨source,hsource,h⟩ := bind_eq_ok.mp h
  obtain ⟨target,htarget,h⟩ := bind_eq_ok.mp h
  obtain ⟨-,-,h⟩ := bind_eq_ok.mp h
  obtain ⟨sourceProjects,hsourceProjects,h⟩ := bind_eq_ok.mp h
  obtain ⟨targetProjects,htargetProjects,h⟩ := bind_eq_ok.mp h
  obtain ⟨projects,hprojects,h⟩ := bind_eq_ok.mp h
  obtain ⟨⟨seen,moved⟩,hmoved,h⟩ := bind_eq_ok.mp h
  obtain ⟨rfl,rfl⟩ := Prod.mk.inj (ok.inj h)
  obtain ⟨sourceValue,hsourceContent,hsourceRecord⟩ := readRequiredRecord_eq_ok hsource
  obtain ⟨targetValue,htargetContent,htargetRecord⟩ := readRequiredRecord_eq_ok htarget
  obtain ⟨sessionIds,hseen,hids,hall,hnodup⟩ := relocateProjects_eq_ok hmoved
  have hkeys : moved.map fst = projects.keys := map_fst_of_forall₂ (hall.imp fun _ _ hentry => hentry.1)
  have hmovedNodup : (moved.map fst).Nodup := hkeys ▸ projects.nodup_keys
  have hrecord : recordOf "projects" (some (.obj [("version",.num 3),("workspaceId",.str workspaceId),
      ("projects",.obj moved)])) = ⟨moved,hmovedNodup⟩ := by
    have hfield : (Json.obj [("version",.num 3),("workspaceId",.str workspaceId),("projects",.obj moved)]).field
        "projects" = some (.obj moved) := rfl
    rw [recordOf,bind_some,hfield]
    exact ofEntries_entries ⟨moved,hmovedNodup⟩
  rw [recordOf_eq hsourceContent hsourceRecord (requireRecord_eq_ok.mp hsourceProjects),
    recordOf_eq htargetContent htargetRecord (requireRecord_eq_ok.mp htargetProjects),hrecord]
  refine ⟨projects,sessionIds,isUnion_of_mergeMembers hprojects,?_,?_,hall⟩
  · rw [← hids,sessionsOf,values,flatMap_map]
  · rw [← nil_append sessionIds]
    exact hseen ▸ hnodup nodup_nil

theorem mem_sessionsOf {projects : Members} :
    session ∈ sessionsOf projects ↔ ∃ entry ∈ projects.entries, session ∈ arrayOf "sessions" (some entry.2) := by
  rw [sessionsOf,mem_flatMap]
  constructor
  · rintro ⟨project,hproject,hsession⟩
    obtain ⟨entry,hentry,rfl⟩ := mem_map.mp hproject
    exact ⟨entry,hentry,hsession⟩
  · rintro ⟨entry,hentry,hsession⟩
    exact ⟨entry.2,mem_map_of_mem hentry,hsession⟩

theorem projects_of_mergeRuntimeState
    (h : mergeRuntimeState platform directory sourceFile targetFile workspaceId retainedRoomId = .ok (state,counts)) :
    IsUnion SameProject
      ((recordOf "projects" sourceFile.content).filter fun roomId _ => decide (some roomId ≠ retainedRoomId))
      (recordOf "projects" targetFile.content) (recordOf "projects" (some state)) := by
  obtain ⟨projects,sessionIds,hunion,-,-,hall⟩ := mergeRuntimeState_eq_ok h
  have hmoved : ∀ roomId project,projects.get roomId = some project → ∃ moved,
      (recordOf "projects" (some state)).get roomId = some moved ∧ RelocatedProject platform directory project moved := by
    intro roomId project hget
    obtain ⟨⟨key,moved⟩,hentry,hkey,hrelocated⟩ := exists_mem_of_forall₂ hall _ (get_eq_some.mp hget)
    obtain rfl : key = roomId := hkey
    exact ⟨moved,get_eq_some.mpr hentry,hrelocated⟩
  constructor
  · intro roomId
    rw [← hunion.has]
    constructor
    · intro hhas
      obtain ⟨moved,hget⟩ := has_iff.mp hhas
      obtain ⟨⟨key,project⟩,hentry,hkey,-⟩ := exists_mem_of_forall₂ hall.flip _ (get_eq_some.mp hget)
      obtain rfl : roomId = key := hkey
      exact has_iff.mpr ⟨project,get_eq_some.mpr hentry⟩
    · intro hhas
      obtain ⟨project,hget⟩ := has_iff.mp hhas
      obtain ⟨moved,hmoved,-⟩ := hmoved roomId project hget
      exact has_iff.mpr ⟨moved,hmoved⟩
  · intro roomId project hproject
    obtain ⟨merged,hmerged,hsame⟩ := hunion.kept roomId project hproject
    obtain ⟨moved,hget,hrelocated⟩ := hmoved roomId merged hmerged
    exact ⟨moved,hget,fun name hne => (hrelocated.same name hne).trans (hsame.member name)⟩

theorem sessions_of_mergeRuntimeState
    (h : mergeRuntimeState platform directory sourceFile targetFile workspaceId retainedRoomId = .ok (state,counts)) :
    SessionUnion platform directory
      (sessionsOf ((recordOf "projects" sourceFile.content).filter
          fun roomId _ => decide (some roomId ≠ retainedRoomId)) ++
        sessionsOf (recordOf "projects" targetFile.content))
      (sessionsOf (recordOf "projects" (some state))) := by
  obtain ⟨projects,sessionIds,hunion,hids,hnodup,hall⟩ := mergeRuntimeState_eq_ok h
  have hid : ∀ relocated ∈ sessionsOf (recordOf "projects" (some state)),∃ sessionId,
      relocated.field "id" = some (.str sessionId) := by
    intro relocated hrelocated
    have hmem := mem_map_of_mem (f := field "id") hrelocated
    rw [hids] at hmem
    obtain ⟨sessionId,-,heq⟩ := mem_map.mp hmem
    exact ⟨sessionId,heq.symm⟩
  -- A session of either directory has the same one in the union, which is then moved.
  have hkept : ∀ roomId project,((recordOf "projects" sourceFile.content).filter
        fun roomId _ => decide (some roomId ≠ retainedRoomId)).get roomId = some project ∨
        (recordOf "projects" targetFile.content).get roomId = some project →
      ∀ session ∈ arrayOf "sessions" (some project), ∃ relocated ∈ sessionsOf (recordOf "projects" (some state)),
        Relocated platform directory session relocated := by
    intro roomId project hproject session hsession
    obtain ⟨merged,hmerged,hsame⟩ := hunion.kept roomId project hproject
    obtain ⟨other,hother,hsameSession⟩ := (hsame.member "sessions").element hsession
    obtain ⟨entry,hentry,-,hproject'⟩ := exists_mem_of_forall₂ hall _ (get_eq_some.mp hmerged)
    obtain ⟨relocated,hmem,hrelocated⟩ := exists_mem_of_forall₂ hproject'.sessions other hother
    have hsessions := mem_sessionsOf.mpr ⟨entry,hentry,hmem⟩
    obtain ⟨sessionId,hsessionId⟩ := hid relocated hsessions
    refine ⟨relocated,hsessions,hrelocated.of_sameValue hsameSession ⟨sessionId,?_⟩⟩
    exact (hrelocated.members "id" (by decide)).symm.text hsessionId
  constructor
  · rw [hids]
    exact hnodup.map fun _ _ heq => Json.str.inj (some.inj heq)
  · intro session hsession
    rcases mem_append.mp hsession with hsession | hsession
    · obtain ⟨entry,hentry,hmem⟩ := mem_sessionsOf.mp hsession
      exact hkept entry.1 entry.2 (.inl (get_eq_some.mpr hentry)) session hmem
    · obtain ⟨entry,hentry,hmem⟩ := mem_sessionsOf.mp hsession
      exact hkept entry.1 entry.2 (.inr (get_eq_some.mpr hentry)) session hmem
  · intro relocated hrelocated
    obtain ⟨sessionId,hsessionId⟩ := hid relocated hrelocated
    obtain ⟨entry,hentry,hmem⟩ := mem_sessionsOf.mp hrelocated
    obtain ⟨project,hproject,-,hmoved⟩ := exists_mem_of_forall₂ hall.flip _ hentry
    obtain ⟨other,hother,hrelocated'⟩ := exists_mem_of_forall₂ hmoved.sessions.flip relocated hmem
    have hother' := (hrelocated'.members "id" (by decide)).symm.text hsessionId
    have hget : projects.get project.1 = some project.2 := get_eq_some.mpr hproject
    have hfrom : ∃ found,(((recordOf "projects" sourceFile.content).filter
        fun roomId _ => decide (some roomId ≠ retainedRoomId)).get project.1 = some found ∨
        (recordOf "projects" targetFile.content).get project.1 = some found) := by
      rcases (hunion.has project.1).mp (has_iff.mpr ⟨_,hget⟩) with hhas | hhas
      · obtain ⟨found,hfound⟩ := has_iff.mp hhas
        exact ⟨found,.inl hfound⟩
      · obtain ⟨found,hfound⟩ := has_iff.mp hhas
        exact ⟨found,.inr hfound⟩
    obtain ⟨found,hfound⟩ := hfrom
    obtain ⟨merged,hmerged,hsame⟩ := hunion.kept project.1 found hfound
    rw [hget] at hmerged
    obtain rfl := some.inj hmerged
    obtain ⟨session,hsession,hsameSession⟩ := (hsame.member "sessions").symm.element hother
    refine ⟨session,?_,hrelocated'.of_sameValue hsameSession.symm ⟨sessionId,hother'⟩⟩
    rcases hfound with hfound | hfound
    · exact mem_append_left _ (mem_sessionsOf.mpr ⟨_,get_eq_some.mp hfound,hsession⟩)
    · exact mem_append_right _ (mem_sessionsOf.mpr ⟨_,get_eq_some.mp hfound,hsession⟩)

end

end Malink.Handoff
