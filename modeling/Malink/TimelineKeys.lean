import Malink.InsertionMaps
import Malink.JsStrings
import Mathlib.Data.List.Sort

/-!
# Timeline keys

The store keeps a ring of keys for every room. A new key takes the place of the active one when a device is gone that
had it.
-/

namespace Malink.TimelineKeys

open List InsertionMap
open Option (some)
open Except (ok)

structure Epoch where
  epochId : JsString
  key : JsString
  createdAt : ℕ
  deriving DecidableEq

structure PersistedEpoch extends Epoch where
  recipientDeviceIds : List JsString
  deriving DecidableEq

structure PersistedRoom where
  activeEpochId : JsString
  epochs : List PersistedEpoch
  deriving DecidableEq

abbrev KeyFile := InsertionMap JsString PersistedRoom

structure KeyRing where
  activeEpochId : JsString
  epochs : List Epoch
  deriving DecidableEq

/-- `MAX_MATRIX_TIMELINE_KEY_EPOCHS` -/
def maxEpochs : ℕ := 64

inductive KeyError
  | noRecipient
  | noActiveEpoch
  | exceeded
  | unwritten
  deriving DecidableEq

/-- The texts of the errors that the store itself throws. -/
def KeyError.message (roomId : JsString) : KeyError → Option JsString
  | noRecipient => some (("Timeline key room " : JsString) ++ roomId ++ " requires an active recipient")
  | noActiveEpoch => some (("Timeline key room " : JsString) ++ roomId ++ " has no active epoch")
  | exceeded => some (("Timeline key room " : JsString) ++ roomId ++ " exceeded 64 retained epochs")
  | unwritten => none

def PersistedRoom.active (room : PersistedRoom) : Option PersistedEpoch :=
  room.epochs.find? (fun epoch => epoch.epochId = room.activeEpochId)

def PersistedRoom.activeRecipients (room : PersistedRoom) : List JsString :=
  (room.active.map (·.recipientDeviceIds)).getD []

def PersistedRoom.publicKeyRing (room : PersistedRoom) : KeyRing :=
  ⟨room.activeEpochId,room.epochs.map (·.toEpoch)⟩

/-- `String.prototype.localeCompare` orders the devices. -/
def uniqueSorted (localeCompare : JsString → JsString → ℤ) (values : List JsString) : List JsString :=
  values.eraseDups.insertionSort (fun left right => localeCompare left right ≤ 0)

/-- The random identifier and key and the time of a new epoch go to the recipients. -/
def createEpoch (recipients : List JsString) (fresh : Epoch) : PersistedEpoch :=
  { fresh with recipientDeviceIds := recipients }

def setRecipients (epochId : JsString) (recipients : List JsString) : List PersistedEpoch → List PersistedEpoch
  | [] => []
  | epoch :: epochs =>
    if epoch.epochId = epochId then { epoch with recipientDeviceIds := recipients } :: epochs
    else epoch :: setRecipients epochId recipients epochs

/-- What a call makes of the record of a room, and whether that is a change. -/
def ensuredRoom (known : Option PersistedRoom) (recipients : List JsString) (fresh : Epoch) :
    Except KeyError (PersistedRoom × Bool) :=
  match known with
  | none => .ok (⟨fresh.epochId,[createEpoch recipients fresh]⟩,true)
  | some room =>
    match room.active with
    | none => .error .noActiveEpoch
    | some active =>
      if active.recipientDeviceIds.any (fun id => id ∉ recipients) then
        if maxEpochs ≤ room.epochs.length then .error .exceeded
        else .ok (⟨fresh.epochId,room.epochs ++ [createEpoch recipients fresh]⟩,true)
      else if active.recipientDeviceIds = recipients then .ok (room,false)
      else .ok ({ room with epochs := setRecipients room.activeEpochId recipients room.epochs },true)

def PersistedRoom.isValid (room : PersistedRoom) : Bool :=
  0 < room.epochs.length && room.epochs.length ≤ maxEpochs &&
    room.epochs.all (fun epoch => epoch.epochId.truthy && epoch.recipientDeviceIds.all JsString.truthy) &&
    decide (room.epochs.map (·.epochId)).Nodup && decide (room.activeEpochId ∈ room.epochs.map (·.epochId))

def PersistedRoom.loaded (localeCompare : JsString → JsString → ℤ) (room : PersistedRoom) : PersistedRoom :=
  { room with
    epochs := room.epochs.map fun epoch =>
      { epoch with recipientDeviceIds := uniqueSorted localeCompare epoch.recipientDeviceIds } }

/-- `validateTimelineKeyFile` -/
def load (localeCompare : JsString → JsString → ℤ) (file : KeyFile) : Option KeyFile :=
  if file.values.all PersistedRoom.isValid then some (file.mapValues (PersistedRoom.loaded localeCompare)) else none

structure Device where
  id : JsString
  named : id.truthy

/-- Whether a write returns. One that does not may have replaced the file all the same. -/
inductive WriteOutcome
  | completes
  | fails (replaced : Bool)

/-- The memory, the file, and the history: which device was given which epoch of a room, which epochs were
returned, and the identifiers of all epochs. -/
structure Store where
  memory : KeyFile
  disk : KeyFile
  granted : List (JsString × JsString × JsString)
  returned : List (JsString × Epoch)
  issued : List JsString

def Store.empty : Store := ⟨.empty,.empty,[],[],[]⟩

/-- The key ring goes to the recipients. -/
def Store.give (store : Store) (roomId : JsString) (recipients : List JsString) (room : PersistedRoom) : Store :=
  { store with
    granted := room.epochs.flatMap (fun epoch => recipients.map fun id => (roomId,epoch.epochId,id)) ++ store.granted
    returned := room.epochs.map (fun epoch => (roomId,epoch.toEpoch)) ++ store.returned }

def Store.ensureRoom (localeCompare : JsString → JsString → ℤ) (store : Store) (roomId : JsString)
    (devices : List Device) (fresh : Epoch) (outcome : WriteOutcome) : Except KeyError KeyRing × Store :=
  let recipients := uniqueSorted localeCompare (devices.map (·.id))
  if recipients = [] then (.error .noRecipient,store)
  else
    match ensuredRoom (store.memory.get roomId) recipients fresh with
    | .error error => (.error error,store)
    | .ok (room,false) => (.ok room.publicKeyRing,store.give roomId recipients room)
    | .ok (room,true) =>
      let memory := store.memory.set roomId room
      let store := { store with memory, issued := fresh.epochId :: store.issued }
      match outcome with
      | .completes => (.ok room.publicKeyRing,{ store with disk := memory }.give roomId recipients room)
      | .fails replaced => (.error .unwritten,{ store with disk := if replaced then memory else store.disk })

/-- A call that finds nothing to write finds the same record in the file. -/
def AnswersFromDisk (localeCompare : JsString → JsString → ℤ) (store : Store) (roomId : JsString)
    (devices : List Device) : Prop :=
  ∀ room, store.memory.get roomId = some room →
    room.activeRecipients = uniqueSorted localeCompare (devices.map (·.id)) →
    ∃ written, store.disk.get roomId = some written ∧ written.publicKeyRing = room.publicKeyRing ∧
      ∀ id, id ∈ written.activeRecipients ↔ id ∈ room.activeRecipients

/-- Calls whose new epochs have identifiers of their own, and restarts. -/
inductive Run (localeCompare : JsString → JsString → ℤ) : Store → Prop
  | empty : Run localeCompare .empty
  | call {store : Store} (roomId : JsString) (devices : List Device) (fresh : Epoch) (outcome : WriteOutcome)
    (h : Run localeCompare store) (hnamed : fresh.epochId.truthy) (hfresh : fresh.epochId ∉ store.issued)
    (hdisk : AnswersFromDisk localeCompare store roomId devices) :
    Run localeCompare (store.ensureRoom localeCompare roomId devices fresh outcome).2
  | restart {store : Store} (memory : KeyFile) (h : Run localeCompare store)
    (hload : load localeCompare store.disk = some memory) : Run localeCompare { store with memory := memory }

variable {localeCompare : JsString → JsString → ℤ} {fresh : Epoch} {recipients : List JsString}
  {known : Option PersistedRoom} {room : PersistedRoom}
  {id : JsString} {room : PersistedRoom} {result : Except KeyError KeyRing × Store}

theorem mem_uniqueSorted {values : List JsString} : id ∈ uniqueSorted localeCompare values ↔ id ∈ values := by
  rw [uniqueSorted,mem_insertionSort,mem_eraseDups]

theorem isValid_iff : room.isValid ↔ (0 < room.epochs.length ∧ room.epochs.length ≤ maxEpochs) ∧
      (∀ epoch ∈ room.epochs,epoch.epochId.truthy ∧ ∀ id ∈ epoch.recipientDeviceIds,id.truthy) ∧
      (room.epochs.map (·.epochId)).Nodup ∧ room.activeEpochId ∈ room.epochs.map (·.epochId) := by
  simp only [PersistedRoom.isValid,Bool.and_eq_true,decide_eq_true_eq,all_eq_true,and_assoc]

theorem one_le_maxEpochs : 1 ≤ maxEpochs := by decide

theorem map_toEpoch_setRecipients (epochId : JsString) (epochs : List PersistedEpoch) :
    (setRecipients epochId recipients epochs).map (·.toEpoch) = epochs.map (·.toEpoch) := by
  induction epochs with
  | nil => rfl
  | cons epoch epochs ih =>
    rw [setRecipients]
    split
    · rfl
    · rw [map_cons,map_cons,ih]

theorem map_epochId_setRecipients (recipients : List JsString) (epochId : JsString) (epochs : List PersistedEpoch) :
    (setRecipients epochId recipients epochs).map (·.epochId) = epochs.map (·.epochId) := by
  have h := congrArg (map Epoch.epochId) (@map_toEpoch_setRecipients recipients epochId epochs)
  rw [map_map,map_map] at h
  exact h

variable {epochId : JsString} {epochs : List PersistedEpoch}

theorem mem_setRecipients {epoch : PersistedEpoch} (h : epoch ∈ setRecipients epochId recipients epochs) :
    ∃ old ∈ epochs, epoch.epochId = old.epochId ∧
      (epoch.recipientDeviceIds = old.recipientDeviceIds ∨ epoch.recipientDeviceIds = recipients) := by
  induction epochs with
  | nil => cases h
  | cons first epochs ih =>
    rw [setRecipients] at h
    split at h
    · rcases mem_cons.mp h with rfl | h
      · exact ⟨first,mem_cons_self,rfl,.inr rfl⟩
      · exact ⟨epoch,mem_cons_of_mem _ h,rfl,.inl rfl⟩
    · rcases mem_cons.mp h with rfl | h
      · exact ⟨epoch,mem_cons_self,rfl,.inl rfl⟩
      · obtain ⟨old,hold,hrest⟩ := ih h
        exact ⟨old,mem_cons_of_mem _ hold,hrest⟩

theorem find_setRecipients (h : epochId ∈ epochs.map (·.epochId)) :
    ((setRecipients epochId recipients epochs).find? (fun epoch => epoch.epochId = epochId)).map
      (·.recipientDeviceIds) = some recipients := by
  induction epochs with
  | nil => cases h
  | cons epoch epochs ih =>
    by_cases hid : epoch.epochId = epochId
    · rw [setRecipients,if_pos hid,find?_cons_of_pos (by simp [hid])]
      rfl
    · rw [setRecipients,if_neg hid,find?_cons_of_neg (by simp [hid])]
      rw [map_cons,mem_cons] at h
      exact ih (h.resolve_left fun heq => hid heq.symm)

/-- What a call makes of the record of a room: nothing is lost, the active epoch goes to the recipients, and it is
a new one unless the recipients contain all that had it. -/
structure Ensured (fresh : Epoch) (recipients : List JsString) (known : Option PersistedRoom) (room : PersistedRoom) :
    Prop where
  valid : room.isValid
  comesFrom : ∀ epoch ∈ room.epochs.map (·.toEpoch),
    epoch = fresh ∨ ∃ old, known = some old ∧ epoch ∈ old.epochs.map (·.toEpoch)
  keeps : ∀ old, known = some old → ∀ epoch ∈ old.epochs.map (·.toEpoch), epoch ∈ room.epochs.map (·.toEpoch)
  goesTo : room.activeRecipients = recipients
  rotates : room.activeEpochId = fresh.epochId ∨ ∃ old, known = some old ∧
    room.activeEpochId = old.activeEpochId ∧ ∀ id ∈ old.activeRecipients, id ∈ recipients

theorem ensured_created (hnamed : fresh.epochId.truthy) (hrecipients : ∀ id ∈ recipients,id.truthy) :
    Ensured fresh recipients none ⟨fresh.epochId,[createEpoch recipients fresh]⟩ where
  valid := by
    rw [isValid_iff]
    refine ⟨⟨Nat.zero_lt_one,one_le_maxEpochs⟩,?_,nodup_singleton _,mem_singleton.mpr rfl⟩
    intro epoch hepoch
    obtain rfl := mem_singleton.mp hepoch
    exact ⟨hnamed,hrecipients⟩
  comesFrom := by
    intro epoch hepoch
    exact .inl (mem_singleton.mp hepoch)
  keeps := by
    intro old hold
    cases hold
  goesTo := by simp [PersistedRoom.activeRecipients,PersistedRoom.active,createEpoch]
  rotates := .inl rfl

variable {old : PersistedRoom}

theorem ensured_rotated (hnamed : fresh.epochId.truthy) (hrecipients : ∀ id ∈ recipients,id.truthy)
    (hold : old.isValid) (hfresh : fresh.epochId ∉ old.epochs.map (·.epochId))
    (hlength : old.epochs.length < maxEpochs) :
    Ensured fresh recipients (some old) ⟨fresh.epochId,old.epochs ++ [createEpoch recipients fresh]⟩ where
  valid := by
    rw [isValid_iff] at hold ⊢
    obtain ⟨-,hepochs,hnodup,-⟩ := hold
    refine ⟨?_,?_,?_,?_⟩
    · simp only [length_append,length_singleton]
      omega
    · intro epoch hepoch
      rcases mem_append.mp hepoch with hepoch | hepoch
      · exact hepochs epoch hepoch
      · obtain rfl := mem_singleton.mp hepoch
        exact ⟨hnamed,hrecipients⟩
    · rw [map_append]
      exact hnodup.append (nodup_singleton _) (disjoint_singleton.mpr hfresh)
    · rw [map_append]
      exact mem_append_right _ (mem_singleton.mpr rfl)
  comesFrom := by
    intro epoch hepoch
    rw [map_append] at hepoch
    rcases mem_append.mp hepoch with hepoch | hepoch
    · exact .inr ⟨old,rfl,hepoch⟩
    · exact .inl (mem_singleton.mp hepoch)
  keeps := by
    rintro _ ⟨⟩ epoch hepoch
    rw [map_append]
    exact mem_append_left _ hepoch
  goesTo := by
    have hnone : old.epochs.find? (fun epoch => epoch.epochId = fresh.epochId) = none := by
      rw [find?_eq_none]
      intro epoch hepoch heq
      exact hfresh (mem_map.mpr ⟨epoch,hepoch,of_decide_eq_true heq⟩)
    simp [PersistedRoom.activeRecipients,PersistedRoom.active,find?_append,hnone,createEpoch]
  rotates := .inl rfl

theorem ensured_joined (hrecipients : ∀ id ∈ recipients,id.truthy) (hold : old.isValid)
    (hsubset : ∀ id ∈ old.activeRecipients,id ∈ recipients) :
    Ensured fresh recipients (some old) { old with epochs := setRecipients old.activeEpochId recipients old.epochs } where
  valid := by
    rw [isValid_iff] at hold ⊢
    obtain ⟨hlength,hepochs,hnodup,hactive⟩ := hold
    have hids := map_epochId_setRecipients recipients old.activeEpochId old.epochs
    have hsame : (setRecipients old.activeEpochId recipients old.epochs).length = old.epochs.length := by
      simpa using congrArg List.length hids
    refine ⟨?_,?_,?_,?_⟩
    · rw [hsame]
      exact hlength
    · intro epoch hepoch
      obtain ⟨before,hbefore,hid,hto⟩ := mem_setRecipients hepoch
      refine ⟨hid ▸ (hepochs before hbefore).1,?_⟩
      rcases hto with hto | hto
      · rw [hto]
        exact (hepochs before hbefore).2
      · rw [hto]
        exact hrecipients
    · rw [hids]
      exact hnodup
    · rw [hids]
      exact hactive
  comesFrom := by
    intro epoch hepoch
    rw [map_toEpoch_setRecipients] at hepoch
    exact .inr ⟨old,rfl,hepoch⟩
  keeps := by
    rintro _ ⟨⟩ epoch hepoch
    rw [map_toEpoch_setRecipients]
    exact hepoch
  goesTo := by
    have hactive := (isValid_iff.mp hold).2.2.2
    simp only [PersistedRoom.activeRecipients,PersistedRoom.active]
    rw [find_setRecipients hactive]
    rfl
  rotates := .inr ⟨old,rfl,rfl,hsubset⟩

theorem ensured_unchanged (hold : old.isValid) (hsame : old.activeRecipients = recipients) :
    Ensured fresh recipients (some old) old where
  valid := hold
  comesFrom := fun epoch hepoch => .inr ⟨old,rfl,hepoch⟩
  keeps := by
    rintro _ ⟨⟩ epoch hepoch
    exact hepoch
  goesTo := hsame
  rotates := .inr ⟨old,rfl,rfl,fun id hid => hsame ▸ hid⟩

theorem exists_active (hold : old.isValid) :
    ∃ active, old.active = some active ∧ old.activeRecipients = active.recipientDeviceIds := by
  obtain ⟨epoch,hepoch,hid⟩ := mem_map.mp (isValid_iff.mp hold).2.2.2
  cases hactive : old.active with
  | none =>
    rw [PersistedRoom.active,find?_eq_none] at hactive
    exact absurd (decide_eq_true hid) (hactive epoch hepoch)
  | some active => exact ⟨active,rfl,by rw [PersistedRoom.activeRecipients,hactive]; rfl⟩

/-- What a call makes of a record in order. -/
theorem ensured_of_ensuredRoom (hnamed : fresh.epochId.truthy)
    (hrecipients : ∀ id ∈ recipients,id.truthy) (hvalid : ∀ old,known = some old → old.isValid)
    (hfresh : ∀ old,known = some old → fresh.epochId ∉ old.epochs.map (·.epochId)) {changed : Bool}
    (h : ensuredRoom known recipients fresh = .ok (room,changed)) :
    Ensured fresh recipients known room ∧ (changed = false → known = some room) := by
  cases known with
  | none =>
    obtain ⟨rfl,rfl⟩ := Prod.mk.inj (ok.inj h)
    exact ⟨ensured_created hnamed hrecipients,fun hc => Bool.noConfusion hc⟩
  | some old =>
    have hold := hvalid old rfl
    obtain ⟨active,hactive,hto⟩ := exists_active hold
    simp only [ensuredRoom,hactive] at h
    split at h
    · split at h
      · cases h
      · next hlength =>
        obtain ⟨rfl,rfl⟩ := Prod.mk.inj (ok.inj h)
        exact ⟨ensured_rotated hnamed hrecipients hold (hfresh old rfl) (Nat.lt_of_not_le hlength),
          fun hc => Bool.noConfusion hc⟩
    · next hremoved =>
      have hsubset : ∀ id ∈ old.activeRecipients,id ∈ recipients := by
        intro id hid
        by_contra hnot
        rw [hto] at hid
        exact hremoved (any_eq_true.mpr ⟨id,hid,decide_eq_true hnot⟩)
      split at h
      · next hsame =>
        obtain ⟨rfl,rfl⟩ := Prod.mk.inj (ok.inj h)
        exact ⟨ensured_unchanged hold (hto.trans hsame),fun _ => rfl⟩
      · obtain ⟨rfl,rfl⟩ := Prod.mk.inj (ok.inj h)
        exact ⟨ensured_joined hrecipients hold hsubset,fun hc => Bool.noConfusion hc⟩

variable {error : KeyError}

/-- A call fails only to remove a device while the ring is full. -/
theorem ensuredRoom_error (hvalid : ∀ old,known = some old → old.isValid)
    (h : ensuredRoom known recipients fresh = .error error) :
    error = .exceeded ∧ ∃ old, known = some old ∧ old.epochs.length = maxEpochs ∧
      ∃ id ∈ old.activeRecipients, id ∉ recipients := by
  cases known with
  | none => cases h
  | some old =>
    have hold := hvalid old rfl
    obtain ⟨active,hactive,hto⟩ := exists_active hold
    simp only [ensuredRoom,hactive] at h
    split at h
    · next hremoved =>
      split at h
      · next hlength =>
        obtain rfl := Except.error.inj h
        obtain ⟨id,hid,hnot⟩ := any_eq_true.mp hremoved
        have hle := (isValid_iff.mp hold).1.2
        exact ⟨rfl,old,rfl,Nat.le_antisymm hle hlength,id,hto ▸ hid,of_decide_eq_true hnot⟩
      · cases h
    · split at h
      · cases h
      · cases h

/-- The records of a file against the history: the active epoch of a room went to its recipients only, and no epoch
that was returned is lost. -/
structure Keeps (granted : List (JsString × JsString × JsString)) (returned : List (JsString × Epoch))
    (issued : List JsString) (file : KeyFile) : Prop where
  valid : ∀ roomId room, file.get roomId = some room → room.isValid
  issued : ∀ roomId room, file.get roomId = some room → ∀ epoch ∈ room.epochs.map (·.toEpoch), epoch.epochId ∈ issued
  granted : ∀ roomId room, file.get roomId = some room → ∀ id, (roomId,room.activeEpochId,id) ∈ granted →
    id ∈ room.activeRecipients
  returned : ∀ roomId epoch, (roomId,epoch) ∈ returned → ∃ room, file.get roomId = some room ∧
    epoch ∈ room.epochs.map (·.toEpoch)

structure Invariant (store : Store) : Prop where
  memory : Keeps store.granted store.returned store.issued store.memory
  disk : Keeps store.granted store.returned store.issued store.disk
  granted : ∀ roomId epochId id, (roomId,epochId,id) ∈ store.granted → epochId ∈ store.issued

section

variable {granted : List (JsString × JsString × JsString)} {returned : List (JsString × Epoch)}
  {issued : List JsString} {file : KeyFile} {roomId : JsString}

section

variable (h : Keeps granted returned issued file)
include h

theorem Keeps.fresh_not_mem (hfresh : fresh.epochId ∉ issued)
    (old : PersistedRoom) (hold : file.get roomId = some old) : fresh.epochId ∉ old.epochs.map (·.epochId) := by
  intro hmem
  obtain ⟨epoch,hepoch,hid⟩ := mem_map.mp hmem
  exact hfresh (hid ▸ h.issued roomId old hold epoch.toEpoch (mem_map_of_mem hepoch))

/-- The history before the call, which goes on with the identifier of the new epoch. -/
theorem Keeps.issue (epochId : JsString) :
    Keeps granted returned (epochId :: issued) file where
  valid := h.valid
  issued := fun roomId room hroom epoch hepoch => mem_cons_of_mem _ (h.issued roomId room hroom epoch hepoch)
  granted := h.granted
  returned := h.returned

/-- The new record of the room takes its place before anything is returned. -/
theorem Keeps.set (hgranted : ∀ roomId epochId id,(roomId,epochId,id) ∈ granted → epochId ∈ issued)
    (hfresh : fresh.epochId ∉ issued) (he : Ensured fresh recipients (file.get roomId) room) :
    Keeps granted returned (fresh.epochId :: issued) (file.set roomId room) where
  valid := by
    intro other record hrecord
    rw [get_set] at hrecord
    split at hrecord
    · obtain rfl := some.inj hrecord
      exact he.valid
    · exact h.valid other record hrecord
  issued := by
    intro other record hrecord epoch hepoch
    rw [get_set] at hrecord
    split at hrecord
    · obtain rfl := some.inj hrecord
      rcases he.comesFrom epoch hepoch with rfl | ⟨old,hold,hmem⟩
      · exact mem_cons_self
      · exact mem_cons_of_mem _ (h.issued roomId old hold epoch hmem)
    · exact mem_cons_of_mem _ (h.issued other record hrecord epoch hepoch)
  granted := by
    intro other record hrecord id hid
    rw [get_set] at hrecord
    split at hrecord
    · next heq =>
      obtain rfl := some.inj hrecord
      rw [heq] at hid
      rw [he.goesTo]
      rcases he.rotates with hactive | ⟨old,hold,hactive,hsubset⟩
      · -- Nobody has an epoch that did not exist.
        rw [hactive] at hid
        exact absurd (hgranted _ _ _ hid) hfresh
      · rw [hactive] at hid
        exact hsubset id (h.granted roomId old hold id hid)
    · exact h.granted other record hrecord id hid
  returned := by
    intro other epoch hepoch
    obtain ⟨record,hrecord,hmem⟩ := h.returned other epoch hepoch
    by_cases heq : other = roomId
    · subst heq
      exact ⟨room,get_set_self _ _ _,he.keeps record hrecord epoch hmem⟩
    · exact ⟨record,(get_set_of_ne _ _ heq).trans hrecord,hmem⟩

/-- The ring of a record of the file goes to the recipients of its active epoch. -/
theorem Keeps.give {written : PersistedRoom}
    (hwritten : file.get roomId = some written) (hring : written.publicKeyRing = room.publicKeyRing)
    (hto : ∀ id ∈ recipients,id ∈ written.activeRecipients) :
    Keeps (room.epochs.flatMap (fun epoch => recipients.map fun id => (roomId,epoch.epochId,id)) ++ granted)
      (room.epochs.map (fun epoch => (roomId,epoch.toEpoch)) ++ returned) issued file where
  valid := h.valid
  issued := h.issued
  granted := by
    intro other record hrecord id hid
    rcases mem_append.mp hid with hid | hid
    · obtain ⟨epoch,-,hid⟩ := mem_flatMap.mp hid
      obtain ⟨recipient,hrecipient,heq⟩ := mem_map.mp hid
      obtain ⟨hroom,hrest⟩ := Prod.mk.inj heq
      obtain ⟨-,rfl⟩ := Prod.mk.inj hrest
      rw [← hroom,hwritten] at hrecord
      obtain rfl := some.inj hrecord
      exact hto recipient hrecipient
    · exact h.granted other record hrecord id hid
  returned := by
    intro other epoch hepoch
    rcases mem_append.mp hepoch with hepoch | hepoch
    · obtain ⟨persisted,hpersisted,heq⟩ := mem_map.mp hepoch
      obtain ⟨rfl,rfl⟩ := Prod.mk.inj heq
      refine ⟨written,hwritten,?_⟩
      have hepochs : written.epochs.map (·.toEpoch) = room.epochs.map (·.toEpoch) := congrArg KeyRing.epochs hring
      rw [hepochs]
      exact mem_map_of_mem hpersisted
    · exact h.returned other epoch hepoch

end

theorem map_toEpoch_loaded (room : PersistedRoom) :
    (room.loaded localeCompare).epochs.map (·.toEpoch) = room.epochs.map (·.toEpoch) := by
  rw [PersistedRoom.loaded,map_map]
  rfl

theorem active_loaded (room : PersistedRoom) : (room.loaded localeCompare).active = room.active.map fun epoch =>
    { epoch with recipientDeviceIds := uniqueSorted localeCompare epoch.recipientDeviceIds } := by
  rw [PersistedRoom.active,PersistedRoom.loaded,find?_map]
  rfl

theorem mem_activeRecipients_loaded :
    id ∈ (room.loaded localeCompare).activeRecipients ↔ id ∈ room.activeRecipients := by
  rw [PersistedRoom.activeRecipients,PersistedRoom.activeRecipients,active_loaded]
  cases room.active with
  | none => rfl
  | some epoch => exact mem_uniqueSorted

theorem isValid_loaded (h : room.isValid) : (room.loaded localeCompare).isValid := by
  rw [isValid_iff] at h ⊢
  obtain ⟨hlength,hepochs,hnodup,hactive⟩ := h
  have hids : (room.loaded localeCompare).epochs.map (·.epochId) = room.epochs.map (·.epochId) := by
    rw [PersistedRoom.loaded,map_map]
    rfl
  refine ⟨?_,?_,?_,?_⟩
  · simpa [PersistedRoom.loaded] using hlength
  · intro epoch hepoch
    obtain ⟨persisted,hpersisted,rfl⟩ := mem_map.mp hepoch
    exact ⟨(hepochs persisted hpersisted).1,fun id hid => (hepochs persisted hpersisted).2 id (mem_uniqueSorted.mp hid)⟩
  · rw [hids]
    exact hnodup
  · rw [hids]
    exact hactive

theorem Keeps.load_eq (h : Keeps granted returned issued file) :
    load localeCompare file = some (file.mapValues (PersistedRoom.loaded localeCompare)) := by
  rw [load,if_pos]
  rw [all_eq_true]
  intro room hroom
  obtain ⟨roomId,hget⟩ := mem_values.mp hroom
  exact h.valid roomId room hget

theorem Keeps.loaded (h : Keeps granted returned issued file) :
    Keeps granted returned issued (file.mapValues (PersistedRoom.loaded localeCompare)) where
  valid := by
    intro roomId room hroom
    rw [get_mapValues] at hroom
    obtain ⟨record,hrecord,rfl⟩ := Option.map_eq_some_iff.mp hroom
    exact isValid_loaded (h.valid roomId record hrecord)
  issued := by
    intro roomId room hroom epoch hepoch
    rw [get_mapValues] at hroom
    obtain ⟨record,hrecord,rfl⟩ := Option.map_eq_some_iff.mp hroom
    rw [map_toEpoch_loaded] at hepoch
    exact h.issued roomId record hrecord epoch hepoch
  granted := by
    intro roomId room hroom id hid
    rw [get_mapValues] at hroom
    obtain ⟨record,hrecord,rfl⟩ := Option.map_eq_some_iff.mp hroom
    exact mem_activeRecipients_loaded.mpr (h.granted roomId record hrecord id hid)
  returned := by
    intro roomId epoch hepoch
    obtain ⟨record,hrecord,hmem⟩ := h.returned roomId epoch hepoch
    refine ⟨record.loaded localeCompare,?_,?_⟩
    · rw [get_mapValues,hrecord]
      rfl
    · rw [map_toEpoch_loaded]
      exact hmem

end

variable {store : Store} {roomId : JsString} {devices : List Device} {outcome : WriteOutcome}

theorem truthy_of_mem_recipients (h : id ∈ uniqueSorted localeCompare (devices.map (·.id))) : id.truthy := by
  obtain ⟨device,-,rfl⟩ := mem_map.mp (mem_uniqueSorted.mp h)
  exact device.named

theorem uniqueSorted_eq_nil : uniqueSorted localeCompare (devices.map (·.id)) = [] ↔ devices = [] := by
  rw [eq_nil_iff_forall_not_mem,eq_nil_iff_forall_not_mem]
  simp only [mem_uniqueSorted,mem_map,not_exists,not_and]
  exact ⟨fun h device hdevice => h device.id device hdevice rfl,fun h id device hdevice _ => h device hdevice⟩

/-- The ways a call ends: it returns the ring of the record that is then in memory, or it fails without a change
or in the write. -/
inductive Ends (localeCompare : JsString → JsString → ℤ) (store : Store) (roomId : JsString) (devices : List Device)
    (fresh : Epoch) (outcome : WriteOutcome) : Except KeyError KeyRing × Store → Prop
  | noRecipient (hnone : devices = []) : Ends localeCompare store roomId devices fresh outcome (.error .noRecipient,store)
  | exceeded (room : PersistedRoom) (hroom : store.memory.get roomId = some room)
    (hlength : room.epochs.length = maxEpochs)
    (hremoved : ∃ id ∈ room.activeRecipients,id ∉ uniqueSorted localeCompare (devices.map (·.id))) :
    Ends localeCompare store roomId devices fresh outcome (.error .exceeded,store)
  | unchanged (room : PersistedRoom) (hroom : store.memory.get roomId = some room)
    (he : Ensured fresh (uniqueSorted localeCompare (devices.map (·.id))) (store.memory.get roomId) room) :
    Ends localeCompare store roomId devices fresh outcome
      (.ok room.publicKeyRing,store.give roomId (uniqueSorted localeCompare (devices.map (·.id))) room)
  | written (room : PersistedRoom)
    (he : Ensured fresh (uniqueSorted localeCompare (devices.map (·.id))) (store.memory.get roomId) room) :
    Ends localeCompare store roomId devices fresh outcome (.ok room.publicKeyRing,
      Store.give { store with memory := store.memory.set roomId room, disk := store.memory.set roomId room,
                              issued := fresh.epochId :: store.issued }
        roomId (uniqueSorted localeCompare (devices.map (·.id))) room)
  | unwritten (room : PersistedRoom) (replaced : Bool) (houtcome : outcome = .fails replaced)
    (he : Ensured fresh (uniqueSorted localeCompare (devices.map (·.id))) (store.memory.get roomId) room) :
    Ends localeCompare store roomId devices fresh outcome (.error .unwritten,
      { store with memory := store.memory.set roomId room,
                   disk := if replaced then store.memory.set roomId room else store.disk,
                   issued := fresh.epochId :: store.issued })

theorem ends_ensureRoom (h : Invariant store) (hnamed : fresh.epochId.truthy)
    (hfresh : fresh.epochId ∉ store.issued) : Ends localeCompare store roomId devices fresh outcome
      (store.ensureRoom localeCompare roomId devices fresh outcome) := by
  simp only [Store.ensureRoom]
  split
  · next hnil => exact .noRecipient (uniqueSorted_eq_nil.mp hnil)
  have hvalid := h.memory.valid roomId
  have hensured {room : PersistedRoom} {changed : Bool}
      (hroom : ensuredRoom (store.memory.get roomId) (uniqueSorted localeCompare (devices.map (·.id))) fresh =
        .ok (room,changed)) :=
    ensured_of_ensuredRoom hnamed (fun id => truthy_of_mem_recipients) hvalid (h.memory.fresh_not_mem hfresh) hroom
  split
  · next error herror =>
    obtain ⟨rfl,room,hroom,hlength,hremoved⟩ := ensuredRoom_error hvalid herror
    exact .exceeded room hroom hlength hremoved
  · next room hroom => exact .unchanged room ((hensured hroom).2 rfl) (hensured hroom).1
  · next room hroom =>
    have he := (hensured hroom).1
    cases outcome with
    | completes => exact .written room he
    | fails replaced => exact .unwritten room replaced rfl he

theorem invariant_empty : Invariant .empty := by
  have hkeeps : Keeps [] [] [] .empty := by
    constructor
    · intro roomId room hroom
      cases hroom
    · intro roomId room hroom
      cases hroom
    · intro roomId room hroom
      cases hroom
    · intro roomId epoch hepoch
      cases hepoch
  refine ⟨hkeeps,hkeeps,?_⟩
  intro roomId epochId id hid
  cases hid

/-- Only the epochs of the record are given away. -/
theorem issued_of_granted_give {recipients : List JsString}
    (h : ∀ roomId epochId id,(roomId,epochId,id) ∈ store.granted → epochId ∈ store.issued)
    (hroom : ∀ epoch ∈ room.epochs.map (·.toEpoch),epoch.epochId ∈ store.issued) (other epochId id : JsString)
    (hid : (other,epochId,id) ∈ (store.give roomId recipients room).granted) : epochId ∈ store.issued := by
  rcases mem_append.mp hid with hid | hid
  · obtain ⟨epoch,hepoch,hid⟩ := mem_flatMap.mp hid
    obtain ⟨recipient,-,heq⟩ := mem_map.mp hid
    obtain ⟨-,hrest⟩ := Prod.mk.inj heq
    obtain ⟨rfl,-⟩ := Prod.mk.inj hrest
    exact hroom epoch.toEpoch (mem_map_of_mem hepoch)
  · exact h other epochId id hid

theorem Invariant.ends (h : Invariant store) (hfresh : fresh.epochId ∉ store.issued)
    (hdisk : AnswersFromDisk localeCompare store roomId devices)
    (he : Ends localeCompare store roomId devices fresh outcome result) : Invariant result.2 := by
  cases he with
  | noRecipient | exceeded => exact h
  | unchanged room hroom he =>
    obtain ⟨written,hwritten,hring,hsame⟩ := hdisk room hroom he.goesTo
    refine ⟨h.memory.give hroom rfl ?_,h.disk.give hwritten hring ?_,?_⟩
    · intro id hid
      rw [he.goesTo]
      exact hid
    · intro id hid
      rw [hsame,he.goesTo]
      exact hid
    · exact issued_of_granted_give h.granted (h.memory.issued roomId room hroom)
  | written room he =>
    have hset := h.memory.set h.granted hfresh he
    have hget := get_set_self store.memory roomId room
    have hto : ∀ id ∈ uniqueSorted localeCompare (devices.map (·.id)),id ∈ room.activeRecipients := by
      intro id hid
      rw [he.goesTo]
      exact hid
    refine ⟨hset.give hget rfl hto,hset.give hget rfl hto,?_⟩
    refine issued_of_granted_give ?_ (hset.issued roomId room hget)
    exact fun other epochId id hid => mem_cons_of_mem _ (h.granted other epochId id hid)
  | unwritten room replaced houtcome he =>
    have hset := h.memory.set h.granted hfresh he
    refine ⟨hset,?_,fun other epochId id hid => mem_cons_of_mem _ (h.granted other epochId id hid)⟩
    cases replaced with
    | false => exact h.disk.issue fresh.epochId
    | true => exact hset

theorem invariant_of_run (hr : Run localeCompare store) : Invariant store := by
  induction hr with
  | empty => exact invariant_empty
  | call roomId devices fresh outcome _ hnamed hfresh hdisk ih =>
    exact ih.ends hfresh hdisk (ends_ensureRoom ih hnamed hfresh)
  | restart memory _ hload ih =>
    rw [ih.disk.load_eq] at hload
    obtain rfl := some.inj hload
    exact ⟨ih.disk.loaded,ih.disk,ih.granted⟩

/-- What a call does for the devices: nobody else ever had the active epoch, the epochs that were returned before
are in the ring, and a call fails for want of a device, of a write, or of room for another epoch. -/
structure CallKeeps (store : Store) (roomId : JsString) (devices : List Device) (outcome : WriteOutcome)
    (result : Except KeyError KeyRing × Store) : Prop where
  removed : ∀ ring, result.1 = .ok ring → ∀ id, (roomId,ring.activeEpochId,id) ∈ result.2.granted →
    id ∈ devices.map (·.id)
  kept : ∀ ring, result.1 = .ok ring → ∀ epoch, (roomId,epoch) ∈ store.returned → epoch ∈ ring.epochs
  fails : ∀ error, result.1 = .error error →
    (error = .noRecipient ∧ devices = []) ∨ (error = .unwritten ∧ ∃ replaced,outcome = .fails replaced) ∨
      (error = .exceeded ∧ result.2 = store ∧ ∃ room,store.memory.get roomId = some room ∧
        room.epochs.length = maxEpochs ∧ ∃ id ∈ room.activeRecipients,id ∉ devices.map (·.id))

/-- The ring of the record that is in memory after the call. -/
theorem callKeeps_of_ok (h : Invariant result.2)
    (hresult : result.1 = .ok room.publicKeyRing) (hroom : result.2.memory.get roomId = some room)
    (hto : room.activeRecipients = uniqueSorted localeCompare (devices.map (·.id)))
    (hreturned : store.returned ⊆ result.2.returned) : CallKeeps store roomId devices outcome result where
  removed := by
    intro ring hring id hid
    rw [hresult] at hring
    obtain rfl := ok.inj hring
    have hmem := h.memory.granted roomId room hroom id hid
    rw [hto] at hmem
    exact mem_uniqueSorted.mp hmem
  kept := by
    intro ring hring epoch hepoch
    rw [hresult] at hring
    obtain rfl := ok.inj hring
    obtain ⟨record,hrecord,hmem⟩ := h.memory.returned roomId epoch (hreturned hepoch)
    rw [hroom] at hrecord
    obtain rfl := some.inj hrecord
    exact hmem
  fails := by
    intro error herror
    rw [hresult] at herror
    cases herror

theorem callKeeps_of_error (hresult : result.1 = .error error)
    (hfails : (error = .noRecipient ∧ devices = []) ∨ (error = .unwritten ∧ ∃ replaced,outcome = .fails replaced) ∨
      (error = .exceeded ∧ result.2 = store ∧ ∃ room,store.memory.get roomId = some room ∧
        room.epochs.length = maxEpochs ∧ ∃ id ∈ room.activeRecipients,id ∉ devices.map (·.id))) :
    CallKeeps store roomId devices outcome result where
  removed := by
    intro ring hring
    rw [hresult] at hring
    cases hring
  kept := by
    intro ring hring
    rw [hresult] at hring
    cases hring
  fails := by
    intro other hother
    rw [hresult] at hother
    obtain rfl := Except.error.inj hother
    exact hfails

theorem Invariant.callKeeps (h : Invariant store) (hfresh : fresh.epochId ∉ store.issued)
    (hdisk : AnswersFromDisk localeCompare store roomId devices)
    (he : Ends localeCompare store roomId devices fresh outcome result) :
    CallKeeps store roomId devices outcome result := by
  have hresult := h.ends hfresh hdisk he
  cases he with
  | noRecipient hnone => exact callKeeps_of_error rfl (.inl ⟨rfl,hnone⟩)
  | exceeded room hroom hlength hremoved =>
    obtain ⟨id,hid,hnot⟩ := hremoved
    exact callKeeps_of_error rfl (.inr (.inr ⟨rfl,rfl,room,hroom,hlength,id,hid,mt mem_uniqueSorted.mpr hnot⟩))
  | unchanged room hroom he =>
    exact callKeeps_of_ok hresult rfl hroom he.goesTo (subset_append_right _ _)
  | written room he =>
    exact callKeeps_of_ok hresult rfl (get_set_self _ _ _) he.goesTo (subset_append_right _ _)
  | unwritten room replaced houtcome he => exact callKeeps_of_error rfl (.inr (.inl ⟨rfl,replaced,houtcome⟩))

def sampleCompare (left right : JsString) : ℤ :=
  if left = right then 0 else if left.length < right.length then -1 else 1

def sampleDevice (k : ℕ) : Device := ⟨⟨120 :: replicate k 120⟩,rfl⟩

def sampleEpoch (k : ℕ) : Epoch := ⟨⟨120 :: replicate k 120⟩,"key",k⟩

def sampleDevices (k : ℕ) : List Device := if k % 2 = 0 then [sampleDevice 0] else [sampleDevice 0,sampleDevice 1]

def sampleStore : ℕ → Store
  | 0 => .empty
  | k + 1 => ((sampleStore k).ensureRoom sampleCompare "room" (sampleDevices k) (sampleEpoch k) .completes).2

theorem sampleEpoch_inj {j k : ℕ} (h : (sampleEpoch j).epochId = (sampleEpoch k).epochId) : j = k := by
  have hlength := congrArg (fun id : JsString => id.units.length) h
  simpa [sampleEpoch] using hlength

/-- Without a failing write every call is answered from the file. -/
theorem answersFromDisk_of_eq (h : store.disk = store.memory) : AnswersFromDisk localeCompare store roomId devices := by
  intro room hroom _
  rw [h]
  exact ⟨room,hroom,rfl,fun id => Iff.rfl⟩

/-- A call whose write completes leaves the file and the memory the same. -/
theorem Ends.disk_eq (h : store.disk = store.memory)
    (he : Ends localeCompare store roomId devices fresh .completes result) : result.2.disk = result.2.memory := by
  cases he with
  | noRecipient | exceeded | unchanged => exact h
  | written room he => rfl
  | unwritten room replaced houtcome he => cases houtcome

theorem Ends.issued_subset (he : Ends localeCompare store roomId devices fresh outcome result) :
    result.2.issued ⊆ fresh.epochId :: store.issued := by
  cases he with
  | noRecipient | exceeded | unchanged => exact subset_cons_self _ _
  | written | unwritten => exact List.Subset.refl _

theorem run_sampleStore (k : ℕ) : Run sampleCompare (sampleStore k) ∧ (sampleStore k).disk = (sampleStore k).memory ∧
    ∀ epochId ∈ (sampleStore k).issued, ∃ j < k, epochId = (sampleEpoch j).epochId := by
  induction k with
  | zero =>
    refine ⟨.empty,rfl,?_⟩
    intro epochId hepochId
    cases hepochId
  | succ k ih =>
    obtain ⟨hr,hsame,hissued⟩ := ih
    have hfresh : (sampleEpoch k).epochId ∉ (sampleStore k).issued := by
      intro hmem
      obtain ⟨j,hj,heq⟩ := hissued _ hmem
      have hjk := sampleEpoch_inj heq
      omega
    have he : Ends sampleCompare (sampleStore k) "room" (sampleDevices k) (sampleEpoch k) .completes _ :=
      ends_ensureRoom (invariant_of_run hr) rfl hfresh
    refine ⟨.call _ _ _ _ hr rfl hfresh (answersFromDisk_of_eq hsame),he.disk_eq hsame,?_⟩
    intro epochId hepochId
    rcases mem_cons.mp (he.issued_subset hepochId) with rfl | hmem
    · exact ⟨k,Nat.lt_succ_self k,rfl⟩
    · obtain ⟨j,hj,heq⟩ := hissued epochId hmem
      exact ⟨j,Nat.lt_succ_of_lt hj,heq⟩

/-- In every run the store can be loaded again, and a call leaves the active epoch to its devices, loses no epoch
and fails only to remove a device from a full ring. -/
theorem removed_device_rotates (hr : Run localeCompare store) : (∃ memory,load localeCompare store.disk = some memory) ∧
      ∀ (roomId : JsString) (devices : List Device) (fresh : Epoch) (outcome : WriteOutcome),
        fresh.epochId.truthy = true → fresh.epochId ∉ store.issued →
          AnswersFromDisk localeCompare store roomId devices →
            CallKeeps store roomId devices outcome (store.ensureRoom localeCompare roomId devices fresh outcome) := by
  have h := invariant_of_run hr
  refine ⟨⟨_,h.disk.load_eq⟩,?_⟩
  intro roomId devices fresh outcome hnamed hfresh hdisk
  exact h.callKeeps hfresh hdisk (ends_ensureRoom h hnamed hfresh)

theorem removed_device_rotates_sample : (∃ memory,load sampleCompare (sampleStore 2).disk = some memory) ∧
      CallKeeps (sampleStore 2) "room" (sampleDevices 2) .completes
        ((sampleStore 2).ensureRoom sampleCompare "room" (sampleDevices 2) (sampleEpoch 2) .completes) := by
  obtain ⟨hr,hsame,-⟩ := run_sampleStore 2
  obtain ⟨hload,hcall⟩ := removed_device_rotates hr
  exact ⟨hload,hcall _ _ _ _ rfl (by decide) (answersFromDisk_of_eq hsame)⟩

/-- When a device leaves for the 64th time the call fails. -/
theorem full_ring_fails : ∃ store, Run sampleCompare store ∧ store.disk = store.memory ∧
    (sampleEpoch 128).epochId ∉ store.issued ∧
      (store.ensureRoom sampleCompare "room" [sampleDevice 0] (sampleEpoch 128) .completes).1 = .error .exceeded := by
  obtain ⟨hr,hsame,hissued⟩ := run_sampleStore 128
  refine ⟨sampleStore 128,hr,hsame,?_,?_⟩
  · intro hmem
    obtain ⟨j,hj,heq⟩ := hissued _ hmem
    have hjk := sampleEpoch_inj heq
    omega
  · decide +kernel

end Malink.TimelineKeys
