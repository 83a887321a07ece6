import Malink.OutboxWal

/-!
# The atomic JSON file

A state is written to a file of its own, which takes the place of the old one in two renames.
-/

namespace Malink.Security

open Json (parse stringify)
open Outbox (byteLength readPrefix)

structure Files where
  primary : Option (List Char)
  next : Option (List Char)
  previous : Option (List Char)
  deriving DecidableEq

def encode (state : Json) : List Char := stringify state ++ ['\n']

inductive StateFile
  | primary
  | next
  | previous
  deriving DecidableEq

def StateFile.path (path : JsString) : StateFile → JsString
  | primary => path
  | next => path ++ ".next"
  | previous => path ++ ".previous"

/-- A file that holds no JSON. -/
inductive ReadError
  | invalid (file : StateFile)
  deriving DecidableEq

def ReadError.message (path : JsString) : ReadError → JsString
  | invalid file => ("Security state file is invalid: " : JsString) ++ file.path path

def readJsonCandidate (file : StateFile) : Option (List Char) → Except ReadError (Option Json)
  | none => .ok none
  | some text =>
    match parse text with
    | some value => .ok (some value)
    | none => .error (.invalid file)

def read (createDefault : Json) (files : Files) : Except ReadError Json :=
  (readJsonCandidate .primary files.primary).bind fun primary =>
    match primary with
    | some value => .ok value
    | none =>
      (readJsonCandidate .next files.next).bind fun next =>
        match next with
        | some value => .ok value
        | none => (readJsonCandidate .previous files.previous).map (·.getD createDefault)

/-- The steps of `write` that change a file. -/
inductive WriteStep
  | removeNext
  | createNext
  | writeNext
  | removePrevious
  | moveAside
  | promote
  | removeAside
  deriving DecidableEq

def WriteStep.apply (state : Json) (files : Files) : WriteStep → Files
  | removeNext => { files with next := none }
  | createNext => { files with next := some [] }
  | writeNext => { files with next := some (encode state) }
  | removePrevious => { files with previous := none }
  | moveAside =>
    match files.primary with
    | none => files
    | some text => { files with primary := none, previous := some text }
  | promote => { files with primary := files.next, next := none }
  | removeAside => { files with previous := none }

def writeSteps : List WriteStep := [.removeNext,.createNext,.writeNext,.removePrevious,.moveAside,.promote,.removeAside]

def write (state : Json) (files : Files) : Files := writeSteps.foldl (WriteStep.apply state) files

/-- How far a write came: the steps that it finished, and the bytes of a text that it was writing. -/
structure CrashPoint where
  steps : ℕ
  bytes : ℕ

def interruptedWrite (state : Json) (point : CrashPoint) (files : Files) : Files :=
  let done := (writeSteps.take point.steps).foldl (WriteStep.apply state) files
  match writeSteps[point.steps]? with
  | some .writeNext => { done with next := some (readPrefix point.bytes (encode state)) }
  | _ => done

/-- The files, the last value that was read or completely written, and the value that was being written when
the process ended. -/
structure Store where
  files : Files
  current : Json
  writing : Option Json

inductive Call
  | transaction (change : Option Json)
  | interrupted (change : Json) (point : CrashPoint)

/-- A transaction reads and then writes what its operation changed. When the read throws it does nothing. -/
def Store.perform (createDefault : Json) (store : Store) (call : Call) : Store :=
  match read createDefault store.files with
  | .error _ => store
  | .ok value =>
    match call with
    | .transaction none => { store with current := value, writing := none }
    | .transaction (some change) => { files := write change store.files, current := change, writing := none }
    | .interrupted change point =>
      { files := interruptedWrite change point store.files, current := value, writing := some change }

def Store.fresh (createDefault : Json) : Store := ⟨⟨none,none,none⟩,createDefault,none⟩

/-- A run of transactions and crashes, each of which is allowed for the files that it finds. -/
inductive Run (createDefault : Json) (allowed : Files → Call → Prop) : Store → Prop
  | fresh : Run createDefault allowed (.fresh createDefault)
  | call {store : Store} (call : Call) (h : Run createDefault allowed store) (hcall : allowed store.files call) :
    Run createDefault allowed (store.perform createDefault call)

/-- The next read gives the last value or the one that was being written. -/
def Store.Consistent (createDefault : Json) (store : Store) : Prop :=
  ∃ value, read createDefault store.files = .ok value ∧ (value = store.current ∨ store.writing = some value)

/-- A crash leaves a file that can be read: the file itself is there when the write begins, or the crash is not
between the removal of `.next` and the end of the text that is written to it. -/
def LeavesReadable (files : Files) : Call → Prop
  | .transaction _ => True
  | .interrupted change point => files.primary.isSome = true ∨ point.steps = 0 ∨
      (point.steps = 1 ∧ files.next = none) ∨
      (point.steps = 2 ∧ byteLength (stringify change) ≤ point.bytes) ∨ 3 ≤ point.steps

theorem parse_encode (state : Json) : parse (encode state) = some state := by
  have hend : Json.NumberEnd ['\n'] := Json.numberEnd_cons (by decide) []
  have h := Json.parseValue_stringify state ((encode state).length + 1) ['\n']
    (by rw [encode,List.length_append]; omega) hend
  rw [parse,encode]
  rw [encode] at h
  rw [h]
  rfl

/-- A text that lost no more than its last character holds the same state. -/
theorem parse_readPrefix {state : Json} {n : ℕ} (h : byteLength (stringify state) ≤ n) :
    parse (readPrefix n (encode state)) = some state := by
  rw [encode,Outbox.readPrefix_append_of_le h]
  cases hn : n - byteLength (stringify state) with
  | zero =>
    rw [readPrefix,List.append_nil]
    exact Json.parse_stringify state
  | succ k =>
    have hnewline : readPrefix (k + 1) ['\n'] = ['\n'] := by
      have hsize : Char.utf8Size '\n' = 1 := rfl
      rw [readPrefix,hsize,if_pos (by omega)]
      cases k with
      | zero | succ => rfl
    rw [hnewline]
    exact parse_encode state

/-- The text holds the last value or the one that was being written. -/
def Store.Holds (store : Store) (text : List Char) : Prop :=
  ∃ value, parse text = some value ∧ (value = store.current ∨ store.writing = some value)

/-- The file holds the state, or `.next` does while there is no file, or nothing was ever written. -/
inductive Invariant (createDefault : Json) (store : Store) : Prop
  | primary (text : List Char) (hfile : store.files.primary = some text) (hholds : store.Holds text)
  | next (text : List Char) (hfile : store.files.primary = none) (hnext : store.files.next = some text)
    (hholds : store.Holds text)
  | nothing (hfile : store.files.primary = none) (hnext : store.files.next = none)
    (hprevious : store.files.previous = none) (hcurrent : store.current = createDefault)

variable {createDefault : Json} {store : Store} {text : List Char} {value : Json}

theorem readJsonCandidate_some {file : StateFile}
    (h : parse text = some value) : readJsonCandidate file (some text) = .ok (some value) := by
  rw [readJsonCandidate,h]

variable {files : Files}

theorem read_primary (hfile : files.primary = some text)
    (h : parse text = some value) : read createDefault files = .ok value := by
  rw [read,hfile,readJsonCandidate_some h]
  rfl

theorem read_next (hfile : files.primary = none) (hnext : files.next = some text)
    (h : parse text = some value) : read createDefault files = .ok value := by
  rw [read,hfile,hnext,readJsonCandidate_some h]
  rfl

theorem read_nothing (hfile : files.primary = none) (hnext : files.next = none) (hprevious : files.previous = none) :
    read createDefault files = .ok createDefault := by
  rw [read,hfile,hnext,hprevious]
  rfl

theorem Invariant.consistent (h : Invariant createDefault store) : store.Consistent createDefault := by
  cases h with
  | primary text hfile hholds =>
    obtain ⟨value,hparse,hvalue⟩ := hholds
    exact ⟨value,read_primary hfile hparse,hvalue⟩
  | next text hfile hnext hholds =>
    obtain ⟨value,hparse,hvalue⟩ := hholds
    exact ⟨value,read_next hfile hnext hparse,hvalue⟩
  | nothing hfile hnext hprevious hcurrent =>
    exact ⟨createDefault,read_nothing hfile hnext hprevious,.inl hcurrent.symm⟩

theorem invariant_fresh (createDefault : Json) : Invariant createDefault (.fresh createDefault) :=
  .nothing rfl rfl rfl rfl

theorem write_eq (state : Json) (files : Files) : write state files = ⟨some (encode state),none,none⟩ := by
  obtain ⟨primary,next,previous⟩ := files
  cases primary with
  | none | some => rfl

theorem Invariant.read (h : Invariant createDefault store)
    (hread : Security.read createDefault store.files = .ok value) (writing : Option Json) :
    Invariant createDefault { store with current := value, writing := writing } := by
  cases h with
  | primary text hfile hholds =>
    obtain ⟨found,hparse,-⟩ := hholds
    rw [read_primary hfile hparse] at hread
    exact .primary text hfile ⟨found,hparse,.inl (Except.ok.inj hread)⟩
  | next text hfile hnext hholds =>
    obtain ⟨found,hparse,-⟩ := hholds
    rw [read_next hfile hnext hparse] at hread
    exact .next text hfile hnext ⟨found,hparse,.inl (Except.ok.inj hread)⟩
  | nothing hfile hnext hprevious hcurrent =>
    rw [read_nothing hfile hnext hprevious] at hread
    exact .nothing hfile hnext hprevious (Except.ok.inj hread).symm

theorem holds_encode (files : Files) (current change : Json) :
    Store.Holds ⟨files,current,some change⟩ (encode change) := ⟨change,parse_encode change,.inr rfl⟩

variable {point : CrashPoint}

theorem interruptedWrite_all (change : Json) (files : Files) (h : 7 ≤ point.steps) :
    interruptedWrite change point files = write change files := by
  have hnone : writeSteps[point.steps]? = none := List.getElem?_eq_none h
  rw [interruptedWrite,hnone,List.take_of_length_le h]
  rfl

/-- A write that is cut after the file was moved aside leaves the new state. -/
theorem invariant_late (files : Files) (current change : Json) (h : 5 ≤ point.steps) :
    Invariant createDefault ⟨interruptedWrite change point files,current,some change⟩ := by
  obtain ⟨steps,bytes⟩ := point
  obtain ⟨primary,next,previous⟩ := files
  obtain ⟨k,rfl⟩ := Nat.exists_eq_add_of_le' h
  have hholds := holds_encode (interruptedWrite change ⟨k + 5,bytes⟩ ⟨primary,next,previous⟩) current change
  match k with
  | 0 =>
    cases primary with
    | none | some => exact .next (encode change) rfl rfl hholds
  | 1 =>
    cases primary with
    | none | some => exact .primary (encode change) rfl hholds
  | k + 2 =>
    rw [interruptedWrite_all change _ (by simp)]
    rw [write_eq]
    exact .primary (encode change) rfl (holds_encode _ current change)

/-- A write over an existing file that is cut earlier leaves that file. -/
theorem primary_interruptedWrite (hfile : files.primary = some text) (change : Json)
    (h : point.steps < 5) : (interruptedWrite change point files).primary = some text := by
  obtain ⟨steps,bytes⟩ := point
  obtain ⟨primary,next,previous⟩ := files
  obtain rfl : primary = some text := hfile
  match steps with
  | 0 | 1 | 2 | 3 | 4 => rfl

/-- A write without an existing file that is cut earlier leaves the new state in `.next`, unless it is cut while
there is no such state. -/
theorem next_interruptedWrite (hfile : files.primary = none) (change : Json)
    (h : point.steps < 5) (hlate : 3 ≤ point.steps ∨ (point.steps = 2 ∧ byteLength (stringify change) ≤ point.bytes)) :
    (interruptedWrite change point files).primary = none ∧
      ∃ text, (interruptedWrite change point files).next = some text ∧ parse text = some change := by
  obtain ⟨steps,bytes⟩ := point
  obtain ⟨primary,next,previous⟩ := files
  obtain rfl : primary = none := hfile
  match steps with
  | 0 | 1 =>
    simp only at hlate
    omega
  | 2 =>
    rcases hlate with hlate | ⟨-,hbytes⟩
    · simp only at hlate
      omega
    · exact ⟨rfl,_,rfl,parse_readPrefix hbytes⟩
  | 3 | 4 => exact ⟨rfl,_,rfl,parse_encode change⟩

theorem interruptedWrite_zero (files : Files) (change : Json) (h : point.steps = 0) :
    interruptedWrite change point files = files := by
  rw [interruptedWrite,h]
  rfl

theorem interruptedWrite_one (hnext : files.next = none) (change : Json) (h : point.steps = 1) :
    interruptedWrite change point files = files := by
  obtain ⟨primary,next,previous⟩ := files
  obtain rfl : next = none := hnext
  rw [interruptedWrite,h]
  rfl

theorem Invariant.interrupted (h : Invariant createDefault store)
    (hread : Security.read createDefault store.files = .ok value) (change : Json) (point : CrashPoint)
    (hallowed : LeavesReadable store.files (.interrupted change point)) :
    Invariant createDefault ⟨interruptedWrite change point store.files,value,some change⟩ := by
  by_cases hlate : 5 ≤ point.steps
  · exact invariant_late store.files value change hlate
  have hread' := h.read hread (some change)
  have hlt : point.steps < 5 := Nat.lt_of_not_le hlate
  -- Once the text is complete the state that was being written is read.
  have hcomplete (hfile : store.files.primary = none) (hwritten : 3 ≤ point.steps ∨
      (point.steps = 2 ∧ byteLength (stringify change) ≤ point.bytes)) :
      Invariant createDefault ⟨interruptedWrite change point store.files,value,some change⟩ := by
    obtain ⟨hfile',text,hnext,hparse⟩ := next_interruptedWrite hfile change hlt hwritten
    exact .next text hfile' hnext ⟨change,hparse,.inr rfl⟩
  rcases hallowed with hsome | hzero | ⟨hone,hnone⟩ | hwritten | hafter
  · cases hread' with
    | primary text hfile hholds => exact .primary text (primary_interruptedWrite hfile change hlt) hholds
    | next text hfile hnext hholds =>
      rw [hfile] at hsome
      cases hsome
    | nothing hfile hnext hprevious hcurrent =>
      rw [hfile] at hsome
      cases hsome
  · rw [interruptedWrite_zero store.files change hzero]
    exact hread'
  · rw [interruptedWrite_one hnone change hone]
    exact hread'
  · cases hread' with
    | primary text hfile hholds => exact .primary text (primary_interruptedWrite hfile change hlt) hholds
    | next text hfile hnext hholds => exact hcomplete hfile (.inr hwritten)
    | nothing hfile hnext hprevious hcurrent => exact hcomplete hfile (.inr hwritten)
  · cases hread' with
    | primary text hfile hholds => exact .primary text (primary_interruptedWrite hfile change hlt) hholds
    | next text hfile hnext hholds => exact hcomplete hfile (.inl hafter)
    | nothing hfile hnext hprevious hcurrent => exact hcomplete hfile (.inl hafter)

theorem Invariant.perform (h : Invariant createDefault store) {call : Call} (hcall : LeavesReadable store.files call) :
    Invariant createDefault (store.perform createDefault call) := by
  obtain ⟨value,hread,-⟩ := h.consistent
  rw [Store.perform,hread]
  cases call with
  | transaction change =>
    cases change with
    | none => exact h.read hread none
    | some change =>
      simp only [write_eq]
      exact .primary (encode change) rfl ⟨change,parse_encode change,.inl rfl⟩
  | interrupted change point => exact h.interrupted hread change point hcall

theorem invariant_of_run (hr : Run createDefault LeavesReadable store) : Invariant createDefault store := by
  induction hr with
  | fresh => exact invariant_fresh createDefault
  | call call _ hcall ih => exact ih.perform hcall

/-- In every run whose crashes leave a file that can be read, the next read gives the last value or the one that
was being written. -/
theorem consistent_of_run (hr : Run createDefault LeavesReadable store) : store.Consistent createDefault :=
  (invariant_of_run hr).consistent

def sampleState (name : JsString) : Json := .obj [("name",.str name)]

theorem consistent_of_run_recovered : Store.Consistent .null
    (((Store.fresh .null).perform .null (.transaction (some (sampleState "old")))).perform .null
      (.interrupted (sampleState "new") ⟨5,0⟩)) := by
  apply consistent_of_run
  refine .call _ (.call _ .fresh trivial) (.inl ?_)
  rfl

def cutFirstWrite : Store := (Store.fresh .null).perform .null (.interrupted (sampleState "new") ⟨2,5⟩)

/-- A crash between the two renames, a read that recovers, and a crash at the beginning of the next write. -/
def forgottenRecovery : Store :=
  [.transaction (some (sampleState "old")),.interrupted (sampleState "new") ⟨5,0⟩,.transaction none,
    .interrupted (sampleState "newer") ⟨1,0⟩].foldl (Store.perform .null) (.fresh .null)

theorem run_foldl (calls : List Call) (hr : Run createDefault (fun _ _ => True) store) :
    Run createDefault (fun _ _ => True) (calls.foldl (Store.perform createDefault) store) := by
  induction calls generalizing store with
  | nil => exact hr
  | cons call calls ih => exact ih (.call call hr trivial)

theorem read_cutFirstWrite : read .null cutFirstWrite.files = .error (.invalid .next) := by decide

theorem read_forgottenRecovery : forgottenRecovery.current = sampleState "new" ∧
    forgottenRecovery.writing = some (sampleState "newer") ∧
    read .null forgottenRecovery.files = .ok (sampleState "old") := by decide

/-- A read throws after the first crash, and returns an older value after the second one. -/
theorem crashes_not_consistent :
    (Run .null (fun _ _ => True) cutFirstWrite ∧ ¬ cutFirstWrite.Consistent .null) ∧
      Run .null (fun _ _ => True) forgottenRecovery ∧ ¬ forgottenRecovery.Consistent .null := by
  refine ⟨⟨.call _ .fresh trivial,?_⟩,run_foldl _ .fresh,?_⟩
  · rintro ⟨value,hread,-⟩
    rw [read_cutFirstWrite] at hread
    cases hread
  · rintro ⟨value,hread,hvalue⟩
    obtain ⟨hcurrent,hwriting,hold⟩ := read_forgottenRecovery
    rw [hold] at hread
    obtain rfl := Except.ok.inj hread
    rw [hcurrent,hwriting] at hvalue
    revert hvalue
    decide

end Malink.Security
