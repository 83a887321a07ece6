import Malink.DurableChanges
import Malink.ExecutionTracks

/-!
# What the execution tracks do step by step

A moment is the state in the file and the log of the host, newest first. Every call, wherever it is cut off, makes the
moves below and no others.
-/

namespace Malink.Tracks

open DurableProgram Option
open Deployment (isReleaseId)
open Bool (and_eq_true)

inductive Event
  | activated (releaseId : JsString)
  | released (releaseId : JsString)
  | backedUp (generation : ℕ) (path : JsString)
  deriving DecidableEq

/-- A release may run from the moment the host is asked to activate it, also when the host then fails. -/
def Request.event : (request : Request) → Except JsString request.Reply → Option Event
  | .activate releaseId _ _, _ => some (.activated releaseId)
  | .releaseExecution releaseId, .ok _ => some (.released releaseId)
  | .backupStoppedState state, .ok path => some (.backedUp state.generation path)
  | _, _ => none

/-- The host returns anything, and throws one of the texts. -/
def hostStep (texts : JsString → Prop) (log : List Event) (request : Request) (reply : Except JsString request.Reply)
    (log' : List Event) : Prop :=
  (∀ text,reply = .error text → texts text) ∧ log' = (request.event reply).toList ++ log

/-- The releases that were activated and have not been released since. -/
def mayRun : List Event → List JsString
  | [] => []
  | .activated releaseId :: earlier => releaseId :: mayRun earlier
  | .released releaseId :: earlier => (mayRun earlier).filter (· ≠ releaseId)
  | .backedUp _ _ :: earlier => mayRun earlier

theorem not_mem_mayRun_released {releaseId : JsString} {log : List Event} :
    releaseId ∉ mayRun (.released releaseId :: log) := by
  intro h
  exact of_decide_eq_true (List.mem_filter.mp h).2 rfl

theorem mem_mayRun_of_released {releaseId other : JsString} {log : List Event}
    (h : other ∈ mayRun (.released releaseId :: log)) : other ∈ mayRun log :=
  (List.mem_filter.mp h).1

def lastActivated : List Event → Option JsString
  | [] => none
  | .activated releaseId :: _ => some releaseId
  | _ :: earlier => lastActivated earlier

section

variable (schemaText : Refused → JsString) (initial : GatewayExecutionTracksState)

structure Valid (state : GatewayExecutionTracksState) : Prop where
  parses : state.parses
  gatewayNodeId : state.gatewayNodeId = initial.gatewayNodeId
  dataDirectory : state.dataDirectory = initial.dataDirectory
  target : state.phase ≠ .steady → state.targetRelease ≠ none
  forward : state.backupPath.isSome ∨ state.targetWriteStarted → state.forwardOnly

theorem check_eq_none_iff {state : GatewayExecutionTracksState} :
    check schemaText initial state = none ↔ Valid initial state := by
  unfold check
  constructor
  · intro h
    split at h
    · cases h
    split at h
    · cases h
    split at h
    · cases h
    split at h
    · cases h
    next hparses hidentity htarget hforward =>
      rw [Bool.not_eq_false] at hparses
      rw [not_or,not_not,not_not] at hidentity
      refine ⟨hparses,hidentity.1,hidentity.2,fun hphase hnone => htarget ⟨hphase,hnone⟩,fun hmeta => ?_⟩
      rw [← Bool.not_eq_false]
      exact fun hfalse => hforward ⟨hmeta,hfalse⟩
  · intro h
    have hidentity : ¬(state.gatewayNodeId ≠ initial.gatewayNodeId ∨ state.dataDirectory ≠ initial.dataDirectory) := by
      rw [not_or,not_not,not_not]
      exact ⟨h.gatewayNodeId,h.dataDirectory⟩
    have htarget : ¬(state.phase ≠ .steady ∧ state.targetRelease = none) := fun hand => h.target hand.1 hand.2
    have hforward : ¬((state.backupPath.isSome ∨ state.targetWriteStarted) ∧ state.forwardOnly = false) := by
      intro hand
      rw [h.forward hand.1] at hand
      cases hand.2
    rw [if_neg (Bool.not_eq_false _ ▸ h.parses),if_neg hidentity,if_neg htarget,if_neg hforward]

/-- What a run keeps, beyond what is checked at every write. -/
structure Sound (state : GatewayExecutionTracksState) : Prop extends Valid initial state where
  started : state.phase = .steady → state.forwardOnly → state.targetWriteStarted
  backed : state.targetWriteStarted → state.backupPath ≠ none

/-- A selection of a release, with the state that it was made in. -/
def GatewayExecutionTracksState.Allows (state : GatewayExecutionTracksState) (releaseId : JsString) : Prop :=
  (state.phase = .steady ∧ releaseId ≠ state.activeRelease) ∨
    (state.phase = .attention ∧ state.forwardOnly = false ∧
      (releaseId = state.activeRelease ∨ some releaseId = state.targetRelease ∨ some releaseId = state.standbyRelease))

inductive Change (selects : JsString → GatewayExecutionTracksState → List Event → Prop) (texts : JsString → Prop)
    (state : GatewayExecutionTracksState) (log : List Event) : GatewayExecutionTracksState → Prop
  | select (releaseId : JsString) (allowForwardOnly : Bool) (hallows : state.Allows releaseId)
    (hselects : selects releaseId state log) : Change selects texts state log (state.intend releaseId allowForwardOnly)
  | backup (path : JsString) (hphase : state.phase ≠ .steady) (hforward : state.forwardOnly)
    (hnone : state.backupPath = none) (hstarted : state.targetWriteStarted = false)
    (hlog : log.head? = some (.backedUp state.generation path)) :
    Change selects texts state log { state with backupPath := some path }
  | write (hphase : state.phase ≠ .steady) (hforward : state.forwardOnly) (hbackup : state.backupPath ≠ none) :
    Change selects texts state log { state with targetWriteStarted := true, standbyRelease := none }
  | activate (hphase : state.phase ≠ .steady) (hforward : state.forwardOnly → state.targetWriteStarted) :
    Change selects texts state log { state with phase := .activating }
  | finish (target : JsString) (hphase : state.phase = .activating) (htarget : state.targetRelease = some target)
    (hforward : state.forwardOnly → state.targetWriteStarted)
    (hactive : state.activeRelease ∈ mayRun log → state.activeRelease = target)
    (hlast : lastActivated log = some target) : Change selects texts state log (completed state target)
  | startDefault (hphase : state.phase = .steady) :
    Change selects texts state log
      { state with phase := .activating, targetRelease := some state.activeRelease }
  | finishDefault (hphase : state.phase = .activating) (htarget : state.targetRelease = some state.activeRelease)
    (hforward : state.forwardOnly → state.targetWriteStarted)
    (hlast : lastActivated log = some state.activeRelease) :
    Change selects texts state log { state with phase := .steady, targetRelease := none, error := none }
  | fail (error : JsString) (hphase : state.phase ≠ .steady) (hthrown : texts error) :
    Change selects texts state log { state with phase := .attention, error := some error }
  | standby (error : Option JsString) (hphase : state.phase = .steady)
    (hthrown : ∀ text,error = some text → ∃ thrown,texts thrown ∧ text = unavailable thrown) :
    Change selects texts state log { state with error := error }

inductive Move (selects : JsString → GatewayExecutionTracksState → List Event → Prop) (texts : JsString → Prop) :
    GatewayExecutionTracksState × List Event → GatewayExecutionTracksState × List Event → Prop
  | idle (moment : GatewayExecutionTracksState × List Event) : Move selects texts moment moment
  | write {state state' : GatewayExecutionTracksState} {log : List Event} (hvalid : Valid initial state')
    (hchange : Change selects texts state log state') : Move selects texts (state,log) (state',log)
  | release {state : GatewayExecutionTracksState} {log : List Event} (releaseId : JsString) :
    Move selects texts (state,log) (state,.released releaseId :: log)
  | activate {state : GatewayExecutionTracksState} {log : List Event} (target : JsString)
    (hphase : state.phase = .activating) (htarget : state.targetRelease = some target)
    (hforward : state.forwardOnly → state.targetWriteStarted)
    (hactive : state.activeRelease ∈ mayRun log → state.activeRelease = target) :
    Move selects texts (state,log) (state,.activated target :: log)
  | backUp {state : GatewayExecutionTracksState} {log : List Event} (path : JsString)
    (hforward : state.forwardOnly) (hnone : state.backupPath = none)
    (hstarted : state.targetWriteStarted = false) :
    Move selects texts (state,log) (state,.backedUp state.generation path :: log)

end

variable {condition : Bool} {target : JsString}

section

variable {schemaText : Refused → JsString} {initial : GatewayExecutionTracksState}
  {selects : JsString → GatewayExecutionTracksState → List Event → Prop} {texts : JsString → Prop}
  {state next : GatewayExecutionTracksState} {log : List Event} {α β : Type}

/-- A program that makes moves only. -/
abbrev Makes (initial : GatewayExecutionTracksState)
    (selects : JsString → GatewayExecutionTracksState → List Event → Prop) (texts : JsString → Prop)
    (post : Except JsString α → GatewayExecutionTracksState → List Event → Prop) :
    Program α → GatewayExecutionTracksState → List Event → Prop :=
  Moves (hostStep texts) (Move initial selects texts) post

/-- What may be true of any end. -/
abbrev Anyhow : Except JsString α → GatewayExecutionTracksState → List Event → Prop := fun _ _ _ => True

variable {post : Except JsString Unit → GatewayExecutionTracksState → List Event → Prop}

theorem makes_validate (hok : Valid initial next → post (.ok ()) state log)
    (herror : ∀ error,¬ Valid initial next → post (.error error) state log) :
    Makes initial selects texts post (validate schemaText initial next) state log := by
  unfold validate
  cases hcheck : check schemaText initial next with
  | none => exact hok ((check_eq_none_iff schemaText initial).mp hcheck)
  | some error =>
    refine herror error fun hvalid => ?_
    rw [(check_eq_none_iff schemaText initial).mpr hvalid] at hcheck
    cases hcheck

variable {error : JsString}

theorem makes_refuseUnless (hok : condition → post (.ok ()) state log)
    (herror : condition = false → post (.error error) state log) :
    Makes initial selects texts post (refuseUnless condition error) state log := by
  cases condition with
  | true => exact hok rfl
  | false => exact herror rfl

variable {request : Request}

section

variable (hstate : Valid initial state)
include hstate

theorem makes_status {post : Except JsString GatewayExecutionTracksState → GatewayExecutionTracksState → List Event →
    Prop} (hok : post (.ok state) state log) :
    Makes initial selects texts post (status schemaText initial) state log := by
  have hvalidate : Makes initial selects texts (fun result state' log' => result = .ok () ∧ state = state' ∧ log = log')
      (validate schemaText initial state) state log :=
    makes_validate (fun _ => ⟨rfl,rfl,rfl⟩) fun _ hnot => absurd hstate hnot
  refine hvalidate.bind _ ?_ ?_
  · rintro _ _ _ ⟨_,rfl,rfl⟩
    exact hok
  · rintro _ _ _ ⟨herror,_⟩
    cases herror

theorem makes_save (hgeneration : state.generation = next.generation)
    (hchange : Valid initial next → Change selects texts state log next)
    (hok : Valid initial next → post (.ok ()) next log)
    (herror : ∀ error,¬ Valid initial next → post (.error error) state log) :
    Makes initial selects texts post (save schemaText initial next) state log := by
  have hvalidate : Makes initial selects texts (fun result state' log' => (state = state' ∧ log = log') ∧
      match result with
      | .ok _ => Valid initial next
      | .error _ => ¬ Valid initial next) (validate schemaText initial next) state log :=
    makes_validate (fun hvalid => ⟨⟨rfl,rfl⟩,hvalid⟩) fun _ hnot => ⟨⟨rfl,rfl⟩,hnot⟩
  refine hvalidate.bind _ ?_ ?_
  · rintro _ _ _ ⟨⟨rfl,rfl⟩,hvalid⟩
    have hread : Makes initial selects texts (fun result state' log' => result = .ok state ∧ state = state' ∧ log = log')
        (status schemaText initial) state log := makes_status hstate ⟨rfl,rfl,rfl⟩
    refine hread.bind _ ?_ ?_
    · rintro _ _ _ ⟨hresult,rfl,rfl⟩
      obtain rfl := Except.ok.inj hresult
      rw [refuseUnless,if_pos (decide_eq_true hgeneration)]
      exact ⟨.write hvalid (hchange hvalid),hok hvalid⟩
    · rintro _ _ _ ⟨herror,_⟩
      cases herror
  · rintro error _ _ ⟨⟨rfl,rfl⟩,hnot⟩
    exact herror error hnot

variable {memory : GatewayExecutionTracksState}

/-- The `catch` of a switch writes the state that the file has, but for what the switch did not come to write. -/
theorem makes_recordFailure (hgeneration : state.generation = memory.generation)
    (hchange : Valid initial { memory with phase := .attention, error := some error } →
      Change selects texts state log { memory with phase := .attention, error := some error })
    : Makes initial selects texts Anyhow (recordFailure schemaText initial memory error : Program α) state log := by
  have hsave : Makes initial selects texts Anyhow
      (save schemaText initial { memory with phase := .attention, error := some error }) state log :=
    makes_save hstate hgeneration hchange (fun _ => trivial) fun _ _ => trivial
  exact hsave.bind _ (fun _ _ _ _ => trivial) fun _ _ _ _ => trivial

omit hstate in
theorem makes_attempt {program : Program α} {rest : α → Program β}
    {post : Except JsString α → GatewayExecutionTracksState → List Event → Prop}
    (h : Makes initial selects texts post program state log)
    (hok : ∀ value state log,post (.ok value) state log → Makes initial selects texts Anyhow (rest value) state log)
    (herror : ∀ error state log,post (.error error) state log →
      Makes initial selects texts Anyhow (recordFailure schemaText initial next error : Program β) state log) :
    Makes initial selects texts Anyhow (attempt schemaText initial next program rest) state log := by
  refine h.continue_ post fun result state log hpost => ?_
  cases result with
  | ok value => exact hok value state log hpost
  | error error => exact herror error state log hpost

/-- A request of a switch. The file has the state that the switch has in memory. -/
theorem makes_attempt_ask {rest : request.Reply → Program β} (hphase : state.phase ≠ .steady)
    (hmove : ∀ reply log',hostStep texts log request reply log' → Move initial selects texts (state,log) (state,log'))
    (hok : ∀ value,Makes initial selects texts Anyhow (rest value) state ((request.event (.ok value)).toList ++ log))
    : Makes initial selects texts Anyhow (attempt schemaText initial state (perform request) rest) state log := by
  intro reply log' hstep
  refine ⟨hmove reply log' hstep,?_⟩
  obtain ⟨htexts,rfl⟩ := hstep
  cases reply with
  | ok value => exact hok value
  | error error => exact makes_recordFailure hstate rfl fun _ => .fail error hphase (htexts error rfl)

theorem makes_attempt_save {rest : Unit → Program β} (hgeneration : state.generation = next.generation)
    (hnext : Valid initial next) (hchange : Change selects texts state log next)
    (hok : Makes initial selects texts Anyhow (rest ()) next log) :
    Makes initial selects texts Anyhow (attempt schemaText initial memory (save schemaText initial next) rest) state
      log := by
  have hsave : Makes initial selects texts (fun result state' log' => result = .ok () ∧ next = state' ∧ log = log')
      (save schemaText initial next) state log :=
    makes_save hstate hgeneration (fun _ => hchange) (fun _ => ⟨rfl,rfl,rfl⟩) fun _ hnot => absurd hnext hnot
  refine makes_attempt hsave ?_ ?_
  · rintro _ _ _ ⟨_,rfl,rfl⟩
    exact hok
  · rintro _ _ _ ⟨herror,_⟩
    cases herror

end

/-- Nothing has happened, but for a text that was thrown. -/
def Unchanged (texts : JsString → Prop) (state : GatewayExecutionTracksState) (log : List Event)
    (result : Except JsString α) (state' : GatewayExecutionTracksState) (log' : List Event) : Prop :=
  state = state' ∧ log = log' ∧ ∀ text, result = .error text → texts text

theorem makes_unchanged {thrown : JsString → Prop} (hthrown : ∀ text,texts text → thrown text)
    (hevent : ∀ reply,request.event reply = none) :
    Makes initial selects texts (Unchanged thrown state log) (perform request) state log := by
  rintro reply _ ⟨htexts,rfl⟩
  rw [hevent]
  exact ⟨.idle _,moves_ofExcept.mpr ⟨rfl,rfl,fun text htext => hthrown text (htexts text htext)⟩⟩

theorem makes_refuse_unchanged (thrown : JsString → Prop) (hthrown : thrown error) :
    Makes initial selects texts (Unchanged thrown state log) (refuseUnless condition error) state log := by
  refine makes_refuseUnless (fun _ => ⟨rfl,rfl,fun text htext => ?_⟩) fun _ => ⟨rfl,rfl,fun text htext => ?_⟩
  · cases htext
  · cases htext
    exact hthrown

/-- The file stays valid where only the error and the phase `attention` or `activating` change. -/
theorem Valid.withError (h : Valid initial state) (error : Option JsString) :
    Valid initial { state with error := error } :=
  ⟨h.parses,h.gatewayNodeId,h.dataDirectory,h.target,h.forward⟩

theorem Valid.withPhase (h : Valid initial state) (htarget : state.targetRelease ≠ none) (phase : Phase) :
    Valid initial { state with phase := phase } :=
  ⟨h.parses,h.gatewayNodeId,h.dataDirectory,fun _ => htarget,h.forward⟩

theorem makes_prepareOptionalStandby (hstate : Valid initial state) (hphase : state.phase = .steady) :
    Makes initial selects texts (fun result _ _ => ∃ value,result = .ok value)
      (prepareOptionalStandby schemaText initial state) state log := by
  unfold prepareOptionalStandby
  split
  · exact ⟨state,rfl⟩
  · next standby _ =>
    have hask : Makes initial selects texts (Unchanged texts state log) (Host.ensureStandby standby) state log :=
      makes_unchanged (fun _ => id) fun reply => by cases reply <;> rfl
    refine hask.continue_ _ ?_
    rintro result _ _ ⟨rfl,rfl,htexts⟩
    have hsave : Makes initial selects texts (fun saved _ _ => ∃ value,saved = .ok value)
        (save schemaText initial
          { state with error := onResult (fun _ => none) (fun error => some (unavailable error)) result }) state log := by
      refine makes_save hstate rfl (fun _ => .standby _ hphase ?_) (fun _ => ⟨(),rfl⟩) ?_
      · intro text htext
        cases result with
        | ok value => cases htext
        | error thrown => exact ⟨thrown,htexts thrown rfl,(some.inj htext).symm⟩
      · exact fun _ hnot => absurd (hstate.withError _) hnot
    refine hsave.bind _ ?_ ?_
    · intro _ _ _ _
      exact ⟨_,rfl⟩
    · rintro error _ _ ⟨_,herror⟩
      cases herror

theorem isReleaseId_of_target (h : Valid initial state) (htarget : state.targetRelease = some target) :
    isReleaseId target := by
  have hparses := h.parses
  simp only [GatewayExecutionTracksState.parses,htarget,all_some,and_eq_true] at hparses
  exact hparses.1.2

theorem Valid.completed (h : Valid initial state) (htarget : state.targetRelease = some target) :
    Valid initial (completed state target) := by
  have hparses := h.parses
  simp only [GatewayExecutionTracksState.parses,and_eq_true] at hparses
  obtain ⟨⟨⟨⟨⟨hnode,hdirectory⟩,hactive⟩,hstandby⟩,-⟩,hbackup⟩ := hparses
  refine ⟨?_,h.gatewayNodeId,h.dataDirectory,fun hphase => absurd rfl hphase,?_⟩
  · have hstandby' : (Tracks.completed state target).standbyRelease.all isReleaseId := by
      unfold Tracks.completed
      dsimp only
      split
      · rfl
      · split
        · exact hactive
        · exact hstandby
    have hbackup' : (Tracks.completed state target).backupPath.all JsString.truthy := by
      unfold Tracks.completed
      dsimp only
      split
      · exact hbackup
      · rfl
    simp only [GatewayExecutionTracksState.parses,hstandby',hbackup',and_eq_true]
    exact ⟨⟨⟨⟨⟨hnode,hdirectory⟩,isReleaseId_of_target h htarget⟩,trivial⟩,rfl⟩,trivial⟩
  · rintro (hsome | hstarted)
    · unfold Tracks.completed at hsome ⊢
      dsimp only at hsome ⊢
      split at hsome
      · assumption
      · cases hsome
    · exact hstarted

theorem target_ne_none (htarget : state.targetRelease = some target) : state.targetRelease ≠ none := by
  rw [htarget]
  exact some_ne_none _

theorem activating_ne_steady : Phase.activating ≠ .steady := by decide

theorem makes_activateTarget (hstate : Valid initial state) (hphase : state.phase ≠ .steady)
    (htarget : state.targetRelease = some target) (hforward : state.forwardOnly → state.targetWriteStarted)
    (hactive : state.activeRelease ∈ mayRun log → state.activeRelease = target) :
    Makes initial selects texts Anyhow (activateTarget schemaText initial state target) state log := by
  have hactivating := hstate.withPhase (target_ne_none htarget) .activating
  have hmay : state.activeRelease ∈ mayRun (.activated target :: log) → state.activeRelease = target := by
    intro hmem
    exact (List.mem_cons.mp hmem).elim id hactive
  refine makes_attempt_save hstate rfl hactivating (.activate hphase hforward) ?_
  refine makes_attempt_ask hactivating activating_ne_steady ?_ fun _ => ?_
  · rintro reply _ ⟨-,rfl⟩
    exact .activate target rfl htarget hforward hactive
  refine makes_attempt_ask hactivating activating_ne_steady ?_ fun _ => ?_
  · rintro reply _ ⟨-,rfl⟩
    cases reply <;> exact .idle _
  have hcompleted : Valid initial (completed state target) := hstate.completed htarget
  refine makes_attempt_save hactivating rfl hcompleted (.finish target rfl htarget hforward hmay rfl) ?_
  refine makes_attempt (makes_prepareOptionalStandby hcompleted rfl) ?_ ?_
  · intro _ _ _ _
    trivial
  · rintro _ _ _ ⟨_,herror⟩
    cases herror

theorem Valid.write (h : Valid initial state) (hforward : state.forwardOnly) :
    Valid initial { state with targetWriteStarted := true, standbyRelease := none } := by
  have hparses := h.parses
  simp only [GatewayExecutionTracksState.parses,and_eq_true] at hparses
  obtain ⟨⟨⟨⟨⟨hnode,hdirectory⟩,hrelease⟩,-⟩,htargets⟩,hpath⟩ := hparses
  refine ⟨?_,h.gatewayNodeId,h.dataDirectory,h.target,fun _ => hforward⟩
  simp only [GatewayExecutionTracksState.parses,and_eq_true]
  exact ⟨⟨⟨⟨⟨hnode,hdirectory⟩,hrelease⟩,rfl⟩,htargets⟩,hpath⟩

theorem Valid.backup {path : JsString} (h : Valid initial state) (hforward : state.forwardOnly)
    (hpath : path.truthy) : Valid initial { state with backupPath := some path } := by
  have hparses := h.parses
  simp only [GatewayExecutionTracksState.parses,and_eq_true] at hparses
  refine ⟨?_,h.gatewayNodeId,h.dataDirectory,h.target,fun _ => hforward⟩
  simp only [GatewayExecutionTracksState.parses,and_eq_true]
  exact ⟨hparses.1,hpath⟩

theorem makes_startWriting (hstate : Valid initial state) (hphase : state.phase ≠ .steady)
    (hforward : state.forwardOnly) (hbackup : state.backupPath ≠ none) (htarget : state.targetRelease = some target)
    (hactive : state.activeRelease ∈ mayRun log → state.activeRelease = target) :
    Makes initial selects texts Anyhow (startWriting schemaText initial state target) state log := by
  refine makes_attempt_ask hstate hphase ?_ fun ready => ?_
  · rintro reply _ ⟨-,rfl⟩
    cases reply <;> exact .idle _
  cases ready with
  | false => trivial
  | true =>
    have hwriting := hstate.write hforward
    refine makes_attempt_save hstate rfl hwriting (.write hphase hforward hbackup) ?_
    exact makes_activateTarget hwriting hphase htarget (fun _ => rfl) hactive

def ownTexts : List JsString :=
  ["Incompatible upgrade requires a capable Host; use local recovery",
    "Original backup is missing; refusing to back up already-upgraded data"]

theorem makes_backUp (hown : ∀ text ∈ ownTexts,texts text) (hstate : Valid initial state)
    (hphase : state.phase ≠ .steady) (hforward : state.forwardOnly) (htarget : state.targetRelease = some target)
    (hactive : state.activeRelease ∈ mayRun log → state.activeRelease = target) :
    Makes initial selects texts Anyhow (backUp schemaText initial state target) state log := by
  have hparses := hstate.parses
  simp only [GatewayExecutionTracksState.parses,and_eq_true] at hparses
  have hpath := hparses.2
  unfold backUp
  split
  · next hmissing =>
    have hnone : state.backupPath = none := by
      cases hbackup : state.backupPath with
      | none => rfl
      | some path =>
        rw [hbackup,all_some] at hmissing hpath
        rw [hpath] at hmissing
        cases hmissing
    split
    · exact makes_recordFailure hstate rfl fun _ => .fail _ hphase (hown _ (by decide))
    · next hnot =>
      have hstarted : state.targetWriteStarted = false := Bool.eq_false_iff.mpr hnot
      refine makes_attempt_ask hstate hphase ?_ fun path => ?_
      · rintro reply _ ⟨-,rfl⟩
        cases reply with
        | ok path => exact .backUp path hforward hnone hstarted
        | error error => exact .idle _
      · -- A path that is not valid is refused twice, and the file stays as it is.
        have hsave : Makes initial selects texts (fun result state' log' =>
            (result = .ok () ∧ { state with backupPath := some path } = state' ∧
              Event.backedUp state.generation path :: log = log' ∧ Valid initial state') ∨
            (result ≠ .ok () ∧ state = state' ∧ ¬ Valid initial { state with backupPath := some path }))
            (save schemaText initial { state with backupPath := some path }) state
            (.backedUp state.generation path :: log) := by
          refine makes_save hstate rfl (fun _ => .backup path hphase hforward hnone hstarted rfl)
            (fun hvalid => .inl ⟨rfl,rfl,rfl,hvalid⟩) fun error hnot => .inr ⟨?_,rfl,hnot⟩
          intro herror
          cases herror
        refine makes_attempt hsave ?_ ?_
        · rintro _ _ _ (⟨-,rfl,rfl,hvalid⟩ | ⟨hok,-⟩)
          · exact makes_startWriting hvalid hphase hforward (some_ne_none _) htarget hactive
          · exact absurd rfl hok
        · rintro error _ _ (⟨herror,-⟩ | ⟨-,rfl,hnot⟩)
          · cases herror
          · refine makes_recordFailure hstate rfl fun hvalid => absurd ?_ hnot
            exact ⟨hvalid.parses,hvalid.gatewayNodeId,hvalid.dataDirectory,fun _ => target_ne_none htarget,
              fun _ => hforward⟩
  · next hpresent =>
    refine makes_startWriting hstate hphase hforward (fun hnone => hpresent ?_) htarget hactive
    rw [hnone]
    rfl

theorem makes_admitTarget (hown : ∀ text ∈ ownTexts,texts text) (capabilities : Capabilities) :
    Makes initial selects texts (Unchanged texts state log) (admitTarget capabilities state target) state log := by
  unfold admitTarget
  split
  · refine (makes_refuse_unchanged texts (hown _ (by decide))).bind _ ?_ ?_
    · rintro _ _ _ ⟨rfl,rfl,-⟩
      exact makes_unchanged (fun _ => id) fun reply => by cases reply <;> rfl
    · rintro error _ _ ⟨rfl,rfl,htexts⟩
      exact ⟨rfl,rfl,fun text htext => htexts text (by cases htext; rfl)⟩
  · exact makes_unchanged (fun _ => id) fun reply => by cases reply <;> rfl

theorem makes_complete (hown : ∀ text ∈ ownTexts,texts text) (capabilities : Capabilities)
    (hstate : Valid initial state) (hphase : state.phase ≠ .steady) :
    Makes initial selects texts Anyhow (complete schemaText initial capabilities state) state log := by
  unfold complete
  cases htarget : state.targetRelease with
  | none => exact absurd htarget (hstate.target hphase)
  | some target =>
    refine makes_attempt (makes_admitTarget hown capabilities) ?_ ?_
    · rintro _ _ _ ⟨rfl,rfl,-⟩
      refine makes_attempt_ask hstate hphase ?_ fun _ => ?_
      · rintro reply _ ⟨-,rfl⟩
        cases reply with
        | ok value => exact .release _
        | error error => exact .idle _
      refine makes_attempt_ask hstate hphase ?_ fun _ => ?_
      · rintro reply _ ⟨-,rfl⟩
        cases reply with
        | ok value => exact .release _
        | error error => exact .idle _
      -- Both releases that the state names have been released by now.
      have hactive : state.activeRelease ∈ mayRun (.released target :: .released state.activeRelease :: log) →
          state.activeRelease = target :=
        fun hmem => absurd (mem_mayRun_of_released hmem) not_mem_mayRun_released
      split
      · next hforward => exact makes_backUp hown hstate hphase hforward htarget hactive
      · next hforward =>
        refine makes_activateTarget hstate hphase htarget (fun htrue => absurd htrue hforward) hactive
    · rintro error _ _ ⟨rfl,rfl,htexts⟩
      exact makes_recordFailure hstate rfl fun _ => .fail error hphase (htexts error rfl)

theorem Valid.startDefault (h : Valid initial state) :
    Valid initial { state with phase := .activating, targetRelease := some state.activeRelease } := by
  have hparses := h.parses
  simp only [GatewayExecutionTracksState.parses,and_eq_true] at hparses
  obtain ⟨⟨⟨⟨⟨hnode,hdirectory⟩,hrelease⟩,hstandby⟩,-⟩,hpath⟩ := hparses
  refine ⟨?_,h.gatewayNodeId,h.dataDirectory,fun _ => some_ne_none _,h.forward⟩
  simp only [GatewayExecutionTracksState.parses,and_eq_true]
  exact ⟨⟨⟨⟨⟨hnode,hdirectory⟩,hrelease⟩,hstandby⟩,hrelease⟩,hpath⟩

theorem Valid.finishDefault (h : Valid initial state) :
    Valid initial { state with phase := .steady, targetRelease := none, error := none } := by
  have hparses := h.parses
  simp only [GatewayExecutionTracksState.parses,and_eq_true] at hparses
  obtain ⟨⟨⟨⟨⟨hnode,hdirectory⟩,hrelease⟩,hstandby⟩,-⟩,hpath⟩ := hparses
  refine ⟨?_,h.gatewayNodeId,h.dataDirectory,fun hphase => absurd rfl hphase,h.forward⟩
  simp only [GatewayExecutionTracksState.parses,and_eq_true]
  exact ⟨⟨⟨⟨⟨hnode,hdirectory⟩,hrelease⟩,hstandby⟩,rfl⟩,hpath⟩

theorem makes_activateDefault (h : Sound initial state) (hphase : state.phase = .steady) :
    Makes initial selects texts Anyhow (activateDefault schemaText initial state) state log := by
  have hstate := h.toValid
  have hactivating := hstate.startDefault
  have hsave : Makes initial selects texts (fun result state' log' => result = .ok () ∧
      { state with phase := .activating, targetRelease := some state.activeRelease } = state' ∧ log = log')
      (save schemaText initial { state with phase := .activating, targetRelease := some state.activeRelease }) state
        log :=
    makes_save hstate rfl (fun _ => .startDefault hphase) (fun _ => ⟨rfl,rfl,rfl⟩) fun _ hnot => absurd hactivating hnot
  refine hsave.bind _ ?_ fun _ _ _ _ => trivial
  rintro _ _ _ ⟨_,rfl,rfl⟩
  refine makes_attempt_ask hactivating activating_ne_steady ?_ fun _ => ?_
  · rintro reply _ ⟨-,rfl⟩
    cases reply <;> exact .idle _
  refine makes_attempt_ask hactivating activating_ne_steady ?_ fun _ => ?_
  · rintro reply _ ⟨-,rfl⟩
    cases reply <;> exact .idle _
  refine makes_attempt_ask hactivating activating_ne_steady ?_ fun _ => ?_
  · rintro reply _ ⟨-,rfl⟩
    exact .activate state.activeRelease rfl rfl (h.started hphase) fun _ => rfl
  refine makes_attempt_ask hactivating activating_ne_steady ?_ fun _ => ?_
  · rintro reply _ ⟨-,rfl⟩
    cases reply <;> exact .idle _
  refine makes_attempt_save hactivating rfl hactivating.finishDefault (.finishDefault rfl rfl (h.started hphase) rfl) ?_
  exact (makes_prepareOptionalStandby hactivating.finishDefault rfl).mono fun _ _ _ _ => trivial

variable {releaseId : JsString}

theorem Valid.intend (h : Valid initial state) (hrelease : isReleaseId releaseId) (allowForwardOnly : Bool) :
    Valid initial (state.intend releaseId allowForwardOnly) := by
  have hparses := h.parses
  simp only [GatewayExecutionTracksState.parses,and_eq_true] at hparses
  obtain ⟨⟨⟨⟨⟨hnode,hdirectory⟩,hactive⟩,hstandby⟩,htarget⟩,-⟩ := hparses
  have hother : isReleaseId (state.intend releaseId allowForwardOnly).activeRelease := by
    unfold GatewayExecutionTracksState.intend
    dsimp only
    split
    · cases hname : state.targetRelease with
      | none => exact hactive
      | some target => exact isReleaseId_of_target h hname
    · exact hactive
  refine ⟨?_,h.gatewayNodeId,h.dataDirectory,fun _ => some_ne_none _,?_⟩
  · simp only [GatewayExecutionTracksState.parses,hother,and_eq_true]
    exact ⟨⟨⟨⟨⟨hnode,hdirectory⟩,trivial⟩,hstandby⟩,hrelease⟩,rfl⟩
  · rintro (hsome | hstarted)
    · cases hsome
    · cases hstarted

theorem makes_admitSelected (capabilities : Capabilities) (allowForwardOnly : Bool) :
    Makes initial selects texts (Unchanged (fun _ => True) state log)
      (admitSelected capabilities state releaseId allowForwardOnly) state log := by
  unfold admitSelected
  split
  · refine (makes_refuse_unchanged (fun _ => True) trivial).bind _ ?_ ?_
    · rintro _ _ _ ⟨rfl,rfl,-⟩
      exact makes_unchanged (fun _ _ => trivial) fun reply => by cases reply <;> rfl
    · rintro error _ _ ⟨rfl,rfl,-⟩
      exact ⟨rfl,rfl,fun _ _ => trivial⟩
  · exact makes_unchanged (fun _ _ => trivial) fun reply => by cases reply <;> rfl

theorem makes_retireOther (capabilities : Capabilities) :
    Makes initial selects texts (Unchanged (fun _ => True) state log) (retireOther capabilities state releaseId) state
      log := by
  unfold retireOther
  split
  · exact ⟨rfl,rfl,fun _ _ => trivial⟩
  · split
    · refine (makes_refuse_unchanged (fun _ => True) trivial).bind _ ?_ ?_
      · rintro _ _ _ ⟨rfl,rfl,-⟩
        exact makes_unchanged (fun _ _ => trivial) fun reply => by cases reply <;> rfl
      · rintro error _ _ ⟨rfl,rfl,-⟩
        exact ⟨rfl,rfl,fun _ _ => trivial⟩
    · exact ⟨rfl,rfl,fun _ _ => trivial⟩

theorem makes_status_bind {rest : GatewayExecutionTracksState → Program α} (hstate : Valid initial state)
    (h : Makes initial selects texts Anyhow (rest state) state log) :
    Makes initial selects texts Anyhow (status schemaText initial >>= rest) state log := by
  have hread : Makes initial selects texts (fun result state' log' => result = .ok state ∧ state = state' ∧ log = log')
      (status schemaText initial) state log := makes_status hstate ⟨rfl,rfl,rfl⟩
  refine hread.bind _ ?_ fun _ _ _ _ => trivial
  rintro _ _ _ ⟨hresult,rfl,rfl⟩
  rwa [Except.ok.inj hresult]

theorem makes_switchTo (hown : ∀ text ∈ ownTexts,texts text) (capabilities : Capabilities)
    (hstate : Valid initial state) (hrelease : isReleaseId releaseId) (hallows : state.Allows releaseId)
    (hselects : selects releaseId state log) (deferred allowForwardOnly : Bool) :
    Makes initial selects texts Anyhow
      (switchTo schemaText initial capabilities state releaseId deferred allowForwardOnly) state log := by
  refine (makes_admitSelected capabilities allowForwardOnly).bind _ ?_ fun _ _ _ _ => trivial
  rintro _ _ _ ⟨rfl,rfl,-⟩
  refine (makes_retireOther capabilities).bind _ ?_ fun _ _ _ _ => trivial
  rintro _ _ _ ⟨rfl,rfl,-⟩
  have hstandby : Makes initial selects texts (Unchanged (fun _ => True) state log) (Host.ensureStandby releaseId) state
      log := makes_unchanged (fun _ _ => trivial) fun reply => by cases reply <;> rfl
  refine hstandby.bind _ ?_ fun _ _ _ _ => trivial
  rintro _ _ _ ⟨rfl,rfl,-⟩
  refine makes_status_bind hstate ?_
  refine (makes_refuse_unchanged (fun _ => True) trivial).bind _ ?_ fun _ _ _ _ => trivial
  rintro _ _ _ ⟨rfl,rfl,-⟩
  have hintent := hstate.intend hrelease allowForwardOnly
  refine ⟨.write hintent (.select releaseId allowForwardOnly hallows hselects),?_⟩
  have hreleasing : (state.intend releaseId allowForwardOnly).phase ≠ .steady := fun heq => by cases heq
  cases deferred with
  | true => trivial
  | false => exact makes_complete hown capabilities hintent hreleasing

theorem makes_check {rest : Program α} (h : condition → Makes initial selects texts Anyhow rest state log) :
    Makes initial selects texts Anyhow (do refuseUnless condition error; rest) state log := by
  cases condition with
  | true => exact h rfl
  | false => trivial

theorem makes_requestSelection {generation : ℕ} (hown : ∀ text ∈ ownTexts,texts text) (capabilities : Capabilities)
    (hstate : Valid initial state)
    (hselects : generation = state.generation → state.Allows releaseId → selects releaseId state log)
    (deferred allowForwardOnly : Bool) : Makes initial selects texts Anyhow
      (requestSelection schemaText initial capabilities releaseId generation deferred allowForwardOnly) state log := by
  refine makes_check fun hrelease => ?_
  refine makes_status_bind hstate ?_
  refine makes_check fun hgeneration => makes_check fun hphase => ?_
  rw [Bool.or_eq_true,decide_eq_true_iff,decide_eq_true_iff] at hphase
  split
  · next hretry =>
    have hsteady : state.phase ≠ .steady := by
      rw [hretry.1]
      decide
    refine makes_check fun _ => ?_
    cases deferred with
    | true => trivial
    | false => exact makes_complete hown capabilities hstate hsteady
  · next hnot =>
    refine makes_check fun hallowed => ?_
    simp only [Bool.or_eq_true,decide_eq_true_iff] at hallowed
    split
    · trivial
    · next hother =>
      have hallows : state.Allows releaseId := by
        rcases hphase with hsteady | hattention
        · exact .inl ⟨hsteady,fun heq => hother ⟨heq,hsteady⟩⟩
        · have hne : state.phase ≠ .steady := by
            rw [hattention]
            decide
          refine .inr ⟨hattention,?_,?_⟩
          · exact Bool.eq_false_iff.mpr fun hforward => hnot ⟨hattention,hforward⟩
          · rcases hallowed with ((hsteady | hactive) | htarget) | hstandby
            · exact absurd hsteady hne
            · exact .inl hactive
            · exact .inr (.inl htarget)
            · exact .inr (.inr hstandby)
      exact makes_switchTo hown capabilities hstate hrelease hallows
        (hselects (of_decide_eq_true hgeneration).symm hallows) deferred allowForwardOnly

def Call.selection : Call → Option (JsString × ℕ)
  | .select releaseId generation => some (releaseId,generation)
  | .scheduleSelection releaseId generation _ => some (releaseId,generation)
  | .resume | .startDefault => none

theorem makes_call {call : Capabilities × Call} (hown : ∀ text ∈ ownTexts,texts text) (hsound : Sound initial state)
    (hselects : ∀ releaseId,call.2.selection = some (releaseId,state.generation) → state.Allows releaseId →
      selects releaseId state log) :
    Makes initial selects texts Anyhow (Call.program schemaText initial call) state log := by
  have hstate := hsound.toValid
  obtain ⟨capabilities,call⟩ := call
  cases call with
  | select releaseId generation =>
    refine Moves.bind Anyhow ?_ (fun _ _ _ _ => trivial) fun _ _ _ _ => trivial
    refine makes_requestSelection hown capabilities hstate ?_ false false
    rintro rfl
    exact hselects releaseId rfl
  | scheduleSelection releaseId generation allowForwardOnly =>
    refine Moves.bind Anyhow ?_ (fun _ _ _ _ => trivial) fun _ _ _ _ => trivial
    refine makes_requestSelection hown capabilities hstate ?_ true allowForwardOnly
    rintro rfl
    exact hselects releaseId rfl
  | resume =>
    refine Moves.bind Anyhow ?_ (fun _ _ _ _ => trivial) fun _ _ _ _ => trivial
    refine makes_status_bind hstate ?_
    split
    · trivial
    · next hphase => exact makes_complete hown capabilities hstate hphase
  | startDefault =>
    refine makes_status_bind hstate ?_
    split
    · next hphase =>
      exact (makes_activateDefault hsound hphase).bind _ (fun _ _ _ _ => trivial) fun _ _ _ _ => trivial
    · next hphase =>
      exact (makes_complete hown capabilities hstate hphase).bind _ (fun _ _ _ _ => trivial) fun _ _ _ _ => trivial

end

end Malink.Tracks
