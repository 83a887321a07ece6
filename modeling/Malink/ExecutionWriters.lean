import Malink.ExecutionMoves

/-!
# One writer at a time

The releases that may run are the ones that the state names. A release is activated when no other one may run, unless
a selection has put a third one in the place of an activated target.
-/

namespace Malink.Tracks

open DurableProgram Option

section

variable {initial state state' : GatewayExecutionTracksState} {log log' : List Event}
  {selects : JsString → GatewayExecutionTracksState → List Event → Prop} {texts : JsString → Prop}

theorem Sound.change (h : Sound initial state) (hvalid : Valid initial state')
    (hchange : Change selects texts state log state') : Sound initial state' := by
  refine ⟨hvalid,?_,?_⟩
  · intro hsteady hforward
    cases hchange with
    | select | activate | startDefault | fail => cases hsteady
    | backup _ hphase | write hphase => exact absurd hsteady hphase
    | finish => exact hforward
    | finishDefault _ _ hstarted => exact hstarted hforward
    | standby => exact h.started hsteady hforward
  · intro hstarted
    cases hchange with
    | select => cases hstarted
    | backup => exact some_ne_none _
    | write _ _ hbackup => exact hbackup
    | finish target _ _ hforward =>
      have htrue : state.forwardOnly := hstarted
      change (if state.forwardOnly = true then state.backupPath else none) ≠ none
      rw [if_pos htrue]
      exact h.backed (hforward htrue)
    | activate | startDefault | finishDefault | fail | standby => exact h.backed hstarted

variable {moment moment' : GatewayExecutionTracksState × List Event}

theorem Sound.move (h : Sound initial moment.1) (hmove : Move initial selects texts moment moment') :
    Sound initial moment'.1 := by
  cases hmove with
  | write hvalid hchange => exact h.change hvalid hchange
  | idle | release | activate | backUp => exact h

/-- Whenever a release was activated, every other one that was activated before had been released since. -/
def SingleWriter : List Event → Prop
  | [] => True
  | .activated releaseId :: earlier => (∀ other ∈ mayRun earlier,other = releaseId) ∧ SingleWriter earlier
  | _ :: earlier => SingleWriter earlier

instance decidableSingleWriter : (log : List Event) → Decidable (SingleWriter log)
  | [] => .isTrue trivial
  | .activated releaseId :: earlier =>
    have := decidableSingleWriter earlier
    inferInstanceAs (Decidable ((∀ other ∈ mayRun earlier,other = releaseId) ∧ SingleWriter earlier))
  | .released _ :: earlier => decidableSingleWriter earlier
  | .backedUp _ _ :: earlier => decidableSingleWriter earlier

/-- The state names every release that may run, and records the last one as active when nothing is under way. -/
structure OneWriter (state : GatewayExecutionTracksState) (log : List Event) : Prop where
  single : SingleWriter log
  known : ∀ releaseId ∈ mayRun log,
    releaseId = state.activeRelease ∨ (state.phase ≠ .steady ∧ some releaseId = state.targetRelease)
  last : state.phase = .steady → ∀ releaseId, lastActivated log = some releaseId → releaseId = state.activeRelease

/-- A selection of a third release forgets the target of a switch that has failed, although the target may run. -/
def Forgets (releaseId : JsString) (state : GatewayExecutionTracksState) (log : List Event) : Prop :=
  state.phase = .attention ∧ releaseId ≠ state.activeRelease ∧
    ∃ target ∈ mayRun log, state.targetRelease = some target ∧ target ≠ releaseId ∧ target ≠ state.activeRelease

theorem OneWriter.select {releaseId : JsString} (h : OneWriter state log) (hvalid : Valid initial state)
    (hallows : state.Allows releaseId) (hforgets : ¬ Forgets releaseId state log) (allowForwardOnly : Bool) :
    OneWriter (state.intend releaseId allowForwardOnly) log where
  single := h.single
  known := by
    have hreleasing : (state.intend releaseId allowForwardOnly).phase ≠ .steady := fun heq => by cases heq
    intro other hother
    change other = (if _ then _ else _) ∨ _ ∧ some other = some releaseId
    rcases hallows with ⟨hsteady,-⟩ | ⟨hattention,-,-⟩
    · have hnot : ¬(state.phase = .attention ∧ releaseId = state.activeRelease) := by
        rw [hsteady]
        exact fun hand => by cases hand.1
      rw [if_neg hnot]
      exact .inl ((h.known other hother).resolve_right fun hswitch => hswitch.1 hsteady)
    · have hphase : state.phase ≠ .steady := by
        rw [hattention]
        decide
      obtain ⟨target,htarget⟩ := ne_none_iff_exists'.mp (hvalid.target hphase)
      by_cases hactive : releaseId = state.activeRelease
      · -- The active release and the target change places.
        rw [if_pos ⟨hattention,hactive⟩,htarget,getD_some]
        rcases h.known other hother with heq | ⟨-,heq⟩
        · exact .inr ⟨hreleasing,congrArg some (heq.trans hactive.symm)⟩
        · rw [htarget] at heq
          exact .inl (some.inj heq)
      · rw [if_neg fun hand => hactive hand.2]
        rcases h.known other hother with heq | ⟨-,heq⟩
        · exact .inl heq
        · by_cases hnamed : other = releaseId
          · exact .inr ⟨hreleasing,congrArg some hnamed⟩
          · refine .inl (Classical.byContradiction fun hne => hforgets ?_)
            exact ⟨hattention,hactive,other,hother,heq.symm,hnamed,hne⟩
  last := by
    intro hsteady
    cases hsteady

theorem OneWriter.change (h : OneWriter state log) (hstate : Valid initial state)
    (hchange : Change (fun releaseId state log => ¬ Forgets releaseId state log) texts state log state') :
    OneWriter state' log := by
  cases hchange with
  | select releaseId allowForwardOnly hallows hforgets => exact h.select hstate hallows hforgets allowForwardOnly
  | backup path hphase | write hphase =>
    exact ⟨h.single,h.known,fun hsteady => absurd hsteady hphase⟩
  | activate hphase hforward =>
    refine ⟨h.single,fun other hother => (h.known other hother).imp_right fun hswitch => ?_,fun hsteady => ?_⟩
    · exact ⟨activating_ne_steady,hswitch.2⟩
    · cases hsteady
  | finish target hphase htarget hforward hactive hlast =>
    refine ⟨h.single,fun other hother => .inl ?_,fun _ releaseId hlast' => ?_⟩
    · rcases h.known other hother with heq | ⟨-,heq⟩
      · rw [heq] at hother
        exact heq.trans (hactive hother)
      · rw [htarget] at heq
        exact some.inj heq
    · exact some.inj (hlast'.symm.trans hlast)
  | startDefault hphase =>
    refine ⟨h.single,fun other hother => .inl ?_,fun hsteady => ?_⟩
    · exact (h.known other hother).resolve_right fun hswitch => hswitch.1 hphase
    · cases hsteady
  | finishDefault hphase htarget hforward hlast =>
    refine ⟨h.single,fun other hother => .inl ?_,fun _ releaseId hlast' => ?_⟩
    · rcases h.known other hother with heq | ⟨-,heq⟩
      · exact heq
      · rw [htarget] at heq
        exact some.inj heq
    · exact some.inj (hlast'.symm.trans hlast)
  | fail error hphase =>
    refine ⟨h.single,fun other hother => (h.known other hother).imp_right fun hswitch => ?_,fun hsteady => ?_⟩
    · exact ⟨fun hsteady => (by cases hsteady),hswitch.2⟩
    · cases hsteady
  | standby error hphase => exact ⟨h.single,h.known,h.last⟩

theorem OneWriter.move (h : OneWriter moment.1 moment.2) (hstate : Valid initial moment.1)
    (hmove : Move initial (fun releaseId state log => ¬ Forgets releaseId state log) texts moment moment') :
    OneWriter moment'.1 moment'.2 := by
  cases hmove with
  | idle => exact h
  | write hvalid hchange => exact h.change hstate hchange
  | release releaseId =>
    exact ⟨h.single,fun other hother => h.known other (mem_mayRun_of_released hother),h.last⟩
  | @activate state log target hphase htarget hforward hactive =>
    have hne : state.phase ≠ .steady := by
      rw [hphase]
      exact activating_ne_steady
    refine ⟨⟨fun other hother => ?_,h.single⟩,fun other hother => ?_,fun hsteady => absurd hsteady hne⟩
    · rcases h.known other hother with heq | ⟨-,heq⟩
      · rw [heq] at hother
        exact heq.trans (hactive hother)
      · rw [htarget] at heq
        exact some.inj heq
    · rcases List.mem_cons.mp hother with heq | hother
      · exact .inr ⟨hne,by rw [heq,htarget]⟩
      · exact h.known other hother
  | backUp path => exact ⟨h.single,h.known,h.last⟩

end

def Request.agreed (path : JsString) : (request : Request) → request.Reply
  | .backupStoppedState _ => path
  | .prepareForwardHost _ => true
  | .validateForwardRelease _ _ | .validateRelease _ _ | .ensureStandby _ | .retireStandby _ | .releaseExecution _
  | .activate _ _ _ | .verifyActive _ _ _ => ()

/-- A host that agrees, but for the requests that fail. -/
def hostAnswer (failure : Request → Option JsString) (path : JsString) (log : List Event) (request : Request) :
    Except JsString request.Reply × List Event :=
  let reply := match failure request with
    | some text => .error text
    | none => .ok (request.agreed path)
  (reply,(request.event reply).toList ++ log)

theorem hostStep_hostAnswer {failure : Request → Option JsString} {texts : JsString → Prop}
    (h : ∀ request text,failure request = some text → texts text) (path : JsString) (log : List Event)
    (request : Request) :
    hostStep texts log request (hostAnswer failure path log request).1 (hostAnswer failure path log request).2 := by
  refine ⟨fun text htext => ?_,rfl⟩
  unfold hostAnswer at htext
  cases hfailure : failure request with
  | none =>
    rw [hfailure] at htext
    cases htext
  | some thrown =>
    rw [hfailure] at htext
    exact h request text (hfailure.trans (congrArg some (Except.error.inj htext)))

abbrev agreeing (path : JsString) (log : List Event) (request : Request) : Except JsString request.Reply × List Event :=
  hostAnswer (fun _ => none) path log request

theorem hostStep_agreeing (texts : JsString → Prop) (path : JsString) (log : List Event) (request : Request) :
    hostStep texts log request (agreeing path log request).1 (agreeing path log request).2 :=
  hostStep_hostAnswer (fun _ _ hfailure => by cases hfailure) path log request

section

variable {schemaText : Refused → JsString} {initial state next : GatewayExecutionTracksState} {log : List Event}
  {path target : JsString} {α β : Type}

theorem validate_eq_pure (h : Valid initial state) : validate schemaText initial state = .pure () := by
  rw [validate,(check_eq_none_iff schemaText initial).mpr h]

theorem run_status (hstate : Valid initial state) (rest : GatewayExecutionTracksState → Program β) :
    run (agreeing path) (status schemaText initial >>= rest) state log = run (agreeing path) (rest state) state log := by
  change run (agreeing path) ((do validate schemaText initial state; return state) >>= rest) state log = _
  rw [validate_eq_pure hstate]
  rfl

theorem run_save (hstate : Valid initial state) (hnext : Valid initial next)
    (hgeneration : state.generation = next.generation) (rest : Except JsString Unit → Program β) :
    run (agreeing path) ((save schemaText initial next).continue_ rest) state log =
      run (agreeing path) (rest (.ok ())) next log := by
  unfold save
  rw [validate_eq_pure hnext]
  change run (agreeing path) (continue_ rest ((do validate schemaText initial state; return state) >>= fun current => do
      refuseUnless (current.generation = next.generation) "Execution handoff generation changed"
      writeState next)) state log = _
  rw [validate_eq_pure hstate]
  change run (agreeing path) (continue_ rest (do
      refuseUnless (state.generation = next.generation) "Execution handoff generation changed"
      writeState next)) state log = _
  rw [refuseUnless,if_pos (decide_eq_true hgeneration)]
  rfl

/-- The program returns a steady state with the target as the active release, and leaves it in the file. -/
def Finishes (path target : JsString) (program : Program GatewayExecutionTracksState)
    (state : GatewayExecutionTracksState) (log : List Event) : Prop :=
  ∃ finished log', run (agreeing path) program state log = (.ok finished,finished,log') ∧
    finished.phase = .steady ∧ finished.activeRelease = target

variable {memory : GatewayExecutionTracksState}

theorem finishes_ask {request : Request} {rest : request.Reply → Program GatewayExecutionTracksState}
    (h : Finishes path target (rest (request.agreed path)) state
      ((request.event (.ok (request.agreed path))).toList ++ log)) :
    Finishes path target (attempt schemaText initial memory (perform request) rest) state log := h

theorem finishes_save {rest : Unit → Program GatewayExecutionTracksState} (hstate : Valid initial state)
    (hnext : Valid initial next) (hgeneration : state.generation = next.generation)
    (h : Finishes path target (rest ()) next log) :
    Finishes path target (attempt schemaText initial memory (save schemaText initial next) rest) state log := by
  obtain ⟨finished,log',hrun,hfinished⟩ := h
  exact ⟨finished,log',(run_save hstate hnext hgeneration _).trans hrun,hfinished⟩

theorem finishes_prepareOptionalStandby (hstate : Valid initial state) (hphase : state.phase = .steady) :
    Finishes path state.activeRelease
      (attempt schemaText initial memory (prepareOptionalStandby schemaText initial state) .pure) state log := by
  unfold prepareOptionalStandby
  split
  · exact ⟨state,log,rfl,hphase,rfl⟩
  · next standby _ =>
    refine ⟨{ state with error := none },log,?_,hphase,rfl⟩
    unfold attempt
    rw [continue_assoc]
    refine (congrArg (fun program => run (agreeing path) program state log) (continue_assoc _ _ _)).trans ?_
    exact run_save hstate (hstate.withError none) rfl _

theorem finishes_activateTarget (hstate : Valid initial state) (htarget : state.targetRelease = some target) :
    Finishes path target (activateTarget schemaText initial state target) state log := by
  have hactivating := hstate.withPhase (target_ne_none htarget) .activating
  have hcompleted := hstate.completed htarget
  refine finishes_save hstate hactivating rfl (finishes_ask (finishes_ask ?_))
  exact finishes_save hactivating hcompleted rfl (finishes_prepareOptionalStandby hcompleted rfl)

theorem finishes_startWriting (hstate : Valid initial state) (hforward : state.forwardOnly)
    (htarget : state.targetRelease = some target) :
    Finishes path target (startWriting schemaText initial state target) state log := by
  refine finishes_ask ?_
  have hwriting := hstate.write hforward
  exact finishes_save hstate hwriting rfl (finishes_activateTarget hwriting htarget)

theorem finishes_backUp (h : Sound initial state) (hpath : path.truthy) (hforward : state.forwardOnly)
    (htarget : state.targetRelease = some target) :
    Finishes path target (backUp schemaText initial state target) state log := by
  have hstate := h.toValid
  unfold backUp
  split
  · next hmissing =>
    have hstarted : ¬ state.targetWriteStarted := by
      intro hstarted
      obtain ⟨backup,hbackup⟩ := ne_none_iff_exists'.mp (h.backed hstarted)
      have hparses := hstate.parses
      simp only [GatewayExecutionTracksState.parses,Bool.and_eq_true] at hparses
      have hvalid := hparses.2
      rw [hbackup,all_some] at hmissing hvalid
      rw [hvalid] at hmissing
      cases hmissing
    rw [if_neg hstarted]
    have hbackedUp := hstate.backup hforward hpath
    exact finishes_ask (finishes_save hstate hbackedUp rfl (finishes_startWriting hbackedUp hforward htarget))
  · exact finishes_startWriting hstate hforward htarget

/-- The two releases are stopped, and the switch goes on. -/
theorem finishes_complete (h : Sound initial state) (hpath : path.truthy)
    (htarget : state.targetRelease = some target) :
    Finishes path target (complete schemaText initial ⟨true,true⟩ state) state log := by
  unfold complete
  rw [htarget]
  by_cases hforward : state.forwardOnly
  · simp only [admitTarget,if_pos hforward]
    exact finishes_backUp h hpath hforward htarget
  · simp only [admitTarget,if_neg hforward]
    exact finishes_activateTarget h.toValid htarget

end

/-- A switch that is under way ends with its target, once the host does what it is asked. -/
def CanComplete (schemaText : Refused → JsString) (initial state : GatewayExecutionTracksState) (log : List Event) :
    Prop :=
  state.phase ≠ .steady → ∀ path : JsString, path.truthy → ∃ target finished log',
    state.targetRelease = some target ∧
      run (agreeing path) (resume schemaText initial ⟨true,true⟩) state log = (.ok finished,finished,log') ∧
      finished.phase = .steady ∧ finished.activeRelease = target ∧ ∀ releaseId ∈ mayRun log', releaseId = target

variable {log : List Event}

section

variable {schemaText : Refused → JsString} {initial : GatewayExecutionTracksState}

/-- Where a run starts: no incompatible upgrade and no error is recorded, and the host may run the active release. -/
structure Start (initial : GatewayExecutionTracksState) (log : List Event) : Prop where
  valid : Valid initial initial
  compatible : initial.forwardOnly = false
  error : initial.error = none
  log : log = [] ∨ log = [.activated initial.activeRelease]

theorem Start.sound (h : Start initial log) : Sound initial initial := by
  have hstarted : initial.targetWriteStarted = false := by
    refine Bool.eq_false_iff.mpr fun htrue => ?_
    have hforward := h.valid.forward (.inr htrue)
    rw [h.compatible] at hforward
    cases hforward
  refine ⟨h.valid,fun _ hforward => ?_,fun htrue => ?_⟩
  · rw [h.compatible] at hforward
    cases hforward
  · rw [hstarted] at htrue
    cases htrue

theorem Start.oneWriter (h : Start initial log) : OneWriter initial log := by
  rcases h.log with rfl | rfl
  · refine ⟨trivial,fun _ hother => ?_,fun _ _ hlast => ?_⟩
    · cases hother
    · cases hlast
  · refine ⟨⟨fun _ hother => (by cases hother),trivial⟩,fun other hother => .inl (List.mem_singleton.mp hother),?_⟩
    intro _ releaseId hlast
    exact (some.inj hlast).symm

/-- The target of a failed switch that may run is not forgotten. -/
def Remembers (call : Capabilities × Call) (state : GatewayExecutionTracksState) (log : List Event) : Prop :=
  ∀ releaseId, call.2.selection = some (releaseId,state.generation) → state.Allows releaseId →
    ¬ Forgets releaseId state log

abbrev Reaches (schemaText : Refused → JsString) (initial : GatewayExecutionTracksState)
    (may : Capabilities × Call → GatewayExecutionTracksState → List Event → Prop) (texts : JsString → Prop)
    (log : List Event) : Program Unit × GatewayExecutionTracksState × List Event → Prop :=
  Runs (hostStep texts) (Call.program schemaText initial) may (.pure (),initial,log)

theorem Reaches.oneWriter {place : Program Unit × GatewayExecutionTracksState × List Event}
    (hstart : Start initial log) (h : Reaches schemaText initial Remembers (fun _ => True) log place) :
    Sound initial place.2.1 ∧ OneWriter place.2.1 place.2.2 := by
  have hmoving : Moving (hostStep fun _ => True)
      (Move initial (fun releaseId state log => ¬ Forgets releaseId state log) fun _ => True)
      (fun moment => Sound initial moment.1 ∧ OneWriter moment.1 moment.2) (.pure (),initial,log) :=
    ⟨trivial,hstart.sound,hstart.oneWriter⟩
  refine (hmoving.runs ?_ ?_ h).2.ready
  · rintro call state log ⟨hsound,-⟩ hmay
    exact makes_call (fun _ _ => trivial) hsound hmay
  · rintro moment moment' ⟨hsound,hwriter⟩ hmove
    exact ⟨hsound.move hmove,hwriter.move hsound.toValid hmove⟩

/-- In a run whose selections remember every target that may run, the host activates one release at a time, the state
names every release that may run, records the last one as active, and every switch can be completed. -/
theorem one_writer (schemaText : Refused → JsString) (initial : GatewayExecutionTracksState) (log : List Event)
    (place : Program Unit × GatewayExecutionTracksState × List Event) (hstart : Start initial log)
    (h : Reaches schemaText initial Remembers (fun _ => True) log place) :
    OneWriter place.2.1 place.2.2 ∧ CanComplete schemaText initial place.2.1 place.2.2 := by
  obtain ⟨hsound,hwriter⟩ := h.oneWriter hstart
  refine ⟨hwriter,fun hphase path hpath => ?_⟩
  obtain ⟨rest,state,log'⟩ := place
  obtain ⟨target,htarget⟩ := ne_none_iff_exists'.mp (hsound.target hphase)
  have hresume : run (agreeing path) (resume schemaText initial ⟨true,true⟩) state log' =
      run (agreeing path) (complete schemaText initial ⟨true,true⟩ state) state log' := by
    refine (run_status hsound.toValid _).trans ?_
    rw [if_neg hphase]
  have hfinishes : Finishes path target (complete schemaText initial ⟨true,true⟩ state) state log' :=
    finishes_complete hsound hpath htarget
  obtain ⟨finished,after,hrun,hsteady,hactive⟩ := hfinishes
  refine ⟨target,finished,after,htarget,hresume.trans hrun,hsteady,hactive,fun releaseId hmay => ?_⟩
  -- The run goes on with this call, and its end is steady.
  have hlater : Reaches schemaText initial Remembers (fun _ => True) log (.pure (),finished,after) := by
    have hmay : Remembers (⟨true,true⟩,.resume) state log' := fun _ hselection => by cases hselection
    have hcall := Runs.run (hostStep_agreeing (fun _ => True) path) h (⟨true,true⟩,.resume) hmay
    have hprogram : run (agreeing path) (Call.program schemaText initial (⟨true,true⟩,.resume)) state log' =
        (.ok (),finished,after) := by
      refine (run_continue _ _ _ _ _).trans ?_
      rw [hresume,hrun]
      rfl
    rw [hprogram] at hcall
    exact hcall
  have hknown := (hlater.oneWriter hstart).2.known releaseId hmay
  exact (hknown.resolve_right fun hswitch => hswitch.1 hsteady).trans hactive

end

def sampleText : Refused → JsString := fun _ => "[]"

def sampleInitial : GatewayExecutionTracksState :=
  ⟨"node","/data",0,"a",some ("c" : JsString),.steady,none,false,none,false,none⟩

def sampleLog : List Event := [.activated "a"]

/-- Release `b` does not become ready. -/
def sampleFailure : Request → Option JsString
  | .activate releaseId _ _ => if releaseId = "b" then some ("timed out" : JsString) else none
  | _ => none

def capable : Capabilities := ⟨true,true⟩

def afterCall (call : Call) (before : GatewayExecutionTracksState × List Event) :
    GatewayExecutionTracksState × List Event :=
  (run (hostAnswer sampleFailure "/backup") (Call.program sampleText sampleInitial (capable,call)) before.1 before.2).2

theorem start_sample : Start sampleInitial sampleLog where
  valid := (check_eq_none_iff sampleText sampleInitial).mp (by decide)
  compatible := rfl
  error := rfl
  log := .inr rfl

theorem runs_afterCall {may : Capabilities × Call → GatewayExecutionTracksState → List Event → Prop}
    {start : Program Unit × GatewayExecutionTracksState × List Event} {rest : Program Unit}
    {before : GatewayExecutionTracksState × List Event}
    (h : Runs (hostStep fun _ => True) (Call.program sampleText sampleInitial) may start (rest,before)) (call : Call)
    (hmay : may (capable,call) before.1 before.2) :
    ∃ rest', Runs (hostStep fun _ => True) (Call.program sampleText sampleInitial) may start
      (rest',afterCall call before) :=
  ⟨_,Runs.run (hostStep_hostAnswer (fun _ _ _ => trivial) "/backup") h (capable,call) hmay⟩

theorem one_writer_sample :
    OneWriter (afterCall (.select "b" 0) (sampleInitial,sampleLog)).1
        (afterCall (.select "b" 0) (sampleInitial,sampleLog)).2 ∧
      CanComplete sampleText sampleInitial (afterCall (.select "b" 0) (sampleInitial,sampleLog)).1
        (afterCall (.select "b" 0) (sampleInitial,sampleLog)).2 := by
  have hmay : Remembers (capable,.select "b" 0) sampleInitial sampleLog := by
    rintro releaseId - - ⟨hattention,-⟩
    cases hattention
  have hstart : Reaches sampleText sampleInitial Remembers (fun _ => True) sampleLog
      (.pure (),sampleInitial,sampleLog) := .refl
  obtain ⟨rest,h⟩ := runs_afterCall hstart (.select "b" 0) hmay
  exact one_writer sampleText sampleInitial sampleLog _ start_sample h

/-- The switch to `b` fails, and then `c` is selected. -/
def forgottenTarget : GatewayExecutionTracksState × List Event :=
  afterCall (.select "c" 1) (afterCall (.select "b" 0) (sampleInitial,sampleLog))

/-- Release `c` is activated while `b` may run, and the state does not name `b` any more. -/
theorem third_release_forgets : ∃ place, Start sampleInitial sampleLog ∧
    Reaches sampleText sampleInitial (fun _ _ _ => True) (fun _ => True) sampleLog place ∧
      ¬ SingleWriter place.2.2 ∧ ("b" : JsString) ∈ mayRun place.2.2 ∧ place.2.1.activeRelease ≠ "b" ∧
        place.2.1.targetRelease = none := by
  have hstart : Reaches sampleText sampleInitial (fun _ _ _ => True) (fun _ => True) sampleLog
      (.pure (),sampleInitial,sampleLog) := .refl
  obtain ⟨rest,hfailed⟩ := runs_afterCall hstart (.select "b" 0) trivial
  obtain ⟨rest',hswitched⟩ := runs_afterCall hfailed (.select "c" 1) trivial
  have hforgotten : ¬ SingleWriter forgottenTarget.2 ∧ ("b" : JsString) ∈ mayRun forgottenTarget.2 ∧
      forgottenTarget.1.activeRelease ≠ "b" ∧ forgottenTarget.1.targetRelease = none := by decide
  exact ⟨(rest',forgottenTarget),start_sample,hswitched,hforgotten⟩

end Malink.Tracks
