import Malink.SupervisorActivation

/-!
# What the supervisor reports

The supervisor reads the outcome of an activation off the text of its error. The report is true as long as no text
that the host throws speaks of an outcome of its own.
-/

namespace Malink.Supervisor

open DurableProgram
open Tracks (GatewayUpdatePhase ActivationMode)
open JsString (wrapped mentions_wrapped)

inductive Event
  | linked (directory : JsString)
  | unlinked
  | restarted
  | healthy (expectedBuildId : Option JsString)
  | stopped
  deriving DecidableEq

/-- The directory that the link names, which it named `previous` at first. -/
def currentLink (previous : JsString) : List Event → Option JsString
  | [] => some previous
  | .linked directory :: _ => some directory
  | .unlinked :: _ => none
  | _ :: earlier => currentLink previous earlier

def switched (log : List Event) : Bool :=
  log.any fun
    | .linked _ | .unlinked => true
    | _ => false

/-- The Gateway has started again, and was found healthy since. -/
def verified : List Event → Bool
  | .healthy _ :: .restarted :: _ => true
  | _ => false

/-- A request that throws may have done its work, but for the checks. -/
def hostStep (previous : JsString) (log : List Event) :
    (request : Request) → Except JsString request.Reply → List Event → Prop
  | .inspect _ _, .ok found, log' => found.previousTarget = currentLink previous log ∧ log' = log
  | .replaceSymlink _ directory, .ok _, log' => log' = .linked directory :: log
  | .replaceSymlink _ directory, .error _, log' => log' = log ∨ log' = .linked directory :: log
  | .removeLink _, .ok _, log' => log' = .unlinked :: log
  | .removeLink _, .error _, log' => log' = log ∨ log' = .unlinked :: log
  | .restart _ _, .ok _, log' => log' = .restarted :: log
  | .restart _ _, .error _, log' => log' = log ∨ log' = .restarted :: log
  | .waitForHealth _ expectedBuildId, .ok _, log' => log' = .healthy expectedBuildId :: log
  | .stop _, .ok _, log' => log' = .stopped :: log
  | .stop _, .error _, log' => log' = log ∨ log' = .stopped :: log
  | _, _, log' => log' = log

def Request.place : Request → Place
  | .inspect place _ | .stop place | .writePlist place | .replaceSymlink place _ | .removeLink place | .restart place _
  | .waitForHealth place _ | .verifyProbation place _ | .persist place => place
  | .backUp => .hook

/-- The report that the text gives is not true: the release was not rolled back, or the link was switched before. -/
def Misread (mode : ActivationMode) (error : JsString) (log : List Event) : Prop :=
  error.mentions rolledBackPhrase = true ∨
    (mode = .forwardOnly ∧ error.mentions preparationPhrase ∧ switched log)

/-- A text that ends up in the error of an activation, where that error says something else. -/
def Misleads (mode : ActivationMode) (request : Request) (reply : Except JsString request.Reply) (log : List Event) :
    Prop :=
  match request.place, reply with
  | .preparation, .error error | .cleanup, .error error | .commit, .error error => Misread mode error log
  | .unchanged error, .ok _ => error.mentions rolledBackPhrase = true
  | .unchanged _, .error error => Misread mode error log
  -- The release is rolled back after this text, unless the activation is forward-only.
  | .activation, .error error => mode = .forwardOnly ∧ Misread mode error log
  | .rollback, .error error => error.mentions rolledBackPhrase = true
  | _, _ => False

theorem isPhrase_rolledBack : rolledBackPhrase.IsPhrase where
  colon := by decide
  semicolon := by decide
  start := ⟨_,_,rfl,by decide⟩

theorem isPhrase_preparation : preparationPhrase.IsPhrase where
  colon := by decide
  semicolon := by decide
  start := ⟨_,_,rfl,by decide⟩

section

variable {mode : ActivationMode} {error stopError : JsString} {log log' : List Event}

/-- A text around an error is misread as the error is. -/
theorem misread_wrapped {context : JsString} (hrolledBack : context.mentions rolledBackPhrase = false)
    (hpreparation : context.mentions preparationPhrase = false) (h : Misread mode (wrapped context error) log) :
    Misread mode error log := by
  rw [Misread,mentions_wrapped isPhrase_rolledBack,mentions_wrapped isPhrase_preparation] at h
  simpa [Misread,hrolledBack,hpreparation] using h

theorem misread_forwardOnlyFailed (h : Misread mode (forwardOnlyFailed error (some stopError)) log) :
    Misread mode error log ∨ Misread mode stopError log := by
  have hdisabled : (("Matrix Gateway forward-only activation failed; automatic rollback is disabled" : JsString).mentions
      rolledBackPhrase = false ∧
      ("Matrix Gateway forward-only activation failed; automatic rollback is disabled" : JsString).mentions
        preparationPhrase = false) ∧
      (" stopping the target also failed" : JsString).mentions rolledBackPhrase = false ∧
      (" stopping the target also failed" : JsString).mentions preparationPhrase = false := by decide +kernel
  obtain ⟨⟨hfirst,hsecond⟩,hthird,hfourth⟩ := hdisabled
  simp only [Misread,forwardOnlyFailed,JsString.mentions_append_semicolon isPhrase_rolledBack,
    JsString.mentions_append_semicolon isPhrase_preparation,mentions_wrapped isPhrase_rolledBack,
    mentions_wrapped isPhrase_preparation,hfirst,hsecond,hthird,hfourth,Bool.false_eq_true,false_or] at h
  rcases h with (h | h) | ⟨hmode,h | h,hswitched⟩
  · exact .inl (.inl h)
  · exact .inr (.inl h)
  · exact .inl (.inr ⟨hmode,h,hswitched⟩)
  · exact .inr (.inr ⟨hmode,h,hswitched⟩)

theorem misread_forwardOnlyFailed_none (h : Misread mode (forwardOnlyFailed error none) log) : Misread mode error log :=
  misread_wrapped (by decide +kernel) (by decide +kernel) h

theorem misread_restartFailed (h : Misread mode (restartFailed error) log) : Misread mode error log :=
  misread_wrapped (by decide +kernel) (by decide +kernel) h

theorem mentions_rollbackFailed (h : (rollbackFailed error).mentions rolledBackPhrase) :
    error.mentions rolledBackPhrase :=
  ((mentions_wrapped isPhrase_rolledBack).mp h).resolve_left (by decide)

theorem mentions_preparationFailed_rolledBack (h : (preparationFailed error).mentions rolledBackPhrase) :
    error.mentions rolledBackPhrase :=
  ((mentions_wrapped isPhrase_rolledBack).mp h).resolve_left (by decide)

end

def Event.movesLink : Event → Bool
  | linked _ | unlinked => true
  | restarted | healthy _ | stopped => false

def OnlyTarget (directory : JsString) (log : List Event) : Prop :=
  ∀ event ∈ log, event.movesLink → event = .linked directory

section

variable (catalog : List StateEntry) (mode : ActivationMode) (previous directory : JsString) (target : Release)

/-- The fields that an activation leaves as they were when it was scheduled. -/
structure Planned (state : SupervisorState) : Prop where
  previousTarget : state.previousTarget = some previous
  target : state.target = some target
  sameMode : activationModeForState catalog state = .ok mode

structure Underway (state : SupervisorState) (log : List Event) : Prop extends
    Planned catalog mode previous target state where
  phase : state.phase = .activating ∨ state.phase = .probation
  only : mode = .forwardOnly → OnlyTarget directory log

/-- What the phase says about the link is true. A forward-only activation leads to its target only. -/
structure Reported (state : SupervisorState) (log : List Event) : Prop where
  rolledBack : state.phase = .rolledBack → currentLink previous log = some previous ∧ verified log
  staged : state.phase = .staged → switched log = false
  committed : state.phase = .committed → currentLink previous log = some directory
  forwardOnly : mode = .forwardOnly → state.phase ≠ .rolledBack ∧ OnlyTarget directory log

structure Sound (state : SupervisorState) (log : List Event) : Prop extends
    Reported mode previous directory state log where
  scheduled : state.phase = .scheduled → log = [] ∧ Planned catalog mode previous target state
  underway : state.phase = .activating ∨ state.phase = .probation →
    Underway catalog mode previous directory target state log

/-- A program that keeps the reports true, on a host that does not mislead. -/
abbrev Keeps {α : Type} (post : Except JsString α → SupervisorState → List Event → Prop) :
    Program α → SupervisorState → List Event → Prop :=
  Safe (fun log request reply log' => hostStep previous log request reply log' ∧ ¬ Misleads mode request reply log')
    (Sound catalog mode previous directory target) (fun _ _ _ => True) post

end

variable {request : Request} {log' log : List Event} {at_ : Place → Place} {error : JsString}
  {place : Place}
  {reply : Except JsString Unit} {change : SupervisorState → SupervisorState}
  {state₀ : SupervisorState} {mode : ActivationMode}

section

variable {catalog : List StateEntry} {mode : ActivationMode} {previous directory : JsString} {target : Release}
  {state state' : SupervisorState} {log : List Event} {α β : Type}

theorem Underway.sound (h : Underway catalog mode previous directory target state log) :
    Sound catalog mode previous directory target state log := by
  have hne (phase : GatewayUpdatePhase) (hactivating : phase ≠ .activating) (hprobation : phase ≠ .probation) :
      state.phase ≠ phase := by
    rcases h.phase with heq | heq
    · exact fun hphase => hactivating (hphase.symm.trans heq)
    · exact fun hphase => hprobation (hphase.symm.trans heq)
  exact {
    rolledBack := fun heq => absurd heq (hne _ (by decide) (by decide))
    staged := fun heq => absurd heq (hne _ (by decide) (by decide))
    committed := fun heq => absurd heq (hne _ (by decide) (by decide))
    forwardOnly := fun hmode => ⟨hne _ (by decide) (by decide),h.only hmode⟩
    scheduled := fun heq => absurd heq (hne _ (by decide) (by decide))
    underway := fun _ => h }

def Answered (mode : ActivationMode) (previous : JsString) (state : SupervisorState) (log : List Event)
    (request : Request) (reply : Except JsString request.Reply) (state' : SupervisorState) (log' : List Event) : Prop :=
  state' = state ∧ hostStep previous log request reply log' ∧ ¬ Misleads mode request reply log'

theorem keeps_perform (h : ∀ reply log',hostStep previous log request reply log' →
    Sound catalog mode previous directory target state log') :
    Keeps catalog mode previous directory target (Answered mode previous state log request) (perform request) state
      log := by
  refine safe_perform.mpr ⟨trivial,?_⟩
  rintro reply log' ⟨hstep,hleads⟩
  exact ⟨h reply log' hstep,rfl,hstep,hleads⟩

def Request.isQuiet : Request → Bool
  | replaceSymlink _ _ | removeLink _ => false
  | _ => true

/-- What is the same in a log with no more moves of the link. -/
structure Quiet (previous : JsString) (log log' : List Event) : Prop where
  currentLink : currentLink previous log' = currentLink previous log
  switched : switched log' = switched log
  only : ∀ directory, OnlyTarget directory log → OnlyTarget directory log'

theorem quiet_refl (log : List Event) : Quiet previous log log := ⟨rfl,rfl,fun _ => id⟩

theorem Quiet.trans {between later : List Event} (h : Quiet previous log between) (h' : Quiet previous between later) :
    Quiet previous log later :=
  ⟨h'.currentLink.trans h.currentLink,h'.switched.trans h.switched,fun d hd => h'.only d (h.only d hd)⟩

theorem quiet_cons {event : Event} (h : event.movesLink = false) : Quiet previous log (event :: log) := by
  refine ⟨?_,?_,?_⟩
  · cases event with
    | linked _ | unlinked => cases h
    | restarted | healthy _ | stopped => rfl
  · cases event with
    | linked _ | unlinked => cases h
    | restarted | healthy _ | stopped => rfl
  · intro directory honly other hother hmoves
    rcases List.mem_cons.mp hother with rfl | hother
    · rw [h] at hmoves
      cases hmoves
    · exact honly other hother hmoves

theorem quiet_step {reply : Except JsString request.Reply}
    (hquiet : request.isQuiet) (h : hostStep previous log request reply log') : Quiet previous log log' := by
  cases request with
  | replaceSymlink | removeLink => cases hquiet
  | inspect =>
    cases reply with
    | ok found =>
      obtain ⟨-,rfl⟩ := h
      exact quiet_refl _
    | error error =>
      obtain rfl := h
      exact quiet_refl _
  | backUp | writePlist | verifyProbation | persist =>
    cases reply <;> (obtain rfl := h; exact quiet_refl _)
  | restart | stop =>
    cases reply with
    | ok value =>
      obtain rfl := h
      exact quiet_cons rfl
    | error error =>
      rcases h with rfl | rfl
      · exact quiet_refl _
      · exact quiet_cons rfl
  | waitForHealth =>
    cases reply with
    | ok value =>
      obtain rfl := h
      exact quiet_cons rfl
    | error error =>
      obtain rfl := h
      exact quiet_refl _

theorem Underway.quiet (h : Underway catalog mode previous directory target state log)
    (hquiet : Quiet previous log log') : Underway catalog mode previous directory target state log' :=
  ⟨h.toPlanned,h.phase,fun hmode => hquiet.only directory (h.only hmode)⟩

theorem keeps_quiet (hquiet : request.isQuiet) (h : Underway catalog mode previous directory target state log) :
    Keeps catalog mode previous directory target (fun reply state' log' =>
        Answered mode previous state log request reply state' log' ∧ Quiet previous log log' ∧
          Underway catalog mode previous directory target state' log')
      (perform request) state log := by
  refine (keeps_perform fun reply log' hstep => (h.quiet (quiet_step hquiet hstep)).sound).mono ?_
  rintro reply _ log' ⟨rfl,hstep,hleads⟩
  have hsame := quiet_step hquiet hstep
  exact ⟨⟨rfl,hstep,hleads⟩,hsame,h.quiet hsame⟩

/-- How the start of a target ends. -/
def Started (catalog : List StateEntry) (mode : ActivationMode) (previous directory : JsString) (target : Release)
    (log : List Event) (result : Except JsString Unit) (state' : SupervisorState) (log' : List Event) : Prop :=
  Underway catalog mode previous directory target state' log' ∧ Quiet previous log log' ∧
    onResult (fun _ => verified log' = true) (fun error => mode = .forwardOnly → ¬ Misread mode error log') result

/-- What is run once the Gateway has stopped. -/
def BackingUp (catalog : List StateEntry) (mode : ActivationMode) (previous directory : JsString) (target : Release)
    (program : Program Unit) : Prop :=
  ∀ state log, Underway catalog mode previous directory target state log →
    Keeps catalog mode previous directory target (fun _ state' log' => log' = log ∧
      Underway catalog mode previous directory target state' log') program state log

/-- What is run once the target has been started. -/
def Settling (catalog : List StateEntry) (mode : ActivationMode) (previous directory : JsString) (target : Release)
    (program : Program Unit) : Prop :=
  ∀ state log, Underway catalog mode previous directory target state log →
    Keeps catalog mode previous directory target (fun result state' log' => log' = log ∧
      Underway catalog mode previous directory target state' log' ∧
        ∀ error,result = .error error → mode = .forwardOnly → ¬ Misread mode error log') program state log

theorem not_misread_of_activation (hat : mode = .forwardOnly → at_ = id) (hplace : request.place = at_ .activation)
    (hleads : ¬ Misleads mode request (.error error) log) (hmode : mode = .forwardOnly) : ¬ Misread mode error log := by
  intro hmisread
  rw [hat hmode] at hplace
  simp only [Misleads,hplace] at hleads
  exact hleads ⟨hmode,hmisread⟩

variable {at_ : Place → Place} {options : ReleaseOptions} {found : Found} {onGatewayStopped onActivated : Program Unit}

theorem keeps_startTarget (hat : mode = .forwardOnly → at_ = id)
    (hactivated : Settling catalog mode previous directory target onActivated)
    (h : Underway catalog mode previous directory target state log) :
    Keeps catalog mode previous directory target (Started catalog mode previous directory target log)
      (startTarget at_ options found onActivated) state log := by
  refine (keeps_quiet rfl h).bind ?_ ?_
  · rintro _ _ _ ⟨⟨rfl,rfl,-⟩,hrestart,h⟩
    refine (keeps_quiet rfl h).bind ?_ ?_
    · rintro _ _ _ ⟨⟨rfl,rfl,-⟩,hhealth,h⟩
      refine (hactivated _ _ h).bind ?_ ?_
      · rintro _ _ _ ⟨rfl,h,-⟩
        refine (keeps_quiet rfl h).mono ?_
        rintro reply _ _ ⟨⟨rfl,hstep,hleads⟩,hprobation,h⟩
        refine ⟨h,(hrestart.trans hhealth).trans hprobation,?_⟩
        cases reply with
        | ok value =>
          obtain rfl := hstep
          rfl
        | error error => exact not_misread_of_activation hat rfl hleads
      · rintro error _ _ ⟨rfl,h,hmisread⟩
        exact ⟨h,hrestart.trans hhealth,hmisread error rfl⟩
    · rintro error _ _ ⟨⟨rfl,hstep,hleads⟩,hhealth,h⟩
      exact ⟨h,hrestart.trans hhealth,not_misread_of_activation hat rfl hleads⟩
  · rintro error _ _ ⟨⟨rfl,hstep,hleads⟩,hrestart,h⟩
    exact ⟨h,hrestart,not_misread_of_activation hat rfl hleads⟩

theorem rollback_error (hplace : request.place = at_ .rollback) (hleads : ¬ Misleads mode request (.error error) log)
    (hat : at_ = id) : error.mentions rolledBackPhrase = false := by
  rw [hat] at hplace
  simp only [Misleads,hplace] at hleads
  exact Bool.eq_false_iff.mpr hleads

/-- How a rollback ends. -/
def Restored (catalog : List StateEntry) (mode : ActivationMode) (previous directory : JsString) (target : Release)
    (at_ : Place → Place) (found : Found) (result : Except JsString Unit) (state' : SupervisorState)
    (log' : List Event) : Prop :=
  Underway catalog mode previous directory target state' log' ∧
    onResult (fun _ => currentLink previous log' = found.previousTarget ∧ verified log')
      (fun error => at_ = id → error.mentions rolledBackPhrase = false) result

theorem keeps_writePlist {reloadLaunchAgent : Bool} (h : Underway catalog mode previous directory target state log) :
    Keeps catalog mode previous directory target (fun result state' log' =>
        (state' = state ∧ log' = log) ∧ Underway catalog mode previous directory target state' log' ∧
          onResult (fun _ => True) (fun error => ¬ Misleads mode (.writePlist place) (.error error) log) result)
      (whenReload reloadLaunchAgent (perform (Request.writePlist place))) state log := by
  cases reloadLaunchAgent with
  | false => exact ⟨⟨rfl,rfl⟩,h,trivial⟩
  | true =>
    refine (keeps_quiet rfl h).mono ?_
    rintro reply _ _ ⟨⟨rfl,hstep,hleads⟩,-,hunder⟩
    cases reply with
    | ok value =>
      obtain rfl := hstep
      exact ⟨⟨rfl,rfl⟩,hunder,trivial⟩
    | error error =>
      obtain rfl := hstep
      exact ⟨⟨rfl,rfl⟩,hunder,hleads⟩

section

variable (hmode : mode ≠ .forwardOnly) (h : Underway catalog mode previous directory target state log)
include hmode h

theorem Underway.any : Underway catalog mode previous directory target state log' :=
  ⟨h.toPlanned,h.phase,fun heq => absurd heq hmode⟩

theorem keeps_any :
    Keeps catalog mode previous directory target (fun reply state' log' =>
        Answered mode previous state log request reply state' log' ∧
          Underway catalog mode previous directory target state' log')
      (perform request) state log := by
  refine (keeps_perform fun _ _ _ => (h.any hmode).sound).mono ?_
  rintro reply _ log' ⟨rfl,hstep,hleads⟩
  exact ⟨⟨rfl,hstep,hleads⟩,h.any hmode⟩

theorem keeps_restoreLink :
    Keeps catalog mode previous directory target (fun result state' log' =>
        Underway catalog mode previous directory target state' log' ∧
          onResult (fun _ => currentLink previous log' = found.previousTarget)
            (fun error => at_ = id → error.mentions rolledBackPhrase = false) result)
      (restoreLink at_ found.previousTarget) state log := by
  cases hprevious : found.previousTarget with
  | some | none =>
    refine (keeps_any hmode h).mono ?_
    rintro reply _ _ ⟨⟨rfl,hstep,hleads⟩,hunder⟩
    refine ⟨hunder,?_⟩
    cases reply with
    | ok value =>
      obtain rfl := hstep
      rfl
    | error error => exact rollback_error rfl hleads

theorem keeps_rollBack :
    Keeps catalog mode previous directory target (Restored catalog mode previous directory target at_ found)
      (rollBack at_ options found) state log := by
  refine (keeps_restoreLink hmode h).bind ?_ ?_
  · rintro _ _ _ ⟨h,hlink⟩
    refine (keeps_writePlist h).bind ?_ ?_
    · rintro _ _ _ ⟨⟨rfl,rfl⟩,h,-⟩
      refine (keeps_quiet rfl h).bind ?_ ?_
      · rintro _ _ _ ⟨⟨rfl,hrestart,-⟩,hsame,h⟩
        obtain rfl := hrestart
        refine (keeps_quiet rfl h).mono ?_
        rintro reply _ _ ⟨⟨rfl,hstep,hleads⟩,hhealth,h⟩
        refine ⟨h,?_⟩
        cases reply with
        | ok value =>
          obtain rfl := hstep
          exact ⟨(hsame.trans hhealth).currentLink.trans hlink,rfl⟩
        | error error => exact rollback_error rfl hleads
      · rintro error _ _ ⟨⟨rfl,hstep,hleads⟩,-,h⟩
        exact ⟨h,rollback_error rfl hleads⟩
    · rintro error _ _ ⟨⟨rfl,rfl⟩,h,hleads⟩
      exact ⟨h,rollback_error rfl hleads⟩
  · rintro error _ _ ⟨h,herror⟩
    exact ⟨h,herror⟩

end

/-- What the text of an error says about the outcome is true. -/
structure Truthful (mode : ActivationMode) (previous error : JsString) (log : List Event) : Prop where
  rolledBack : error.mentions rolledBackPhrase →
    mode ≠ .forwardOnly ∧ currentLink previous log = some previous ∧ verified log
  preparation : mode = .forwardOnly → error.mentions preparationPhrase → switched log = false

theorem truthful_of_not_misread (h : ¬ Misread mode error log) : Truthful mode previous error log where
  rolledBack hmentions := absurd (.inl hmentions) h
  preparation hmode hmentions := by
    by_contra hswitched
    exact h (.inr ⟨hmode,hmentions,by simpa using hswitched⟩)

def Activated (catalog : List StateEntry) (mode : ActivationMode) (previous directory : JsString) (target : Release)
    (at_ : Place → Place) (options : ReleaseOptions) (result : Except JsString Unit) (state' : SupervisorState)
    (log' : List Event) : Prop :=
  Underway catalog mode previous directory target state' log' ∧
    onResult (fun _ => currentLink previous log' = some options.releaseDirectory ∧ verified log')
      (fun error => at_ = id → Truthful mode previous error log') result

/-- An error that stops an activation before its start. -/
theorem truthful_of_preparation
    (hplace : request.place = at_ .preparation) (hleads : ¬ Misleads mode request (.error error) log) (hat : at_ = id) :
    Truthful mode previous error log := by
  rw [hat] at hplace
  simp only [Misleads,hplace] at hleads
  exact truthful_of_not_misread hleads

theorem keeps_activateAutomatic (hmode : mode ≠ .forwardOnly) (hfound : at_ = id → found.previousTarget = some previous)
    (hactivated : Settling catalog mode previous directory target onActivated)
    (h : Underway catalog mode previous directory target state log) :
    Keeps catalog mode previous directory target (Activated catalog mode previous directory target at_ options)
      (activateAutomatic at_ options found onActivated) state log := by
  refine (keeps_writePlist h).bind ?_ ?_
  · rintro _ _ _ ⟨⟨rfl,rfl⟩,h,-⟩
    refine (keeps_any hmode h).bind ?_ ?_
    · rintro _ _ _ ⟨⟨rfl,hlink,-⟩,h⟩
      obtain rfl := hlink
      refine (keeps_startTarget (fun heq => absurd heq hmode) hactivated h).handle _ ?_ ?_
      · rintro _ _ _ ⟨h,hquiet,hverified⟩
        exact ⟨h,hquiet.currentLink,hverified⟩
      · rintro activationError _ _ ⟨h,-,-⟩
        refine safe_continue.mpr ((keeps_rollBack hmode h).mono ?_)
        rintro result _ _ ⟨h,hresult⟩
        cases result with
        | ok value =>
          obtain ⟨hlink,hverified⟩ := hresult
          refine ⟨h,fun hat => ?_⟩
          exact {
            rolledBack := fun _ => ⟨hmode,hlink.trans (hfound hat),hverified⟩
            preparation := fun heq => absurd heq hmode }
        | error rollbackError =>
          refine ⟨h,fun hat => ?_⟩
          exact {
            rolledBack := fun hmentions => by
              cases (mentions_rollbackFailed hmentions).symm.trans (hresult hat)
            preparation := fun heq => absurd heq hmode }
    · rintro error _ _ ⟨⟨rfl,_,hleads⟩,hunder⟩
      exact ⟨hunder,truthful_of_preparation rfl hleads⟩
  · rintro error _ _ ⟨⟨rfl,rfl⟩,h,hleads⟩
    exact ⟨h,truthful_of_preparation rfl hleads⟩

theorem OnlyTarget.linked (h : OnlyTarget directory log) : OnlyTarget directory (.linked directory :: log) := by
  intro event hevent hmoves
  rcases List.mem_cons.mp hevent with rfl | hevent
  · rfl
  · exact h event hevent hmoves

theorem keeps_linkTarget (h : Underway catalog mode previous directory target state log) :
    Keeps catalog mode previous directory target (fun reply state' log' =>
        Answered mode previous state log (.replaceSymlink place directory) reply state' log' ∧
          Underway catalog mode previous directory target state' log')
      (perform (Request.replaceSymlink place directory)) state log := by
  have hunder (reply : Except JsString Unit) (log' : List Event)
      (hstep : hostStep previous log (.replaceSymlink place directory) reply log') :
      Underway catalog mode previous directory target state log' := by
    have hlinked : Underway catalog mode previous directory target state (.linked directory :: log) :=
      ⟨h.toPlanned,h.phase,fun hmode => (h.only hmode).linked⟩
    cases reply with
    | ok value =>
      obtain rfl := hstep
      exact hlinked
    | error error =>
      rcases hstep with rfl | rfl
      · exact h
      · exact hlinked
  refine (keeps_perform fun (reply : Except JsString Unit) log' hstep => (hunder reply log' hstep).sound).mono ?_
  rintro reply _ log' ⟨rfl,hstep,hleads⟩
  exact ⟨⟨rfl,hstep,hleads⟩,hunder reply log' hstep⟩

theorem truthful_of_unchanged {reload : Bool} (hswitched : switched log = false)
    (hleads : ¬ Misleads mode (.restart (.unchanged error) reload) reply log) :
    onResult (fun _ => Truthful mode previous (preparationFailed error) log)
      (fun restartError => Truthful mode previous (restartFailed restartError) log) reply := by
  cases reply with
  | ok value =>
    exact {
      rolledBack := fun hmentions => absurd (mentions_preparationFailed_rolledBack hmentions) hleads
      preparation := fun _ _ => hswitched }
  | error restartError => exact truthful_of_not_misread fun hmisread => hleads (misread_restartFailed hmisread)

theorem truthful_of_cleanup {activationError : JsString}
    (hactivation : ¬ Misread mode activationError log) (hleads : ¬ Misleads mode (.stop .cleanup) reply log) :
    onResult (fun _ => Truthful mode previous (forwardOnlyFailed activationError none) log)
      (fun stopError => Truthful mode previous (forwardOnlyFailed activationError (some stopError)) log) reply := by
  cases reply with
  | ok value => exact truthful_of_not_misread fun hmisread => hactivation (misread_forwardOnlyFailed_none hmisread)
  | error stopError =>
    refine truthful_of_not_misread fun hmisread => ?_
    rcases misread_forwardOnlyFailed hmisread with hmisread | hmisread
    · exact hactivation hmisread
    · exact hleads hmisread

theorem misread_quiet (hquiet : Quiet previous log log') (h : Misread mode error log') : Misread mode error log := by
  rcases h with hrolledBack | ⟨hmode,hpreparation,hswitched⟩
  · exact .inl hrolledBack
  · exact .inr ⟨hmode,hpreparation,hquiet.switched.symm.trans hswitched⟩

theorem keeps_activateForwardOnly (hmode : mode = .forwardOnly) (hdirectory : options.releaseDirectory = directory)
    (hswitched : switched log = false) (hstopped : BackingUp catalog mode previous directory target onGatewayStopped)
    (hactivated : Settling catalog mode previous directory target onActivated)
    (h : Underway catalog mode previous directory target state log) :
    Keeps catalog mode previous directory target (Activated catalog mode previous directory target id options)
      (activateForwardOnly id options found onGatewayStopped onActivated) state log := by
  subst hdirectory
  refine (keeps_quiet rfl h).bind ?_ ?_
  · rintro _ _ _ ⟨⟨rfl,-⟩,hstop,h⟩
    have hunchanged := hstop.switched.trans hswitched
    refine safe_continue.mpr ((hstopped _ _ h).mono ?_)
    rintro result _ _ ⟨rfl,hstill⟩
    cases result with
    | error error =>
      refine safe_continue.mpr ((keeps_quiet rfl hstill).mono ?_)
      rintro reply _ _ ⟨⟨rfl,-,hleads⟩,hrestart,h⟩
      have htruthful : onResult (fun _ => Truthful mode previous _ _) (fun _ => Truthful mode previous _ _) reply :=
        truthful_of_unchanged (hrestart.switched.trans hunchanged) hleads
      cases reply with
      | ok | error => exact ⟨h,fun _ => htruthful⟩
    | ok value =>
      refine (keeps_writePlist hstill).bind ?_ ?_
      · rintro _ _ _ ⟨⟨rfl,rfl⟩,h,-⟩
        refine (keeps_linkTarget h).bind ?_ ?_
        · rintro _ _ _ ⟨⟨rfl,hlink,-⟩,h⟩
          obtain rfl := hlink
          refine (keeps_startTarget (fun _ => rfl) hactivated h).handle _ ?_ ?_
          · rintro _ _ _ ⟨h,hquiet,hverified⟩
            exact ⟨h,hquiet.currentLink,hverified⟩
          · rintro activationError _ _ ⟨h,-,hmisread⟩
            refine safe_continue.mpr ((keeps_quiet rfl h).mono ?_)
            rintro reply _ _ ⟨⟨rfl,-,hleads⟩,hcleanup,h⟩
            have hactivation := fun hmis => hmisread hmode (misread_quiet hcleanup hmis)
            have htruthful : onResult (fun _ => Truthful mode previous _ _) (fun _ => Truthful mode previous _ _) reply :=
              truthful_of_cleanup hactivation hleads
            cases reply with
            | ok | error => exact ⟨h,fun _ => htruthful⟩
        · rintro error _ _ ⟨⟨rfl,_,hleads⟩,hunder⟩
          exact ⟨hunder,truthful_of_preparation rfl hleads⟩
      · rintro error _ _ ⟨⟨rfl,rfl⟩,h,hleads⟩
        exact ⟨h,truthful_of_preparation rfl hleads⟩
  · rintro error _ _ ⟨⟨rfl,_,hleads⟩,-,hunder⟩
    exact ⟨hunder,truthful_of_preparation rfl hleads⟩

theorem keeps_activateMacosGatewayRelease (hforwardOnly : options.forwardOnly →
      (mode = .forwardOnly ∧ at_ = id) ∧ options.releaseDirectory = directory ∧ switched log = false)
    (hautomatic : options.forwardOnly = false → mode ≠ .forwardOnly)
    (hlink : at_ = id → currentLink previous log = some previous)
    (hstopped : BackingUp catalog mode previous directory target onGatewayStopped)
    (hactivated : Settling catalog mode previous directory target onActivated)
    (h : Underway catalog mode previous directory target state log) :
    Keeps catalog mode previous directory target (Activated catalog mode previous directory target at_ options)
      (activateMacosGatewayRelease at_ options onGatewayStopped onActivated) state log := by
  refine (keeps_quiet rfl h).bind ?_ ?_
  · rintro found _ _ ⟨⟨rfl,hfound,-⟩,hquiet,h⟩
    obtain ⟨hprevious,rfl⟩ := hfound
    cases hkind : options.forwardOnly with
    | true =>
      obtain ⟨⟨hmode,rfl⟩,hdirectory,hswitched⟩ := hforwardOnly hkind
      exact keeps_activateForwardOnly hmode hdirectory hswitched hstopped hactivated h
    | false =>
      exact keeps_activateAutomatic (hautomatic hkind) (fun hat => hprevious.trans (hlink hat)) hactivated h
  · rintro error _ _ ⟨⟨rfl,_,hleads⟩,-,hunder⟩
    exact ⟨hunder,truthful_of_preparation rfl hleads⟩

theorem keeps_writeStatus (h : Sound catalog mode previous directory target state log)
    (hchange : Sound catalog mode previous directory target (change state) log) :
    Keeps catalog mode previous directory target (fun result state' log' => log' = log ∧
        onResult (fun _ => state' = change state)
          (fun error => state' = state ∧ ¬ Misleads mode (.persist place) (.error error) log) result)
      (writeStatus place change) state log := by
  have hpersisted : Keeps catalog mode previous directory target
      (Answered mode previous state log (Request.persist place)) (perform (Request.persist place)) state log :=
    keeps_perform fun reply log' hstep => by
      cases reply <;> (obtain rfl := hstep; exact h)
  refine hpersisted.bind ?_ ?_
  · rintro _ _ _ ⟨rfl,hstep,-⟩
    obtain rfl := hstep
    exact ⟨hchange,rfl,rfl⟩
  · rintro error _ _ ⟨rfl,hstep,hleads⟩
    obtain rfl := hstep
    exact ⟨rfl,rfl,hleads⟩

theorem keeps_writeUnderway (hchange : Underway catalog mode previous directory target (change state) log)
    (h : Underway catalog mode previous directory target state log) :
    Keeps catalog mode previous directory target (fun result state' log' => log' = log ∧
        Underway catalog mode previous directory target state' log' ∧
          onResult (fun _ => True) (fun error => ¬ Misleads mode (.persist place) (.error error) log) result)
      (writeStatus place change) state log := by
  refine (keeps_writeStatus h.sound hchange.sound).mono ?_
  rintro result _ _ ⟨rfl,hresult⟩
  cases result with
  | ok value =>
    obtain rfl := hresult
    exact ⟨rfl,hchange,trivial⟩
  | error error =>
    obtain ⟨rfl,hleads⟩ := hresult
    exact ⟨rfl,h,hleads⟩

theorem keeps_backUpState (hprevious : state₀.previousTarget = some previous) :
    BackingUp catalog mode previous directory target (backUpState state₀) := by
  intro state log h
  unfold backUpState
  rw [hprevious]
  refine (keeps_quiet rfl h).bind ?_ ?_
  · rintro backup _ _ ⟨⟨rfl,hstep,-⟩,-,h⟩
    obtain rfl := hstep
    refine (keeps_writeUnderway ⟨?_,h.phase,h.only⟩ h).mono ?_
    · exact ⟨h.previousTarget,h.target,h.sameMode⟩
    · rintro _ _ _ ⟨rfl,h,-⟩
      exact ⟨rfl,h⟩
  · rintro error _ _ ⟨⟨rfl,hstep,-⟩,-,h⟩
    obtain rfl := hstep
    exact ⟨rfl,h⟩

theorem keeps_recordProbation : Settling catalog mode previous directory target recordProbation := by
  intro state log h
  refine (keeps_writeUnderway ⟨?_,.inr rfl,h.only⟩ h).mono ?_
  · exact ⟨h.previousTarget,h.target,h.sameMode⟩
  · rintro result _ _ ⟨rfl,h,hresult⟩
    refine ⟨rfl,h,?_⟩
    rintro error rfl hmode
    exact fun hmisread => hresult ⟨hmode,hmisread⟩

theorem sound_of_reported (hscheduled : state.phase ≠ .scheduled) (hactivating : state.phase ≠ .activating)
    (hprobation : state.phase ≠ .probation) (h : Reported mode previous directory state log) :
    Sound catalog mode previous directory target state log :=
  { h with
    scheduled := fun heq => absurd heq hscheduled
    underway := fun heq => absurd heq (not_or.mpr ⟨hactivating,hprobation⟩) }

theorem sound_repairRequired (hphase : state.phase = .repairRequired)
    (h : Underway catalog mode previous directory target state' log) :
    Sound catalog mode previous directory target state log := by
  refine sound_of_reported (by simp [hphase]) (by simp [hphase]) (by simp [hphase]) ?_
  exact {
    rolledBack := fun heq => by simp [hphase] at heq
    staged := fun heq => by simp [hphase] at heq
    committed := fun heq => by simp [hphase] at heq
    forwardOnly := fun hmode => ⟨by simp [hphase],h.only hmode⟩ }

theorem sound_committed (hlink : currentLink previous log = some directory)
    (h : Underway catalog mode previous directory target state log) :
    Sound catalog mode previous directory target (committed state₀ target state) log := by
  have hphase : (committed state₀ target state).phase = .committed := rfl
  refine sound_of_reported (by simp [hphase]) (by simp [hphase]) (by simp [hphase]) ?_
  exact {
    rolledBack := fun heq => by simp [hphase] at heq
    staged := fun heq => by simp [hphase] at heq
    committed := fun _ => hlink
    forwardOnly := fun hmode => ⟨by simp [hphase],h.only hmode⟩ }

theorem sound_reported (htruthful : Truthful mode previous error log)
    (h : Underway catalog mode previous directory target state log) :
    Sound catalog mode previous directory target (reported mode error state) log := by
  cases hrolledBack : error.mentions rolledBackPhrase with
  | true =>
    obtain ⟨hmode,hlink,hverified⟩ := htruthful.rolledBack hrolledBack
    have hphase : (reported mode error state).phase = .rolledBack := by simp [reported,hrolledBack]
    refine sound_of_reported (by simp [hphase]) (by simp [hphase]) (by simp [hphase]) ?_
    exact {
      rolledBack := fun _ => ⟨hlink,hverified⟩
      staged := fun heq => by simp [hphase] at heq
      committed := fun heq => by simp [hphase] at heq
      forwardOnly := fun heq => absurd heq hmode }
  | false =>
    by_cases hpreparation : mode = .forwardOnly ∧ error.mentions preparationPhrase
    · have hphase : (reported mode error state).phase = .staged := by simp [reported,hrolledBack,hpreparation]
      refine sound_of_reported (by simp [hphase]) (by simp [hphase]) (by simp [hphase]) ?_
      exact {
        rolledBack := fun heq => by simp [hphase] at heq
        staged := fun _ => htruthful.preparation hpreparation.1 hpreparation.2
        committed := fun heq => by simp [hphase] at heq
        forwardOnly := fun hmode => ⟨by simp [hphase],h.only hmode⟩ }
    · exact sound_repairRequired (by simpa [reported,hrolledBack] using hpreparation) h

variable {releasesRoot : JsString} {state₀ : SupervisorState}

theorem keeps_activate (hdirectory : releaseDirectory releasesRoot target.releaseId = directory)
    (hprevious : state₀.previousTarget = some previous) (hlink : currentLink previous log = some previous)
    (hswitched : switched log = false) (h : Underway catalog mode previous directory target state log) :
    Keeps catalog mode previous directory target (fun result state' log' =>
        onResult (fun _ => Sound catalog mode previous directory target state' log')
          (fun error => Underway catalog mode previous directory target state' log' ∧
            Truthful mode previous error log') result)
      (activate releasesRoot mode state₀ target) state log := by
  have hforwardOnly : decide (mode = .forwardOnly) →
      (mode = .forwardOnly ∧ (id : Place → Place) = id) ∧ releaseDirectory releasesRoot target.releaseId = directory ∧
        switched log = false :=
    fun hmode => ⟨⟨of_decide_eq_true hmode,rfl⟩,hdirectory,hswitched⟩
  refine (keeps_activateMacosGatewayRelease hforwardOnly of_decide_eq_false (fun _ => hlink)
    (keeps_backUpState hprevious) keeps_recordProbation h).bind ?_ ?_
  · rintro _ _ _ ⟨h,hlinked,-⟩
    refine (keeps_writeStatus h.sound (sound_committed (hlinked.trans (congrArg some hdirectory)) h)).mono ?_
    rintro result _ _ ⟨rfl,hresult⟩
    cases result with
    | ok value =>
      obtain rfl := hresult
      exact sound_committed (hlinked.trans (congrArg some hdirectory)) h
    | error error =>
      obtain ⟨rfl,hleads⟩ := hresult
      exact ⟨h,truthful_of_not_misread hleads⟩
  · rintro error _ _ ⟨h,htruthful⟩
    exact ⟨h,htruthful rfl⟩

/-- Nothing is promised at the end of a call, but what holds at every moment. -/
abbrev Keeps' (catalog : List StateEntry) (mode : ActivationMode) (previous directory : JsString) (target : Release) :
    Program Unit → SupervisorState → List Event → Prop :=
  Keeps catalog mode previous directory target fun _ _ _ => True

theorem keeps_activateScheduled (hdirectory : releaseDirectory releasesRoot target.releaseId = directory)
    (h : Sound catalog mode previous directory target state log) :
    Keeps' catalog mode previous directory target (activateScheduled catalog releasesRoot) state log := by
  change Keeps' catalog mode previous directory target (if state.phase ≠ .scheduled then return () else _) state log
  split
  · trivial
  · next hphase =>
    obtain ⟨rfl,hplanned⟩ := h.scheduled (not_not.mp hphase)
    rw [hplanned.target,hplanned.sameMode]
    have hunder : Underway catalog mode previous directory target { state with phase := .activating } [] :=
      ⟨⟨hplanned.previousTarget,hplanned.target,hplanned.sameMode⟩,.inl rfl,
        fun _ _ hevent => absurd hevent (List.not_mem_nil)⟩
    refine (keeps_writeStatus h hunder.sound).bind ?_ ?_
    · rintro _ _ _ ⟨rfl,hactivating⟩
      obtain rfl := hactivating
      refine (keeps_activate hdirectory hplanned.previousTarget rfl rfl hunder).handle _ ?_ ?_
      · exact fun _ _ _ _ => trivial
      · rintro error _ _ ⟨h,htruthful⟩
        refine (keeps_writeStatus h.sound (sound_reported htruthful h)).bind ?_ ?_
        · exact fun _ _ _ _ => trivial
        · exact fun _ _ _ _ => trivial
    · exact fun _ _ _ _ => trivial

theorem keeps_restorePrevious (hmode : mode ≠ .forwardOnly) {expectedBuildId : Option JsString}
    (h : Underway catalog mode previous directory target state log) :
    Keeps catalog mode previous directory target (fun result state' log' =>
        Underway catalog mode previous directory target state' log' ∧
          onResult (fun _ => currentLink previous log' = some previous ∧ verified log') (fun _ => True) result)
      (activateMacosGatewayRelease (fun _ => .recovery)
        { releaseDirectory := previous, expectedBuildId, rollbackBuildId := none, forwardOnly := false }
        (.pure ()) (.pure ())) state log := by
  have hnot : (fun _ : Place => Place.recovery) ≠ id := fun heq => by cases congrFun heq .hook
  have hstopped : BackingUp catalog mode previous directory target (.pure ()) := fun _ _ hunder => ⟨rfl,hunder⟩
  have hactivated : Settling catalog mode previous directory target (.pure ()) :=
    fun _ _ hunder => ⟨rfl,hunder,fun _ _ heq => absurd heq hmode⟩
  refine (keeps_activateMacosGatewayRelease (by simp) (fun _ => hmode) (fun heq => absurd heq hnot) hstopped hactivated
    h).mono ?_
  rintro result _ _ ⟨hunder,hresult⟩
  cases result with
  | ok value => exact ⟨hunder,hresult⟩
  | error error => exact ⟨hunder,trivial⟩

theorem keeps_recoverInterruptedActivation (h : Underway catalog mode previous directory target state log) :
    Keeps' catalog mode previous directory target (recoverInterruptedActivation catalog state) state log := by
  unfold recoverInterruptedActivation
  rw [h.sameMode,h.previousTarget]
  change Keeps' catalog mode previous directory target (ite (mode = .forwardOnly) _ _) state log
  split
  · refine (keeps_writeStatus h.sound (sound_repairRequired rfl h)).mono ?_
    exact fun _ _ _ _ => trivial
  · next hmode =>
    refine Safe.handle (fun result state' log' =>
      onResult (fun _ => True) (fun _ => Underway catalog mode previous directory target state' log') result) ?_ ?_ ?_
    · refine (keeps_restorePrevious hmode h).bind ?_ ?_
      · rintro _ state' log' ⟨hunder,hlink,hverified⟩
        have hrestored : Sound catalog mode previous directory target
            { state' with
              phase := .rolledBack
              detail := some "Supervisor restarted during activation and restored the previous release" } log' := by
          refine sound_of_reported (by simp) (by simp) (by simp) ?_
          exact {
            rolledBack := fun _ => ⟨hlink,hverified⟩
            staged := by simp
            committed := by simp
            forwardOnly := fun heq => absurd heq hmode }
        refine (keeps_writeStatus hunder.sound hrestored).mono ?_
        rintro result _ _ ⟨rfl,hresult⟩
        cases result with
        | ok value => trivial
        | error error =>
          obtain ⟨rfl,-⟩ := hresult
          exact hunder
      · rintro error _ _ ⟨hunder,-⟩
        exact hunder
    · exact fun _ _ _ _ => trivial
    · intro error _ _ hunder
      refine (keeps_writeStatus hunder.sound (sound_repairRequired rfl hunder)).mono ?_
      exact fun _ _ _ _ => trivial

theorem keeps_initializeSupervisor (h : Sound catalog mode previous directory target state log) :
    Keeps' catalog mode previous directory target (initializeSupervisor catalog) state log := by
  change Keeps' catalog mode previous directory target (ite (state.phase = .activating ∨ state.phase = .probation) _ _)
    state log
  split
  · next hphase => exact keeps_recoverInterruptedActivation (h.underway hphase)
  · trivial

theorem keeps_call (hdirectory : releaseDirectory releasesRoot target.releaseId = directory)
    (h : Sound catalog mode previous directory target state log) :
    (call : Call) → Keeps' catalog mode previous directory target (call.program catalog releasesRoot) state log
  | .activateScheduled => keeps_activateScheduled hdirectory h
  | .initializeSupervisor => keeps_initializeSupervisor h

theorem sound_of_scheduled (hphase : state.phase = .scheduled) (h : Planned catalog mode previous target state) :
    Sound catalog mode previous directory target state [] where
  rolledBack heq := by simp [hphase] at heq
  staged heq := by simp [hphase] at heq
  committed heq := by simp [hphase] at heq
  forwardOnly _ := ⟨by simp [hphase],fun _ hevent => absurd hevent List.not_mem_nil⟩
  scheduled _ := ⟨rfl,h⟩
  underway heq := by simp [hphase] at heq

theorem sound_runs {place : Program Unit × SupervisorState × List Event}
    (hdirectory : releaseDirectory releasesRoot target.releaseId = directory)
    (h : Sound catalog mode previous directory target state log)
    (hruns : Runs (fun log request reply log' => hostStep previous log request reply log' ∧
      ¬ Misleads mode request reply log') (Call.program catalog releasesRoot) (fun _ _ _ => True) (.pure (),state,log)
      place) :
    Keeps' catalog mode previous directory target place.1 place.2.1 place.2.2 ∧
      Sound catalog mode previous directory target place.2.1 place.2.2 := by
  induction hruns with
  | refl => exact ⟨trivial,h⟩
  | steps _ hsteps ih => exact ih.1.steps ih.2 hsteps
  | call _ call _ ih => exact ⟨keeps_call hdirectory ih.2 call,ih.2⟩

end

/-- Every moment of every run, where calls follow each other and the process may crash at every step. -/
theorem reports_what_happened (catalog : List StateEntry) (releasesRoot previous : JsString) (mode : ActivationMode)
    (target : Release) (scheduled : SupervisorState) (place : Program Unit × SupervisorState × List Event)
    (hphase : scheduled.phase = .scheduled) (hplanned : Planned catalog mode previous target scheduled)
    (hruns : Runs (fun log request reply log' => hostStep previous log request reply log' ∧
      ¬ Misleads mode request reply log') (Call.program catalog releasesRoot) (fun _ _ _ => True)
      (.pure (),scheduled,[]) place) :
    Reported mode previous (releaseDirectory releasesRoot target.releaseId) place.2.1 place.2.2 :=
  (sound_runs rfl (sound_of_scheduled hphase hplanned) hruns).2.toReported

def sampleTarget : Release := ⟨"r2","b2",[]⟩

def samplePrevious : JsString := "/releases/r1"

def sampleScheduled : SupervisorState where
  phase := .scheduled
  statusMode := some .forwardOnly
  detail := none
  releaseId := some sampleTarget.releaseId
  targetBuildId := some sampleTarget.buildId
  currentBuildId := some ("b1" : JsString)
  previousReleaseId := some ("r1" : JsString)
  target := some sampleTarget
  previousTarget := some samplePrevious
  scheduledAt := some 0
  activationMode := some .forwardOnly
  forwardOnlyBackupPath := none

theorem planned_sampleScheduled : Planned [] .forwardOnly samplePrevious sampleTarget sampleScheduled where
  previousTarget := rfl
  target := rfl
  sameMode := rfl

def Request.startsUnchanged (request : Request) : Bool :=
  match request.place with
  | .unchanged _ => true
  | _ => false

def Request.checksHealth : Request → Bool
  | waitForHealth _ _ => true
  | _ => false

/-- No health check passes, and the unchanged Gateway does not start again either. -/
def hostAnswer (error : JsString) (log : List Event) (request : Request) : Except JsString request.Reply × List Event :=
  if request.startsUnchanged ∨ request.checksHealth then (.error error,log)
  else
    match request with
    | .inspect _ _ => (.ok ⟨currentLink samplePrevious log,false⟩,log)
    | .stop _ => (.ok (),.stopped :: log)
    | .backUp => (.ok ("/backup" : JsString),log)
    | .replaceSymlink _ directory => (.ok (),.linked directory :: log)
    | .removeLink _ => (.ok (),.unlinked :: log)
    | .restart _ _ => (.ok (),.restarted :: log)
    | .waitForHealth _ expectedBuildId => (.ok (),.healthy expectedBuildId :: log)
    | .writePlist _ | .verifyProbation _ _ | .persist _ => (.ok (),log)

theorem hostStep_error (error : JsString) (log : List Event) (request : Request) :
    hostStep samplePrevious log request (.error error) log := by
  cases request with
  | stop | replaceSymlink | removeLink | restart => exact .inl rfl
  | inspect | backUp | writePlist | waitForHealth | verifyProbation | persist => rfl

theorem hostStep_hostAnswer (error : JsString) (log : List Event) (request : Request) :
    hostStep samplePrevious log request (hostAnswer error log request).1 (hostAnswer error log request).2 := by
  unfold hostAnswer
  split
  · exact hostStep_error error log request
  · cases request with
    | inspect => exact ⟨rfl,rfl⟩
    | stop | backUp | writePlist | replaceSymlink | removeLink | restart | waitForHealth | verifyProbation | persist =>
      rfl

theorem not_misleads_error
    (hrolledBack : error.mentions rolledBackPhrase = false) (hpreparation : error.mentions preparationPhrase = false) :
    ¬ Misleads mode request (.error error) log := by
  unfold Misleads Misread
  split <;> simp_all

theorem not_misleads_ok {value : request.Reply}
    (h : request.startsUnchanged = false) : ¬ Misleads mode request (.ok value) log := by
  unfold Request.startsUnchanged at h
  unfold Misleads
  split <;> simp_all

theorem not_misleads_hostAnswer
    (hrolledBack : error.mentions rolledBackPhrase = false) (hpreparation : error.mentions preparationPhrase = false) :
    ¬ Misleads .forwardOnly request (hostAnswer error log request).1 log' := by
  unfold hostAnswer
  split
  · exact not_misleads_error hrolledBack hpreparation
  · next hkind =>
    have hplace : request.startsUnchanged = false := Bool.eq_false_iff.mpr fun h => hkind (.inl h)
    cases request <;> exact not_misleads_ok hplace

def afterFailure (error : JsString) : SupervisorState × List Event :=
  (run (hostAnswer error) (Call.program [] "/releases" .activateScheduled) sampleScheduled []).2

/-- The failed target stays in place, and the status asks for a repair. -/
theorem reports_what_happened_sample :
    Reported .forwardOnly samplePrevious (releaseDirectory "/releases" sampleTarget.releaseId)
      (afterFailure "timed out").1 (afterFailure "timed out").2 := by
  have hstart : Runs (fun log request reply log' => hostStep samplePrevious log request reply log' ∧
      ¬ Misleads .forwardOnly request reply log') (Call.program [] "/releases") (fun _ _ _ => True)
      (.pure (),sampleScheduled,[]) (.pure (),sampleScheduled,[]) := .refl
  have hruns := hstart.run (fun log request => ⟨hostStep_hostAnswer "timed out" log request,
    not_misleads_hostAnswer (by decide) (by decide)⟩) Call.activateScheduled trivial
  have hreported := reports_what_happened [] "/releases" samplePrevious .forwardOnly sampleTarget sampleScheduled _ rfl
    planned_sampleScheduled hruns
  exact hreported

/-- The error of a target that is not healthy says what has become of a migration. The status says that the release
was rolled back, where the link names the release that fails. -/
theorem migration_text_hides_failure : ∃ place : Program Unit × SupervisorState × List Event,
    Runs (hostStep samplePrevious) (Call.program [] "/releases") (fun _ _ _ => True) (.pure (),sampleScheduled,[]) place ∧
      sampleScheduled.phase = .scheduled ∧ Planned [] .forwardOnly samplePrevious sampleTarget sampleScheduled ∧
      place.2.1.phase = .rolledBack ∧ currentLink samplePrevious place.2.2 = some ("/releases/r2" : JsString) ∧
      ¬ Reported .forwardOnly samplePrevious (releaseDirectory "/releases" sampleTarget.releaseId) place.2.1
        place.2.2 := by
  have hstart : Runs (hostStep samplePrevious) (Call.program [] "/releases") (fun _ _ _ => True)
      (.pure (),sampleScheduled,[]) (.pure (),sampleScheduled,[]) := .refl
  have hruns := hstart.run (hostStep_hostAnswer "the migration was rolled back") Call.activateScheduled trivial
  have hphase : (afterFailure "the migration was rolled back").1.phase = .rolledBack := by decide +kernel
  have hlink : currentLink samplePrevious (afterFailure "the migration was rolled back").2 =
      some ("/releases/r2" : JsString) := by decide
  refine ⟨_,hruns,rfl,planned_sampleScheduled,hphase,hlink,fun hreported => ?_⟩
  exact (hreported.forwardOnly rfl).1 hphase

end Malink.Supervisor
