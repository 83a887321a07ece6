import Mathlib.Logic.Basic

/-!
# Programs over a durable state

A program reads and replaces a durable state and makes requests to an environment, which return or throw.
-/

namespace Malink

inductive DurableProgram (σ ε Request : Type) (Reply : Request → Type) (α : Type)
  | pure (value : α)
  | throw (error : ε)
  | read (next : σ → DurableProgram σ ε Request Reply α)
  | write (state : σ) (next : DurableProgram σ ε Request Reply α)
  | ask (request : Request) (next : Except ε (Reply request) → DurableProgram σ ε Request Reply α)

namespace DurableProgram

variable {σ ε Request : Type} {Reply : Request → Type} {α β η : Type}

def ofExcept : Except ε α → DurableProgram σ ε Request Reply α
  | .ok value => .pure value
  | .error error => .throw error

/-- A program goes on with the result of another one, a value or an error. -/
def continue_ (next : Except ε α → DurableProgram σ ε Request Reply β) :
    DurableProgram σ ε Request Reply α → DurableProgram σ ε Request Reply β
  | .pure value => next (.ok value)
  | .throw error => next (.error error)
  | .read rest => .read fun state => continue_ next (rest state)
  | .write state rest => .write state (continue_ next rest)
  | .ask request rest => .ask request fun reply => continue_ next (rest reply)

def onResult {γ : Type*} (ok : α → γ) (error : ε → γ) : Except ε α → γ
  | .ok value => ok value
  | .error thrown => error thrown

def bind (program : DurableProgram σ ε Request Reply α) (next : α → DurableProgram σ ε Request Reply β) :
    DurableProgram σ ε Request Reply β :=
  program.continue_ (onResult next .throw)

/-- `try` and `catch` -/
def handle (program : DurableProgram σ ε Request Reply α) (handler : ε → DurableProgram σ ε Request Reply α) :
    DurableProgram σ ε Request Reply α :=
  program.continue_ (onResult .pure handler)

instance : Monad (DurableProgram σ ε Request Reply) where
  pure := .pure
  bind := bind

def readState : DurableProgram σ ε Request Reply σ := .read .pure

def writeState (state : σ) : DurableProgram σ ε Request Reply Unit := .write state (.pure ())

def perform (request : Request) : DurableProgram σ ε Request Reply (Reply request) := .ask request ofExcept

section

variable (step : η → (request : Request) → Except ε (Reply request) → η → Prop)

/-- The steps of a run, each of which may be the last one. -/
inductive Steps : DurableProgram σ ε Request Reply α → σ → η → DurableProgram σ ε Request Reply α → σ → η → Prop
  | refl (program : DurableProgram σ ε Request Reply α) (state : σ) (host : η) :
    Steps program state host program state host
  | read {next : σ → DurableProgram σ ε Request Reply α} {state state' : σ} {host host' : η}
    {program' : DurableProgram σ ε Request Reply α} (h : Steps (next state) state host program' state' host') :
    Steps (.read next) state host program' state' host'
  | write {next : DurableProgram σ ε Request Reply α} {written state state' : σ} {host host' : η}
    {program' : DurableProgram σ ε Request Reply α} (h : Steps next written host program' state' host') :
    Steps (.write written next) state host program' state' host'
  | ask {request : Request} {next : Except ε (Reply request) → DurableProgram σ ε Request Reply α}
    {reply : Except ε (Reply request)} {state state' : σ} {host between host' : η}
    {program' : DurableProgram σ ε Request Reply α} (hstep : step host request reply between)
    (h : Steps (next reply) state between program' state' host') :
    Steps (.ask request next) state host program' state' host'

end

/-- The run in an environment that answers in one way. -/
def run (answer : η → (request : Request) → Except ε (Reply request) × η) :
    DurableProgram σ ε Request Reply α → σ → η → Except ε α × σ × η
  | .pure value, state, host => (.ok value,state,host)
  | .throw error, state, host => (.error error,state,host)
  | .read next, state, host => run answer (next state) state host
  | .write state next, _, host => run answer next state host
  | .ask request next, state, host =>
    run answer (next (answer host request).1) state (answer host request).2

variable {answer : η → (request : Request) → Except ε (Reply request) × η}

theorem steps_run {step : η → (request : Request) → Except ε (Reply request) → η → Prop}
    (hanswer : ∀ host request,step host request (answer host request).1 (answer host request).2)
    (program : DurableProgram σ ε Request Reply α) (state : σ) (host : η) :
    Steps step program state host (ofExcept (run answer program state host).1) (run answer program state host).2.1
      (run answer program state host).2.2 := by
  induction program generalizing state host with
  | pure | throw => exact .refl _ _ _
  | read next ih => exact .read (ih state state host)
  | write written next ih => exact .write (ih written host)
  | ask request next ih => exact .ask (hanswer host request) (ih _ state _)

/-- A program that goes on with another one's result takes the steps of that one first. -/
theorem Steps.continue_ {step : η → (request : Request) → Except ε (Reply request) → η → Prop}
    {program program' : DurableProgram σ ε Request Reply α} {state state' : σ} {host host' : η}
    (hs : Steps step program state host program' state' host')
    (next : Except ε α → DurableProgram σ ε Request Reply β) :
    Steps step (program.continue_ next) state host (program'.continue_ next) state' host' := by
  induction hs with
  | refl => exact .refl _ _ _
  | read _ ih => exact .read ih
  | write _ ih => exact .write ih
  | ask hstep _ ih => exact .ask hstep ih

/-- What holds whatever the environment answers: the invariant after every step, the condition of every request that
is made, and the postcondition at the end. -/
def Safe (step : η → (request : Request) → Except ε (Reply request) → η → Prop) (invariant : σ → η → Prop)
    (allowed : Request → σ → η → Prop) (post : Except ε α → σ → η → Prop) :
    DurableProgram σ ε Request Reply α → σ → η → Prop
  | .pure value, state, host => post (.ok value) state host
  | .throw error, state, host => post (.error error) state host
  | .read next, state, host => Safe step invariant allowed post (next state) state host
  | .write state next, _, host => invariant state host ∧ Safe step invariant allowed post next state host
  | .ask request next, state, host => allowed request state host ∧ ∀ reply host', step host request reply host' →
      invariant state host' ∧ Safe step invariant allowed post (next reply) state host'

section

variable {step : η → (request : Request) → Except ε (Reply request) → η → Prop} {invariant : σ → η → Prop}
  {allowed : Request → σ → η → Prop} {post : Except ε α → σ → η → Prop} {state state' : σ} {host host' : η}
  {program program' : DurableProgram σ ε Request Reply α}

theorem Safe.steps (h : Safe step invariant allowed post program state host) (hinvariant : invariant state host)
    (hs : Steps step program state host program' state' host') :
    Safe step invariant allowed post program' state' host' ∧ invariant state' host' := by
  induction hs with
  | refl program state host => exact ⟨h,hinvariant⟩
  | read _ ih => exact ih h hinvariant
  | write _ ih => exact ih h.2 h.1
  | ask hstep _ ih =>
    obtain ⟨hnext,hsafe⟩ := h.2 _ _ hstep
    exact ih hsafe hnext

theorem safe_continue {next : Except ε α → DurableProgram σ ε Request Reply β} {post : Except ε β → σ → η → Prop} :
    Safe step invariant allowed post (program.continue_ next) state host ↔
      Safe step invariant allowed (fun result state host => Safe step invariant allowed post (next result) state host)
        program state host := by
  induction program generalizing state host with
  | pure | throw => rfl
  | read rest ih => exact ih state
  | write written rest ih => exact and_congr_right fun _ => ih
  | ask request rest ih =>
    refine and_congr_right fun _ => forall_congr' fun reply => forall_congr' fun host' => ?_
    exact imp_congr_right fun _ => and_congr_right fun _ => ih reply

variable {next : α → DurableProgram σ ε Request Reply β}

/-- A program goes on where another one has returned, and ends where that one throws. -/
theorem safe_bind {post : Except ε β → σ → η → Prop} : Safe step invariant allowed post (program >>= next) state host ↔
      Safe step invariant allowed (onResult (fun value => Safe step invariant allowed post (next value))
        (fun error => post (.error error))) program state host := by
  have hpost : (fun (result : Except ε α) => Safe step invariant allowed post (onResult next .throw result)) =
      onResult (fun value => Safe step invariant allowed post (next value)) (fun error => post (.error error)) := by
    funext result
    cases result with
    | ok | error => rfl
  rw [← hpost]
  exact safe_continue

variable {handler : ε → DurableProgram σ ε Request Reply α}

theorem safe_handle : Safe step invariant allowed post (program.handle handler) state host ↔
      Safe step invariant allowed (onResult (fun value => post (.ok value))
        (fun error => Safe step invariant allowed post (handler error))) program state host := by
  have hpost : (fun (result : Except ε α) => Safe step invariant allowed post (onResult .pure handler result)) =
      onResult (fun value => post (.ok value)) (fun error => Safe step invariant allowed post (handler error)) := by
    funext result
    cases result with
    | ok | error => rfl
  rw [← hpost]
  exact safe_continue

variable {post' : Except ε α → σ → η → Prop}

theorem Safe.mono (h : Safe step invariant allowed post program state host)
    (hpost : ∀ result state host,post result state host → post' result state host) :
    Safe step invariant allowed post' program state host := by
  induction program generalizing state host with
  | pure | throw => exact hpost _ _ _ h
  | read next ih => exact ih state h
  | write written next ih => exact ⟨h.1,ih h.2⟩
  | ask request next ih =>
    refine ⟨h.1,fun reply host' hstep => ?_⟩
    obtain ⟨hinvariant,hsafe⟩ := h.2 reply host' hstep
    exact ⟨hinvariant,ih reply hsafe⟩

/-- What holds after every step holds at the end. -/
theorem Safe.keep (h : Safe step invariant allowed post program state host) (hinvariant : invariant state host) :
    Safe step invariant allowed (fun result state host => post result state host ∧ invariant state host)
      program state host := by
  induction program generalizing state host with
  | pure | throw => exact ⟨h,hinvariant⟩
  | read next ih => exact ih state h hinvariant
  | write written next ih => exact ⟨h.1,ih h.2 h.1⟩
  | ask request next ih =>
    refine ⟨h.1,fun reply host' hstep => ?_⟩
    obtain ⟨hinvariant',hsafe⟩ := h.2 reply host' hstep
    exact ⟨hinvariant',ih reply hsafe hinvariant'⟩

theorem Safe.bind {post' : Except ε β → σ → η → Prop} (h : Safe step invariant allowed post program state host)
    (hok : ∀ value state host,post (.ok value) state host → Safe step invariant allowed post' (next value) state host)
    (herror : ∀ error state host,post (.error error) state host → post' (.error error) state host) :
    Safe step invariant allowed post' (program >>= next) state host := by
  refine safe_bind.mpr (h.mono fun result state host hpost => ?_)
  cases result with
  | ok value => exact hok value state host hpost
  | error error => exact herror error state host hpost

theorem Safe.handle (post : Except ε α → σ → η → Prop) (h : Safe step invariant allowed post program state host)
    (hok : ∀ value state host,post (.ok value) state host → post' (.ok value) state host)
    (herror : ∀ error state host,post (.error error) state host →
      Safe step invariant allowed post' (handler error) state host)
    : Safe step invariant allowed post' (program.handle handler) state host := by
  refine safe_handle.mpr (h.mono fun result state host hpost => ?_)
  cases result with
  | ok value => exact hok value state host hpost
  | error error => exact herror error state host hpost

theorem safe_ofExcept {result : Except ε α} :
    Safe step invariant allowed post (ofExcept result) state host ↔ post result state host := by
  cases result with
  | ok | error => rfl

/-- A request changes nothing but the environment. -/
theorem safe_perform {request : Request} {post : Except ε (Reply request) → σ → η → Prop} :
    Safe step invariant allowed post (perform request) state host ↔
      allowed request state host ∧ ∀ reply host', step host request reply host' →
        invariant state host' ∧ post reply state host' := by
  refine and_congr_right fun _ => forall_congr' fun reply => forall_congr' fun host' => ?_
  exact imp_congr_right fun _ => and_congr_right fun _ => safe_ofExcept

theorem run_of_safe
    (h : Safe (fun host request reply host' => (reply,host') = answer host request) invariant allowed post program state
      host) :
    post (run answer program state host).1 (run answer program state host).2.1 (run answer program state host).2.2 := by
  induction program generalizing state host with
  | pure | throw => exact h
  | read next ih => exact ih state h
  | write written next ih => exact ih h.2
  | ask request next ih => exact ih _ (h.2 _ _ rfl).2

end

end DurableProgram

end Malink
