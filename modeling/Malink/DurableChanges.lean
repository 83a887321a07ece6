import Malink.DurablePrograms
import Mathlib.Logic.Relation

/-!
# What programs over a durable state do step by step

A move leads from one moment, a durable state with its environment, to the next.
-/

namespace Malink.DurableProgram

variable {σ ε Request : Type} {Reply : Request → Type} {α β η : Type}

/-- Every step of the program is a move, whatever the environment answers. -/
def Moves (step : η → (request : Request) → Except ε (Reply request) → η → Prop) (move : σ × η → σ × η → Prop)
    (post : Except ε α → σ → η → Prop) : DurableProgram σ ε Request Reply α → σ → η → Prop
  | .pure value, state, host => post (.ok value) state host
  | .throw error, state, host => post (.error error) state host
  | .read next, state, host => Moves step move post (next state) state host
  | .write written next, state, host =>
    move (state,host) (written,host) ∧ Moves step move post next written host
  | .ask request next, state, host => ∀ reply host', step host request reply host' →
      move (state,host) (state,host') ∧ Moves step move post (next reply) state host'

theorem continue_assoc {γ : Type} (program : DurableProgram σ ε Request Reply α)
    (next : Except ε α → DurableProgram σ ε Request Reply β) (last : Except ε β → DurableProgram σ ε Request Reply γ) :
    (program.continue_ next).continue_ last = program.continue_ fun result => (next result).continue_ last := by
  induction program with
  | pure | throw => rfl
  | read rest ih => exact congrArg DurableProgram.read (funext fun state => ih state)
  | write written rest ih => exact congrArg (DurableProgram.write written) ih
  | ask request rest ih => exact congrArg (DurableProgram.ask request) (funext fun reply => ih reply)

theorem run_continue (answer : η → (request : Request) → Except ε (Reply request) × η)
    (program : DurableProgram σ ε Request Reply α) (next : Except ε α → DurableProgram σ ε Request Reply β) (state : σ)
    (host : η) :
    run answer (program.continue_ next) state host = run answer (next (run answer program state host).1)
      (run answer program state host).2.1 (run answer program state host).2.2 := by
  induction program generalizing state host with
  | pure | throw => rfl
  | read rest ih => exact ih state state host
  | write written rest ih => exact ih written host
  | ask request rest ih => exact ih _ state _

variable {next : Except ε α → DurableProgram σ ε Request Reply β} {post' : Except ε β → σ → η → Prop}
  {step' : η → (request : Request) → Except ε (Reply request) → η → Prop}

section

variable {step : η → (request : Request) → Except ε (Reply request) → η → Prop} {move : σ × η → σ × η → Prop}
  {post : Except ε α → σ → η → Prop} {state state' : σ} {host host' : η}
  {program program' : DurableProgram σ ε Request Reply α}

theorem Moves.steps (h : Moves step move post program state host)
    (hs : Steps step program state host program' state' host') :
    Relation.ReflTransGen move (state,host) (state',host') ∧ Moves step move post program' state' host' := by
  induction hs with
  | refl program state host => exact ⟨.refl,h⟩
  | read _ ih => exact ih h
  | write _ ih =>
    obtain ⟨hmoves,hnext⟩ := ih h.2
    exact ⟨.head h.1 hmoves,hnext⟩
  | ask hstep _ ih =>
    obtain ⟨hmove,hrest⟩ := h _ _ hstep
    obtain ⟨hmoves,hnext⟩ := ih hrest
    exact ⟨.head hmove hmoves,hnext⟩

theorem moves_continue {post : Except ε β → σ → η → Prop} :
    Moves step move post (program.continue_ next) state host ↔
      Moves step move (fun result state host => Moves step move post (next result) state host) program state host := by
  induction program generalizing state host with
  | pure | throw => rfl
  | read rest ih => exact ih state
  | write written rest ih => exact and_congr_right fun _ => ih
  | ask request rest ih =>
    refine forall_congr' fun reply => forall_congr' fun host' => ?_
    exact imp_congr_right fun _ => and_congr_right fun _ => ih reply

theorem Moves.mono {post' : Except ε α → σ → η → Prop} (h : Moves step move post program state host)
    (hpost : ∀ result state host,post result state host → post' result state host) :
    Moves step move post' program state host := by
  induction program generalizing state host with
  | pure | throw => exact hpost _ _ _ h
  | read next ih => exact ih state h
  | write written next ih => exact ⟨h.1,ih h.2⟩
  | ask request next ih =>
    intro reply host' hstep
    obtain ⟨hmove,hnext⟩ := h reply host' hstep
    exact ⟨hmove,ih reply hnext⟩

/-- A program goes on with the result of another one. -/
theorem Moves.continue_ (post : Except ε α → σ → η → Prop) (h : Moves step move post program state host)
    (hnext : ∀ result state host,post result state host → Moves step move post' (next result) state host) :
    Moves step move post' (program.continue_ next) state host :=
  moves_continue.mpr (h.mono hnext)

theorem Moves.bind (post : Except ε α → σ → η → Prop)
    {next : α → DurableProgram σ ε Request Reply β} (h : Moves step move post program state host)
    (hok : ∀ value state host,post (.ok value) state host → Moves step move post' (next value) state host)
    (herror : ∀ error state host,post (.error error) state host → post' (.error error) state host) :
    Moves step move post' (program >>= next) state host := by
  refine h.continue_ post fun result state host hpost => ?_
  cases result with
  | ok value => exact hok value state host hpost
  | error error => exact herror error state host hpost

theorem moves_ofExcept {result : Except ε α} :
    Moves step move post (ofExcept result) state host ↔ post result state host := by
  cases result with
  | ok | error => rfl

end

section

variable {ι : Type} (step : η → (request : Request) → Except ε (Reply request) → η → Prop)
  (program : ι → DurableProgram σ ε Request Reply Unit) (may : ι → σ → η → Prop)

/-- From one place in a run to a later one. A place is what is left of the call that runs, and a moment. -/
inductive Runs (start : DurableProgram σ ε Request Reply Unit × σ × η) :
    DurableProgram σ ε Request Reply Unit × σ × η → Prop
  | refl : Runs start start
  | steps {rest rest' : DurableProgram σ ε Request Reply Unit} {state state' : σ} {host host' : η}
    (h : Runs start (rest,state,host)) (hsteps : Steps step rest state host rest' state' host') :
    Runs start (rest',state',host')
  | call {rest : DurableProgram σ ε Request Reply Unit} {state : σ} {host : η} (h : Runs start (rest,state,host))
    (call : ι) (hmay : may call state host) : Runs start (program call,state,host)

variable {step program may} {move : σ × η → σ × η → Prop} {ready : σ × η → Prop}
  {start place later : DurableProgram σ ε Request Reply Unit × σ × η}

theorem Steps.mono (hstep : ∀ host request reply host',step host request reply host' → step' host request reply host')
    {rest rest' : DurableProgram σ ε Request Reply α} {state state' : σ} {host host' : η}
    (h : Steps step rest state host rest' state' host') : Steps step' rest state host rest' state' host' := by
  induction h with
  | refl => exact .refl _ _ _
  | read _ ih => exact .read ih
  | write _ ih => exact .write ih
  | ask hasked _ ih => exact .ask (hstep _ _ _ _ hasked) ih

theorem Runs.mono (hstep : ∀ host request reply host',step host request reply host' → step' host request reply host')
    (h : Runs step program may start place) : Runs step' program may start place := by
  induction h with
  | refl => exact .refl
  | steps _ hsteps ih => exact .steps ih (hsteps.mono hstep)
  | call _ call hmay ih => exact .call ih call hmay

/-- A call that is not cut off, in an environment that answers in one way. -/
theorem Runs.run {answer : η → (request : Request) → Except ε (Reply request) × η} {state : σ} {host : η}
    {rest : DurableProgram σ ε Request Reply Unit}
    (hanswer : ∀ host request,step host request (answer host request).1 (answer host request).2)
    (h : Runs step program may start (rest,state,host)) (call : ι) (hmay : may call state host) :
    Runs step program may start (ofExcept (DurableProgram.run answer (program call) state host).1,
      (DurableProgram.run answer (program call) state host).2) :=
  .steps (.call h call hmay) (steps_run hanswer _ _ _)

/-- What is left of the call makes moves only, and so does every call that starts at a ready moment. -/
structure Moving (step : η → (request : Request) → Except ε (Reply request) → η → Prop) (move : σ × η → σ × η → Prop)
    (ready : σ × η → Prop) (place : DurableProgram σ ε Request Reply Unit × σ × η) : Prop where
  rest : Moves step move (fun _ _ _ => True) place.1 place.2.1 place.2.2
  ready : ready place.2

theorem ready_of_moves {moment moment' : σ × η}
    (hready : ∀ moment moment',ready moment → move moment moment' → ready moment')
    (hmoves : Relation.ReflTransGen move moment moment') (h : ready moment) : ready moment' := by
  induction hmoves with
  | refl => exact h
  | tail _ hmove ih => exact hready _ _ ih hmove

theorem Moving.runs (h : Moving step move ready start)
    (hcalls : ∀ call state host,ready (state,host) → may call state host →
      Moves step move (fun _ _ _ => True) (program call) state host)
    (hready : ∀ moment moment',ready moment → move moment moment' → ready moment')
    (hruns : Runs step program may start place) :
    Relation.ReflTransGen move start.2 place.2 ∧ Moving step move ready place := by
  induction hruns with
  | refl => exact ⟨.refl,h⟩
  | steps _ hsteps ih =>
    obtain ⟨hmoves,hmoving⟩ := ih
    obtain ⟨hmore,hrest⟩ := hmoving.rest.steps hsteps
    exact ⟨hmoves.trans hmore,hrest,ready_of_moves hready hmore hmoving.ready⟩
  | call _ call hmay ih =>
    obtain ⟨hmoves,hmoving⟩ := ih
    exact ⟨hmoves,hcalls call _ _ hmoving.ready hmay,hmoving.ready⟩

end

end Malink.DurableProgram
