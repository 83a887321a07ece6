import Malink.DurablePrograms
import Mathlib.Logic.Relation

/-!
# Programs that run side by side

A program waits at each of its requests. While it waits, the others do what it relies on; what it does between two
requests is one step, which it guarantees to them.
-/

namespace Malink.DurableProgram

variable {σ σ' ε Request Other : Type} {Reply : Request → Type} {OtherReply : Other → Type} {α β η : Type}

/-- Up to the next request. -/
def advance : DurableProgram σ ε Request Reply α → σ → DurableProgram σ ε Request Reply α × σ
  | .pure value, state => (.pure value,state)
  | .throw error, state => (.throw error,state)
  | .read next, state => advance (next state) state
  | .write written next, _ => advance next written
  | .ask request next, state => (.ask request next,state)

/-- A program that has gone on to its next request waits there, or has ended. -/
theorem advance_cases (program : DurableProgram σ ε Request Reply α) (state : σ) :
    (∃ value,(program.advance state).1 = .pure value) ∨ (∃ error,(program.advance state).1 = .throw error) ∨
      ∃ request rest, (program.advance state).1 = .ask request rest := by
  induction program generalizing state with
  | pure value => exact .inl ⟨value,rfl⟩
  | throw error => exact .inr (.inl ⟨error,rfl⟩)
  | read next ih => exact ih state state
  | write written next ih => exact ih written
  | ask request next => exact .inr (.inr ⟨request,next,rfl⟩)

theorem advance_advance (program : DurableProgram σ ε Request Reply α) (state state' : σ) :
    ((program.advance state).1.advance state').1 = (program.advance state).1 := by
  rcases advance_cases program state with ⟨_,hpure⟩ | ⟨_,hthrow⟩ | ⟨_,_,hask⟩
  · rw [hpure]
    rfl
  · rw [hthrow]
    rfl
  · rw [hask]
    rfl

/-- A program over a part of the state, in an environment that answers other requests as well. -/
def embed (get : σ' → σ) (put : σ → σ' → σ') :
    DurableProgram σ ε Request Reply α → DurableProgram σ' ε (Request ⊕ Other) (Sum.elim Reply OtherReply) α
  | .pure value => .pure value
  | .throw error => .throw error
  | .read next => .read fun state => embed get put (next (get state))
  | .write written next => .read fun state => .write (put written state) (embed get put next)
  | .ask request next => .ask (.inl request) fun reply => embed get put (next reply)

/-- What holds of a program whatever the environment answers, and whatever the others do that it relies on. -/
def Guarded (step : η → (request : Request) → Except ε (Reply request) → η → Prop)
    (rely guarantee : σ × η → σ × η → Prop) (allowed : Request → σ → η → Prop) (post : Except ε α → σ → η → Prop) :
    DurableProgram σ ε Request Reply α → σ → η → Prop
  | .pure value, state, host => post (.ok value) state host
  | .throw error, state, host => post (.error error) state host
  | .read next, state, host => Guarded step rely guarantee allowed post (next state) state host
  | .write written next, state, host =>
    guarantee (state,host) (written,host) ∧ Guarded step rely guarantee allowed post next written host
  | .ask request next, state, host => ∀ state' host', rely (state,host) (state',host') →
      allowed request state' host' ∧ ∀ reply host'', step host' request reply host'' →
        guarantee (state',host') (state',host'') ∧ Guarded step rely guarantee allowed post (next reply) state' host''

variable {request : Request} {next : Except ε α → DurableProgram σ ε Request Reply β}
  {handler : ε → DurableProgram σ ε Request Reply α}

section

variable {step : η → (request : Request) → Except ε (Reply request) → η → Prop}
  {rely guarantee : σ × η → σ × η → Prop} {allowed : Request → σ → η → Prop} {post : Except ε α → σ → η → Prop}
  {state state' : σ} {host host' : η} {program : DurableProgram σ ε Request Reply α}

/-- While a program waits, nothing that it relies on hurts it. -/
theorem Guarded.wait {next : Except ε (Reply request) → DurableProgram σ ε Request Reply α}
    (htrans : ∀ first second third,rely first second → rely second third → rely first third)
    (h : Guarded step rely guarantee allowed post (.ask request next) state host)
    (hrely : rely (state,host) (state',host')) :
    Guarded step rely guarantee allowed post (.ask request next) state' host' :=
  fun state'' host'' hmore => h state'' host'' (htrans _ _ _ hrely hmore)

theorem Guarded.stay (htrans : ∀ first second third,rely first second → rely second third → rely first third)
    (hstable : ∀ result,post result state host → post result state' host')
    (hended : (program.advance state).1 = program) (h : Guarded step rely guarantee allowed post program state host)
    (hrely : rely (state,host) (state',host')) : Guarded step rely guarantee allowed post program state' host' := by
  rcases advance_cases program state with ⟨_,hpure⟩ | ⟨_,hthrow⟩ | ⟨_,_,hask⟩
  · obtain rfl := hended.symm.trans hpure
    exact hstable _ h
  · obtain rfl := hended.symm.trans hthrow
    exact hstable _ h
  · obtain rfl := hended.symm.trans hask
    exact h.wait htrans hrely

theorem Guarded.advance (h : Guarded step rely guarantee allowed post program state host) :
    Relation.ReflTransGen guarantee (state,host) ((program.advance state).2,host) ∧
      Guarded step rely guarantee allowed post (program.advance state).1 (program.advance state).2 host := by
  induction program generalizing state with
  | pure | throw | ask => exact ⟨.refl,h⟩
  | read next ih => exact ih state h
  | write written next ih =>
    obtain ⟨hmoves,hnext⟩ := ih h.2
    exact ⟨.head h.1 hmoves,hnext⟩

theorem guarded_continue {post : Except ε β → σ → η → Prop} :
    Guarded step rely guarantee allowed post (program.continue_ next) state host ↔
      Guarded step rely guarantee allowed
        (fun result state host => Guarded step rely guarantee allowed post (next result) state host) program state
        host := by
  induction program generalizing state host with
  | pure | throw => rfl
  | read rest ih => exact ih state
  | write written rest ih => exact and_congr_right fun _ => ih
  | ask request rest ih =>
    refine forall_congr' fun state' => forall_congr' fun host' => imp_congr_right fun _ => and_congr_right fun _ => ?_
    refine forall_congr' fun reply => forall_congr' fun host'' => imp_congr_right fun _ => and_congr_right fun _ => ?_
    exact ih reply

variable {post' : Except ε α → σ → η → Prop}

theorem Guarded.mono (h : Guarded step rely guarantee allowed post program state host)
    (hpost : ∀ result state host,post result state host → post' result state host) :
    Guarded step rely guarantee allowed post' program state host := by
  induction program generalizing state host with
  | pure | throw => exact hpost _ _ _ h
  | read next ih => exact ih state h
  | write written next ih => exact ⟨h.1,ih h.2⟩
  | ask request next ih =>
    intro state' host' hrely
    obtain ⟨hallowed,hnext⟩ := h state' host' hrely
    refine ⟨hallowed,fun reply host'' hstep => ?_⟩
    obtain ⟨hguarantee,hrest⟩ := hnext reply host'' hstep
    exact ⟨hguarantee,ih reply hrest⟩

theorem Guarded.bind {next : α → DurableProgram σ ε Request Reply β} {post' : Except ε β → σ → η → Prop}
    (h : Guarded step rely guarantee allowed post program state host)
    (hok : ∀ value state host,post (.ok value) state host →
      Guarded step rely guarantee allowed post' (next value) state host)
    (herror : ∀ error state host,post (.error error) state host → post' (.error error) state host) :
    Guarded step rely guarantee allowed post' (program >>= next) state host := by
  refine guarded_continue.mpr (h.mono fun result state host hpost => ?_)
  cases result with
  | ok value => exact hok value state host hpost
  | error error => exact herror error state host hpost

theorem Guarded.handle (post : Except ε α → σ → η → Prop)
    (h : Guarded step rely guarantee allowed post program state host)
    (hok : ∀ value state host,post (.ok value) state host → post' (.ok value) state host)
    (herror : ∀ error state host,post (.error error) state host →
      Guarded step rely guarantee allowed post' (handler error) state host)
    : Guarded step rely guarantee allowed post' (program.handle handler) state host := by
  refine guarded_continue.mpr (h.mono fun result state host hpost => ?_)
  cases result with
  | ok value => exact hok value state host hpost
  | error error => exact herror error state host hpost

theorem guarded_perform {post : Except ε (Reply request) → σ → η → Prop} :
    Guarded step rely guarantee allowed post (perform request) state host ↔
      ∀ state' host', rely (state,host) (state',host') → allowed request state' host' ∧
        ∀ reply host'', step host' request reply host'' →
          guarantee (state',host') (state',host'') ∧ post reply state' host'' := by
  refine forall_congr' fun state' => forall_congr' fun host' => imp_congr_right fun _ => and_congr_right fun _ => ?_
  refine forall_congr' fun reply => forall_congr' fun host'' => imp_congr_right fun _ => and_congr_right fun _ => ?_
  cases reply with
  | ok | error => rfl

theorem guarded_readState {next : σ → DurableProgram σ ε Request Reply α} :
    Guarded step rely guarantee allowed post (readState >>= next) state host ↔
      Guarded step rely guarantee allowed post (next state) state host :=
  Iff.rfl

end

section

variable (step : η → (request : Request) → Except ε (Reply request) → η → Prop)
  (rely guarantee : σ × η → σ × η → Prop) (allowed : Request → σ → η → Prop) (invariant : σ → η → Prop)

/-- From a moment at which the invariant holds, it holds at the end. -/
def Keeping (program : DurableProgram σ ε Request Reply α) : Prop :=
  ∀ state host, invariant state host →
    Guarded step rely guarantee allowed (fun _ state host => invariant state host) program state host

variable {step rely guarantee allowed invariant} {program : DurableProgram σ ε Request Reply α}

theorem keeping_continue (h : Keeping step rely guarantee allowed invariant program)
    (hnext : ∀ result,Keeping step rely guarantee allowed invariant (next result)) :
    Keeping step rely guarantee allowed invariant (program.continue_ next) :=
  fun state host hinvariant => guarded_continue.mpr ((h state host hinvariant).mono fun result state host =>
    hnext result state host)

theorem keeping_pure (value : α) :
    Keeping step rely guarantee allowed invariant (.pure value : DurableProgram σ ε Request Reply α) :=
  fun _ _ => id

theorem keeping_throw (error : ε) :
    Keeping step rely guarantee allowed invariant (.throw error : DurableProgram σ ε Request Reply α) :=
  fun _ _ => id

theorem keeping_bind {next : α → DurableProgram σ ε Request Reply β}
    (h : Keeping step rely guarantee allowed invariant program)
    (hnext : ∀ value,Keeping step rely guarantee allowed invariant (next value)) :
    Keeping step rely guarantee allowed invariant (program >>= next) := by
  refine keeping_continue h fun result => ?_
  cases result with
  | ok value => exact hnext value
  | error error => exact keeping_throw error

end

/-- What is left of a program after one answer. -/
def RestOf (later program : DurableProgram σ ε Request Reply α) : Prop :=
  ∃ request next reply state, program = .ask request next ∧ later = ((next reply).advance state).1

theorem restOf_wellFounded : WellFounded (RestOf : DurableProgram σ ε Request Reply α → _ → Prop) := by
  have hadvanced (program : DurableProgram σ ε Request Reply α) (state : σ) : Acc RestOf (program.advance state).1 := by
    induction program generalizing state with
    | pure | throw => exact ⟨_,fun _ ⟨_,_,_,_,heq,_⟩ => (by cases heq)⟩
    | read next ih => exact ih state state
    | write written next ih => exact ih written
    | ask request next ih =>
      refine ⟨_,?_⟩
      rintro _ ⟨_,_,reply,state',heq,rfl⟩
      cases heq
      exact ih reply state'
  refine ⟨fun program => ⟨_,?_⟩⟩
  rintro _ ⟨_,next,reply,state,-,rfl⟩
  exact hadvanced (next reply) state

/-- All requests that a program may make. -/
def AsksOnly (asked : Request → Prop) : DurableProgram σ ε Request Reply α → Prop
  | .pure _ | .throw _ => True
  | .read next => ∀ state, AsksOnly asked (next state)
  | .write _ next => AsksOnly asked next
  | .ask request next => asked request ∧ ∀ reply, AsksOnly asked (next reply)

section

variable {asked : Request → Prop} {program : DurableProgram σ ε Request Reply α}

theorem AsksOnly.advance (h : AsksOnly asked program) (state : σ) : AsksOnly asked (program.advance state).1 := by
  induction program generalizing state with
  | pure | throw | ask => exact h
  | read next ih => exact ih state (h state) state
  | write written next ih => exact ih h written

theorem AsksOnly.continue_ (h : AsksOnly asked program)
    (hnext : ∀ result,AsksOnly asked (next result)) : AsksOnly asked (program.continue_ next) := by
  induction program with
  | pure | throw => exact hnext _
  | read rest ih => exact fun state => ih state (h state)
  | write written rest ih => exact ih h
  | ask request rest ih => exact ⟨h.1,fun reply => ih reply (h.2 reply)⟩

theorem AsksOnly.bind {next : α → DurableProgram σ ε Request Reply β} (h : AsksOnly asked program)
    (hnext : ∀ value,AsksOnly asked (next value)) : AsksOnly asked (program >>= next) := by
  refine h.continue_ fun result => ?_
  cases result with
  | ok value => exact hnext value
  | error error => trivial

theorem AsksOnly.handle (h : AsksOnly asked program) (hhandler : ∀ error,AsksOnly asked (handler error)) :
    AsksOnly asked (program.handle handler) := by
  refine h.continue_ fun result => ?_
  cases result with
  | ok value => trivial
  | error error => exact hhandler error

theorem asksOnly_readState {next : σ → DurableProgram σ ε Request Reply α} :
    AsksOnly asked (readState >>= next) ↔ ∀ state, AsksOnly asked (next state) :=
  Iff.rfl

theorem asksOnly_perform (h : asked request) :
    AsksOnly asked (perform request : DurableProgram σ ε Request Reply (Reply request)) := by
  refine ⟨h,fun reply => ?_⟩
  cases reply with
  | ok | error => trivial

end

variable {get : σ' → σ} {put : σ → σ' → σ'}

theorem embed_continue (program : DurableProgram σ ε Request Reply α)
    (next : Except ε α → DurableProgram σ ε Request Reply β) : (embed get put (program.continue_ next) :
      DurableProgram σ' ε (Request ⊕ Other) (Sum.elim Reply OtherReply) β) =
        (embed get put program).continue_ fun result => embed get put (next result) := by
  induction program with
  | pure | throw => rfl
  | read rest ih => exact congrArg DurableProgram.read (funext fun state => ih (get state))
  | write written rest ih =>
    exact congrArg DurableProgram.read (funext fun state => congrArg (DurableProgram.write (put written state)) ih)
  | ask request rest ih => exact congrArg (DurableProgram.ask (.inl request)) (funext fun reply => ih reply)

theorem embed_bind (program : DurableProgram σ ε Request Reply α) (next : α → DurableProgram σ ε Request Reply β) :
    (embed get put (program >>= next) : DurableProgram σ' ε (Request ⊕ Other) (Sum.elim Reply OtherReply) β) =
      embed get put program >>= fun value => embed get put (next value) := by
  refine (embed_continue program _).trans (congrArg (continue_ · (embed get put program)) (funext fun result => ?_))
  cases result with
  | ok | error => rfl

theorem embed_handle (program : DurableProgram σ ε Request Reply α) (handler : ε → DurableProgram σ ε Request Reply α) :
    (embed get put (program.handle handler) : DurableProgram σ' ε (Request ⊕ Other) (Sum.elim Reply OtherReply) α) =
      (embed get put program).handle fun error => embed get put (handler error) := by
  refine (embed_continue program _).trans (congrArg (continue_ · (embed get put program)) (funext fun result => ?_))
  cases result with
  | ok | error => rfl

theorem embed_perform (request : Request) :
    (embed get put (perform request : DurableProgram σ ε Request Reply (Reply request)) :
      DurableProgram σ' ε (Request ⊕ Other) (Sum.elim Reply OtherReply) (Reply request)) =
        perform (Sum.inl request : Request ⊕ Other) := by
  refine congrArg (DurableProgram.ask (Sum.inl request : Request ⊕ Other)) (funext fun reply => ?_)
  cases reply with
  | ok | error => rfl

theorem asksOnly_embed {asked : Request ⊕ Other → Prop} (hasked : ∀ request,asked (.inl request))
    (program : DurableProgram σ ε Request Reply α) : AsksOnly asked
      (embed get put program : DurableProgram σ' ε (Request ⊕ Other) (Sum.elim Reply OtherReply) α) := by
  induction program with
  | pure | throw => trivial
  | read next ih => exact fun state => ih (get state)
  | write written next ih => exact fun _ => ih
  | ask request next ih => exact ⟨hasked request,ih⟩

end Malink.DurableProgram
