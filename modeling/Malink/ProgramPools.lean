import Malink.ConcurrentPrograms

/-!
# Pools of programs

Programs without a state of their own run side by side over one host, and none is running after a restart.
-/

namespace Malink.DurableProgram

variable {ε Request : Type} {Reply : Request → Type} {α η : Type}

/-- A program that has ended stays with its result. -/
structure Pool (ε Request : Type) (Reply : Request → Type) (α η : Type) where
  host : η
  running : List (DurableProgram Unit ε Request Reply α)

section

variable (step : η → (request : Request) → Except ε (Reply request) → η → Prop)
  (startable : DurableProgram Unit ε Request Reply α → Prop)

inductive PoolStep : Pool ε Request Reply α η → Pool ε Request Reply α η → Prop
  | start (host : η) (running : List (DurableProgram Unit ε Request Reply α))
    (program : DurableProgram Unit ε Request Reply α) (hstart : startable program) :
    PoolStep ⟨host,running⟩ ⟨host,(program.advance ()).1 :: running⟩
  | answer (host host' : η) (before after : List (DurableProgram Unit ε Request Reply α)) (request : Request)
    (next : Except ε (Reply request) → DurableProgram Unit ε Request Reply α) (reply : Except ε (Reply request))
    (hstep : step host request reply host') :
    PoolStep ⟨host,before ++ .ask request next :: after⟩ ⟨host',before ++ ((next reply).advance ()).1 :: after⟩
  | restart (host : η) (running : List (DurableProgram Unit ε Request Reply α)) :
    PoolStep ⟨host,running⟩ ⟨host,[]⟩

end

/-- A host that keeps an invariant and only evolves, as long as the requests are allowed. -/
structure Evolution (step : η → (request : Request) → Except ε (Reply request) → η → Prop) where
  invariant : η → Prop
  evolves : η → η → Prop
  allowed : Request → η → Prop
  refl : ∀ host, evolves host host
  trans : ∀ {first second third}, evolves first second → evolves second third → evolves first third
  keeps : ∀ {host request reply host'}, invariant host → allowed request host → step host request reply host' →
    invariant host' ∧ evolves host host'

namespace Evolution

variable {step : η → (request : Request) → Except ε (Reply request) → η → Prop} (evolution : Evolution step)
  {post : Except ε α → η → Prop} {program : DurableProgram Unit ε Request Reply α} {host host' : η}

/-- Whatever the others do, the program makes allowed requests only. -/
def Respects (post : Except ε α → η → Prop) (program : DurableProgram Unit ε Request Reply α) (host : η) : Prop :=
  Guarded step (fun first second => evolution.evolves first.2 second.2 ∧ evolution.invariant second.2)
    (fun _ _ => True) (fun request _ host => evolution.allowed request host) (fun result _ host => post result host)
    program () host

variable {evolution}

theorem Respects.bind {β : Type} {next : α → DurableProgram Unit ε Request Reply β} {post' : Except ε β → η → Prop}
    (h : evolution.Respects post program host)
    (hok : ∀ value host,post (.ok value) host → evolution.Respects post' (next value) host)
    (herror : ∀ error host,post (.error error) host → post' (.error error) host) :
    evolution.Respects post' (program >>= next) host :=
  Guarded.bind h (fun value _ host => hok value host) (fun error _ host => herror error host)

section

variable (hstable : ∀ result host host',post result host → evolution.evolves host host' → post result host')
include hstable

/-- While a program waits or has ended, the others do not hurt it. -/
theorem Respects.wait (hended : (program.advance ()).1 = program) (h : evolution.Respects post program host)
    (hinvariant : evolution.invariant host') (hevolves : evolution.evolves host host') :
    evolution.Respects post program host' :=
  Guarded.stay (fun _ _ _ hfirst hsecond => ⟨evolution.trans hfirst.1 hsecond.1,hsecond.2⟩)
    (fun _ hpost => hstable _ _ _ hpost hevolves) hended h ⟨hevolves,hinvariant⟩

variable {startable : DurableProgram Unit ε Request Reply α → Prop}

/-- What holds of a pool after every run. -/
structure Sound (evolution : Evolution step) (post : Except ε α → η → Prop) (pool : Pool ε Request Reply α η) :
    Prop where
  invariant : evolution.invariant pool.host
  waiting : ∀ program ∈ pool.running, (program.advance ()).1 = program
  respects : ∀ program ∈ pool.running, evolution.Respects post program pool.host

variable {pool pool' : Pool ε Request Reply α η}

theorem Sound.next (h : Sound evolution post pool)
    (hstart : ∀ program host,startable program → evolution.invariant host → evolution.Respects post program host)
    (hstep : PoolStep step startable pool pool') :
    Sound evolution post pool' ∧ evolution.evolves pool.host pool'.host := by
  cases hstep with
  | start host running program hstartable =>
    have hrespects := (hstart program host hstartable h.invariant).advance.2
    refine ⟨⟨h.invariant,?_,?_⟩,evolution.refl host⟩
    · exact List.forall_mem_cons.mpr ⟨advance_advance program () (),h.waiting⟩
    · exact List.forall_mem_cons.mpr ⟨hrespects,h.respects⟩
  | restart host running => exact ⟨⟨h.invariant,List.forall_mem_nil _,List.forall_mem_nil _⟩,evolution.refl host⟩
  | answer host host' before after request next reply hreply =>
    have hasked := h.respects _ (List.mem_append_right _ List.mem_cons_self)
    obtain ⟨hallowed,hnext⟩ := hasked () host ⟨evolution.refl host,h.invariant⟩
    obtain ⟨hinvariant,hevolves⟩ := evolution.keeps h.invariant hallowed hreply
    have hrest := (hnext reply host' hreply).2.advance.2
    have hothers : ∀ program ∈ before ++ after,evolution.Respects post program host' := by
      intro program hprogram
      have hmem : program ∈ before ++ .ask request next :: after :=
        List.mem_append.mpr ((List.mem_append.mp hprogram).imp_right (List.mem_cons_of_mem _))
      exact (h.respects program hmem).wait hstable (h.waiting program hmem) hinvariant hevolves
    refine ⟨⟨hinvariant,?_,?_⟩,hevolves⟩
    · intro program hprogram
      rcases List.mem_append.mp hprogram with hbefore | hlater
      · exact h.waiting program (List.mem_append_left _ hbefore)
      · rcases List.mem_cons.mp hlater with rfl | hafter
        · exact advance_advance (next reply) () ()
        · exact h.waiting program (List.mem_append_right _ (List.mem_cons_of_mem _ hafter))
    · intro program hprogram
      rcases List.mem_append.mp hprogram with hbefore | hlater
      · exact hothers program (List.mem_append_left _ hbefore)
      · rcases List.mem_cons.mp hlater with rfl | hafter
        · exact hrest
        · exact hothers program (List.mem_append_right _ hafter)

theorem Sound.run (h : Sound evolution post pool)
    (hstart : ∀ program host,startable program → evolution.invariant host → evolution.Respects post program host)
    (hsteps : Relation.ReflTransGen (PoolStep step startable) pool pool') :
    Sound evolution post pool' ∧ evolution.evolves pool.host pool'.host := by
  induction hsteps with
  | refl => exact ⟨h,evolution.refl _⟩
  | tail _ hlast ih =>
    obtain ⟨hsound,hevolves⟩ := ih.1.next hstable hstart hlast
    exact ⟨hsound,evolution.trans ih.2 hevolves⟩

end

end Evolution

end Malink.DurableProgram
