import Malink.ExecutionWriters

/-!
# The backup of an incompatible upgrade

A switch has a generation of its own. Its backup is taken before the target may write, and stays the one that the
state names.
-/

namespace Malink.Tracks

open DurableProgram

/-- The backups that were taken, newest first, with the switches they are for. -/
def backups : List Event → List (ℕ × JsString)
  | [] => []
  | .backedUp generation path :: earlier => (generation,path) :: backups earlier
  | .activated _ :: earlier | .released _ :: earlier => backups earlier

def activations : List Event → List JsString
  | [] => []
  | .activated releaseId :: earlier => releaseId :: activations earlier
  | .released _ :: earlier | .backedUp _ _ :: earlier => activations earlier

/-- Of two moments of one switch: whether it is an incompatible one does not change. As long as the target may not
write, the later moment has no activation of its own. Once the target may write, the later moment has no backup of its
own and names the same one. -/
structure KeepsBackup (moment later : GatewayExecutionTracksState × List Event) : Prop where
  generation : moment.1.generation ≤ later.1.generation
  forwardOnly : moment.1.generation = later.1.generation → later.1.forwardOnly = moment.1.forwardOnly
  before : moment.1.generation = later.1.generation → later.1.forwardOnly → later.1.targetWriteStarted = false →
    activations later.2 = activations moment.2
  after : moment.1.generation = later.1.generation → moment.1.targetWriteStarted →
    later.1.targetWriteStarted ∧ later.1.backupPath = moment.1.backupPath ∧ backups later.2 = backups moment.2

/-- The backup that the state names is the last one that was taken, and was taken for this switch. -/
def NamesLastBackup (moment : GatewayExecutionTracksState × List Event) : Prop :=
  ∀ path, moment.1.backupPath = some path → (backups moment.2).head? = some (moment.1.generation,path)

section

variable {initial state state' : GatewayExecutionTracksState} {log : List Event}
  {moment between later : GatewayExecutionTracksState × List Event}
  {selects : JsString → GatewayExecutionTracksState → List Event → Prop} {texts : JsString → Prop}

theorem KeepsBackup.refl (moment : GatewayExecutionTracksState × List Event) : KeepsBackup moment moment :=
  ⟨Nat.le_refl _,fun _ => rfl,fun _ _ _ => rfl,fun _ hstarted => ⟨hstarted,rfl,rfl⟩⟩

theorem KeepsBackup.trans (h : KeepsBackup moment between) (h' : KeepsBackup between later) :
    KeepsBackup moment later := by
  have hbetween (heq : moment.1.generation = later.1.generation) : moment.1.generation = between.1.generation := by
    have := h.generation
    have := h'.generation
    omega
  have hlater (heq : moment.1.generation = later.1.generation) : between.1.generation = later.1.generation :=
    (hbetween heq).symm.trans heq
  refine ⟨Nat.le_trans h.generation h'.generation,?_,?_,?_⟩
  · intro heq
    exact (h'.forwardOnly (hlater heq)).trans (h.forwardOnly (hbetween heq))
  · intro heq hforward hstarted
    have hnot : between.1.targetWriteStarted = false := by
      refine Bool.eq_false_iff.mpr fun htrue => ?_
      rw [(h'.after (hlater heq) htrue).1] at hstarted
      cases hstarted
    have hforward' := (h'.forwardOnly (hlater heq)).symm.trans hforward
    exact (h'.before (hlater heq) hforward hstarted).trans (h.before (hbetween heq) hforward' hnot)
  · intro heq hstarted
    obtain ⟨hstarted,hpath,hbackups⟩ := h.after (hbetween heq) hstarted
    obtain ⟨hstarted',hpath',hbackups'⟩ := h'.after (hlater heq) hstarted
    exact ⟨hstarted',hpath'.trans hpath,hbackups'.trans hbackups⟩

theorem head?_backups {generation : ℕ} {path : JsString} (h : log.head? = some (.backedUp generation path)) :
    (backups log).head? = some (generation,path) := by
  cases log with
  | nil => cases h
  | cons event earlier =>
    obtain rfl := Option.some.inj h
    rfl

theorem NamesLastBackup.move (h : NamesLastBackup moment) (hmove : Move initial selects texts moment later) :
    NamesLastBackup later := by
  intro path hpath
  cases hmove with
  | idle | release | activate => exact h path hpath
  | backUp _ _ hnone =>
    rw [hnone] at hpath
    cases hpath
  | write _ hchange =>
    cases hchange with
    | select => cases hpath
    | backup _ _ _ _ _ hlog =>
      obtain rfl := Option.some.inj hpath
      exact head?_backups hlog
    | finish =>
      refine h path ?_
      change (if _ then _ else none) = some path at hpath
      split at hpath
      · exact hpath
      · cases hpath
    | write | activate | startDefault | finishDefault | fail | standby => exact h path hpath

end

end Malink.Tracks
