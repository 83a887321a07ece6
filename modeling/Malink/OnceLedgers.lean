import Mathlib.Data.Nat.Notation
import Mathlib.Tactic.ByContra

/-!
# At most one start for each key

A ledger counts for every key the starts that are pending and those that were made. A key is admitted only while it is
unspent and has no pending start, and spent before it starts. No key is then started twice.
-/

namespace Malink

universe u

structure OnceLedger (κ : Type u) where
  spent : κ → Prop
  pending : κ → ℕ
  begun : κ → ℕ

namespace OnceLedger

variable {κ : Type u}

/-- What one step may do to a key: drop pending starts, enqueue a fresh one, or turn one into a start. -/
inductive Change (l l' : OnceLedger κ) (k : κ) : Prop
  | keep (begun : l'.begun k = l.begun k) (pending : l'.pending k ≤ l.pending k)
  | enqueue (unspent : ¬ l.spent k) (free : l.pending k = 0) (begun : l'.begun k = l.begun k)
      (pending : l'.pending k ≤ 1)
  | start (spent : l'.spent k) (begun : l'.begun k = l.begun k + 1) (pending : l'.pending k < l.pending k)

structure Sound (l : OnceLedger κ) (k : κ) : Prop where
  once : l.pending k + l.begun k ≤ 1
  spent : 0 < l.begun k → l.spent k

theorem Sound.begun_le_one {l : OnceLedger κ} {k : κ} (h : l.Sound k) : l.begun k ≤ 1 := by
  have := h.once
  omega

theorem Sound.step {l l' : OnceLedger κ} {k : κ} (h : l.Sound k) (hs : l.spent k → l'.spent k)
    (hc : Change l l' k) : l'.Sound k := by
  obtain ⟨once,spent⟩ := h
  cases hc with
  | keep hb hp =>
    refine ⟨by omega,fun hpos => ?_⟩
    rw [hb] at hpos
    exact hs (spent hpos)
  | enqueue hu hf hb hp =>
    have hzero : l.begun k = 0 := by
      by_contra hne
      exact hu (spent (Nat.pos_of_ne_zero hne))
    refine ⟨by omega,fun hpos => ?_⟩
    omega
  | start hspent hb hp => exact ⟨by omega,fun _ => hspent⟩

end OnceLedger

end Malink
