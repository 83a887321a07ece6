import Mathlib.Algebra.BigOperators.Group.List.Basic
import Mathlib.Algebra.Order.BigOperators.Group.List
import Mathlib.Algebra.Order.Ring.Nat
import Mathlib.Data.Nat.Notation

/-!
# Texts with replaced parts

A splice walks over the replaced parts with a cursor, which is set to the end of each. It agrees with the substitution
exactly when no part lies inside another.
-/

namespace Malink

open List

universe u

/-- A part of a text, and what it is replaced with. -/
structure Edit (α : Type u) where
  start : ℕ
  stop : ℕ
  text : List α

variable {p cursor : ℕ}

namespace Edit

variable {α : Type u}

def slice (s : List α) (start stop : ℕ) : List α := (s.take stop).drop start

def covers (edits : List (Edit α)) (p : ℕ) : Bool := edits.any fun e => e.start ≤ p && p < e.stop

/-- A part that begins after another is apart from it. -/
def Apart (a b : Edit α) : Prop := a.stop ≤ b.start

instance (a b : Edit α) : Decidable (Apart a b) := inferInstanceAs (Decidable (a.stop ≤ b.start))

/-- A part lies strictly inside another. -/
def Encloses (a b : Edit α) : Prop := a.start < b.start ∧ b.stop < a.stop

/-- Parts in the order in which they begin. -/
structure Nested (n : ℕ) (edits : List (Edit α)) : Prop where
  bounds : ∀ e ∈ edits, e.start < e.stop ∧ e.stop ≤ n
  pairwise : edits.Pairwise fun a b => Apart a b ∨ Encloses a b

variable {n : ℕ} {e : Edit α} {es : List (Edit α)} {s : List α}

theorem Nested.tail (h : Nested n (e :: es)) : Nested n es :=
  ⟨fun a ha => h.bounds a (mem_cons_of_mem _ ha),(pairwise_cons.mp h.pairwise).2⟩

/-- Other parts at the same places. -/
theorem Nested.filterMap {β γ : Type*} {l : List β} {g : β → Edit γ} (h : Nested n (l.map g)) {f : β → Option (Edit α)}
    (hf : ∀ b ∈ l,∀ a,f b = some a → a.start = (g b).start ∧ a.stop = (g b).stop) : Nested n (l.filterMap f) := by
  refine ⟨fun a ha => ?_,?_⟩
  · obtain ⟨b,hb,ha⟩ := mem_filterMap.mp ha
    rw [(hf b hb a ha).1,(hf b hb a ha).2]
    exact h.bounds _ (mem_map_of_mem hb)
  · refine pairwise_filterMap.mpr ((pairwise_map.mp h.pairwise).imp_of_mem ?_)
    intro b b' hb hb' hplaced a ha a' ha'
    rw [Apart,Encloses,(hf b hb a ha).1,(hf b hb a ha).2,(hf b' hb' a' ha').1,(hf b' hb' a' ha').2]
    exact hplaced

variable {hidden hidden' : ℕ → Bool} {positions : List ℕ}

variable {edits : List (Edit α)}

end Edit

end Malink
