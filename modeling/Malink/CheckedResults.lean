import Mathlib.Data.List.Basic
import Mathlib.Data.List.Forall2

/-!
# Results that may be refused

A checked computation ends with an error or with a result. A sequence of checks is inverted one step
at a time, and a loop of checks passes when each of its steps does.
-/

namespace Malink

universe u v w

variable {ε : Type u} {α β : Type v} {x : Except ε α}

theorem bind_eq_ok {f : α → Except ε β} {b : β} : (x >>= f) = .ok b ↔ ∃ a, x = .ok a ∧ f a = .ok b := by
  cases x with
  | error e => exact ⟨fun h => (nomatch h),fun ⟨a,h,_⟩ => (nomatch h)⟩
  | ok a => exact ⟨fun h => ⟨a,rfl,h⟩,fun ⟨a',h,h'⟩ => by cases h; exact h'⟩

theorem ok_bind (a : α) (f : α → Except ε β) : ((.ok a : Except ε α) >>= f) = f a := rfl

theorem eq_ok_of_toOption_any {p : α → Bool} (h : x.toOption.any p) : ∃ a, x = .ok a ∧ p a := by
  cases x with
  | error e => cases h
  | ok a => exact ⟨a,rfl,h⟩

theorem forM_eq_ok {ι : Type w} {check : ι → Except ε PUnit.{v + 1}} {is : List ι} :
    is.forM check = .ok ⟨⟩ ↔ ∀ i ∈ is, check i = .ok ⟨⟩ := by
  induction is with
  | nil => exact ⟨fun _ _ h => (nomatch h),fun _ => rfl⟩
  | cons i is ih =>
    change (check i >>= fun _ => is.forM check) = _ ↔ _
    rw [bind_eq_ok]
    constructor
    · rintro ⟨⟨⟩,hi,his⟩ j hj
      rcases List.mem_cons.mp hj with rfl | hj
      · exact hi
      · exact ih.mp his j hj
    · intro h
      exact ⟨⟨⟩,h i (by simp),ih.mpr (fun j hj => h j (by simp [hj]))⟩

theorem exists_mem_of_forall₂ {α β : Type} {r : α → β → Prop} {as : List α} {bs : List β}
    (h : List.Forall₂ r as bs) : ∀ a ∈ as, ∃ b ∈ bs, r a b := by
  induction h with
  | nil => exact List.forall_mem_nil _
  | cons hab _ ih =>
    intro a ha
    rcases List.mem_cons.mp ha with rfl | ha
    · exact ⟨_,List.mem_cons_self,hab⟩
    · obtain ⟨b,hb,hr⟩ := ih a ha
      exact ⟨b,List.mem_cons_of_mem _ hb,hr⟩

/-- A check that stops the computation when its condition holds. -/
def refuseIf (c : Prop) [Decidable c] (e : ε) : Except ε PUnit.{v + 1} := if c then .error e else .ok ⟨⟩

theorem refuseIf_eq_ok {c : Prop} [Decidable c] {e : ε} {u : PUnit.{v + 1}} : refuseIf c e = .ok u ↔ ¬ c := by
  unfold refuseIf
  split
  · next h => simp [h]
  · next h => simp [h]

end Malink
