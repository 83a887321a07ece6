import Mathlib.Data.List.Basic
import Mathlib.Data.List.Induction
import Mathlib.Order.Lattice

/-!
# Choosing one element in a single pass

A loop keeps one element and replaces it whenever the next one is preferred. For a transitive and cotransitive
preference the result is preferred to all before it, and none after it to it.
-/

namespace Malink

open List
open Option (some)

universe u v w

/-- A preference `r a b`, read as "`b` replaces `a`". -/
structure Preference {α : Type u} (r : α → α → Prop) : Prop where
  trans : ∀ a b c, r a b → r b c → r a c
  cotrans : ∀ a b c, r a c → r a b ∨ r b c

variable {α : Type u} {β : Type v} {ι : Type w}

theorem preference_le [LinearOrder ι] (f : α → ι) : Preference (fun a b => f a ≤ f b) where
  trans _ _ _ h h' := h.trans h'
  cotrans a b _ h := (le_total (f a) (f b)).imp_right (fun h' => h'.trans h)

theorem preference_lt [LinearOrder ι] (f : α → ι) : Preference (fun a b => f a < f b) where
  trans _ _ _ h h' := h.trans h'
  cotrans a b _ h := (lt_or_ge (f a) (f b)).imp_right (fun h' => h'.trans_lt h)

def replaceBy (r : α → α → Prop) [DecidableRel r] (current : Option α) (a : α) : Option α :=
  match current with
  | none => some a
  | some b => if r b a then some a else some b

def preferred (r : α → α → Prop) [DecidableRel r] (xs : List α) : Option α := xs.foldl (replaceBy r) none

variable {r : α → α → Prop} [DecidableRel r]

theorem preferred_concat (xs : List α) (a : α) : preferred r (xs ++ [a]) = replaceBy r (preferred r xs) a := by
  simp [preferred,foldl_append]

@[simp] theorem preferred_nil : preferred r ([] : List α) = none := rfl

variable {xs : List α} {d : α}

theorem preferred_eq_none : preferred r xs = none ↔ xs = [] := by
  constructor
  · intro h
    rcases eq_nil_or_concat xs with rfl | ⟨ys,a,rfl⟩
    · rfl
    · rw [concat_eq_append,preferred_concat,replaceBy.eq_def] at h
      split at h
      · exact absurd h (by simp)
      · split at h <;> exact absurd h (by simp)
  · rintro rfl
    rfl

section

variable (hr : Preference r)
include hr

/-- The pass ends with `d` exactly when `d` replaces all before it and nothing after it replaces `d`. -/
theorem preferred_eq_some : preferred r xs = some d ↔
    ∃ pre post, xs = pre ++ d :: post ∧ (∀ a ∈ pre,r a d) ∧ ∀ a ∈ post, ¬ r d a := by
  constructor
  · intro h
    induction xs using List.reverseRecOn generalizing d with
    | nil => exact absurd h (by simp)
    | append_singleton xs a ih =>
      rw [preferred_concat,replaceBy.eq_def] at h
      split at h
      · next hnone =>
        obtain rfl := some.inj h
        exact ⟨[],[],by rw [preferred_eq_none.mp hnone],by simp,by simp⟩
      · next b hb =>
        obtain ⟨pre,post,rfl,hpre,hpost⟩ := ih hb
        split at h
        · next hba =>
          obtain rfl := some.inj h
          refine ⟨pre ++ b :: post,[],by simp,fun x hx => ?_,by simp⟩
          rcases mem_append.mp hx with hx | hx
          · exact hr.trans x b a (hpre x hx) hba
          · rcases mem_cons.mp hx with rfl | hx
            · exact hba
            · exact (hr.cotrans b x a hba).resolve_left (hpost x hx)
        · next hba =>
          obtain rfl := some.inj h
          refine ⟨pre,post ++ [a],by simp,hpre,fun x hx => ?_⟩
          rcases mem_append.mp hx with hx | hx
          · exact hpost x hx
          · rw [mem_singleton.mp hx]
            exact hba
  · rintro ⟨pre,post,rfl,hpre,hpost⟩
    have hfront : preferred r (pre ++ [d]) = some d := by
      rw [preferred_concat,replaceBy.eq_def]
      split
      · rfl
      · next b hb =>
        have hmem : b ∈ pre := by
          clear hpre
          induction pre using List.reverseRecOn generalizing b with
          | nil => exact absurd hb (by simp)
          | append_singleton ys y ih =>
            rw [preferred_concat,replaceBy.eq_def] at hb
            split at hb
            · rw [← some.inj hb]
              simp
            · next c hc =>
              split at hb
              · rw [← some.inj hb]
                simp
              · rw [← some.inj hb]
                exact mem_append_left _ (ih c hc)
        rw [if_pos (hpre b hmem)]
    induction post using List.reverseRecOn with
    | nil => exact hfront
    | append_singleton ys y ih =>
      have hcons : pre ++ d :: (ys ++ [y]) = (pre ++ d :: ys) ++ [y] := by simp
      rw [hcons,preferred_concat,ih (fun a ha => hpost a (mem_append_left _ ha))]
      exact if_neg (hpost y (by simp))

/-- The same over the elements that a partial function selects. -/
theorem preferred_filterMap_eq_some {g : β → Option α} {xs : List β} :
    preferred r (xs.filterMap g) = some d ↔ ∃ pre x post, xs = pre ++ x :: post ∧ g x = some d ∧
      (∀ y ∈ pre,∀ a,g y = some a → r a d) ∧ ∀ y ∈ post, ∀ a, g y = some a → ¬ r d a := by
  rw [preferred_eq_some hr]
  constructor
  · rintro ⟨pre,post,heq,hpre,hpost⟩
    obtain ⟨ys,zs,rfl,rfl,hzs⟩ := filterMap_eq_append_iff.mp heq
    obtain ⟨us,x,vs,rfl,hus,hx,rfl⟩ := filterMap_eq_cons_iff.mp hzs
    refine ⟨ys ++ us,x,vs,by simp,hx,fun y hy a ha => ?_,fun y hy a ha => ?_⟩
    · rcases mem_append.mp hy with hy | hy
      · exact hpre a (mem_filterMap.mpr ⟨y,hy,ha⟩)
      · exact absurd ha (by simp [hus y hy])
    · exact hpost a (mem_filterMap.mpr ⟨y,hy,ha⟩)
  · rintro ⟨pre,x,post,rfl,hx,hpre,hpost⟩
    refine ⟨pre.filterMap g,post.filterMap g,by simp [hx],fun a ha => ?_,fun a ha => ?_⟩
    · obtain ⟨y,hy,hg⟩ := mem_filterMap.mp ha
      exact hpre y hy a hg
    · obtain ⟨y,hy,hg⟩ := mem_filterMap.mp ha
      exact hpost y hy a hg

theorem mem_of_preferred (h : preferred r xs = some d) : d ∈ xs := by
  obtain ⟨pre,post,rfl,-,-⟩ := (preferred_eq_some hr).mp h
  simp

/-- Dropping other elements does not change the choice. -/
theorem preferred_filter (h : preferred r xs = some d)
    {p : α → Bool} (hp : p d) : preferred r (xs.filter p) = some d := by
  obtain ⟨pre,post,rfl,hpre,hpost⟩ := (preferred_eq_some hr).mp h
  refine (preferred_eq_some hr).mpr ⟨pre.filter p,post.filter p,?_,fun a ha => ?_,fun a ha => ?_⟩
  · simp [hp]
  · exact hpre a (mem_filter.mp ha).1
  · exact hpost a (mem_filter.mp ha).1

/-- A choice from the front part is not replaced by an element of the back part. -/
theorem preferred_append_front {ys : List α} {e : α}
    (h : preferred r (xs ++ ys) = some d) (hd : d ∉ ys) (he : e ∈ ys) : ¬ r d e := by
  obtain ⟨pre,post,heq,-,hpost⟩ := (preferred_eq_some hr).mp h
  rcases append_eq_append_iff.mp heq with ⟨zs,-,hys⟩ | ⟨zs,hxs,hpost'⟩
  · exact absurd (hys ▸ by simp) hd
  · cases zs with
    | nil =>
      rw [nil_append] at hpost'
      exact absurd (hpost' ▸ by simp) hd
    | cons z zs =>
      rw [cons_append,cons.injEq] at hpost'
      exact hpost e (hpost'.2 ▸ mem_append_right _ he)

/-- A choice from the back part replaces every element of the front part. -/
theorem preferred_append_back {ys : List α} {e : α}
    (h : preferred r (xs ++ ys) = some d) (hd : d ∉ xs) (he : e ∈ xs) : r e d := by
  obtain ⟨pre,post,heq,hpre,-⟩ := (preferred_eq_some hr).mp h
  rcases append_eq_append_iff.mp heq with ⟨zs,hpre',-⟩ | ⟨zs,hxs,hpost'⟩
  · exact hpre e (hpre' ▸ mem_append_left _ he)
  · cases zs with
    | nil =>
      rw [append_nil] at hxs
      exact hpre e (hxs ▸ he)
    | cons z zs =>
      rw [cons_append,cons.injEq] at hpost'
      exact absurd (hxs ▸ hpost'.1 ▸ by simp) hd

end

end Malink
