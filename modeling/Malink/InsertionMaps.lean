import Mathlib.Data.List.Nodup
import Mathlib.Data.List.Basic
import Mathlib.Data.List.Pairwise
import Mathlib.Data.List.Perm.Subperm
import Mathlib.Tactic.Ext

/-!
# Finite maps that remember insertion order

The map keeps its entries in the order in which the keys were first inserted.
-/

namespace Malink

open List
open Prod (fst snd)

universe u v

@[ext] structure InsertionMap (α : Type u) (β : Type v) where
  entries : List (α × β)
  nodup_keys : (entries.map fst).Nodup
  deriving DecidableEq

namespace InsertionMap

variable {α : Type u} {β : Type v} [DecidableEq α]

/-- Overwrite in place, or append at the end. -/
def setEntries (k : α) (v : β) : List (α × β) → List (α × β)
  | [] => [(k,v)]
  | e :: es => if e.1 = k then (k,v) :: es else e :: setEntries k v es

theorem map_fst_setEntries (k : α) (v : β) (es : List (α × β)) : (setEntries k v es).map fst =
      if k ∈ es.map fst then es.map fst else es.map fst ++ [k] := by
  induction es with
  | nil => simp [setEntries]
  | cons e es ih =>
    by_cases h : e.1 = k
    · simp [setEntries,h]
    · have hk : k ≠ e.1 := fun hc => h hc.symm
      by_cases hm : k ∈ es.map fst
      · rw [if_pos hm] at ih
        have hm' : k ∈ (e :: es).map fst := mem_cons_of_mem _ hm
        rw [if_pos hm']
        simp only [setEntries,h,if_false,map_cons,ih]
      · rw [if_neg hm] at ih
        have hm' : k ∉ (e :: es).map fst := by
          simp only [map_cons,mem_cons,not_or]
          exact ⟨hk,hm⟩
        rw [if_neg hm']
        simp only [setEntries,h,if_false,map_cons,ih,cons_append]

variable {k : α} {v : β} {es : List (α × β)}

theorem mem_setEntries (hn : (es.map fst).Nodup) {e : α × β} :
    e ∈ setEntries k v es ↔ e = (k,v) ∨ (e ∈ es ∧ e.1 ≠ k) := by
  induction es with
  | nil => simp [setEntries]
  | cons a es ih =>
    rw [map_cons,nodup_cons] at hn
    by_cases h : a.1 = k
    · have hnot : ∀ x ∈ es,x.1 ≠ k := fun x hx hxk =>
        hn.1 (mem_map.mpr ⟨x,hx,hxk.trans h.symm⟩)
      simp only [setEntries,h,if_true,mem_cons]
      constructor
      · rintro (rfl | hx)
        · exact .inl rfl
        · exact .inr ⟨.inr hx,hnot e hx⟩
      · rintro (rfl | ⟨rfl | hx,hne⟩)
        · exact .inl rfl
        · exact absurd h hne
        · exact .inr hx
    · simp only [setEntries,h,if_false,mem_cons,ih hn.2]
      constructor
      · rintro (rfl | rfl | ⟨hx,hne⟩)
        · exact .inr ⟨.inl rfl,h⟩
        · exact .inl rfl
        · exact .inr ⟨.inr hx,hne⟩
      · rintro (rfl | ⟨rfl | hx,hne⟩)
        · exact .inr (.inl rfl)
        · exact .inl rfl
        · exact .inr (.inr ⟨hx,hne⟩)

def empty : InsertionMap α β := ⟨[],nodup_nil⟩

instance : Inhabited (InsertionMap α β) := ⟨empty⟩

def get (m : InsertionMap α β) (k : α) : Option β :=
  (m.entries.find? (fun e => e.1 = k)).map snd

def has (m : InsertionMap α β) (k : α) : Bool := (m.get k).isSome

def set (m : InsertionMap α β) (k : α) (v : β) : InsertionMap α β where
  entries := setEntries k v m.entries
  nodup_keys := by
    rw [map_fst_setEntries]
    split
    · exact m.nodup_keys
    · next h =>
      refine m.nodup_keys.append (nodup_singleton k) ?_
      simpa [disjoint_singleton] using h

/-- Keep the entries that satisfy the test, in order. -/
def filter (m : InsertionMap α β) (p : α → β → Bool) : InsertionMap α β where
  entries := m.entries.filter (fun e => p e.1 e.2)
  nodup_keys := m.nodup_keys.sublist (filter_sublist.map fst)

def delete (m : InsertionMap α β) (k : α) : InsertionMap α β := m.filter (fun a _ => !decide (a = k))

/-- Every value changed, under the same keys in the same order. -/
def mapValues {γ : Type} (m : InsertionMap α β) (f : β → γ) : InsertionMap α γ where
  entries := m.entries.map fun e => (e.1,f e.2)
  nodup_keys := by
    rw [map_map]
    exact m.nodup_keys

def keys (m : InsertionMap α β) : List α := m.entries.map fst

def values (m : InsertionMap α β) : List β := m.entries.map snd

def size (m : InsertionMap α β) : ℕ := m.entries.length

def ofEntries (es : List (α × β)) : InsertionMap α β := es.foldl (fun m e => m.set e.1 e.2) empty

variable {m : InsertionMap α β}

theorem get_eq_some : m.get k = some v ↔ (k,v) ∈ m.entries := by
  obtain ⟨es,hn⟩ := m
  simp only [get]
  induction es with
  | nil => simp
  | cons a es ih =>
    rw [map_cons,nodup_cons] at hn
    by_cases h : a.1 = k
    · simp only [find?_cons,h,decide_true,Option.map_some,Option.some.injEq,mem_cons]
      constructor
      · intro hv
        exact .inl (by rw [← h,← hv])
      · rintro (rfl | hx)
        · rfl
        · exact absurd (mem_map.mpr ⟨(k,v),hx,h.symm⟩) hn.1
    · have hne : (k,v) ≠ a := fun hc => h (by rw [← hc])
      simp only [find?_cons,h,decide_false,mem_cons,ih hn.2,hne,false_or]

theorem get_eq_none : m.get k = none ↔ k ∉ m.keys := by
  rw [Option.eq_none_iff_forall_ne_some]
  simp only [ne_eq,get_eq_some,keys,mem_map,Prod.exists,exists_and_right,exists_eq_right,not_exists]

theorem has_iff : m.has k ↔ ∃ v, m.get k = some v := by
  simp [has,Option.isSome_iff_exists]

theorem has_iff_mem_keys : m.has k ↔ k ∈ m.keys := by
  rw [← not_iff_not,← get_eq_none,has]
  simp

theorem mem_values : v ∈ m.values ↔ ∃ k, m.get k = some v := by
  simp [values,get_eq_some]

@[simp] theorem get_empty (k : α) : (empty : InsertionMap α β).get k = none := rfl

theorem get_set (m : InsertionMap α β) (k k' : α) (v : β) :
    (m.set k v).get k' = if k' = k then some v else m.get k' := by
  ext w
  rw [get_eq_some,set,mem_setEntries m.nodup_keys]
  by_cases h : k' = k
  · simp [h,eq_comm]
  · simp [h,get_eq_some]

@[simp] theorem get_set_self (m : InsertionMap α β) (k : α) (v : β) : (m.set k v).get k = some v := by
  simp [get_set]

theorem get_set_of_ne (m : InsertionMap α β) {k k' : α} (v : β) (h : k' ≠ k) : (m.set k v).get k' = m.get k' := by
  simp [get_set,h]

/-- An entry of a map after a write is the written one or another one. -/
theorem get_set_cases {k k' : α} {v w : β} (h : (m.set k v).get k' = some w) :
    k' = k ∧ w = v ∨ k' ≠ k ∧ m.get k' = some w := by
  rw [get_set] at h
  split at h
  · next heq => exact .inl ⟨heq,(Option.some.inj h).symm⟩
  · next hne => exact .inr ⟨hne,h⟩

theorem get_filter {p : α → β → Bool} : (m.filter p).get k = some v ↔ m.get k = some v ∧ p k v := by
  rw [get_eq_some,get_eq_some,filter,mem_filter]

theorem get_delete (m : InsertionMap α β) (k k' : α) :
    (m.delete k).get k' = if k' = k then none else m.get k' := by
  ext w
  rw [delete,get_filter]
  by_cases h : k' = k <;> simp [h]

@[simp] theorem get_delete_self (m : InsertionMap α β) (k : α) : (m.delete k).get k = none := by
  simp [get_delete]

theorem get_delete_of_ne (m : InsertionMap α β) {k k' : α} (h : k' ≠ k) : (m.delete k).get k' = m.get k' := by
  simp [get_delete,h]

theorem get_mapValues {γ : Type} (m : InsertionMap α β) (f : β → γ) (k : α) :
    (m.mapValues f).get k = (m.get k).map f := by
  rw [get,get,mapValues,find?_map,Option.map_map,Option.map_map]
  rfl

theorem keys_set (m : InsertionMap α β) (k : α) (v : β) :
    (m.set k v).keys = if k ∈ m.keys then m.keys else m.keys ++ [k] :=
  map_fst_setEntries k v m.entries

theorem mem_keys_set {k k' : α} : k' ∈ (m.set k v).keys ↔ k' = k ∨ k' ∈ m.keys := by
  rw [keys_set]
  split
  · next h => exact ⟨.inr,fun hk => hk.elim (fun he => he ▸ h) id⟩
  · simp [or_comm]

theorem entries_set_of_not_mem (v : β) (h : k ∉ m.keys) : (m.set k v).entries = m.entries ++ [(k,v)] := by
  obtain ⟨es,hn⟩ := m
  show setEntries k v es = es ++ [(k,v)]
  replace h : k ∉ es.map fst := h
  clear hn
  induction es with
  | nil => rfl
  | cons e es ih =>
    rw [map_cons,mem_cons,not_or] at h
    have hne : ¬ e.1 = k := fun hc => h.1 hc.symm
    simp [setEntries,hne,ih h.2]

/-- Writing an entry that is there already changes nothing. -/
theorem set_eq_self (h : m.get k = some v) : m.set k v = m := by
  obtain ⟨es,hn⟩ := m
  rw [get_eq_some] at h
  apply InsertionMap.ext
  show setEntries k v es = es
  induction es with
  | nil => cases h
  | cons e es ih =>
    rw [map_cons,nodup_cons] at hn
    by_cases hk : e.1 = k
    · have hv : e = (k,v) := by
        rcases mem_cons.mp h with h | h
        · exact h.symm
        · exact absurd (mem_map.mpr ⟨(k,v),h,hk.symm⟩) hn.1
      simp only [setEntries,hk,if_true]
      rw [hv]
    · have hmem : (k,v) ∈ es := (mem_cons.mp h).resolve_left (fun he => hk (by rw [← he]))
      simp only [setEntries,hk,if_false]
      rw [ih hn.2 hmem]

theorem entries_foldl_set (h : (m.keys ++ es.map fst).Nodup) :
    (es.foldl (fun m e => m.set e.1 e.2) m).entries = m.entries ++ es := by
  induction es generalizing m with
  | nil => simp
  | cons e es ih =>
    have hfresh : e.1 ∉ m.keys := by
      intro hm
      rw [nodup_append'] at h
      exact h.2.2 hm (by simp)
    have hset := entries_set_of_not_mem e.2 hfresh
    rw [foldl_cons,ih,hset,append_assoc,singleton_append]
    rw [keys,hset,map_append,append_assoc]
    exact h

theorem ofEntries_entries (m : InsertionMap α β) : ofEntries m.entries = m := by
  apply InsertionMap.ext
  have hfresh : ((empty : InsertionMap α β).keys ++ m.entries.map fst).Nodup := by
    simpa [empty,keys] using m.nodup_keys
  have h := entries_foldl_set hfresh
  simpa [ofEntries,empty] using h

/-- The value that is written is the only one of its kind when no other was. -/
theorem filter_values_set {p : β → Bool} (hp : ∀ w ∈ m.values,p w = false) (hv : p v) :
    (m.set k v).values.filter p = [v] := by
  have key : ∀ es : List (α × β),(∀ e ∈ es,p e.2 = false) →
      ((setEntries k v es).map snd).filter p = [v] := by
    intro es
    induction es with
    | nil =>
      intro _
      simp [setEntries,hv]
    | cons e es ih =>
      intro hes
      have htail : ∀ x ∈ es,p x.2 = false := fun x hx => hes x (mem_cons_of_mem _ hx)
      unfold setEntries
      split
      · have hnone : (es.map snd).filter p = [] := by
          rw [filter_eq_nil_iff]
          intro w hw
          obtain ⟨x,hx,rfl⟩ := mem_map.mp hw
          simp [htail x hx]
        rw [map_cons,filter_cons_of_pos hv,hnone]
      · rw [map_cons,filter_cons_of_neg (by simp [hes e mem_cons_self])]
        exact ih htail
  exact key m.entries fun e he => hp e.2 (mem_map.mpr ⟨e,he,rfl⟩)

omit [DecidableEq α] in
theorem size_eq_length_keys (m : InsertionMap α β) : m.size = m.keys.length := by
  rw [size,keys,length_map]

theorem size_set (m : InsertionMap α β) (k : α) (v : β) :
    (m.set k v).size = if k ∈ m.keys then m.size else m.size + 1 := by
  rw [size_eq_length_keys,size_eq_length_keys,keys_set]
  split <;> simp

omit [DecidableEq α] in
theorem size_filter_le (m : InsertionMap α β) (p : α → β → Bool) : (m.filter p).size ≤ m.size := length_filter_le _ _

omit [DecidableEq α] in
theorem size_le_of_keys_subset {ks : List α} (h : ∀ k ∈ m.keys,k ∈ ks) : m.size ≤ ks.length := by
  rw [size_eq_length_keys]
  exact (List.Nodup.subperm m.nodup_keys h).length_le

/-- A symmetric relation holds between any two values exactly when it holds between those of any two keys. -/
theorem pairwise_values_iff {r : β → β → Prop} (hr : ∀ v w,r v w → r w v) : m.values.Pairwise r ↔
      ∀ k l v w, m.get k = some v → m.get l = some w → k ≠ l → r v w := by
  rw [values,pairwise_map]
  constructor
  · intro h k l v w hv hw hne
    have hsymm : Std.Symm fun a b : α × β => r a.2 b.2 := ⟨fun a b => hr a.2 b.2⟩
    exact h.forall (get_eq_some.mp hv) (get_eq_some.mp hw) (fun heq => hne (congrArg fst heq))
  · intro h
    refine (m.nodup_keys.of_map fst).pairwise_of_forall_ne fun a ha b hb hne => ?_
    refine h a.1 b.1 a.2 b.2 (get_eq_some.mpr ha) (get_eq_some.mpr hb) fun heq => hne ?_
    exact inj_on_of_nodup_map m.nodup_keys ha hb heq

end InsertionMap

end Malink
