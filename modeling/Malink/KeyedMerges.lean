import Malink.CheckedResults
import Malink.InsertionMaps

/-!
# Merging values by their keys

Values are put into a map one after the other. Where a key has a value, one of the two is kept or the merge is
refused.
-/

namespace Malink.KeyedMerges

open List

variable {ε κ β : Type} [DecidableEq κ]

/-- `resolve` keeps one of the current and the new value. -/
def putStep (keyOf : β → Except ε κ) (resolve : κ → β → β → Except ε β) (merged : InsertionMap κ β) (value : β) :
    Except ε (InsertionMap κ β) := do
  let key ← keyOf value
  match merged.get key with
  | none => .ok (merged.set key value)
  | some current => do
    let kept ← resolve key current value
    .ok (merged.set key kept)

def putAll (keyOf : β → Except ε κ) (resolve : κ → β → β → Except ε β) (values : List β) (merged : InsertionMap κ β) :
    Except ε (InsertionMap κ β) :=
  values.foldlM (putStep keyOf resolve) merged

/-- What is kept of two values is one of them, and stands for the new value and for all that the current one stands
for. Values that satisfy `p` are considered only. -/
structure Keeps (p : β → Prop) (standsFor : β → β → Prop) (keyOf : β → Except ε κ)
    (resolve : κ → β → β → Except ε β) : Prop where
  refl : ∀ value, standsFor value value
  one : ∀ key current value kept, resolve key current value = .ok kept → kept = current ∨ kept = value
  new : ∀ key current value kept, p current → p value → keyOf current = .ok key → keyOf value = .ok key →
    resolve key current value = .ok kept → standsFor kept value
  old : ∀ key current value kept other, p current → p value → p other →
    resolve key current value = .ok kept → standsFor current other → standsFor kept other

variable {keyOf : β → Except ε κ} {resolve : κ → β → β → Except ε β} {p : β → Prop} {standsFor : β → β → Prop}
  {values : List β} {merged result : InsertionMap κ β}

theorem putStep_eq_ok {value : β} : putStep keyOf resolve merged value = .ok result ↔
    ∃ key, keyOf value = .ok key ∧ ∃ kept, result = merged.set key kept ∧
      ((merged.get key = none ∧ kept = value) ∨
        ∃ current,merged.get key = some current ∧ resolve key current value = .ok kept) := by
  rw [putStep,bind_eq_ok]
  refine exists_congr fun key => and_congr_right fun _ => ?_
  cases hget : merged.get key with
  | none =>
    constructor
    · intro h
      exact ⟨value,(Except.ok.inj h).symm,.inl ⟨rfl,rfl⟩⟩
    · rintro ⟨kept,rfl,⟨-,rfl⟩ | ⟨current,hcurrent,-⟩⟩
      · rfl
      · cases hcurrent
  | some current =>
    simp only [bind_eq_ok]
    constructor
    · rintro ⟨kept,hkept,h⟩
      exact ⟨kept,(Except.ok.inj h).symm,.inr ⟨current,rfl,hkept⟩⟩
    · rintro ⟨kept,rfl,⟨hnone,-⟩ | ⟨current',hcurrent,hkept⟩⟩
      · cases hnone
      · obtain rfl := Option.some.inj hcurrent
        exact ⟨kept,hkept,rfl⟩

/-- The map has a value for each one that was put, under its key, and nothing else. -/
structure Holds (standsFor : β → β → Prop) (keyOf : β → Except ε κ) (values : List β) (merged : InsertionMap κ β) :
    Prop where
  from_values : ∀ key kept, merged.get key = some kept → kept ∈ values ∧ keyOf kept = .ok key
  stands : ∀ value ∈ values, ∃ key kept, keyOf value = .ok key ∧ merged.get key = some kept ∧ standsFor kept value

theorem holds_empty : Holds standsFor keyOf [] (.empty : InsertionMap κ β) where
  from_values := by
    intro key kept hget
    cases hget
  stands := by
    intro value hvalue
    cases hvalue

theorem Holds.putStep (hkeeps : Keeps p standsFor keyOf resolve) (h : Holds standsFor keyOf values merged)
    (hp : ∀ value ∈ values,p value) {value : β} (hvalue : p value)
    (hput : putStep keyOf resolve merged value = .ok result) : Holds standsFor keyOf (values ++ [value]) result := by
  obtain ⟨key,hkey,kept,rfl,hkept⟩ := putStep_eq_ok.mp hput
  have hmem : kept ∈ values ++ [value] ∧ keyOf kept = .ok key := by
    rcases hkept with ⟨-,rfl⟩ | ⟨current,hcurrent,hresolve⟩
    · exact ⟨mem_append_right _ (mem_singleton.mpr rfl),hkey⟩
    · rcases hkeeps.one key current value kept hresolve with rfl | rfl
      · obtain ⟨hmem,hkey'⟩ := h.from_values key _ hcurrent
        exact ⟨mem_append_left _ hmem,hkey'⟩
      · exact ⟨mem_append_right _ (mem_singleton.mpr rfl),hkey⟩
  constructor
  · intro key' kept' hget
    rw [InsertionMap.get_set] at hget
    split at hget
    · next heq =>
      obtain rfl := Option.some.inj hget
      exact ⟨hmem.1,heq ▸ hmem.2⟩
    · obtain ⟨hmem',hkey'⟩ := h.from_values key' kept' hget
      exact ⟨mem_append_left _ hmem',hkey'⟩
  · intro other hother
    rcases mem_append.mp hother with hother | hother
    · obtain ⟨key',kept',hkey',hget,hstands⟩ := h.stands other hother
      by_cases heq : key' = key
      · subst heq
        refine ⟨key',kept,hkey',InsertionMap.get_set_self _ _ _,?_⟩
        rcases hkept with ⟨hnone,-⟩ | ⟨current,hcurrent,hresolve⟩
        · rw [hnone] at hget
          cases hget
        · rw [hcurrent] at hget
          obtain rfl := Option.some.inj hget
          have hcurrent' := (h.from_values key' _ hcurrent).1
          exact hkeeps.old key' _ value kept other (hp _ hcurrent') hvalue (hp other hother) hresolve hstands
      · exact ⟨key',kept',hkey',by rw [InsertionMap.get_set_of_ne _ _ heq,hget],hstands⟩
    · obtain rfl := mem_singleton.mp hother
      refine ⟨key,kept,hkey,InsertionMap.get_set_self _ _ _,?_⟩
      rcases hkept with ⟨-,rfl⟩ | ⟨current,hcurrent,hresolve⟩
      · exact hkeeps.refl kept
      · obtain ⟨hmem',hkey'⟩ := h.from_values key current hcurrent
        exact hkeeps.new key current other kept (hp current hmem') hvalue hkey' hkey hresolve

theorem Holds.putAll (hkeeps : Keeps p standsFor keyOf resolve) {before : List β}
    (h : Holds standsFor keyOf before merged) (hbefore : ∀ value ∈ before,p value) (hp : ∀ value ∈ values,p value)
    (hput : putAll keyOf resolve values merged = .ok result) : Holds standsFor keyOf (before ++ values) result := by
  induction values generalizing before merged with
  | nil =>
    obtain rfl := Except.ok.inj hput
    rw [append_nil]
    exact h
  | cons value values ih =>
    rw [KeyedMerges.putAll,foldlM_cons,bind_eq_ok] at hput
    obtain ⟨next,hnext,hrest⟩ := hput
    have hvalue := hp value mem_cons_self
    have hstep := h.putStep hkeeps hbefore hvalue hnext
    have hall := ih hstep (by
      intro other hother
      rcases mem_append.mp hother with hother | hother
      · exact hbefore other hother
      · exact mem_singleton.mp hother ▸ hvalue) (fun other hother => hp other (mem_cons_of_mem _ hother)) hrest
    rw [append_assoc,singleton_append] at hall
    exact hall

theorem holds_putAll (hkeeps : Keeps p standsFor keyOf resolve) (hp : ∀ value ∈ values,p value)
    (hput : putAll keyOf resolve values .empty = .ok result) : Holds standsFor keyOf values result := by
  have h := holds_empty.putAll hkeeps (fun value hvalue => by cases hvalue) hp hput
  rw [nil_append] at h
  exact h

/-- The values of the map in some order. -/
structure Collected (standsFor : β → β → Prop) (keyOf : β → Except ε κ) (values collected : List β) : Prop where
  once : (collected.map keyOf).Nodup
  from_values : ∀ kept ∈ collected, kept ∈ values
  stands : ∀ value ∈ values, ∃ kept ∈ collected, keyOf kept = keyOf value ∧ standsFor kept value

theorem Holds.collected (h : Holds standsFor keyOf values merged) {entries : List (κ × β)}
    (hperm : entries.Perm merged.entries) : Collected standsFor keyOf values (entries.map Prod.snd) where
  once := by
    have hkeys : (entries.map Prod.snd).map keyOf = (entries.map Prod.fst).map Except.ok := by
      rw [map_map,map_map]
      refine map_congr_left fun entry hentry => ?_
      exact (h.from_values entry.1 entry.2 (InsertionMap.get_eq_some.mpr (hperm.mem_iff.mp hentry))).2
    rw [hkeys]
    refine List.Nodup.map (fun key key' heq => Except.ok.inj heq) ?_
    exact (hperm.map Prod.fst).nodup_iff.mpr merged.nodup_keys
  from_values := by
    intro kept hkept
    obtain ⟨entry,hentry,rfl⟩ := mem_map.mp hkept
    exact (h.from_values entry.1 entry.2 (InsertionMap.get_eq_some.mpr (hperm.mem_iff.mp hentry))).1
  stands := by
    intro value hvalue
    obtain ⟨key,kept,hkey,hget,hstands⟩ := h.stands value hvalue
    refine ⟨kept,mem_map.mpr ⟨(key,kept),hperm.mem_iff.mpr (InsertionMap.get_eq_some.mp hget),rfl⟩,?_,hstands⟩
    exact (h.from_values key kept hget).2.trans hkey.symm

end Malink.KeyedMerges
