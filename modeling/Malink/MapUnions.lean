import Malink.InsertionMaps

/-!
# Unions of maps

The entries of one map are added to another one. Where both have a key the values have to be the same; the first
key for which they are not is reported.
-/

namespace Malink.InsertionMap

open List

variable {α β : Type} [DecidableEq α]

def unionStep (same : β → β → Bool) (target : InsertionMap α β) (e : α × β) : Except α (InsertionMap α β) :=
  match target.get e.1 with
  | some current => if same current e.2 then .ok target else .error e.1
  | none => .ok (target.set e.1 e.2)

def union (same : β → β → Bool) (source target : InsertionMap α β) : Except α (InsertionMap α β) :=
  source.entries.foldlM (unionStep same) target

/-- The maps have the same value wherever both have one. -/
def Agree (same : β → β → Bool) (source target : InsertionMap α β) : Prop :=
  ∀ k v w, source.get k = some v → target.get k = some w → same w v

def unionKeys (source target : InsertionMap α β) : List α :=
  target.keys ++ source.keys.filter (fun k => k ∉ target.keys)

variable {same : β → β → Bool} {source target result : InsertionMap α β}

theorem unionStep_eq_ok {e : α × β} :
    unionStep same target e = .ok result ↔ (∀ w,target.get e.1 = some w → same w e.2) ∧
      result = if e.1 ∈ target.keys then target else target.set e.1 e.2 := by
  rw [unionStep]
  cases hget : target.get e.1 with
  | none =>
    rw [if_neg (get_eq_none.mp hget)]
    constructor
    · intro h
      refine ⟨?_,(Except.ok.inj h).symm⟩
      intro w hw
      cases hw
    · rintro ⟨-,rfl⟩
      rfl
  | some current =>
    rw [if_pos (has_iff_mem_keys.mp (has_iff.mpr ⟨current,hget⟩))]
    simp only [Option.some.injEq,forall_eq']
    by_cases hsame : same current e.2
    · rw [if_pos hsame]
      exact ⟨fun h => ⟨hsame,(Except.ok.inj h).symm⟩,fun h => congrArg Except.ok h.2.symm⟩
    · rw [if_neg hsame]
      refine ⟨?_,fun h => absurd h.1 hsame⟩
      intro h
      cases h

theorem foldlM_unionStep_eq_ok {es : List (α × β)} (hn : (es.map Prod.fst).Nodup) :
    es.foldlM (unionStep same) target = .ok result ↔
      (∀ e ∈ es,∀ w,target.get e.1 = some w → same w e.2) ∧
        result.entries = target.entries ++ es.filter (fun e => e.1 ∉ target.keys) := by
  induction es generalizing target with
  | nil =>
    simp only [foldlM_nil,not_mem_nil,false_implies,implies_true,true_and,filter_nil,append_nil]
    exact ⟨fun h => congrArg entries (Except.ok.inj h).symm,fun h => congrArg Except.ok (InsertionMap.ext h.symm)⟩
  | cons e es ih =>
    rw [map_cons,nodup_cons] at hn
    have hne : ∀ x ∈ es,x.1 ≠ e.1 := fun x hx heq => hn.1 (mem_map.mpr ⟨x,hx,heq⟩)
    rw [foldlM_cons]
    have hstep : (unionStep same target e >>= fun next => es.foldlM (unionStep same) next) = .ok result ↔
        ∃ next, unionStep same target e = .ok next ∧ es.foldlM (unionStep same) next = .ok result := by
      cases unionStep same target e with
      | error | ok => simp [bind,Except.bind]
    rw [hstep]
    simp only [unionStep_eq_ok,and_assoc,exists_and_left,exists_eq_left,forall_mem_cons,ih hn.2]
    refine and_congr_right fun _ => ?_
    by_cases hmem : e.1 ∈ target.keys
    · rw [if_pos hmem,filter_cons_of_neg (by simpa using hmem)]
    · rw [if_neg hmem,filter_cons_of_pos (by simpa using hmem),entries_set_of_not_mem e.2 hmem,
        append_assoc,singleton_append]
      refine and_congr ?_ ?_
      · refine forall₂_congr fun x hx => ?_
        rw [get_set_of_ne target e.2 (hne x hx)]
      · have hfilter : es.filter (fun x => x.1 ∉ (target.set e.1 e.2).keys) =
            es.filter (fun x => x.1 ∉ target.keys) := by
          refine filter_congr fun x hx => ?_
          simp only [mem_keys_set,hne x hx,false_or]
        rw [hfilter]

theorem union_eq_ok : union same source target = .ok result ↔ Agree same source target ∧
    result.entries = target.entries ++ source.entries.filter (fun e => e.1 ∉ target.keys) := by
  rw [union,foldlM_unionStep_eq_ok source.nodup_keys]
  refine and_congr_left fun _ => ?_
  constructor
  · intro h k v w hv hw
    exact h (k,v) (get_eq_some.mp hv) w hw
  · intro h e he w hw
    exact h e.1 e.2 w (get_eq_some.mpr he) hw

theorem exists_union (h : Agree same source target) : ∃ result, union same source target = .ok result := by
  have hn : ((target.entries ++ source.entries.filter (fun e => e.1 ∉ target.keys)).map Prod.fst).Nodup := by
    rw [map_append]
    refine target.nodup_keys.append (source.nodup_keys.sublist (filter_sublist.map Prod.fst)) ?_
    intro k hk hk'
    obtain ⟨e,he,rfl⟩ := mem_map.mp hk'
    have hnot := (mem_filter.mp he).2
    rw [decide_eq_true_eq] at hnot
    exact hnot hk
  exact ⟨⟨_,hn⟩,union_eq_ok.mpr ⟨h,rfl⟩⟩

/-- The target has priority. -/
theorem get_of_union (h : union same source target = .ok result) (k : α) :
    result.get k = (target.get k).or (source.get k) := by
  have hentries := (union_eq_ok.mp h).2
  ext v
  rw [get_eq_some,hentries,mem_append,mem_filter,← get_eq_some,← get_eq_some]
  cases hget : target.get k with
  | none =>
    have hmem : k ∉ target.keys := get_eq_none.mp hget
    simp [hmem]
  | some w =>
    have hmem : k ∈ target.keys := has_iff_mem_keys.mp (has_iff.mpr ⟨w,hget⟩)
    simp [hmem]

theorem keys_of_union (h : union same source target = .ok result) : result.keys = unionKeys source target := by
  rw [keys,(union_eq_ok.mp h).2,map_append,unionKeys,keys,keys,filter_map]
  rfl

theorem size_of_union (h : union same source target = .ok result) : result.size = (unionKeys source target).length := by
  rw [size_eq_length_keys,keys_of_union h]

/-- Every key of either map is there, with a value that is the same. -/
structure IsUnion (same : β → β → Prop) (source target result : InsertionMap α β) : Prop where
  has : ∀ k, result.has k ↔ source.has k ∨ target.has k
  kept : ∀ k v, source.get k = some v ∨ target.get k = some v → ∃ w, result.get k = some w ∧ same w v

theorem isUnion_of_union {same' : β → β → Prop} (hrefl : ∀ v,same' v v)
    (hsame : ∀ v w,same v w → same' v w) (h : union same source target = .ok result) :
    IsUnion same' source target result where
  has := by
    intro k
    rw [has,get_of_union h,Option.isSome_or,Bool.or_eq_true,or_comm]
    rfl
  kept := by
    intro k v hv
    rw [get_of_union h]
    cases hget : target.get k with
    | none =>
      rw [hget] at hv
      rcases hv with hv | hv
      · exact ⟨v,hv,hrefl v⟩
      · cases hv
    | some w =>
      refine ⟨w,rfl,?_⟩
      rcases hv with hv | hv
      · exact hsame _ _ ((union_eq_ok.mp h).1 k v w hv hget)
      · rw [hget] at hv
        obtain rfl := Option.some.inj hv
        exact hrefl w

theorem isUnion_empty_left {same : β → β → Prop} (hrefl : ∀ v,same v v) (target : InsertionMap α β) :
    IsUnion same empty target target where
  has := by
    intro k
    constructor
    · exact .inr
    · rintro (h | h)
      · cases h
      · exact h
  kept := by
    rintro k v (hv | hv)
    · cases hv
    · exact ⟨v,hv,hrefl v⟩

theorem isUnion_empty_right {same : β → β → Prop} (hrefl : ∀ v,same v v) (source : InsertionMap α β) :
    IsUnion same source empty source where
  has := by
    intro k
    constructor
    · exact .inl
    · rintro (h | h)
      · exact h
      · cases h
  kept := by
    rintro k v (hv | hv)
    · exact ⟨v,hv,hrefl v⟩
    · cases hv

end Malink.InsertionMap
