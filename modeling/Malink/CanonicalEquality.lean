import Malink.CanonicalJson
import Mathlib.Data.List.Perm.Subperm

/-!
# Values with one canonical text

Objects are equal up to the order of their members when each member of one has its partner in the other. Without
repeated names these are the values with one sorted form.
-/

namespace Malink.Json

open List
open JsString (ofChars)
open Prod (fst)

mutual
/-- No object of the value repeats a name. -/
def Distinct : Json → Prop
  | .arr es => DistinctElements es
  | .obj ms => (ms.map fst).Nodup ∧ DistinctMembers ms
  | .null | .bool _ | .num _ | .str _ => True

def DistinctElements : List Json → Prop
  | [] => True
  | e :: es => Distinct e ∧ DistinctElements es

def DistinctMembers : List (JsString × Json) → Prop
  | [] => True
  | (_,v) :: ms => Distinct v ∧ DistinctMembers ms
end

mutual
/-- Equality up to the order of object members. -/
def Same : Json → Json → Prop
  | .arr es, w => ∃ fs, w = .arr fs ∧ SameElements es fs
  | .obj ms, w => ∃ ns, w = .obj ns ∧ ms.length = ns.length ∧ SameMembers ms ns
  | .null, w => w = .null
  | .bool b, w => w = .bool b
  | .num n, w => w = .num n
  | .str s, w => w = .str s

def SameElements : List Json → List Json → Prop
  | [], fs => fs = []
  | e :: es, fs => ∃ f rest, fs = f :: rest ∧ Same e f ∧ SameElements es rest

/-- Each member of the first list has its partner in the second. -/
def SameMembers : List (JsString × Json) → List (JsString × Json) → Prop
  | [], _ => True
  | (k,v) :: ms, ns => (∃ w,(k,w) ∈ ns ∧ Same v w) ∧ SameMembers ms ns
end

theorem distinctElements_iff {es : List Json} : DistinctElements es ↔ ∀ e ∈ es, Distinct e := by
  induction es with
  | nil => simp [DistinctElements]
  | cons e es ih => simp [DistinctElements,ih]

variable {ms : List (JsString × Json)}

theorem distinctMembers_iff : DistinctMembers ms ↔ ∀ m ∈ ms, Distinct m.2 := by
  induction ms with
  | nil => simp [DistinctMembers]
  | cons m ms ih => simp [DistinctMembers,ih]

theorem map_fst_sortMembers (ms : List (JsString × Json)) : (sortMembers ms).map fst = ms.map fst := by
  rw [sortMembers_eq_map,map_map]
  rfl

theorem mem_sortMembers {k : JsString} {v : Json} : (k,v) ∈ sortMembers ms ↔ ∃ w, (k,w) ∈ ms ∧ sortKeys w = v := by
  rw [sortMembers_eq_map,mem_map]
  constructor
  · rintro ⟨m,hm,heq⟩
    obtain ⟨rfl,hv⟩ := Prod.mk.inj heq
    exact ⟨m.2,hm,hv⟩
  · rintro ⟨w,hw,rfl⟩
    exact ⟨(k,w),hw,rfl⟩

/-- Two lists without repeated names are sorted alike exactly when they have the same members. -/
theorem insertionSort_eq_iff {ns : List (JsString × Json)} (hms : (ms.map fst).Nodup) (hns : (ns.map fst).Nodup) :
    ms.insertionSort (fun m n => m.1 ≤ n.1) = ns.insertionSort (fun m n => m.1 ≤ n.1) ↔
      ms.length = ns.length ∧ ∀ m ∈ ms, m ∈ ns := by
  have hperm := perm_insertionSort (fun m n : JsString × Json => m.1 ≤ n.1)
  have htotal : Std.Total (fun m n : JsString × Json => m.1 ≤ n.1) := ⟨fun m n => JsString.le_total m.1 n.1⟩
  have htrans : IsTrans (JsString × Json) (fun m n => m.1 ≤ n.1) := ⟨fun _ _ _ => JsString.le_trans⟩
  constructor
  · intro h
    have hsame : ms.Perm ns := (hperm ms).symm.trans (h ▸ hperm ns)
    exact ⟨hsame.length_eq,fun m hm => hsame.subset hm⟩
  · rintro ⟨hlength,hsubset⟩
    have hsame : ms.Perm ns := (subperm_of_subset hms.of_map hsubset).perm_of_length_le hlength.ge
    have hsorted : (ms.insertionSort (fun m n => m.1 ≤ n.1)).Perm (ns.insertionSort (fun m n => m.1 ≤ n.1)) :=
      (hperm ms).trans (hsame.trans (hperm ns).symm)
    refine List.Perm.eq_of_pairwise ?_ (pairwise_insertionSort _ ms) (pairwise_insertionSort _ ns) hsorted
    -- equal names belong to one member, since no name is repeated
    intro m n hm hn hle hge
    have hm' : m ∈ ns := hsubset m ((hperm ms).subset hm)
    exact inj_on_of_nodup_map hns hm' ((hperm ns).subset hn) (JsString.le_antisymm hle hge)

mutual
/-- Values without repeated names have one sorted form exactly when they are equal up to the order of members. -/
theorem sortKeys_eq_iff : (v w : Json) → Distinct v → Distinct w → (sortKeys v = sortKeys w ↔ Same v w)
  | .null, w, _, _ => by cases w <;> simp [sortKeys,Same]
  | .bool b, w, _, _ => by cases w <;> simp [sortKeys,Same,eq_comm]
  | .num n, w, _, _ => by cases w <;> simp [sortKeys,Same,eq_comm]
  | .str s, w, _, _ => by cases w <;> simp [sortKeys,Same,eq_comm]
  | .arr es, w, hv, hw => by
    rw [Distinct] at hv
    cases w with
    | arr fs =>
      rw [Distinct] at hw
      simp only [sortKeys,arr.injEq,Same,exists_eq_left']
      exact sortElements_eq_iff es fs hv hw
    | null | bool _ | num _ | str _ | obj _ => simp [sortKeys,Same]
  | .obj ms, w, hv, hw => by
    rw [Distinct] at hv
    cases w with
    | obj ns =>
      rw [Distinct] at hw
      simp only [sortKeys,obj.injEq,Same,exists_eq_left']
      rw [insertionSort_eq_iff (map_fst_sortMembers ms ▸ hv.1) (map_fst_sortMembers ns ▸ hw.1),sortMembers_eq_map ms,
        length_map,sortMembers_eq_map ns,length_map,← sortMembers_eq_map ms,← sortMembers_eq_map ns]
      exact and_congr_right fun _ => sortMembers_subset_iff ms ns hv.2 (distinctMembers_iff.mp hw.2)
    | null | bool _ | num _ | str _ | arr _ => simp [sortKeys,Same]

theorem sortElements_eq_iff : (es fs : List Json) → DistinctElements es → DistinctElements fs →
    (sortElements es = sortElements fs ↔ SameElements es fs)
  | [], fs, _, _ => by cases fs <;> simp [sortElements,SameElements]
  | e :: es, fs, he, hf => by
    cases fs with
    | nil => simp [sortElements,SameElements]
    | cons f fs =>
      rw [DistinctElements] at he hf
      simp only [sortElements,cons.injEq,SameElements]
      rw [sortKeys_eq_iff e f he.1 hf.1,sortElements_eq_iff es fs he.2 hf.2]
      simp

theorem sortMembers_subset_iff : (ms ns : List (JsString × Json)) → DistinctMembers ms → (∀ n ∈ ns,Distinct n.2) →
    ((∀ m ∈ sortMembers ms,m ∈ sortMembers ns) ↔ SameMembers ms ns)
  | [], ns, _, _ => by simp [sortMembers,SameMembers]
  | (k,v) :: ms, ns, hm, hn => by
    rw [DistinctMembers] at hm
    simp only [sortMembers,SameMembers,forall_mem_cons]
    rw [mem_sortMembers,sortMembers_subset_iff ms ns hm.2 hn]
    refine and_congr_left fun _ => exists_congr fun w => and_congr_right fun hw => ?_
    rw [eq_comm,sortKeys_eq_iff v w hm.1 (hn _ hw)]
end

mutual
theorem ordered_sortKeys : (v : Json) → Ordered (sortKeys v)
  | .null | .bool _ | .num _ | .str _ => by simp [sortKeys,Ordered]
  | .arr es => by
    rw [sortKeys,Ordered,orderedElements_iff]
    exact ordered_sortElements es
  | .obj ms => by
    rw [sortKeys,Ordered,orderedMembers_iff]
    refine ⟨pairwise_insertionSort _ _,fun m hm => ?_⟩
    exact ordered_sortMembers ms m ((perm_insertionSort _ _).subset hm)

theorem ordered_sortElements : (es : List Json) → ∀ e ∈ sortElements es, Ordered e
  | [] => by simp [sortElements]
  | e :: es => by
    rw [sortElements,forall_mem_cons]
    exact ⟨ordered_sortKeys e,ordered_sortElements es⟩

theorem ordered_sortMembers : (ms : List (JsString × Json)) → ∀ m ∈ sortMembers ms, Ordered m.2
  | [] => by simp [sortMembers]
  | (k,v) :: ms => by
    rw [sortMembers,forall_mem_cons]
    exact ⟨ordered_sortKeys v,ordered_sortMembers ms⟩
end

mutual
theorem distinct_sortKeys : (v : Json) → Distinct v → Distinct (sortKeys v)
  | .null, h | .bool _, h | .num _, h | .str _, h => by rwa [sortKeys]
  | .arr es, h => by
    rw [Distinct] at h
    rw [sortKeys,Distinct,distinctElements_iff]
    exact distinct_sortElements es h
  | .obj ms, h => by
    rw [Distinct] at h
    have hperm := perm_insertionSort (fun m n : JsString × Json => m.1 ≤ n.1) (sortMembers ms)
    rw [sortKeys,Distinct,distinctMembers_iff]
    constructor
    · rw [(hperm.map fst).nodup_iff,map_fst_sortMembers]
      exact h.1
    · exact fun m hm => distinct_sortMembers ms h.2 m (hperm.subset hm)

theorem distinct_sortElements : (es : List Json) → DistinctElements es → ∀ e ∈ sortElements es, Distinct e
  | [], _ => by simp [sortElements]
  | e :: es, h => by
    rw [DistinctElements] at h
    rw [sortElements,forall_mem_cons]
    exact ⟨distinct_sortKeys e h.1,distinct_sortElements es h.2⟩

theorem distinct_sortMembers : (ms : List (JsString × Json)) → DistinctMembers ms →
    ∀ m ∈ sortMembers ms, Distinct m.2
  | [], _ => by simp [sortMembers]
  | (k,v) :: ms, h => by
    rw [DistinctMembers] at h
    rw [sortMembers,forall_mem_cons]
    exact ⟨distinct_sortKeys v h.1,distinct_sortMembers ms h.2⟩
end

/-- A value and its sorted form are equal up to the order of members. -/
theorem same_sortKeys {v : Json} (hv : Distinct v) : Same v (sortKeys v) ∧ Same (sortKeys v) v := by
  have hsorted := distinct_sortKeys v hv
  have htwice := sortKeys_of_ordered _ (ordered_sortKeys v)
  exact ⟨(sortKeys_eq_iff v _ hv hsorted).mp htwice.symm,(sortKeys_eq_iff _ v hsorted hv).mp htwice⟩

/-- The text determines the value up to the order of members. -/
theorem canonicalJson_eq_iff {v w : Json} (hv : Distinct v) (hw : Distinct w) :
    canonicalJson v = canonicalJson w ↔ Same v w := by
  rw [← sortKeys_eq_iff v w hv hw]
  constructor
  · exact sortKeys_eq_of_canonicalJson
  · intro h
    rw [canonicalJson,canonicalJson,h]

/-- `join(',')` -/
def commaJoined : List JsString → JsString
  | [] => ""
  | [text] => text
  | text :: next :: texts => text ++ "," ++ commaJoined (next :: texts)

def memberText (m : JsString × JsString) : JsString := ofChars (stringifyString m.1) ++ ":" ++ m.2

mutual
/-- `serialize` of `canonicalJson`: the names are sorted, and every member is written in its place. -/
def serialize : Json → JsString
  | .null => "null"
  | .bool b => ofChars (if b then "true".toList else "false".toList)
  | .num n => ofChars (stringifyInt n)
  | .str s => ofChars (stringifyString s)
  | .arr es => "[" ++ commaJoined (serializeElements es) ++ "]"
  | .obj ms =>
    "\x7b" ++ commaJoined (((serializeMembers ms).insertionSort fun m n => m.1 ≤ n.1).map memberText) ++ "\x7d"

def serializeElements : List Json → List JsString
  | [] => []
  | e :: es => serialize e :: serializeElements es

def serializeMembers : List (JsString × Json) → List (JsString × JsString)
  | [] => []
  | (k,v) :: ms => (k,serialize v) :: serializeMembers ms
end

theorem ofChars_append (s t : List Char) : ofChars (s ++ t) = ofChars s ++ ofChars t := by
  rw [ofChars,flatMap_append]
  rfl

theorem ofChars_append_cons (s t : List Char) (c : Char) :
    ofChars (s ++ c :: t) = ofChars s ++ ofChars [c] ++ ofChars t := by
  rw [ofChars_append,← singleton_append,ofChars_append]
  exact congrArg JsString.mk (append_assoc _ _ _).symm

def textOf (v : Json) : JsString := ofChars (stringify v)

theorem commaJoined_elements (es : List Json) : commaJoined (es.map textOf) = ofChars (stringifyElements es) := by
  induction es with
  | nil => rfl
  | cons e es ih =>
    cases es with
    | nil => rfl
    | cons e' es =>
      rw [map_cons] at ih ⊢
      rw [map_cons,commaJoined,ih,stringifyElements,ofChars_append_cons]
      rfl

theorem memberText_textOf (k : JsString) (v : Json) :
    memberText (k,textOf v) = ofChars (stringifyString k ++ ':' :: stringify v) := by
  rw [ofChars_append_cons]
  rfl

theorem commaJoined_members (ms : List (JsString × Json)) :
    commaJoined (ms.map fun m => memberText (m.1,textOf m.2)) = ofChars (stringifyMembers ms) := by
  induction ms with
  | nil => rfl
  | cons m ms ih =>
    obtain ⟨k,v⟩ := m
    cases ms with
    | nil => rw [map_singleton,commaJoined,memberText_textOf,stringifyMembers]
    | cons m ms =>
      rw [map_cons] at ih ⊢
      rw [map_cons,commaJoined,ih,stringifyMembers,memberText_textOf,
        ofChars_append_cons (stringifyString k ++ ':' :: stringify v)]
      rfl

mutual
theorem serialize_eq : (v : Json) → serialize v = textOf (sortKeys v)
  | .null => rfl
  | .bool b => by rw [serialize,sortKeys,textOf,stringify]
  | .num n => by rw [serialize,sortKeys,textOf,stringify]
  | .str s => by rw [serialize,sortKeys,textOf,stringify]
  | .arr es => by
    rw [serialize,serializeElements_eq es,commaJoined_elements,sortKeys,textOf,stringify,ofChars_append]
    rfl
  | .obj ms => by
    have hsorted := map_insertionSort (fun m n : JsString × Json => m.1 ≤ n.1)
      (fun m n : JsString × JsString => m.1 ≤ n.1) (fun m => (m.1,textOf m.2)) (sortMembers ms)
      (fun _ _ _ _ => Iff.rfl)
    have hjoined := commaJoined_members ((sortMembers ms).insertionSort fun m n => m.1 ≤ n.1)
    rw [serialize,serializeMembers_eq ms,← hsorted,map_map,Function.comp_def,hjoined,sortKeys,textOf,
      stringify,ofChars_append]
    rfl

theorem serializeElements_eq : (es : List Json) → serializeElements es = (sortElements es).map textOf
  | [] => rfl
  | e :: es => by rw [serializeElements,serialize_eq e,serializeElements_eq es,sortElements,map_cons]

theorem serializeMembers_eq : (ms : List (JsString × Json)) →
    serializeMembers ms = (sortMembers ms).map fun m => (m.1,textOf m.2)
  | [] => rfl
  | (k,v) :: ms => by rw [serializeMembers,serialize_eq v,serializeMembers_eq ms,sortMembers,map_cons]
end

end Malink.Json
