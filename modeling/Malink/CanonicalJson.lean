import Malink.JsonTextRoundTrip
import Mathlib.Data.List.Lex
import Mathlib.Data.List.Sort

/-!
# Canonical JSON text

The members of every object are sorted by name, in the order of UTF-16 code units. A value in order is its own sorted
form, so such values are determined by their text.
-/

namespace Malink

namespace JsString

def codes (s : JsString) : List ℕ := s.units.map UInt16.toNat

/-- The order of `sort()` and of `<=` on strings. -/
instance : LE JsString := ⟨fun s t => s.codes ≤ t.codes⟩

instance : DecidableLE JsString := fun s t => inferInstanceAs (Decidable (s.codes ≤ t.codes))

theorem codes_injective : Function.Injective codes := by
  intro s t h
  obtain ⟨us⟩ := s
  obtain ⟨vs⟩ := t
  exact congrArg mk (List.map_injective_iff.mpr (fun _ _ => UInt16.toNat_inj.mp) h)

theorem le_trans {s t u : JsString} (h : s ≤ t) (h' : t ≤ u) : s ≤ u := Preorder.le_trans s.codes t.codes u.codes h h'

theorem le_total (s t : JsString) : s ≤ t ∨ t ≤ s := LinearOrder.le_total s.codes t.codes

theorem le_antisymm {s t : JsString} (h : s ≤ t) (h' : t ≤ s) : s = t :=
  codes_injective (PartialOrder.le_antisymm s.codes t.codes h h')

instance : Std.Total (fun s t : JsString => s ≤ t) := ⟨le_total⟩

instance : IsTrans JsString (fun s t => s ≤ t) := ⟨fun _ _ _ => le_trans⟩

theorem ofNat_unit_inj {n m : ℕ} (hn : n < 65536) (hm : m < 65536) : UInt16.ofNat n = UInt16.ofNat m ↔ n = m := by
  rw [← UInt16.toNat_inj,UInt16.toNat_ofNat',UInt16.toNat_ofNat']
  omega

theorem encodeChar_append_inj {c d : Char} {us vs : List UInt16}
    (h : encodeChar c ++ us = encodeChar d ++ vs) : c = d ∧ us = vs := by
  have hc : c.toNat < 0xD800 ∨ (0xDFFF < c.toNat ∧ c.toNat < 0x110000) := c.valid
  have hd : d.toNat < 0xD800 ∨ (0xDFFF < d.toNat ∧ d.toNat < 0x110000) := d.valid
  rw [← Char.toNat_inj]
  unfold encodeChar at h
  split at h <;> split at h <;>
    simp only [List.cons_append,List.nil_append,List.cons.injEq] at h
  · rw [ofNat_unit_inj (by omega) (by omega)] at h
    exact h
  · rw [ofNat_unit_inj (by omega) (by omega)] at h
    omega
  · rw [ofNat_unit_inj (by omega) (by omega)] at h
    omega
  · obtain ⟨hhigh,hlow,hrest⟩ := h
    rw [ofNat_unit_inj (by omega) (by omega)] at hhigh hlow
    exact ⟨by omega,hrest⟩

theorem ofChars_injective : Function.Injective ofChars := by
  intro cs
  induction cs with
  | nil =>
    intro ds h
    cases ds with
    | nil => rfl
    | cons d ds =>
      have hunits := congrArg units h
      simp only [ofChars,List.flatMap_nil,List.flatMap_cons] at hunits
      unfold encodeChar at hunits
      split at hunits <;> cases hunits
  | cons c cs ih =>
    intro ds h
    have hunits := congrArg units h
    cases ds with
    | nil =>
      simp only [ofChars,List.flatMap_nil,List.flatMap_cons] at hunits
      unfold encodeChar at hunits
      split at hunits <;> cases hunits
    | cons d ds =>
      simp only [ofChars,List.flatMap_cons] at hunits
      obtain ⟨rfl,hrest⟩ := encodeChar_append_inj hunits
      rw [ih (congrArg mk hrest)]

end JsString

namespace Json

mutual
/-- The value with the members of every object sorted by name. -/
def sortKeys : Json → Json
  | .arr es => .arr (sortElements es)
  | .obj ms => .obj ((sortMembers ms).insertionSort (fun m n => m.1 ≤ n.1))
  | .null => .null
  | .bool b => .bool b
  | .num n => .num n
  | .str s => .str s

def sortElements : List Json → List Json
  | [] => []
  | e :: es => sortKeys e :: sortElements es

def sortMembers : List (JsString × Json) → List (JsString × Json)
  | [] => []
  | (k,v) :: ms => (k,sortKeys v) :: sortMembers ms
end

/-- The text that is signed and compared. -/
def canonicalJson (value : Json) : JsString := JsString.ofChars (stringify (sortKeys value))

def present : List (JsString × Option Json) → List (JsString × Json)
  | [] => []
  | (_,none) :: ms => present ms
  | (k,some v) :: ms => (k,v) :: present ms

/-- An object of optional members: an absent one is not written. -/
def ofOptions (ms : List (JsString × Option Json)) : Json := .obj (present ms)

variable {ms : List (JsString × Option Json)}

theorem mem_present {m : JsString × Json} : m ∈ present ms ↔ (m.1,some m.2) ∈ ms := by
  induction ms with
  | nil => simp [present]
  | cons o ms ih =>
    obtain ⟨k,o⟩ := o
    cases o with
    | none => simp [present,ih]
    | some v => simp [present,ih,Prod.ext_iff]

theorem map_fst_present_sublist (ms : List (JsString × Option Json)) :
    ((present ms).map Prod.fst).Sublist (ms.map Prod.fst) := by
  induction ms with
  | nil => exact .slnil
  | cons o ms ih =>
    obtain ⟨k,o⟩ := o
    cases o with
    | none => exact ih.cons k
    | some v => exact ih.cons_cons k

mutual
def Ordered : Json → Prop
  | .arr es => OrderedElements es
  | .obj ms => ms.Pairwise (fun m n => m.1 ≤ n.1) ∧ OrderedMembers ms
  | _ => True

def OrderedElements : List Json → Prop
  | [] => True
  | e :: es => Ordered e ∧ OrderedElements es

def OrderedMembers : List (JsString × Json) → Prop
  | [] => True
  | (_,v) :: ms => Ordered v ∧ OrderedMembers ms
end

@[simp] theorem ordered_str (s : JsString) : Ordered (.str s) := by simp [Ordered]

@[simp] theorem ordered_num (n : ℤ) : Ordered (.num n) := by simp [Ordered]

@[simp] theorem ordered_bool (b : Bool) : Ordered (.bool b) := by simp [Ordered]

theorem orderedElements_iff {es : List Json} : OrderedElements es ↔ ∀ e ∈ es, Ordered e := by
  induction es with
  | nil => simp [OrderedElements]
  | cons e es ih => simp [OrderedElements,ih]

theorem orderedMembers_iff {ms : List (JsString × Json)} : OrderedMembers ms ↔ ∀ m ∈ ms, Ordered m.2 := by
  induction ms with
  | nil => simp [OrderedMembers]
  | cons m ms ih => simp [OrderedMembers,ih]

mutual
theorem sortKeys_of_ordered : (v : Json) → Ordered v → sortKeys v = v
  | .null, _ | .bool _, _ | .num _, _ | .str _, _ => by rw [sortKeys]
  | .arr es, h => by
    rw [Ordered] at h
    rw [sortKeys,sortElements_of_ordered es h]
  | .obj ms, h => by
    rw [Ordered] at h
    rw [sortKeys,sortMembers_of_ordered ms h.2,List.Pairwise.insertionSort_eq h.1]

theorem sortElements_of_ordered : (es : List Json) → OrderedElements es → sortElements es = es
  | [], _ => by rw [sortElements]
  | e :: es, h => by
    rw [OrderedElements] at h
    rw [sortElements,sortKeys_of_ordered e h.1,sortElements_of_ordered es h.2]

theorem sortMembers_of_ordered : (ms : List (JsString × Json)) → OrderedMembers ms → sortMembers ms = ms
  | [], _ => by rw [sortMembers]
  | (k,v) :: ms, h => by
    rw [OrderedMembers] at h
    rw [sortMembers,sortKeys_of_ordered v h.1,sortMembers_of_ordered ms h.2]
end

theorem canonicalJson_inj {v w : Json} (hv : Ordered v) (hw : Ordered w) :
    canonicalJson v = canonicalJson w ↔ v = w := by
  constructor
  · intro h
    have htext := JsString.ofChars_injective h
    rw [sortKeys_of_ordered v hv,sortKeys_of_ordered w hw] at htext
    have hparse := congrArg parse htext
    rw [parse_stringify,parse_stringify] at hparse
    exact Option.some.inj hparse
  · rintro rfl
    rfl

theorem ordered_ofOptions (hnames : (ms.map Prod.fst).Pairwise (· ≤ ·))
    (hvalues : ∀ m ∈ ms,∀ v,m.2 = some v → Ordered v) : Ordered (ofOptions ms) := by
  rw [ofOptions,Ordered,orderedMembers_iff]
  constructor
  · exact List.pairwise_map.mp (hnames.sublist (map_fst_present_sublist ms))
  · intro m hm
    exact hvalues _ (mem_present.mp hm) m.2 rfl

theorem ordered_arr {es : List Json} (h : ∀ e ∈ es,Ordered e) : Ordered (.arr es) := by
  rw [Ordered,orderedElements_iff]
  exact h

theorem ofOptions_inj {ms ns : List (JsString × Option Json)} (h : ofOptions ms = ofOptions ns)
    (hnames : ms.map Prod.fst = ns.map Prod.fst) (hnodup : (ms.map Prod.fst).Nodup) : ms = ns := by
  replace h := Json.obj.inj h
  induction ms generalizing ns with
  | nil => exact (List.map_eq_nil_iff.mp hnames.symm).symm
  | cons m ms ih =>
    cases ns with
    | nil => cases hnames
    | cons n ns =>
      obtain ⟨k,o⟩ := m
      obtain ⟨l,p⟩ := n
      simp only [List.map_cons,List.cons.injEq] at hnames
      obtain ⟨rfl,hnames⟩ := hnames
      rw [List.map_cons,List.nodup_cons] at hnodup
      have absent : ∀ {os : List (JsString × Option Json)},os.map Prod.fst = ms.map Prod.fst →
          ∀ v, (k,v) ∉ present os := by
        intro os hos v hmem
        exact hnodup.1 (hos ▸ List.mem_map.mpr ⟨_,mem_present.mp hmem,rfl⟩)
      cases o with
      | none =>
        cases p with
        | none => rw [ih hnames hnodup.2 h]
        | some w =>
          have hmem : (k,w) ∈ present ms := h.symm ▸ List.mem_cons_self
          exact absurd hmem (absent rfl w)
      | some v =>
        cases p with
        | none =>
          have hmem : (k,v) ∈ present ns := h ▸ List.mem_cons_self
          exact absurd hmem (absent hnames.symm v)
        | some w =>
          obtain ⟨hhead,htail⟩ := List.cons.inj h
          rw [ih hnames hnodup.2 htail,(Prod.mk.inj hhead).2]

variable {α : Type} {r : α → α → Prop} {p : α → Bool} {l : List α}

theorem filter_orderedInsert [DecidableRel r] {a : α} (h : ∀ b ∈ l,p b → p a → r a b) :
    (l.orderedInsert r a).filter p = (a :: l).filter p := by
  induction l with
  | nil => rfl
  | cons b l ih =>
    rw [List.orderedInsert]
    split
    · rfl
    · next hr =>
      have hl := ih (fun c hc => h c (List.mem_cons_of_mem _ hc))
      by_cases hb : p b
      · have ha : ¬ p a := fun ha => hr (h b List.mem_cons_self hb ha)
        rw [List.filter_cons_of_neg ha] at hl
        rw [List.filter_cons_of_pos hb,hl,List.filter_cons_of_neg ha,List.filter_cons_of_pos hb]
      · rw [List.filter_cons_of_neg hb,hl,List.filter_cons,List.filter_cons,List.filter_cons_of_neg hb]

/-- A sort keeps the order of elements that are in order among themselves. -/
theorem filter_insertionSort [DecidableRel r] (h : ∀ a b,p a → p b → r a b) :
    (l.insertionSort r).filter p = l.filter p := by
  induction l with
  | nil => rfl
  | cons a l ih =>
    rw [List.insertionSort_cons,filter_orderedInsert (fun b _ hb ha => h a b ha hb),List.filter_cons,List.filter_cons,
      ih]

theorem findRev_eq_getLast : l.findRev? p = (l.filter p).getLast? := by
  induction l with
  | nil => rfl
  | cons a l ih =>
    rw [List.findRev?,ih,List.filter_cons]
    cases hl : (l.filter p).getLast? with
    | none =>
      rw [List.getLast?_eq_none_iff.mp hl]
      cases p a <;> rfl
    | some b =>
      by_cases ha : p a
      · rw [if_pos ha,if_pos ha,List.getLast?_cons,hl]
        rfl
      · rw [if_neg ha,if_neg ha,hl]

theorem sortMembers_eq_map (ms : List (JsString × Json)) : sortMembers ms = ms.map (fun m => (m.1,sortKeys m.2)) := by
  induction ms with
  | nil => rfl
  | cons m ms ih =>
    obtain ⟨k,v⟩ := m
    rw [sortMembers,ih,List.map_cons]

theorem field_sortKeys (v : Json) (name : JsString) : (sortKeys v).field name = (v.field name).map sortKeys := by
  cases v with
  | obj ms =>
    have hsort : ∀ a b : JsString × Json,decide (a.1 = name) → decide (b.1 = name) → a.1 ≤ b.1 := by
      intro a b ha hb
      rw [of_decide_eq_true ha,of_decide_eq_true hb]
      exact (JsString.le_total name name).elim id id
    rw [sortKeys,field,field,findRev_eq_getLast,findRev_eq_getLast,filter_insertionSort hsort,
      sortMembers_eq_map,List.filter_map,List.getLast?_map,Option.map_map,Option.map_map]
    rfl
  | null | bool _ | num _ | str _ | arr _ => rfl

theorem sortKeys_eq_of_canonicalJson {v w : Json} (h : canonicalJson v = canonicalJson w) : sortKeys v = sortKeys w := by
  have hparse := congrArg parse (JsString.ofChars_injective h)
  rw [parse_stringify,parse_stringify] at hparse
  exact Option.some.inj hparse

theorem field_ofOptions {name : JsString} {o : Option Json} (hnodup : (ms.map Prod.fst).Nodup) (h : (name,o) ∈ ms) :
    (ofOptions ms).field name = o := by
  have hunique : ∀ o',(name,o') ∈ ms → o' = o := by
    intro o' ho'
    have he := List.inj_on_of_nodup_map hnodup ho' h rfl
    exact congrArg Prod.snd he
  rw [ofOptions,field,findRev_eq_getLast]
  cases hlast : ((present ms).filter (fun m => m.1 = name)).getLast? with
  | none =>
    cases o with
    | none => rfl
    | some v =>
      have hmem : (name,v) ∈ (present ms).filter (fun m => m.1 = name) :=
        List.mem_filter.mpr ⟨mem_present.mpr h,decide_eq_true rfl⟩
      rw [List.getLast?_eq_none_iff.mp hlast] at hmem
      cases hmem
  | some m =>
    obtain ⟨hm,hname⟩ := List.mem_filter.mp (List.mem_of_getLast? hlast)
    have hname : m.1 = name := of_decide_eq_true hname
    have hpresent : (m.1,some m.2) ∈ ms := mem_present.mp hm
    rw [hname] at hpresent
    exact hunique _ hpresent

end Json

end Malink
