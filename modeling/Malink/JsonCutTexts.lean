import Malink.JsonTextRoundTrip
import Mathlib.Data.List.TakeWhile

/-!
# Cut JSON texts

What the reader has accepted stays accepted when more text follows. With the round trip this shows
that the text of an object, cut anywhere before its closing brace, is refused.
-/

namespace Malink

namespace Json

open List Option
open Char (isDigit)

private theorem isSuffix_skipWs (s : List Char) : skipWs s <:+ s := dropWhile_suffix _

variable {s r : List Char} {c : Char} {s p t : List Char} {n : ℕ} {v : Json}

private theorem skipWs_append (h : skipWs s = c :: r) (t : List Char) : skipWs (s ++ t) = c :: (r ++ t) := by
  unfold skipWs at h ⊢
  rw [dropWhile_append,h]
  rfl

private theorem skipWs_ne_nil (h : skipWs s = c :: r) : s ≠ [] := by
  rintro rfl
  simp [skipWs] at h

private theorem isSuffix_of_skipWs (h : skipWs s = c :: r) : r <:+ s := (suffix_cons c r).trans (h ▸ isSuffix_skipWs s)

private theorem parseUnits_append : ∀ {us r}, parseUnits s = some (us,r) →
    r <:+ s ∧ ∀ t, parseUnits (s ++ t) = some (us,r ++ t) := by
  induction s using parseUnits.induct with
  | case1 => simp [parseUnits]
  | case2 s =>
    intro us r h
    simp only [parseUnits,some.injEq,Prod.mk.injEq] at h
    obtain ⟨rfl,rfl⟩ := h
    exact ⟨suffix_cons _ _,fun t => by simp [parseUnits]⟩
  | case3 a b c d s ih =>
    intro us r h
    simp only [parseUnits,bind_eq_bind,bind_eq_some_iff,some.injEq,Prod.exists,Prod.mk.injEq] at h
    obtain ⟨u,hu,us',r',hr,rfl,rfl⟩ := h
    obtain ⟨hsuf,hext⟩ := ih hr
    refine ⟨?_,fun t => ?_⟩
    · exact hsuf.trans ⟨['\\','u',a,b,c,d],rfl⟩
    · simp only [cons_append,parseUnits,hu,hext t,bind_eq_bind,bind_some]
  | case4 c s hc ih =>
    intro us r h
    rw [parseUnits.eq_4 c s hc,bind_eq_bind,bind_eq_some_iff] at h
    obtain ⟨u,hu,h⟩ := h
    have hne : c ≠ 'u' := by
      rintro rfl
      simp [simpleEscape] at hu
    simp only [bind_eq_bind,bind_eq_some_iff,some.injEq,Prod.exists,Prod.mk.injEq] at h
    obtain ⟨us',r',hr,rfl,rfl⟩ := h
    obtain ⟨hsuf,hext⟩ := ih hr
    refine ⟨hsuf.trans ⟨['\\',c],rfl⟩,fun t => ?_⟩
    rw [cons_append,cons_append,parseUnits_simple hne hu,hext t]
    rfl
  | case5 c s hq hhex hesc hbad =>
    intro us r h
    rw [parseUnits.eq_5 c s hq hhex hesc,if_pos hbad] at h
    exact absurd h (by simp)
  | case6 c s hq hhex hesc hbad ih =>
    intro us r h
    simp only [Bool.or_eq_true,decide_eq_true_eq,not_or,not_lt] at hbad
    rw [parseUnits_plain hq hbad.1 hbad.2,map_eq_some_iff] at h
    obtain ⟨⟨us',r'⟩,hr,h⟩ := h
    obtain ⟨rfl,rfl⟩ := Prod.mk.inj h
    obtain ⟨hsuf,hext⟩ := ih hr
    refine ⟨hsuf.trans (suffix_cons c s),fun t => ?_⟩
    rw [cons_append,parseUnits_plain hq hbad.1 hbad.2,hext t]
    rfl

private theorem parseDigits_append (h : parseDigits s = some (n,r)) : (r <:+ s ∧ r.length < s.length) ∧
      ∀ t, r ≠ [] ∨ t = [] → parseDigits (s ++ t) = some (n,r ++ t) := by
  unfold parseDigits at h
  simp only [ite_none_right_eq_some,some.injEq,Prod.mk.injEq] at h
  obtain ⟨⟨hcanon,hdot,he,hE⟩,hn,hr⟩ := h
  rw [hn] at hcanon
  have hlt : r.length < s.length := by
    have hlen := congrArg List.length (takeWhile_append_dropWhile (p := isDigit) (l := s))
    rw [← hcanon,hr,length_append] at hlen
    have := length_pos_iff.mpr (Nat.toDigits_ne_nil (b := 10) (n := n))
    omega
  refine ⟨⟨hr ▸ dropWhile_suffix _,hlt⟩,?_⟩
  rintro t (hne | rfl)
  · have hdrop : (s ++ t).dropWhile isDigit = r ++ t := by
      rw [dropWhile_append,hr]
      simp [hne]
    have htake : (s ++ t).takeWhile isDigit = s.takeWhile isDigit := by
      have hall : ∀ c ∈ s.takeWhile isDigit,c.isDigit := fun c hc =>
        mem_takeWhile_imp hc
      obtain ⟨c,r',rfl⟩ := exists_cons_of_ne_nil hne
      have hc : c.isDigit = false := by
        have := head?_dropWhile_not isDigit s
        rw [hr] at this
        simpa using this
      conv_lhs => rw [← takeWhile_append_dropWhile (p := isDigit) (l := s),hr,
        append_assoc,takeWhile_append_of_pos hall]
      simp [hc]
    have hhead : ∀ c,(r ++ t).head? ≠ some c ↔ r.head? ≠ some c := by
      intro c
      obtain ⟨d,r',rfl⟩ := exists_cons_of_ne_nil hne
      simp
    subst hr
    simp only [parseDigits,hdrop,htake,hhead]
    simp [hcanon,hdot,he,hE,hn]
  · subst hr
    simp [parseDigits,hcanon,hdot,he,hE,hn]

private theorem parseNumber_append (h : parseNumber s = some (v,r)) : (r <:+ s ∧ r.length < s.length) ∧
      ∀ t, r ≠ [] ∨ t = [] → parseNumber (s ++ t) = some (v,r ++ t) := by
  cases s with
  | nil => simp [parseNumber,parseDigits] at h
  | cons c s =>
    by_cases hc : c = '-'
    · subst hc
      simp only [parseNumber,map_eq_some_iff,Prod.exists,Prod.mk.injEq] at h
      obtain ⟨n,r',hr,rfl,rfl⟩ := h
      obtain ⟨hsuf,hext⟩ := parseDigits_append hr
      refine ⟨⟨hsuf.1.trans (suffix_cons _ _),Nat.lt_succ_of_lt hsuf.2⟩,fun t ht => ?_⟩
      simp [parseNumber,hext t ht]
    · have heq : ∀ s',parseNumber (c :: s') =
          (parseDigits (c :: s')).map (fun p => (.num p.1,p.2)) := by
        intro s'
        rw [parseNumber.eq_def]
        split
        · next h => exact absurd (cons.inj h).1 hc
        · rfl
      rw [heq,map_eq_some_iff] at h
      obtain ⟨⟨n,r'⟩,hr,h⟩ := h
      obtain ⟨rfl,rfl⟩ := Prod.mk.inj h
      obtain ⟨hsuf,hext⟩ := parseDigits_append hr
      refine ⟨hsuf,fun t ht => ?_⟩
      rw [cons_append,heq,← cons_append,hext t ht]
      rfl

private theorem expect_append {word : String} {w : Json} (h : expect word w s = some (v,r)) :
    r <:+ s ∧ ∀ t, expect word w (s ++ t) = some (v,r ++ t) := by
  simp only [expect,ite_none_right_eq_some,some.injEq,Prod.mk.injEq] at h
  obtain ⟨⟨u,rfl⟩,rfl,rfl⟩ := h
  refine ⟨by simp,fun t => ?_⟩
  simp [expect,append_assoc]

private theorem parseAtom_append (h : (if c = '"' then (parseUnits s).map (fun p => (Json.str ⟨p.1⟩,p.2))
      else if c = 't' then expect "rue" (.bool true) s
      else if c = 'f' then expect "alse" (.bool false) s
      else if c = 'n' then expect "ull" .null s
      else parseNumber (c :: s)) = some (v,r)) :
    r <:+ s ∧ ∀ (m : ℕ) t, n ≤ m → r ≠ [] ∨ t = [] →
      (if c = '"' then (parseUnits (s ++ t)).map (fun p => (Json.str ⟨p.1⟩,p.2))
      else if c = 't' then expect "rue" (.bool true) (s ++ t)
      else if c = 'f' then expect "alse" (.bool false) (s ++ t)
      else if c = 'n' then expect "ull" .null (s ++ t)
      else parseNumber (c :: (s ++ t))) = some (v,r ++ t) := by
  split at h
  · next hc =>
    simp only [hc,if_true]
    rw [map_eq_some_iff] at h
    obtain ⟨⟨us,r'⟩,hu,h⟩ := h
    obtain ⟨rfl,rfl⟩ := Prod.mk.inj h
    obtain ⟨hsuf,hext⟩ := parseUnits_append hu
    exact ⟨hsuf,fun m t _ _ => by rw [hext t]; rfl⟩
  · next hq =>
    simp only [hq,if_false]
    split at h
    · next hc =>
      simp only [hc,if_true]
      exact ⟨(expect_append h).1,fun m t _ _ => (expect_append h).2 t⟩
    · next ht =>
      simp only [ht,if_false]
      split at h
      · next hc =>
        simp only [hc,if_true]
        exact ⟨(expect_append h).1,fun m t _ _ => (expect_append h).2 t⟩
      · next hf =>
        simp only [hf,if_false]
        split at h
        · next hc =>
          simp only [hc,if_true]
          exact ⟨(expect_append h).1,fun m t _ _ => (expect_append h).2 t⟩
        · next hn =>
          simp only [hn,if_false]
          obtain ⟨hsuf,hext⟩ := parseNumber_append h
          refine ⟨(suffix_cons_iff.mp hsuf.1).resolve_left ?_,fun m t _ ht => hext t ht⟩
          rintro rfl
          exact absurd hsuf.2 (lt_irrefl _)

private theorem head?_skipWs_append (h : skipWs s ≠ []) (t : List Char) :
    (skipWs (s ++ t)).head? = (skipWs s).head? := by
  obtain ⟨c,r,hs⟩ := exists_cons_of_ne_nil h
  rw [skipWs_append hs,hs]
  rfl

private theorem skipWs_ne_nil_of_parseMembers
    {p : List (JsString × Json) × List Char} (h : parseMembers n s = some p) : skipWs s ≠ [] := by
  intro hs
  cases n <;> simp [parseMembers,hs] at h

private theorem skipWs_ne_nil_of_parseElements
    {p : List Json × List Char} (h : parseElements n s = some p) : skipWs s ≠ [] := by
  intro hs
  cases n with
  | zero => simp [parseElements] at h
  | succ n => cases n <;> simp [parseElements,parseValue,hs] at h

/-- A reader that took the front of a text does the same when more text follows and with more fuel.
A number could go on in the following text, so a rest is asked for where a value may be one. -/
private theorem parse_append (n : ℕ) : (∀ s v r,parseValue n s = some (v,r) → r <:+ s ∧
      ∀ m t,n ≤ m → r ≠ [] ∨ t = [] → parseValue m (s ++ t) = some (v,r ++ t)) ∧
    (∀ s es r,parseElements n s = some (es,r) → r <:+ s ∧ ∀ m t,n ≤ m → parseElements m (s ++ t) = some (es,r ++ t)) ∧
    (∀ s ms r,parseMembers n s = some (ms,r) → (∃ p,s = p ++ '}' :: r) ∧
      ∀ m t,n ≤ m → parseMembers m (s ++ t) = some (ms,r ++ t)) := by
  induction n with
  | zero => simp [parseValue,parseElements,parseMembers]
  | succ n ih =>
    obtain ⟨ihv,ihe,ihm⟩ := ih
    refine ⟨?_,?_,?_⟩
    · intro s v r h
      rw [parseValue] at h
      cases hs : skipWs s with
      | nil => simp [hs] at h
      | cons c s' =>
        simp only [hs] at h
        have hsuf : s' <:+ s := isSuffix_of_skipWs hs
        suffices hgoal : r <:+ s' ∧ ∀ m t,n ≤ m → r ≠ [] ∨ t = [] →
            parseValue (m + 1) (s ++ t) = some (v,r ++ t) by
          refine ⟨hgoal.1.trans hsuf,fun m t hm ht => ?_⟩
          obtain ⟨m,rfl⟩ : ∃ k,m = k + 1 := ⟨m - 1,by omega⟩
          exact hgoal.2 m t (by omega) ht
        have hws : isWs c = false := by
          have hnot := head?_dropWhile_not isWs s
          unfold skipWs at hs
          rw [hs] at hnot
          simpa using hnot
        simp only [parseValue,skipWs_append hs]
        split at h
        · next hc =>
          simp only [hc,if_true]
          split at h
          · next hclose =>
            obtain ⟨r₁,hr₁⟩ : ∃ r₁,skipWs s' = '}' :: r₁ := head?_eq_some_iff.mp hclose
            simp only [hr₁,tail_cons,some.injEq,Prod.mk.injEq] at h
            obtain ⟨rfl,rfl⟩ := h
            refine ⟨isSuffix_of_skipWs hr₁,fun m t _ _ => ?_⟩
            simp [skipWs_append hr₁]
          · next hclose =>
            rw [map_eq_some_iff] at h
            obtain ⟨⟨ms,r'⟩,hm,h⟩ := h
            obtain ⟨rfl,rfl⟩ := Prod.mk.inj h
            obtain ⟨⟨p,hp⟩,hext⟩ := ihm s' ms r' hm
            refine ⟨⟨p ++ ['}'],by rw [hp]; simp⟩,fun m t hm' _ => ?_⟩
            rw [head?_skipWs_append (skipWs_ne_nil_of_parseMembers hm),if_neg hclose,hext m t hm']
            rfl
        · next hobj =>
          simp only [hobj,if_false]
          split at h
          · next hc =>
            simp only [hc,if_true]
            split at h
            · next hclose =>
              obtain ⟨r₁,hr₁⟩ : ∃ r₁,skipWs s' = ']' :: r₁ := head?_eq_some_iff.mp hclose
              simp only [hr₁,tail_cons,some.injEq,Prod.mk.injEq] at h
              obtain ⟨rfl,rfl⟩ := h
              refine ⟨isSuffix_of_skipWs hr₁,fun m t _ _ => ?_⟩
              simp [skipWs_append hr₁]
            · next hclose =>
              rw [map_eq_some_iff] at h
              obtain ⟨⟨es,r'⟩,he,h⟩ := h
              obtain ⟨rfl,rfl⟩ := Prod.mk.inj h
              obtain ⟨hsuf',hext⟩ := ihe s' es r' he
              refine ⟨hsuf',fun m t hm' _ => ?_⟩
              rw [head?_skipWs_append (skipWs_ne_nil_of_parseElements he),if_neg hclose,hext m t hm']
              rfl
          · next harr =>
            simp only [harr,if_false]
            exact parseAtom_append h
    · intro s es r h
      rw [parseElements] at h
      cases hv : parseValue n s with
      | none => simp [hv] at h
      | some p =>
        obtain ⟨v,r₁⟩ := p
        cases hs : skipWs r₁ with
        | nil => simp [hv,hs] at h
        | cons c r₂ =>
          obtain ⟨hsuf₁,hext₁⟩ := ihv s v r₁ hv
          have hsuf₂ := (isSuffix_of_skipWs hs).trans hsuf₁
          simp only [hv,hs] at h
          split at h
          · next hc =>
            simp only [some.injEq,Prod.mk.injEq] at h
            obtain ⟨rfl,rfl⟩ := h
            refine ⟨hsuf₂,fun m t hm => ?_⟩
            obtain ⟨m,rfl⟩ : ∃ k,m = k + 1 := ⟨m - 1,by omega⟩
            simp only [parseElements,hext₁ m t (by omega) (.inl (skipWs_ne_nil hs)),
              skipWs_append hs t,hc,if_true]
          · next hc =>
            simp only [ite_none_right_eq_some,map_eq_some_iff] at h
            obtain ⟨hc',⟨es',r'⟩,he,h⟩ := h
            obtain ⟨rfl,rfl⟩ := Prod.mk.inj h
            obtain ⟨hsuf₃,hext₃⟩ := ihe r₂ es' r' he
            refine ⟨hsuf₃.trans hsuf₂,fun m t hm => ?_⟩
            obtain ⟨m,rfl⟩ : ∃ k,m = k + 1 := ⟨m - 1,by omega⟩
            simp only [parseElements,hext₁ m t (by omega) (.inl (skipWs_ne_nil hs)),
              skipWs_append hs t,hc',if_true,hext₃ m t (by omega)]
            rfl
    · intro s ms r h
      rw [parseMembers] at h
      cases hs : skipWs s with
      | nil => simp [hs] at h
      | cons q s₁ =>
        simp only [hs,ite_none_right_eq_some] at h
        obtain ⟨rfl,h⟩ := h
        cases hk : parseUnits s₁ with
        | none => simp [hk] at h
        | some p =>
          obtain ⟨k,r₁⟩ := p
          simp only [hk] at h
          cases hs₁ : skipWs r₁ with
          | nil => simp [hs₁] at h
          | cons colon r₂ =>
            simp only [hs₁,ite_none_right_eq_some] at h
            obtain ⟨rfl,h⟩ := h
            cases hv : parseValue n r₂ with
            | none => simp [hv] at h
            | some p =>
              obtain ⟨v,r₃⟩ := p
              simp only [hv] at h
              cases hs₃ : skipWs r₃ with
              | nil => simp [hs₃] at h
              | cons c r₄ =>
                obtain ⟨hsufk,hextk⟩ := parseUnits_append hk
                obtain ⟨hsufv,hextv⟩ := ihv r₂ v r₃ hv
                have hsuf : c :: r₄ <:+ s := ((hs₃ ▸ isSuffix_skipWs r₃ : c :: r₄ <:+ r₃).trans
                  hsufv).trans (((isSuffix_of_skipWs hs₁).trans hsufk).trans (isSuffix_of_skipWs hs))
                simp only [hs₃] at h
                split at h
                · next hc =>
                  simp only [some.injEq,Prod.mk.injEq] at h
                  obtain ⟨rfl,rfl⟩ := h
                  subst hc
                  obtain ⟨p,hp⟩ := hsuf
                  refine ⟨⟨p,hp.symm⟩,fun m t hm => ?_⟩
                  obtain ⟨m,rfl⟩ : ∃ k,m = k + 1 := ⟨m - 1,by omega⟩
                  simp only [parseMembers,skipWs_append hs t,if_true,hextk t,skipWs_append hs₁ t,
                    hextv m t (by omega) (.inl (skipWs_ne_nil hs₃)),skipWs_append hs₃ t]
                · next hc =>
                  simp only [ite_none_right_eq_some,map_eq_some_iff] at h
                  obtain ⟨rfl,⟨ms',r'⟩,hm,h⟩ := h
                  obtain ⟨rfl,rfl⟩ := Prod.mk.inj h
                  obtain ⟨⟨p,hp⟩,hextm⟩ := ihm r₄ ms' r' hm
                  obtain ⟨p',hp'⟩ := hsuf
                  refine ⟨⟨p' ++ ',' :: p,by rw [← hp',hp]; simp⟩,fun m t hm => ?_⟩
                  obtain ⟨m,rfl⟩ : ∃ k,m = k + 1 := ⟨m - 1,by omega⟩
                  simp only [parseMembers,skipWs_append hs t,if_true,hextk t,skipWs_append hs₁ t,
                    hextv m t (by omega) (.inl (skipWs_ne_nil hs₃)),skipWs_append hs₃ t,hc,if_false,
                    hextm m t (by omega)]
                  rfl

/-- An object is read up to a closing brace, so nothing has to follow it. -/
private theorem parseObject_append (h : parseValue n ('{' :: s) = some (v,r)) : (∃ p,'{' :: s = p ++ '}' :: r) ∧
      ∀ m t, n ≤ m → parseValue m ('{' :: s ++ t) = some (v,r ++ t) := by
  obtain ⟨n,rfl⟩ : ∃ k,n = k + 1 := by
    cases n with
    | zero => simp [parseValue] at h
    | succ n => exact ⟨n,rfl⟩
  have hopen : ∀ u,skipWs ('{' :: u) = '{' :: u := skipWs_of_not_ws (by decide)
  simp only [parseValue,hopen,if_true] at h
  split at h
  · next hclose =>
    obtain ⟨r₁,hr₁⟩ : ∃ r₁,skipWs s = '}' :: r₁ := head?_eq_some_iff.mp hclose
    simp only [hr₁,tail_cons,some.injEq,Prod.mk.injEq] at h
    obtain ⟨rfl,rfl⟩ := h
    obtain ⟨p,hp⟩ : '}' :: r₁ <:+ s := hr₁ ▸ isSuffix_skipWs s
    refine ⟨⟨'{' :: p,by rw [← hp]; rfl⟩,fun m t hm => ?_⟩
    obtain ⟨m,rfl⟩ : ∃ k,m = k + 1 := ⟨m - 1,by omega⟩
    simp [parseValue,hopen,skipWs_append hr₁]
  · next hclose =>
    rw [map_eq_some_iff] at h
    obtain ⟨⟨ms,r'⟩,hm,h⟩ := h
    obtain ⟨rfl,rfl⟩ := Prod.mk.inj h
    obtain ⟨⟨p,hp⟩,hext⟩ := (parse_append n).2.2 s ms r' hm
    refine ⟨⟨'{' :: p,by rw [hp]; rfl⟩,fun m t hm' => ?_⟩
    obtain ⟨m,rfl⟩ : ∃ k,m = k + 1 := ⟨m - 1,by omega⟩
    simp only [cons_append,parseValue,hopen,if_true,
      head?_skipWs_append (skipWs_ne_nil_of_parseMembers hm),if_neg hclose,hext m t (by omega)]
    rfl

private theorem parse_eq_some (h : parse s = some v) :
    ∃ r, parseValue (s.length + 1) s = some (v,r) ∧ skipWs r = [] := by
  unfold parse at h
  split at h
  · next v' r hv =>
    simp only [ite_none_right_eq_some,some.injEq] at h
    exact ⟨r,h.2 ▸ hv,h.1⟩
  · exact absurd h (by simp)

variable {ms : List (JsString × Json)}

private theorem stringify_obj_cut (h : stringify (.obj ms) = p ++ t) (hp : p ≠ []) : ∃ s, p = '{' :: s := by
  obtain ⟨c,s,rfl⟩ := exists_cons_of_ne_nil hp
  rw [stringify,cons_append,cons_append,cons.injEq] at h
  exact ⟨s,by rw [h.1]⟩

/-- The text of an object, cut before its end, holds no value. -/
theorem parse_cut (h : stringify (.obj ms) = p ++ t) (ht : t ≠ []) : parse p = none := by
  rcases eq_or_ne p [] with rfl | hp
  · decide
  rw [eq_none_iff_forall_ne_some]
  intro v hv
  obtain ⟨r,hr,-⟩ := parse_eq_some hv
  obtain ⟨s,rfl⟩ := stringify_obj_cut h hp
  have hall := parseValue_stringify (.obj ms) (('{' :: s ++ t).length + 1) [] (by rw [h]; omega)
    numberEnd_nil
  have hext := (parseObject_append hr).2 (('{' :: s ++ t).length + 1) t (by simp)
  rw [append_nil,h,hext,some.injEq,Prod.mk.injEq] at hall
  exact ht (append_eq_nil_iff.mp hall.2).2

/-- The same with a last character that neither closes an object nor is white space. -/
theorem parse_cut_append (h : stringify (.obj ms) = p ++ t) (hp : p ≠ [])
    (hc : isWs c = false) (hb : c ≠ '}') : parse (p ++ [c]) = none := by
  rw [eq_none_iff_forall_ne_some]
  intro v hv
  obtain ⟨r,hr,hws⟩ := parse_eq_some hv
  obtain ⟨s,rfl⟩ := stringify_obj_cut h hp
  obtain ⟨⟨q,hq⟩,-⟩ := parseObject_append (s := s ++ [c]) hr
  have hlast := congrArg getLast? hq
  rw [← cons_append,getLast?_concat,getLast?_append] at hlast
  cases r with
  | nil =>
    simp only [getLast?_singleton,some_or,some.injEq] at hlast
    exact hb hlast
  | cons d r =>
    rw [getLast?_cons_cons,getLast?_eq_some_getLast (cons_ne_nil d r),some_or,some.injEq] at hlast
    have hmem : c ∈ d :: r := hlast ▸ getLast_mem _
    have hall : ∀ x ∈ d :: r,isWs x := dropWhile_eq_nil_iff.mp hws
    rw [hall c hmem] at hc
    exact absurd hc (by simp)

end Json

end Malink
