import Malink.JsonText
import Mathlib.Data.Nat.Digits.Defs
import Mathlib.Data.List.TakeDrop
import Mathlib.Tactic.IntervalCases

/-!
# Reading back a JSON text

The reader returns the value that the writer wrote, whatever follows it.
-/

namespace Malink

namespace Json

open List

variable (n : ℕ)

private theorem hexValue_hexDigit : hexValue (hexDigit n) = some (n % 16) := by
  have h : ∀ m : Fin 16,hexValue (Nat.digitChar m) = some m.val := by decide
  exact h ⟨n % 16,Nat.mod_lt n (by omega)⟩

private theorem readHex_hexDigits (u : UInt16) :
    readHex (hexDigit (u.toNat / 4096)) (hexDigit (u.toNat / 256)) (hexDigit (u.toNat / 16))
      (hexDigit u.toNat) = some u := by
  have hu := u.toNat_lt
  have hsum : ((u.toNat / 4096 % 16 * 16 + u.toNat / 256 % 16) * 16 + u.toNat / 16 % 16) * 16 +
      u.toNat % 16 = u.toNat := by omega
  simp only [readHex,hexValue_hexDigit,Option.bind_eq_bind,Option.bind_some,hsum,UInt16.ofNat_toNat]

variable {u : UInt16}

theorem toNat_ofNat_unit (h : ¬ isHigh u) (l : ¬ isLow u) : (Char.ofNat u.toNat).toNat = u.toNat := by
  have hu := u.toNat_lt
  have hv : u.toNat.isValidChar := by
    simp only [isHigh,isLow,Bool.and_eq_true,decide_eq_true_eq,not_and,not_lt] at h l
    unfold Nat.isValidChar
    omega
  rw [Char.ofNat,dif_pos hv]
  rfl

variable {c : Char}

theorem parseUnits_plain (hq : c ≠ '"') (hb : c ≠ '\\') (hc : 32 ≤ c.toNat) (s : List Char) :
    parseUnits (c :: s) =
      (parseUnits s).map (fun p => (JsString.encodeChar c ++ p.1,p.2)) := by
  have hlt : ¬ c.toNat < 32 := by omega
  rw [parseUnits.eq_def]
  split
  · next h => exact absurd h (by simp)
  · next h => exact absurd (cons.inj h).1 hq
  · next h => exact absurd (cons.inj h).1 hb
  · next h => exact absurd (cons.inj h).1 hb
  · next c' r _ _ _ h =>
    obtain ⟨rfl,rfl⟩ := cons.inj h
    simp only [hb,hlt,decide_false,Bool.or_false,Bool.false_eq_true,if_false]
    cases parseUnits s <;> rfl

theorem parseUnits_simple (hu : c ≠ 'u') (h : simpleEscape c = some u) (s : List Char) :
    parseUnits ('\\' :: c :: s) = (parseUnits s).map (fun p => (u :: p.1,p.2)) := by
  rw [parseUnits.eq_def]
  split
  · next h => exact absurd h (by simp)
  · next h => exact absurd (cons.inj h).1 (by decide)
  · next h => exact absurd (cons.inj (cons.inj h).2).1 hu
  · next h' =>
    obtain ⟨rfl,rfl⟩ := cons.inj (cons.inj h').2
    simp only [h,Option.bind_eq_bind,Option.bind_some]
    cases parseUnits s <;> rfl
  · next hn h' =>
    obtain ⟨rfl,rfl⟩ := cons.inj h'
    exact absurd rfl (hn c s rfl)

private theorem parseUnits_hex (u : UInt16) (s : List Char) :
    parseUnits (escapeHex u ++ s) = (parseUnits s).map (fun p => (u :: p.1,p.2)) := by
  simp only [escapeHex,cons_append,nil_append,parseUnits,readHex_hexDigits,
    Option.bind_eq_bind,Option.bind_some]
  cases parseUnits s <;> rfl

private theorem parseUnits_escapeUnit (u : UInt16) (s : List Char) :
    parseUnits (escapeUnit u ++ s) = (parseUnits s).map (fun p => (u :: p.1,p.2)) := by
  have hunit : ∀ n : ℕ,u.toNat = n → u = UInt16.ofNat n := fun n h => by
    rw [← h,UInt16.ofNat_toNat]
  unfold escapeUnit
  split
  · next h => exact parseUnits_simple (by decide) (by rw [hunit 34 h]; decide) s
  split
  · next h => exact parseUnits_simple (by decide) (by rw [hunit 92 h]; decide) s
  split
  · next h => exact parseUnits_simple (by decide) (by rw [hunit 8 h]; decide) s
  split
  · next h => exact parseUnits_simple (by decide) (by rw [hunit 9 h]; decide) s
  split
  · next h => exact parseUnits_simple (by decide) (by rw [hunit 10 h]; decide) s
  split
  · next h => exact parseUnits_simple (by decide) (by rw [hunit 12 h]; decide) s
  split
  · next h => exact parseUnits_simple (by decide) (by rw [hunit 13 h]; decide) s
  split
  · exact parseUnits_hex u s
  · next hq hb _ _ _ _ _ hplain =>
    simp only [Bool.or_eq_true,decide_eq_true_eq,not_or,not_lt] at hplain
    have hval := toNat_ofNat_unit hplain.1.2 hplain.2
    have hlt := u.toNat_lt
    have hne : ∀ c : Char,u.toNat ≠ c.toNat → Char.ofNat u.toNat ≠ c := by
      rintro c hc rfl
      exact hc hval.symm
    have hunits : JsString.encodeChar (Char.ofNat u.toNat) = [u] := by
      unfold JsString.encodeChar
      rw [hval,if_pos (by simpa using hlt),UInt16.ofNat_toNat]
    rw [singleton_append,parseUnits_plain (hne '"' hq) (hne '\\' hb) (by omega),hunits]
    rfl

theorem encodeChar_pair {l : UInt16} (hu : isHigh u) (hl : isLow l) :
    (Char.ofNat (0x10000 + (u.toNat - 0xD800) * 0x400 + (l.toNat - 0xDC00))).toNat =
        0x10000 + (u.toNat - 0xD800) * 0x400 + (l.toNat - 0xDC00) ∧ JsString.encodeChar
        (Char.ofNat (0x10000 + (u.toNat - 0xD800) * 0x400 + (l.toNat - 0xDC00))) = [u,l] := by
  simp only [isHigh,isLow,Bool.and_eq_true,decide_eq_true_eq] at hu hl
  have hv : (0x10000 + (u.toNat - 0xD800) * 0x400 + (l.toNat - 0xDC00)).isValidChar := by
    unfold Nat.isValidChar
    omega
  have hval : (Char.ofNat (0x10000 + (u.toNat - 0xD800) * 0x400 + (l.toNat - 0xDC00))).toNat =
      0x10000 + (u.toNat - 0xD800) * 0x400 + (l.toNat - 0xDC00) := by
    rw [Char.ofNat,dif_pos hv]
    rfl
  refine ⟨hval,?_⟩
  unfold JsString.encodeChar
  rw [hval,if_neg (by omega)]
  have hfst : 0xD800 + (0x10000 + (u.toNat - 0xD800) * 0x400 + (l.toNat - 0xDC00) - 0x10000) / 0x400
      = u.toNat := by omega
  have hsnd : 0xDC00 + (0x10000 + (u.toNat - 0xD800) * 0x400 + (l.toNat - 0xDC00) - 0x10000) % 0x400
      = l.toNat := by omega
  rw [hfst,hsnd,UInt16.ofNat_toNat,UInt16.ofNat_toNat]

theorem parseUnits_escapeUnits (us : List UInt16) (r : List Char) :
    parseUnits (escapeUnits us ++ '"' :: r) = some (us,r) := by
  induction us using escapeUnits.induct with
  | case1 => simp [escapeUnits,parseUnits]
  | case2 u =>
    simp only [escapeUnits]
    rw [parseUnits_escapeUnit]
    simp [parseUnits]
  | case3 u l us hpair ih =>
    rw [Bool.and_eq_true] at hpair
    obtain ⟨hval,hunits⟩ := encodeChar_pair hpair.1 hpair.2
    have hne : ∀ c : Char,c.toNat < 0x10000 →
        Char.ofNat (0x10000 + (u.toNat - 0xD800) * 0x400 + (l.toNat - 0xDC00)) ≠ c := by
      intro c hc he
      rw [he] at hval
      omega
    simp only [escapeUnits,hpair.1,hpair.2,Bool.and_self,if_true,cons_append]
    rw [parseUnits_plain (hne _ (by decide)) (hne _ (by decide)) (by omega),ih,hunits]
    rfl
  | case4 u l us hpair ih =>
    simp only [escapeUnits,hpair,if_false,append_assoc,Bool.false_eq_true]
    rw [parseUnits_escapeUnit,ih]
    rfl

/-- What may follow an integer: nothing that would continue the number. -/
def NumberEnd (r : List Char) : Prop := ∀ c, r.head? = some c → c.isDigit = false ∧ c ≠ '.' ∧ c ≠ 'e' ∧ c ≠ 'E'

theorem numberEnd_nil : NumberEnd [] := by
  intro c h
  simp at h

theorem numberEnd_cons (h : c.isDigit = false ∧ c ≠ '.' ∧ c ≠ 'e' ∧ c ≠ 'E') (r : List Char) : NumberEnd (c :: r) := by
  intro d hd
  rw [head?_cons,Option.some.injEq] at hd
  exact hd ▸ h

theorem isDigit_toDigits : ∀ c ∈ Nat.toDigits 10 n, c.isDigit :=
  fun _ hc => Nat.isDigit_of_mem_toDigits (by omega) (by omega) hc

private theorem parseDigits_toDigits {r : List Char} (hr : NumberEnd r) :
    parseDigits (Nat.toDigits 10 n ++ r) = some (n,r) := by
  have htail : r.takeWhile Char.isDigit = [] ∧ r.dropWhile Char.isDigit = r := by
    cases r with
    | nil => simp
    | cons c r => simp [(hr c rfl).1]
  have hdrop : (Nat.toDigits 10 n ++ r).dropWhile Char.isDigit = r := by
    rw [dropWhile_append_of_pos (isDigit_toDigits n),htail.2]
  have htake : (Nat.toDigits 10 n ++ r).takeWhile Char.isDigit = Nat.toDigits 10 n := by
    rw [takeWhile_append_of_pos (isDigit_toDigits n),htail.1,append_nil]
  have hstop : r.head? ≠ some '.' ∧ r.head? ≠ some 'e' ∧ r.head? ≠ some 'E' :=
    ⟨fun h => (hr _ h).2.1 rfl,fun h => (hr _ h).2.2.1 rfl,fun h => (hr _ h).2.2.2 rfl⟩
  simp only [parseDigits,htake,hdrop,Nat.ofDigitChars_ten_toDigits,true_and]
  rw [if_pos hstop]

private theorem exists_digit_cons : ∃ c ds, Nat.toDigits 10 n = c :: ds ∧ c.isDigit := by
  cases h : Nat.toDigits 10 n with
  | nil => exact absurd h (Nat.toDigits_ne_nil)
  | cons c ds => exact ⟨c,ds,rfl,isDigit_toDigits n c (by simp [h])⟩

private theorem parseNumber_stringifyInt (n : ℤ) {r : List Char} (hr : NumberEnd r) :
    parseNumber (stringifyInt n ++ r) = some (.num n,r) := by
  unfold stringifyInt
  split
  · next h =>
    simp only [cons_append,parseNumber,parseDigits_toDigits _ hr,Option.map_some,
      Option.some.injEq,Prod.mk.injEq,Json.num.injEq,and_true]
    omega
  · next h =>
    obtain ⟨c,ds,hcd,hc⟩ := exists_digit_cons n.natAbs
    have hne : c ≠ '-' := by
      rintro rfl
      exact absurd hc (by decide)
    have hp := parseDigits_toDigits n.natAbs hr
    rw [hcd,cons_append] at hp ⊢
    rw [parseNumber.eq_def]
    split
    · next heq => exact absurd (cons.inj heq).1 hne
    · simp only [hp,Option.map_some,Option.some.injEq,Prod.mk.injEq,Json.num.injEq,and_true]
      omega

theorem skipWs_of_not_ws (h : isWs c = false) (s : List Char) : skipWs (c :: s) = c :: s := by
  simp [skipWs,h]

private theorem stringifyInt_head (n : ℤ) : ∃ c ds, stringifyInt n = c :: ds ∧ (c = '-' ∨ c.isDigit) := by
  unfold stringifyInt
  split
  · exact ⟨'-',_,rfl,.inl rfl⟩
  · obtain ⟨c,ds,h,hc⟩ := exists_digit_cons n.natAbs
    exact ⟨c,ds,h,.inr hc⟩

private theorem ne_of_digit (h : c = '-' ∨ c.isDigit) :
    isWs c = false ∧ c ≠ '{' ∧ c ≠ '[' ∧ c ≠ '"' ∧ c ≠ 't' ∧ c ≠ 'f' ∧ c ≠ 'n' ∧ c ≠ ']' := by
  rcases h with rfl | h
  · decide
  · refine ⟨?_,?_,?_,?_,?_,?_,?_,?_⟩
    · by_contra hw
      rw [Bool.not_eq_false] at hw
      simp only [isWs,Bool.or_eq_true,decide_eq_true_eq] at hw
      rcases hw with ((rfl | rfl) | rfl) | rfl <;> exact absurd h (by decide)
    all_goals
      rintro rfl
      exact absurd h (by decide)

private theorem stringify_head (v : Json) : ∃ c s, stringify v = c :: s ∧ isWs c = false ∧ c ≠ ']' := by
  cases v with
  | null => exact ⟨'n',_,by simp [stringify]; rfl,by decide,by decide⟩
  | bool b =>
    cases b
    · exact ⟨'f',_,by simp [stringify]; rfl,by decide,by decide⟩
    · exact ⟨'t',_,by simp [stringify]; rfl,by decide,by decide⟩
  | num n =>
    obtain ⟨c,ds,h,hc⟩ := stringifyInt_head n
    exact ⟨c,ds,by rw [stringify,h],(ne_of_digit hc).1,(ne_of_digit hc).2.2.2.2.2.2.2⟩
  | str s => exact ⟨'"',_,by rw [stringify,stringifyString]; rfl,by decide,by decide⟩
  | arr es => exact ⟨'[',_,by rw [stringify]; rfl,by decide,by decide⟩
  | obj ms => exact ⟨'{',_,by rw [stringify]; rfl,by decide,by decide⟩

private theorem numberEnd_comma (r : List Char) : NumberEnd (',' :: r) := numberEnd_cons (by decide) r

private theorem stringifyElements_head (e : Json) (es : List Json) (r : List Char) :
    ∃ c s, stringifyElements (e :: es) ++ r = c :: s ∧ isWs c = false ∧ c ≠ ']' := by
  obtain ⟨c,s,h,hc⟩ := stringify_head e
  cases es with
  | nil => exact ⟨c,s ++ r,by rw [stringifyElements,h,cons_append],hc⟩
  | cons e' es => exact ⟨c,_,by rw [stringifyElements,h,cons_append,cons_append],hc⟩

private theorem stringifyMembers_head (m : JsString × Json) (ms : List (JsString × Json))
    (r : List Char) : ∃ s, stringifyMembers (m :: ms) ++ r = '"' :: s := by
  obtain ⟨k,v⟩ := m
  cases ms with
  | nil | cons => exact ⟨_,by rw [stringifyMembers,stringifyString]; rfl⟩

mutual
/-- The reader inverts the writer, whatever follows the text of a value. -/
theorem parseValue_stringify (v : Json) (n : ℕ) (r : List Char) (hn : (stringify v).length < n)
    (hr : NumberEnd r) : parseValue n (stringify v ++ r) = some (v,r) := by
  obtain ⟨n,rfl⟩ : ∃ k,n = k + 1 := ⟨n - 1,by omega⟩
  cases v with
  | null => simp [stringify,parseValue,skipWs,isWs,expect]
  | bool b => cases b <;> simp [stringify,parseValue,skipWs,isWs,expect]
  | num i =>
    obtain ⟨c,ds,h,hc⟩ := stringifyInt_head i
    have hp := parseNumber_stringifyInt i hr
    have hne := ne_of_digit hc
    rw [stringify,h,cons_append] at *
    simp only [parseValue,skipWs_of_not_ws hne.1,hne.2.1,hne.2.2.1,hne.2.2.2.1,hne.2.2.2.2.1,
      hne.2.2.2.2.2.1,hne.2.2.2.2.2.2.1,if_false,hp]
  | str s =>
    simp only [stringify,stringifyString,cons_append,append_assoc,nil_append,
      parseValue,skipWs_of_not_ws (show isWs '"' = false by decide)]
    simp [parseUnits_escapeUnits]
  | arr es =>
    rw [stringify,cons_append,cons_append,append_assoc,singleton_append,
      parseValue,skipWs_of_not_ws (by decide)]
    simp only [show ¬ ('[' : Char) = '{' by decide,if_false,if_true]
    cases es with
    | nil => simp [stringifyElements,skipWs,isWs]
    | cons e es =>
      obtain ⟨c,s,h,hws,hc⟩ := stringifyElements_head e es (']' :: r)
      have hlen : (stringifyElements (e :: es)).length + 1 < n := by
        rw [stringify] at hn
        simp only [length_append,length_cons,length_nil] at hn
        omega
      have hhead : (skipWs (stringifyElements (e :: es) ++ ']' :: r)).head? ≠ some ']' := by
        rw [h,skipWs_of_not_ws hws]
        simpa using hc
      rw [if_neg hhead,parseElements_stringify e es n r hlen]
      rfl
  | obj ms =>
    rw [stringify,cons_append,cons_append,append_assoc,singleton_append,
      parseValue,skipWs_of_not_ws (by decide)]
    simp only [if_true]
    cases ms with
    | nil => simp [stringifyMembers,skipWs,isWs]
    | cons m ms =>
      obtain ⟨s,h⟩ := stringifyMembers_head m ms ('}' :: r)
      have hlen : (stringifyMembers (m :: ms)).length + 1 < n := by
        rw [stringify] at hn
        simp only [length_append,length_cons,length_nil] at hn
        omega
      have hhead : (skipWs (stringifyMembers (m :: ms) ++ '}' :: r)).head? ≠ some '}' := by
        rw [h,skipWs_of_not_ws (by decide)]
        simp
      rw [if_neg hhead,parseMembers_stringify m ms n r hlen]
      rfl
termination_by n

theorem parseElements_stringify (e : Json) (es : List Json) (n : ℕ) (r : List Char)
    (hn : (stringifyElements (e :: es)).length + 1 < n) :
    parseElements n (stringifyElements (e :: es) ++ ']' :: r) = some (e :: es,r) := by
  obtain ⟨n,rfl⟩ : ∃ k,n = k + 1 := ⟨n - 1,by omega⟩
  cases es with
  | nil =>
    rw [stringifyElements] at hn ⊢
    rw [parseElements,parseValue_stringify e n (']' :: r) (by omega) (numberEnd_cons (by decide) r)]
    simp [skipWs,isWs]
  | cons e' es =>
    rw [stringifyElements] at hn ⊢
    simp only [length_append,length_cons] at hn
    rw [append_assoc,cons_append,parseElements,
      parseValue_stringify e n _ (by omega) (numberEnd_comma _)]
    simp only [skipWs_of_not_ws (show isWs ',' = false by decide),
      show ¬ (',' : Char) = ']' by decide,if_false,if_true]
    rw [parseElements_stringify e' es n r (by omega)]
    rfl
termination_by n

theorem parseMembers_stringify (m : JsString × Json) (ms : List (JsString × Json)) (n : ℕ)
    (r : List Char) (hn : (stringifyMembers (m :: ms)).length + 1 < n) :
    parseMembers n (stringifyMembers (m :: ms) ++ '}' :: r) = some (m :: ms,r) := by
  obtain ⟨n,rfl⟩ : ∃ k,n = k + 1 := ⟨n - 1,by omega⟩
  obtain ⟨k,v⟩ := m
  cases ms with
  | nil =>
    rw [stringifyMembers] at hn ⊢
    simp only [stringifyString,length_append,length_cons,length_nil] at hn
    simp only [stringifyString,cons_append,append_assoc,nil_append,parseMembers,
      skipWs_of_not_ws (show isWs '"' = false by decide),if_true,parseUnits_escapeUnits,
      skipWs_of_not_ws (show isWs ':' = false by decide)]
    rw [parseValue_stringify v n ('}' :: r) (by omega) (numberEnd_cons (by decide) r)]
    simp [skipWs,isWs]
  | cons m ms =>
    rw [stringifyMembers] at hn ⊢
    simp only [stringifyString,length_append,length_cons,length_nil] at hn
    simp only [stringifyString,cons_append,append_assoc,nil_append,parseMembers,
      skipWs_of_not_ws (show isWs '"' = false by decide),if_true,parseUnits_escapeUnits,
      skipWs_of_not_ws (show isWs ':' = false by decide)]
    rw [parseValue_stringify v n _ (by omega) (numberEnd_comma _)]
    simp only [skipWs_of_not_ws (show isWs ',' = false by decide),
      show ¬ (',' : Char) = '}' by decide,if_false,if_true]
    rw [parseMembers_stringify m ms n r (by omega)]
    rfl
termination_by n
end

theorem parse_stringify (v : Json) : parse (stringify v) = some v := by
  have h := parseValue_stringify v ((stringify v).length + 1) [] (by omega) numberEnd_nil
  rw [append_nil] at h
  simp [parse,h,skipWs]

private theorem le_toNat_hexDigit : 32 ≤ (hexDigit n).toNat := by
  have h : ∀ m : Fin 16,32 ≤ (Nat.digitChar m).toNat := by decide
  exact h ⟨n % 16,Nat.mod_lt n (by omega)⟩

private theorem le_toNat_escapeHex (hc : c ∈ escapeHex u) : 32 ≤ c.toNat := by
  simp only [escapeHex,mem_cons,not_mem_nil,or_false] at hc
  rcases hc with rfl | rfl | rfl | rfl | rfl | rfl
  · decide
  · decide
  all_goals exact le_toNat_hexDigit _

private theorem le_toNat_escapeUnit (hc : c ∈ escapeUnit u) : 32 ≤ c.toNat := by
  have hpair : ∀ {a b : Char},32 ≤ a.toNat → 32 ≤ b.toNat → c ∈ [a,b] → 32 ≤ c.toNat := by
    intro a b ha hb h
    simp only [mem_cons,not_mem_nil,or_false] at h
    rcases h with rfl | rfl <;> assumption
  unfold escapeUnit at hc
  split at hc
  · exact hpair (by decide) (by decide) hc
  split at hc
  · exact hpair (by decide) (by decide) hc
  split at hc
  · exact hpair (by decide) (by decide) hc
  split at hc
  · exact hpair (by decide) (by decide) hc
  split at hc
  · exact hpair (by decide) (by decide) hc
  split at hc
  · exact hpair (by decide) (by decide) hc
  split at hc
  · exact hpair (by decide) (by decide) hc
  split at hc
  · exact le_toNat_escapeHex hc
  · next hplain =>
    simp only [Bool.or_eq_true,decide_eq_true_eq,not_or,not_lt] at hplain
    rw [mem_singleton] at hc
    rw [hc,toNat_ofNat_unit hplain.1.2 hplain.2]
    exact hplain.1.1

private theorem le_toNat_escapeUnits {us : List UInt16} (hc : c ∈ escapeUnits us) : 32 ≤ c.toNat := by
  induction us using escapeUnits.induct with
  | case1 => simp [escapeUnits] at hc
  | case2 u => exact le_toNat_escapeUnit hc
  | case3 u l us hpair ih =>
    rw [Bool.and_eq_true] at hpair
    simp only [escapeUnits,hpair.1,hpair.2,Bool.and_self,if_true,mem_cons] at hc
    rcases hc with hc | hc
    · rw [hc,(encodeChar_pair hpair.1 hpair.2).1,Nat.add_assoc]
      exact Nat.le_add_right_of_le (by decide)
    · exact ih hc
  | case4 u l us hpair ih =>
    simp only [escapeUnits,hpair,if_false,mem_append,Bool.false_eq_true] at hc
    exact hc.elim le_toNat_escapeUnit ih

private theorem le_toNat_stringifyString {s : JsString} (hc : c ∈ stringifyString s) : 32 ≤ c.toNat := by
  simp only [stringifyString,cons_append,mem_cons,mem_append,not_mem_nil,or_false] at hc
  rcases hc with rfl | hc | rfl
  · decide
  · exact le_toNat_escapeUnits hc
  · decide

private theorem le_toNat_stringifyInt {n : ℤ} (hc : c ∈ stringifyInt n) : 32 ≤ c.toNat := by
  have hdigit : c.isDigit → 32 ≤ c.toNat := by
    intro h
    rw [Char.isDigit_iff_toNat] at h
    exact le_trans (by decide) h.1
  unfold stringifyInt at hc
  split at hc
  · rcases mem_cons.mp hc with rfl | hc
    · decide
    · exact hdigit (isDigit_toDigits _ c hc)
  · exact hdigit (isDigit_toDigits _ c hc)

mutual
/-- No control character, hence no line break, stands in a written text. -/
theorem le_toNat_stringify (v : Json) {c : Char} (hc : c ∈ stringify v) : 32 ≤ c.toNat := by
  match v with
  | .null =>
    have hall : (stringify .null).all (fun c => 32 ≤ c.toNat) := by decide
    simpa using all_eq_true.mp hall c hc
  | .bool b =>
    have hall : (stringify (.bool b)).all (fun c => 32 ≤ c.toNat) := by cases b <;> decide
    simpa using all_eq_true.mp hall c hc
  | .num n => exact le_toNat_stringifyInt (by simpa [stringify] using hc)
  | .str s => exact le_toNat_stringifyString (by simpa [stringify] using hc)
  | .arr es =>
    simp only [stringify,cons_append,mem_cons,mem_append,not_mem_nil,or_false] at hc
    rcases hc with rfl | hc | rfl
    · decide
    · exact le_toNat_stringifyElements es hc
    · decide
  | .obj ms =>
    simp only [stringify,cons_append,mem_cons,mem_append,not_mem_nil,or_false] at hc
    rcases hc with rfl | hc | rfl
    · decide
    · exact le_toNat_stringifyMembers ms hc
    · decide

theorem le_toNat_stringifyElements (es : List Json) {c : Char} (hc : c ∈ stringifyElements es) : 32 ≤ c.toNat := by
  match es with
  | [] => simp [stringifyElements] at hc
  | [e] => exact le_toNat_stringify e (by simpa [stringifyElements] using hc)
  | e :: e' :: es =>
    simp only [stringifyElements,mem_append,mem_cons] at hc
    rcases hc with hc | rfl | hc
    · exact le_toNat_stringify e hc
    · decide
    · exact le_toNat_stringifyElements (e' :: es) hc

theorem le_toNat_stringifyMembers (ms : List (JsString × Json)) {c : Char}
    (hc : c ∈ stringifyMembers ms) : 32 ≤ c.toNat := by
  match ms with
  | [] => simp [stringifyMembers] at hc
  | [(k,v)] =>
    simp only [stringifyMembers,mem_append,mem_cons] at hc
    rcases hc with hc | rfl | hc
    · exact le_toNat_stringifyString hc
    · decide
    · exact le_toNat_stringify v hc
  | (k,v) :: m :: ms =>
    simp only [stringifyMembers,mem_append,mem_cons] at hc
    rcases hc with (hc | rfl | hc) | rfl | hc
    · exact le_toNat_stringifyString hc
    · decide
    · exact le_toNat_stringify v hc
    · decide
    · exact le_toNat_stringifyMembers (m :: ms) hc
end

end Json

end Malink
