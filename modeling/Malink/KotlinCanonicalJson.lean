import Malink.CanonicalEquality
import Malink.Doubles
import Malink.KotlinJsonText
import Mathlib.Data.List.DropRight

/-!
# Canonical JSON on Android

The client escapes the units of a string one by one and puts the token of a number through a double. For the values
that both platforms exchange the text is the one of the TypeScript packages.
-/

namespace Malink.CanonicalJson

open List Json
open Option (some)
open JsString (encodeChar ofChars)
open JsonElement (textEntries textItems)
open Nat (ofDigitChars toDigits)

/-- What `toDoubleOrNull` makes of a text. -/
inductive KotlinDouble where
  | nan
  | infinite
  | finite (value : ℚ)
  deriving DecidableEq

def readSigned : List Char → Option ℤ
  | '-' :: digits => (readSigned.unsigned digits).map fun n => -(n : ℤ)
  | '+' :: digits => (readSigned.unsigned digits).map Int.ofNat
  | digits => (readSigned.unsigned digits).map Int.ofNat
where
  unsigned (digits : List Char) : Option ℕ :=
    if digits ≠ [] ∧ digits.all Char.isDigit then some (ofDigitChars 10 digits 0) else none

def readExponent : List Char → Option ℤ
  | 'e' :: digits => readSigned digits
  | 'E' :: digits => readSigned digits
  | _ => none

/-- The digits before and behind the point, and the text after them. -/
def readMantissa (isDigit : Char → Bool) (text : List Char) : Option (List Char × List Char × List Char) :=
  let (fraction,rest) := match text.dropWhile isDigit with
    | '.' :: rest => (rest.takeWhile isDigit,rest.dropWhile isDigit)
    | rest => ([],rest)
  if text.takeWhile isDigit = [] ∧ fraction = [] then none else some (text.takeWhile isDigit,fraction,rest)

def readDecimal (text : List Char) : Option ℚ :=
  match readMantissa Char.isDigit text with
  | none => none
  | some (whole,fraction,rest) =>
    (if rest = [] then some 0 else readExponent rest).map fun exponent : ℤ =>
      ofDigitChars 10 (whole ++ fraction) 0 * (10 : ℚ) ^ (exponent - fraction.length)

def isHexDigit (c : Char) : Bool := (hexValue c).isSome

def hexDigits (digits : List Char) : ℕ := digits.foldl (fun n c => 16 * n + (hexValue c).getD 0) 0

/-- The binary exponent is not optional. -/
def readHexadecimal (text : List Char) : Option ℚ :=
  match readMantissa isHexDigit text with
  | some (whole,fraction,mark :: digits) =>
    if mark = 'p' ∨ mark = 'P' then (readSigned digits).map fun exponent : ℤ =>
      hexDigits (whole ++ fraction) * (2 : ℚ) ^ (exponent - 4 * fraction.length)
    else none
  | _ => none

def readMagnitude (text : List Char) : Option ℚ :=
  match text with
  | '0' :: 'x' :: digits => readHexadecimal digits
  | '0' :: 'X' :: digits => readHexadecimal digits
  | digits => readDecimal digits

/-- `1.5f` and `1.5d` are numbers as well. -/
def dropSuffix (text : List Char) : List Char :=
  if text.getLast? ∈ [some 'f',some 'F',some 'd',some 'D'] then text.dropLast else text

def toDouble (value : ℚ) : KotlinDouble :=
  match nearestDouble value with
  | none => .infinite
  | some value => .finite value

def readNumber (negative : Bool) (text : List Char) : Option KotlinDouble :=
  if text = "NaN".toList then some .nan
  else if text = "Infinity".toList then some .infinite
  else (readMagnitude (dropSuffix text)).map fun value => toDouble (if negative then -value else value)

def isBlank (c : Char) : Bool := c.toNat ≤ 32

/-- `String.toDoubleOrNull` -/
def toDoubleOrNull (text : List Char) : Option KotlinDouble :=
  match (text.dropWhile isBlank).rdropWhile isBlank with
  | '-' :: text => readNumber true text
  | '+' :: text => readNumber false text
  | text => readNumber false text

/-- The exponent form of `canonicalNumber`. -/
def exponential (decimal : BigDecimal) : List Char :=
  let exponent := (decimal.digits.length : ℤ) - decimal.scale - 1
  (if decimal.unscaled < 0 then ['-'] else []) ++
    (match decimal.digits with
      | [digit] => [digit]
      | digits => digits.take 1 ++ '.' :: digits.drop 1) ++
    'e' :: (if 0 ≤ exponent then ['+'] else []) ++ stringifyInt exponent

def canonicalNumber (input : List Char) : Except JsString (List Char) :=
  match toDoubleOrNull input with
  | none => .error "Canonical JSON contains an invalid number."
  | some .nan => .error "Canonical JSON cannot encode non-finite numbers."
  | some .infinite => .error "Canonical JSON cannot encode non-finite numbers."
  | some (.finite number) =>
    if number = 0 then .ok ['0']
    else
      let decimal := (shortestDecimal number).stripTrailingZeros
      if 10 ^ 21 ≤ |decimal.value| ∨ |decimal.value| < 1 / 10 ^ 6 then .ok (exponential decimal)
      else .ok decimal.toPlainString

def escapedUnit (character : UInt16) : List UInt16 :=
  if character = 34 then [92,34]
  else if character = 92 then [92,92]
  else if character = 8 then [92,98]
  else if character = 12 then [92,102]
  else if character = 10 then [92,110]
  else if character = 13 then [92,114]
  else if character = 9 then [92,116]
  else if character < 32 || isHigh character || isLow character then
    92 :: 117 :: (ofChars ((toDigits 16 character.toNat).leftpad 4 '0')).units
  else [character]

/-- A surrogate pair is copied. -/
def escapedUnits : List UInt16 → List UInt16
  | [] => []
  | [character] => escapedUnit character
  | character :: next :: rest =>
    if isHigh character && isLow next then character :: next :: escapedUnits rest
    else escapedUnit character ++ escapedUnits (next :: rest)

def appendQuoted (value : JsString) : JsString := ⟨34 :: escapedUnits value.units ++ [34]⟩

/-- The texts with commas between them. The first failure is thrown. -/
def joined : List (Except JsString JsString) → Except JsString JsString
  | [] => .ok ""
  | [text] => text
  | text :: next :: texts => do
    let text ← text
    let rest ← joined (next :: texts)
    return text ++ "," ++ rest

def member (entry : JsString × Except JsString JsString) : Except JsString JsString :=
  entry.2.map fun text => appendQuoted entry.1 ++ ":" ++ text

mutual
def appendValue : JsonElement → Except JsString JsString
  | .null => .ok "null"
  | .object entries =>
    (joined (((appendEntries entries).insertionSort fun m n => m.1 ≤ n.1).map member)).map fun text =>
      "\x7b" ++ text ++ "\x7d"
  | .array items => (joined (appendItems items)).map fun text => "[" ++ text ++ "]"
  | .string content => .ok (appendQuoted content)
  | .token content =>
    if content = "true".toList ∨ content = "false".toList then .ok (ofChars content)
    else (canonicalNumber content).map ofChars

def appendItems : List JsonElement → List (Except JsString JsString)
  | [] => []
  | item :: items => appendValue item :: appendItems items

def appendEntries : List (JsString × JsonElement) → List (JsString × Except JsString JsString)
  | [] => []
  | (key,child) :: entries => (key,appendValue child) :: appendEntries entries
end

/-- `CanonicalJson.encode` -/
def encode (value : JsonElement) : Except JsString JsString := appendValue value

/-- A number of a JSON text: the exponent is a mark, a sign and digits. -/
structure NumberToken where
  negative : Bool
  whole : List Char
  fraction : List Char
  exponent : Option (Char × Option Char × List Char)
  whole_ne : whole ≠ []
  whole_digits : ∀ c ∈ whole, c.isDigit
  fraction_digits : ∀ c ∈ fraction, c.isDigit
  exponent_valid : ∀ e ∈ exponent, (e.1 = 'e' ∨ e.1 = 'E') ∧ (∀ sign ∈ e.2.1,sign = '+' ∨ sign = '-') ∧
    e.2.2 ≠ [] ∧ ∀ c ∈ e.2.2, c.isDigit

variable {c : Char} {digits : List Char}

namespace NumberToken

def fractionText (token : NumberToken) : List Char := if token.fraction = [] then [] else '.' :: token.fraction

def exponentText (token : NumberToken) : List Char :=
  match token.exponent with
  | none => []
  | some (mark,sign,digits) => mark :: sign.toList ++ digits

def magnitudeText (token : NumberToken) : List Char := token.whole ++ (token.fractionText ++ token.exponentText)

def text (token : NumberToken) : List Char :=
  if token.negative then '-' :: token.magnitudeText else token.magnitudeText

def exponentValue (token : NumberToken) : ℤ :=
  match token.exponent with
  | none => 0
  | some (_,sign,digits) =>
    if sign = some '-' then -(ofDigitChars 10 digits 0 : ℤ) else ofDigitChars 10 digits 0

def magnitude (token : NumberToken) : ℚ :=
  ofDigitChars 10 (token.whole ++ token.fraction) 0 * (10 : ℚ) ^ (token.exponentValue - token.fraction.length)

def value (token : NumberToken) : ℚ := if token.negative then -token.magnitude else token.magnitude

theorem mem_magnitudeText (token : NumberToken) (hc : c ∈ token.magnitudeText) :
    c.isDigit ∨ c = '.' ∨ c = 'e' ∨ c = 'E' ∨ c = '+' ∨ c = '-' := by
  rw [magnitudeText,mem_append,mem_append] at hc
  rcases hc with hc | hc | hc
  · exact .inl (token.whole_digits c hc)
  · rw [fractionText] at hc
    split at hc
    · cases hc
    · rcases mem_cons.mp hc with rfl | hc
      · exact .inr (.inl rfl)
      · exact .inl (token.fraction_digits c hc)
  · rw [exponentText] at hc
    split at hc
    · cases hc
    · next mark sign digits hexponent =>
      obtain ⟨hmark,hsign,-,hdigits⟩ := token.exponent_valid _ hexponent
      rcases mem_cons.mp hc with rfl | hc
      · rcases hmark with rfl | rfl
        · exact .inr (.inr (.inl rfl))
        · exact .inr (.inr (.inr (.inl rfl)))
      · rcases mem_append.mp hc with hc | hc
        · rcases hsign c (Option.mem_toList.mp hc) with rfl | rfl
          · exact .inr (.inr (.inr (.inr (.inl rfl))))
          · exact .inr (.inr (.inr (.inr (.inr rfl))))
        · exact .inl (hdigits c hc)

theorem magnitudeText_head (token : NumberToken) : ∃ c s, token.magnitudeText = c :: s ∧ c.isDigit := by
  cases hwhole : token.whole with
  | nil => exact absurd hwhole token.whole_ne
  | cons c whole =>
    refine ⟨c,whole ++ (token.fractionText ++ token.exponentText),?_,?_⟩
    · rw [magnitudeText,hwhole,cons_append]
    · exact token.whole_digits c (hwhole ▸ mem_cons_self)

theorem getLast?_append_digits (text : List Char) (hne : digits ≠ [])
    (h : ∀ c ∈ digits,c.isDigit) : ∃ c, (text ++ digits).getLast? = some c ∧ c.isDigit := by
  rw [getLast?_append_of_ne_nil text hne,getLast?_eq_some_getLast hne]
  exact ⟨_,rfl,h _ (getLast_mem hne)⟩

theorem magnitudeText_last (token : NumberToken) : ∃ c, token.magnitudeText.getLast? = some c ∧ c.isDigit := by
  cases hexponent : token.exponent with
  | some e =>
    obtain ⟨mark,sign,digits⟩ := e
    obtain ⟨-,-,hne,hdigits⟩ := token.exponent_valid _ hexponent
    have htext : token.magnitudeText = (token.whole ++ token.fractionText ++ mark :: sign.toList) ++ digits := by
      simp [magnitudeText,exponentText,hexponent]
    rw [htext]
    exact getLast?_append_digits _ hne hdigits
  | none =>
    by_cases hfraction : token.fraction = []
    · have htext : token.magnitudeText = [] ++ token.whole := by
        simp [magnitudeText,fractionText,exponentText,hexponent,hfraction]
      rw [htext]
      exact getLast?_append_digits _ token.whole_ne token.whole_digits
    · have htext : token.magnitudeText = (token.whole ++ ['.']) ++ token.fraction := by
        simp [magnitudeText,fractionText,exponentText,hexponent,hfraction]
      rw [htext]
      exact getLast?_append_digits _ hfraction token.fraction_digits

end NumberToken

theorem takeWhile_stop {p : Char → Bool} {rest : List Char} (h : ∀ c ∈ digits,p c)
    (hrest : ∀ c,rest.head? = some c → p c = false) :
    (digits ++ rest).takeWhile p = digits ∧ (digits ++ rest).dropWhile p = rest := by
  rw [takeWhile_append_of_pos h,dropWhile_append_of_pos h]
  cases rest with
  | nil => simp
  | cons c rest => simp [hrest c rfl]

theorem readSigned_of_digits (sign : Option Char) (hsign : ∀ c ∈ sign,c = '+' ∨ c = '-')
    (hne : digits ≠ []) (hdigits : ∀ c ∈ digits,c.isDigit) :
    readSigned (sign.toList ++ digits) =
      some (if sign = some '-' then -(ofDigitChars 10 digits 0 : ℤ) else ofDigitChars 10 digits 0) := by
  have hunsigned : readSigned.unsigned digits = some (ofDigitChars 10 digits 0) := by
    rw [readSigned.unsigned,if_pos ⟨hne,all_eq_true.mpr hdigits⟩]
  cases sign with
  | some c =>
    rcases hsign c rfl with rfl | rfl
    · simp [readSigned,hunsigned]
    · simp [readSigned,hunsigned]
  | none =>
    cases digits with
    | nil => exact absurd rfl hne
    | cons d digits =>
      have hd := hdigits d mem_cons_self
      rw [Option.toList_none,nil_append,readSigned.eq_def]
      split
      · next heq =>
        obtain ⟨rfl,-⟩ := cons.inj heq
        exact absurd hd (by decide)
      · next heq =>
        obtain ⟨rfl,-⟩ := cons.inj heq
        exact absurd hd (by decide)
      · simp [hunsigned]

section

variable (token : NumberToken)
include token

theorem exponentText_head : ∀ c, token.exponentText.head? = some c → c = 'e' ∨ c = 'E' := by
  intro c hc
  rw [NumberToken.exponentText] at hc
  split at hc
  · cases hc
  · next mark sign digits hexponent =>
    rw [cons_append,head?_cons,some.injEq] at hc
    exact hc ▸ (token.exponent_valid _ hexponent).1

theorem readExponent_text :
    (if token.exponentText = [] then some 0 else readExponent token.exponentText) = some token.exponentValue := by
  rw [NumberToken.exponentText,NumberToken.exponentValue]
  cases hexponent : token.exponent with
  | none => simp
  | some e =>
    obtain ⟨mark,sign,digits⟩ := e
    obtain ⟨hmark,hsign,hne,hdigits⟩ := token.exponent_valid _ hexponent
    have hread := readSigned_of_digits sign hsign hne hdigits
    rcases hmark with hmark | hmark
    · obtain rfl : mark = 'e' := hmark
      simpa [readExponent] using hread
    · obtain rfl : mark = 'E' := hmark
      simpa [readExponent] using hread

theorem readMantissa_text :
    readMantissa Char.isDigit token.magnitudeText = some (token.whole,token.fraction,token.exponentText) := by
  have hexponent : ∀ c,token.exponentText.head? = some c → c.isDigit = false := by
    intro c hc
    rcases exponentText_head token c hc with rfl | rfl
    · rfl
    · rfl
  by_cases hfraction : token.fraction = []
  · have htext : token.magnitudeText = token.whole ++ token.exponentText := by
      simp [NumberToken.magnitudeText,NumberToken.fractionText,hfraction]
    obtain ⟨htake,hdrop⟩ := takeWhile_stop token.whole_digits hexponent
    rw [htext,readMantissa,htake,hdrop,hfraction]
    split
    · next fraction rest heq =>
      split at heq
      · next hpoint =>
        rcases exponentText_head token '.' (hpoint ▸ rfl) with hc | hc
        · cases hc
        · cases hc
      · obtain ⟨rfl,rfl⟩ := Prod.mk.inj heq
        rw [if_neg fun h => token.whole_ne h.1]
  · have htext : token.magnitudeText = token.whole ++ '.' :: (token.fraction ++ token.exponentText) := by
      simp [NumberToken.magnitudeText,NumberToken.fractionText,hfraction]
    have hpoint : ∀ c,('.' :: (token.fraction ++ token.exponentText)).head? = some c → c.isDigit = false := by
      rintro c ⟨⟩
      rfl
    obtain ⟨htake,hdrop⟩ := takeWhile_stop token.whole_digits hpoint
    obtain ⟨htake',hdrop'⟩ := takeWhile_stop token.fraction_digits hexponent
    rw [htext,readMantissa,htake,hdrop]
    simp only [htake',hdrop']
    rw [if_neg fun h => token.whole_ne h.1]

theorem readMagnitude_text : readMagnitude token.magnitudeText = some token.magnitude := by
  have hdecimal : readDecimal token.magnitudeText = some token.magnitude := by
    rw [readDecimal,readMantissa_text]
    simp only [readExponent_text,Option.map_some]
    rfl
  have hx : ∀ c ∈ token.magnitudeText,c ≠ 'x' ∧ c ≠ 'X' := by
    intro c hc
    rcases token.mem_magnitudeText hc with h | rfl | rfl | rfl | rfl | rfl
    · constructor
      · rintro rfl
        exact absurd h (by decide)
      · rintro rfl
        exact absurd h (by decide)
    all_goals decide
  rw [readMagnitude.eq_def]
  split
  · next heq => exact absurd rfl (hx 'x' (heq ▸ by simp)).1
  · next heq => exact absurd rfl (hx 'X' (heq ▸ by simp)).2
  · exact hdecimal

theorem dropSuffix_text : dropSuffix token.magnitudeText = token.magnitudeText := by
  obtain ⟨c,hlast,hdigit⟩ := token.magnitudeText_last
  rw [dropSuffix,if_neg]
  rw [hlast]
  intro hmem
  simp only [mem_cons,some.injEq,not_mem_nil,or_false] at hmem
  rcases hmem with rfl | rfl | rfl | rfl <;> exact absurd hdigit (by decide)

theorem readNumber_text (negative : Bool) : readNumber negative token.magnitudeText =
    some (toDouble (if negative then -token.magnitude else token.magnitude)) := by
  obtain ⟨c,s,htext,hdigit⟩ := token.magnitudeText_head
  have hword : ∀ d : Char,d.isDigit = false → ∀ word : List Char,token.magnitudeText ≠ d :: word := by
    intro d hd word heq
    obtain ⟨rfl,-⟩ := cons.inj (htext.symm.trans heq)
    rw [hd] at hdigit
    cases hdigit
  have hnan : token.magnitudeText ≠ "NaN".toList := hword 'N' rfl ['a','N']
  have hinfinity : token.magnitudeText ≠ "Infinity".toList := hword 'I' rfl ['n','f','i','n','i','t','y']
  rw [readNumber,if_neg hnan,if_neg hinfinity,dropSuffix_text,readMagnitude_text,Option.map_some]

end

theorem not_isBlank_of_isDigit (h : c.isDigit) : isBlank c = false := by
  have hzero : ('0' : Char).toNat = 48 := rfl
  rw [Char.isDigit_iff_toNat] at h
  rw [isBlank,decide_eq_false_iff_not]
  omega

theorem trim_text {text : List Char} {d : Char} (hhead : text.head? = some c) (hc : isBlank c = false)
    (hlast : text.getLast? = some d) (hd : isBlank d = false) : (text.dropWhile isBlank).rdropWhile isBlank = text := by
  cases text with
  | nil => cases hhead
  | cons e text =>
    obtain rfl : e = c := some.inj hhead
    rw [dropWhile_cons_of_neg (by simp [hc]),rdropWhile_eq_self_iff]
    intro hne
    have hd' : (e :: text).getLast hne = d := by
      rw [getLast?_eq_some_getLast hne] at hlast
      exact some.inj hlast
    simp [hd',hd]

theorem toDoubleOrNull_text (token : NumberToken) : toDoubleOrNull token.text = some (toDouble token.value) := by
  obtain ⟨c,s,htext,hdigit⟩ := token.magnitudeText_head
  obtain ⟨d,hlast,hdigit'⟩ := token.magnitudeText_last
  have hblank := not_isBlank_of_isDigit hdigit'
  cases hnegative : token.negative with
  | true =>
    have hlast' : ('-' :: token.magnitudeText).getLast? = some d := by
      rw [getLast?_cons,hlast]
      rfl
    have htrim : ((token.text).dropWhile isBlank).rdropWhile isBlank = '-' :: token.magnitudeText := by
      rw [NumberToken.text,hnegative,if_pos rfl]
      exact trim_text rfl rfl hlast' hblank
    simp only [toDoubleOrNull,htrim,readNumber_text,if_true,NumberToken.value,hnegative]
  | false =>
    have htrim : ((token.text).dropWhile isBlank).rdropWhile isBlank = token.magnitudeText := by
      rw [NumberToken.text,hnegative,if_neg Bool.false_ne_true]
      exact trim_text (htext ▸ rfl) (not_isBlank_of_isDigit hdigit) hlast hblank
    rw [toDoubleOrNull,htrim]
    split
    · next heq =>
      obtain ⟨rfl,-⟩ := cons.inj (htext.symm.trans heq)
      exact absurd hdigit (by decide)
    · next heq =>
      obtain ⟨rfl,-⟩ := cons.inj (htext.symm.trans heq)
      exact absurd hdigit (by decide)
    · rw [readNumber_text,NumberToken.value,hnegative]

/-- Every spelling of an integer that is a double gets its plain digits. -/
theorem canonicalNumber_text {token : NumberToken} {n : ℤ} (hn : |n| < 2 ^ 53) (hvalue : token.value = n) :
    canonicalNumber token.text = .ok (stringifyInt n) := by
  have hdouble : toDouble token.value = .finite n := by
    rw [toDouble,hvalue,nearestDouble_of_small hn]
  rw [canonicalNumber,toDoubleOrNull_text,hdouble]
  rcases eq_or_ne n 0 with rfl | hne
  · simp [stringifyInt]
  · have hshortest := value_shortestDecimal hn hne
    have hstripped : (shortestDecimal n).stripTrailingZeros.value = n :=
      (BigDecimal.value_stripTrailingZeros _).trans hshortest
    have hunscaled : (shortestDecimal n).unscaled ≠ 0 := by
      intro hzero
      rw [BigDecimal.value,hzero,Int.cast_zero,zero_mul] at hshortest
      exact hne (by exact_mod_cast hshortest.symm)
    have hplain := BigDecimal.toPlainString_of_integer hne (BigDecimal.unscaled_stripTrailingZeros hunscaled) hstripped
    have hlarge : ¬ (10 ^ 21 ≤ |(n : ℚ)| ∨ |(n : ℚ)| < 1 / 10 ^ 6) := by
      have hupper : |(n : ℚ)| < 2 ^ 53 := by exact_mod_cast hn
      have hlower : (1 : ℚ) ≤ |(n : ℚ)| := by exact_mod_cast Int.one_le_abs hne
      rintro (hle | hlt)
      · norm_num at hupper hle
        linarith
      · norm_num at hlt
        linarith
    have hnumber : ((n : ℤ) : ℚ) ≠ 0 := by exact_mod_cast hne
    simp only [hnumber,if_false,hstripped,hlarge,hplain]
    rfl

theorem leftpad_toDigits {n k : ℕ} (hn : n < 16 ^ (k + 2)) : (toDigits 16 n).leftpad (k + 2) '0' =
    (toDigits 16 (n / 16)).leftpad (k + 1) '0' ++ [hexDigit n] := by
  rcases lt_or_ge n 16 with hlt | hge
  · have hdigit : hexDigit n = Nat.digitChar n := by rw [hexDigit,Nat.mod_eq_of_lt hlt]
    have hzero : toDigits 16 (n / 16) = ['0'] := by
      rw [Nat.div_eq_of_lt hlt]
      rfl
    rw [Nat.toDigits_of_lt_base hlt,hzero,hdigit,leftpad,leftpad]
    simp [replicate_succ']
  · have hlength : (toDigits 16 (n / 16)).length ≤ k + 1 := by
      rw [Nat.length_toDigits_le_iff (by omega) (by omega)]
      rw [pow_succ] at hn
      omega
    rw [Nat.toDigits_of_base_le (by omega) hge,leftpad,leftpad,hexDigit,append_assoc,
      length_append,length_singleton]
    congr 2
    omega

theorem leftpad_unit (u : UInt16) : '\\' :: 'u' :: (toDigits 16 u.toNat).leftpad 4 '0' = escapeHex u := by
  have hu : u.toNat < 65536 := u.toNat_lt
  have htwice : u.toNat / 16 / 16 = u.toNat / 256 := Nat.div_div_eq_div_mul _ _ _
  have hthrice : u.toNat / 256 / 16 = u.toNat / 4096 := Nat.div_div_eq_div_mul _ _ _
  have hfirst : hexDigit (u.toNat / 4096) = Nat.digitChar (u.toNat / 4096) := by
    rw [hexDigit,Nat.mod_eq_of_lt (by omega)]
  rw [leftpad_toDigits (k := 2) (by omega),leftpad_toDigits (k := 1) (by omega),
    leftpad_toDigits (k := 0) (by omega),htwice,hthrice,Nat.toDigits_of_lt_base (by omega),escapeHex,hfirst]
  simp [leftpad]

theorem escapedUnit_eq (u : UInt16) : escapedUnit u = (ofChars (escapeUnit u)).units := by
  have hunit : ∀ n : ℕ,n < 65536 → (u = UInt16.ofNat n ↔ u.toNat = n) := by
    intro n hn
    rw [← UInt16.toNat_inj,UInt16.toNat_ofNat',Nat.mod_eq_of_lt hn]
  have hcontrol : u < 32 ↔ u.toNat < 32 := UInt16.lt_iff_toNat_lt
  rw [escapedUnit,escapeUnit]
  simp only [hcontrol,show u = 34 ↔ u.toNat = 34 from hunit 34 (by omega),
    show u = 92 ↔ u.toNat = 92 from hunit 92 (by omega),show u = 8 ↔ u.toNat = 8 from hunit 8 (by omega),
    show u = 12 ↔ u.toNat = 12 from hunit 12 (by omega),show u = 10 ↔ u.toNat = 10 from hunit 10 (by omega),
    show u = 13 ↔ u.toNat = 13 from hunit 13 (by omega),show u = 9 ↔ u.toNat = 9 from hunit 9 (by omega)]
  by_cases hquote : u.toNat = 34
  · simp [hquote]
    rfl
  by_cases hbackslash : u.toNat = 92
  · simp [hbackslash]
    rfl
  by_cases hbackspace : u.toNat = 8
  · simp [hbackspace]
    rfl
  by_cases htab : u.toNat = 9
  · simp [htab]
    rfl
  by_cases hnewline : u.toNat = 10
  · simp [hnewline]
    rfl
  by_cases hfeed : u.toNat = 12
  · simp [hfeed]
    rfl
  by_cases hreturn : u.toNat = 13
  · simp [hreturn]
    rfl
  simp only [hquote,hbackslash,hbackspace,htab,hnewline,hfeed,hreturn,if_false]
  split
  · rw [← leftpad_unit]
    rfl
  · next hplain =>
    simp only [Bool.or_eq_true,decide_eq_true_eq,not_or,not_lt] at hplain
    have hvalue := toNat_ofNat_unit hplain.1.2 hplain.2
    have hlt : (Char.ofNat u.toNat).toNat < 0x10000 := by
      rw [hvalue]
      exact u.toNat_lt
    change [u] = encodeChar (Char.ofNat u.toNat) ++ []
    rw [encodeChar,if_pos hlt,hvalue,UInt16.ofNat_toNat]
    rfl

theorem escapedUnits_eq (us : List UInt16) : escapedUnits us = (ofChars (escapeUnits us)).units := by
  induction us using escapedUnits.induct with
  | case1 => rfl
  | case2 u => exact escapedUnit_eq u
  | case3 u l us hpair ih =>
    rw [escapedUnits,if_pos hpair,escapeUnits,if_pos hpair,ih]
    rw [Bool.and_eq_true] at hpair
    change _ = encodeChar _ ++ (ofChars (escapeUnits us)).units
    rw [(encodeChar_pair hpair.1 hpair.2).2]
    rfl
  | case4 u l us hpair ih =>
    rw [escapedUnits,if_neg hpair,escapeUnits,if_neg hpair,ofChars_append,ih,escapedUnit_eq]
    rfl

theorem appendQuoted_eq (s : JsString) : appendQuoted s = ofChars (stringifyString s) := by
  rw [appendQuoted,stringifyString,cons_append,escapedUnits_eq]
  change _ = ofChars (['"'] ++ (Json.escapeUnits s.units ++ ['"']))
  rw [ofChars_append,ofChars_append]
  rfl

mutual
/-- The element of the value: booleans and numbers may have any of their spellings. -/
def Spells : JsonElement → Json → Prop
  | .null, v => v = .null
  | .token content, v => (∃ b,content = (if b then "true".toList else "false".toList) ∧ v = .bool b) ∨
      ∃ (token : NumberToken) (n : ℤ), content = token.text ∧ token.value = n ∧ v = .num n
  | .string content, v => v = .str content
  | .array items, v => ∃ es, v = .arr es ∧ SpellsItems items es
  | .object entries, v => ∃ ms, v = .obj ms ∧ SpellsEntries entries ms

def SpellsItems : List JsonElement → List Json → Prop
  | [], es => es = []
  | item :: items, es => ∃ e rest, es = e :: rest ∧ Spells item e ∧ SpellsItems items rest

def SpellsEntries : List (JsString × JsonElement) → List (JsString × Json) → Prop
  | [], ms => ms = []
  | (key,child) :: entries, ms => ∃ v rest, ms = (key,v) :: rest ∧ Spells child v ∧ SpellsEntries entries rest
end

mutual
/-- Every number is an integer that both platforms hold exactly. -/
def Safe : Json → Prop
  | .num n => |n| ≤ 2 ^ 53 - 1
  | .arr es => SafeElements es
  | .obj ms => SafeMembers ms
  | .null | .bool _ | .str _ => True

def SafeElements : List Json → Prop
  | [] => True
  | e :: es => Safe e ∧ SafeElements es

def SafeMembers : List (JsString × Json) → Prop
  | [] => True
  | (_,v) :: ms => Safe v ∧ SafeMembers ms
end

/-- The element stands for the value, whatever the order of its members. -/
def Represents (element : JsonElement) (value : Json) : Prop := ∃ v, v.Distinct ∧ Spells element v ∧ v.Same value

theorem joined_ok {text rest : JsString} {next : Except JsString JsString} {texts : List (Except JsString JsString)}
    (h : joined (next :: texts) = .ok rest) : joined (.ok text :: next :: texts) = .ok (text ++ "," ++ rest) := by
  rw [joined,h]
  rfl

theorem joined_elements (es : List Json) :
    joined (es.map fun e => .ok (textOf e)) = .ok (ofChars (stringifyElements es)) := by
  induction es with
  | nil => rfl
  | cons e es ih =>
    cases es with
    | nil => rfl
    | cons e' es =>
      rw [map_cons] at ih ⊢
      rw [map_cons,joined_ok ih,stringifyElements,ofChars_append_cons]
      rfl

theorem member_ok (m : JsString × Json) : member (m.1,.ok (textOf m.2)) =
    .ok (ofChars (stringifyString m.1 ++ ':' :: stringify m.2)) := by
  rw [member,appendQuoted_eq,ofChars_append_cons]
  rfl

theorem joined_members (ms : List (JsString × Json)) :
    joined (ms.map fun m => member (m.1,.ok (textOf m.2))) = .ok (ofChars (stringifyMembers ms)) := by
  induction ms with
  | nil => rfl
  | cons m ms ih =>
    obtain ⟨k,v⟩ := m
    cases ms with
    | nil =>
      rw [map_singleton,joined,member_ok,stringifyMembers]
    | cons m ms =>
      rw [map_cons] at ih ⊢
      rw [map_cons,member_ok,joined_ok ih,stringifyMembers,
        ofChars_append_cons (stringifyString k ++ ':' :: stringify v)]
      rfl

mutual
theorem appendValue_of_spells : (element : JsonElement) → (v : Json) → Spells element v → Safe v →
    appendValue element = .ok (textOf v.sortKeys)
  | .null, v, h, _ => by
    obtain rfl : v = .null := by simpa only [Spells] using h
    rfl
  | .token content, v, h, hsafe => by
    rw [Spells] at h
    rcases h with ⟨b,rfl,rfl⟩ | ⟨token,n,rfl,hvalue,rfl⟩
    · cases b with
      | true | false => rfl
    · rw [Safe] at hsafe
      have hword : ∀ c word,c.isDigit = false → c ≠ '-' → token.text ≠ c :: word := by
        intro c word hdigit hminus heq
        obtain ⟨d,s,htext,hd⟩ := token.magnitudeText_head
        rw [NumberToken.text] at heq
        split at heq
        · exact hminus (cons.inj heq).1.symm
        · obtain ⟨rfl,-⟩ := cons.inj (htext.symm.trans heq)
          rw [hdigit] at hd
          cases hd
      have htrue : token.text ≠ "true".toList := hword 't' ['r','u','e'] rfl (by decide)
      have hfalse : token.text ≠ "false".toList := hword 'f' ['a','l','s','e'] rfl (by decide)
      rw [appendValue,if_neg (not_or.mpr ⟨htrue,hfalse⟩),canonicalNumber_text (by omega) hvalue,sortKeys]
      rfl
  | .string content, v, h, _ => by
    obtain rfl : v = .str content := by simpa only [Spells] using h
    rw [appendValue,appendQuoted_eq]
    rfl
  | .array items, v, h, hsafe => by
    rw [Spells] at h
    obtain ⟨es,rfl,hitems⟩ := h
    rw [Safe] at hsafe
    rw [appendValue,appendItems_of_spells items es hitems hsafe,joined_elements,sortKeys,textOf,stringify,
      ofChars_append]
    rfl
  | .object entries, v, h, hsafe => by
    rw [Spells] at h
    obtain ⟨ms,rfl,hentries⟩ := h
    rw [Safe] at hsafe
    have hsorted := map_insertionSort (fun m n : JsString × Json => m.1 ≤ n.1)
      (fun m n : JsString × Except JsString JsString => m.1 ≤ n.1) (fun m => (m.1,.ok (textOf m.2)))
      (sortMembers ms) (fun _ _ _ _ => Iff.rfl)
    rw [appendValue,appendEntries_of_spells entries ms hentries hsafe,← hsorted,map_map]
    have hjoined := joined_members ((sortMembers ms).insertionSort fun m n => m.1 ≤ n.1)
    rw [Function.comp_def,hjoined,sortKeys,textOf,stringify,ofChars_append]
    rfl

theorem appendItems_of_spells : (items : List JsonElement) → (es : List Json) → SpellsItems items es →
    SafeElements es → appendItems items = (sortElements es).map fun e => .ok (textOf e)
  | [], es, h, _ => by
    obtain rfl : es = [] := by simpa only [SpellsItems] using h
    rfl
  | item :: items, es, h, hsafe => by
    rw [SpellsItems] at h
    obtain ⟨e,rest,rfl,hitem,hitems⟩ := h
    rw [SafeElements] at hsafe
    rw [appendItems,appendValue_of_spells item e hitem hsafe.1,appendItems_of_spells items rest hitems hsafe.2,
      sortElements,map_cons]

theorem appendEntries_of_spells : (entries : List (JsString × JsonElement)) → (ms : List (JsString × Json)) →
    SpellsEntries entries ms → SafeMembers ms →
    appendEntries entries = (sortMembers ms).map fun m => (m.1,.ok (textOf m.2))
  | [], ms, h, _ => by
    obtain rfl : ms = [] := by simpa only [SpellsEntries] using h
    rfl
  | (key,child) :: entries, ms, h, hsafe => by
    rw [SpellsEntries] at h
    obtain ⟨v,rest,rfl,hchild,hentries⟩ := h
    rw [SafeMembers] at hsafe
    rw [appendEntries,appendValue_of_spells child v hchild hsafe.1,
      appendEntries_of_spells entries rest hentries hsafe.2,sortMembers,map_cons]
end

mutual
def ofJson : Json → JsonElement
  | .null => .null
  | .bool b => .bool b
  | .num n => .long n
  | .str s => .string s
  | .arr es => .array (ofElements es)
  | .obj ms => .object (ofMembers ms)

def ofElements : List Json → List JsonElement
  | [] => []
  | e :: es => ofJson e :: ofElements es

def ofMembers : List (JsString × Json) → List (JsString × JsonElement)
  | [] => []
  | (k,v) :: ms => (k,ofJson v) :: ofMembers ms
end

mutual
theorem text_ofJson : (v : Json) → (ofJson v).text = v.stringify
  | .null => rfl
  | .bool b => by
    rw [ofJson,JsonElement.bool,JsonElement.text,stringify]
  | .num n => by rw [ofJson,JsonElement.long,JsonElement.text,stringify]
  | .str s => by rw [ofJson,JsonElement.text,stringify,stringifyString]
  | .arr es => by rw [ofJson,JsonElement.text,stringify,textItems_ofElements es]
  | .obj ms => by rw [ofJson,JsonElement.text,stringify,textEntries_ofMembers ms]

theorem textItems_ofElements : (es : List Json) → textItems (ofElements es) = stringifyElements es
  | [] => rfl
  | [e] => by
    rw [ofElements,ofElements,textItems,stringifyElements,text_ofJson e]
  | e :: e' :: es => by
    have hrest := textItems_ofElements (e' :: es)
    rw [ofElements] at hrest
    rw [ofElements,ofElements,textItems,hrest,stringifyElements,text_ofJson e]

theorem textEntries_ofMembers : (ms : List (JsString × Json)) →
    textEntries (ofMembers ms) = stringifyMembers ms
  | [] => rfl
  | [(k,v)] => by
    rw [ofMembers,ofMembers,textEntries,stringifyMembers,text_ofJson v,stringifyString]
  | (k,v) :: (l,w) :: ms => by
    have hrest := textEntries_ofMembers ((l,w) :: ms)
    rw [ofMembers] at hrest
    rw [ofMembers,ofMembers,textEntries,hrest,stringifyMembers,text_ofJson v,stringifyString]
end

theorem map_fst_ofMembers (ms : List (JsString × Json)) : (ofMembers ms).map Prod.fst = ms.map Prod.fst := by
  induction ms with
  | nil => rfl
  | cons m ms ih => rw [ofMembers,map_cons,map_cons,ih]

theorem isTokenChar_digit (h : c.isDigit) : JsonElement.isTokenChar c := by
  have hzero : ('0' : Char).toNat = 48 := rfl
  have hnine : ('9' : Char).toNat = 57 := rfl
  rw [Char.isDigit_iff_toNat] at h
  have hne : ∀ d : Char,d.toNat < 48 ∨ 57 < d.toNat → c ≠ d := by
    rintro d hd rfl
    omega
  rw [JsonElement.isTokenChar]
  simp only [hne ',' (by decide),hne ':' (by decide),hne '{' (by decide),hne '}' (by decide),hne '[' (by decide),
    hne ']' (by decide),hne '"' (by decide),hne '\\' (by decide),ne_eq,not_false_eq_true,decide_true,
    Bool.and_true,decide_eq_true_eq]
  omega

theorem readable_long (n : ℤ) : (JsonElement.long n).readable := by
  have hdigits : ∀ c ∈ Nat.toDigits 10 n.natAbs,JsonElement.isTokenChar c := fun c hc =>
    isTokenChar_digit (isDigit_toDigits _ c hc)
  rw [JsonElement.long,JsonElement.readable,stringifyInt]
  split
  · have hminus : JsonElement.isTokenChar '-' = true := rfl
    simpa [hminus] using hdigits
  · have hne : Nat.toDigits 10 n.natAbs ≠ [] := Nat.toDigits_ne_nil
    have hnull : Nat.toDigits 10 n.natAbs ≠ "null".toList := by
      intro heq
      have hn : 'n' ∈ Nat.toDigits 10 n.natAbs := heq ▸ (by simp)
      exact absurd (isDigit_toDigits _ _ hn) (by decide)
    rw [Bool.and_eq_true,Bool.and_eq_true]
    exact ⟨⟨decide_eq_true hne,List.all_eq_true.mpr hdigits⟩,decide_eq_true hnull⟩

mutual
theorem readable_ofJson : (v : Json) → v.Distinct → (ofJson v).readable
  | .null, _ => rfl
  | .bool b, _ => by cases b <;> rfl
  | .num n, _ => readable_long n
  | .str s, _ => by rw [ofJson,JsonElement.readable]
  | .arr es, h => by
    rw [Distinct] at h
    rw [ofJson,JsonElement.readable_array]
    exact readable_ofElements es h
  | .obj ms, h => by
    rw [Distinct] at h
    rw [ofJson,JsonElement.readable_object,map_fst_ofMembers]
    exact ⟨h.1,readable_ofMembers ms h.2⟩

theorem readable_ofElements : (es : List Json) → DistinctElements es →
    ∀ item ∈ ofElements es, item.readable
  | [], _ => by simp [ofElements]
  | e :: es, h => by
    rw [DistinctElements] at h
    rw [ofElements,List.forall_mem_cons]
    exact ⟨readable_ofJson e h.1,readable_ofElements es h.2⟩

theorem readable_ofMembers : (ms : List (JsString × Json)) → DistinctMembers ms →
    ∀ entry ∈ ofMembers ms, entry.2.readable
  | [], _ => by simp [ofMembers]
  | (k,v) :: ms, h => by
    rw [DistinctMembers] at h
    rw [ofMembers,List.forall_mem_cons]
    exact ⟨readable_ofJson v h.1,readable_ofMembers ms h.2⟩
end

theorem plainExponent_valid : ∀ e ∈ (none : Option (Char × Option Char × List Char)), (e.1 = 'e' ∨ e.1 = 'E') ∧
    (∀ sign ∈ e.2.1,sign = '+' ∨ sign = '-') ∧ e.2.2 ≠ [] ∧ ∀ c ∈ e.2.2, c.isDigit := by
  intro e he
  cases he

def plainToken (n : ℤ) : NumberToken where
  negative := n < 0
  whole := Nat.toDigits 10 n.natAbs
  fraction := []
  exponent := none
  whole_ne := Nat.toDigits_ne_nil
  whole_digits := isDigit_toDigits n.natAbs
  fraction_digits := List.forall_mem_nil _
  exponent_valid := plainExponent_valid

theorem text_plainToken (n : ℤ) : (plainToken n).text = stringifyInt n := by
  simp [NumberToken.text,NumberToken.magnitudeText,NumberToken.fractionText,NumberToken.exponentText,plainToken,
    stringifyInt]

theorem value_plainToken (n : ℤ) : (plainToken n).value = n := by
  have habs : (if n < 0 then -(n.natAbs : ℚ) else (n.natAbs : ℚ)) = n := by
    split
    · have hcast : -((n.natAbs : ℤ) : ℚ) = n := by
        exact_mod_cast (by omega : -(n.natAbs : ℤ) = n)
      exact hcast
    · have hcast : ((n.natAbs : ℤ) : ℚ) = n := by
        exact_mod_cast (by omega : (n.natAbs : ℤ) = n)
      exact hcast
  simpa [NumberToken.value,NumberToken.magnitude,NumberToken.exponentValue,plainToken] using habs

mutual
theorem spells_ofJson : (v : Json) → Spells (ofJson v) v
  | .null => by rw [ofJson,Spells]
  | .bool b => by
    rw [ofJson,JsonElement.bool,Spells]
    exact .inl ⟨b,rfl,rfl⟩
  | .num n => by
    rw [ofJson,JsonElement.long,Spells]
    exact .inr ⟨plainToken n,n,(text_plainToken n).symm,value_plainToken n,rfl⟩
  | .str s => by rw [ofJson,Spells]
  | .arr es => by
    rw [ofJson,Spells]
    exact ⟨es,rfl,spellsItems_ofElements es⟩
  | .obj ms => by
    rw [ofJson,Spells]
    exact ⟨ms,rfl,spellsEntries_ofMembers ms⟩

theorem spellsItems_ofElements : (es : List Json) → SpellsItems (ofElements es) es
  | [] => by rw [ofElements,SpellsItems]
  | e :: es => by
    rw [ofElements,SpellsItems]
    exact ⟨e,es,rfl,spells_ofJson e,spellsItems_ofElements es⟩

theorem spellsEntries_ofMembers : (ms : List (JsString × Json)) → SpellsEntries (ofMembers ms) ms
  | [] => by rw [ofMembers,SpellsEntries]
  | (k,v) :: ms => by
    rw [ofMembers,SpellsEntries]
    exact ⟨v,ms,rfl,spells_ofJson v,spellsEntries_ofMembers ms⟩
end

theorem safeMembers_iff {ms : List (JsString × Json)} : SafeMembers ms ↔ ∀ m ∈ ms, Safe m.2 := by
  induction ms with
  | nil => simp [SafeMembers]
  | cons m ms ih => simp [SafeMembers,ih]

mutual
/-- The order of members does not matter for the numbers. -/
theorem safe_of_same : (v w : Json) → v.Same w → Safe w → Safe v
  | .null, _, _, _ | .bool _, _, _, _ | .str _, _, _, _ => by simp [Safe]
  | .num n, w, h, hw => by
    obtain rfl : w = .num n := by simpa only [Same] using h
    exact hw
  | .arr es, w, h, hw => by
    rw [Same] at h
    obtain ⟨fs,rfl,hsame⟩ := h
    rw [Safe] at hw ⊢
    exact safeElements_of_same es fs hsame hw
  | .obj ms, w, h, hw => by
    rw [Same] at h
    obtain ⟨ns,rfl,-,hsame⟩ := h
    rw [Safe,safeMembers_iff] at hw
    rw [Safe]
    exact safeMembers_of_same ms ns hsame hw

theorem safeElements_of_same : (es fs : List Json) → SameElements es fs → SafeElements fs → SafeElements es
  | [], _, _, _ => by rw [SafeElements]; trivial
  | e :: es, fs, h, hf => by
    rw [SameElements] at h
    obtain ⟨f,rest,rfl,he,hes⟩ := h
    rw [SafeElements] at hf ⊢
    exact ⟨safe_of_same e f he hf.1,safeElements_of_same es rest hes hf.2⟩

theorem safeMembers_of_same : (ms ns : List (JsString × Json)) → SameMembers ms ns → (∀ n ∈ ns,Safe n.2) →
    SafeMembers ms
  | [], _, _, _ => by rw [SafeMembers]; trivial
  | (k,v) :: ms, ns, h, hn => by
    rw [SameMembers] at h
    obtain ⟨⟨w,hw,hv⟩,hms⟩ := h
    rw [SafeMembers]
    exact ⟨safe_of_same v w hv (hn _ hw),safeMembers_of_same ms ns hms hn⟩
end

/-- Both platforms write one text for a value, both read the value back from it, and values with one text are equal up
to the order of their members. -/
theorem canonical_text (v w : Json) (hv : v.Distinct) (hw : w.Distinct) (hsafe : Safe v) :
    (∀ element,Represents element v → encode element = .ok v.serialize) ∧ (∃ text,v.serialize = JsString.ofChars text ∧
      (∃ value,Json.parse text = some value ∧ value.Same v) ∧
      ∃ element,JsonElement.parse text = some element ∧ Represents element v) ∧
    (v.serialize = w.serialize ↔ v.Same w) := by
  rw [serialize_eq,serialize_eq]
  refine ⟨?_,⟨v.sortKeys.stringify,rfl,?_,?_⟩,canonicalJson_eq_iff hv hw⟩
  · rintro element ⟨u,hu,hspells,hsame⟩
    rw [encode,appendValue_of_spells element u hspells (safe_of_same u v hsame hsafe)]
    exact congrArg Except.ok ((canonicalJson_eq_iff hu hv).mpr hsame)
  · exact ⟨v.sortKeys,Json.parse_stringify _,(same_sortKeys hv).2⟩
  · have hread := JsonElement.parse_text (readable_ofJson _ (distinct_sortKeys v hv))
    rw [text_ofJson] at hread
    exact ⟨ofJson v.sortKeys,hread,v.sortKeys,distinct_sortKeys v hv,spells_ofJson _,(same_sortKeys hv).2⟩

/-- A lone surrogate, and a number with an exponent. -/
def sampleValue : Json := .obj [("b",.arr [.num (-12),.bool true]),("a",.str ⟨[0xD800]⟩)]

def sampleElement : JsonElement :=
  .object [("a",.string ⟨[0xD800]⟩),("b",.array [.token "-1.2e+1".toList,.token "true".toList])]

theorem sampleDigit_one : ∀ c ∈ ['1'], c.isDigit := List.forall_mem_singleton.mpr rfl

theorem sampleDigit_two : ∀ c ∈ ['2'], c.isDigit := List.forall_mem_singleton.mpr rfl

theorem sampleExponent_valid : ∀ e ∈ some ('e',some '+',['1']), (e.1 = 'e' ∨ e.1 = 'E') ∧
    (∀ sign ∈ e.2.1,sign = '+' ∨ sign = '-') ∧ e.2.2 ≠ [] ∧ ∀ c ∈ e.2.2, c.isDigit := by
  rintro e ⟨⟩
  refine ⟨.inl rfl,?_,List.cons_ne_nil _ _,sampleDigit_one⟩
  rintro sign ⟨⟩
  exact .inl rfl

def sampleToken : NumberToken where
  negative := true
  whole := ['1']
  fraction := ['2']
  exponent := some ('e',some '+',['1'])
  whole_ne := List.cons_ne_nil _ _
  whole_digits := sampleDigit_one
  fraction_digits := sampleDigit_two
  exponent_valid := sampleExponent_valid

theorem canonical_text_sample : encode sampleElement = .ok sampleValue.serialize := by
  have hnames : ("b" : JsString) ≠ "a" := by decide
  have hdistinct : sampleValue.Distinct := by
    simp [sampleValue,Distinct,DistinctMembers,DistinctElements,hnames]
  have hsafe : Safe sampleValue := by
    simp [sampleValue,Safe,SafeMembers,SafeElements]
  have hvalue : sampleToken.value = ((-12 : ℤ) : ℚ) := by
    have hdigits : Nat.ofDigitChars 10 ['1','2'] 0 = 12 ∧ Nat.ofDigitChars 10 ['1'] 0 = 1 := ⟨rfl,rfl⟩
    simp [NumberToken.value,NumberToken.magnitude,NumberToken.exponentValue,sampleToken,hdigits]
  refine (canonical_text sampleValue sampleValue hdistinct hdistinct hsafe).1 sampleElement
    ⟨.obj [("a",.str ⟨[0xD800]⟩),("b",.arr [.num (-12),.bool true])],?_,?_,?_⟩
  · simp [Distinct,DistinctMembers,DistinctElements,hnames.symm]
  · rw [sampleElement,Spells]
    refine ⟨_,rfl,?_⟩
    simp only [SpellsEntries,Spells,SpellsItems]
    refine ⟨_,_,rfl,rfl,_,[],rfl,⟨_,rfl,_,_,rfl,.inr ⟨sampleToken,-12,rfl,hvalue,rfl⟩,_,_,rfl,
      .inl ⟨true,rfl,rfl⟩,rfl⟩,rfl⟩
  · simp [sampleValue,Same,SameMembers,SameElements]

end Malink.CanonicalJson
