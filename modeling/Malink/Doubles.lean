import Mathlib.Algebra.Order.Field.Power
import Mathlib.Algebra.Order.Round
import Mathlib.Data.Int.Log
import Mathlib.Data.Rat.Floor
import Mathlib.Tactic.Linarith
import Mathlib.Tactic.Positivity

/-!
# Doubles and their decimals

A text is read as the nearest double, and a double is written with the fewest digits that are read as it again.
-/

namespace Malink

/-- `unscaled * 10 ^ (-scale)` -/
structure BigDecimal where
  unscaled : ℤ
  scale : ℤ
  deriving DecidableEq

variable {d : BigDecimal}

namespace BigDecimal

def value (d : BigDecimal) : ℚ := d.unscaled * (10 : ℚ) ^ (-d.scale)

/-- The fuel bounds the number of zeros. -/
def stripZeros : ℕ → BigDecimal → BigDecimal
  | 0, d => d
  | n + 1, d => if d.unscaled % 10 = 0 then stripZeros n ⟨d.unscaled / 10,d.scale - 1⟩ else d

def stripTrailingZeros (d : BigDecimal) : BigDecimal :=
  if d.unscaled = 0 then ⟨0,0⟩ else stripZeros d.unscaled.natAbs d

def digits (d : BigDecimal) : List Char := Nat.toDigits 10 d.unscaled.natAbs

/-- `toPlainString` -/
def toPlainString (d : BigDecimal) : List Char :=
  (if d.unscaled < 0 then ['-'] else []) ++
    if d.scale ≤ 0 then
      if d.unscaled = 0 then ['0'] else d.digits ++ List.replicate (-d.scale).toNat '0'
    else
      let padded := List.replicate (d.scale.toNat + 1 - d.digits.length) '0' ++ d.digits
      padded.take (padded.length - d.scale.toNat) ++ '.' :: padded.drop (padded.length - d.scale.toNat)

theorem value_stripZeros (n : ℕ) (d : BigDecimal) : (stripZeros n d).value = d.value := by
  induction n generalizing d with
  | zero => rfl
  | succ n ih =>
    rw [stripZeros]
    split
    · next hzero =>
      rw [ih]
      obtain ⟨m,hm⟩ : (10 : ℤ) ∣ d.unscaled := Int.dvd_of_emod_eq_zero hzero
      have hdiv : d.unscaled / 10 = m := by omega
      have hpow : (10 : ℚ) ^ (-(d.scale - 1)) = 10 ^ (-d.scale) * 10 := by
        rw [show -(d.scale - 1) = -d.scale + 1 by omega,zpow_add_one₀ (by norm_num)]
      rw [value,value,hdiv,hpow,hm,Int.cast_mul]
      push_cast
      ring
    · rfl

theorem unscaled_stripZeros {n : ℕ} (hn : d.unscaled.natAbs ≤ n) (hne : d.unscaled ≠ 0) :
    (stripZeros n d).unscaled % 10 ≠ 0 := by
  induction n generalizing d with
  | zero => omega
  | succ n ih =>
    rw [stripZeros]
    split
    · next hzero =>
      refine ih ?_ ?_
      · change (d.unscaled / 10).natAbs ≤ n
        omega
      · change d.unscaled / 10 ≠ 0
        omega
    · next hzero => exact hzero

theorem value_stripTrailingZeros (d : BigDecimal) : d.stripTrailingZeros.value = d.value := by
  rw [stripTrailingZeros]
  split
  · next hzero => simp [value,hzero]
  · exact value_stripZeros _ d

theorem unscaled_stripTrailingZeros (hne : d.unscaled ≠ 0) : d.stripTrailingZeros.unscaled % 10 ≠ 0 := by
  rw [stripTrailingZeros,if_neg hne]
  exact unscaled_stripZeros le_rfl hne

/-- A decimal without trailing zeros whose value is an integer has no digits behind the point. -/
theorem scale_of_integer {n : ℤ} (hlast : d.unscaled % 10 ≠ 0) (hvalue : d.value = n) :
    d.scale ≤ 0 ∧ d.unscaled * 10 ^ (-d.scale).toNat = n := by
  have hscale : d.scale ≤ 0 := by
    by_contra hpos
    obtain ⟨k,hk⟩ : ∃ k : ℕ,d.scale = k + 1 := ⟨(d.scale - 1).toNat,by omega⟩
    have hunscaled : (d.unscaled : ℚ) = n * 10 ^ (k + 1) := by
      rw [← hvalue,value,hk,zpow_neg,show ((k : ℤ) + 1) = ((k + 1 : ℕ) : ℤ) by norm_cast,zpow_natCast]
      field_simp
    have hint : d.unscaled = n * 10 ^ (k + 1) := by exact_mod_cast hunscaled
    rw [hint,pow_succ,← mul_assoc] at hlast
    exact hlast (Int.mul_emod_left _ _)
  refine ⟨hscale,?_⟩
  have hexponent : -d.scale = ((-d.scale).toNat : ℤ) := by omega
  have hcast : (d.unscaled : ℚ) * 10 ^ (-d.scale).toNat = n := by
    rw [← hvalue,value]
    conv_rhs => rw [hexponent,zpow_natCast]
  exact_mod_cast hcast

theorem toDigits_mul_pow {n : ℕ} (hn : 0 < n) (k : ℕ) :
    Nat.toDigits 10 (n * 10 ^ k) = Nat.toDigits 10 n ++ List.replicate k '0' := by
  induction k with
  | zero => simp
  | succ k ih =>
    have hpos : 0 < n * 10 ^ k := Nat.mul_pos hn (by positivity)
    have happend := Nat.toDigits_append_toDigits (b := 10) (d := 0) (by omega) hpos (by omega)
    rw [List.replicate_succ',← List.append_assoc,← ih]
    calc Nat.toDigits 10 (n * 10 ^ (k + 1)) = Nat.toDigits 10 (10 * (n * 10 ^ k) + 0) := by
          congr 1
          ring
      _ = Nat.toDigits 10 (n * 10 ^ k) ++ ['0'] := happend.symm

theorem toPlainString_of_integer {n : ℤ} (hne : n ≠ 0) (hlast : d.unscaled % 10 ≠ 0) (hvalue : d.value = n) :
    d.toPlainString = if n < 0 then '-' :: Nat.toDigits 10 n.natAbs else Nat.toDigits 10 n.natAbs := by
  obtain ⟨hscale,hinteger⟩ := scale_of_integer hlast hvalue
  have hunscaled : d.unscaled ≠ 0 := by
    intro hzero
    rw [hzero,zero_mul] at hinteger
    exact hne hinteger.symm
  have hdigits : d.digits ++ List.replicate (-d.scale).toNat '0' = Nat.toDigits 10 n.natAbs := by
    have habs : n.natAbs = d.unscaled.natAbs * 10 ^ (-d.scale).toNat := by
      rw [← hinteger,Int.natAbs_mul,Int.natAbs_pow]
      rfl
    rw [habs,toDigits_mul_pow (Int.natAbs_pos.mpr hunscaled),digits]
  have hsign : d.unscaled < 0 ↔ n < 0 := by
    have hpow : (0 : ℤ) < 10 ^ (-d.scale).toNat := by positivity
    rw [← hinteger]
    constructor
    · exact fun hneg => mul_neg_of_neg_of_pos hneg hpow
    · exact fun hneg => neg_of_mul_neg_left hneg hpow.le
  rw [toPlainString,if_pos hscale,if_neg hunscaled,hdigits]
  simp only [hsign]
  split
  · rfl
  · rfl

end BigDecimal

/-- Ties go to the even neighbour. -/
def roundHalfEven (x : ℚ) : ℤ :=
  if x - ⌊x⌋ < 1 / 2 then ⌊x⌋
  else if 1 / 2 < x - ⌊x⌋ then ⌊x⌋ + 1
  else if ⌊x⌋ % 2 = 0 then ⌊x⌋ else ⌊x⌋ + 1

def lastBit (x : ℚ) : ℤ := max (Int.log 2 |x| - 52) (-1074)

/-- Beyond the greatest double there is only infinity. -/
def nearestDouble (x : ℚ) : Option ℚ :=
  let y := roundHalfEven (x / 2 ^ lastBit x) * (2 : ℚ) ^ lastBit x
  if |y| < 2 ^ 1024 then some y else none

theorem roundHalfEven_intCast (n : ℤ) : roundHalfEven n = n := by
  simp [roundHalfEven]

variable {n : ℤ}

theorem le_roundHalfEven {x : ℚ} (h : (n : ℚ) ≤ x) : n ≤ roundHalfEven x := by
  have hfloor : n ≤ ⌊x⌋ := Int.le_floor.mpr h
  unfold roundHalfEven
  split_ifs <;> omega

theorem roundHalfEven_le {x : ℚ} (h : x ≤ n) : roundHalfEven x ≤ n := by
  have hfloor : ⌊x⌋ ≤ n := by
    have hcast : (⌊x⌋ : ℚ) ≤ n := (Int.floor_le x).trans h
    exact_mod_cast hcast
  rcases hfloor.lt_or_eq with hlt | heq
  · unfold roundHalfEven
    split_ifs <;> omega
  · -- then `x` is the integer itself
    have hx : x = n := le_antisymm h (heq ▸ Int.floor_le x)
    rw [hx,roundHalfEven_intCast]

theorem lastBit_nonpos (hn : |n| < 2 ^ 53) : lastBit n ≤ 0 := by
  rw [lastBit,max_le_iff]
  refine ⟨?_,by norm_num⟩
  rcases eq_or_ne n 0 with rfl | hne
  · simp
  · have hpos : (0 : ℚ) < |(n : ℚ)| := abs_pos.mpr (by exact_mod_cast hne)
    have hlt : |(n : ℚ)| < ((2 : ℕ) : ℚ) ^ (53 : ℤ) := by exact_mod_cast hn
    have hlog := (Int.lt_zpow_iff_log_lt (by norm_num) hpos).mp hlt
    omega

theorem nearestDouble_of_small (hn : |n| < 2 ^ 53) : nearestDouble n = some (n : ℚ) := by
  have hbit := lastBit_nonpos hn
  have hscaled : (n : ℚ) / 2 ^ lastBit n = ((n * 2 ^ (-lastBit n).toNat : ℤ) : ℚ) := by
    have hexponent : -lastBit n = ((-lastBit n).toNat : ℤ) := by omega
    rw [div_eq_mul_inv,← zpow_neg]
    push_cast
    conv_lhs => rw [hexponent,zpow_natCast]
  have hback : ((n * 2 ^ (-lastBit n).toNat : ℤ) : ℚ) * 2 ^ lastBit n = n := by
    rw [← hscaled,div_mul_cancel₀ _ (by positivity)]
  have hbound : |(n : ℚ)| < 2 ^ 1024 := by
    have hlt : |(n : ℚ)| < 2 ^ 53 := by exact_mod_cast hn
    exact hlt.trans (pow_lt_pow_right₀ (by norm_num) (by norm_num))
  simp only [nearestDouble,hscaled,roundHalfEven_intCast,hback,hbound,if_true]

/-- Integers of more than 53 bits are not read as one of fewer. -/
theorem le_nearestDouble {y : ℚ} (hn : 2 ^ 53 ≤ |n|) (h : nearestDouble n = some y) : 2 ^ 53 ≤ |y| := by
  have hpos : (0 : ℚ) < |(n : ℚ)| := by
    have hle : (2 : ℚ) ^ 53 ≤ |(n : ℚ)| := by exact_mod_cast hn
    exact lt_of_lt_of_le (by norm_num) hle
  have hlog : 53 ≤ Int.log 2 |(n : ℚ)| := by
    refine (Int.zpow_le_iff_le_log (by norm_num) hpos).mp ?_
    exact_mod_cast hn
  have hbit : lastBit n = Int.log 2 |(n : ℚ)| - 52 := max_eq_left (by omega)
  have hlow : ((2 : ℕ) : ℚ) ^ Int.log 2 |(n : ℚ)| ≤ |(n : ℚ)| := Int.zpow_log_le_self (by norm_num) hpos
  have hpow : (2 : ℚ) ^ Int.log 2 |(n : ℚ)| = 2 ^ (52 : ℤ) * 2 ^ lastBit n := by
    rw [← zpow_add₀ (by norm_num),hbit]
    congr 1
    omega
  have hscale : (0 : ℚ) < 2 ^ lastBit n := by positivity
  have hmantissa : (2 : ℚ) ^ 52 ≤ |(n : ℚ) / 2 ^ lastBit n| := by
    rw [abs_div,abs_of_pos hscale,le_div_iff₀ hscale]
    calc (2 : ℚ) ^ 52 * 2 ^ lastBit n = 2 ^ Int.log 2 |(n : ℚ)| := by rw [hpow]; norm_num
      _ ≤ |(n : ℚ)| := by exact_mod_cast hlow
  have hrounded : (2 : ℤ) ^ 52 ≤ |roundHalfEven (n / 2 ^ lastBit n)| := by
    rcases le_abs.mp hmantissa with hle | hle
    · exact (le_roundHalfEven (by exact_mod_cast hle)).trans (le_abs_self _)
    · have hneg : (n : ℚ) / 2 ^ lastBit n ≤ ((-2 ^ 52 : ℤ) : ℚ) := by
        push_cast
        linarith
      have hround := roundHalfEven_le hneg
      exact le_trans (by omega) (neg_le_abs _)
  have hy : y = roundHalfEven (n / 2 ^ lastBit n) * (2 : ℚ) ^ lastBit n := by
    simp only [nearestDouble] at h
    split at h
    · exact (Option.some.inj h).symm
    · cases h
  have hcast : (2 : ℚ) ^ 52 ≤ |((roundHalfEven (n / 2 ^ lastBit n) : ℤ) : ℚ)| := by exact_mod_cast hrounded
  have htwo : (2 : ℚ) ≤ 2 ^ lastBit n := by
    calc (2 : ℚ) = 2 ^ (1 : ℤ) := by norm_num
      _ ≤ 2 ^ lastBit n := zpow_le_zpow_right₀ (by norm_num) (by omega)
  rw [hy,abs_mul,abs_of_pos hscale]
  calc (2 : ℚ) ^ 53 = 2 ^ 52 * 2 := by norm_num
    _ ≤ _ := mul_le_mul hcast htwo (by norm_num) (abs_nonneg _)

/-- The only integer that is read as a small one is that one. -/
theorem eq_of_nearestDouble {m n : ℤ} (hn : |n| < 2 ^ 53) (h : nearestDouble m = some (n : ℚ)) : m = n := by
  rcases lt_or_ge |m| (2 ^ 53) with hm | hm
  · rw [nearestDouble_of_small hm,Option.some.injEq] at h
    exact_mod_cast h
  · have hle : (2 : ℚ) ^ 53 ≤ |(n : ℚ)| := le_nearestDouble hm h
    have hint : (2 : ℤ) ^ 53 ≤ |n| := by exact_mod_cast hle
    exact absurd hn (not_lt.mpr hint)

/-- The neighbours of a double on the grid of the multiples of `10 ^ k`, the nearest one first. -/
def neighbours (x : ℚ) (k : ℤ) : List ℤ :=
  let near := roundHalfEven (x / 10 ^ k)
  [near,if near = ⌊x / 10 ^ k⌋ then near + 1 else near - 1]

/-- The nearest neighbour that is read as the double. -/
def readAgain (x : ℚ) (k : ℤ) : Option BigDecimal :=
  ((neighbours x k).find? fun c : ℤ => nearestDouble (c * 10 ^ k) = some x).map fun c => ⟨c,-k⟩

/-- `Double.toString` of a double other than zero, as a decimal: two digits at least, seventeen at most. -/
def shortestDecimal (x : ℚ) : BigDecimal :=
  ((List.range 15).findSome? fun i => readAgain x (Int.log 10 |x| - 1 - i)).getD
    ⟨roundHalfEven (x / 10 ^ (Int.log 10 |x| - 16)),-(Int.log 10 |x| - 16)⟩

theorem roundHalfEven_div_pow (n : ℤ) {k : ℤ} (hk : k ≤ 0) : (roundHalfEven ((n : ℚ) / 10 ^ k) : ℚ) * 10 ^ k = n := by
  have hexponent : -k = ((-k).toNat : ℤ) := by omega
  have hscaled : (n : ℚ) / 10 ^ k = ((n * 10 ^ (-k).toNat : ℤ) : ℚ) := by
    rw [div_eq_mul_inv,← zpow_neg]
    push_cast
    conv_lhs => rw [hexponent,zpow_natCast]
  rw [hscaled,roundHalfEven_intCast,← hscaled,div_mul_cancel₀ _ (by positivity)]

theorem value_readAgain {k : ℤ} (hn : |n| < 2 ^ 53) (h : readAgain n k = some d) : d.value = n := by
  obtain ⟨c,hfind,rfl⟩ := Option.map_eq_some_iff.mp h
  have hread : nearestDouble (c * 10 ^ k) = some (n : ℚ) := by simpa using List.find?_some hfind
  rw [BigDecimal.value,neg_neg]
  rcases le_total 0 k with hk | hk
  · -- on a coarse grid the neighbour is an integer
    have hexponent : k = (k.toNat : ℤ) := by omega
    have hint : (c : ℚ) * 10 ^ k = ((c * 10 ^ k.toNat : ℤ) : ℚ) := by
      push_cast
      conv_lhs => rw [hexponent,zpow_natCast]
    rw [hint] at hread ⊢
    exact_mod_cast eq_of_nearestDouble hn hread
  · -- on a fine grid the integer is its own nearest neighbour
    have hnear := roundHalfEven_div_pow n hk
    rw [neighbours,List.find?_cons_of_pos (by simp [hnear,nearestDouble_of_small hn])] at hfind
    rw [← Option.some.inj hfind,hnear]

theorem value_shortestDecimal (hn : |n| < 2 ^ 53) (hne : n ≠ 0) : (shortestDecimal n).value = n := by
  rw [shortestDecimal]
  cases hfound : (List.range 15).findSome? fun i => readAgain n (Int.log 10 |(n : ℚ)| - 1 - i) with
  | some d =>
    obtain ⟨i,-,hread⟩ := List.exists_of_findSome?_eq_some hfound
    exact value_readAgain hn hread
  | none =>
    have hpos : (0 : ℚ) < |(n : ℚ)| := abs_pos.mpr (by exact_mod_cast hne)
    have hlt : |(n : ℚ)| < ((10 : ℕ) : ℚ) ^ (16 : ℤ) := by
      have hsmall : |(n : ℚ)| < 2 ^ 53 := by exact_mod_cast hn
      exact hsmall.trans (by norm_num)
    have hlog := (Int.lt_zpow_iff_log_lt (by norm_num) hpos).mp hlt
    rw [Option.getD_none,BigDecimal.value,neg_neg]
    exact roundHalfEven_div_pow n (by omega)

end Malink
