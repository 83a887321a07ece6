import Malink.KotlinJsonText
import Malink.CanonicalJson

/-!
# Checks of strings

Blank strings, control characters and UUIDs as the standard library of the client's language sees them, one UTF-16
unit at a time.
-/

namespace Malink.JsString

theorem ofString_inj {s t : String} : ofString s = ofString t ↔ s = t := by
  constructor
  · intro h
    exact String.toList_inj.mp (ofChars_injective h)
  · rintro rfl
    rfl

/-- A text of characters has every surrogate in its pair. -/
theorem wellFormed_ofChars (cs : List Char) : (ofChars cs).wellFormed := by
  have hplain : ∀ (u : UInt16) (us : List UInt16),Json.isHigh u = false → Json.isLow u = false →
      scrubUnits (u :: us) = u :: scrubUnits us := by
    intro u us hhigh hlow
    cases us with
    | nil | cons => simp [scrubUnits,hhigh,hlow]
  rw [wellFormed,decide_eq_true_eq]
  induction cs with
  | nil => rfl
  | cons c cs ih =>
    have hc : c.toNat < 0xD800 ∨ (0xDFFF < c.toNat ∧ c.toNat < 0x110000) := c.valid
    have hunits : (ofChars (c :: cs)).units = encodeChar c ++ (ofChars cs).units := rfl
    rw [hunits,encodeChar]
    split
    · have hu : (UInt16.ofNat c.toNat).toNat = c.toNat := by
        rw [UInt16.toNat_ofNat']
        omega
      rw [List.singleton_append,hplain _ _ (by simp [Json.isHigh,hu]; omega) (by simp [Json.isLow,hu]; omega),ih]
    · have hhigh : (UInt16.ofNat (0xD800 + (c.toNat - 0x10000) / 0x400)).toNat =
          0xD800 + (c.toNat - 0x10000) / 0x400 := by
        rw [UInt16.toNat_ofNat']
        omega
      have hlow : (UInt16.ofNat (0xDC00 + (c.toNat - 0x10000) % 0x400)).toNat =
          0xDC00 + (c.toNat - 0x10000) % 0x400 := by
        rw [UInt16.toNat_ofNat']
        omega
      have hpair : (Json.isHigh (UInt16.ofNat (0xD800 + (c.toNat - 0x10000) / 0x400)) &&
          Json.isLow (UInt16.ofNat (0xDC00 + (c.toNat - 0x10000) % 0x400))) = true := by
        simp only [Json.isHigh,Json.isLow,hhigh,hlow,Bool.and_eq_true,decide_eq_true_eq]
        omega
      rw [List.cons_append,List.singleton_append,scrubUnits,if_pos hpair,ih]

theorem scrubUnits_of_plain : (units : List UInt16) →
    (∀ u ∈ units,Json.isHigh u = false ∧ Json.isLow u = false) → scrubUnits units = units
  | [], _ => rfl
  | [u], h => by
    obtain ⟨hhigh,hlow⟩ := h u List.mem_cons_self
    simp [scrubUnits,hhigh,hlow]
  | u :: l :: units, h => by
    obtain ⟨hhigh,hlow⟩ := h u List.mem_cons_self
    have ih := scrubUnits_of_plain (l :: units) fun v hv => h v (List.mem_cons_of_mem u hv)
    simp [scrubUnits,hhigh,hlow,ih]

theorem wellFormed_of_plain {s : JsString} (h : ∀ u ∈ s.units,Json.isHigh u = false ∧ Json.isLow u = false) :
    s.wellFormed := decide_eq_true (scrubUnits_of_plain s.units h)

theorem not_surrogate_of_lt {u : UInt16} (h : u.toNat < 0xD800) : Json.isHigh u = false ∧ Json.isLow u = false := by
  constructor
  · rw [Json.isHigh,Bool.and_eq_false_iff,decide_eq_false_iff_not]
    left
    omega
  · rw [Json.isLow,Bool.and_eq_false_iff,decide_eq_false_iff_not]
    left
    omega

theorem wellFormed_ofString (s : String) : (ofString s).wellFormed := wellFormed_ofChars s.toList

/-- White space or a space separator. -/
def isWhitespace (u : UInt16) : Bool :=
  (9 ≤ u.toNat && u.toNat ≤ 13) || (28 ≤ u.toNat && u.toNat ≤ 32) || u.toNat = 0xA0 || u.toNat = 0x1680 ||
    (0x2000 ≤ u.toNat && u.toNat ≤ 0x200A) || u.toNat = 0x2028 || u.toNat = 0x2029 || u.toNat = 0x202F ||
    u.toNat = 0x205F || u.toNat = 0x3000

def isBlank (s : JsString) : Bool := s.units.all isWhitespace

def isISOControl (u : UInt16) : Bool := u.toNat ≤ 0x1F || (0x7F ≤ u.toNat && u.toNat ≤ 0x9F)

def isHexDigit (u : UInt16) : Bool :=
  (48 ≤ u.toNat && u.toNat ≤ 57) || (97 ≤ u.toNat && u.toNat ≤ 102) || (65 ≤ u.toNat && u.toNat ≤ 70)

/-- The places of the hyphens in the canonical form, of which only the case of the digits may differ. -/
def isUuid (s : JsString) : Bool :=
  s.length = 36 && s.units.zipIdx.all fun (u,i) =>
    if i = 8 || i = 13 || i = 18 || i = 23 then u.toNat = 45 else isHexDigit u

end Malink.JsString
