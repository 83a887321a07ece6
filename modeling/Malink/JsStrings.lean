import Mathlib.Data.List.Basic
import Mathlib.Data.Nat.Notation

/-!
# Strings of UTF-16 code units

The string type of the source language is a sequence of 16-bit code units.
-/

namespace Malink

structure JsString where
  units : List UInt16
  deriving DecidableEq, Repr, Inhabited

namespace JsString

/-- The one or two units of a Unicode scalar value. -/
def encodeChar (c : Char) : List UInt16 :=
  if c.toNat < 0x10000 then [UInt16.ofNat c.toNat]
  else [UInt16.ofNat (0xD800 + (c.toNat - 0x10000) / 0x400),UInt16.ofNat (0xDC00 + (c.toNat - 0x10000) % 0x400)]

def ofChars (cs : List Char) : JsString := ⟨cs.flatMap encodeChar⟩

def ofString (s : String) : JsString := ofChars s.toList

instance : Coe String JsString := ⟨ofString⟩

instance : Append JsString := ⟨fun s t => ⟨s.units ++ t.units⟩⟩

def ofNat (n : ℕ) : JsString := ofChars (Nat.toDigits 10 n)

def length (s : JsString) : ℕ := s.units.length

/-- Truth value of a string: only the empty string is false. -/
def truthy (s : JsString) : Bool := !s.units.isEmpty

/-- `slice(0, n)`. -/
def take (s : JsString) (n : ℕ) : JsString := ⟨s.units.take n⟩

@[simp] theorem units_append (s t : JsString) : (s ++ t).units = s.units ++ t.units := rfl

@[simp] theorem length_append (s t : JsString) : (s ++ t).length = s.length + t.length := by
  simp [length]

theorem length_take_le (s : JsString) (n : ℕ) : (s.take n).length ≤ n := List.length_take_le n s.units

theorem truthy_iff {s : JsString} : s.truthy ↔ 0 < s.length := by
  simp [truthy,length,List.length_pos_iff]

end JsString

end Malink
