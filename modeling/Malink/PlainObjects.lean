import Malink.InsertionMaps
import Malink.JsStrings
import Mathlib.Data.List.Sort

/-!
# Plain objects as tables

A plain object keeps values under names. Every object inherits some names, which read as what they stand for where the
object has no value of its own, and its prototype is no entry.
-/

namespace Malink.PlainObject

open List InsertionMap
open Option (some)

def protoName : JsString := "__proto__"

/-- The functions that every object inherits. -/
def inheritedFunctions : List JsString := ["__defineGetter__","__defineSetter__","__lookupGetter__",
  "__lookupSetter__","constructor","hasOwnProperty","isPrototypeOf","propertyIsEnumerable","toLocaleString",
  "toString","valueOf"]

def Inherits (name : JsString) : Prop := name = protoName ∨ name ∈ inheritedFunctions

instance : DecidablePred Inherits := fun _ => inferInstanceAs (Decidable (_ ∨ _))

/-- `structuredClone` refuses functions. -/
def notCloned (name : JsString) : JsString :=
  "function " ++ (if name = "constructor" then ("Object" : JsString) else name) ++
    "() \x7b [native code] \x7d could not be cloned."

/-- The place of a name among the names, if it is an array index. -/
def arrayIndex (name : JsString) : Option ℕ :=
  let index := name.units.foldl (fun n u => 10 * n + (u.toNat - 48)) 0
  if JsString.ofNat index = name ∧ index < 4294967295 then some index else none

variable {α β : Type} [DecidableEq α]

section

variable (name : α → JsString) (object : InsertionMap α β) (key : α)

/-- `object[key]` is anything but `undefined`. -/
def holds : Bool := object.has key || decide (Inherits (name key))

/-- `object[key] = value`, of an object that is no prototype of another one -/
def assign (value : β) : InsertionMap α β := if name key = protoName then object else object.set key value

/-- The entries as they are enumerated: first the array indexes in their order. -/
def ownEntries : List (α × β) :=
  let indexed := object.entries.filter fun entry => (arrayIndex (name entry.1)).isSome
  indexed.insertionSort (fun entry other =>
      (arrayIndex (name entry.1)).getD 0 ≤ (arrayIndex (name other.1)).getD 0) ++
    object.entries.filter fun entry => (arrayIndex (name entry.1)).isNone

end

variable {name : α → JsString} {object : InsertionMap α β} {key key' : α} {value value' : β}

theorem get_assign_cases (h : (assign name object key value).get key' = some value') :
    (key' = key ∧ value' = value) ∨ object.get key' = some value' := by
  rw [assign] at h
  split at h
  · exact .inr h
  · exact (get_set_cases h).imp_right (·.2)

theorem holds_eq_false_iff : holds name object key = false ↔ object.get key = none ∧ ¬ Inherits (name key) := by
  rw [holds,Bool.or_eq_false_iff,decide_eq_false_iff_not,has,Option.isSome_eq_false_iff,Option.isNone_iff_eq_none]

theorem assign_of_not_inherits (h : ¬ Inherits (name key)) : assign name object key value = object.set key value :=
  if_neg fun heq => h (.inl heq)

/-- A clone of `object[key]`. That of the prototype is an object without properties. -/
def copy (object : InsertionMap JsString β) (key : JsString) : Except JsString (Option (Option β)) :=
  match object.get key with
  | some value => .ok (some (some value))
  | none =>
    if key = protoName then .ok (some none)
    else if key ∈ inheritedFunctions then .error (notCloned key)
    else .ok none

variable {object : InsertionMap JsString β} {key : JsString}

theorem copy_of_not_inherits (h : ¬ Inherits key) : copy object key = .ok ((object.get key).map some) := by
  rw [copy]
  cases object.get key with
  | some other => rfl
  | none =>
    obtain ⟨hproto,hfunction⟩ := not_or.mp h
    simp [hproto,hfunction]

end Malink.PlainObject
