import Malink.JsonTextRoundTrip

/-!
# JSON elements

The trees of a JSON library that keeps numbers and booleans as the tokens of the text.
-/

namespace Malink

/-- An unquoted token is kept as it is written. -/
inductive JsonElement where
  | null
  | token (content : List Char)
  | string (content : JsString)
  | array (items : List JsonElement)
  | object (entries : List (JsString × JsonElement))
  deriving Inhabited

namespace JsonElement

mutual
def decEq : (a b : JsonElement) → Decidable (a = b)
  | .null, .null => isTrue rfl
  | .token a, .token b => decidable_of_iff (a = b) (by simp)
  | .string a, .string b => decidable_of_iff (a = b) (by simp)
  | .array as, .array bs => match decEqItems as bs with
    | isTrue h => isTrue (by rw [h])
    | isFalse h => isFalse (by simpa using h)
  | .object as, .object bs => match decEqEntries as bs with
    | isTrue h => isTrue (by rw [h])
    | isFalse h => isFalse (by simpa using h)
  | .null, .token _ | .null, .string _ | .null, .array _ | .null, .object _ | .token _, .null | .token _, .string _
  | .token _, .array _ | .token _, .object _ | .string _, .null | .string _, .token _ | .string _, .array _
  | .string _, .object _ | .array _, .null | .array _, .token _ | .array _, .string _ | .array _, .object _
  | .object _, .null | .object _, .token _ | .object _, .string _ | .object _, .array _ => isFalse (by simp)

def decEqItems : (as bs : List JsonElement) → Decidable (as = bs)
  | [], [] => isTrue rfl
  | [], _ :: _ | _ :: _, [] => isFalse (by simp)
  | a :: as, b :: bs => match decEq a b, decEqItems as bs with
    | isTrue h, isTrue h' => isTrue (by rw [h,h'])
    | isFalse h, _ => isFalse (by simp [h])
    | _, isFalse h => isFalse (by simp [h])

def decEqEntries : (as bs : List (JsString × JsonElement)) → Decidable (as = bs)
  | [], [] => isTrue rfl
  | [], _ :: _ | _ :: _, [] => isFalse (by simp)
  | (k,a) :: as, (l,b) :: bs =>
    if hk : k = l then match decEq a b, decEqEntries as bs with
      | isTrue h, isTrue h' => isTrue (by rw [hk,h,h'])
      | isFalse h, _ => isFalse (by simp [h])
      | _, isFalse h => isFalse (by simp [h])
    else isFalse (by simp [hk])
end

instance : DecidableEq JsonElement := decEq

def field (name : JsString) : JsonElement → Option JsonElement
  | .object entries => (entries.find? fun entry => entry.1 = name).map Prod.snd
  | _ => none

def long (n : ℤ) : JsonElement := .token (Json.stringifyInt n)

def bool (b : Bool) : JsonElement := .token (if b then "true".toList else "false".toList)

/-- `contentOrNull` of a primitive. -/
def contentOrNull : JsonElement → Option JsString
  | .token content => some (JsString.ofChars content)
  | .string content => some content
  | .null | .array _ | .object _ => none

def isPrimitive : JsonElement → Bool
  | .null | .token _ | .string _ => true
  | .array _ | .object _ => false

mutual
/-- `==`, for which the order of the members does not count. -/
def same : JsonElement → JsonElement → Bool
  | .null, .null => true
  | .token a, .token b => a = b
  | .string a, .string b => a = b
  | .array as, .array bs => sameItems as bs
  | .object as, .object bs => as.length = bs.length && sameEntries as bs
  | _, _ => false

def sameItems : List JsonElement → List JsonElement → Bool
  | [], [] => true
  | a :: as, b :: bs => same a b && sameItems as bs
  | _, _ => false

def sameEntries : List (JsString × JsonElement) → List (JsString × JsonElement) → Bool
  | [], _ => true
  | (k,a) :: as, bs => bs.any (fun entry => entry.1 = k && same a entry.2) && sameEntries as bs
end

mutual
theorem same_self (e : JsonElement) : e.same e := by
  cases e with
  | null => rfl
  | token | string => simp [same]
  | array items =>
    rw [same]
    exact sameItems_self items
  | object entries =>
    rw [same,sameEntries_of_subset entries entries (List.Subset.refl entries)]
    simp

theorem sameItems_self (items : List JsonElement) : sameItems items items := by
  cases items with
  | nil => rfl
  | cons item items => rw [sameItems,same_self item,sameItems_self items,Bool.and_self]

theorem sameEntries_of_subset (entries all : List (JsString × JsonElement)) (h : entries ⊆ all) :
    sameEntries entries all := by
  cases entries with
  | nil => rfl
  | cons entry entries =>
    obtain ⟨key,value⟩ := entry
    obtain ⟨hmem,hrest⟩ := List.cons_subset.mp h
    rw [sameEntries,sameEntries_of_subset entries all hrest,Bool.and_true,List.any_eq_true]
    exact ⟨(key,value),hmem,by simp [same_self value]⟩
end

end JsonElement

end Malink
