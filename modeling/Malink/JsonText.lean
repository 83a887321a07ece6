import Malink.JsStrings
import Mathlib.Data.Int.Notation

/-!
# JSON values and their text

`stringify` writes no white space and escapes control characters and unpaired surrogates. `parse` is a
recursive-descent reader over integers. Of the members of one name `field` reads the last.
-/

namespace Malink

inductive Json where
  | null
  | bool (b : Bool)
  | num (n : ℤ)
  | str (s : JsString)
  | arr (es : List Json)
  | obj (ms : List (JsString × Json))
  deriving Repr, Inhabited

namespace Json

mutual
def decEq : (a b : Json) → Decidable (a = b)
  | .null, .null => isTrue rfl
  | .bool a, .bool b => decidable_of_iff (a = b) (by simp)
  | .num a, .num b => decidable_of_iff (a = b) (by simp)
  | .str a, .str b => decidable_of_iff (a = b) (by simp)
  | .arr as, .arr bs => match decEqElements as bs with
    | isTrue h => isTrue (by rw [h])
    | isFalse h => isFalse (by simpa using h)
  | .obj as, .obj bs => match decEqMembers as bs with
    | isTrue h => isTrue (by rw [h])
    | isFalse h => isFalse (by simpa using h)
  | .null, .bool _ | .null, .num _ | .null, .str _ | .null, .arr _ | .null, .obj _
  | .bool _, .null | .bool _, .num _ | .bool _, .str _ | .bool _, .arr _ | .bool _, .obj _
  | .num _, .null | .num _, .bool _ | .num _, .str _ | .num _, .arr _ | .num _, .obj _
  | .str _, .null | .str _, .bool _ | .str _, .num _ | .str _, .arr _ | .str _, .obj _
  | .arr _, .null | .arr _, .bool _ | .arr _, .num _ | .arr _, .str _ | .arr _, .obj _
  | .obj _, .null | .obj _, .bool _ | .obj _, .num _ | .obj _, .str _ | .obj _, .arr _ =>
    isFalse (by simp)

def decEqElements : (as bs : List Json) → Decidable (as = bs)
  | [], [] => isTrue rfl
  | [], _ :: _ | _ :: _, [] => isFalse (by simp)
  | a :: as, b :: bs => match decEq a b, decEqElements as bs with
    | isTrue ha, isTrue hs => isTrue (by rw [ha,hs])
    | isFalse ha, _ => isFalse (by simp [ha])
    | _, isFalse hs => isFalse (by simp [hs])

def decEqMembers : (as bs : List (JsString × Json)) → Decidable (as = bs)
  | [], [] => isTrue rfl
  | [], _ :: _ | _ :: _, [] => isFalse (by simp)
  | (k,a) :: as, (l,b) :: bs =>
    if hk : k = l then match decEq a b, decEqMembers as bs with
      | isTrue ha, isTrue hs => isTrue (by rw [hk,ha,hs])
      | isFalse ha, _ => isFalse (by simp [ha])
      | _, isFalse hs => isFalse (by simp [hs])
    else isFalse (by simp [hk])
end

instance : DecidableEq Json := decEq

/-- The member of an object under a name, as an indexed read sees it. -/
def field (name : JsString) : Json → Option Json
  | .obj ms => (ms.findRev? (fun m => m.1 = name)).map Prod.snd
  | _ => none

def hexDigit (n : ℕ) : Char := Nat.digitChar (n % 16)

def escapeHex (u : UInt16) : List Char :=
  ['\\','u',hexDigit (u.toNat / 4096),hexDigit (u.toNat / 256),hexDigit (u.toNat / 16),hexDigit u.toNat]

def isHigh (u : UInt16) : Bool := 0xD800 ≤ u.toNat && u.toNat < 0xDC00
def isLow (u : UInt16) : Bool := 0xDC00 ≤ u.toNat && u.toNat < 0xE000

def escapeUnit (u : UInt16) : List Char :=
  if u.toNat = 34 then ['\\','"']
  else if u.toNat = 92 then ['\\','\\']
  else if u.toNat = 8 then ['\\','b']
  else if u.toNat = 9 then ['\\','t']
  else if u.toNat = 10 then ['\\','n']
  else if u.toNat = 12 then ['\\','f']
  else if u.toNat = 13 then ['\\','r']
  else if u.toNat < 32 || isHigh u || isLow u then escapeHex u
  else [Char.ofNat u.toNat]

/-- A well-placed surrogate pair is written as its character, every other unit on its own. -/
def escapeUnits : List UInt16 → List Char
  | [] => []
  | [u] => escapeUnit u
  | u :: l :: us =>
    if isHigh u && isLow l then
      Char.ofNat (0x10000 + (u.toNat - 0xD800) * 0x400 + (l.toNat - 0xDC00)) :: escapeUnits us
    else escapeUnit u ++ escapeUnits (l :: us)

def stringifyString (s : JsString) : List Char := '"' :: escapeUnits s.units ++ ['"']

def stringifyInt (n : ℤ) : List Char :=
  if n < 0 then '-' :: Nat.toDigits 10 n.natAbs else Nat.toDigits 10 n.natAbs

mutual
def stringify : Json → List Char
  | .null => "null".toList
  | .bool b => if b then "true".toList else "false".toList
  | .num n => stringifyInt n
  | .str s => stringifyString s
  | .arr es => '[' :: stringifyElements es ++ [']']
  | .obj ms => '{' :: stringifyMembers ms ++ ['}']

def stringifyElements : List Json → List Char
  | [] => []
  | [e] => stringify e
  | e :: e' :: es => stringify e ++ ',' :: stringifyElements (e' :: es)

def stringifyMembers : List (JsString × Json) → List Char
  | [] => []
  | [(k,v)] => stringifyString k ++ ':' :: stringify v
  | (k,v) :: m :: ms => stringifyString k ++ ':' :: stringify v ++ ',' :: stringifyMembers (m :: ms)
end

def isWs (c : Char) : Bool := c = ' ' || c = '\t' || c = '\n' || c = '\r'

def skipWs (s : List Char) : List Char := s.dropWhile isWs

def hexValue (c : Char) : Option ℕ :=
  if '0' ≤ c ∧ c ≤ '9' then some (c.toNat - 48)
  else if 'a' ≤ c ∧ c ≤ 'f' then some (c.toNat - 87)
  else if 'A' ≤ c ∧ c ≤ 'F' then some (c.toNat - 55)
  else none

def readHex (a b c d : Char) : Option UInt16 := do
  let a ← hexValue a
  let b ← hexValue b
  let c ← hexValue c
  let d ← hexValue d
  some (UInt16.ofNat (((a * 16 + b) * 16 + c) * 16 + d))

def simpleEscape (c : Char) : Option UInt16 :=
  if c = '"' then some 34 else if c = '\\' then some 92 else if c = '/' then some 47
  else if c = 'b' then some 8 else if c = 'f' then some 12 else if c = 'n' then some 10
  else if c = 'r' then some 13 else if c = 't' then some 9 else none

/-- Units up to the closing quote, and the text after it. -/
def parseUnits : List Char → Option (List UInt16 × List Char)
  | [] => none
  | '"' :: r => some ([],r)
  | '\\' :: 'u' :: a :: b :: c :: d :: r => do
    let u ← readHex a b c d
    let (us,r) ← parseUnits r
    some (u :: us,r)
  | '\\' :: c :: r => do
    let u ← simpleEscape c
    let (us,r) ← parseUnits r
    some (u :: us,r)
  | c :: r =>
    if c = '\\' || c.toNat < 32 then none
    else do
      let (us,r) ← parseUnits r
      some (JsString.encodeChar c ++ us,r)

/-- An integer without a superfluous leading zero, not followed by a fraction or an exponent. -/
def parseDigits (s : List Char) : Option (ℕ × List Char) :=
  let digits := s.takeWhile Char.isDigit
  let r := s.dropWhile Char.isDigit
  let n := Nat.ofDigitChars 10 digits 0
  if Nat.toDigits 10 n = digits ∧ r.head? ≠ some '.' ∧ r.head? ≠ some 'e' ∧ r.head? ≠ some 'E'
  then some (n,r) else none

def parseNumber : List Char → Option (Json × List Char)
  | '-' :: s => (parseDigits s).map (fun p => (.num (-(p.1 : ℤ)),p.2))
  | s => (parseDigits s).map (fun p => (.num p.1,p.2))

def expect (word : String) (v : Json) (s : List Char) : Option (Json × List Char) :=
  if word.toList <+: s then some (v,s.drop word.toList.length) else none

mutual
/-- One value at the front of the text. The fuel bounds the nesting. -/
def parseValue : ℕ → List Char → Option (Json × List Char)
  | 0, _ => none
  | n + 1, s => match skipWs s with
    | [] => none
    | c :: r =>
      if c = '{' then
        if (skipWs r).head? = some '}' then some (.obj [],(skipWs r).tail)
        else (parseMembers n r).map (fun p => (.obj p.1,p.2))
      else if c = '[' then
        if (skipWs r).head? = some ']' then some (.arr [],(skipWs r).tail)
        else (parseElements n r).map (fun p => (.arr p.1,p.2))
      else if c = '"' then (parseUnits r).map (fun p => (.str ⟨p.1⟩,p.2))
      else if c = 't' then expect "rue" (.bool true) r
      else if c = 'f' then expect "alse" (.bool false) r
      else if c = 'n' then expect "ull" .null r
      else parseNumber (c :: r)

def parseElements : ℕ → List Char → Option (List Json × List Char)
  | 0, _ => none
  | n + 1, s => match parseValue n s with
    | none => none
    | some (v,r) => match skipWs r with
      | [] => none
      | c :: r =>
        if c = ']' then some ([v],r)
        else if c = ',' then (parseElements n r).map (fun p => (v :: p.1,p.2))
        else none

def parseMembers : ℕ → List Char → Option (List (JsString × Json) × List Char)
  | 0, _ => none
  | n + 1, s => match skipWs s with
    | [] => none
    | c :: r =>
      if c = '"' then match parseUnits r with
        | none => none
        | some (k,r) => match skipWs r with
          | [] => none
          | c :: r =>
            if c = ':' then match parseValue n r with
              | none => none
              | some (v,r) => match skipWs r with
                | [] => none
                | c :: r =>
                  if c = '}' then some ([(⟨k⟩,v)],r)
                  else if c = ',' then (parseMembers n r).map (fun p => ((⟨k⟩,v) :: p.1,p.2))
                  else none
            else none
      else none
end

/-- The value of a text that holds one JSON value and otherwise only white space. -/
def parse (s : List Char) : Option Json :=
  match parseValue (s.length + 1) s with
  | some (v,r) => if skipWs r = [] then some v else none
  | none => none

example : parse (stringify (.obj [("a",.arr [.num (-12),.str "x\n\""]),("b",.null)])) =
    some (.obj [("a",.arr [.num (-12),.str "x\n\""]),("b",.null)]) := by decide

end Json

end Malink
