import Malink.KotlinJson
import Mathlib.Algebra.GroupWithZero.Nat

/-!
# The text of a JSON element

`print` is the compact text, as its UTF-8 bytes carry it, and `parse` reads an element back.
-/

namespace Malink

open List
open Json (isHigh isLow escapeUnits skipWs isWs skipWs_of_not_ws)

/-- Every surrogate without its partner becomes a question mark. -/
def scrubUnits : List UInt16 → List UInt16
  | [] => []
  | [u] => if isHigh u || isLow u then [63] else [u]
  | u :: l :: us =>
    if isHigh u && isLow l then u :: l :: scrubUnits us
    else (if isHigh u || isLow u then 63 else u) :: scrubUnits (l :: us)

def JsString.wellFormed (s : JsString) : Bool := scrubUnits s.units = s.units

/-- The number of bytes of a text. -/
def utf8Length (text : List Char) : ℕ := (text.map Char.utf8Size).sum

@[simp] theorem utf8Length_nil : utf8Length [] = 0 := rfl

@[simp] theorem utf8Length_cons (c : Char) (text : List Char) :
    utf8Length (c :: text) = c.utf8Size + utf8Length text := by
  simp [utf8Length]

@[simp] theorem utf8Length_append (text rest : List Char) :
    utf8Length (text ++ rest) = utf8Length text + utf8Length rest := by
  simp [utf8Length]

variable {entries : List (JsString × JsonElement)} {e : JsonElement}

namespace JsonElement

def quoted (s : JsString) : List Char := '"' :: escapeUnits (scrubUnits s.units) ++ ['"']

mutual
/-- `toString`, encoded. -/
def print : JsonElement → List Char
  | .null => "null".toList
  | .token content => content
  | .string content => quoted content
  | .array items => '[' :: printItems items ++ [']']
  | .object entries => '{' :: printEntries entries ++ ['}']

def printItems : List JsonElement → List Char
  | [] => []
  | [item] => print item
  | item :: next :: items => print item ++ ',' :: printItems (next :: items)

def printEntries : List (JsString × JsonElement) → List Char
  | [] => []
  | [(key,value)] => quoted key ++ ':' :: print value
  | (key,value) :: next :: entries => quoted key ++ ':' :: print value ++ ',' :: printEntries (next :: entries)
end

mutual
/-- A text in which every surrogate without its partner is escaped, so that the bytes carry it. -/
def text : JsonElement → List Char
  | .null => "null".toList
  | .token content => content
  | .string content => '"' :: escapeUnits content.units ++ ['"']
  | .array items => '[' :: textItems items ++ [']']
  | .object entries => '{' :: textEntries entries ++ ['}']

def textItems : List JsonElement → List Char
  | [] => []
  | [item] => text item
  | item :: next :: items => text item ++ ',' :: textItems (next :: items)

def textEntries : List (JsString × JsonElement) → List Char
  | [] => []
  | [(key,value)] => '"' :: escapeUnits key.units ++ ['"'] ++ ':' :: text value
  | (key,value) :: next :: entries =>
    '"' :: escapeUnits key.units ++ ['"'] ++ ':' :: text value ++ ',' :: textEntries (next :: entries)
end

/-- `toString().toByteArray(UTF_8).size`. -/
def size (e : JsonElement) : ℕ := utf8Length (print e)

/-- The last value of a repeated key stands at the place of the first. -/
def put (entries : List (JsString × JsonElement)) (entry : JsString × JsonElement) : List (JsString × JsonElement) :=
  if entries.any (fun e => e.1 = entry.1) then entries.map fun e => if e.1 = entry.1 then entry else e
  else entries ++ [entry]

def collect (entries : List (JsString × JsonElement)) : List (JsString × JsonElement) := entries.foldl put []

def isTokenChar (c : Char) : Bool :=
  32 < c.toNat && c ≠ ',' && c ≠ ':' && c ≠ '{' && c ≠ '}' && c ≠ '[' && c ≠ ']' && c ≠ '"' && c ≠ '\\'

def readToken (s : List Char) : Option (JsonElement × List Char) :=
  match s.takeWhile isTokenChar with
  | [] => none
  | c :: cs => some (if c :: cs = "null".toList then .null else .token (c :: cs),s.dropWhile isTokenChar)

mutual
/-- One element at the front of the text. The fuel bounds the nesting. -/
def readValue : ℕ → List Char → Option (JsonElement × List Char)
  | 0, _ => none
  | n + 1, s => match skipWs s with
    | [] => none
    | c :: r =>
      if c = '{' then
        if (skipWs r).head? = some '}' then some (.object [],(skipWs r).tail)
        else (readEntries n r).map fun p => (.object (collect p.1),p.2)
      else if c = '[' then
        if (skipWs r).head? = some ']' then some (.array [],(skipWs r).tail)
        else (readItems n r).map fun p => (.array p.1,p.2)
      else if c = '"' then (Json.parseUnits r).map fun p => (.string ⟨p.1⟩,p.2)
      else readToken (c :: r)

def readItems : ℕ → List Char → Option (List JsonElement × List Char)
  | 0, _ => none
  | n + 1, s => match readValue n s with
    | none => none
    | some (v,r) => match skipWs r with
      | [] => none
      | c :: r =>
        if c = ']' then some ([v],r)
        else if c = ',' then (readItems n r).map fun p => (v :: p.1,p.2)
        else none

def readEntries : ℕ → List Char → Option (List (JsString × JsonElement) × List Char)
  | 0, _ => none
  | n + 1, s => match skipWs s with
    | [] => none
    | c :: r =>
      if c = '"' then match Json.parseUnits r with
        | none => none
        | some (k,r) => match skipWs r with
          | [] => none
          | c :: r =>
            if c = ':' then match readValue n r with
              | none => none
              | some (v,r) => match skipWs r with
                | [] => none
                | c :: r =>
                  if c = '}' then some ([(⟨k⟩,v)],r)
                  else if c = ',' then (readEntries n r).map fun p => ((⟨k⟩,v) :: p.1,p.2)
                  else none
            else none
      else none
end

/-- `parseToJsonElement`. -/
def parse (s : List Char) : Option JsonElement :=
  match readValue (s.length + 1) s with
  | some (v,r) => if skipWs r = [] then some v else none
  | none => none

mutual
def portable : JsonElement → Bool
  | .null => true
  | .token content => content ≠ [] && content.all isTokenChar && content ≠ "null".toList
  | .string content => content.wellFormed
  | .array items => portableItems items
  | .object entries => decide (entries.map Prod.fst).Nodup && portableEntries entries

def portableItems : List JsonElement → Bool
  | [] => true
  | item :: items => portable item && portableItems items

def portableEntries : List (JsString × JsonElement) → Bool
  | [] => true
  | (key,value) :: entries => key.wellFormed && portable value && portableEntries entries
end

mutual
/-- The reader returns the element from its text: no object repeats a key, and tokens look like tokens. -/
def readable : JsonElement → Bool
  | .null => true
  | .token content => content ≠ [] && content.all isTokenChar && content ≠ "null".toList
  | .string _ => true
  | .array items => readableItems items
  | .object entries => decide (entries.map Prod.fst).Nodup && readableEntries entries

def readableItems : List JsonElement → Bool
  | [] => true
  | item :: items => readable item && readableItems items

def readableEntries : List (JsString × JsonElement) → Bool
  | [] => true
  | (_,value) :: entries => readable value && readableEntries entries
end

variable {items : List JsonElement}

theorem readableItems_iff : readableItems items ↔ ∀ item ∈ items, readable item := by
  induction items with
  | nil => simp [readableItems]
  | cons item items ih => simp [readableItems,ih]

theorem readableEntries_iff : readableEntries entries ↔ ∀ entry ∈ entries, readable entry.2 := by
  induction entries with
  | nil => simp [readableEntries]
  | cons entry entries ih => simp [readableEntries,ih]

theorem readable_object : readable (.object entries) ↔
    (entries.map Prod.fst).Nodup ∧ ∀ entry ∈ entries, readable entry.2 := by
  rw [readable,Bool.and_eq_true,decide_eq_true_eq,readableEntries_iff]

theorem readable_array : readable (.array items) ↔ ∀ item ∈ items, readable item := by
  rw [readable,readableItems_iff]

theorem portableItems_iff : portableItems items ↔ ∀ item ∈ items, portable item := by
  induction items with
  | nil => simp [portableItems]
  | cons item items ih => simp [portableItems,ih]

theorem portableEntries_iff : portableEntries entries ↔
      ∀ entry ∈ entries, entry.1.wellFormed ∧ portable entry.2 := by
  induction entries with
  | nil => simp [portableEntries]
  | cons entry entries ih => simp [portableEntries,ih]

theorem portable_object : portable (.object entries) ↔
    (entries.map Prod.fst).Nodup ∧ ∀ entry ∈ entries, entry.1.wellFormed ∧ portable entry.2 := by
  rw [portable,Bool.and_eq_true,decide_eq_true_eq,portableEntries_iff]

theorem portable_array : portable (.array items) ↔ ∀ item ∈ items, portable item := by
  rw [portable,portableItems_iff]

theorem put_of_not_mem {entry : JsString × JsonElement}
    (h : entry.1 ∉ entries.map Prod.fst) : put entries entry = entries ++ [entry] := by
  have hany : ¬ entries.any (fun e => e.1 = entry.1) := by
    intro hany
    obtain ⟨e,he,hkey⟩ := any_eq_true.mp hany
    exact h (of_decide_eq_true hkey ▸ mem_map_of_mem he)
  rw [put,if_neg hany]

theorem foldl_put (entries before : List (JsString × JsonElement))
    (h : ((before ++ entries).map Prod.fst).Nodup) : entries.foldl put before = before ++ entries := by
  induction entries generalizing before with
  | nil => simp
  | cons entry entries ih =>
    have hnot : entry.1 ∉ before.map Prod.fst := by
      intro hmem
      rw [map_append,map_cons,List.nodup_append] at h
      exact h.2.2 _ hmem _ mem_cons_self rfl
    rw [List.foldl_cons,put_of_not_mem hnot,ih (before ++ [entry]) (by simpa using h)]
    simp

/-- Reading keeps the entries of a text without repeated keys. -/
theorem collect_of_nodup (h : (entries.map Prod.fst).Nodup) :
    collect entries = entries := foldl_put entries [] h

def TokenEnd (r : List Char) : Prop := ∀ c, r.head? = some c → isTokenChar c = false

theorem tokenEnd_nil : TokenEnd [] := by
  intro c h
  simp at h

theorem tokenEnd_cons {c : Char} (h : isTokenChar c = false) (r : List Char) : TokenEnd (c :: r) := by
  intro d hd
  rw [List.head?_cons,Option.some.injEq] at hd
  exact hd ▸ h

theorem takeWhile_token {token r : List Char} (h : ∀ c ∈ token,isTokenChar c) (hr : TokenEnd r) :
    (token ++ r).takeWhile isTokenChar = token ∧ (token ++ r).dropWhile isTokenChar = r := by
  rw [List.takeWhile_append_of_pos h,List.dropWhile_append_of_pos h]
  cases r with
  | nil => simp
  | cons c r => simp [hr c rfl]

theorem readToken_append {c : Char} {cs r : List Char} (h : ∀ d ∈ c :: cs,isTokenChar d)
    (hr : TokenEnd r) : readToken (c :: cs ++ r) =
      some (if c :: cs = "null".toList then .null else .token (c :: cs),r) := by
  obtain ⟨htake,hdrop⟩ := takeWhile_token h hr
  rw [readToken,htake,hdrop]

/-- A token starts a value, and nothing else that a text may hold at that place. -/
theorem readValue_token {c : Char} (h : isTokenChar c) (n : ℕ) (s : List Char) :
    readValue (n + 1) (c :: s) = readToken (c :: s) := by
  have hnot : ∀ d : Char,isTokenChar d = false → c ≠ d := by
    rintro d hd rfl
    rw [h] at hd
    cases hd
  have hws : isWs c = false := by
    rw [isWs]
    simp [hnot ' ' (by decide),hnot '\t' (by decide),hnot '\n' (by decide),hnot '\r' (by decide)]
  rw [readValue,skipWs_of_not_ws hws]
  simp only [hnot '{' (by decide),hnot '[' (by decide),hnot '"' (by decide),if_false]

/-- The text of an element starts with neither white space nor a closing bracket. -/
theorem text_head (h : e.readable) : ∃ c s, text e = c :: s ∧ isWs c = false ∧ c ≠ ']' := by
  cases e with
  | null => exact ⟨'n',_,by rw [text]; rfl,by decide,by decide⟩
  | token content =>
    rw [readable,Bool.and_eq_true,Bool.and_eq_true,decide_eq_true_eq,all_eq_true] at h
    obtain ⟨⟨hne,hall⟩,-⟩ := h
    obtain ⟨c,cs,rfl⟩ := exists_cons_of_ne_nil hne
    have hc := hall c mem_cons_self
    refine ⟨c,cs,by rw [text],?_,?_⟩
    · rw [isWs]
      by_contra hws
      simp only [Bool.not_eq_false,Bool.or_eq_true,decide_eq_true_eq] at hws
      rcases hws with ((rfl | rfl) | rfl) | rfl <;> exact absurd hc (by decide)
    · rintro rfl
      exact absurd hc (by decide)
  | string content => exact ⟨'"',_,by rw [text]; rfl,by decide,by decide⟩
  | array items => exact ⟨'[',_,by rw [text]; rfl,by decide,by decide⟩
  | object entries => exact ⟨'{',_,by rw [text]; rfl,by decide,by decide⟩

theorem textItems_head {item : JsonElement} (h : item.readable) (items : List JsonElement)
    (r : List Char) : ∃ c s, textItems (item :: items) ++ r = c :: s ∧ isWs c = false ∧ c ≠ ']' := by
  obtain ⟨c,s,htext,hc⟩ := text_head h
  cases items with
  | nil => exact ⟨c,s ++ r,by rw [textItems,htext,cons_append],hc⟩
  | cons next items => exact ⟨c,_,by rw [textItems,htext,cons_append,cons_append],hc⟩

theorem textEntries_head (entry : JsString × JsonElement) (entries : List (JsString × JsonElement))
    (r : List Char) : ∃ s, textEntries (entry :: entries) ++ r = '"' :: s := by
  obtain ⟨key,value⟩ := entry
  cases entries with
  | nil | cons => exact ⟨_,by rw [textEntries]; rfl⟩

theorem isTokenChar_null : ∀ d ∈ "null".toList, isTokenChar d := by
  simp [isTokenChar]

mutual
theorem readValue_text (e : JsonElement) (n : ℕ) (r : List Char) (he : e.readable)
    (hn : (text e).length < n) (hr : TokenEnd r) : readValue n (text e ++ r) = some (e,r) := by
  obtain ⟨n,rfl⟩ : ∃ k,n = k + 1 := ⟨n - 1,by omega⟩
  cases e with
  | null =>
    rw [text]
    have hread : readToken ('n' :: ['u','l','l'] ++ r) = some (.null,r) := readToken_append isTokenChar_null hr
    exact (readValue_token (by decide) n _).trans hread
  | token content =>
    rw [readable,Bool.and_eq_true,Bool.and_eq_true,decide_eq_true_eq,all_eq_true,decide_eq_true_eq] at he
    obtain ⟨⟨hne,hall⟩,hnull⟩ := he
    obtain ⟨c,cs,rfl⟩ := exists_cons_of_ne_nil hne
    rw [text,cons_append,readValue_token (hall c mem_cons_self),← cons_append,readToken_append hall hr,if_neg hnull]
  | string content =>
    simp only [text,cons_append,append_assoc,nil_append,readValue,
      skipWs_of_not_ws (show isWs '"' = false by decide),Json.parseUnits_escapeUnits]
    simp
  | array items =>
    rw [readable_array] at he
    rw [text,cons_append,cons_append,append_assoc,singleton_append,readValue,
      skipWs_of_not_ws (by decide)]
    simp only [show ¬ ('[' : Char) = '{' by decide,if_false,if_true]
    cases items with
    | nil => simp [textItems,skipWs,isWs]
    | cons item items =>
      obtain ⟨c,s,h,hws,hc⟩ := textItems_head (he item mem_cons_self) items (']' :: r)
      have hlen : (textItems (item :: items)).length + 1 < n := by
        rw [text] at hn
        simp only [length_append,length_cons,length_nil] at hn
        omega
      have hhead : (skipWs (textItems (item :: items) ++ ']' :: r)).head? ≠ some ']' := by
        rw [h,skipWs_of_not_ws hws]
        simpa using hc
      rw [if_neg hhead,readItems_text item items n r he hlen]
      rfl
  | object entries =>
    rw [readable_object] at he
    rw [text,cons_append,cons_append,append_assoc,singleton_append,readValue,
      skipWs_of_not_ws (by decide)]
    simp only [if_true]
    cases entries with
    | nil => simp [textEntries,skipWs,isWs]
    | cons entry entries =>
      obtain ⟨s,h⟩ := textEntries_head entry entries ('}' :: r)
      have hlen : (textEntries (entry :: entries)).length + 1 < n := by
        rw [text] at hn
        simp only [length_append,length_cons,length_nil] at hn
        omega
      have hhead : (skipWs (textEntries (entry :: entries) ++ '}' :: r)).head? ≠ some '}' := by
        rw [h,skipWs_of_not_ws (by decide)]
        simp
      rw [if_neg hhead,readEntries_text entry entries n r he.2 hlen,Option.map_some,collect_of_nodup he.1]
termination_by n

theorem readItems_text (item : JsonElement) (items : List JsonElement) (n : ℕ) (r : List Char)
    (h : ∀ e ∈ item :: items,readable e) (hn : (textItems (item :: items)).length + 1 < n) :
    readItems n (textItems (item :: items) ++ ']' :: r) = some (item :: items,r) := by
  obtain ⟨n,rfl⟩ : ∃ k,n = k + 1 := ⟨n - 1,by omega⟩
  have hitem := h item mem_cons_self
  cases items with
  | nil =>
    rw [textItems] at hn ⊢
    rw [readItems,readValue_text item n (']' :: r) hitem (by omega) (tokenEnd_cons (by decide) r)]
    simp [skipWs,isWs]
  | cons next items =>
    rw [textItems] at hn ⊢
    simp only [length_append,length_cons] at hn
    rw [append_assoc,cons_append,readItems,
      readValue_text item n _ hitem (by omega) (tokenEnd_cons (by decide) _)]
    simp only [skipWs_of_not_ws (show isWs ',' = false by decide),
      show ¬ (',' : Char) = ']' by decide,if_false,if_true]
    rw [readItems_text next items n r (fun e he => h e (mem_cons_of_mem item he)) (by omega)]
    rfl
termination_by n

theorem readEntries_text (entry : JsString × JsonElement) (entries : List (JsString × JsonElement)) (n : ℕ)
    (r : List Char) (h : ∀ e ∈ entry :: entries,readable e.2) (hn : (textEntries (entry :: entries)).length + 1 < n) :
    readEntries n (textEntries (entry :: entries) ++ '}' :: r) = some (entry :: entries,r) := by
  obtain ⟨n,rfl⟩ : ∃ k,n = k + 1 := ⟨n - 1,by omega⟩
  have hvalue := h entry mem_cons_self
  obtain ⟨key,value⟩ := entry
  cases entries with
  | nil =>
    rw [textEntries] at hn ⊢
    simp only [length_append,length_cons,length_nil] at hn
    simp only [cons_append,append_assoc,List.nil_append,readEntries,
      skipWs_of_not_ws (show isWs '"' = false by decide),if_true,Json.parseUnits_escapeUnits,
      skipWs_of_not_ws (show isWs ':' = false by decide)]
    rw [readValue_text value n ('}' :: r) hvalue (by omega) (tokenEnd_cons (by decide) r)]
    simp [skipWs,isWs]
  | cons next entries =>
    rw [textEntries] at hn ⊢
    simp only [length_append,length_cons,length_nil] at hn
    simp only [cons_append,append_assoc,nil_append,readEntries,
      skipWs_of_not_ws (show isWs '"' = false by decide),if_true,Json.parseUnits_escapeUnits,
      skipWs_of_not_ws (show isWs ':' = false by decide)]
    rw [readValue_text value n _ hvalue (by omega) (tokenEnd_cons (by decide) _)]
    simp only [skipWs_of_not_ws (show isWs ',' = false by decide),
      show ¬ (',' : Char) = '}' by decide,if_false,if_true]
    rw [readEntries_text next entries n r (fun e he => h e (mem_cons_of_mem _ he)) (by omega)]
    rfl
termination_by n
end

theorem parse_text (h : e.readable) : parse (text e) = some e := by
  have hread := readValue_text e ((text e).length + 1) [] h (by omega) tokenEnd_nil
  rw [List.append_nil] at hread
  simp [parse,hread,skipWs]

theorem quoted_of_wellFormed {s : JsString} (h : s.wellFormed) :
    quoted s = '"' :: escapeUnits s.units ++ ['"'] := by
  rw [quoted,of_decide_eq_true h]

mutual
/-- No surrogate of a portable element is lost. -/
theorem print_of_portable : (e : JsonElement) → e.portable → print e = text e ∧ e.readable
  | .null, _ => by simp [print,text,readable]
  | .token content, h => ⟨by rw [print,text],by rwa [portable] at h⟩
  | .string content, h => by
    rw [portable] at h
    exact ⟨by rw [print,text,quoted_of_wellFormed h],by rw [readable]⟩
  | .array items, h => by
    obtain ⟨hprint,hreadable⟩ := printItems_of_portable items (portable_array.mp h)
    exact ⟨by rw [print,text,hprint],readable_array.mpr hreadable⟩
  | .object entries, h => by
    rw [portable_object] at h
    obtain ⟨hprint,hreadable⟩ := printEntries_of_portable entries h.2
    exact ⟨by rw [print,text,hprint],readable_object.mpr ⟨h.1,hreadable⟩⟩

theorem printItems_of_portable : (items : List JsonElement) → (∀ item ∈ items,portable item) →
    printItems items = textItems items ∧ ∀ item ∈ items, readable item
  | [], _ => ⟨by rw [printItems,textItems],by simp⟩
  | [item], h => by
    obtain ⟨hprint,hreadable⟩ := print_of_portable item (h item mem_cons_self)
    exact ⟨by rw [printItems,textItems,hprint],by simpa using hreadable⟩
  | item :: next :: items, h => by
    obtain ⟨hprint,hreadable⟩ := print_of_portable item (h item mem_cons_self)
    obtain ⟨hprints,hreadables⟩ := printItems_of_portable (next :: items) fun e he => h e (mem_cons_of_mem item he)
    exact ⟨by rw [printItems,textItems,hprint,hprints],forall_mem_cons.mpr ⟨hreadable,hreadables⟩⟩

theorem printEntries_of_portable : (entries : List (JsString × JsonElement)) →
    (∀ entry ∈ entries,entry.1.wellFormed ∧ portable entry.2) →
    printEntries entries = textEntries entries ∧ ∀ entry ∈ entries, readable entry.2
  | [], _ => ⟨by rw [printEntries,textEntries],by simp⟩
  | [(key,value)], h => by
    obtain ⟨hkey,hvalue⟩ := h (key,value) mem_cons_self
    obtain ⟨hprint,hreadable⟩ := print_of_portable value hvalue
    exact ⟨by rw [printEntries,textEntries,hprint,quoted_of_wellFormed hkey],by simpa using hreadable⟩
  | (key,value) :: next :: entries, h => by
    obtain ⟨hkey,hvalue⟩ := h (key,value) mem_cons_self
    obtain ⟨hprint,hreadable⟩ := print_of_portable value hvalue
    obtain ⟨hprints,hreadables⟩ := printEntries_of_portable (next :: entries) fun e he => h e (mem_cons_of_mem _ he)
    exact ⟨by rw [printEntries,textEntries,hprint,hprints,quoted_of_wellFormed hkey],
      forall_mem_cons.mpr ⟨hreadable,hreadables⟩⟩
end

theorem parse_print (h : e.portable) : parse (print e) = some e := by
  obtain ⟨hprint,hreadable⟩ := print_of_portable e h
  rw [hprint,parse_text hreadable]

/-- The bytes of the items and of the commas between them. -/
theorem utf8Length_printItems : (items : List JsonElement) →
    utf8Length (printItems items) = (items.map size).sum + (items.length - 1)
  | [] => rfl
  | [item] => by simp [printItems,size]
  | item :: next :: items => by
    rw [printItems,utf8Length_append,utf8Length_cons,utf8Length_printItems (next :: items)]
    simp only [show (',' : Char).utf8Size = 1 from rfl,map_cons,sum_cons,length_cons,size]
    omega

/-- The bytes of one member, with its colon. -/
def entrySize (entry : JsString × JsonElement) : ℕ := utf8Length (quoted entry.1) + 1 + size entry.2

theorem utf8Length_printEntries : (entries : List (JsString × JsonElement)) →
    utf8Length (printEntries entries) = (entries.map entrySize).sum + (entries.length - 1)
  | [] => rfl
  | [(key,value)] => by
    simp [printEntries,entrySize,size,show (':' : Char).utf8Size = 1 from rfl]
    omega
  | (key,value) :: next :: entries => by
    rw [printEntries,utf8Length_append,utf8Length_cons,utf8Length_append,utf8Length_cons,
      utf8Length_printEntries (next :: entries)]
    simp only [show (',' : Char).utf8Size = 1 from rfl,show (':' : Char).utf8Size = 1 from rfl,map_cons,
      sum_cons,length_cons,entrySize,size]
    omega

theorem size_array (items : List JsonElement) :
    size (.array items) = 2 + (items.map size).sum + (items.length - 1) := by
  rw [size,print,utf8Length_append,utf8Length_cons,utf8Length_printItems]
  simp only [utf8Length_cons,utf8Length_nil,show ('[' : Char).utf8Size = 1 from rfl,
    show (']' : Char).utf8Size = 1 from rfl]
  omega

theorem size_object (entries : List (JsString × JsonElement)) :
    size (.object entries) = 2 + (entries.map entrySize).sum + (entries.length - 1) := by
  rw [size,print,utf8Length_append,utf8Length_cons,utf8Length_printEntries]
  simp only [utf8Length_cons,utf8Length_nil,show ('{' : Char).utf8Size = 1 from rfl,
    show ('}' : Char).utf8Size = 1 from rfl]
  omega

end JsonElement

end Malink
