import Malink.JsonCutTexts
import Malink.OutboxDelivery

/-!
# The text of the outbox log

Records are lines. A process that dies inside an append leaves a byte prefix of the appended text,
and the next start reads that prefix back through a UTF-8 decoder.
-/

namespace Malink.Outbox

/-- `split(/\r?\n/u)`. -/
def splitLines : List Char → List (List Char)
  | [] => [[]]
  | '\n' :: s => [] :: splitLines s
  | '\r' :: '\n' :: s => [] :: splitLines s
  | c :: s => match splitLines s with
    | [] => [[c]]
    | l :: ls => (c :: l) :: ls

/-- White space and line terminators as `trim` removes them. -/
def isTrimmed (c : Char) : Bool :=
  [0x9,0xA,0xB,0xC,0xD,0x20,0xA0,0x1680,0x2000,0x2001,0x2002,0x2003,0x2004,0x2005,
    0x2006,0x2007,0x2008,0x2009,0x200A,0x2028,0x2029,0x202F,0x205F,0x3000,0xFEFF].contains c.toNat

def isBlank (line : List Char) : Bool := line.all isTrimmed

def byteLength (s : List Char) : ℕ := (s.map Char.utf8Size).sum

def encodeLine (e : OutboxEntry) : List Char := Json.stringify e.toJson

/-- `entries.map(JSON.stringify).join('\n')` with a final line break, or nothing. -/
def encodeEntries (es : List OutboxEntry) : List Char := es.flatMap (fun e => encodeLine e ++ ['\n'])

def readLine (line : List Char) : Option OutboxEntry := Json.parse line >>= parseEntry

/-- The first `n` bytes of a text, decoded: a character that was cut reads as one replacement
character. -/
def readPrefix : ℕ → List Char → List Char
  | 0, _ => []
  | _ + 1, [] => []
  | n + 1, c :: s => if c.utf8Size ≤ n + 1 then c :: readPrefix (n + 1 - c.utf8Size) s else ['\uFFFD']

theorem le_toNat_encodeLine {e : OutboxEntry} {c : Char} (hc : c ∈ encodeLine e) : 32 ≤ c.toNat :=
  Json.le_toNat_stringify e.toJson hc

theorem encodeLine_head (e : OutboxEntry) : ∃ s, encodeLine e = '{' :: s := by
  rw [encodeLine,OutboxEntry.toJson,Json.stringify]
  exact ⟨_,rfl⟩

theorem readLine_encodeLine (e : OutboxEntry) :
    readLine (encodeLine e) = if e.readable then some e else none := by
  rw [readLine,encodeLine,Json.parse_stringify]
  exact parseEntry_toJson e

private theorem splitLines_plain {c : Char} (hc : 32 ≤ c.toNat) (s : List Char) :
    splitLines (c :: s) = match splitLines s with
      | [] => [[c]]
      | l :: ls => (c :: l) :: ls := by
  rw [splitLines.eq_def]
  split
  · next h => exact absurd h (by simp)
  · next h =>
    obtain ⟨rfl,-⟩ := List.cons.inj h
    exact absurd hc (by decide)
  · next h =>
    obtain ⟨rfl,-⟩ := List.cons.inj h
    exact absurd hc (by decide)
  · next h =>
    obtain ⟨rfl,rfl⟩ := List.cons.inj h
    rfl

theorem splitLines_append {l : List Char} (hl : ∀ c ∈ l,32 ≤ c.toNat) (s : List Char) :
    splitLines (l ++ '\n' :: s) = l :: splitLines s := by
  induction l with
  | nil => simp [splitLines]
  | cons c l ih =>
    rw [List.cons_append,splitLines_plain (hl c (by simp)),ih (fun d hd => hl d (by simp [hd]))]

theorem splitLines_encodeEntries (es : List OutboxEntry) (s : List Char) :
    splitLines (encodeEntries es ++ s) = es.map encodeLine ++ splitLines s := by
  induction es with
  | nil => rfl
  | cons e es ih =>
    have h : encodeEntries (e :: es) ++ s = encodeLine e ++ '\n' :: (encodeEntries es ++ s) := by
      simp [encodeEntries]
    rw [h,splitLines_append (fun c hc => le_toNat_encodeLine hc),ih]
    rfl

variable {s : List Char} {n : ℕ}

theorem readPrefix_append_of_le {t : List Char} (h : byteLength s ≤ n) :
    readPrefix n (s ++ t) = s ++ readPrefix (n - byteLength s) t := by
  induction s generalizing n with
  | nil => simp [byteLength]
  | cons c s ih =>
    have hpos := c.utf8Size_pos
    simp only [byteLength,List.map_cons,List.sum_cons] at h
    obtain ⟨n,rfl⟩ : ∃ k,n = k + 1 := ⟨n - 1,by omega⟩
    rw [List.cons_append,readPrefix,if_pos (by omega),ih (by simp only [byteLength]; omega)]
    simp only [byteLength,List.map_cons,List.sum_cons,List.cons_append,Nat.sub_sub]

theorem readPrefix_append_of_lt {t : List Char} (h : n < byteLength s) : readPrefix n (s ++ t) = readPrefix n s := by
  induction s generalizing n with
  | nil => simp [byteLength] at h
  | cons c s ih =>
    cases n with
    | zero => simp [readPrefix]
    | succ n =>
      simp only [byteLength,List.map_cons,List.sum_cons] at h
      simp only [List.cons_append,readPrefix]
      split
      · rw [ih (by simp only [byteLength]; omega)]
      · rfl

/-- A proper byte prefix is a proper prefix of the text, or one followed by a replacement
character. -/
theorem readPrefix_cut (h : n < byteLength s) :
    ∃ p t, s = p ++ t ∧ t ≠ [] ∧ (readPrefix n s = p ∨ readPrefix n s = p ++ ['\uFFFD']) := by
  induction s generalizing n with
  | nil => simp [byteLength] at h
  | cons c s ih =>
    cases n with
    | zero => exact ⟨[],c :: s,rfl,by simp,.inl (by simp [readPrefix])⟩
    | succ n =>
      simp only [readPrefix]
      split
      · next hc =>
        simp only [byteLength,List.map_cons,List.sum_cons] at h
        obtain ⟨p,t,rfl,ht,hp⟩ := ih (n := n + 1 - c.utf8Size) (by simp only [byteLength]; omega)
        refine ⟨c :: p,t,rfl,ht,?_⟩
        rcases hp with hp | hp
        · exact .inl (by rw [hp])
        · exact .inr (by rw [hp]; rfl)
      · exact ⟨[],c :: s,rfl,by simp,.inr rfl⟩

/-- The complete records among the first `n` appended bytes, and the bytes of the next record. -/
def cutAt : ℕ → List OutboxEntry → ℕ × ℕ
  | _, [] => (0,0)
  | n, e :: es =>
    if byteLength (encodeLine e) < n then
      ((cutAt (n - byteLength (encodeLine e) - 1) es).1 + 1,(cutAt (n - byteLength (encodeLine e) - 1) es).2)
    else (0,n)

/-- The number of records that a reader finds whole: a record whose line break alone is missing
counts. -/
def recordsOnDisk (n : ℕ) (es : List OutboxEntry) : ℕ :=
  match es[(cutAt n es).1]? with
  | none => (cutAt n es).1
  | some e => if (cutAt n es).2 = byteLength (encodeLine e) then (cutAt n es).1 + 1 else (cutAt n es).1

end Malink.Outbox
