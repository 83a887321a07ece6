import Malink.AtomicJsonFile
import Malink.CheckedResults

/-!
# What interrupted writes leave

A state that a later read may give is in the file or, while that is missing, in `.next` or `.previous`.
-/

namespace Malink.Security

open Json (parse)

/-- A write that finds the state in `.next` alone is cut right after it has removed that. -/
def Forgets (files : Files) (point : CrashPoint) : Prop :=
  files.primary = none ∧ files.next.isSome ∧ files.previous = none ∧ point.steps = 1

/-- A state that a read may give, now or after writes that are cut. -/
inductive Surfaces (createDefault : Json) (files : Files) (value : Json) : Prop
  | primary (text : List Char) (hfile : files.primary = some text) (hvalue : parse text = some value)
  | next (text : List Char) (hfile : files.primary = none) (hnext : files.next = some text)
    (hvalue : parse text = some value)
  | previous (text : List Char) (hfile : files.primary = none) (hprevious : files.previous = some text)
    (hvalue : parse text = some value)
  | nothing (hfile : files.primary = none) (hnext : files.next = none) (hprevious : files.previous = none)
    (hvalue : value = createDefault)

variable {createDefault value : Json} {files : Files} {file : StateFile} {found : Option (List Char)}

theorem readJsonCandidate_eq_some (h : readJsonCandidate file found = .ok (some value)) :
    ∃ text, found = some text ∧ parse text = some value := by
  cases found with
  | none => cases h
  | some text =>
    rw [readJsonCandidate] at h
    split at h
    · next parsed hparsed =>
      cases h
      exact ⟨text,rfl,hparsed⟩
    · cases h

theorem readJsonCandidate_eq_none (h : readJsonCandidate file found = .ok none) : found = none := by
  cases found with
  | none => rfl
  | some text =>
    rw [readJsonCandidate] at h
    split at h
    · cases h
    · cases h

theorem surfaces_of_read (h : read createDefault files = .ok value) : Surfaces createDefault files value := by
  obtain ⟨primary,hprimary,h⟩ := bind_eq_ok.mp h
  cases primary with
  | some found =>
    obtain rfl := Except.ok.inj h
    obtain ⟨text,hfile,hvalue⟩ := readJsonCandidate_eq_some hprimary
    exact .primary text hfile hvalue
  | none =>
    have hfile := readJsonCandidate_eq_none hprimary
    obtain ⟨next,hnext,h⟩ := bind_eq_ok.mp h
    cases next with
    | some found =>
      obtain rfl := Except.ok.inj h
      obtain ⟨text,hnext,hvalue⟩ := readJsonCandidate_eq_some hnext
      exact .next text hfile hnext hvalue
    | none =>
      cases hprevious : readJsonCandidate .previous files.previous with
      | error error =>
        rw [hprevious] at h
        cases h
      | ok previous =>
        rw [hprevious] at h
        obtain rfl := Except.ok.inj h
        cases previous with
        | none => exact .nothing hfile (readJsonCandidate_eq_none hnext) (readJsonCandidate_eq_none hprevious) rfl
        | some found =>
          obtain ⟨text,hprevious,hvalue⟩ := readJsonCandidate_eq_some hprevious
          exact .previous text hfile hprevious hvalue

theorem surfaces_write {change : Json} (h : Surfaces createDefault (write change files) value) : value = change := by
  rw [write_eq] at h
  cases h with
  | primary text hfile hvalue =>
    obtain rfl := Option.some.inj hfile
    rw [parse_encode] at hvalue
    exact (Option.some.inj hvalue).symm
  | next text hfile | previous text hfile | nothing hfile => cases hfile

variable {members : List (JsString × Json)}

/-- A text that lost more than its last character holds nothing. -/
theorem parse_readPrefix_cut {n : ℕ} (h : n < Outbox.byteLength (Json.stringify (.obj members))) :
    Json.parse (Outbox.readPrefix n (encode (.obj members))) = none := by
  obtain ⟨kept,lost,hsplit,hlost,hcut⟩ := Outbox.readPrefix_cut h
  rw [encode,Outbox.readPrefix_append_of_lt h]
  rcases hcut with hcut | hcut
  · rw [hcut]
    exact Json.parse_cut hsplit hlost
  · rw [hcut]
    cases kept with
    | nil => decide
    | cons c kept => exact Json.parse_cut_append hsplit (List.cons_ne_nil c kept) (by decide) (by decide)

/-- A write that is cut leaves what there was, and its own state. -/
theorem surfaces_interruptedWrite {point : CrashPoint} (hforgets : ¬ Forgets files point)
    (h : Surfaces createDefault (interruptedWrite (.obj members) point files) value) :
    Surfaces createDefault files value ∨ value = .obj members := by
  obtain ⟨steps,bytes⟩ := point
  obtain ⟨primary,next,previous⟩ := files
  have hchange {text : List Char} (htext : some (encode (.obj members)) = some text) (hvalue : parse text = some value) :
      value = .obj members := by
    rw [← Option.some.inj htext,parse_encode] at hvalue
    exact (Option.some.inj hvalue).symm
  match steps with
  | 0 => exact .inl h
  | 1 =>
    cases h with
    | primary text hfile hvalue => exact .inl (.primary text hfile hvalue)
    | next text hfile hnext => cases hnext
    | previous text hfile hprevious hvalue => exact .inl (.previous text hfile hprevious hvalue)
    | nothing hfile hnext hprevious hvalue =>
      cases next with
      | none => exact .inl (.nothing hfile rfl hprevious hvalue)
      | some text => exact absurd ⟨hfile,rfl,hprevious,rfl⟩ hforgets
  | 2 =>
    cases h with
    | primary text hfile hvalue => exact .inl (.primary text hfile hvalue)
    | next text hfile hnext hvalue =>
      obtain rfl := Option.some.inj hnext
      rcases Nat.lt_or_ge bytes (Outbox.byteLength (Json.stringify (.obj members))) with hcut | hwhole
      · rw [parse_readPrefix_cut hcut] at hvalue
        cases hvalue
      · rw [parse_readPrefix hwhole] at hvalue
        exact .inr (Option.some.inj hvalue).symm
    | previous text hfile hprevious hvalue => exact .inl (.previous text hfile hprevious hvalue)
    | nothing hfile hnext => cases hnext
  | 3 =>
    cases h with
    | primary text hfile hvalue => exact .inl (.primary text hfile hvalue)
    | next text hfile hnext hvalue => exact .inr (hchange hnext hvalue)
    | previous text hfile hprevious hvalue => exact .inl (.previous text hfile hprevious hvalue)
    | nothing hfile hnext => cases hnext
  | 4 =>
    cases h with
    | primary text hfile hvalue => exact .inl (.primary text hfile hvalue)
    | next text hfile hnext hvalue => exact .inr (hchange hnext hvalue)
    | previous text hfile hprevious => cases hprevious
    | nothing hfile hnext => cases hnext
  | 5 =>
    cases primary with
    | none =>
      cases h with
      | primary text hfile => cases hfile
      | next text hfile hnext hvalue => exact .inr (hchange hnext hvalue)
      | previous text hfile hprevious => cases hprevious
      | nothing hfile hnext => cases hnext
    | some old =>
      cases h with
      | primary text hfile => cases hfile
      | next text hfile hnext hvalue => exact .inr (hchange hnext hvalue)
      | previous text hfile hprevious hvalue => exact .inl (.primary text hprevious hvalue)
      | nothing hfile hnext => cases hnext
  | 6 =>
    cases h with
    | primary text hfile hvalue =>
      refine .inr (hchange ?_ hvalue)
      cases primary with
      | none | some => exact hfile
    | next text hfile | previous text hfile | nothing hfile =>
      cases primary with
      | none | some => cases hfile
  | steps + 7 =>
    rw [interruptedWrite_all _ _ (by simp)] at h
    exact .inr (surfaces_write h)

end Malink.Security
