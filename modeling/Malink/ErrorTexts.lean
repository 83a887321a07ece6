import Malink.JsStrings
import Mathlib.Data.List.Infix

/-!
# Phrases in error texts

A text mentions a phrase that is somewhere in it, in upper or lower case. Of texts that are put together around a unit
that the phrase does not have, one has the phrase.
-/

namespace Malink

theorem infix_append_cons_iff {α : Type*} {pattern left right : List α} {separator : α} (h : separator ∉ pattern) :
    pattern <:+: left ++ separator :: right ↔ pattern <:+: left ∨ pattern <:+: right := by
  constructor
  · rintro ⟨before,after,heq⟩
    rcases List.append_eq_append_iff.mp heq with ⟨rest,hleft,-⟩ | ⟨rest,hbefore,hright⟩
    · exact .inl ⟨before,rest,hleft.symm⟩
    · rcases List.append_eq_append_iff.mp hbefore with ⟨start,hleft,hpattern⟩ | ⟨gap,-,hrest⟩
      · cases rest with
        | nil =>
          rw [List.append_nil] at hpattern
          exact .inl ⟨before,[],by simp [hleft,hpattern]⟩
        | cons first rest =>
          obtain ⟨rfl,-⟩ := List.cons.inj hright
          exact absurd (hpattern ▸ List.mem_append_right start List.mem_cons_self) h
      · rw [hrest] at hright
        cases gap with
        | nil =>
          cases pattern with
          | nil => exact .inr List.nil_infix
          | cons first pattern =>
            obtain ⟨rfl,-⟩ := List.cons.inj hright
            exact absurd List.mem_cons_self h
        | cons first gap =>
          obtain ⟨-,hright⟩ := List.cons.inj hright
          exact .inr ⟨gap,after,hright.symm⟩
  · rintro (hleft | hright)
    · exact hleft.trans (List.prefix_append left _).isInfix
    · exact hright.trans ((List.suffix_cons separator right).trans (List.suffix_append left _)).isInfix

/-- Simple case folding onto the letters of ASCII. -/
def foldUnit (unit : UInt16) : UInt16 :=
  if 65 ≤ unit ∧ unit ≤ 90 then unit + 32
  else if unit = 0x212A then 107
  else if unit = 0x17F then 115
  else unit

namespace JsString

/-- `/phrase/iu.test(text)`, for a phrase in lower case. -/
def mentions (text phrase : JsString) : Bool := decide (phrase.units <:+: text.units.map foldUnit)

/-- A phrase of words: it has no colon and no semicolon, and starts with a letter. -/
structure IsPhrase (phrase : JsString) : Prop where
  colon : (58 : UInt16) ∉ phrase.units
  semicolon : (59 : UInt16) ∉ phrase.units
  start : ∃ first rest, phrase.units = first :: rest ∧ first ≠ 32

/-- `${context}: ${error}` -/
def wrapped (context error : JsString) : JsString := context ++ (": " : JsString) ++ error

variable {phrase context error text : JsString}

theorem mentions_iff : text.mentions phrase ↔ phrase.units <:+: text.units.map foldUnit := decide_eq_true_iff

theorem mentions_wrapped (h : phrase.IsPhrase) : (wrapped context error).mentions phrase ↔
      context.mentions phrase ∨ error.mentions phrase := by
  obtain ⟨first,rest,hphrase,hne⟩ := h.start
  have hunits : (wrapped context error).units.map foldUnit =
      context.units.map foldUnit ++ 58 :: (32 :: error.units.map foldUnit) := by
    have hcolon : (": " : JsString).units.map foldUnit = [58,32] := by decide
    simp [wrapped,hcolon]
  have hspace : phrase.units <:+: 32 :: error.units.map foldUnit ↔ phrase.units <:+: error.units.map foldUnit := by
    rw [List.infix_cons_iff,hphrase]
    refine or_iff_right fun hprefix => hne ?_
    exact (List.cons_prefix_cons.mp hprefix).1
  rw [mentions_iff,mentions_iff,mentions_iff,hunits,infix_append_cons_iff h.colon,hspace]

theorem mentions_append_semicolon (h : phrase.IsPhrase) (rest : JsString) :
    (text ++ ((";" : JsString) ++ rest)).mentions phrase = true ↔
      text.mentions phrase ∨ rest.mentions phrase := by
  have hsemicolon : (";" : JsString).units.map foldUnit = [59] := by decide
  simp [mentions_iff,hsemicolon,infix_append_cons_iff h.semicolon]

end JsString

end Malink
