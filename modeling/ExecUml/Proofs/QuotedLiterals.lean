import ExecUml.Proofs.ScriptLexis
import ExecUml.Proofs.SelfDelimiting
import ExecUml.Script.Printer

/-!
# Reading quoted literals back

A text in quotes is read back as it is, whatever it holds and whatever follows: every character is
written as itself or as an escape that stands for it, and none of them is taken for the delimiter.
So the members of a union of literals can be read off its text, in order.
-/

set_option autoImplicit false

namespace ExecUml.Script

open Text (afterFront?)

/-- A character is written as itself where that has no other meaning, and else as an escape. -/
theorem escapedChar_cases (c : Char) :
    (escapedChar c = [c] ∧ c ≠ '\'' ∧ c ≠ '\\' ∧ c ≠ '\n' ∧ c ≠ '\r') ∨
      ∃ e, escapedChar c = ['\\', e] ∧ ∀ cs, escape? (e :: cs) = some (codeUnits c.toNat, 1) := by
  unfold escapedChar
  split_ifs with hback hdouble hsingle hfeed hreturn htab
  · subst hback
    exact .inr ⟨'\\', rfl, fun _ => rfl⟩
  · subst hdouble
    exact .inr ⟨'"', rfl, fun _ => rfl⟩
  · subst hsingle
    exact .inr ⟨'\'', rfl, fun _ => rfl⟩
  · subst hfeed
    exact .inr ⟨'n', rfl, fun _ => rfl⟩
  · subst hreturn
    exact .inr ⟨'r', rfl, fun _ => rfl⟩
  · subst htab
    exact .inr ⟨'t', rfl, fun _ => rfl⟩
  · exact .inl ⟨rfl, hsingle, hback, hfeed, hreturn⟩

theorem scanLiteral_escapedChar {cs rest : List Char} {values : List UInt16}
    (h : scanLiteral quotedRule '\'' cs = some (values, rest)) (c : Char) :
    scanLiteral quotedRule '\'' (escapedChar c ++ cs) =
      some (codeUnits c.toNat ++ values, rest) := by
  rcases escapedChar_cases c with ⟨hself, hquote, hback, hfeed, hreturn⟩ | ⟨e, hescaped, hvalue⟩
  · rw [hself]
    have hrule : quotedRule c cs = some (codeUnits c.toNat, 0) := if_neg (by simp [hfeed, hreturn])
    exact scanLiteral_plain hquote hback hrule h
  · rw [hescaped]
    exact scanLiteral_escape (by decide) (hvalue cs) h

theorem scanLiteral_quoted (text rest : List Char) :
    scanLiteral quotedRule '\'' (text.flatMap escapedChar ++ '\'' :: rest) =
      some (textUnits text, rest) := by
  induction text with
  | nil => exact scanLiteral_delimiter _ _ rest
  | cons c text ih =>
    rw [List.flatMap_cons, List.append_assoc]
    exact scanLiteral_escapedChar ih c

/-- The text of a quoted literal at the front, and what follows the literal. -/
def quotedText? : List Char → Option (String × List Char) := literalText? quotedRule '\''

theorem quotedText?_quote (s : String) (rest : List Char) :
    quotedText? ((quote s).toList ++ rest) = some (s, rest) := by
  have hquote :
      (quote s).toList ++ rest = '\'' :: (s.toList.flatMap escapedChar ++ '\'' :: rest) := by
    simp [toList_quote]
  rw [hquote, quotedText?, literalText?_of_scanLiteral (scanLiteral_quoted s.toList rest),
    String.ofList_toList]

theorem length_of_afterFront? {pat cs rest : List Char} (h : afterFront? pat cs = some rest) :
    rest.length ≤ cs.length := by
  rw [Text.afterFront?_eq_some_iff.mp h, List.length_append]
  exact Nat.le_add_left _ _

/-- The texts of quoted literals with bars between them. -/
def unionTexts? (cs : List Char) : Option (List String) :=
  match _h : quotedText? cs with
  | none => none
  | some (s, []) => some [s]
  | some (s, rest) =>
    match _hbar : afterFront? [' ', '|', ' '] rest with
    | none => none
    | some more => (unionTexts? more).map (s :: ·)
termination_by cs.length
decreasing_by exact Nat.lt_of_le_of_lt (length_of_afterFront? _hbar) (length_of_literalText? _h)

theorem unionTexts?_last {cs : List Char} {s : String} (h : quotedText? cs = some (s, [])) :
    unionTexts? cs = some [s] := by
  rw [unionTexts?]
  split
  · rename_i hnone
    rw [h] at hnone
    cases hnone
  · rename_i t hlast
    rw [h] at hlast
    cases hlast
    rfl
  · rename_i t rest hrest hmore
    rw [h] at hmore
    cases hmore
    exact absurd rfl hrest

theorem unionTexts?_bar {cs more : List Char} {s : String}
    (h : quotedText? cs = some (s, [' ', '|', ' '] ++ more)) :
    unionTexts? cs = (unionTexts? more).map (s :: ·) := by
  have hbar : afterFront? [' ', '|', ' '] ([' ', '|', ' '] ++ more) = some more :=
    Text.afterFront?_eq_some_iff.mpr rfl
  rw [unionTexts?]
  split
  · rename_i hnone
    rw [h] at hnone
    cases hnone
  · rename_i t hlast
    rw [h] at hlast
    cases hlast
  · rename_i t rest _ hmore
    rw [h] at hmore
    cases hmore
    split
    · rename_i hnone
      cases hbar.symm.trans hnone
    · rename_i tail htail
      cases hbar.symm.trans htail
      rfl

theorem unionTexts?_literals (first : String) (more : List String) :
    unionTexts?
      ((quote first).toList ++ more.flatMap fun s => [' ', '|', ' '] ++ (quote s).toList) =
      some (first :: more) := by
  induction more generalizing first with
  | nil => exact unionTexts?_last (quotedText?_quote first [])
  | cons next more ih =>
    rw [List.flatMap_cons, List.append_assoc, unionTexts?_bar (quotedText?_quote first _), ih next]
    rfl

/-- A quoted text is read back up to its closing quote, and a union of literals is read back member
by member. -/
theorem quoted_texts_read_back :
    (∀ (s : String) (rest : List Char),
      quotedText? ('\'' :: ((escapeString s).toList ++ '\'' :: rest)) = some (s, rest)) ∧
    ∀ (first : String) (more : List String),
      unionTexts? (TypeExpr.union (first :: more)).print.toList = some (first :: more) := by
  refine ⟨?_, ?_⟩
  · intro s rest
    have hquote : '\'' :: ((escapeString s).toList ++ '\'' :: rest) = (quote s).toList ++ rest := by
      simp [quote]
    rw [hquote, quotedText?_quote]
  · intro first more
    have hprint : (TypeExpr.union (first :: more)).print =
        String.intercalate " | " (quote first :: more.map quote) := rfl
    have hbars : (TypeExpr.union (first :: more)).print.toList =
        (quote first).toList ++ more.flatMap fun s => [' ', '|', ' '] ++ (quote s).toList := by
      rw [hprint, String.toList_intercalate, List.map_cons, intercalate_cons_eq, List.map_map,
        List.flatMap_map]
      rfl
    rw [hbars, unionTexts?_literals]

example : (TypeExpr.union ["it's", "a' | 'b\\"]).print = "'it\\'s' | 'a\\' | \\'b\\\\'" ∧
    unionTexts? "'it\\'s' | 'a\\' | \\'b\\\\'".toList = some ["it's", "a' | 'b\\"] := by
  decide +kernel

end ExecUml.Script
