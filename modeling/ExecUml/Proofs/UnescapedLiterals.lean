import ExecUml.Proofs.QuotedLiterals
import ExecUml.Proofs.SpelledNames

/-!
# Text that stands in quotes as it is

When a text is read back that was put into quotes without any escape. What an escape stands for has
no more code units than what is written behind its backslash, so a literal with a backslash in it
has fewer code units than its text, and a quote in it ends it early.
-/

set_option autoImplicit false

namespace ExecUml.Script

open Text (CharClass)

/-- The characters with a meaning of their own in quotes: line feed, carriage return, quote and
backslash. -/
def literalMarks : CharClass := [(0xA, 0xA), (0xD, 0xD), (0x27, 0x27), (0x5C, 0x5C)]

theorem has_literalMarks_iff (c : Char) :
    literalMarks.has c = true ↔ c = '\n' ∨ c = '\r' ∨ c = '\'' ∨ c = '\\' := by
  simp only [CharClass.has_iff, literalMarks, List.exists_mem_cons_iff, List.not_mem_nil, false_and,
    exists_false, or_false, eq_iff_toNat_between]
  rfl

/-- A text without such characters. -/
def Unmarked (text : List Char) : Prop := ∀ c ∈ text, literalMarks.has c = false

instance : DecidablePred Unmarked :=
  fun text => List.decidableBAll (literalMarks.has · = false) text

/-! ## Numbers of code units -/

theorem one_le_length_codeUnits (n : Nat) : 1 ≤ (codeUnits n).length := by
  unfold codeUnits
  split <;> simp

theorem length_codeUnits_le (n : Nat) : (codeUnits n).length ≤ 2 := by
  unfold codeUnits
  split <;> simp

theorem textUnits_cons (c : Char) (cs : List Char) :
    textUnits (c :: cs) = codeUnits c.toNat ++ textUnits cs := by
  rw [textUnits, List.flatMap_cons]
  rfl

theorem textUnits_append (cs ds : List Char) :
    textUnits (cs ++ ds) = textUnits cs ++ textUnits ds := by
  rw [textUnits, List.flatMap_append]
  rfl

theorem length_le_textUnits (cs : List Char) : cs.length ≤ (textUnits cs).length := by
  induction cs with
  | nil => exact Nat.le_refl _
  | cons c cs ih =>
    have hunits := one_le_length_codeUnits c.toNat
    rw [textUnits_cons, List.length_append, List.length_cons]
    omega

theorem length_textUnits_take_drop (n : Nat) (cs : List Char) :
    (textUnits cs).length = (textUnits (cs.take n)).length + (textUnits (cs.drop n)).length := by
  rw [← List.length_append, ← textUnits_append, List.take_append_drop]

theorem length_codeUnits_of_lt {n : Nat} (h : n < 0x10000) : (codeUnits n).length = 1 := by
  rw [codeUnits, if_pos h, List.length_singleton]

theorem length_of_textOfUnits? {units : List UInt16} {text : List Char}
    (h : textOfUnits? units = some text) :
    (textUnits text).length ≤ units.length := by
  induction units using textOfUnits?.induct generalizing text with
  | case1 =>
    cases h
    exact Nat.le_refl _
  | case2 u us hu ih =>
    rw [textOfUnits?_unit hu] at h
    obtain ⟨tail, htail, rfl⟩ := Option.map_eq_some_iff.mp h
    have hunit : (Char.ofNat u.toNat).toNat < 0x10000 := by
      by_cases hvalid : u.toNat.isValidChar
      · rw [Char.ofNat, dif_pos hvalid]
        exact u.toNat_lt
      · rw [Char.ofNat, dif_neg hvalid]
        decide
    have := ih htail
    rw [textUnits_cons, List.length_append, length_codeUnits_of_lt hunit, List.length_cons]
    omega
  | case3 u hu =>
    rw [textOfUnits?, if_neg hu] at h
    cases h
  | case4 u hu v us hpair ih =>
    rw [textOfUnits?, if_neg hu, if_pos hpair] at h
    obtain ⟨tail, htail, rfl⟩ := Option.map_eq_some_iff.mp h
    have := ih htail
    have := length_codeUnits_le
      (Char.ofNat ((u.toNat - 0xD800) * 0x400 + (v.toNat - 0xDC00) + 0x10000)).toNat
    rw [textUnits_cons, List.length_append, List.length_cons, List.length_cons]
    omega
  | case5 u hu v us hpair =>
    rw [textOfUnits?, if_neg hu, if_neg hpair] at h
    cases h

/-! ## Escapes -/

theorem length_of_hexEscape? {count more : Nat} {cs : List Char} {value : List UInt16}
    (h : hexEscape? count cs = some (value, more)) :
    value.length ≤ 2 ∧ more = 1 + count ∧ count ≤ cs.length := by
  unfold hexEscape? at h
  split at h
  · rename_i hcount
    obtain ⟨n, _, heq⟩ := Option.map_eq_some_iff.mp h
    cases heq
    exact ⟨length_codeUnits_le n, rfl, hcount⟩
  · cases h

theorem length_of_pointEscape? {more : Nat} {cs : List Char} {value : List UInt16}
    (h : pointEscape? cs = some (value, more)) : value.length ≤ 2 ∧ 2 ≤ more := by
  unfold pointEscape? at h
  dsimp only at h
  split at h
  · cases h
  · obtain ⟨n, _, hn⟩ := Option.bind_eq_some_iff.mp h
    split at hn
    · cases hn
      exact ⟨length_codeUnits_le n, by omega⟩
    · cases hn

/-- What an escape stands for is not longer than what is written behind its backslash. -/
theorem length_of_escape? {cs : List Char} {value : List UInt16} {more : Nat}
    (h : escape? cs = some (value, more)) : value.length ≤ (textUnits (cs.take more)).length := by
  cases cs with
  | nil => cases h
  | cons c cs =>
    have hlong : value.length ≤ 2 → 2 ≤ more → 1 ≤ cs.length →
        value.length ≤ (textUnits ((c :: cs).take more)).length := by
      intro hvalue hmore hcs
      refine Nat.le_trans ?_ (length_le_textUnits _)
      rw [List.length_take, List.length_cons]
      omega
    rw [escape?] at h
    split_ifs at h with hx hu hbrace hdigit hzero hreturn hfeed hterminator
    · obtain ⟨hvalue, rfl, hcount⟩ := length_of_hexEscape? h
      exact hlong hvalue (by omega) (by omega)
    · obtain ⟨hvalue, hmore⟩ := length_of_pointEscape? h
      refine hlong hvalue hmore ?_
      cases cs with
      | nil => cases hbrace
      | cons _ _ => simp
    · obtain ⟨hvalue, rfl, hcount⟩ := length_of_hexEscape? h
      exact hlong hvalue (by omega) (by omega)
    · cases h
      rw [length_codeUnits_of_lt (by decide)]
      exact Nat.le_trans (by simp) (length_le_textUnits _)
    · cases h
      exact Nat.zero_le _
    · cases h
      exact Nat.zero_le _
    · cases h
      exact Nat.zero_le _
    · cases h
      -- The letters that stand for another character stand for one of a single unit.
      have hletter :
          (codeUnits ((escapeLetters.lookup c).getD c).toNat).length ≤
            (codeUnits c.toNat).length := by
        cases hlookup : escapeLetters.lookup c with
        | none => exact Nat.le_refl _
        | some d =>
          have hd : ∀ entry ∈ escapeLetters, (codeUnits entry.2.toNat).length = 1 := by decide
          obtain ⟨before, after, hletters, -⟩ := List.lookup_eq_some_iff.mp hlookup
          have hmem : (c, d) ∈ escapeLetters := by simp [hletters]
          rw [Option.getD_some, hd _ hmem]
          exact one_le_length_codeUnits _
      rw [List.take_succ_cons, List.take_zero, textUnits_cons, List.length_append]
      exact Nat.le_add_right_of_le hletter

/-! ## Literals -/

section Scan

variable {d : Char} {cs rest : List Char} {values : List UInt16}

theorem cases_of_quotedRule {c : Char} {value : List UInt16} {more : Nat}
    (h : quotedRule c cs = some (value, more)) :
    (c ≠ '\n' ∧ c ≠ '\r') ∧ value = codeUnits c.toNat ∧ more = 0 := by
  unfold quotedRule at h
  split at h
  · cases h
  · rename_i hline
    cases h
    exact ⟨not_or.mp hline, rfl, rfl⟩

theorem scanLiteral_cons {c : Char} (hd : c ≠ d)
    (h : scanLiteral quotedRule d (c :: cs) = some (values, rest)) :
    ∃ value more tail, (if c = '\\' then escape? cs else quotedRule c cs) = some (value, more) ∧
      scanLiteral quotedRule d (cs.drop more) = some (tail, rest) ∧ values = value ++ tail := by
  rw [scanLiteral, if_neg hd] at h
  split at h
  · cases h
  · rename_i value more hvalue
    obtain ⟨⟨tail, rest⟩, htail, heq⟩ := Option.map_eq_some_iff.mp h
    cases heq
    exact ⟨value, more, tail, hvalue, htail, rfl⟩

/-- A literal and what follows it have fewer code units than the text that they are read from. -/
theorem units_of_scanLiteral (h : scanLiteral quotedRule d cs = some (values, rest)) :
    values.length + (textUnits rest).length < (textUnits cs).length := by
  -- On the length of the text, for an escape may take any number of characters.
  induction hn : cs.length using Nat.strongRecOn generalizing cs values with
  | ind n ih =>
    cases cs with
    | nil =>
      rw [scanLiteral] at h
      cases h
    | cons c cs =>
      have hunit := one_le_length_codeUnits c.toNat
      rw [textUnits_cons, List.length_append]
      by_cases hd : c = d
      · rw [scanLiteral, if_pos hd] at h
        cases h
        rw [List.length_nil]
        omega
      · obtain ⟨value, more, tail, hvalue, htail, rfl⟩ := scanLiteral_cons hd h
        have hmore := ih _ (by rw [← hn, List.length_drop, List.length_cons]; omega) htail rfl
        have hparts := length_textUnits_take_drop more cs
        have hshort :
            value.length ≤ (codeUnits c.toNat).length + (textUnits (cs.take more)).length := by
          split at hvalue
          · exact Nat.le_add_left_of_le (length_of_escape? hvalue)
          · obtain ⟨_, rfl, _⟩ := cases_of_quotedRule hvalue
            exact Nat.le_add_right _ _
        rw [List.length_append]
        omega

/-- A backslash itself counts for nothing in the value of a literal. -/
theorem units_of_scanLiteral_backslash (hd : '\\' ≠ d)
    (h : scanLiteral quotedRule d ('\\' :: cs) = some (values, rest)) :
    values.length + (textUnits rest).length < (textUnits cs).length := by
  obtain ⟨value, more, tail, hvalue, htail, rfl⟩ := scanLiteral_cons hd h
  rw [if_pos rfl] at hvalue
  have hvalue := length_of_escape? hvalue
  have htail := units_of_scanLiteral htail
  have hparts := length_textUnits_take_drop more cs
  rw [List.length_append]
  omega

end Scan

theorem scanLiteral_of_unmarked {text : List Char} (h : Unmarked text) (rest : List Char) :
    scanLiteral quotedRule '\'' (text ++ '\'' :: rest) = some (textUnits text, rest) := by
  induction text with
  | nil => exact scanLiteral_delimiter _ _ rest
  | cons c text ih =>
    obtain ⟨hc, htext⟩ := List.forall_mem_cons.mp h
    simp only [Bool.eq_false_iff, Ne, has_literalMarks_iff, not_or] at hc
    obtain ⟨hfeed, hreturn, hquote, hback⟩ := hc
    have hrule : quotedRule c (text ++ '\'' :: rest) = some (codeUnits c.toNat, 0) :=
      if_neg (by simp [hfeed, hreturn])
    rw [List.cons_append, textUnits_cons]
    exact scanLiteral_plain hquote hback hrule (ih htext)

/-- A quote in the text would end the literal early, and a backslash would make its value shorter
than the text. -/
theorem unmarked_of_scanLiteral {text rest : List Char} {values : List UInt16}
    (h : scanLiteral quotedRule '\'' (text ++ '\'' :: rest) = some (values, rest))
    (hlength : (textUnits text).length ≤ values.length) : Unmarked text := by
  induction text generalizing values with
  | nil => exact List.forall_mem_nil _
  | cons c text ih =>
    rw [List.cons_append] at h
    have hquote : c ≠ '\'' := by
      rintro rfl
      rw [scanLiteral_delimiter] at h
      have hrest := congrArg List.length (Prod.mk.inj (Option.some.inj h)).2
      rw [List.length_append, List.length_cons] at hrest
      omega
    have hback : c ≠ '\\' := by
      rintro rfl
      have hshort := units_of_scanLiteral_backslash (by decide) h
      have hback : (codeUnits '\\'.toNat).length = 1 := by decide
      have hend : (codeUnits '\''.toNat).length = 1 := by decide
      rw [textUnits_append, textUnits_cons, List.length_append, List.length_append] at hshort
      rw [textUnits_cons, List.length_append] at hlength
      omega
    obtain ⟨value, more, tail, hvalue, htail, rfl⟩ := scanLiteral_cons hquote h
    rw [if_neg hback] at hvalue
    obtain ⟨hline, rfl, rfl⟩ := cases_of_quotedRule hvalue
    rw [textUnits_cons, List.length_append, List.length_append] at hlength
    refine List.forall_mem_cons.mpr ⟨?_, ih htail (by omega)⟩
    rw [Bool.eq_false_iff, Ne, has_literalMarks_iff]
    simp only [hline, hquote, hback, or_self, not_false_eq_true]

/-- A text put into quotes as it is is read back exactly if no character of it has a meaning of its
own there. -/
theorem quotedText?_eq_some_iff (s : String) (rest : List Char) :
    quotedText? ('\'' :: (s.toList ++ '\'' :: rest)) = some (s, rest) ↔ Unmarked s.toList := by
  constructor
  · intro h
    rw [quotedText?, literalText?, if_pos rfl] at h
    obtain ⟨⟨values, tail⟩, hscan, htext⟩ := Option.bind_eq_some_iff.mp h
    obtain ⟨text, hunits, heq⟩ := Option.map_eq_some_iff.mp htext
    cases heq
    rw [String.toList_ofList] at hscan ⊢
    exact unmarked_of_scanLiteral hscan (length_of_textOfUnits? hunits)
  · intro h
    rw [quotedText?, literalText?_of_scanLiteral (scanLiteral_of_unmarked h rest),
      String.ofList_toList]

end ExecUml.Script
