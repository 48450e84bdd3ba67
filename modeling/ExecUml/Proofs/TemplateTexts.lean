import ExecUml.Proofs.ScriptLexis
import ExecUml.Script.Printer
import Mathlib.Algebra.Ring.Parity

/-!
# Templates

Both kinds of templates end at their last character and not before: every delimiter in between has
an odd number of backslashes in front of it. A template without placeholders has none even where its
text looks like one, and its value is the text, with line feeds for carriage returns.

Nothing is said about what stands in the placeholders of a template that has them.
-/

set_option autoImplicit false

namespace ExecUml.Script

open Text (afterFront? replaceAll replace)

/-! ## Escaping in one pass and by replacements -/

theorem replaceAll_cons_of_ne {p c : Char} (h : p ≠ c) (ps new cs : List Char) :
    replaceAll (p :: ps) new (c :: cs) = c :: replaceAll (p :: ps) new cs := by
  rw [replaceAll, if_neg]
  simp [afterFront?, h]

theorem replaceAll_singleton (a : Char) (new cs : List Char) :
    replaceAll [a] new cs = cs.flatMap fun c => if a = c then new else [c] := by
  induction cs with
  | nil =>
    rw [replaceAll]
    rfl
  | cons c cs ih =>
    rw [List.flatMap_cons, ← ih]
    by_cases h : a = c
    · rw [replaceAll, if_pos (by simp [afterFront?, h]), if_pos h]
      rfl
    · rw [replaceAll_cons_of_ne h, if_neg h]
      rfl

theorem templateChar_cases (c : Char) :
    (templateChar c = ['\\', c] ∧ (c = '\\' ∨ c = backtick)) ∨
      (templateChar c = [c] ∧ c ≠ '\\' ∧ c ≠ backtick) := by
  unfold templateChar
  split_ifs with hback htick
  · exact .inl ⟨by rw [hback], .inl hback⟩
  · exact .inl ⟨by rw [htick], .inr htick⟩
  · exact .inr ⟨rfl, hback, htick⟩

theorem escapeTemplate_eq_replace (s : String) :
    escapeTemplate s = replace (replace s "\\" "\\\\") "`" "\\`" := by
  have hchars : s.toList.flatMap templateChar =
      replaceAll [backtick] ['\\', backtick] (replaceAll ['\\'] ['\\', '\\'] s.toList) := by
    rw [replaceAll_singleton, replaceAll_singleton, List.flatMap_assoc]
    apply List.flatMap_congr
    intro c _
    rcases templateChar_cases c with ⟨-, rfl | rfl⟩ | ⟨hself, hback, htick⟩
    · rfl
    · rfl
    · simp [hself, Ne.symm hback, Ne.symm htick]
  simp [escapeTemplate, hchars, replace, backtick]

/-- Escapes do not bring a brace to the front. -/
theorem head?_flatMap_templateChar {cs : List Char} (h : cs.head? ≠ some '\x7b') :
    (cs.flatMap templateChar).head? ≠ some '\x7b' := by
  cases cs with
  | nil => simp
  | cons c cs =>
    rw [List.flatMap_cons]
    rcases templateChar_cases c with ⟨hescaped, -⟩ | ⟨hself, -⟩
    · simp [hescaped]
    · simpa [hself] using h

theorem replaceAll_placeholder (cs : List Char) :
    replaceAll ['$', '\x7b'] ['\\', '$', '\x7b'] (cs.flatMap templateChar) = inertChars cs := by
  induction cs using inertChars.induct with
  | case1 =>
    rw [List.flatMap_nil, replaceAll]
    rfl
  | case2 cs ih =>
    have hfront :
        ('$' :: '\x7b' :: cs).flatMap templateChar = '$' :: '\x7b' :: cs.flatMap templateChar := rfl
    have hinert : inertChars ('$' :: '\x7b' :: cs) = '\\' :: '$' :: '\x7b' :: inertChars cs := rfl
    rw [hfront, hinert, replaceAll, if_pos (by rfl), ← ih]
    rfl
  | case3 c cs hopen ih =>
    rw [List.flatMap_cons, inertChars_cons hopen, ← ih]
    rcases templateChar_cases c with ⟨hescaped, hc⟩ | ⟨hself, -⟩
    · have hdollar : '$' ≠ c := by
        rcases hc with rfl | rfl <;> decide
      rw [hescaped, List.cons_append, List.singleton_append, replaceAll_cons_of_ne (by decide),
        replaceAll_cons_of_ne hdollar]
      rfl
    · rw [hself, List.singleton_append, List.singleton_append]
      by_cases hdollar : '$' = c
      · have hhead : cs.head? ≠ some '\x7b' := by
          intro hhead
          obtain ⟨tail, rfl⟩ := List.head?_eq_some_iff.mp hhead
          exact hopen tail hdollar.symm rfl
        have hnext := head?_flatMap_templateChar hhead
        rw [replaceAll, if_neg]
        cases hbody : cs.flatMap templateChar with
        | nil => simp [afterFront?]
        | cons d body =>
          rw [hbody, List.head?_cons] at hnext
          have hd : '\x7b' ≠ d := fun hd => hnext (congrArg some hd.symm)
          simp [afterFront?, hd]
      · exact replaceAll_cons_of_ne hdollar _ _ _

/-- The text of a template without placeholders comes about by three replacements, one after the
other. -/
theorem escapeTemplateText_eq_replace (s : String) :
    escapeTemplateText s = replace (replace (replace s "\\" "\\\\") "`" "\\`") "$\x7b"
      "\\$\x7b" := by
  rw [← escapeTemplate_eq_replace, escapeTemplateText, ← replaceAll_placeholder]
  simp [replace, escapeTemplate]

/-! ## Escaped places -/

def backslashesAtEnd (text : List Char) : Nat := (text.reverse.takeWhile (· == '\\')).length

/-- Whether a text escapes what follows it, told from the front. -/
def escapesNext (text : List Char) : Bool :=
  text.foldl (fun escaped c => !escaped && c == '\\') false

theorem escapesNext_eq_true_iff (text : List Char) :
    escapesNext text = true ↔ Odd (backslashesAtEnd text) := by
  induction text using List.reverseRecOn with
  | nil => simp [escapesNext, backslashesAtEnd]
  | append_singleton text c ih =>
    by_cases hc : c = '\\'
    · have hnext : escapesNext (text ++ [c]) = !escapesNext text := by simp [escapesNext, hc]
      have hcount : backslashesAtEnd (text ++ [c]) = backslashesAtEnd text + 1 := by
        simp [backslashesAtEnd, hc]
      rw [hnext, hcount, Nat.odd_add_one, ← ih, Bool.not_eq_true']
      simp
    · have hnext : escapesNext (text ++ [c]) = false := by simp [escapesNext, hc]
      have hcount : backslashesAtEnd (text ++ [c]) = 0 := by simp [backslashesAtEnd, hc]
      simp [hnext, hcount]

theorem escapesNext_cons {c : Char} (hc : c ≠ '\\') (text : List Char) :
    escapesNext (c :: text) = escapesNext text := by
  have hplain : (c == '\\') = false := by simpa using hc
  simp [escapesNext, hplain]

theorem escapesNext_escape (c : Char) (text : List Char) :
    escapesNext ('\\' :: c :: text) = escapesNext text := by
  simp [escapesNext]

/-- A text in a template: any character may stand behind a backslash, and backslashes and delimiters
have to. -/
inductive TemplateBody : List Char → List Char → Prop where
  | nil : TemplateBody [] []
  | plain {c : Char} {text body : List Char} :
      c ≠ '\\' → c ≠ backtick → TemplateBody text body → TemplateBody (c :: text) (c :: body)
  | escaped (c : Char) {text body : List Char} :
      TemplateBody text body → TemplateBody (c :: text) ('\\' :: c :: body)

namespace TemplateBody

variable {text body : List Char}

theorem escapesNext_eq_false (h : TemplateBody text body) : escapesNext body = false := by
  induction h with
  | nil => rfl
  | plain hback _ _ ih => rw [escapesNext_cons hback, ih]
  | escaped c _ ih => rw [escapesNext_escape, ih]

theorem escapesNext_of_delimiter (h : TemplateBody text body) {before after : List Char}
    (hbody : body = before ++ backtick :: after) : escapesNext before = true := by
  induction h generalizing before with
  | nil => simp at hbody
  | plain hback htick _ ih =>
    cases before with
    | nil => exact absurd (List.cons.inj hbody).1 htick
    | cons b before =>
      obtain ⟨rfl, hrest⟩ := List.cons.inj hbody
      rw [escapesNext_cons hback, ih hrest]
  | escaped c _ ih =>
    cases before with
    | nil => exact absurd (List.cons.inj hbody).1 (by decide)
    | cons b before =>
      obtain ⟨rfl, hrest⟩ := List.cons.inj hbody
      cases before with
      | nil => rfl
      | cons b before =>
        obtain ⟨rfl, htail⟩ := List.cons.inj hrest
        rw [escapesNext_escape, ih htail]

/-- A body shows the text that it stands for, and ends at the delimiter. -/
theorem read_unique {text' body' rest rest' : List Char} (h : TemplateBody text body)
    (h' : TemplateBody text' body') (heq : body ++ backtick :: rest = body' ++ backtick :: rest') :
    text = text' ∧ rest = rest' := by
  induction h generalizing text' body' with
  | nil =>
    cases h' with
    | nil => exact ⟨rfl, (List.cons.inj heq).2⟩
    | plain _ htick _ => exact absurd (List.cons.inj heq).1.symm htick
    | escaped c _ => exact absurd (List.cons.inj heq).1 (by decide)
  | plain hback htick _ ih =>
    cases h' with
    | nil => exact absurd (List.cons.inj heq).1 htick
    | plain _ _ htail =>
      obtain ⟨rfl, hrest⟩ := List.cons.inj heq
      obtain ⟨rfl, hr⟩ := ih htail hrest
      exact ⟨rfl, hr⟩
    | escaped c _ => exact absurd (List.cons.inj heq).1 hback
  | escaped c _ ih =>
    cases h' with
    | nil => exact absurd (List.cons.inj heq).1 (by decide)
    | plain hback _ _ => exact absurd (List.cons.inj heq).1.symm hback
    | escaped c' htail =>
      obtain ⟨rfl, hrest⟩ := List.cons.inj (List.cons.inj heq).2
      obtain ⟨rfl, hr⟩ := ih htail hrest
      exact ⟨rfl, hr⟩

end TemplateBody

/-- The delimiters that are not escaped are the first and the last character. -/
def Delimited (text : List Char) : Prop :=
  (∃ body, text = backtick :: (body ++ [backtick])) ∧
    ∀ before after, text = before ++ backtick :: after →
      (¬Odd (backslashesAtEnd before) ↔ before = [] ∨ after = [])

/-- A place that is neither the first nor the last of a template is one of its body. -/
theorem exists_place_in_body {body before after : List Char} {c : Char}
    (h : backtick :: (body ++ [backtick]) = before ++ c :: after) (hbefore : before ≠ [])
    (hafter : after ≠ []) :
    ∃ front back, before = backtick :: front ∧ after = back ++ [backtick] ∧
      body = front ++ c :: back := by
  obtain ⟨b, front, rfl⟩ := List.exists_cons_of_ne_nil hbefore
  obtain ⟨back, last, rfl⟩ := (List.eq_nil_or_concat after).resolve_left hafter
  obtain ⟨rfl, hrest⟩ := List.cons.inj h
  have hsplit : body ++ [backtick] = (front ++ c :: back) ++ [last] := by simpa using hrest
  obtain ⟨hbody, hlast⟩ := List.append_inj' hsplit rfl
  cases hlast
  exact ⟨front, back, rfl, List.concat_eq_append, hbody⟩

theorem TemplateBody.delimited {text body : List Char} (h : TemplateBody text body) :
    Delimited (backtick :: (body ++ [backtick])) := by
  refine ⟨⟨body, rfl⟩, ?_⟩
  intro before after heq
  rw [← escapesNext_eq_true_iff]
  by_cases hbefore : before = []
  · simp [hbefore, escapesNext]
  by_cases hafter : after = []
  · have hends :
        (backtick :: body) ++ [backtick] = before ++ [backtick] := by simpa [hafter] using heq
    rw [← List.append_cancel_right hends, escapesNext_cons (by decide), h.escapesNext_eq_false]
    simp [hafter]
  · obtain ⟨front, back, rfl, -, hbody⟩ := exists_place_in_body heq hbefore hafter
    rw [escapesNext_cons (by decide), h.escapesNext_of_delimiter hbody]
    simp [hafter]

/-! ## The two kinds of templates -/

theorem templateBody_template (text : List Char) :
    TemplateBody text (text.flatMap templateChar) := by
  induction text with
  | nil => exact .nil
  | cons c text ih =>
    rw [List.flatMap_cons]
    rcases templateChar_cases c with ⟨hescaped, -⟩ | ⟨hself, hback, htick⟩
    · rw [hescaped]
      exact .escaped c ih
    · rw [hself]
      exact .plain hback htick ih

/-- What a template without placeholders makes of a character, of which only the dollar sign looks
at the next. -/
theorem inertChars_cons_cases (c : Char) (cs : List Char) :
    (inertChars (c :: cs) = '\\' :: c :: inertChars cs ∧ c ≠ '\r' ∧
      ∀ ds, escape? (c :: ds) = some (codeUnits c.toNat, 1)) ∨
    (inertChars (c :: cs) = c :: inertChars cs ∧ c ≠ '\\' ∧ c ≠ backtick ∧
      (c = '$' → cs.head? ≠ some '\x7b')) := by
  by_cases hopen : c = '$' ∧ cs.head? = some '\x7b'
  · obtain ⟨rfl, hhead⟩ := hopen
    obtain ⟨tail, rfl⟩ := List.head?_eq_some_iff.mp hhead
    exact .inl ⟨rfl, by decide, fun _ => rfl⟩
  · have hcons : inertChars (c :: cs) = templateChar c ++ inertChars cs := by
      apply inertChars_cons
      rintro tail rfl rfl
      exact hopen ⟨rfl, rfl⟩
    rw [hcons]
    rcases templateChar_cases c with ⟨-, rfl | rfl⟩ | ⟨hself, hback, htick⟩
    · exact .inl ⟨rfl, by decide, fun _ => rfl⟩
    · exact .inl ⟨rfl, by decide, fun _ => rfl⟩
    · exact .inr
        ⟨by rw [hself, List.singleton_append], hback, htick, fun hc hhead => hopen ⟨hc, hhead⟩⟩

theorem templateBody_inert (text : List Char) : TemplateBody text (inertChars text) := by
  induction text with
  | nil => exact .nil
  | cons c text ih =>
    rcases inertChars_cons_cases c text with ⟨hcons, -⟩ | ⟨hcons, hback, htick, -⟩
    · rw [hcons]
      exact .escaped c ih
    · rw [hcons]
      exact .plain hback htick ih

/-- No escape makes another character than a backslash the first one. -/
theorem head?_of_inertChars {text body : List Char} {d : Char} (h : inertChars text = d :: body)
    (hd : d ≠ '\\') : text.head? = some d := by
  cases text with
  | nil => cases h
  | cons c text =>
    rcases inertChars_cons_cases c text with ⟨hcons, -⟩ | ⟨hcons, -⟩
    · rw [hcons] at h
      exact absurd (List.cons.inj h).1.symm hd
    · rw [hcons] at h
      rw [(List.cons.inj h).1, List.head?_cons]

theorem escapesNext_of_placeholder {text before after : List Char}
    (h : inertChars text = before ++ '$' :: '\x7b' :: after) : escapesNext before = true := by
  induction text generalizing before with
  | nil => simp [inertChars] at h
  | cons c text ih =>
    rcases inertChars_cons_cases c text with ⟨hcons, -⟩ | ⟨hcons, hback, -, hopen⟩
    · rw [hcons] at h
      cases before with
      | nil => exact absurd (List.cons.inj h).1 (by decide)
      | cons b before =>
        obtain ⟨rfl, hrest⟩ := List.cons.inj h
        cases before with
        | nil => rfl
        | cons b before =>
          obtain ⟨rfl, htail⟩ := List.cons.inj hrest
          rw [escapesNext_escape, ih htail]
    · rw [hcons] at h
      cases before with
      | nil =>
        obtain ⟨hc, hrest⟩ := List.cons.inj h
        exact absurd (head?_of_inertChars hrest (by decide)) (hopen hc)
      | cons b before =>
        obtain ⟨rfl, hrest⟩ := List.cons.inj h
        rw [escapesNext_cons hback, ih hrest]

/-! ## The value of a template without placeholders -/

/-- The text with a line feed for every pair of carriage return and line feed and for every other
carriage return. -/
def lineFeeds : List Char → List Char
  | [] => []
  | '\r' :: '\n' :: cs => '\n' :: lineFeeds cs
  | c :: cs => (if c = '\r' then '\n' else c) :: lineFeeds cs

theorem scanLiteral_inert (text rest : List Char) :
    scanLiteral templateRule backtick (inertChars text ++ backtick :: rest) =
      some (textUnits (lineFeeds text), rest) := by
  fun_induction lineFeeds text with
  | case1 => exact scanLiteral_delimiter _ _ rest
  | case2 text ih =>
    have hrule : templateRule '\r' ('\n' :: (inertChars text ++ backtick :: rest)) =
        some (codeUnits '\n'.toNat, 1) := rfl
    exact scanLiteral_plain (by decide) (by decide) hrule ih
  | case3 c text hpair ih =>
    rcases inertChars_cons_cases c text with ⟨hcons, hreturn, hvalue⟩ | ⟨hcons, hback, htick, hopen⟩
    · rw [hcons, if_neg hreturn]
      exact scanLiteral_escape (by decide) (hvalue _) ih
    · rw [hcons]
      -- The next character is the same in the text as behind the escapes, as far as the rule looks
      -- at it.
      have hnext : ∀ d, d ≠ '\\' → d ≠ backtick →
          (inertChars text ++ backtick :: rest).head? = some d → text.head? = some d := by
        intro d hd hdelimiter hhead
        cases hbody : inertChars text with
        | nil =>
          rw [hbody] at hhead
          exact absurd (Option.some.inj hhead).symm hdelimiter
        | cons e body =>
          rw [hbody] at hhead
          cases hhead
          exact head?_of_inertChars hbody hd
      have hrule : templateRule c (inertChars text ++ backtick :: rest) =
          some (codeUnits (if c = '\r' then '\n' else c).toNat, 0) := by
        unfold templateRule
        rw [if_neg]
        · split_ifs with hreturn hfeed
          · obtain ⟨tail, rfl⟩ :=
              List.head?_eq_some_iff.mp (hnext '\n' (by decide) (by decide) hfeed)
            exact absurd rfl (hpair tail hreturn)
          · rfl
          · rfl
        · rintro ⟨hc, hhead⟩
          exact hopen hc (hnext _ (by decide) (by decide) hhead)
      exact scanLiteral_plain htick hback hrule ih

theorem toList_print_template (s : String) :
    (Expr.template s).print.toList = backtick :: (s.toList.flatMap templateChar ++ [backtick]) := by
  simp [Expr.print, backticked, escapeTemplate]

theorem toList_print_templateText (s : String) :
    (Expr.templateText s).print.toList = backtick :: (inertChars s.toList ++ [backtick]) := by
  simp [Expr.print, backticked, escapeTemplateText]

/-- Both kinds of templates hold the text after the replacements and are delimited by their first
and last character. A template without placeholders contains none, and its value is its text with
line feeds for carriage returns. -/
theorem templates_delimited_and_inert (s : String) :
    ((Expr.template s).print = backticked (replace (replace s "\\" "\\\\") "`" "\\`") ∧
      Delimited (Expr.template s).print.toList) ∧
    (Expr.templateText s).print =
      backticked (replace (replace (replace s "\\" "\\\\") "`" "\\`") "$\x7b" "\\$\x7b") ∧
    Delimited (Expr.templateText s).print.toList ∧
    (∀ before after, (Expr.templateText s).print.toList = before ++ '$' :: '\x7b' :: after →
      Odd (backslashesAtEnd before)) ∧
    ∀ rest, literalText? templateRule backtick ((Expr.templateText s).print.toList ++ rest) =
      some (String.ofList (lineFeeds s.toList), rest) := by
  rw [toList_print_template, toList_print_templateText]
  refine ⟨⟨?_, (templateBody_template s.toList).delimited⟩, ?_,
    (templateBody_inert s.toList).delimited, ?_, ?_⟩
  · rw [Expr.print, escapeTemplate_eq_replace]
  · rw [Expr.print, escapeTemplateText_eq_replace]
  · intro before after h
    have hbefore : before ≠ [] := by
      rintro rfl
      exact absurd (List.cons.inj h).1 (by decide)
    obtain ⟨front, back, rfl, hback, hbody⟩ := exists_place_in_body h hbefore (List.cons_ne_nil _ _)
    rw [← escapesNext_eq_true_iff, escapesNext_cons (by decide)]
    cases back with
    | nil => exact absurd (List.cons.inj hback).1 (by decide)
    | cons e back =>
      obtain ⟨rfl, -⟩ := List.cons.inj hback
      exact escapesNext_of_placeholder hbody
  · intro rest
    have hscan := literalText?_of_scanLiteral (scanLiteral_inert s.toList rest)
    simpa using hscan

example : (Expr.templateText "$$\x7b\\`\r\n").print = "`$\\$\x7b\\\\\\`\r\n`" ∧
    lineFeeds "$$\x7b\\`\r\n".toList = "$$\x7b\\`\n".toList := by
  decide +kernel

end ExecUml.Script
