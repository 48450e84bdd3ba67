import ExecUml.Text.CharClass

/-!
# Blanks and lines

Blank characters are the Unicode `White_Space` characters. Two notions of line are in use: the
lines of a description, which end at a line feed, and the physical lines of a script, which end
at any of the four line terminators of the script language.
-/

set_option autoImplicit false

namespace ExecUml.Text

/-- The `White_Space` characters. -/
def blanks : CharClass :=
  [(0x9, 0xD), (0x20, 0x20), (0x85, 0x85), (0xA0, 0xA0), (0x1680, 0x1680), (0x2000, 0x200A),
   (0x2028, 0x2029), (0x202F, 0x202F), (0x205F, 0x205F), (0x3000, 0x3000)]

def isBlank (c : Char) : Bool := blanks.has c

/-- A text with nothing but blanks in it. -/
def allBlank (s : String) : Bool := s.toList.all isBlank

/-- Removes the blanks at both ends. -/
def trimChars (cs : List Char) : List Char :=
  ((cs.dropWhile isBlank).reverse.dropWhile isBlank).reverse

def trim (s : String) : String := String.ofList (trimChars s.toList)

/-- Cuts a text at every character that satisfies `p`; the cut characters are dropped. -/
def splitWhere (p : Char → Bool) : List Char → List (List Char)
  | [] => [[]]
  | c :: cs =>
    if p c then [] :: splitWhere p cs
    else match splitWhere p cs with
      | [] => [[c]]
      | w :: ws => (c :: w) :: ws

theorem splitWhere_ne_nil (p : Char → Bool) (cs : List Char) : splitWhere p cs ≠ [] := by
  cases cs with
  | nil => simp [splitWhere]
  | cons c cs =>
    rw [splitWhere]
    split
    · simp
    · split <;> simp

section Split

variable {p : Char → Bool} {c : Char}

theorem splitWhere_cons_of_pos (h : p c = true) (cs : List Char) :
    splitWhere p (c :: cs) = [] :: splitWhere p cs := by
  rw [splitWhere, if_pos h]

theorem splitWhere_cons_of_neg (h : p c = false) (cs : List Char) :
    splitWhere p (c :: cs) = (splitWhere p cs).modifyHead (c :: ·) := by
  rw [splitWhere, if_neg (by simp [h])]
  split
  · rename_i hnil
    exact absurd hnil (splitWhere_ne_nil p cs)
  · rename_i w ws hcons
    rw [hcons]
    rfl

/-- A text is cut in two at a separator. -/
theorem splitWhere_append_cons (h : p c = true) (as bs : List Char) :
    splitWhere p (as ++ c :: bs) = splitWhere p as ++ splitWhere p bs := by
  induction as with
  | nil => exact splitWhere_cons_of_pos h bs
  | cons a as ih =>
    rw [List.cons_append]
    cases ha : p a with
    | true => rw [splitWhere_cons_of_pos ha, splitWhere_cons_of_pos ha, ih, List.cons_append]
    | false =>
      rw [splitWhere_cons_of_neg ha, splitWhere_cons_of_neg ha, ih]
      cases has : splitWhere p as with
      | nil => exact absurd has (splitWhere_ne_nil p as)
      | cons w ws => rfl

/-- Text without separators in front belongs to the first piece. -/
theorem splitWhere_append_left {as : List Char} (h : ∀ a ∈ as, p a = false) (bs : List Char) :
    splitWhere p (as ++ bs) = (splitWhere p bs).modifyHead (as ++ ·) := by
  induction as with
  | nil =>
    rw [List.nil_append]
    cases splitWhere p bs <;> rfl
  | cons a as ih =>
    rw [List.cons_append, splitWhere_cons_of_neg (h a List.mem_cons_self),
      ih fun x hx => h x (List.mem_cons_of_mem a hx)]
    cases splitWhere p bs <;> rfl

/-- Text without separators at the end belongs to the last piece. -/
theorem splitWhere_append_right (as : List Char) {bs : List Char} (h : ∀ b ∈ bs, p b = false) :
    ∃ before last, splitWhere p as = before ++ [last] ∧
      splitWhere p (as ++ bs) = before ++ [last ++ bs] := by
  induction as with
  | nil =>
    refine ⟨[], [], rfl, ?_⟩
    have hbs := splitWhere_append_left h []
    simpa [splitWhere] using hbs
  | cons a as ih =>
    obtain ⟨before, last, has, happ⟩ := ih
    rw [List.cons_append]
    cases ha : p a with
    | true =>
      refine ⟨[] :: before, last, ?_, ?_⟩
      · rw [splitWhere_cons_of_pos ha, has, List.cons_append]
      · rw [splitWhere_cons_of_pos ha, happ, List.cons_append]
    | false =>
      rw [splitWhere_cons_of_neg ha, splitWhere_cons_of_neg ha, has, happ]
      cases before with
      | nil => exact ⟨[], a :: last, rfl, rfl⟩
      | cons w ws => exact ⟨(a :: w) :: ws, last, rfl, rfl⟩

theorem flatten_splitWhere (cs : List Char) : (splitWhere p cs).flatten = cs.filter (!p ·) := by
  induction cs with
  | nil => rfl
  | cons c cs ih =>
    cases hc : p c with
    | true => rw [splitWhere_cons_of_pos hc, List.filter_cons_of_neg (by simp [hc]), ← ih]; rfl
    | false =>
      rw [splitWhere_cons_of_neg hc, List.filter_cons_of_pos (by simp [hc]), ← ih]
      cases hcs : splitWhere p cs with
      | nil => exact absurd hcs (splitWhere_ne_nil p cs)
      | cons w ws => rfl

theorem not_separator_of_mem_splitWhere {cs w : List Char} (hw : w ∈ splitWhere p cs) (hc : c ∈ w) :
    p c = false := by
  have hmem : c ∈ (splitWhere p cs).flatten := List.mem_flatten.mpr ⟨w, hw, hc⟩
  rw [flatten_splitWhere] at hmem
  simpa using (List.mem_filter.mp hmem).2

/-- Removing other characters than separators keeps the cuts. -/
theorem splitWhere_filter {q : Char → Bool} (h : ∀ c, p c = true → q c = true) (cs : List Char) :
    splitWhere p (cs.filter q) = (splitWhere p cs).map (·.filter q) := by
  induction cs with
  | nil => rfl
  | cons c cs ih =>
    cases hc : p c with
    | true =>
      rw [List.filter_cons_of_pos (h c hc), splitWhere_cons_of_pos hc, splitWhere_cons_of_pos hc,
        ih]
      rfl
    | false =>
      rw [splitWhere_cons_of_neg hc]
      cases hcs : splitWhere p cs with
      | nil => exact absurd hcs (splitWhere_ne_nil p cs)
      | cons w ws =>
        rw [hcs] at ih
        cases hq : q c with
        | true => simp [List.filter_cons_of_pos hq, splitWhere_cons_of_neg hc, ih]
        | false => simp [List.filter_cons_of_neg (p := q) (a := c) (by simp [hq]), ih]

/-- The pieces and the separator between them give the text back. -/
theorem intercalate_splitWhere (c : Char) (cs : List Char) :
    [c].intercalate (splitWhere (· == c) cs) = cs := by
  induction cs with
  | nil => rfl
  | cons a cs ih =>
    cases hcs : splitWhere (· == c) cs with
    | nil => exact absurd hcs (splitWhere_ne_nil _ cs)
    | cons w ws =>
      rw [hcs] at ih
      by_cases ha : a = c
      · rw [splitWhere_cons_of_pos (by simpa using ha), hcs, List.intercalate_cons_cons, ih, ha]
        rfl
      · rw [splitWhere_cons_of_neg (by simpa using ha), hcs, List.modifyHead_cons]
        cases ws with
        | nil => simpa using ih
        | cons v vs =>
          rw [List.intercalate_cons_cons] at ih ⊢
          rw [List.cons_append, List.cons_append, ih]

end Split

/-- Line feed, carriage return, line separator and paragraph separator. -/
def isLineEnd (c : Char) : Bool :=
  c == '\n' || c == '\r' || c == '\u2028' || c == '\u2029'

/-- The lines of a script text: every line terminator ends one. -/
def physicalLines (s : String) : List String :=
  (splitWhere isLineEnd s.toList).map String.ofList

/-- Drops one carriage return at the end of a line. -/
def dropReturn (line : List Char) : List Char :=
  match line.reverse with
  | '\r' :: before => before.reverse
  | _ => line

/-- The lines of a description end at a line feed, before which one carriage return is dropped.
A text that ends in a line feed has no empty line after it, and the empty text has no line. -/
def descriptionLines (s : String) : List String :=
  let pieces := splitWhere (· == '\n') s.toList
  let complete := pieces.dropLast.map dropReturn
  let last := match pieces.getLast? with
    | none | some [] => []
    | some line => [line]
  (complete ++ last).map String.ofList

end ExecUml.Text
