import ExecUml.Document.Leaf
import ExecUml.Script.Literal
import Mathlib.Data.List.Chain

/-!
# Lexical rules of scripts

What a reader of the script language makes of comments and literals, said without regard to how they
are written here. Between the parts of a script it skips white space and comments. A literal has a
value, which is a sequence of code units, and ends at the first delimiter that no escape takes.

The rules are those of strict code, which every module is. A template with a substitution has no
value here.
-/

set_option autoImplicit false

namespace ExecUml.Script

open Document (hexDigit?)
open Text (CharClass isAsciiDigit)

/-! ## White space and comments -/

def lineTerminators : List Char := ['\n', '\r', '\u2028', '\u2029']

def OnOneLine (text : List Char) : Prop := ∀ c ∈ text, c ∉ lineTerminators

instance : DecidablePred OnOneLine :=
  fun text => List.decidableBAll (fun c => c ∉ lineTerminators) text

theorem OnOneLine.append {u v : List Char} (hu : OnOneLine u) (hv : OnOneLine v) :
    OnOneLine (u ++ v) :=
  List.forall_mem_append.mpr ⟨hu, hv⟩

theorem onOneLine_blanks (n : Nat) : OnOneLine (List.replicate n ' ') := by
  intro c hc
  rw [List.eq_of_mem_replicate hc]
  decide

/-- White space other than line terminators. -/
def whiteSpace : CharClass :=
  [(0x9, 0x9), (0xB, 0xC), (0x20, 0x20), (0xA0, 0xA0), (0x1680, 0x1680), (0x2000, 0x200A),
   (0x202F, 0x202F), (0x205F, 0x205F), (0x3000, 0x3000), (0xFEFF, 0xFEFF)]

def isFiller (c : Char) : Bool := whiteSpace.has c || lineTerminators.contains c

def afterBlockEnd? : List Char → Option (List Char)
  | [] => none
  | '*' :: '/' :: cs => some cs
  | _ :: cs => afterBlockEnd? cs

theorem length_of_afterBlockEnd? {cs rest : List Char} (h : afterBlockEnd? cs = some rest) :
    rest.length < cs.length := by
  fun_induction afterBlockEnd? cs with
  | case1 => cases h
  | case2 cs =>
    cases h
    simp only [List.length_cons]
    omega
  | case3 c cs _ ih =>
    have := ih h
    simp only [List.length_cons]
    omega

/-- The text behind white space and comments. A block comment that does not end is left. -/
def skipTrivia : List Char → List Char
  | [] => []
  | '/' :: '/' :: cs => skipTrivia (cs.dropWhile fun c => !lineTerminators.contains c)
  | '/' :: '*' :: cs =>
    match _h : afterBlockEnd? cs with
    | none => '/' :: '*' :: cs
    | some rest => skipTrivia rest
  | c :: cs => if isFiller c then skipTrivia cs else c :: cs
termination_by cs => cs.length
decreasing_by
  · exact Nat.lt_succ_of_le (Nat.le_succ_of_le (Document.dropWhile_length_le _ _))
  · exact Nat.lt_succ_of_lt (Nat.lt_succ_of_lt (length_of_afterBlockEnd? _h))
  · exact Nat.lt_succ_self _

theorem skipTrivia_filler {c : Char} (h : isFiller c = true) (cs : List Char) :
    skipTrivia (c :: cs) = skipTrivia cs := by
  have hslash : c ≠ '/' := by
    rintro rfl
    exact absurd h (by decide)
  rw [skipTrivia, if_pos h]
  · intro _ hc _
    exact hslash hc
  · intro _ hc _
    exact hslash hc

theorem skipTrivia_blanks (n : Nat) (cs : List Char) :
    skipTrivia (List.replicate n ' ' ++ cs) = skipTrivia cs := by
  induction n with
  | zero => rfl
  | succ n ih => rw [List.replicate_succ, List.cons_append, skipTrivia_filler (by decide), ih]

/-- A line comment ends at the first line terminator. -/
theorem skipTrivia_line {text : List Char} (h : OnOneLine text) (rest : List Char) :
    skipTrivia ('/' :: '/' :: (text ++ '\n' :: rest)) = skipTrivia rest := by
  have hdrop :
      (text ++ '\n' :: rest).dropWhile (fun c => !lineTerminators.contains c) = '\n' :: rest := by
    rw [List.dropWhile_append_of_pos (by simpa [OnOneLine] using h)]
    rfl
  rw [skipTrivia, hdrop, skipTrivia_filler (by decide)]

/-- Nowhere does a slash follow a star. -/
def NeverCloses (text : List Char) : Prop := text.IsChain fun a b => ¬(a = '*' ∧ b = '/')

theorem afterBlockEnd?_of_neverCloses {body : List Char} (h : NeverCloses body) (rest : List Char) :
    afterBlockEnd? (body ++ '*' :: '/' :: rest) = some rest := by
  induction body with
  | nil => rfl
  | cons c body ih =>
    obtain ⟨hhead, hbody⟩ := List.isChain_cons.mp h
    have hopen : ∀ tail, c = '*' → body ++ '*' :: '/' :: rest = '/' :: tail → False := by
      intro tail hc htail
      cases body with
      | nil => simp at htail
      | cons d body =>
        have hd : d = '/' := (List.cons.inj htail).1
        exact hhead d rfl ⟨hc, hd⟩
    rw [List.cons_append, afterBlockEnd?.eq_3 _ _ hopen]
    exact ih hbody

/-- A block comment ends where a slash follows a star for the first time. -/
theorem skipTrivia_block {body : List Char} (h : NeverCloses body) (rest : List Char) :
    skipTrivia ('/' :: '*' :: (body ++ '*' :: '/' :: rest)) = skipTrivia rest := by
  rw [skipTrivia]
  split
  · rename_i hnone
    rw [afterBlockEnd?_of_neverCloses h] at hnone
    cases hnone
  · rename_i tail hsome
    rw [afterBlockEnd?_of_neverCloses h] at hsome
    cases hsome
    rfl

/-! ## Code units -/

def codeUnits (n : Nat) : List UInt16 :=
  if n < 0x10000 then [.ofNat n]
  else [.ofNat (0xD800 + (n - 0x10000) / 0x400), .ofNat (0xDC00 + (n - 0x10000) % 0x400)]

def textUnits (text : List Char) : List UInt16 := text.flatMap fun c => codeUnits c.toNat

/-- The text with these code units. A surrogate without its other half belongs to none. -/
def textOfUnits? : List UInt16 → Option (List Char)
  | [] => some []
  | u :: us =>
    if u.toNat < 0xD800 ∨ 0xDFFF < u.toNat then (textOfUnits? us).map (Char.ofNat u.toNat :: ·)
    else match us with
      | [] => none
      | v :: us =>
        if u.toNat < 0xDC00 ∧ 0xDC00 ≤ v.toNat ∧ v.toNat ≤ 0xDFFF then
          (textOfUnits? us).map
            (Char.ofNat ((u.toNat - 0xD800) * 0x400 + (v.toNat - 0xDC00) + 0x10000) :: ·)
        else none

theorem textOfUnits?_unit {u : UInt16} (h : u.toNat < 0xD800 ∨ 0xDFFF < u.toNat)
    (us : List UInt16) :
    textOfUnits? (u :: us) = (textOfUnits? us).map (Char.ofNat u.toNat :: ·) := by
  rw [textOfUnits?.eq_def]
  exact if_pos h

theorem textOfUnits?_pair {u v : UInt16} (hu : 0xD800 ≤ u.toNat ∧ u.toNat < 0xDC00)
    (hv : 0xDC00 ≤ v.toNat ∧ v.toNat ≤ 0xDFFF) (us : List UInt16) :
    textOfUnits? (u :: v :: us) = (textOfUnits? us).map
      (Char.ofNat ((u.toNat - 0xD800) * 0x400 + (v.toNat - 0xDC00) + 0x10000) :: ·) := by
  rw [textOfUnits?, if_neg (by omega), if_pos ⟨hu.2, hv⟩]

theorem textOfUnits?_codeUnits (c : Char) (us : List UInt16) :
    textOfUnits? (codeUnits c.toNat ++ us) = (textOfUnits? us).map (c :: ·) := by
  have hvalid : c.toNat < 0xD800 ∨ 0xDFFF < c.toNat ∧ c.toNat < 0x110000 := c.valid
  unfold codeUnits
  split
  · rename_i hshort
    have hunit : (UInt16.ofNat c.toNat).toNat = c.toNat := UInt16.toNat_ofNat_of_lt hshort
    rw [List.singleton_append, textOfUnits?_unit (by omega), hunit, Char.ofNat_toNat]
  · -- A code point has 21 bits at most, so that its upper half is a leading surrogate.
    have hhigh : (UInt16.ofNat (0xD800 + (c.toNat - 0x10000) / 0x400)).toNat =
        0xD800 + (c.toNat - 0x10000) / 0x400 :=
      UInt16.toNat_ofNat_of_lt (Nat.lt_of_lt_of_le (by omega) (by decide : 0xDC00 ≤ UInt16.size))
    have hlow : (UInt16.ofNat (0xDC00 + (c.toNat - 0x10000) % 0x400)).toNat =
        0xDC00 + (c.toNat - 0x10000) % 0x400 :=
      UInt16.toNat_ofNat_of_lt (Nat.lt_of_lt_of_le (by omega) (by decide : 0xE000 ≤ UInt16.size))
    have hpoint : (0xD800 + (c.toNat - 0x10000) / 0x400 - 0xD800) * 0x400 +
        (0xDC00 + (c.toNat - 0x10000) % 0x400 - 0xDC00) + 0x10000 = c.toNat := by omega
    rw [List.cons_append, List.singleton_append, textOfUnits?_pair (by omega) (by omega), hhigh,
      hlow, hpoint, Char.ofNat_toNat]

theorem textOfUnits?_textUnits (text : List Char) : textOfUnits? (textUnits text) = some text := by
  induction text with
  | nil => rfl
  | cons c text ih =>
    rw [textUnits, List.flatMap_cons, textOfUnits?_codeUnits, ← textUnits, ih, Option.map_some]

/-! ## Escapes -/

def hexValue? (digits : List Char) : Option Nat :=
  digits.foldlM (fun n c => (hexDigit? c).map (16 * n + ·)) 0

/-- A letter and `count` hexadecimal digits, of which the letter is taken already. -/
def hexEscape? (count : Nat) (cs : List Char) : Option (List UInt16 × Nat) :=
  if count ≤ cs.length then
    (hexValue? (cs.take count)).map fun n => (codeUnits n, 1 + count)
  else none

/-- A code point in braces, of which the letter and the opening brace are taken already. -/
def pointEscape? (cs : List Char) : Option (List UInt16 × Nat) :=
  let digits := cs.takeWhile (· != '\x7d')
  if digits = [] ∨ digits.length = cs.length then none
  else (hexValue? digits).bind fun n =>
    if n ≤ 0x10FFFF then some (codeUnits n, digits.length + 3) else none

/-- The letters that stand for another character behind a backslash. -/
def escapeLetters : List (Char × Char) :=
  [('b', '\x08'), ('t', '\t'), ('n', '\n'), ('v', '\x0b'), ('f', '\x0c'), ('r', '\r')]

/-- The value of an escape, read behind its backslash, and the number of characters that it takes
there. -/
def escape? : List Char → Option (List UInt16 × Nat)
  | [] => none
  | c :: cs =>
    if c = 'x' then hexEscape? 2 cs
    else if c = 'u' then
      if cs.head? = some '\x7b' then pointEscape? cs.tail else hexEscape? 4 cs
    else if isAsciiDigit c then
      if c = '0' ∧ cs.head?.any isAsciiDigit = false then some (codeUnits 0, 1) else none
    else if c = '\r' then some ([], if cs.head? = some '\n' then 2 else 1)
    else if lineTerminators.contains c then some ([], 1)
    else some (codeUnits ((escapeLetters.lookup c).getD c).toNat, 1)

/-! ## Literals -/

/-- The value of a character that no backslash stands in front of, and the number of characters that
it takes beyond the first. -/
abbrev PlainRule := Char → List Char → Option (List UInt16 × Nat)

/-- Neither a line feed nor a carriage return may stand in quotes; the other line terminators
may. -/
def quotedRule : PlainRule := fun c _ =>
  if c = '\n' ∨ c = '\r' then none else some (codeUnits c.toNat, 0)

/-- A carriage return, alone or in front of a line feed, counts as a line feed. The start of a
substitution has no value. -/
def templateRule : PlainRule := fun c cs =>
  if c = '$' ∧ cs.head? = some '\x7b' then none
  else if c = '\r' then some (codeUnits '\n'.toNat, if cs.head? = some '\n' then 1 else 0)
  else some (codeUnits c.toNat, 0)

/-- Reads a literal up to its delimiter and gives its value and what follows it. -/
def scanLiteral (rule : PlainRule) (delimiter : Char) : List Char → Option (List UInt16 × List Char)
  | [] => none
  | c :: cs =>
    if c = delimiter then some ([], cs)
    else match (if c = '\\' then escape? cs else rule c cs) with
      | none => none
      | some (value, more) =>
        (scanLiteral rule delimiter (cs.drop more)).map fun (values, rest) =>
          (value ++ values, rest)
termination_by cs => cs.length
decreasing_by
  rw [List.length_drop]
  exact Nat.lt_succ_of_le (Nat.sub_le _ _)

section Scan

variable {rule : PlainRule} {d c : Char} {cs rest : List Char} {value values : List UInt16}

theorem scanLiteral_delimiter (rule : PlainRule) (d : Char) (rest : List Char) :
    scanLiteral rule d (d :: rest) = some ([], rest) := by
  rw [scanLiteral, if_pos rfl]

theorem scanLiteral_plain {more : Nat} (hd : c ≠ d) (hc : c ≠ '\\')
    (hrule : rule c cs = some (value, more))
    (h : scanLiteral rule d (cs.drop more) = some (values, rest)) :
    scanLiteral rule d (c :: cs) = some (value ++ values, rest) := by
  rw [scanLiteral, if_neg hd, if_neg hc, hrule]
  simp only [h, Option.map_some]

theorem scanLiteral_escape {more : Nat} (hd : '\\' ≠ d) (hescape : escape? cs = some (value, more))
    (h : scanLiteral rule d (cs.drop more) = some (values, rest)) :
    scanLiteral rule d ('\\' :: cs) = some (value ++ values, rest) := by
  rw [scanLiteral, if_neg hd, if_pos rfl, hescape]
  simp only [h, Option.map_some]

theorem length_of_scanLiteral (h : scanLiteral rule d cs = some (values, rest)) :
    rest.length < cs.length := by
  fun_induction scanLiteral rule d cs generalizing values with
  | case1 => cases h
  | case2 cs =>
    cases h
    exact Nat.lt_succ_self _
  | case3 => cases h
  | case4 c cs _ value more _ ih =>
    obtain ⟨⟨values, rest⟩, hscan, heq⟩ := Option.map_eq_some_iff.mp h
    cases heq
    have := ih hscan
    rw [List.length_drop] at this
    rw [List.length_cons]
    omega

end Scan

/-- The text of a literal at the front, and what follows the literal. -/
def literalText? (rule : PlainRule) (delimiter : Char) : List Char → Option (String × List Char)
  | [] => none
  | c :: cs =>
    if c = delimiter then
      (scanLiteral rule delimiter cs).bind fun (values, rest) =>
        (textOfUnits? values).map fun text => (String.ofList text, rest)
    else none

-- Escapes that are never written here are read as well, but a lone surrogate is no text.
example : literalText? quotedRule '\'' "'\\x41\\uD83D\\uDE00\\\n\\0\\q', b".toList =
      some ("A😀\x00q", ", b".toList) ∧
    literalText? quotedRule '\'' "'\\uD83D'".toList = none ∧
      literalText? quotedRule '\'' "'a\nb'".toList = none := by
  decide +kernel

section LiteralText

variable {rule : PlainRule} {d : Char} {cs rest : List Char}

theorem literalText?_of_scanLiteral {text : List Char}
    (h : scanLiteral rule d cs = some (textUnits text, rest)) :
    literalText? rule d (d :: cs) = some (String.ofList text, rest) := by
  rw [literalText?, if_pos rfl, h]
  simp only [Option.bind_some, textOfUnits?_textUnits, Option.map_some]

theorem length_of_literalText? {s : String} (h : literalText? rule d cs = some (s, rest)) :
    rest.length < cs.length := by
  unfold literalText? at h
  split at h
  · cases h
  · split at h
    · obtain ⟨⟨values, tail⟩, hscan, htext⟩ := Option.bind_eq_some_iff.mp h
      obtain ⟨text, -, heq⟩ := Option.map_eq_some_iff.mp htext
      cases heq
      exact Nat.lt_succ_of_lt (length_of_scanLiteral hscan)
    · cases h

end LiteralText

end ExecUml.Script
