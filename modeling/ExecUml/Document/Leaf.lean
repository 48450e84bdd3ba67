import ExecUml.Document.Fault
import ExecUml.Text.Case

/-!
# Leaves of a document

Words, strings and numbers at the front of a text. Every reader leaves the text after what it took,
with the number of characters it took at least; recursion over a document goes by that number.
Values that are skipped are read by looser rules: their numbers have no range, their escapes need
not pair up.
-/

set_option autoImplicit false

namespace ExecUml.Document

open Text (isAsciiDigit)

/-- A value taken off the front of `s` together with at least `least` characters. -/
structure Taken (least : Nat) (α : Type) (s : List Char) where
  value : α
  rest : List Char
  used : rest.length + least ≤ s.length

namespace Taken
variable {α : Type} {k : Nat} {s t : List Char}

/-- The same step seen from a longer text. -/
def within (x : Taken k α s) (j : Nat) (h : s.length + j ≤ t.length + k) : Taken j α t :=
  ⟨x.value, x.rest, by have := x.used; omega⟩

theorem used_trans {r r' : List Char} (h : r.length + 1 ≤ s.length)
    (h' : r'.length + 1 ≤ r.length) : r'.length + 1 ≤ s.length := by
  omega

theorem used_cons {r : List Char} (c : Char) (h : r.length + 1 ≤ s.length) :
    r.length + 1 ≤ (c :: s).length :=
  Nat.le_succ_of_le h

theorem used_tail (c : Char) (s : List Char) : s.length + 0 ≤ (c :: s).length + 0 := Nat.le_succ _

end Taken

/-- Takes a value and at least one character. -/
abbrev Reader (α : Type) := (s : List Char) → Except Fault (Taken 1 α s)

/-! ## Blanks and words -/

/-- The blanks between the parts of a document. -/
def isSpace (c : Char) : Bool := c = ' ' || c = '\n' || c = '\t' || c = '\r'

theorem dropWhile_length_le (p : Char → Bool) (s : List Char) :
    (s.dropWhile p).length ≤ s.length :=
  (List.dropWhile_suffix p).length_le

def skipSpace (s : List Char) : List Char := s.dropWhile isSpace

theorem length_skipSpace_le (s : List Char) : (skipSpace s).length ≤ s.length :=
  dropWhile_length_le _ s

theorem length_of_skipSpace {s r : List Char} {c : Char} (h : skipSpace s = c :: r) :
    (c :: r).length ≤ s.length :=
  h ▸ length_skipSpace_le s

/-- Takes the letters of `word`. -/
def takeWord : (word s : List Char) → Except Fault (Taken 0 Unit s)
  | [], s => .ok ⟨(), s, Nat.le_refl _⟩
  | _ :: _, [] => .error (.here .endInValue [])
  | w :: ws, c :: cs =>
    if c = w then
      match takeWord ws cs with
      | .ok x => .ok (x.within 0 (Taken.used_tail c cs))
      | .error f => .error f
    else .error (.next .expectedWord (c :: cs))

/-! ## Strings -/

def hexDigit? (c : Char) : Option Nat :=
  if isAsciiDigit c then some (c.toNat - '0'.toNat)
  else if 'a' ≤ c && c ≤ 'f' then some (c.toNat - 'a'.toNat + 10)
  else if 'A' ≤ c && c ≤ 'F' then some (c.toNat - 'A'.toNat + 10)
  else none

/-- A hexadecimal escape takes four bytes, whatever they are, before it is judged. -/
def hexFault (s : List Char) : Fault :=
  if byteLength s < 4 then .here .endInText [] else ⟨.invalidEscape, s, 4, true⟩

/-- Four hexadecimal digits. -/
def readUnit (s : List Char) : Except Fault (Taken 4 Nat s) :=
  match s with
  | a :: b :: c :: d :: rest =>
    match hexDigit? a, hexDigit? b, hexDigit? c, hexDigit? d with
    | some x, some y, some z, some w =>
      .ok ⟨((x * 16 + y) * 16 + z) * 16 + w, rest, by simp⟩
    | _, _, _, _ => .error (hexFault (a :: b :: c :: d :: rest))
  | s => .error (hexFault s)

/-- The escape that has to follow a leading surrogate. -/
def readTrailing (lead : Nat) (s : List Char) : Except Fault (Taken 1 Char s) :=
  match s with
  | [] => .error (.here .endInText [])
  | '\\' :: [] => .error (.here .endInText [])
  | '\\' :: 'u' :: r => do
    let ⟨n, r', h⟩ ← readUnit r
    if 0xDC00 ≤ n && n ≤ 0xDFFF then
      return ⟨Char.ofNat ((lead - 0xD800) * 0x400 + (n - 0xDC00) + 0x10000), r', by
        simp only [List.length_cons]; omega⟩
    else throw (.here .loneSurrogate r')
  | '\\' :: r => .error (.next .unfinishedPair r)
  | s => .error (.next .unfinishedPair s)

/-- The character of an escape, after its backslash. -/
def readEscape (s : List Char) : Except Fault (Taken 1 Char s) :=
  match s with
  | [] => .error (.here .endInText [])
  | 'u' :: r => do
    let ⟨n, r', h⟩ ← readUnit r
    if 0xDC00 ≤ n && n ≤ 0xDFFF then throw (.here .loneSurrogate r')
    else if 0xD800 ≤ n && n ≤ 0xDBFF then
      let ⟨c, r'', h'⟩ ← readTrailing n r'
      return ⟨c, r'', by simp only [List.length_cons]; omega⟩
    else return ⟨Char.ofNat n, r', by simp only [List.length_cons]; omega⟩
  | 'b' :: r => .ok ⟨'\x08', r, by simp⟩
  | 'f' :: r => .ok ⟨'\x0c', r, by simp⟩
  | 'n' :: r => .ok ⟨'\n', r, by simp⟩
  | 'r' :: r => .ok ⟨'\r', r, by simp⟩
  | 't' :: r => .ok ⟨'\t', r, by simp⟩
  | c :: r =>
    if c = '"' || c = '\\' || c = '/' then .ok ⟨c, r, by simp⟩
    else .error (.next .invalidEscape (c :: r))

/-- The characters up to the closing quote, which is taken too. -/
def readChars (s : List Char) : Except Fault (Taken 1 (List Char) s) :=
  match s with
  | [] => .error (.here .endInText [])
  | c :: cs =>
    if c = '"' then .ok ⟨[], cs, by simp⟩
    else if c = '\\' then do
      let ⟨e, r, h⟩ ← readEscape cs
      let ⟨es, r', h'⟩ ← readChars r
      return ⟨e :: es, r', Taken.used_cons c (Taken.used_trans h h')⟩
    else if c.toNat < 0x20 then .error (.next .controlCharacter (c :: cs))
    else do
      let ⟨es, r, h⟩ ← readChars cs
      return ⟨c :: es, r, Taken.used_cons c h⟩
termination_by s.length
decreasing_by
  · exact Nat.lt_succ_of_lt h
  · exact Nat.lt_succ_self cs.length

/-- A string, from its opening quote on. -/
def readText (s : List Char) : Except Fault (Taken 1 String s) :=
  match s with
  | '"' :: cs => do
    let ⟨es, r, h⟩ ← readChars cs
    return ⟨String.ofList es, r, by simp only [List.length_cons]; omega⟩
  | s => .error (.next .expectedValue s)

/-- The escapes of a skipped string are checked one at a time. -/
def skipEscape (s : List Char) : Except Fault (Taken 1 Unit s) :=
  match s with
  | [] => .error (.here .endInText [])
  | 'u' :: r => do
    let ⟨_, r', h⟩ ← readUnit r
    return ⟨(), r', by simp only [List.length_cons]; omega⟩
  | c :: r =>
    if ['"', '\\', '/', 'b', 'f', 'n', 'r', 't'].contains c then .ok ⟨(), r, by simp⟩
    else .error (.next .invalidEscape (c :: r))

/-- Skips to behind the closing quote. -/
def skipChars (s : List Char) : Except Fault (Taken 1 Unit s) :=
  match s with
  | [] => .error (.here .endInText [])
  | c :: cs =>
    if c = '"' then .ok ⟨(), cs, by simp⟩
    else if c = '\\' then do
      let ⟨_, r, h⟩ ← skipEscape cs
      let ⟨_, r', h'⟩ ← skipChars r
      return ⟨(), r', Taken.used_cons c (Taken.used_trans h h')⟩
    else if c.toNat < 0x20 then .error (.here .controlCharacter (c :: cs))
    else do
      let ⟨_, r, h⟩ ← skipChars cs
      return ⟨(), r, Taken.used_cons c h⟩
termination_by s.length
decreasing_by
  · exact Nat.lt_succ_of_lt h
  · exact Nat.lt_succ_self cs.length

/-! ## Numbers

A number is gathered as a significand of at most 64 bits and a power of ten. Digits before the point
that no longer fit only raise the exponent, such digits after the point are
dropped. -/

def digitValue (c : Char) : Nat := c.toNat - '0'.toNat

/-- The greatest significand. -/
def significandMax : Nat := Nat.pow 2 64 - 1

/-- The greatest exponent that can be written. -/
def exponentMax : Nat := Nat.pow 2 31 - 1

/-- Appends digits to a significand while they fit, and counts those that do not. -/
def gather (n : Nat) : List Char → Nat × Nat
  | [] => (n, 0)
  | d :: ds =>
    if 10 * n + digitValue d ≤ significandMax then gather (10 * n + digitValue d) ds
    else (n, ds.length + 1)

def powerOfTen (e : Nat) : Float := Float.ofScientific 1 false e

/-- `x / 10 ^ e` in binary arithmetic, by factors of at most `10 ^ 308`. -/
def lowerBy (x : Float) (e : Nat) : Float :=
  if e ≤ 308 then x / powerOfTen e
  else if x == 0 then x
  else lowerBy (x / powerOfTen 308) (e - 308)
termination_by e
decreasing_by omega

/-- The binary number `significand * 10 ^ exponent`, if it is finite. -/
def scaled? (significand : Nat) (exponent : Int) : Option Float :=
  let x := Float.ofNat significand
  if exponent < 0 then some (lowerBy x exponent.natAbs)
  else if exponent.natAbs ≤ 308 then
    let y := x * powerOfTen exponent.natAbs
    if y.isInf then none else some y
  else if significand = 0 then some x
  else none

/-- Sign, significand and power of ten of a number that is not a plain integer. -/
structure Scaled where
  negative : Bool
  significand : Nat
  exponent : Int

/-- The decimal of a scaled number; `rest` is the text after it. -/
def Scaled.numeral (x : Scaled) (rest : List Char) : Except Fault Numeral :=
  match scaled? x.significand x.exponent with
  | some y => .ok (.decimal { Decimal.ofFloat y with negative := x.negative })
  | none => .error (.here .numberOutOfRange rest)

/-- The digits of an exponent after the part `e` of it. An exponent that is too great is refused if
it makes the number large, and makes it zero if it does not. -/
def readExponentDigits (grows : Bool) (e : Nat) (s : List Char) :
    Except Fault (Taken 0 (Option Nat) s) :=
  match s with
  | [] => .ok ⟨some e, [], Nat.le_refl _⟩
  | c :: cs =>
    if isAsciiDigit c then
      let e' := 10 * e + digitValue c
      if e' ≤ exponentMax then
        match readExponentDigits grows e' cs with
        | .ok x => .ok (x.within 0 (Taken.used_tail c cs))
        | .error f => .error f
      else if grows then .error (.here .numberOutOfRange cs)
      else .ok ⟨none, cs.dropWhile isAsciiDigit, by
        have := dropWhile_length_le isAsciiDigit cs
        simp only [List.length_cons]; omega⟩
    else .ok ⟨some e, c :: cs, Nat.le_refl _⟩

/-- The sign in front of an exponent: whether it is positive, and the text after it. -/
def exponentSign (s : List Char) : Bool × List Char :=
  match s with
  | '+' :: r => (true, r)
  | '-' :: r => (false, r)
  | r => (true, r)

theorem length_exponentSign_le (s : List Char) : (exponentSign s).2.length ≤ s.length := by
  unfold exponentSign
  split <;> simp

/-- The part of a number after the exponent mark. -/
def readExponent (x : Scaled) (s : List Char) : Except Fault (Taken 0 Numeral s) :=
  let positive := (exponentSign s).1
  have hs := length_exponentSign_le s
  match h : (exponentSign s).2 with
  | [] => .error (.here .endInValue [])
  | c :: cs =>
    if isAsciiDigit c then do
      let ⟨e?, r, hr⟩ ← readExponentDigits (positive && x.significand ≠ 0) 0 (c :: cs)
      let y : Scaled := match e? with
        | some e => { x with exponent := if positive then x.exponent + e else x.exponent - e }
        | none => { x with significand := 0, exponent := 0 }
      let n ← y.numeral r
      return ⟨n, r, by rw [h] at hs; omega⟩
    else .error (.next .invalidNumber (c :: cs))

/-- Whether the text goes on with an exponent mark. -/
def exponentMark? (s : List Char) : Option (List Char) :=
  match s with
  | 'e' :: r => some r
  | 'E' :: r => some r
  | _ => none

theorem length_of_exponentMark? {s r : List Char} (h : exponentMark? s = some r) :
    r.length < s.length := by
  unfold exponentMark? at h
  split at h <;> simp_all

/-- The part of a number after the digits in front of the point; `dropped` counts those digits that
did not fit the significand. -/
def readScale (negative : Bool) (significand dropped : Nat) (s : List Char) :
    Except Fault (Taken 0 Numeral s) :=
  match s with
  | '.' :: r =>
    let digits := r.takeWhile isAsciiDigit
    let after := r.dropWhile isAsciiDigit
    have ha : after.length ≤ r.length := dropWhile_length_le _ r
    if digits.isEmpty then
      .error (.next (if r.isEmpty then .endInValue else .invalidNumber) r)
    else
      let (n, unused) := gather significand digits
      let x : Scaled := ⟨negative, n, (dropped : Int) - (digits.length - unused : Nat)⟩
      match h : exponentMark? after with
      | some r' => do
        have hr := length_of_exponentMark? h
        let y ← readExponent x r'
        return y.within 0 (by simp only [List.length_cons]; omega)
      | none => do
        let y ← x.numeral after
        return ⟨y, after, by simp only [List.length_cons]; omega⟩
  | s =>
    match h : exponentMark? s with
    | some r => do
      have hr := length_of_exponentMark? h
      let y ← readExponent ⟨negative, significand, dropped⟩ r
      return y.within 0 (by omega)
    | none =>
      if dropped = 0 && !negative then .ok ⟨.integer significand, s, Nat.le_refl _⟩
      else if dropped = 0 && 0 < significand && significand ≤ Nat.pow 2 63 then
        .ok ⟨.integer (-significand), s, Nat.le_refl _⟩
      else do
        let y ← Scaled.numeral ⟨negative, significand, dropped⟩ s
        return ⟨y, s, Nat.le_refl _⟩

/-- A number after its sign. -/
def readUnsigned (negative : Bool) (s : List Char) : Except Fault (Taken 1 Numeral s) :=
  match s with
  | [] => .error (.here .endInValue [])
  | '0' :: r =>
    if (r.takeWhile isAsciiDigit).isEmpty then do
      let y ← readScale negative 0 0 r
      return y.within 1 (Nat.le_refl _)
    else .error (.next .invalidNumber r)
  | c :: r =>
    if isAsciiDigit c then do
      let (n, dropped) := gather 0 (c :: r.takeWhile isAsciiDigit)
      let y ← readScale negative n dropped (r.dropWhile isAsciiDigit)
      have := dropWhile_length_le isAsciiDigit r
      return y.within 1 (by simp only [List.length_cons]; omega)
    else .error (.next .invalidNumber (c :: r))

def readNumber (s : List Char) : Except Fault (Taken 1 Numeral s) :=
  match s with
  | '-' :: r => do
    let x ← readUnsigned true r
    return x.within 1 (by simp)
  | s => readUnsigned false s

/-- Takes at least one digit. -/
def skipDigits (fault : List Char → Fault) (s : List Char) : Except Fault (Taken 1 Unit s) :=
  match s with
  | [] => .error (fault [])
  | c :: r =>
    if isAsciiDigit c then
      .ok ⟨(), r.dropWhile isAsciiDigit, by
        have := dropWhile_length_le isAsciiDigit r
        simp only [List.length_cons]; omega⟩
    else .error (fault (c :: r))

/-- The exponent of a skipped number, if there is one. -/
def skipExponent (s : List Char) : Except Fault (Taken 0 Unit s) :=
  match h : exponentMark? s with
  | some r => do
    have hr := length_of_exponentMark? h
    have hs := length_exponentSign_le r
    let x ← skipDigits (.next .invalidNumber) (exponentSign r).2
    return x.within 0 (by omega)
  | none => .ok ⟨(), s, Nat.le_refl _⟩

/-- Fraction and exponent of a skipped number. -/
def skipScale (s : List Char) : Except Fault (Taken 0 Unit s) :=
  match s with
  | '.' :: r => do
    let ⟨_, r', h⟩ ← skipDigits (.next .invalidNumber) r
    let x ← skipExponent r'
    return x.within 0 (by simp only [List.length_cons]; omega)
  | s => skipExponent s

/-- A skipped number after its sign. -/
def skipUnsigned (s : List Char) : Except Fault (Taken 1 Unit s) :=
  match s with
  | '0' :: r =>
    if (r.takeWhile isAsciiDigit).isEmpty then do
      let x ← skipScale r
      return x.within 1 (Nat.le_refl _)
    else .error (.next .invalidNumber r)
  | s => do
    let ⟨_, r, h⟩ ← skipDigits (.next .invalidNumber) s
    let x ← skipScale r
    return x.within 1 (by omega)

/-! ## Scalars -/

/-- A value that is not a list or an object. The text starts with it. -/
def readScalar (s : List Char) : Except Fault (Taken 1 Scalar s) :=
  match s with
  | [] => .error (.next .endInValue [])
  | c :: r =>
    if c = 'n' then do
      let x ← takeWord ['u', 'l', 'l'] r
      return ⟨.null, x.rest, by have := x.used; simp only [List.length_cons]; omega⟩
    else if c = 't' then do
      let x ← takeWord ['r', 'u', 'e'] r
      return ⟨.flag true, x.rest, by have := x.used; simp only [List.length_cons]; omega⟩
    else if c = 'f' then do
      let x ← takeWord ['a', 'l', 's', 'e'] r
      return ⟨.flag false, x.rest, by have := x.used; simp only [List.length_cons]; omega⟩
    else if c = '-' || isAsciiDigit c then do
      let x ← readNumber (c :: r)
      return ⟨.number x.value, x.rest, x.used⟩
    else if c = '"' then do
      let x ← readText (c :: r)
      return ⟨.text x.value, x.rest, x.used⟩
    else .error (.next .expectedValue (c :: r))

/-- Skips a value that is not a list or an object. -/
def skipScalar (s : List Char) : Except Fault (Taken 1 Unit s) :=
  match s with
  | [] => .error (.next .endInValue [])
  | c :: r =>
    if c = 'n' then do
      let x ← takeWord ['u', 'l', 'l'] r
      return x.within 1 (Nat.le_refl _)
    else if c = 't' then do
      let x ← takeWord ['r', 'u', 'e'] r
      return x.within 1 (Nat.le_refl _)
    else if c = 'f' then do
      let x ← takeWord ['a', 'l', 's', 'e'] r
      return x.within 1 (Nat.le_refl _)
    else if c = '-' then do
      let x ← skipUnsigned r
      return x.within 1 (by simp)
    else if isAsciiDigit c then skipUnsigned (c :: r)
    else if c = '"' then do
      let x ← skipChars r
      return x.within 1 (by simp)
    else .error (.next .expectedValue (c :: r))

end ExecUml.Document
