import ExecUml.Text.CaseTable

/-!
# Letter case

Full case mapping: the image of a character may have several characters. A whole text is lowered
with the one mapping that looks at its context, the sigma at the end of a word.
-/

set_option autoImplicit false

namespace ExecUml.Text

/-- The image of a code point under the first run that covers it. -/
def runImage : List (Nat × Nat × Nat × Nat) → Nat → Option Nat
  | [], _ => none
  | (first, last, step, target) :: runs, n =>
    if first ≤ n ∧ n ≤ last ∧ (n - first) % step = 0 then some (target + (n - first))
    else runImage runs n

/-- The image of a character under a table of long images and a table of runs. -/
def caseImage (long : List (Nat × List Nat)) (runs : List (Nat × Nat × Nat × Nat))
    (c : Char) : List Char :=
  match long.lookup c.toNat with
  | some image => image.map Char.ofNat
  | none => [((runImage runs c.toNat).map Char.ofNat).getD c]

def isAsciiUpper (c : Char) : Bool := 'A' ≤ c && c ≤ 'Z'

def isAsciiLower (c : Char) : Bool := 'a' ≤ c && c ≤ 'z'

def isAsciiDigit (c : Char) : Bool := '0' ≤ c && c ≤ '9'

/-- The uppercase form of a character. -/
def upper (c : Char) : List Char :=
  if c.toNat < 0x80 then [if isAsciiLower c then Char.ofNat (c.toNat - 32) else c]
  else caseImage CaseTable.upperLong CaseTable.upperRuns c

/-- The lowercase form of a character on its own. -/
def lower (c : Char) : List Char :=
  if c.toNat < 0x80 then [if isAsciiUpper c then Char.ofNat (c.toNat + 32) else c]
  else caseImage CaseTable.lowerLong CaseTable.lowerRuns c

/-- Whether the first character that is not case-ignorable is cased. -/
def startsCased (cs : List Char) : Bool :=
  match cs.dropWhile CaseTable.caseIgnorable.has with
  | [] => false
  | c :: _ => CaseTable.cased.has c

/-- Lowers a text; `before` is what stands before it, nearest character first. A capital sigma
becomes the final form where a word ends: after a cased character and not before one. -/
def lowerAfter (before : List Char) : List Char → List Char
  | [] => []
  | c :: cs =>
    (if c = 'Σ' then [if startsCased before && !startsCased cs then 'ς' else 'σ'] else lower c)
      ++ lowerAfter (c :: before) cs

def lowerChars (cs : List Char) : List Char := lowerAfter [] cs

def lowercase (s : String) : String := String.ofList (lowerChars s.toList)

end ExecUml.Text
