/-!
# Terminal codes

A terminal code starts with an escape character, has opening marks and numbers, and ends in a digit
or a command letter. The longest reading counts, but a parenthesis with one of the digits 0 to 2 is
a code of its own. Codes take no space on a terminal.
-/

set_option autoImplicit false

namespace ExecUml.Text

def startsCode (c : Char) : Bool := c = '\x1b' || c = '\x9b'

def isOpeningMark (c : Char) : Bool := ['[', '(', ')', '#', ';', '?'].contains c

/-- The characters other than digits in which a code can end. -/
def endsCode (c : Char) : Bool :=
  ('A' ≤ c && c ≤ 'P') || ('f' ≤ c && c ≤ 'n')
    || ['R', 'Z', 'c', 'q', 'r', 'y', '=', '>', '<'].contains c

/-- The digits of a number in a code, at most. -/
def codeDigits : Nat := 4

/-- Where a code ends: `read` characters are behind, `best` is the end found so far, and `digits`
are those of the number at hand. Opening marks come before all numbers. -/
def codeEnd (opening : Bool) (digits read : Nat) (best : Option Nat) : List Char → Option Nat
  | [] => best
  | c :: cs =>
    if c.isDigit then
      if digits = codeDigits then some (read + 1)
      else codeEnd false (digits + 1) (read + 1) (some (read + 1)) cs
    else if endsCode c then some (read + 1)
    else if opening && isOpeningMark c then codeEnd true 0 (read + 1) best cs
    else if !opening && c = ';' then codeEnd false 0 (read + 1) best cs
    else best

/-- The length of the code that follows an escape character. -/
def codeLength? : List Char → Option Nat
  | a :: b :: cs =>
    if (a = '(' || a = ')') && '0' ≤ b && b ≤ '2' then some 2
    else codeEnd true 0 0 none (a :: b :: cs)
  | cs => codeEnd true 0 0 none cs

/-- The characters that are not part of a code. -/
def withoutCodes : List Char → List Char
  | [] => []
  | c :: cs =>
    if startsCode c then
      match codeLength? cs with
      | some n => withoutCodes (cs.drop n)
      | none => c :: withoutCodes cs
    else c :: withoutCodes cs
termination_by cs => cs.length
decreasing_by all_goals simp only [List.length_drop, List.length_cons]; omega

end ExecUml.Text
