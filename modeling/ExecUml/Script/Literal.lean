/-!
# Literals in scripts

How text is written inside a quoted literal and inside a template.
-/

set_option autoImplicit false

namespace ExecUml.Script

/-- A character inside a quoted literal. -/
def escapedChar (c : Char) : List Char :=
  if c = '\\' then ['\\', '\\']
  else if c = '"' then ['\\', '"']
  else if c = '\'' then ['\\', '\'']
  else if c = '\n' then ['\\', 'n']
  else if c = '\r' then ['\\', 'r']
  else if c = '\t' then ['\\', 't']
  else [c]

/-- The text of a quoted literal without its quotes. -/
def escapeString (s : String) : String := String.ofList (s.toList.flatMap escapedChar)

/-- The delimiter of a template. -/
def backtick : Char := '\x60'

/-- A character inside a template. -/
def templateChar (c : Char) : List Char :=
  if c = '\\' then ['\\', '\\']
  else if c = backtick then ['\\', backtick]
  else [c]

/-- The text of a template in which placeholders stay alive. -/
def escapeTemplate (s : String) : String := String.ofList (s.toList.flatMap templateChar)

/-- The characters of a template without placeholders: a dollar sign in front of a brace is
escaped. -/
def inertChars : List Char → List Char
  | [] => []
  | '$' :: '\x7b' :: cs => '\\' :: '$' :: '\x7b' :: inertChars cs
  | c :: cs => templateChar c ++ inertChars cs

theorem inertChars_cons {c : Char} {cs : List Char}
    (h : ∀ tail, c = '$' → cs = '\x7b' :: tail → False) :
    inertChars (c :: cs) = templateChar c ++ inertChars cs := by
  rw [inertChars]
  exact h

def escapeTemplateText (s : String) : String := String.ofList (inertChars s.toList)

end ExecUml.Script
