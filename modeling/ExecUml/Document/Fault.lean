import ExecUml.Document.Value

/-!
# Faults of a document

A fault is a cause together with the text that was left when it was met. Its place in the document
is counted in bytes: a line starts after a line feed, and the column is the number of bytes of the
line up to and including the last one read.
-/

set_option autoImplicit false

namespace ExecUml.Document

/-- What stands where another kind of value is expected. -/
inductive Found where
  | scalar (s : Scalar)
  | list
  | object

def Found.describe : Found → String
  | scalar .null => "null"
  | scalar (.flag b) => "boolean `" ++ flagText b ++ "`"
  | scalar (.number (.integer n)) => "integer `" ++ (Numeral.integer n).text ++ "`"
  | scalar (.number (.decimal d)) => "floating point `" ++ d.text ++ "`"
  | scalar (.text s) => "string " ++ Text.quoted s
  | list => "sequence"
  | object => "map"

inductive Cause where
  | endInValue
  | endInList
  | endInObject
  | endInText
  | expectedColon
  | expectedListComma
  | expectedObjectComma
  | expectedWord
  | expectedValue
  | keyNotText
  | trailingComma
  | trailingText
  | invalidNumber
  | numberOutOfRange
  | invalidEscape
  | controlCharacter
  | loneSurrogate
  | unfinishedPair
  | nestedTooDeep
  | wrongKind (found : Found) (expected : String)
  | notText (found : Value)
  | repeatedField (key : String)

def Cause.message : Cause → String
  | endInValue => "EOF while parsing a value"
  | endInList => "EOF while parsing a list"
  | endInObject => "EOF while parsing an object"
  | endInText => "EOF while parsing a string"
  | expectedColon => "expected `:`"
  | expectedListComma => "expected `,` or `]`"
  | expectedObjectComma => "expected `,` or `\x7d`"
  | expectedWord => "expected ident"
  | expectedValue => "expected value"
  | keyNotText => "key must be a string"
  | trailingComma => "trailing comma"
  | trailingText => "trailing characters"
  | invalidNumber => "invalid number"
  | numberOutOfRange => "number out of range"
  | invalidEscape => "invalid escape"
  | controlCharacter => "control character (\\u0000-\\u001F) found while parsing a string"
  | loneSurrogate => "lone leading surrogate in hex escape"
  | unfinishedPair => "unexpected end of hex escape"
  | nestedTooDeep => "recursion limit exceeded"
  | wrongKind found expected => "invalid type: " ++ found.describe ++ ", expected " ++ expected
  | notText found => "expected a string, found " ++ found.compact
  | repeatedField key => "duplicate field `" ++ key ++ "`"

/-- A cause, the text left when it was met, and the number of bytes of that text which count as
read. A fault that is not settled takes its place from the record around it. -/
structure Fault where
  cause : Cause
  rest : List Char
  ahead : Nat
  settled : Bool

namespace Fault

/-- A fault right after what was read. -/
def here (cause : Cause) (rest : List Char) : Fault := ⟨cause, rest, 0, true⟩

/-- A fault at the next byte. -/
def next (cause : Cause) (rest : List Char) : Fault := ⟨cause, rest, 1, true⟩

/-- A fault whose place is still open. -/
def floating (cause : Cause) (rest : List Char) : Fault := ⟨cause, rest, 0, false⟩

/-- Settles an open fault after the characters that `close` takes off the text. -/
def settle (f : Fault) (close : List Char → List Char) : Fault :=
  if f.settled then f else here f.cause (close f.rest)

end Fault

/-- Length of a text in bytes. -/
def byteLength (cs : List Char) : Nat := cs.foldl (fun n c => n + c.utf8Size) 0

structure Position where
  line : Nat
  column : Nat
deriving DecidableEq

/-- The position `n` bytes further on, but not beyond the end of the text. -/
def Position.advance (p : Position) : (n : Nat) → List Char → Position
  | _, [] => p
  | n, c :: cs =>
    if n < c.utf8Size then ⟨p.line, p.column + n⟩
    else if c = '\n' then Position.advance ⟨p.line + 1, 0⟩ (n - 1) cs
    else Position.advance ⟨p.line, p.column + c.utf8Size⟩ (n - c.utf8Size) cs

/-- Where a fault stands in the text that was read. -/
def Fault.position (f : Fault) (text : List Char) : Position :=
  Position.advance ⟨1, 0⟩ (byteLength text - byteLength f.rest + f.ahead) text

end ExecUml.Document
