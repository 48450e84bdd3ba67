import ExecUml.Decimal.Shortest
import ExecUml.Text.Quoted

/-!
# Values of a document

The values a JSON document can hold where no particular shape is expected, and their compact text.
The members of an object are kept in the order of their keys, each key once.
-/

set_option autoImplicit false

namespace ExecUml.Document

/-- A number: an integer of at most 64 bits, or a decimal. -/
inductive Numeral where
  | integer (n : Int)
  | decimal (d : Decimal)
deriving DecidableEq

def Numeral.text : Numeral → String
  | integer n => if n < 0 then "-" ++ n.natAbs.repr else n.natAbs.repr
  | decimal d => d.text

inductive Scalar where
  | null
  | flag (b : Bool)
  | number (n : Numeral)
  | text (s : String)
deriving DecidableEq

inductive Value where
  | scalar (s : Scalar)
  | list (items : List Value)
  | object (members : List (String × Value))

def flagText (b : Bool) : String := if b then "true" else "false"

/-- Puts a member at its place in key order; an earlier member of the same key is replaced. -/
def putMember {α : Type} (key : String) (v : α) : List (String × α) → List (String × α)
  | [] => [(key, v)]
  | (k, w) :: rest =>
    if key < k then (key, v) :: (k, w) :: rest
    else if key = k then (key, v) :: rest
    else (k, w) :: putMember key v rest

/-- Two lowercase hexadecimal digits. -/
def hexPair (n : Nat) : List Char :=
  let digits := Nat.toDigits 16 n
  List.replicate (2 - digits.length) '0' ++ digits

/-- A character inside a JSON string: only quotes, backslashes and controls are escaped. -/
def jsonChar (c : Char) : List Char :=
  if c = '"' then ['\\', '"']
  else if c = '\\' then ['\\', '\\']
  else if c = '\x08' then ['\\', 'b']
  else if c = '\x0c' then ['\\', 'f']
  else if c = '\n' then ['\\', 'n']
  else if c = '\r' then ['\\', 'r']
  else if c = '\t' then ['\\', 't']
  else if c.toNat < 0x20 then "\\u00".toList ++ hexPair c.toNat
  else [c]

def jsonText (s : String) : String :=
  String.ofList ('"' :: s.toList.flatMap jsonChar ++ ['"'])

def Scalar.compact : Scalar → String
  | null => "null"
  | flag b => flagText b
  | number n => n.text
  | text s => jsonText s

mutual

/-- The text of a value without blanks. -/
def Value.compact : Value → String
  | .scalar s => s.compact
  | .list items => "[" ++ String.intercalate "," (compactItems items) ++ "]"
  | .object members => "\x7b" ++ String.intercalate "," (compactMembers members) ++ "\x7d"

def compactItems : List Value → List String
  | [] => []
  | v :: vs => v.compact :: compactItems vs

def compactMembers : List (String × Value) → List String
  | [] => []
  | (key, v) :: rest => (jsonText key ++ ":" ++ v.compact) :: compactMembers rest

end

end ExecUml.Document
