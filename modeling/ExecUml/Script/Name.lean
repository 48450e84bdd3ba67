import ExecUml.Text.Blank
import ExecUml.Text.Case

/-!
# Names in scripts

How the names and type tags of a model are spelled in a script. Every text has a spelling.
-/

set_option autoImplicit false

namespace ExecUml.Script

open Text

/-- The characters that separate the words of a name. -/
def isSeparator (c : Char) : Bool := isBlank c || c = '_' || c = '-'

/-- A word with its first letter in upper case and the others in lower case. -/
def capitalized : List Char → List Char
  | [] => []
  | c :: cs => upper c ++ lowerChars cs

def pascalChars (cs : List Char) : List Char := (splitWhere isSeparator cs).flatMap capitalized

/-- The words of a name run together, each of them capitalized. -/
def pascalCase (name : String) : String := String.ofList (pascalChars name.toList)

def uncapitalized : List Char → List Char
  | [] => []
  | c :: cs => lower c ++ cs

def camelChars (cs : List Char) : List Char := uncapitalized (pascalChars cs)

/-- As `pascalCase`, but starting in lower case. -/
def camelCase (name : String) : String := String.ofList (camelChars name.toList)

def interfaceName (className : String) : String := "I" ++ pascalCase className

/-- Lowers a name and puts a hyphen where an ASCII capital follows an ASCII small letter; `before`
is the character in front. -/
def hyphenated (before : Option Char) : List Char → List Char
  | [] => []
  | c :: cs =>
    (if isAsciiUpper c && before.any isAsciiLower then ['-'] else [])
      ++ lower c ++ hyphenated (some c) cs

/-- The stem of the file that declares a type. -/
def fileStem (name : String) : String :=
  if name.isEmpty then "unknown" else String.ofList (hyphenated none name.toList)

def fileExtension : String := ".ts"

def fileName (name : String) : String := fileStem name ++ fileExtension

/-- The words that cannot be used as plain identifiers. -/
def reservedWords : List String :=
  ["abstract", "any", "as", "asserts", "boolean", "break", "case", "catch", "class", "const",
   "continue", "debugger", "declare", "default", "delete", "do", "else", "enum", "export",
   "extends", "false", "finally", "for", "from", "function", "get", "if", "implements", "import",
   "in", "instanceof", "interface", "is", "keyof", "let", "module", "namespace", "never", "new",
   "null", "number", "object", "package", "private", "protected", "public", "readonly", "require",
   "return", "set", "static", "string", "super", "switch", "symbol", "this", "throw", "true",
   "try", "type", "typeof", "undefined", "unique", "unknown", "var", "void", "while", "with",
   "yield"]

/-- Whether a name is a reserved word in any case. -/
def isReserved (name : String) : Bool := reservedWords.contains (lowercase name)

/-- Puts a low line after a reserved word. -/
def escapeReserved (name : String) : String := if isReserved name then name ++ "_" else name

/-- The spelling of a parameter or variable. -/
def parameterName (name : String) : String := escapeReserved (camelCase name)

/-- The script type of a data type tag. -/
def typeName : Option String → String
  | none => "any"
  | some tag =>
    let tag := lowercase tag
    if ["boolean", "bool"].contains tag then "boolean"
    else if ["string", "id", "uuid", "state"].contains tag then "string"
    else if ["integer", "int", "real", "float", "double"].contains tag then "number"
    else if ["date", "timestamp", "datetime"].contains tag then "Date"
    else "any"

/-- The lines of a description, trimmed; a blank description has none. -/
def docLines? : Option String → Option (List String)
  | none => none
  | some text => if allBlank text then none else some ((descriptionLines text).map trim)

end ExecUml.Script
