import ExecUml.Script.Literal
import ExecUml.Script.Syntax
import ExecUml.Text.Blank
import ExecUml.Text.Occurrence

/-!
# The text of scripts

Two blanks per level, quoted literals in single quotes, an empty line between declarations.
-/

set_option autoImplicit false

namespace ExecUml.Script

open Text (physicalLines)

def indentation (level : Nat) : String := String.ofList (List.replicate (2 * level) ' ')

def quote (s : String) : String := "'" ++ escapeString s ++ "'"

theorem toList_quote (s : String) :
    (quote s).toList = '\'' :: (s.toList.flatMap escapedChar ++ ['\'']) := by
  simp [quote, escapeString]

/-- Text between the delimiters of a template. -/
def backticked (s : String) : String :=
  String.singleton backtick ++ s ++ String.singleton backtick

def TypeExpr.print : TypeExpr → String
  | named name => name
  | union [] => "string"
  | union texts => String.intercalate " | " (texts.map quote)

mutual

def Expr.print : Expr → String
  | .string text => quote text
  | .verbatim text => text
  | .identifier name => name
  | .member name => "this." ++ name
  | .template text => backticked (escapeTemplate text)
  | .templateText text => backticked (escapeTemplateText text)
  | .concat parts => String.intercalate " + " (printExprs parts)
  | .call callee arguments =>
    callee ++ "(" ++ String.intercalate ", " (printExprs arguments) ++ ")"
  | .strictEq left right => left.print ++ " === " ++ right.print

def printExprs : List Expr → List String
  | [] => []
  | e :: es => e.print :: printExprs es

end

/-- A comment line for every physical line of the text. -/
def lineComment (level : Nat) (text : String) : String :=
  String.join ((physicalLines text).map fun line => indentation level ++ "// " ++ line ++ "\n")

/-- The text without the line feeds at its end. -/
def dropFinalLineFeeds (s : String) : String :=
  String.ofList (s.toList.reverse.dropWhile (· == '\n')).reverse

mutual

def Stmt.print (level : Nat) : Stmt → String
  | .cond test body =>
    indentation level ++ "if (" ++ test.print ++ ") \x7b\n" ++ printStmts (level + 1) body
      ++ indentation level ++ "\x7d\n"
  | .assign target value => indentation level ++ target.print ++ " = " ++ value.print ++ ";\n"
  | .expression value => indentation level ++ value.print ++ ";\n"
  | .ret value => indentation level ++ "return " ++ value.print ++ ";\n"
  | .comment text => lineComment level text
  | .disabled inner => lineComment level (dropFinalLineFeeds (inner.print 0))

def printStmts (level : Nat) : List Stmt → String
  | [] => ""
  | s :: ss => s.print level ++ printStmts level ss

end

/-- A line inside a block comment, which it cannot close. -/
def commentBodyLine (level : Nat) (line : String) : String :=
  indentation level
    ++ (if line.isEmpty then " *\n" else " * " ++ Text.replace line "*/" "*\\/" ++ "\n")

def blockComment (level : Nat) (lines : List String) : String :=
  indentation level ++ "/**\n"
    ++ String.join ((lines.flatMap physicalLines).map (commentBodyLine level))
    ++ indentation level ++ " */\n"

def optionalMark (optional : Bool) : String := if optional then "?" else ""

/-- A clause that is written only if it names something. -/
def clause (word : String) : Option String → String
  | none => ""
  | some name => " " ++ word ++ " " ++ name

def Param.print (p : Param) : String := p.name ++ ": " ++ p.type.print

def printParams (params : List Param) : String :=
  String.intercalate ", " (params.map Param.print)

def Signature.print (p : Signature) : String :=
  "  " ++ p.name ++ optionalMark p.optional ++ ": " ++ p.type.print ++ ";\n"

def Interface.print (i : Interface) : String :=
  "export interface " ++ i.name ++ clause "extends" i.parent ++ " \x7b\n"
    ++ String.join (i.properties.map Signature.print) ++ "\x7d\n"

def Property.print (p : Property) : String :=
  "  public " ++ p.name ++ optionalMark p.optional ++ ": " ++ p.type.print
    ++ (match p.initial with
      | none => ""
      | some e => " = " ++ e.print)
    ++ ";\n"

def Constructor.print (c : Constructor) : String :=
  "  constructor(" ++ printParams c.params ++ ") \x7b\n" ++ printStmts 2 c.body ++ "  \x7d\n"

def Method.print (m : Method) : String :=
  "  public " ++ m.name ++ "(" ++ printParams m.params ++ "): " ++ m.returns.print ++ " \x7b\n"
    ++ printStmts 2 m.body ++ "  \x7d\n"

/-- The methods of a state machine under their comment. -/
def printMethods : Option (List Method) → String
  | none => ""
  | some methods =>
    "\n  // State Machine Methods\n" ++ String.intercalate "\n" (methods.map Method.print)

def Class.print (c : Class) : String :=
  (if c.doc.isEmpty then "" else blockComment 0 c.doc)
    ++ "export " ++ (if c.isAbstract then "abstract " else "") ++ "class " ++ c.name
    ++ clause "extends" c.parent
    ++ (if c.interfaces.isEmpty then "" else " implements " ++ String.intercalate ", " c.interfaces)
    ++ " \x7b\n" ++ String.join (c.properties.map Property.print)
    ++ (if c.properties.isEmpty then "" else "\n")
    ++ c.constructor.print ++ printMethods c.methods ++ "\x7d\n"

/-- Names in braces and the module they come from. -/
def namesFrom (names : List String) (source : String) : String :=
  "\x7b " ++ String.intercalate ", " names ++ " \x7d from '" ++ source ++ "';\n"

def Import.print (i : Import) : String := "import " ++ namesFrom i.names i.source

def Item.print : Item → String
  | interface decl => decl.print
  | classDecl decl => decl.print
  | reexport names source => "export " ++ namesFrom names source
  | reexportAll source => "export * from '" ++ source ++ "';\n"

/-- The items after what is written already; `afterExport` says that this ends in an export. Only
exports follow each other without an empty line. -/
def printItems (started afterExport : Bool) : List Item → String
  | [] => ""
  | item :: items =>
    (if started && !(item.isExport && afterExport) then "\n" else "")
      ++ item.print ++ printItems true item.isExport items

def Module.print (m : Module) : String :=
  let head := if m.header.isEmpty then "" else blockComment 0 m.header
  let imports := String.join (m.imports.map Import.print)
  let gap := if m.header.isEmpty || m.imports.isEmpty then "" else "\n"
  head ++ gap ++ imports ++ printItems (!m.header.isEmpty || !m.imports.isEmpty) false m.items

end ExecUml.Script
