import ExecUml.Document.Fault

/-!
# Errors

Why a compilation fails: the input cannot be used, the document is not a model, or the file store
refuses a read or a write.
-/

set_option autoImplicit false

namespace ExecUml

inductive ErrorKind where
  | precondition
  | validation
  | io
deriving DecidableEq

inductive CompileError where
  | inputNotFound (path : String)
  | inputNotAFile (path : String)
  | ioFailed (path : String)
  | emptyInput
  | malformed (position : Document.Position) (cause : Document.Cause)
  | nullModel
  | missingSystemName
  | missingVersion
  | noDomains
  /-- The number of the domain starts at one. -/
  | domainWithoutName (number : Nat)
  | domainWithoutKeyLetter (domain : String)
  | domainWithoutClasses (domain : String)

namespace CompileError

def kind : CompileError → ErrorKind
  | inputNotFound _ | inputNotAFile _ => .precondition
  | ioFailed _ => .io
  | _ => .validation

def message : CompileError → String
  | inputNotFound path => "Input file not found: " ++ path
  | inputNotAFile path => "Input path is not a file: " ++ path
  | ioFailed path => "I/O error on '" ++ path ++ "'"
  | emptyInput => "JSON content must not be empty"
  | malformed p cause =>
    "Malformed model JSON at line " ++ p.line.repr ++ ", column " ++ p.column.repr ++ ": "
      ++ cause.message ++ " at line " ++ p.line.repr ++ " column " ++ p.column.repr
  | nullModel => "Model must not be null"
  | missingSystemName => "System name must not be empty"
  | missingVersion => "Version must not be empty"
  | noDomains => "Model must have at least one domain"
  | domainWithoutName number => "Domain #" ++ number.repr ++ " has no name"
  | domainWithoutKeyLetter domain => "Domain '" ++ domain ++ "' has no key letter"
  | domainWithoutClasses domain => "Domain '" ++ domain ++ "' must have at least one class"

/-- The code under which an error is reported. -/
def code : CompileError → String
  | inputNotFound _ => "xtuml::input::not_found"
  | inputNotAFile _ => "xtuml::input::not_a_file"
  | ioFailed _ => "xtuml::io::failed"
  | emptyInput => "xtuml::parse::empty_input"
  | malformed _ _ => "xtuml::parse::invalid_json"
  | nullModel => "xtuml::parse::null_model"
  | missingSystemName => "xtuml::validate::system_name"
  | missingVersion => "xtuml::validate::version"
  | noDomains => "xtuml::validate::no_domains"
  | domainWithoutName _ => "xtuml::validate::domain_name"
  | domainWithoutKeyLetter _ => "xtuml::validate::domain_key_letter"
  | domainWithoutClasses _ => "xtuml::validate::domain_classes"

/-- Advice that goes with an error. -/
def help : CompileError → Option String
  | malformed _ _ =>
    some "The model must be a JSON object with system_name, version and domains"
  | noDomains => some "Add an entry to the top-level \"domains\" array"
  | _ => none

end CompileError

end ExecUml
