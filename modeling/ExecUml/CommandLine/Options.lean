/-!
# Command-line arguments

Arguments are read from left to right. The first one that is wrong, or that asks for help or for the
version, decides the invocation. Short options can be joined, an option can be given once.
-/

set_option autoImplicit false

namespace ExecUml.CommandLine

structure Options where
  input : String
  output : String
  verbose : Bool
  force : Bool
  clean : Bool
  noColor : Bool
  split : Bool
deriving DecidableEq

/-- What a command line asks for. -/
inductive Invocation where
  | help
  | version
  | invalid
  | run (options : Options)
deriving DecidableEq

/-- The arguments read so far. -/
structure Draft where
  input : Option String
  output : Option String
  verbose : Bool
  force : Bool
  clean : Bool
  noColor : Bool
  split : Bool

def defaultOutput : String := "./output"

namespace Draft

def empty : Draft := ⟨none, none, false, false, false, false, false⟩

/-- A command line needs an input. -/
def finish (d : Draft) : Invocation :=
  match d.input with
  | none => .invalid
  | some input =>
    .run ⟨input, d.output.getD defaultOutput, d.verbose, d.force, d.clean, d.noColor, d.split⟩

/-- A path may be given once and may not be empty. -/
def setInput? (d : Draft) (value : String) : Option Draft :=
  if d.input.isSome || value.isEmpty then none else some { d with input := some value }

def setOutput? (d : Draft) (value : String) : Option Draft :=
  if d.output.isSome || value.isEmpty then none else some { d with output := some value }

def setVerbose? (d : Draft) : Option Draft :=
  if d.verbose then none else some { d with verbose := true }

def setForce? (d : Draft) : Option Draft := if d.force then none else some { d with force := true }

def setClean? (d : Draft) : Option Draft := if d.clean then none else some { d with clean := true }

def setNoColor? (d : Draft) : Option Draft :=
  if d.noColor then none else some { d with noColor := true }

def setSplit? (d : Draft) : Option Draft := if d.split then none else some { d with split := true }

end Draft

/-- What is left to do after an argument. -/
inductive Progress where
  | next (d : Draft)
  /-- The next argument is the output directory. -/
  | wantsOutput (d : Draft)
  | settled (result : Invocation)

def Progress.ofDraft? : Option Draft → Progress
  | some d => .next d
  | none => .settled .invalid

/-- An option with a long name, and the value that is attached to it. -/
def readLong (d : Draft) (name : String) (value : Option String) : Progress :=
  match name, value with
  | "output", some v => .ofDraft? (d.setOutput? v)
  | "output", none => .wantsOutput d
  | "verbose", none => .ofDraft? d.setVerbose?
  | "force", none => .ofDraft? d.setForce?
  | "clean", none => .ofDraft? d.setClean?
  | "no-color", none => .ofDraft? d.setNoColor?
  | "split", none => .ofDraft? d.setSplit?
  | "help", none => .settled .help
  | "version", none => .settled .version
  | _, _ => .settled .invalid

/-- Short options joined in one argument; the value of the output option ends it. -/
def readShort (d : Draft) : List Char → Progress
  | [] => .next d
  | ['o'] => .wantsOutput d
  | 'o' :: '=' :: value => .ofDraft? (d.setOutput? (String.ofList value))
  | 'o' :: value => .ofDraft? (d.setOutput? (String.ofList value))
  | 'v' :: more => match d.setVerbose? with
    | some d => readShort d more
    | none => .settled .invalid
  | 'f' :: more => match d.setForce? with
    | some d => readShort d more
    | none => .settled .invalid
  | 'h' :: _ => .settled .help
  | 'V' :: _ => .settled .version
  | _ => .settled .invalid

/-- Name and attached value of a long option. -/
def splitLong (cs : List Char) : String × Option String :=
  let name := String.ofList (cs.takeWhile (· != '='))
  match cs.dropWhile (· != '=') with
  | [] => (name, none)
  | _ :: value => (name, some (String.ofList value))

/-- Whether an argument is an option and no value. -/
def isOption (arg : String) : Bool :=
  match arg.toList with
  | '-' :: _ :: _ => true
  | _ => false

/-- One argument in front of which no `--` stands. -/
def readArgument (d : Draft) (arg : String) : Progress :=
  match arg.toList with
  | '-' :: '-' :: name => let (name, value) := splitLong name; readLong d name value
  | '-' :: c :: cs => readShort d (c :: cs)
  | _ => .ofDraft? (d.setInput? arg)

/-- The arguments after `--` are no options. -/
def readOperands (d : Draft) : List String → Invocation
  | [] => d.finish
  | arg :: args => match d.setInput? arg with
    | some d => readOperands d args
    | none => .invalid

def readArguments (d : Draft) : List String → Invocation
  | [] => d.finish
  | arg :: args =>
    if arg = "--" then readOperands d args
    else match readArgument d arg with
      | .settled result => result
      | .next d => readArguments d args
      | .wantsOutput d => match args with
        | [] => .invalid
        | value :: args =>
          if isOption value then .invalid
          else match d.setOutput? value with
            | some d => readArguments d args
            | none => .invalid

def Invocation.ofArguments (args : List String) : Invocation := readArguments .empty args

end ExecUml.CommandLine
