import ExecUml.Compile
import ExecUml.Text.Width

/-!
# What the command line prints
-/

set_option autoImplicit false

namespace ExecUml.CommandLine

def programName : String := "xtuml-ts"

def programVersion : String := "0.1.0"

def versionLine : String := programName ++ " " ++ programVersion

def usageLine : String := "Usage: " ++ programName ++ " [OPTIONS] <INPUT>"

def helpLines : List String :=
  ["Compiles an xTUML JSON model into TypeScript interfaces and classes",
   "",
   usageLine,
   "",
   "Arguments:",
   "  <INPUT>  xTUML model file (JSON)",
   "",
   "Options:",
   "  -o, --output <OUTPUT>  Output directory [default: ./output]",
   "  -v, --verbose          Enable debug logging",
   "  -f, --force            Write into a non-empty output directory",
   "      --clean            Empty the output directory before compiling",
   "      --no-color         Disable colored output",
   "      --split            Write interfaces and classes to separate files",
   "  -h, --help             Print help",
   "  -V, --version          Print version"]

def repeated (s : String) (n : Nat) : String := String.join (List.replicate n s)

/-- The lines with which a run begins. -/
def openingLines : List String := ["  ◆ " ++ versionLine, ""]

/-- Outer width of the box. -/
def boxWidth : Nat := 55

/-- The upper border with a title in it, measured in characters. -/
def boxHeader (title : String) : String :=
  let padded := " " ++ title ++ " "
  "  ╭─" ++ padded ++ repeated "─" (boxWidth - (padded.length + 4)) ++ "╮"

/-- A line in the box, filled up to its display width. -/
def boxLine (content : String) : String :=
  "  │ " ++ content ++ repeated " " (boxWidth - 2 - Text.displayWidth content) ++ "│"

def boxFooter : String := "  ╰" ++ repeated "─" (boxWidth - 2) ++ "╯"

def domainLine (d : DomainSummary) : String :=
  "▸ " ++ d.name ++ "  " ++ (d.classes + d.associationClasses).repr ++ " classes · "
    ++ d.relationships.repr ++ " relationships · " ++ d.machines.repr ++ " state machines"

def findingLines (findings : List Finding) : List String :=
  if findings.isEmpty then [] else "" :: findings.map fun f => "  ▸ " ++ f.message

def divider : List String := ["", "  " ++ repeated "╌" (boxWidth - 2), ""]

/-- Two places of a quotient, rounded to the nearest. -/
def twoPlaces (n unit : Nat) : String :=
  let hundredths := (200 * n + unit) / (2 * unit)
  let places := (hundredths % 100).repr
  (hundredths / 100).repr ++ "." ++ (if places.length < 2 then "0" else "") ++ places

/-- A duration in the largest unit of which it holds one. -/
def durationText (nanoseconds : Nat) : String :=
  if 1000000000 ≤ nanoseconds then twoPlaces nanoseconds 1000000000 ++ "s"
  else if 1000000 ≤ nanoseconds then twoPlaces nanoseconds 1000000 ++ "ms"
  else if 1000 ≤ nanoseconds then twoPlaces nanoseconds 1000 ++ "µs"
  else nanoseconds.repr ++ ".00ns"

/-- The lines after a compilation: the domains in a box, the findings, and what was written. -/
def summaryLines (r : Report) (scripts : Nat) (location elapsed : String) : List String :=
  [boxHeader (r.systemName ++ " v" ++ r.version)]
    ++ r.domains.map (fun d => boxLine (domainLine d))
    ++ [boxFooter]
    ++ findingLines r.findings
    ++ divider
    ++ ["  ◉ " ++ r.totalClasses.repr ++ " classes compiled, " ++ scripts.repr
          ++ " TypeScript files generated",
        "  ◇ Output: " ++ location,
        "  Done in " ++ elapsed]

end ExecUml.CommandLine
