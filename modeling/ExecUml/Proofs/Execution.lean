import ExecUml.Method.Body
import Mathlib.Logic.Function.Basic

/-!
# Execution of method bodies

What a body does to an object and to the log. An object is a map from property names to values. The
text that a live template or a sum turns into is left open: a `Reading` settles it, and nothing here
depends on which one. Reading a template changes nothing.

A statement that no generated body holds, such as an assignment to a variable, is stuck.
-/

set_option autoImplicit false

namespace ExecUml.Script

inductive Value where
  | undefined
  | flag (b : Bool)
  | number (n : Nat)
  | text (s : String)
  /-- Any other value, known only by the script that gives it. -/
  | other (script : String)
deriving DecidableEq

/-- The values of the properties; a property that was never set is undefined. -/
abbrev Object := String → Value

structure Memory where
  object : Object
  /-- The arguments of the calls of the log function, oldest first. -/
  log : List (List Value)

namespace Memory

def set (m : Memory) (property : String) (v : Value) : Memory :=
  { m with object := Function.update m.object property v }

def append (m : Memory) (entry : List Value) : Memory := { m with log := m.log ++ [entry] }

@[simp] theorem set_object (m : Memory) (p : String) (v : Value) :
    (m.set p v).object = Function.update m.object p v := rfl

@[simp] theorem append_object (m : Memory) (entry : List Value) :
    (m.append entry).object = m.object := rfl

end Memory

def decimalValue (digits : List Char) : Nat :=
  digits.foldl (fun n c => 10 * n + (c.toNat - '0'.toNat)) 0

def isNumeral (text : String) : Bool :=
  !text.toList.isEmpty && text.toList.all Text.isAsciiDigit

/-- The value of a literal that is written as it stands. -/
def spelledValue (text : String) : Value :=
  if text = "true" then .flag true
  else if text = "false" then .flag false
  else if isNumeral text then .number (decimalValue text.toList)
  else .other text

/-- The texts that trees alone do not settle. -/
structure Reading where
  template : String → (String → Value) → Object → String
  display : Value → String

structure Frame where
  reading : Reading
  bindings : String → Value
  /-- The functions that can be called beside the log function. -/
  invoke : String → List Value → Memory → Option Memory

mutual

def Expr.eval (f : Frame) (o : Object) : Expr → Value
  | .string text => .text text
  | .verbatim text => spelledValue text
  | .identifier name => f.bindings name
  | .member name => o name
  | .template text => .text (f.reading.template text f.bindings o)
  | .templateText text => .text text
  | .concat parts => .text (String.join ((evalAll f o parts).map f.reading.display))
  | .call _ _ => .undefined
  | .strictEq left right => .flag (decide (left.eval f o = right.eval f o))

def evalAll (f : Frame) (o : Object) : List Expr → List Value
  | [] => []
  | e :: es => e.eval f o :: evalAll f o es

end

inductive Outcome where
  | next (m : Memory)
  | returned (m : Memory) (v : Value)
  | stuck

namespace Outcome

def andThen : Outcome → (Memory → Outcome) → Outcome
  | next m, k => k m
  | returned m v, _ => returned m v
  | stuck, _ => stuck

def ofOption : Option Memory → Outcome
  | some m => next m
  | none => stuck

def memory? : Outcome → Option Memory
  | next m => some m
  | returned m _ => some m
  | stuck => none

@[simp] theorem andThen_next (m : Memory) (k : Memory → Outcome) : (next m).andThen k = k m := rfl

@[simp] theorem andThen_returned (m : Memory) (v : Value) (k : Memory → Outcome) :
    (returned m v).andThen k = returned m v := rfl

theorem andThen_assoc (o : Outcome) (k l : Memory → Outcome) :
    (o.andThen k).andThen l = o.andThen fun m => (k m).andThen l := by
  cases o <;> rfl

end Outcome

def logFunction : String := "console.log"

mutual

def Stmt.exec (f : Frame) (m : Memory) : Stmt → Outcome
  | .cond test body => if test.eval f m.object = .flag true then execAll f m body else .next m
  | .assign (.member name) value => .next (m.set name (value.eval f m.object))
  | .assign _ _ => .stuck
  | .expression (.call callee arguments) =>
    if callee = logFunction then .next (m.append (evalAll f m.object arguments))
    else .ofOption (f.invoke callee (evalAll f m.object arguments) m)
  | .expression _ => .next m
  | .ret value => .returned m (value.eval f m.object)
  | .comment _ => .next m
  | .disabled _ => .next m

def execAll (f : Frame) (m : Memory) : List Stmt → Outcome
  | [] => .next m
  | s :: ss => (s.exec f m).andThen fun m' => execAll f m' ss

end

theorem execAll_append (f : Frame) (m : Memory) (ss ts : List Stmt) :
    execAll f m (ss ++ ts) = (execAll f m ss).andThen fun m' => execAll f m' ts := by
  induction ss generalizing m with
  | nil => simp [execAll]
  | cons s ss ih =>
    simp only [List.cons_append, execAll, ih]
    rw [Outcome.andThen_assoc]

/-- The variables of a body whose parameters are bound; a missing argument is undefined. -/
def boundVariables : List Param → List Value → String → Value
  | [], _, _ => .undefined
  | p :: ps, vs, name =>
    if name = p.name then vs.headD .undefined else boundVariables ps vs.tail name

structure Call where
  method : Method
  arguments : List Value

namespace Call

/-- A method calls nothing but the log function. -/
def frame (r : Reading) (c : Call) : Frame :=
  ⟨r, boundVariables c.method.params c.arguments, fun _ _ _ => none⟩

/-- The memory after a call and its answer, unless the call gets stuck. -/
def perform (r : Reading) (c : Call) (m : Memory) : Option (Memory × Value) :=
  match execAll (c.frame r) m c.method.body with
  | .next m' => some (m', .undefined)
  | .returned m' v => some (m', v)
  | .stuck => none

end Call

structure Event where
  call : Call
  before : Memory
  answer : Value
  after : Memory

def history (r : Reading) : Memory → List Call → Option (List Event)
  | _, [] => some []
  | m, c :: cs => do
    let (m', v) ← c.perform r m
    let events ← history r m' cs
    return ⟨c, m, v, m'⟩ :: events

/-- The memory that events leave behind, where `m` is the memory they start from. -/
def lastMemory (m : Memory) (events : List Event) : Memory := events.foldl (fun _ e => e.after) m

@[simp] theorem lastMemory_nil (m : Memory) : lastMemory m [] = m := rfl

@[simp] theorem lastMemory_cons (m : Memory) (e : Event) (events : List Event) :
    lastMemory m (e :: events) = lastMemory e.after events := rfl

@[simp] theorem lastMemory_concat (m : Memory) (e : Event) (events : List Event) :
    lastMemory m (events ++ [e]) = e.after := by
  simp [lastMemory]

theorem history_concat {r : Reading} {m m' : Memory} {v : Value} {c : Call} {cs : List Call}
    {events : List Event} (hcs : history r m cs = some events)
    (hc : c.perform r (lastMemory m events) = some (m', v)) :
    history r m (cs ++ [c]) = some (events ++ [⟨c, lastMemory m events, v, m'⟩]) := by
  induction cs generalizing m events with
  | nil =>
    have hnil : events = [] := by simpa [history, eq_comm] using hcs
    subst hnil
    simp_all [history]
  | cons d cs ih =>
    simp only [history, Option.bind_eq_bind, Option.bind_eq_some_iff, Option.pure_def] at hcs
    obtain ⟨⟨m₁, v₁⟩, hd, rest, hrest, heq⟩ := hcs
    cases heq
    rw [lastMemory_cons] at hc
    simp [history, hd, ih hrest hc]

/-- An invariant of memories that every call of `methods` keeps holds throughout, and so does what
it implies about a call. -/
theorem history_invariant {r : Reading} {methods : List Method} {I : Memory → Prop}
    {P : Event → Prop}
    (step : ∀ c : Call, c.method ∈ methods → ∀ m, I m →
      ∃ m' v, c.perform r m = some (m', v) ∧ I m' ∧ P ⟨c, m, v, m'⟩)
    {start : Memory} (hstart : I start) {cs : List Call} (hcs : ∀ c ∈ cs, c.method ∈ methods) :
    ∃ events, history r start cs = some events ∧ I (lastMemory start events) ∧
      events.map (·.call) = cs ∧ ∀ e ∈ events, P e := by
  induction cs generalizing start with
  | nil => exact ⟨[], rfl, hstart, rfl, by simp⟩
  | cons c cs ih =>
    obtain ⟨m', v, hc, hI, hP⟩ := step c (hcs c List.mem_cons_self) start hstart
    obtain ⟨events, hrest, hlast, hcalls, hall⟩ :=
      ih hI (fun d hd => hcs d (List.mem_cons_of_mem c hd))
    refine ⟨⟨c, start, v, m'⟩ :: events, by simp [history, hc, hrest], by simpa using hlast,
      by simp [hcalls], ?_⟩
    intro e he
    rcases List.mem_cons.mp he with rfl | he
    · exact hP
    · exact hall e he

/-- The memories that calls of `methods` lead to. -/
def Reached (r : Reading) (methods : List Method) (start m : Memory) : Prop :=
  ∃ calls events, (∀ c ∈ calls, c.method ∈ methods) ∧ history r start calls = some events ∧
    lastMemory start events = m

namespace Reached

variable {r : Reading} {methods : List Method} {start m m' : Memory}

theorem refl (r : Reading) (methods : List Method) (start : Memory) :
    Reached r methods start start := ⟨[], [], by simp, rfl, rfl⟩

theorem step (h : Reached r methods start m) {c : Call} (hc : c.method ∈ methods) {v : Value}
    (hperform : c.perform r m = some (m', v)) : Reached r methods start m' := by
  obtain ⟨calls, events, hcalls, hhistory, rfl⟩ := h
  refine ⟨calls ++ [c], _, ?_, history_concat hhistory hperform, by simp⟩
  intro d hd
  rcases List.mem_append.mp hd with hd | hd
  · exact hcalls d hd
  · rw [List.mem_singleton.mp hd]
    exact hc

end Reached

/-- A new object gets the value of the initializer, if the property has one. -/
def Property.afterInit (f : Frame) (p : Property) (m : Memory) : Memory :=
  match p.initial with
  | none => m
  | some e => m.set p.name (e.eval f m.object)

/-- The values of a type; nothing is said about dates. -/
def TypeExpr.Admits : TypeExpr → Value → Prop
  | .union texts, v => ∃ s ∈ texts, v = .text s
  | .named "string", v => ∃ s, v = .text s
  | .named "boolean", v => ∃ b, v = .flag b
  | .named "number", v => ∃ n, v = .number n
  | .named _, _ => True

end ExecUml.Script
