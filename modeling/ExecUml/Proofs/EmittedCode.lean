import ExecUml.Declaration
import ExecUml.Proofs.Execution

/-!
# The statements of generated code

A statement that is written as a comment is not carried out, nor is anything inside it. What is
carried out in the body of a method stands under one guard and is of two kinds only: a literal goes
to a property of the object, or a message goes to the log. The properties that generated code
assigns are declared by the class or by one of its ancestors, whatever the chain of parents looks
like.

Properties that a message reads are not looked at.
-/

set_option autoImplicit false

namespace ExecUml

namespace Script

mutual

/-- What is left of a statement without comments. -/
def Stmt.live : Stmt → List Stmt
  | .cond test body => [.cond test (liveStmts body)]
  | .assign target value => [.assign target value]
  | .expression value => [.expression value]
  | .ret value => [.ret value]
  | .comment _ => []
  | .disabled _ => []

def liveStmts : List Stmt → List Stmt
  | [] => []
  | s :: ss => s.live ++ liveStmts ss

end

mutual

/-- The targets of the assignments that are carried out, in order. -/
def Stmt.targets : Stmt → List Expr
  | .cond _ body => targetsOf body
  | .assign target _ => [target]
  | .expression _ => []
  | .ret _ => []
  | .comment _ => []
  | .disabled _ => []

def targetsOf : List Stmt → List Expr
  | [] => []
  | s :: ss => s.targets ++ targetsOf ss

end

def Method.live (m : Method) : Method := { m with body := liveStmts m.body }

def Class.targets (c : Class) : List Expr :=
  targetsOf c.constructor.body ++ (c.methods.getD []).flatMap fun m => targetsOf m.body

def Class.propertyNames (c : Class) : List String := c.properties.map (·.name)

theorem liveStmts_eq_flatMap (ss : List Stmt) : liveStmts ss = ss.flatMap (·.live) := by
  induction ss with
  | nil => rfl
  | cons s ss ih => rw [liveStmts, ih, List.flatMap_cons]

theorem targetsOf_eq_flatMap (ss : List Stmt) : targetsOf ss = ss.flatMap (·.targets) := by
  induction ss with
  | nil => rfl
  | cons s ss ih => rw [targetsOf, ih, List.flatMap_cons]

end Script

open Script

/-! ## Literals and messages -/

/-- Whole numbers and flags, which stand for themselves. -/
def isBare (value : String) : Bool := isNumeral value || value = "true" || value = "false"

/-- The values that updates and changes of state assign. -/
inductive IsLiteral : Expr → Prop
  | quoted (text : String) : IsLiteral (.string text)
  | bare {text : String} (h : isBare text = true) : IsLiteral (.verbatim text)

theorem isLiteral_literal (value : String) : IsLiteral (literal value) := by
  unfold literal
  simp only
  split
  · rename_i h
    exact .bare (by simpa [isBare, isNumeral] using h)
  · exact .quoted value

/-- A property that a message can read. -/
def MessagePart.IsKnown : MessagePart → Prop
  | text _ => True
  | property name => name ∈ propertyMarkers.map (·.2)

/-- The arguments of the log function. A sum has a text in front and at least one more part. -/
inductive IsMessage : Expr → Prop
  | quoted (text : String) : IsMessage (.string text)
  | template (text : String) : IsMessage (.template text)
  | sum (first : List Char) (next : MessagePart) (rest : List MessagePart)
      (h : ∀ part ∈ next :: rest, part.IsKnown) :
      IsMessage (.concat ((.text first :: next :: rest).map (·.expr)))

theorem isMessage_messageExpr (message : String) (parameters : List Parameter) :
    IsMessage (messageExpr message parameters) := by
  unfold messageExpr
  simp only
  split
  · exact .template _
  · exact .quoted _

theorem isKnown_of_consChar {c : Char} {parts : List MessagePart}
    (h : ∀ part ∈ parts, part.IsKnown) : ∀ part ∈ consChar c parts, part.IsKnown := by
  intro part hpart
  unfold consChar at hpart
  split at hpart
  · rcases List.mem_cons.mp hpart with rfl | hpart
    · trivial
    · exact h part (List.mem_cons_of_mem _ hpart)
  · rcases List.mem_cons.mp hpart with rfl | hpart
    · trivial
    · exact h part hpart

theorem isKnown_of_messageParts (s : List Char) : ∀ part ∈ messageParts s, part.IsKnown := by
  fun_induction messageParts s with
  | case1 => simp
  | case2 c cs name rest hfront ih =>
    intro part hpart
    rcases List.mem_cons.mp hpart with rfl | hpart
    · obtain ⟨marker, hmarker, hname, -⟩ := exists_of_markerInFront? hfront
      exact List.mem_map.mpr ⟨marker, hmarker, hname⟩
    · exact ih part hpart
  | case3 c cs _ ih => exact isKnown_of_consChar ih

theorem isMessage_legacyExpr (message : Option String) : IsMessage (legacyExpr message) := by
  cases message with
  | none => exact .quoted ""
  | some message =>
    have hknown := isKnown_of_messageParts message.toList
    unfold legacyExpr
    simp only
    split
    · rename_i hany
      -- A property in the message makes a second part, behind a text that is there or is put there.
      cases hparts : messageParts message.toList with
      | nil => simp [hparts] at hany
      | cons first rest =>
        rw [hparts] at hany hknown
        cases first with
        | property name => exact .sum [] (.property name) rest hknown
        | text cs =>
          cases rest with
          | nil => simp [MessagePart.isProperty] at hany
          | cons next rest =>
            exact .sum cs next rest fun part hpart => hknown part (List.mem_cons_of_mem _ hpart)
    · exact .quoted message

/-! ## The bodies of methods -/

namespace Transition

def operations (t : Transition) : List Operation :=
  match t.body with
  | .operations ops => ops
  | .messages _ => []

def messages (t : Transition) : List (Option String) :=
  match t.body with
  | .operations _ => []
  | .messages logs => logs

end Transition

namespace MethodSource

def transition : MethodSource → Transition
  | operation _ _ t _ => t
  | event _ t => t

/-- The statements under the guard of a method. -/
def effects (scope : Scope) : MethodSource → List Stmt
  | operation _ _ t op => operationEffects scope op t.toState
  | event _ t =>
    assignState (.string t.toState) :: t.messages.map fun message => logStmt (legacyExpr message)

@[simp] theorem method_event (scope : Scope) (i : Nat) (t : Transition) :
    (event i t).method scope = eventMethod t t.messages := by
  cases hbody : t.body <;> simp [method, Transition.messages, hbody]

@[simp] theorem method_name (scope : Scope) (s : MethodSource) :
    (s.method scope).name = s.name := by
  cases s with
  | operation i j t op => rfl
  | event i t => rw [method_event]; rfl

end MethodSource

/-- The properties that a method may assign. -/
def Scope.MayAssign (scope : Scope) (p : String) : Prop :=
  p = stateProperty ∨
    ∃ member, scope.index.hasAttribute scope.owner member = true ∧ p = camelCase member

/-- The statements that stand under the guard of a method. -/
inductive Scope.Emits (scope : Scope) : Stmt → Prop
  | assign {p : String} {value : Expr} (hp : scope.MayAssign p) (hvalue : IsLiteral value) :
      scope.Emits (.assign (.member p) value)
  | log {message : Expr} (h : IsMessage message) : scope.Emits (logStmt message)
  | comment (text : String) : scope.Emits (.comment text)
  | disabled (inner : Stmt) : scope.Emits (.disabled inner)

section Emits

variable {scope : Scope} {s : Stmt}

theorem emits_of_updateCode {member value : String}
    (hs : s ∈ (updateCode scope member value).statements) : scope.Emits s := by
  unfold updateCode at hs
  split at hs
  · rw [List.mem_singleton.mp hs]
    exact .assign (Or.inl rfl) (isLiteral_literal value)
  · split at hs
    · rename_i hdeclared
      rw [List.mem_singleton.mp hs]
      exact .assign (Or.inr ⟨member, hdeclared, rfl⟩) (isLiteral_literal value)
    · rcases List.mem_cons.mp hs with rfl | hs
      · exact .comment _
      · rw [List.mem_singleton.mp hs]
        exact .disabled _

theorem emits_of_stepCode {parameters : List Parameter} {step : ActionStep}
    (hs : s ∈ (stepCode scope parameters step).statements) : scope.Emits s := by
  unfold stepCode at hs
  split at hs
  · split at hs
    · exact emits_of_updateCode hs
    · simp at hs
  · simp at hs
  · rw [List.mem_singleton.mp hs]
    exact .log (isMessage_messageExpr _ _)
  · simp at hs
  · rw [List.mem_singleton.mp hs]
    exact .comment _

theorem emits_of_steps {parameters : List Parameter} {steps : List ActionStep}
    (hs : s ∈ (steps.map (stepCode scope parameters)).flatMap (·.statements)) : scope.Emits s := by
  obtain ⟨code, hcode, hs⟩ := List.mem_flatMap.mp hs
  obtain ⟨step, _, rfl⟩ := List.mem_map.mp hcode
  exact emits_of_stepCode hs

theorem emits_assignState (target : String) : scope.Emits (assignState (.string target)) :=
  .assign (Or.inl rfl) (.quoted target)

theorem emits_of_operationEffects {op : Operation} {target : String}
    (hs : s ∈ operationEffects scope op target) : scope.Emits s := by
  unfold operationEffects at hs
  rcases List.mem_append.mp hs with hs | hs
  · exact emits_of_steps hs
  · split at hs
    · simp at hs
    · rw [List.mem_singleton.mp hs]
      exact emits_assignState target

end Emits

/-- The form of every generated method. -/
structure Scope.Generates (scope : Scope) (m : Method) (source : String) (effects : List Stmt) :
    Prop where
  body : m.body = guardedBody source effects
  emits : ∀ s ∈ effects, scope.Emits s
  returns : m.returns = .named "boolean"
  types : ∀ p ∈ m.params, ∃ tag, p.type = .named (typeName tag)

theorem generates_operationMethod (scope : Scope) (op : Operation) (t : Transition) :
    scope.Generates (operationMethod scope op t) t.fromState
      (operationEffects scope op t.toState) := by
  refine ⟨rfl, fun s hs => emits_of_operationEffects hs, rfl, ?_⟩
  intro p hp
  obtain ⟨parameter, _, rfl⟩ := List.mem_map.mp hp
  exact ⟨parameter.dataType, rfl⟩

theorem generates_eventMethod (scope : Scope) (t : Transition) (messages : List (Option String)) :
    scope.Generates (eventMethod t messages) t.fromState
      (assignState (.string t.toState) :: messages.map fun message =>
        logStmt (legacyExpr message)) := by
  refine ⟨rfl, fun s hs => ?_, rfl, by simp [eventMethod]⟩
  rcases List.mem_cons.mp hs with rfl | hs
  · exact emits_assignState t.toState
  · obtain ⟨message, _, rfl⟩ := List.mem_map.mp hs
    exact .log (isMessage_legacyExpr message)

theorem MethodSource.generates (scope : Scope) (s : MethodSource) :
    scope.Generates (s.method scope) s.transition.fromState (s.effects scope) := by
  cases s with
  | operation i j t op => exact generates_operationMethod scope op t
  | event i t =>
    rw [method_event]
    exact generates_eventMethod scope t t.messages

theorem generates_of_mem_methods {machine : StateMachine} {scope : Scope} {m : Method}
    (hm : m ∈ machine.methods scope) : ∃ source effects, scope.Generates m source effects := by
  obtain ⟨s, _, rfl⟩ := List.mem_map.mp hm
  exact ⟨_, _, s.generates scope⟩

theorem targetsOf_guardedBody (source : String) (effects : List Stmt) :
    targetsOf (guardedBody source effects) = effects.flatMap (·.targets) := by
  simp [guardedBody, Stmt.targets, targetsOf_eq_flatMap]

theorem Scope.Generates.mayAssign {scope : Scope} {m : Method} {source : String}
    {effects : List Stmt} (h : scope.Generates m source effects) {target : Expr}
    (htarget : target ∈ targetsOf m.body) : ∃ p, target = .member p ∧ scope.MayAssign p := by
  rw [h.body, targetsOf_guardedBody] at htarget
  obtain ⟨s, hs, htarget⟩ := List.mem_flatMap.mp htarget
  cases h.emits s hs with
  | @assign p value hp hvalue =>
    rw [Stmt.targets] at htarget
    exact ⟨p, List.mem_singleton.mp htarget, hp⟩
  | log hmessage => simp [logStmt, Stmt.targets] at htarget
  | comment text => simp [Stmt.targets] at htarget
  | disabled inner => simp [Stmt.targets] at htarget

/-! ## Declared properties -/

theorem mem_propertyNames_of_mem_attributes (ix : ClassIndex) {c : ClassDecl} {a : Attribute}
    (h : a ∈ c.attributes) : camelCase a.name ∈ (Scope.classDecl ⟨ix, c⟩).propertyNames := by
  apply List.mem_map.mpr
  exact ⟨a.property, List.mem_append_left _ (List.mem_map.mpr ⟨a, h, rfl⟩), rfl⟩

theorem mem_propertyNames_of_hasAttribute (ix : ClassIndex) {c : ClassDecl} {name : String}
    (h : c.hasAttribute name = true) :
    camelCase name ∈ (Scope.classDecl ⟨ix, c⟩).propertyNames := by
  obtain ⟨a, ha⟩ := Option.isSome_iff_exists.mp h
  have hname : a.name = name := by simpa using List.find?_some ha
  rw [← hname]
  exact mem_propertyNames_of_mem_attributes ix (List.mem_of_find?_eq_some ha)

theorem mem_propertyNames_of_mayAssign {scope : Scope} (hmachine : scope.owner.machine.isSome)
    {p : String} (hp : scope.MayAssign p) :
    ∃ c ∈ scope.owner :: scope.index.ancestors scope.owner,
      p ∈ (Scope.classDecl ⟨scope.index, c⟩).propertyNames := by
  rcases hp with rfl | ⟨member, hmember, rfl⟩
  · obtain ⟨machine, hmachine⟩ := Option.isSome_iff_exists.mp hmachine
    refine ⟨scope.owner, List.mem_cons_self, ?_⟩
    simp [Class.propertyNames, Scope.classDecl, hmachine, StateMachine.property]
  · rcases Bool.or_eq_true_iff.mp hmember with hown | habove
    · exact ⟨scope.owner, List.mem_cons_self, mem_propertyNames_of_hasAttribute _ hown⟩
    · obtain ⟨c, hc, hdeclared⟩ := List.any_eq_true.mp habove
      exact ⟨c, List.mem_cons_of_mem _ hc, mem_propertyNames_of_hasAttribute _ hdeclared⟩

theorem declared_of_constructor (scope : Scope) {target : Expr}
    (h : target ∈ targetsOf scope.constructor.body) :
    ∃ p, target = .member p ∧ p ∈ scope.classDecl.propertyNames := by
  rw [targetsOf_eq_flatMap] at h
  obtain ⟨s, hs, htarget⟩ := List.mem_flatMap.mp h
  rcases List.mem_append.mp hs with hs | hs
  · split at hs
    · rw [List.mem_singleton.mp hs] at htarget
      simp [Scope.superCall, Stmt.targets] at htarget
    · simp at hs
  · obtain ⟨a, ha, rfl⟩ := List.mem_map.mp hs
    rw [Stmt.targets] at htarget
    have hmem : a ∈ scope.owner.attributes := (List.mem_filter.mp ha).1
    exact ⟨camelCase a.name, List.mem_singleton.mp htarget,
      mem_propertyNames_of_mem_attributes _ hmem⟩

/-- Every assignment that a generated class carries out goes to a property that the class or one of
its ancestors declares. -/
theorem assigned_properties_declared (m : Model) (c : ClassDecl) :
    ∀ target ∈ (Scope.classDecl ⟨.ofModel m, c⟩).targets, ∃ p, target = .member p ∧
      ∃ a ∈ c :: (ClassIndex.ofModel m).ancestors c,
        p ∈ (Scope.classDecl ⟨.ofModel m, a⟩).properties.map (·.name) := by
  intro target htarget
  rcases List.mem_append.mp htarget with htarget | htarget
  · obtain ⟨p, rfl, hp⟩ := declared_of_constructor _ htarget
    exact ⟨p, rfl, c, List.mem_cons_self, hp⟩
  · obtain ⟨method, hmethod, htarget⟩ := List.mem_flatMap.mp htarget
    cases hmachine : c.machine with
    | none => simp [Scope.classDecl, hmachine] at hmethod
    | some machine =>
      have hmem : method ∈ machine.methods ⟨.ofModel m, c⟩ := by
        simpa [Scope.classDecl, hmachine] using hmethod
      obtain ⟨source, effects, hgenerates⟩ := generates_of_mem_methods hmem
      obtain ⟨p, rfl, hp⟩ := hgenerates.mayAssign htarget
      exact ⟨p, rfl, mem_propertyNames_of_mayAssign (by simp [hmachine]) hp⟩

/-! Two classes that inherit from each other: a clerk updates an attribute of the other class, its
status and an attribute that nobody declares. -/

namespace Office

def rename : Operation :=
  ⟨"rename", [],
    [.update (some "this") (some "full name") (some "Ann"),
     .update (some "this") (some "shoe size") (some "42"),
     .update (some "this") (some "Status") (some "named")]⟩

def hire : Transition := ⟨"new", "hired", "hire", .operations [rename]⟩

def machine : StateMachine := ⟨some "new", ["new", "named", "hired"], [hire]⟩

def clerk : ClassDecl :=
  { kind := .ordinary
    name := "Clerk"
    keyLetter := none
    parent := some "Person"
    isAbstract := false
    description := none
    attributes := [⟨"badge", none, some "naming", none⟩]
    machine := some machine }

def person : ClassDecl :=
  { kind := .ordinary
    name := "Person"
    keyLetter := none
    parent := some "Clerk"
    isAbstract := true
    description := none
    attributes := [⟨"full name", some "string", none, none⟩]
    machine := none }

def model : Model := ⟨"Office", "1", [⟨"Staff", "S", [clerk, person], []⟩]⟩

def scope : Scope := ⟨.ofModel model, clerk⟩

theorem targets_clerk :
    scope.classDecl.targets = [.member "badge", .member "fullName", .member "state"] := by
  have hkept :
      (MethodPlan.ofMachine machine).kept = [.operation 0 0 hire rename] := by decide +kernel
  have hname : scope.index.hasAttribute scope.owner "full name" = true := by decide +kernel
  have hsize : scope.index.hasAttribute scope.owner "shoe size" = false := by decide +kernel
  have hmachine : scope.owner.machine.isSome = true := rfl
  have hbadge : camelCase "badge" = "badge" := by decide +kernel
  have hfull : camelCase "full name" = "fullName" := by decide +kernel
  have hconstructor : targetsOf scope.constructor.body = [.member "badge"] := by
    simp [scope, clerk, Scope.constructor, Scope.superCall, ClassDecl.namingAttributes,
      Attribute.isNaming, targetsOf, Stmt.targets, hbadge]
  have hsteps : targetsOf (operationMethod scope rename hire).body =
      [.member "fullName", .member "state"] := by
    rw [operationMethod, targetsOf_guardedBody]
    simp [operationEffects, rename, stepCode, updateCode, receiver, statusAttribute, hname, hsize,
      hmachine, memberUpdate, hfull, assignState, Stmt.targets, stateProperty]
  have hmethods : scope.classDecl.methods = some [operationMethod scope rename hire] := by
    simp [Scope.classDecl, scope, clerk, StateMachine.methods, hkept, MethodSource.method]
  rw [Class.targets, hmethods]
  simp [Scope.classDecl, hconstructor, hsteps]

/-- What the clerk assigns is declared by the clerk or by the person. -/
theorem clerk_assigns_declared :
    scope.classDecl.targets = [.member "badge", .member "fullName", .member "state"] ∧
    ∀ target ∈ [Expr.member "badge", .member "fullName", .member "state"],
      ∃ p, target = .member p ∧ ∃ a ∈ clerk :: (ClassIndex.ofModel model).ancestors clerk,
        p ∈ (Scope.classDecl ⟨.ofModel model, a⟩).properties.map (·.name) := by
  refine ⟨targets_clerk, fun target htarget => ?_⟩
  exact assigned_properties_declared model clerk target (targets_clerk ▸ htarget)

end Office

end ExecUml
