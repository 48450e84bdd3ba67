import ExecUml.Proofs.EmittedCode
import ExecUml.Proofs.QuotedLiterals
import ExecUml.Proofs.TemplateTexts

/-!
# Reading a printed method

The text of a generated method determines the method up to its comments. Its body is cut into lines:
a comment may take several of them, and every other statement is one, although that may hold line
feeds inside a template. No line looks like another, and none looks like the end of the guarded
part.

Names have to be words for this. State names, values and messages are arbitrary text.
-/

set_option autoImplicit false

namespace ExecUml

open Text (splitWhere isLineEnd isAsciiLower isAsciiUpper isAsciiDigit)

namespace Script

/-- Letters, digits, low lines and dollar signs; every character beyond ASCII counts as a letter. -/
def isWordChar (c : Char) : Bool :=
  decide (0x80 ≤ c.toNat) || isAsciiLower c || isAsciiUpper c || isAsciiDigit c || c == '_' ||
    c == '$'

def IsWord (name : String) : Prop := ∀ c ∈ name.toList, isWordChar c = true

instance : DecidablePred IsWord :=
  fun name => List.decidableBAll (fun c => isWordChar c = true) name.toList

structure Method.HasWordNames (m : Method) : Prop where
  name : IsWord m.name
  params : ∀ p ∈ m.params, IsWord p.name
  assigned : ∀ p, .member p ∈ targetsOf m.body → IsWord p

theorem IsWord.not_mem {name : String} (h : IsWord name) {c : Char} (hc : isWordChar c = false) :
    c ∉ name.toList := by
  intro hmem
  rw [h c hmem] at hc
  cases hc

/-! ## Literals and types -/

theorem selfDelimiting_quote :
    SelfDelimiting (fun _ => True) fun s : String => (quote s).toList := by
  intro s t _ _ r r' h
  have hread := congrArg quotedText? h
  rw [quotedText?_quote, quotedText?_quote] at hread
  exact Prod.mk.inj (Option.some.inj hread)

theorem typeName_cases (tag : Option String) :
    typeName tag = "boolean" ∨ typeName tag = "string" ∨ typeName tag = "number" ∨
      typeName tag = "Date" ∨ typeName tag = "any" := by
  cases tag with
  | none => simp [typeName]
  | some tag =>
    unfold typeName
    simp only
    split_ifs <;> simp

theorem selfDelimiting_typeName :
    SelfDelimiting (fun name => ∃ tag, name = typeName tag) fun name : String => name.toList := by
  rintro _ _ ⟨tag, rfl⟩ ⟨tag', rfl⟩ r r' h
  -- The five names start with five letters.
  rcases typeName_cases tag with ht | ht | ht | ht | ht <;>
    rcases typeName_cases tag' with ht' | ht' | ht' | ht' | ht' <;>
      simp_all

theorem selfDelimiting_param :
    SelfDelimiting (fun p : Param => IsWord p.name ∧ ∃ tag, p.type = .named (typeName tag))
      fun p => p.print.toList := by
  rintro ⟨name, _⟩ ⟨name', _⟩ ⟨hname, tag, rfl⟩ ⟨hname', tag', rfl⟩ r r' h
  simp only [Param.print, TypeExpr.print, String.toList_append, List.append_assoc] at h
  obtain ⟨hnames, h⟩ := append_cons_inj (hname.not_mem rfl) (hname'.not_mem rfl) h
  have hnames := String.toList_inj.mp hnames
  obtain ⟨htypes, hr⟩ := selfDelimiting_typeName ⟨tag, rfl⟩ ⟨tag', rfl⟩ (List.cons.inj h).2
  subst hnames
  rw [htypes]
  exact ⟨rfl, hr⟩

theorem selfDelimiting_params :
    SelfDelimiting
      (fun ps : List Param => ∀ p ∈ ps, IsWord p.name ∧ ∃ tag, p.type = .named (typeName tag))
      fun ps => (printParams ps).toList ++ [')'] := by
  have hparams := selfDelimiting_param.intercalate ',' [' '] ')' (by decide) ?_
  · intro ps qs hps hqs r r' h
    apply hparams hps hqs
    simpa [printParams, Function.comp_def] using h
  · rintro ⟨name, _⟩ ⟨hname, tag, rfl⟩ r r' h
    simp only [Param.print, String.toList_append, List.append_assoc] at h
    exact append_cons_ne (hname.not_mem rfl) (by decide) _ _ h

end Script

open Script

/-! ## Values and messages -/

theorem not_mem_of_isBare {text : String} (h : isBare text = true) {c : Char}
    (hc : isWordChar c = false) : c ∉ text.toList := by
  have hbare : isNumeral text = true ∨ text = "true" ∨ text = "false" := by
    simpa [isBare, or_assoc] using h
  intro hmem
  rcases hbare with hnumeral | rfl | rfl
  · have hdigit : isAsciiDigit c = true := by
      simp only [isNumeral, Bool.and_eq_true, List.all_eq_true] at hnumeral
      exact hnumeral.2 c hmem
    simp [isWordChar, hdigit] at hc
  · revert hc
    simp at hmem
    rcases hmem with rfl | rfl | rfl | rfl <;> decide
  · revert hc
    simp at hmem
    rcases hmem with rfl | rfl | rfl | rfl | rfl <;> decide

/-- A quoted value starts with a quote, and a bare one holds none. -/
theorem quoted_ne_bare {s text : String} (h : isBare text = true) (r r' : List Char) :
    (quote s).toList ++ r ≠ text.toList ++ ';' :: r' := by
  rw [toList_quote]
  exact (append_cons_ne (not_mem_of_isBare h rfl) (by decide) _ _).symm

theorem selfDelimiting_literal : SelfDelimiting IsLiteral fun e => e.print.toList ++ [';'] := by
  intro a b ha hb r r' h
  simp only [List.append_assoc, List.singleton_append] at h
  cases ha with
  | quoted s =>
    cases hb with
    | quoted t =>
      obtain ⟨rfl, hr⟩ := selfDelimiting_quote trivial trivial h
      exact ⟨rfl, (List.cons.inj hr).2⟩
    | bare ht => exact absurd h (quoted_ne_bare ht _ _)
  | @bare text ht =>
    cases hb with
    | quoted s => exact absurd h.symm (quoted_ne_bare ht _ _)
    | @bare text' ht' =>
      obtain ⟨htexts, hr⟩ :=
        append_cons_inj (not_mem_of_isBare ht rfl) (not_mem_of_isBare ht' rfl) h
      exact ⟨congrArg _ (String.toList_inj.mp htexts), hr⟩

def MessagePart.chars (part : MessagePart) : List Char := part.expr.print.toList

theorem MessagePart.chars_text (cs : List Char) :
    (MessagePart.text cs).chars = backtick :: (inertChars cs ++ [backtick]) := by
  simp [MessagePart.chars, MessagePart.expr, toList_print_templateText]

theorem MessagePart.chars_property (name : String) :
    (MessagePart.property name).chars = "this.".toList ++ name.toList := by
  simp [MessagePart.chars, MessagePart.expr, Expr.print]

theorem selfDelimiting_messagePart : SelfDelimiting MessagePart.IsKnown MessagePart.chars := by
  intro a b ha hb r r' h
  cases a with
  | text cs =>
    cases b with
    | text cs' =>
      simp only [MessagePart.chars_text, List.cons_append, List.append_assoc, List.nil_append,
        List.cons.injEq, true_and] at h
      obtain ⟨rfl, hr⟩ := (templateBody_inert cs).read_unique (templateBody_inert cs') h
      exact ⟨rfl, hr⟩
    | property name => simp [MessagePart.chars_text, MessagePart.chars_property, backtick] at h
  | property name =>
    cases b with
    | text cs => simp [MessagePart.chars_text, MessagePart.chars_property, backtick] at h
    | property name' =>
      have hname : name = "nim" ∨ name = "nip" := by
        simpa [MessagePart.IsKnown, propertyMarkers] using ha
      have hname' : name' = "nim" ∨ name' = "nip" := by
        simpa [MessagePart.IsKnown, propertyMarkers] using hb
      rcases hname with rfl | rfl <;> rcases hname' with rfl | rfl <;>
        simp_all [MessagePart.chars_property]

theorem printExprs_eq_map (es : List Expr) : printExprs es = es.map Expr.print := by
  induction es with
  | nil => rfl
  | cons e es ih => rw [printExprs, ih, List.map_cons]

theorem toList_print_sum (parts : List MessagePart) :
    (Expr.concat (parts.map (·.expr))).print.toList =
      [' ', '+', ' '].intercalate (parts.map MessagePart.chars) := by
  have hchars : MessagePart.chars = fun part => part.expr.print.toList := rfl
  simp [Expr.print, printExprs_eq_map, hchars, Function.comp_def]

theorem toList_print_sum_cons (first : List Char) (next : MessagePart) (rest : List MessagePart) :
    ∃ more, (Expr.concat ((.text first :: next :: rest).map (·.expr))).print.toList =
      backtick :: (inertChars first ++ backtick :: ' ' :: more) := by
  rw [toList_print_sum, List.map_cons, List.map_cons, List.intercalate_cons_cons,
    MessagePart.chars_text]
  simp only [List.cons_append, List.append_assoc, List.nil_append]
  exact ⟨_, rfl⟩

theorem selfDelimiting_sum :
    SelfDelimiting (fun parts : List MessagePart => ∀ part ∈ parts, part.IsKnown)
      fun parts => (Expr.concat (parts.map (·.expr))).print.toList ++ [')'] := by
  have hparts := selfDelimiting_messagePart.intercalate ' ' ['+', ' '] ')' (by decide) ?_
  · intro as bs has hbs r r' h
    apply hparts has hbs
    simpa only [toList_print_sum] using h
  · intro part _ r r' h
    cases part with
    | text cs => simp [MessagePart.chars_text, backtick] at h
    | property name => simp [MessagePart.chars_property] at h

/-- A template is followed by the end of the call, the first part of a sum by a sign. -/
theorem template_ne_sum (s : String) (first : List Char) (next : MessagePart)
    (rest : List MessagePart) (r r' : List Char) :
    (Expr.template s).print.toList ++ ')' :: r ≠
      (Expr.concat ((.text first :: next :: rest).map (·.expr))).print.toList ++ r' := by
  intro h
  obtain ⟨more, hsum⟩ := toList_print_sum_cons first next rest
  simp only [hsum, toList_print_template, List.cons_append, List.append_assoc, List.cons.injEq,
    true_and, List.nil_append] at h
  obtain ⟨_, hrest⟩ := (templateBody_template s.toList).read_unique (templateBody_inert first) h
  exact absurd (List.cons.inj hrest).1 (by decide)

theorem quoted_ne_sum (s : String) (first : List Char) (next : MessagePart)
    (rest : List MessagePart) (r r' : List Char) :
    (Expr.string s).print.toList ++ r ≠
      (Expr.concat ((.text first :: next :: rest).map (·.expr))).print.toList ++ r' := by
  intro h
  obtain ⟨more, hsum⟩ := toList_print_sum_cons first next rest
  rw [hsum] at h
  simp [Expr.print, toList_quote, backtick] at h

theorem selfDelimiting_message : SelfDelimiting IsMessage fun e => e.print.toList ++ [')'] := by
  intro a b ha hb r r' h
  simp only [List.append_assoc, List.singleton_append] at h
  cases ha with
  | quoted s =>
    cases hb with
    | quoted t =>
      obtain ⟨rfl, hr⟩ := selfDelimiting_quote trivial trivial h
      exact ⟨rfl, (List.cons.inj hr).2⟩
    | template t => simp [Expr.print, toList_quote, backticked, backtick] at h
    | sum first next rest _ => exact absurd h (quoted_ne_sum s first next rest _ _)
  | template s =>
    cases hb with
    | quoted t => simp [Expr.print, toList_quote, backticked, backtick] at h
    | template t =>
      simp only [toList_print_template, List.cons_append, List.append_assoc, List.nil_append,
        List.cons.injEq, true_and] at h
      obtain ⟨htexts, hr⟩ :=
        (templateBody_template s.toList).read_unique (templateBody_template t.toList) h
      exact ⟨congrArg _ (String.toList_inj.mp htexts), (List.cons.inj hr).2⟩
    | sum first next rest _ => exact absurd h (template_ne_sum s first next rest _ _)
  | sum first next rest hknown =>
    cases hb with
    | quoted t => exact absurd h.symm (quoted_ne_sum t first next rest _ _)
    | template t => exact absurd h.symm (template_ne_sum t first next rest _ _)
    | sum first' next' rest' hknown' =>
      have hsum : ∀ part ∈ MessagePart.text first :: next :: rest, part.IsKnown :=
        List.forall_mem_cons.mpr ⟨trivial, hknown⟩
      have hsum' : ∀ part ∈ MessagePart.text first' :: next' :: rest', part.IsKnown :=
        List.forall_mem_cons.mpr ⟨trivial, hknown'⟩
      obtain ⟨hparts, hr⟩ := selfDelimiting_sum hsum hsum' (by simpa using h)
      exact ⟨congrArg _ (congrArg _ hparts), hr⟩

/-! ## Lines -/

/-- The lines of a body: of a comment one for every physical line, of another statement one. -/
inductive Line where
  | remark (text : List Char)
  | assign (property : String) (value : Expr)
  | log (message : Expr)

namespace Line

/-- The text of a line behind the blanks in front. -/
def chars : Line → List Char
  | remark text => "// ".toList ++ (text ++ ['\n'])
  | assign property value =>
    "this.".toList ++ (property.toList ++ (" = ".toList ++ (value.print.toList ++ ";\n".toList)))
  | log message => "console.log(".toList ++ (message.print.toList ++ ");\n".toList)

theorem chars_remark (text : List Char) :
    (remark text).chars = "// ".toList ++ (text ++ ['\n']) := rfl

theorem chars_assign (property : String) (value : Expr) :
    (assign property value).chars = "this.".toList ++ (property.toList ++
      (" = ".toList ++ (value.print.toList ++ ";\n".toList))) := rfl

theorem chars_log (message : Expr) :
    (log message).chars = "console.log(".toList ++ (message.print.toList ++ ");\n".toList) := rfl

def stmt? : Line → Option Stmt
  | remark _ => none
  | assign property value => some (.assign (.member property) value)
  | log message => some (logStmt message)

def IsReadable : Line → Prop
  | remark text => '\n' ∉ text
  | assign property value => IsWord property ∧ IsLiteral value
  | log message => IsMessage message

theorem selfDelimiting_chars : SelfDelimiting IsReadable chars := by
  intro a b ha hb r r' h
  cases a with
  | remark text =>
    cases b with
    | remark text' =>
      simp only [chars_remark, List.append_assoc] at h
      obtain ⟨rfl, hr⟩ := append_cons_inj ha hb (List.append_cancel_left h)
      exact ⟨rfl, hr⟩
    | assign property value => simp [chars_remark, chars_assign] at h
    | log message => simp [chars_remark, chars_log] at h
  | assign property value =>
    cases b with
    | remark text => simp [chars_remark, chars_assign] at h
    | assign property' value' =>
      simp only [chars_assign, List.append_assoc] at h
      obtain ⟨hproperty, h⟩ := append_cons_inj (ha.1.not_mem rfl) (hb.1.not_mem rfl)
        (List.append_cancel_left h)
      have hvalues : value.print.toList ++ [';'] ++ '\n' :: r =
          value'.print.toList ++ [';'] ++ '\n' :: r' := by simpa using h
      obtain ⟨rfl, hr⟩ := selfDelimiting_literal ha.2 hb.2 hvalues
      exact ⟨by rw [String.toList_inj.mp hproperty], (List.cons.inj hr).2⟩
    | log message => simp [chars_assign, chars_log] at h
  | log message =>
    cases b with
    | remark text => simp [chars_remark, chars_log] at h
    | assign property value => simp [chars_assign, chars_log] at h
    | log message' =>
      simp only [chars_log, List.append_assoc] at h
      have hmessages : message.print.toList ++ [')'] ++ (";\n".toList ++ r) =
          message'.print.toList ++ [')'] ++ (";\n".toList ++ r') := by
        simpa using List.append_cancel_left h
      obtain ⟨rfl, hr⟩ := selfDelimiting_message ha hb hmessages
      exact ⟨rfl, List.append_cancel_left hr⟩

end Line

/-! ## Bodies -/

def remarks (text : String) : List Line := (splitWhere isLineEnd text.toList).map .remark

/-- The lines of a statement under the guard of a method. -/
def linesOf : Stmt → List Line
  | .assign (.member property) value => [.assign property value]
  | .expression (.call _ [message]) => [.log message]
  | .comment text => remarks text
  | .disabled inner => remarks (dropFinalLineFeeds (inner.print 0))
  | _ => []

theorem isReadable_of_remarks {text : String} : ∀ line ∈ remarks text, line.IsReadable := by
  intro line hline
  obtain ⟨piece, hpiece, rfl⟩ := List.mem_map.mp hline
  intro hmem
  have hend := Text.not_separator_of_mem_splitWhere hpiece hmem
  simp [isLineEnd] at hend

theorem stmt?_of_remarks (text : String) : (remarks text).filterMap Line.stmt? = [] := by
  simp [remarks, Line.stmt?]

/-- The text of lines that stand at a level. -/
def linesText (level : Nat) (lines : List Line) : List Char :=
  lines.flatMap fun line => (indentation level).toList ++ line.chars

theorem toList_lineComment (level : Nat) (text : String) :
    (lineComment level text).toList = linesText level (remarks text) := by
  simp [lineComment, linesText, remarks, Text.physicalLines, List.flatMap_map, Line.chars_remark]

theorem toList_printStmts (level : Nat) (ss : List Stmt) :
    (printStmts level ss).toList = ss.flatMap fun s => (s.print level).toList := by
  induction ss with
  | nil => rfl
  | cons s ss ih => rw [printStmts, String.toList_append, ih, List.flatMap_cons]

section Emitted

variable {scope : Scope} {s : Stmt}

theorem Scope.Emits.toList_print (h : scope.Emits s) (level : Nat) :
    (s.print level).toList = linesText level (linesOf s) := by
  cases h with
  | assign hp hvalue => simp [Stmt.print, linesOf, linesText, Line.chars_assign, Expr.print]
  | log hmessage =>
    simp [logStmt, Stmt.print, linesOf, linesText, Line.chars_log, Expr.print, printExprs]
  | comment text => exact toList_lineComment level text
  | disabled inner => exact toList_lineComment level _

theorem Scope.Emits.live_eq (h : scope.Emits s) : s.live = (linesOf s).filterMap Line.stmt? := by
  cases h with
  | assign hp hvalue => rfl
  | log hmessage => rfl
  | comment text => exact (stmt?_of_remarks text).symm
  | disabled inner => exact (stmt?_of_remarks _).symm

theorem Scope.Emits.isReadable (h : scope.Emits s)
    (hwords : ∀ p, .member p ∈ s.targets → IsWord p) :
    ∀ line ∈ linesOf s, line.IsReadable := by
  cases h with
  | @assign p value hp hvalue =>
    intro line hline
    rw [List.mem_singleton.mp hline]
    exact ⟨hwords p (by simp [Stmt.targets]), hvalue⟩
  | log hmessage =>
    intro line hline
    rw [List.mem_singleton.mp hline]
    exact hmessage
  | comment text => exact isReadable_of_remarks
  | disabled inner => exact isReadable_of_remarks

end Emitted

namespace Scope.Generates

variable {scope : Scope} {m : Method} {source : String} {effects : List Stmt}

theorem toList_print_effects (h : scope.Generates m source effects) (level : Nat) :
    (printStmts level effects).toList = linesText level (effects.flatMap linesOf) := by
  rw [toList_printStmts, linesText, List.flatMap_assoc]
  exact List.flatMap_congr fun s hs => (h.emits s hs).toList_print level

theorem live_effects (h : scope.Generates m source effects) :
    liveStmts effects = (effects.flatMap linesOf).filterMap Line.stmt? := by
  rw [liveStmts_eq_flatMap, List.filterMap_flatMap]
  exact List.flatMap_congr fun s hs => (h.emits s hs).live_eq

theorem isReadable (h : scope.Generates m source effects) (hwords : m.HasWordNames) :
    ∀ line ∈ effects.flatMap linesOf, line.IsReadable := by
  intro line hline
  obtain ⟨s, hs, hline⟩ := List.mem_flatMap.mp hline
  apply (h.emits s hs).isReadable _ line hline
  intro p hp
  apply hwords.assigned
  rw [h.body, targetsOf_guardedBody]
  exact List.mem_flatMap.mpr ⟨s, hs, hp⟩

theorem live_eq (h : scope.Generates m source effects) :
    m.live =
      { m with body := guardedBody source ((effects.flatMap linesOf).filterMap Line.stmt?) } := by
  have hbody : liveStmts (guardedBody source effects) = guardedBody source (liveStmts effects) := by
    simp [guardedBody, liveStmts_eq_flatMap, Stmt.live]
  rw [Method.live, h.body, hbody, h.live_effects]

/-- The text of a generated method, cut where one can see what it is made from. -/
theorem toList_print (h : scope.Generates m source effects) :
    m.print.toList = "  public ".toList ++ (m.name.toList ++ '(' ::
      (((printParams m.params).toList ++ [')']) ++
        (": boolean \x7b\n    if (this.state === ".toList ++
        ((quote source).toList ++ (") \x7b\n".toList ++
          ((linesText 3 (effects.flatMap linesOf) ++ "      return".toList) ++
            " true;\n    \x7d\n    return false;\n  \x7d\n".toList)))))) := by
  have hguard : (printStmts 2 (guardedBody source effects)).toList =
      "    if (this.state === ".toList ++ ((quote source).toList ++ (") \x7b\n".toList ++
        (linesText 3 (effects.flatMap linesOf) ++
          "      return true;\n    \x7d\n    return false;\n".toList))) := by
    have heffects := h.toList_print_effects 3
    rw [toList_printStmts] at heffects
    simp [guardedBody, toList_printStmts, Stmt.print, Expr.print, stateProperty, Expr.boolean,
      indentation, heffects]
  have hprint : m.print = "  public " ++ m.name ++ "(" ++ printParams m.params ++ "): "
      ++ m.returns.print ++ " \x7b\n" ++ printStmts 2 m.body ++ "  \x7d\n" := rfl
  simp [hprint, h.returns, h.body, hguard, TypeExpr.print]

end Scope.Generates

/-- No statement under a guard starts like the end of the guarded part. -/
theorem selfDelimiting_lines (level : Nat) :
    SelfDelimiting (fun lines : List Line => ∀ line ∈ lines, line.IsReadable)
      fun lines => linesText level lines ++ ((indentation level).toList ++ "return".toList) := by
  apply (Line.selfDelimiting_chars.prepend (indentation level).toList).flatMap
  intro line _ r r' h
  simp only [List.append_assoc] at h
  have h := List.append_cancel_left h
  cases line with
  | remark text => simp [Line.chars_remark] at h
  | assign property value => simp [Line.chars_assign] at h
  | log message => simp [Line.chars_log] at h

/-- Two generated methods with the same text differ in comments only, if their names are words. -/
theorem live_eq_of_print_eq {scope scope' : Scope} {machine machine' : StateMachine} {m m' : Method}
    (hm : m ∈ machine.methods scope) (hm' : m' ∈ machine'.methods scope')
    (hwords : m.HasWordNames) (hwords' : m'.HasWordNames) (hprint : m.print = m'.print) :
    m.live = m'.live := by
  obtain ⟨source, effects, h⟩ := generates_of_mem_methods hm
  obtain ⟨source', effects', h'⟩ := generates_of_mem_methods hm'
  have htext := h.toList_print.symm.trans ((congrArg String.toList hprint).trans h'.toList_print)
  obtain ⟨hname, htext⟩ := append_cons_inj (hwords.name.not_mem rfl) (hwords'.name.not_mem rfl)
    (List.append_cancel_left htext)
  obtain ⟨hparams, htext⟩ := selfDelimiting_params (fun p hp => ⟨hwords.params p hp, h.types p hp⟩)
    (fun p hp => ⟨hwords'.params p hp, h'.types p hp⟩) htext
  obtain ⟨hsource, htext⟩ := selfDelimiting_quote trivial trivial (List.append_cancel_left htext)
  obtain ⟨hlines, -⟩ := selfDelimiting_lines 3 (h.isReadable hwords) (h'.isReadable hwords')
    (List.append_cancel_left htext)
  rw [h.live_eq, h'.live_eq, hsource, hlines, Method.mk.injEq]
  exact ⟨String.toList_inj.mp hname, hparams, h.returns.trans h'.returns.symm, rfl⟩

/-! Two doors whose methods have the same text and not the same tree: the comment of one of them has
two lines, and the other has two comments. -/

namespace Door

def unlock (steps : List ActionStep) : Operation :=
  ⟨"unlock", [⟨"key code", some "int"⟩], .log (some "tried $\x7bkey code\x7d\n// twice") :: steps⟩

def opening (steps : List ActionStep) : Transition :=
  ⟨"it's shut", "open", "open", .operations [unlock steps]⟩

def machine (steps : List ActionStep) : StateMachine :=
  ⟨some "it's shut", ["it's shut", "open"], [opening steps]⟩

def door (steps : List ActionStep) : ClassDecl :=
  { kind := .ordinary
    name := "Door"
    keyLetter := none
    parent := none
    isAbstract := false
    description := none
    attributes := []
    machine := some (machine steps) }

def scope (steps : List ActionStep) : Scope :=
  ⟨.ofModel ⟨"House", "1", [⟨"Hall", "H", [door steps], []⟩]⟩, door steps⟩

def method (steps : List ActionStep) : Method :=
  operationMethod (scope steps) (unlock steps) (opening steps)

def oneStep : List ActionStep :=
  [.unsupported (some "bolt' not implemented\nAction type 'ring")]

def twoSteps : List ActionStep := [.unsupported (some "bolt"), .unsupported (some "ring")]

theorem hasWordNames (steps : List ActionStep) (hsteps : steps = oneStep ∨ steps = twoSteps) :
    (method steps).HasWordNames := by
  have htargets : targetsOf (method steps).body = [.member "state"] := by
    rw [method, operationMethod, targetsOf_guardedBody]
    rcases hsteps with rfl | rfl <;>
      simp [operationEffects, unlock, oneStep, twoSteps, stepCode, logStmt, assignState,
        Stmt.targets, stateProperty]
  have hname : (method steps).name = "unlock" := by
    have hcamel : camelCase "unlock" = "unlock" := by decide +kernel
    exact hcamel
  have hparams : (method steps).params = [⟨"keyCode", .named "number"⟩] := by
    have hcode : parameterName "key code" = "keyCode" := by decide +kernel
    have hint : typeName (some "int") = "number" := by decide +kernel
    simp [method, operationMethod, unlock, hcode, hint]
  refine ⟨?_, ?_, ?_⟩
  · rw [hname]
    decide +kernel
  · rw [hparams]
    decide +kernel
  · rw [htargets]
    intro p hp
    cases List.mem_singleton.mp hp
    decide +kernel

/-- One comment in two lines and two comments give one text, and the same code. -/
theorem same_text_same_code :
    method oneStep ∈ (machine oneStep).methods (scope oneStep) ∧
    method twoSteps ∈ (machine twoSteps).methods (scope twoSteps) ∧
    (method oneStep).print = (method twoSteps).print ∧
    method oneStep ≠ method twoSteps ∧ (method oneStep).live = (method twoSteps).live := by
  have hkept : .operation 0 0 (opening oneStep) (unlock oneStep) ∈
      (MethodPlan.ofMachine (machine oneStep)).kept := by decide +kernel
  have hkept' : .operation 0 0 (opening twoSteps) (unlock twoSteps) ∈
      (MethodPlan.ofMachine (machine twoSteps)).kept := by decide +kernel
  have hone : method oneStep ∈ (machine oneStep).methods (scope oneStep) :=
    List.mem_map.mpr ⟨_, hkept, rfl⟩
  have htwo : method twoSteps ∈ (machine twoSteps).methods (scope twoSteps) :=
    List.mem_map.mpr ⟨_, hkept', rfl⟩
  have htext : (method oneStep).print = (method twoSteps).print := by decide +kernel
  refine ⟨hone, htwo, htext, ?_, ?_⟩
  · intro heq
    have hbody := congrArg Method.body heq
    simp [method, operationMethod, guardedBody, operationEffects, unlock, oneStep, twoSteps,
      stepCode] at hbody
  · exact live_eq_of_print_eq hone htwo (hasWordNames _ (Or.inl rfl)) (hasWordNames _ (Or.inr rfl))
      htext

end Door

end ExecUml
