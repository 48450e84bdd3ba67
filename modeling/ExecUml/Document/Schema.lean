import ExecUml.Document.Bracket

/-!
# Documents of a given shape

A schema names the kinds of record a document is made of and their fields. A record is written as
an object, whose unknown keys are skipped, or as a list that gives the fields in declared order. A
field may always be absent or null.

The contents of a record keep the keys under which the schema declares its fields, whichever of
their spellings the document uses.
-/

set_option autoImplicit false

namespace ExecUml.Document

/-- What a field holds, where `κ` names the kinds of record. -/
inductive FieldType (κ : Type) where
  /-- A string, a number or a flag, kept as text. -/
  | text
  | flag
  | list (of : κ)
  | record (of : κ)

structure FieldDecl (κ : Type) where
  key : String
  /-- Further spellings of the key. -/
  aliases : List String
  type : FieldType κ

structure Schema (κ : Type) where
  /-- The name of a kind of record in messages. -/
  title : κ → String
  fields : κ → List (FieldDecl κ)

/-- The field that a key of a document spells. -/
def Schema.field? {κ : Type} (S : Schema κ) (k : κ) (key : String) : Option (FieldDecl κ) :=
  (S.fields k).find? fun f => f.key == key || f.aliases.contains key

/-- What was read at a field. A record has its fields that were given and not null. -/
inductive Content where
  | text (s : String)
  | flag (b : Bool)
  | list (items : List Content)
  | record (members : List (String × Content))

namespace Content

def field? : Content → String → Option Content
  | record members, key => members.lookup key
  | _, _ => none

def asText? : Content → Option String
  | text s => some s
  | _ => none

def asFlag? : Content → Option Bool
  | flag b => some b
  | _ => none

def asList? : Content → Option (List Content)
  | list items => some items
  | _ => none

def text? (c : Content) (key : String) : Option String := (c.field? key).bind asText?

def flag? (c : Content) (key : String) : Option Bool := (c.field? key).bind asFlag?

def list? (c : Content) (key : String) : Option (List Content) := (c.field? key).bind asList?

end Content

/-- The part of a record read so far: the keys met, and the contents that were not null. -/
structure Filled where
  seen : List String
  members : List (String × Content)

def Filled.put (r : Filled) (key : String) : Option Content → Filled
  | none => ⟨key :: r.seen, r.members⟩
  | some c => ⟨key :: r.seen, r.members ++ [(key, c)]⟩

/-- The fault of a value of another kind than the expected one. Lists and objects are not read. -/
def wrongKind {α : Type} (expected : String) (s : List Char) : Except Fault α :=
  match s with
  | '[' :: _ => .error (.here (.wrongKind .list expected) s)
  | '\x7b' :: _ => .error (.here (.wrongKind .object expected) s)
  | s => do
    let x ← readScalar s
    throw (.here (.wrongKind (.scalar x.value) expected) x.rest)

/-- The text of a scalar field. -/
def readTextField (depth : Nat) (s : List Char) : Except Fault (Taken 1 Content s) := do
  let x ← readValue depth s
  match x.value with
  | .scalar (.text t) => return ⟨.text t, x.rest, x.used⟩
  | .scalar (.number n) => return ⟨.text n.text, x.rest, x.used⟩
  | .scalar (.flag b) => return ⟨.text (flagText b), x.rest, x.used⟩
  | v => throw (.floating (.notText v) x.rest)

def readFlagField (s : List Char) : Except Fault (Taken 1 Content s) :=
  match s with
  | 't' :: r => do
    let x ← takeWord ['r', 'u', 'e'] r
    return ⟨.flag true, x.rest, by have := x.used; simp only [List.length_cons]; omega⟩
  | 'f' :: r => do
    let x ← takeWord ['a', 'l', 's', 'e'] r
    return ⟨.flag false, x.rest, by have := x.used; simp only [List.length_cons]; omega⟩
  | s => wrongKind "a boolean" s

/-- A value or null. -/
def readOptional {α : Type} (read : Reader α) (s : List Char) :
    Except Fault (Taken 1 (Option α) s) :=
  have hs := length_skipSpace_le s
  match h : skipSpace s with
  | 'n' :: r => do
    let x ← takeWord ['u', 'l', 'l'] r
    return ⟨none, x.rest, by
      have := x.used; rw [h] at hs; simp only [List.length_cons] at hs; omega⟩
  | r => do
    let x ← read r
    return ⟨some x.value, x.rest, by have := x.used; rw [h] at hs; omega⟩

/-- What an object that is given up still takes: its closing brace. -/
def closeObject (s : List Char) : List Char :=
  match skipSpace s with
  | '\x7d' :: r => r
  | r => r

/-- What a list that is given up still takes: its closing bracket, or a comma. -/
def closeList (s : List Char) : List Char :=
  match skipSpace s with
  | ']' :: r => r
  | ',' :: r => skipSpace r
  | r => r

/-- The end of a list after its last field. -/
def endList (s : List Char) : Except Fault (Taken 1 Unit s) :=
  have hs := length_skipSpace_le s
  match h : skipSpace s with
  | [] => .error (.next .endInList [])
  | ']' :: r => .ok ⟨(), r, by rw [h] at hs; exact hs⟩
  | ',' :: r =>
    match skipSpace r with
    | ']' :: r' => .error (.next .trailingComma (']' :: r'))
    | r' => .error (.next .trailingText r')
  | r => .error (.next .trailingText r)

/-- The fields of a record written as a list. -/
def readInOrder {κ : Type} (read : FieldType κ → Reader (Option Content)) :
    (first : Bool) → List (FieldDecl κ) → Filled → (s : List Char) → Except Fault (Taken 1 Filled s)
  | _, [], acc, s => do
    let x ← endList s
    return ⟨acc, x.rest, x.used⟩
  | first, f :: fs, acc, s =>
    match nextElement false first s with
    | .error e => .error e
    | .ok (.close r h) => .ok ⟨acc, r, h⟩
    | .ok (.entry r h) => do
      let ⟨c, r', h'⟩ ← read f.type r
      let x ← readInOrder read false fs (acc.put f.key c) r'
      return x.within 1 (used_entry h h')

/-- A member of a record written as an object. -/
def readField {κ : Type} (field? : String → Option (FieldDecl κ))
    (read : FieldType κ → Reader (Option Content)) (acc : Filled) : Reader Filled := fun s => do
  let ⟨key, r, h⟩ ← readText s
  match field? key with
  | none => do
    let ⟨_, r', h'⟩ ← takeColon r
    let ⟨_, r'', h''⟩ ← skipValue r'
    return ⟨acc, r'', used_member h h' h''⟩
  | some f =>
    if acc.seen.contains f.key then throw (.floating (.repeatedField f.key) r)
    else do
      let ⟨_, r', h'⟩ ← takeColon r
      let ⟨c, r'', h''⟩ ← read f.type r'
      return ⟨acc.put f.key c, r'', used_member h h' h''⟩

/-- Settles the open faults of a reader. -/
def settling {α : Type} {s : List Char} (close : List Char → List Char)
    (x : Except Fault (Taken 1 α s)) : Except Fault (Taken 1 α s) :=
  x.mapError (·.settle close)

/-- A record of kind `k`, given how its fields are read. The text starts with it. -/
def readRecord {κ : Type} (S : Schema κ) (k : κ) (read : FieldType κ → Reader (Option Content))
    (s : List Char) : Except Fault (Taken 1 Content s) :=
  match s with
  | '[' :: r => do
    let x ← settling closeList (readInOrder read true (S.fields k) ⟨[], []⟩ r)
    return ⟨.record x.value.members, x.rest, by
      have := x.used; simp only [List.length_cons]; omega⟩
  | '\x7b' :: r => do
    let x ← settling closeObject (readMembers false (readField (S.field? k) read) true ⟨[], []⟩ r)
    return ⟨.record x.value.members, x.rest, by
      have := x.used; simp only [List.length_cons]; omega⟩
  | s => wrongKind ("struct " ++ S.title k) s

/-- A list whose elements are read by `read`. The text starts with it. -/
def readList (read : Reader Content) (s : List Char) : Except Fault (Taken 1 Content s) :=
  match s with
  | '[' :: r => do
    let x ← readElements false read true r
    return ⟨.list x.value, x.rest, by have := x.used; simp only [List.length_cons]; omega⟩
  | s => wrongKind "a sequence" s

/-- Whether a list or an object starts here. -/
def opens (s : List Char) : Bool :=
  match s with
  | '[' :: _ => true
  | '\x7b' :: _ => true
  | _ => false

/-- The content of a field that is not null, with at most `depth` brackets open at a time. -/
def readContent {κ : Type} (S : Schema κ) (depth : Nat) (type : FieldType κ) (s : List Char) :
    Except Fault (Taken 1 Content s) :=
  match h : skipSpace s with
  | [] => .error (.next .endInValue [])
  | c :: r =>
    match depth, type with
    | depth, .text => do
      let x ← readTextField depth (c :: r)
      return x.within 1 (used_front h)
    | _, .flag => do
      let x ← readFlagField (c :: r)
      return x.within 1 (used_front h)
    | 0, .list _ =>
      if c = '[' then .error (.next .nestedTooDeep (c :: r)) else wrongKind "a sequence" (c :: r)
    | depth + 1, .list k => do
      let x ← readList (readContent S depth (.record k)) (c :: r)
      return x.within 1 (used_front h)
    | 0, .record k =>
      if opens (c :: r) then .error (.next .nestedTooDeep (c :: r))
      else wrongKind ("struct " ++ S.title k) (c :: r)
    | depth + 1, .record k => do
      let x ← readRecord S k (fun t => readOptional (readContent S depth t)) (c :: r)
      return x.within 1 (used_front h)

/-- The number of brackets that may be open at a time. -/
def depthLimit : Nat := 127

/-- The record of kind `k` that a document holds, if it is not null. -/
def Schema.read {κ : Type} (S : Schema κ) (k : κ) (text : List Char) :
    Except Fault (Option Content) := do
  let x ← readOptional (readContent S depthLimit (.record k)) text
  match skipSpace x.rest with
  | [] => return x.value
  | r => throw (.next .trailingText r)

end ExecUml.Document
