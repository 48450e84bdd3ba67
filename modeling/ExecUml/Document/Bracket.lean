import ExecUml.Document.Leaf

/-!
# Lists and objects

The punctuation of lists and objects, for any way of reading what stands between it, and on top of
it the reading and the skipping of a whole value.
-/

set_option autoImplicit false

namespace ExecUml.Document

/-- What comes next between two brackets: the closing one, which is taken, or an entry, at which the
text then starts. -/
inductive Turn (s : List Char) where
  | close (rest : List Char) (used : rest.length + 1 ≤ s.length)
  | entry (rest : List Char) (used : rest.length ≤ s.length)

theorem length_after_comma {s r r' : List Char} {c c' : Char} (h : skipSpace s = c :: r)
    (h' : skipSpace r = c' :: r') : (c' :: r').length ≤ s.length :=
  Nat.le_trans (length_of_skipSpace h') (Nat.le_of_lt (length_of_skipSpace h))

theorem used_entry {s r r' : List Char} (h : r.length ≤ s.length) (h' : r'.length + 1 ≤ r.length) :
    r'.length + 1 ≤ s.length + 1 := by
  omega

/-- The next element of a list whose opening bracket was taken; `first` says that none was read yet.
A skipped list leaves a bracket after a comma to whoever reads the element. -/
def nextElement (skipping first : Bool) (s : List Char) : Except Fault (Turn s) :=
  match h : skipSpace s with
  | [] => .error (.next .endInList [])
  | c :: r =>
    if c = ']' then .ok (.close r (length_of_skipSpace h))
    else if first then .ok (.entry (c :: r) (length_of_skipSpace h))
    else if c = ',' then
      match h' : skipSpace r with
      | [] => .error (.next .endInValue [])
      | c' :: r' =>
        if c' = ']' && !skipping then .error (.next .trailingComma (c' :: r'))
        else .ok (.entry (c' :: r') (length_after_comma h h'))
    else .error (.next .expectedListComma (c :: r))

/-- The next member of an object whose opening brace was taken; the text then starts with the quote
of its key. -/
def nextMember (skipping first : Bool) (s : List Char) : Except Fault (Turn s) :=
  match h : skipSpace s with
  | [] => .error (.next .endInObject [])
  | c :: r =>
    if c = '\x7d' then .ok (.close r (length_of_skipSpace h))
    else if first then
      if c = '"' then .ok (.entry (c :: r) (length_of_skipSpace h))
      else .error (.next .keyNotText (c :: r))
    else if c = ',' then
      match h' : skipSpace r with
      | [] => .error (.next (if skipping then .endInObject else .endInValue) [])
      | c' :: r' =>
        if c' = '"' then .ok (.entry (c' :: r') (length_after_comma h h'))
        else if c' = '\x7d' && !skipping then .error (.next .trailingComma (c' :: r'))
        else .error (.next .keyNotText (c' :: r'))
    else .error (.next .expectedObjectComma (c :: r))

/-- Takes the colon after a key. -/
def takeColon (s : List Char) : Except Fault (Taken 1 Unit s) :=
  match h : skipSpace s with
  | [] => .error (.next .endInObject [])
  | c :: r =>
    if c = ':' then .ok ⟨(), r, length_of_skipSpace h⟩
    else .error (.next .expectedColon (c :: r))

/-- The elements of a list up to and with its closing bracket. -/
def readElements {α : Type} (skipping : Bool) (read : Reader α) (first : Bool) (s : List Char) :
    Except Fault (Taken 1 (List α) s) :=
  match nextElement skipping first s with
  | .error f => .error f
  | .ok (.close r h) => .ok ⟨[], r, h⟩
  | .ok (.entry r h) =>
    match read r with
    | .error f => .error f
    | .ok ⟨v, r', h'⟩ =>
      match readElements skipping read false r' with
      | .error f => .error f
      | .ok ⟨vs, r'', h''⟩ => .ok ⟨v :: vs, r'', by omega⟩
termination_by s.length
decreasing_by omega

/-- The members of an object up to and with its closing brace. The reader of a member starts at the
quote of its key and is given what the members before it left. -/
def readMembers {σ : Type} (skipping : Bool) (read : σ → Reader σ) (first : Bool) (acc : σ)
    (s : List Char) : Except Fault (Taken 1 σ s) :=
  match nextMember skipping first s with
  | .error f => .error f
  | .ok (.close r h) => .ok ⟨acc, r, h⟩
  | .ok (.entry r h) =>
    match read acc r with
    | .error f => .error f
    | .ok ⟨acc', r', h'⟩ =>
      match readMembers skipping read false acc' r' with
      | .error f => .error f
      | .ok x => .ok (x.within 1 (used_entry h h'))
termination_by s.length
decreasing_by omega

/-! ## Whole values -/

theorem used_member {s r r' r'' : List Char} (h : r.length + 1 ≤ s.length)
    (h' : r'.length + 1 ≤ r.length) (h'' : r''.length + 1 ≤ r'.length) :
    r''.length + 1 ≤ s.length :=
  Taken.used_trans h (Taken.used_trans h' h'')

section Used

variable {s r r' : List Char} {c : Char} (h : skipSpace s = c :: r)
include h

theorem used_front : (c :: r).length + 1 ≤ s.length + 1 := Nat.succ_le_succ (length_of_skipSpace h)

theorem used_behind : r.length + 1 ≤ s.length + 1 := Nat.le_succ_of_le (length_of_skipSpace h)

theorem used_scalar (h' : r'.length + 1 ≤ (c :: r).length) : r'.length + 1 ≤ s.length :=
  Nat.le_trans h' (length_of_skipSpace h)

theorem used_enclosed (h' : r'.length + 1 ≤ r.length) : r'.length + 1 ≤ s.length :=
  Taken.used_trans (length_of_skipSpace h) h'

end Used

/-- One member of an object: its key, the colon and the value. -/
def readMember {α : Type} (read : Reader α) (acc : List (String × α)) :
    Reader (List (String × α)) := fun s => do
  let ⟨key, r, h⟩ ← readText s
  let ⟨_, r', h'⟩ ← takeColon r
  let ⟨v, r'', h''⟩ ← read r'
  return ⟨putMember key v acc, r'', used_member h h' h''⟩

/-- A value with at most `depth` brackets open at a time. -/
def readValue (depth : Nat) (s : List Char) : Except Fault (Taken 1 Value s) :=
  match h : skipSpace s with
  | [] => .error (.next .endInValue [])
  | c :: r =>
    match depth with
    | 0 =>
      if c = '[' || c = '\x7b' then .error (.next .nestedTooDeep (c :: r))
      else do
        let ⟨v, r', h'⟩ ← readScalar (c :: r)
        return ⟨.scalar v, r', used_scalar h h'⟩
    | depth + 1 =>
      if c = '[' then do
        let ⟨vs, r', h'⟩ ← readElements false (readValue depth) true r
        return ⟨.list vs, r', used_enclosed h h'⟩
      else if c = '\x7b' then do
        let ⟨ms, r', h'⟩ ← readMembers false (readMember (readValue depth)) true [] r
        return ⟨.object ms, r', used_enclosed h h'⟩
      else do
        let ⟨v, r', h'⟩ ← readScalar (c :: r)
        return ⟨.scalar v, r', used_scalar h h'⟩

/-- One skipped member: its key is not looked at. -/
def skipMember (skip : Reader Unit) : Reader Unit := fun s =>
  match s with
  | [] => .error (.next .keyNotText [])
  | c :: q => do
    let ⟨_, r, h⟩ ← skipChars q
    let ⟨_, r', h'⟩ ← takeColon r
    let ⟨_, r'', h''⟩ ← skip r'
    return ⟨(), r'', Taken.used_cons c (used_member h h' h'')⟩

/-- Skips a value with at most `depth` brackets open at a time. -/
def skipNested (depth : Nat) (s : List Char) : Except Fault (Taken 1 Unit s) :=
  match h : skipSpace s with
  | [] => .error (.next .endInValue [])
  | c :: r =>
    match depth with
    | 0 => .error (.next .endInValue [])
    | depth + 1 =>
      if c = '[' then do
        let ⟨_, r', h'⟩ ← readElements true (skipNested depth) true r
        return ⟨(), r', used_enclosed h h'⟩
      else if c = '\x7b' then do
        let x ← readMembers true (fun _ => skipMember (skipNested depth)) true () r
        return x.within 1 (used_behind h)
      else do
        let x ← skipScalar (c :: r)
        return x.within 1 (used_front h)

/-- Skips a value. A text has no more brackets than characters, so nesting is not limited. -/
def skipValue (s : List Char) : Except Fault (Taken 1 Unit s) := skipNested s.length s

end ExecUml.Document
