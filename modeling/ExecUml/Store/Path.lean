import ExecUml.Text.Blank

/-!
# Paths

A path is a text whose names are separated by slashes. It is absolute if it starts with one.
-/

set_option autoImplicit false

namespace ExecUml.Path

def isAbsolute (path : String) : Bool := path.toList.head? == some '/'

/-- The pieces between slashes, empty ones included. -/
def pieces (path : String) : List String :=
  (Text.splitWhere (· == '/') path.toList).map String.ofList

/-- The names between slashes in order. -/
def entries (path : String) : List String := (pieces path).filter (!·.isEmpty)

/-- The names of a path in order. A slash at the end asks for a directory, as `.` would. -/
def names (path : String) : List String :=
  if (pieces path).getLast? == some "" && !(entries path).isEmpty then entries path ++ ["."]
  else entries path

/-- The path of `file` below `directory`; an absolute path stays what it is. -/
def join (directory file : String) : String :=
  if isAbsolute file || directory.isEmpty then file
  else if directory.toList.getLast? == some '/' then directory ++ file
  else directory ++ "/" ++ file

/-- Removes slashes and dots from the end of a path, given backwards; the root keeps its slash. -/
def trimBack : List Char → List Char
  | ['/'] => ['/']
  | '/' :: cs => trimBack cs
  | '.' :: '/' :: cs => if cs.isEmpty then ['/'] else trimBack cs
  | cs => cs

theorem length_trimBack_le (cs : List Char) : (trimBack cs).length ≤ cs.length := by
  fun_induction trimBack cs with
  | case1 => simp
  | case2 cs _ ih => simp only [List.length_cons]; omega
  | case3 cs h => simp
  | case4 cs h ih => simp only [List.length_cons]; omega
  | case5 cs => exact Nat.le_refl _

/-- Nothing but the root ends in a slash after trimming. -/
theorem trimBack_eq_root_or (cs : List Char) :
    trimBack cs = ['/'] ∨ (trimBack cs).head? ≠ some '/' := by
  fun_induction trimBack cs with
  | case1 => exact .inl rfl
  | case2 cs _ ih => exact ih
  | case3 cs h => exact .inl rfl
  | case4 cs h ih => exact ih
  | case5 cs _ hslash _ =>
    right
    intro h
    cases cs with
    | nil => simp at h
    | cons c cs =>
      have hc : c = '/' := by simpa using h
      exact hslash cs (by rw [hc])

/-- The path without its last name; slashes and dots at the end are no names. The root and the empty
path have none. -/
def parent? (path : String) : Option String :=
  match trimBack path.toList.reverse with
  | [] => none
  | ['/'] => none
  | back => some (String.ofList (trimBack (back.dropWhile (· != '/'))).reverse)

def parent (path : String) : String := (parent? path).getD ""

theorem length_dropName_lt {c : Char} (cs : List Char) (h : c ≠ '/') :
    ((c :: cs).dropWhile (· != '/')).length < (c :: cs).length := by
  rw [List.dropWhile_cons_of_pos (by simpa using h)]
  have := (List.dropWhile_suffix (l := cs) (fun x => x != '/')).length_le
  simp only [List.length_cons]
  omega

theorem length_parent?_lt {path up : String} (h : parent? path = some up) :
    up.length < path.length := by
  unfold parent? at h
  have hl := length_trimBack_le path.toList.reverse
  have hr := trimBack_eq_root_or path.toList.reverse
  generalize trimBack path.toList.reverse = back at h hl hr
  split at h
  · simp at h
  · simp at h
  · rename_i hnil hroot
    cases back with
    | nil => exact absurd rfl hnil
    | cons c cs =>
      have hc : c ≠ '/' := by
        rcases hr with hr | hr
        · exact absurd hr hroot
        · simpa using hr
      have hd := length_dropName_lt cs hc
      have ht := length_trimBack_le ((c :: cs).dropWhile (· != '/'))
      cases h
      simp only [String.length_ofList, List.length_reverse]
      simp only [List.length_reverse, String.length_toList] at hl
      omega

/-- The last name of a path, if it is the name of an entry. -/
def fileName? (path : String) : Option String :=
  match ((names path).filter (· != ".")).getLast? with
  | some ".." => none
  | name => name

/-- What follows the last dot of a name, unless that is its first character. -/
def nameExtension? (name : String) : Option String :=
  let back := name.toList.reverse
  match back.dropWhile (· != '.') with
  | _ :: _ :: _ => some (String.ofList (back.takeWhile (· != '.')).reverse)
  | _ => none

def extension? (path : String) : Option String := (fileName? path).bind nameExtension?

end ExecUml.Path
