import ExecUml.Proofs.ScriptLexis
import ExecUml.Script.Printer
import Mathlib.Data.List.Forall2

/-!
# Text in comments

Text of a model that is written into a comment stays there. A comment on lines of its own puts its
mark in front of every physical line of the text, and a block comment holds no end but its own. So a
reader that stands in front of such a comment comes out behind it, whatever the text is and whatever
follows.

Nothing is said here about text outside of comments.
-/

set_option autoImplicit false

namespace ExecUml.Script

open Text (splitWhere isLineEnd physicalLines afterFront? replaceAll)

/-! ## Lines -/

def scriptLines (text : List Char) : List (List Char) := text.splitOnP lineTerminators.contains

theorem splitWhere_eq_splitOnP (p : Char → Bool) (cs : List Char) :
    splitWhere p cs = cs.splitOnP p := by
  induction cs with
  | nil => rfl
  | cons c cs ih =>
    rw [List.splitOnP_cons_eq_if_modifyHead, ← ih]
    cases hc : p c with
    | true => rw [Text.splitWhere_cons_of_pos hc, if_pos rfl]
    | false => rw [Text.splitWhere_cons_of_neg hc, if_neg (by simp)]

theorem map_toList_physicalLines (s : String) :
    (physicalLines s).map String.toList = scriptLines s.toList := by
  have hend : isLineEnd = lineTerminators.contains := by
    funext c
    rw [Bool.eq_iff_iff]
    simp [isLineEnd, lineTerminators, or_assoc]
  simp [physicalLines, scriptLines, splitWhere_eq_splitOnP, hend, Function.comp_def]

theorem onOneLine_of_mem_scriptLines {text line : List Char} (h : line ∈ scriptLines text) :
    OnOneLine line := by
  intro c hc
  rw [scriptLines, ← splitWhere_eq_splitOnP] at h
  simpa using Text.not_separator_of_mem_splitWhere h hc

def endedLines (lines : List (List Char)) : List Char := lines.flatMap (· ++ ['\n'])

section Ended

variable {lines : List (List Char)} (h : ∀ line ∈ lines, OnOneLine line)
include h

theorem scriptLines_endedLines : scriptLines (endedLines lines) = lines ++ [[]] := by
  induction lines with
  | nil => rfl
  | cons line lines ih =>
    obtain ⟨hline, hlines⟩ := List.forall_mem_cons.mp h
    have hcut :
        scriptLines (line ++ '\n' :: endedLines lines) = line :: scriptLines (endedLines lines) :=
      List.splitOnP_append_cons_of_forall_mem (by simpa [OnOneLine] using hline) '\n' rfl _
    rw [endedLines, List.flatMap_cons, List.append_assoc]
    exact hcut.trans (by rw [ih hlines, List.cons_append])

theorem eq_lineFeed_of_mem_endedLines {c : Char} (hc : c ∈ endedLines lines)
    (hend : c ∈ lineTerminators) :
    c = '\n' := by
  obtain ⟨line, hline, hc⟩ := List.mem_flatMap.mp hc
  rcases List.mem_append.mp hc with hc | hc
  · exact absurd hend (h line hline c hc)
  · exact List.mem_singleton.mp hc

end Ended

theorem toList_indentation (level : Nat) :
    (indentation level).toList = List.replicate (2 * level) ' ' := by
  simp [indentation]

/-! ## Comments on lines of their own -/

/-- The text that a statement writes into comments. -/
def Stmt.remark? : Stmt → Option String
  | .comment text => some text
  | .disabled inner => some (dropFinalLineFeeds (inner.print 0))
  | _ => none

def remarkFront (level : Nat) : List Char := List.replicate (2 * level) ' ' ++ ['/', '/', ' ']

theorem toList_lineComment_ended (level : Nat) (text : String) :
    (lineComment level text).toList = endedLines
      ((scriptLines text.toList).map (remarkFront level ++ ·)) := by
  rw [← map_toList_physicalLines]
  simp [lineComment, endedLines, remarkFront, toList_indentation, List.flatMap_map]

theorem onOneLine_remarks (level : Nat) (text : List Char) :
    ∀ line ∈ (scriptLines text).map (remarkFront level ++ ·), OnOneLine line := by
  intro line hline
  obtain ⟨given, hgiven, rfl⟩ := List.mem_map.mp hline
  have hfront : OnOneLine (remarkFront level) := (onOneLine_blanks _).append (by decide)
  exact hfront.append (onOneLine_of_mem_scriptLines hgiven)

theorem skipTrivia_remarks (level : Nat) {lines : List (List Char)}
    (h : ∀ line ∈ lines, OnOneLine line) (rest : List Char) :
    skipTrivia (endedLines (lines.map (remarkFront level ++ ·)) ++ rest) = skipTrivia rest := by
  induction lines with
  | nil => rfl
  | cons line lines ih =>
    obtain ⟨hline, hlines⟩ := List.forall_mem_cons.mp h
    have hmark : OnOneLine (' ' :: line) := List.forall_mem_cons.mpr ⟨by decide, hline⟩
    have hcons : endedLines ((line :: lines).map (remarkFront level ++ ·)) ++ rest =
        List.replicate (2 * level) ' ' ++ '/' :: '/' :: ((' ' :: line) ++ '\n' ::
          (endedLines (lines.map (remarkFront level ++ ·)) ++ rest)) := by
      simp [endedLines, remarkFront]
    rw [hcons, skipTrivia_blanks, skipTrivia_line hmark, ih hlines]

/-- A comment, or a statement that is written as a comment, consists of lines with the mark in
front, and a reader skips all of it. -/
theorem remarks_stay_commented {s : Stmt} {text : String} (h : s.remark? = some text)
    (level : Nat) :
    scriptLines (s.print level).toList =
      (scriptLines text.toList).map (remarkFront level ++ ·) ++ [[]] ∧
    (∀ c ∈ (s.print level).toList, c ∈ lineTerminators → c = '\n') ∧
    ∀ rest, skipTrivia ((s.print level).toList ++ rest) = skipTrivia rest := by
  -- Whatever the inner statement is, its text is cut into lines only once it is complete.
  have hprint : s.print level = lineComment level text := by
    cases s with
    | comment given =>
      cases h
      rfl
    | disabled inner =>
      cases h
      rfl
    | _ => cases h
  rw [hprint, toList_lineComment_ended]
  have hlines := onOneLine_remarks level text.toList
  refine ⟨scriptLines_endedLines hlines, ?_, ?_⟩
  · intro c hc hend
    exact eq_lineFeed_of_mem_endedLines hlines hc hend
  · intro rest
    exact skipTrivia_remarks level (fun line hline => onOneLine_of_mem_scriptLines hline) rest

/-! A guard that is written as a comment, with line terminators of all kinds in its text. -/

def disabledGuard : Stmt :=
  .disabled (.cond (.strictEq (.member "state") (.string "on\r"))
    [.comment "was\u2028alarm();", .disabled (.expression (.verbatim "x\u2029y")),
      .ret (.templateText "a\r\nb")])

def disabledGuardText : String :=
  "if (this.state === 'on\\r') \x7b\n  // was\n  // alarm();\n  // x\n  // y;\n"
    ++ "  return `a\r\nb`;\n\x7d"

theorem disabledGuard_stays_commented :
    disabledGuard.remark? = some disabledGuardText ∧
    scriptLines (disabledGuard.print 1).toList =
      ["  // if (this.state === 'on\\r') \x7b", "  //   // was", "  //   // alarm();",
        "  //   // x", "  //   // y;", "  //   return `a", "  // ", "  // b`;", "  // \x7d",
        ""].map String.toList ∧
    ∀ rest, skipTrivia ((disabledGuard.print 1).toList ++ rest) = skipTrivia rest := by
  have hremark : disabledGuard.remark? = some disabledGuardText := by decide +kernel
  obtain ⟨hlines, -, hskip⟩ := remarks_stay_commented hremark 1
  exact ⟨hremark, hlines.trans (by decide +kernel), hskip⟩

/-! ## Block comments -/

section NeverCloses

variable {u v : List Char}

theorem NeverCloses.append (hu : NeverCloses u) (hv : NeverCloses v)
    (h : u.getLast? ≠ some '*' ∨ v.head? ≠ some '/') : NeverCloses (u ++ v) := by
  refine List.isChain_append.mpr ⟨hu, hv, ?_⟩
  rintro x hx y hy ⟨rfl, rfl⟩
  rcases h with h | h
  · exact h hx
  · exact h hy

theorem neverCloses_of_not_mem (h : '/' ∉ u) : NeverCloses u := by
  apply List.isChain_iff_forall_rel_of_append_cons_cons.mpr
  rintro x y before after rfl ⟨-, rfl⟩
  exact h (by simp)

theorem NeverCloses.append_of_not_mem (hu : NeverCloses u) (hv : '/' ∉ v) : NeverCloses (u ++ v) :=
  hu.append (neverCloses_of_not_mem hv) (.inr fun hhead => hv (List.mem_of_head? hhead))

theorem neverCloses_endedLines {lines : List (List Char)} (h : ∀ line ∈ lines, NeverCloses line) :
    NeverCloses (endedLines lines) := by
  induction lines with
  | nil => exact .nil
  | cons line lines ih =>
    obtain ⟨hline, hlines⟩ := List.forall_mem_cons.mp h
    have hended : NeverCloses (line ++ ['\n']) := hline.append_of_not_mem (by decide)
    exact hended.append (ih hlines) (.inl (by simp))

/-- After a text that closes nothing, the end of a comment stands at one place only. -/
theorem closes_once {tail before after : List Char} (hu : NeverCloses u)
    (htail : NeverCloses ('/' :: tail))
    (h : u ++ '*' :: '/' :: tail = before ++ '*' :: '/' :: after) : before = u ∧ after = tail := by
  induction u generalizing before with
  | nil =>
    cases before with
    | nil =>
      simp only [List.nil_append, List.cons.injEq, true_and] at h
      exact ⟨rfl, h.symm⟩
    | cons b before =>
      have hafter : '/' :: tail = before ++ '*' :: '/' :: after := (List.cons.inj h).2
      rw [hafter] at htail
      exact absurd ⟨rfl, rfl⟩ (List.isChain_append_cons_cons.mp htail).2.1
  | cons c u ih =>
    obtain ⟨hhead, hu⟩ := List.isChain_cons.mp hu
    cases before with
    | nil =>
      obtain ⟨rfl, hnext⟩ := List.cons.inj h
      cases u with
      | nil => simp at hnext
      | cons d u =>
        have hd : d = '/' := (List.cons.inj hnext).1
        exact absurd ⟨rfl, hd⟩ (hhead d rfl)
    | cons b before =>
      obtain ⟨rfl, hrest⟩ := List.cons.inj h
      obtain ⟨rfl, hafter⟩ := ih hu hrest
      exact ⟨rfl, hafter⟩

end NeverCloses

/-- The text of a line with every end of a comment in it broken. -/
def brokenEnds (line : List Char) : List Char := replaceAll ['*', '/'] ['*', '\\', '/'] line

theorem front_of_afterFront? {c : Char} {cs : List Char}
    (h : (afterFront? ['*', '/'] (c :: cs)).isSome = true) :
    ∃ rest, c = '*' ∧ cs = '/' :: rest := by
  obtain ⟨rest, hrest⟩ := Option.isSome_iff_exists.mp h
  have hfront := Text.afterFront?_eq_some_iff.mp hrest
  simp only [List.cons_append, List.nil_append, List.cons.injEq] at hfront
  exact ⟨rest, hfront⟩

theorem head?_brokenEnds (line : List Char) : (brokenEnds line).head? = line.head? := by
  unfold brokenEnds
  fun_cases replaceAll ['*', '/'] ['*', '\\', '/'] line with
  | case1 => rfl
  | case2 c cs hfront =>
    obtain ⟨rest, rfl, -⟩ := front_of_afterFront? hfront
    rfl
  | case3 c cs => rfl

theorem neverCloses_brokenEnds (line : List Char) : NeverCloses (brokenEnds line) := by
  unfold brokenEnds
  fun_induction replaceAll ['*', '/'] ['*', '\\', '/'] line with
  | case1 => exact .nil
  | case2 c cs _ ih =>
    have hbroken : NeverCloses ['*', '\\', '/'] := by simp [NeverCloses]
    exact hbroken.append ih (.inl (by decide))
  | case3 c cs hfront ih =>
    refine List.isChain_cons.mpr ⟨?_, ih⟩
    rintro d hd ⟨rfl, rfl⟩
    -- The first character stays, so that the end would have been in the text.
    have hcs : cs.head? = some '/' := (head?_brokenEnds cs).symm.trans hd
    cases cs with
    | nil => cases hcs
    | cons d cs =>
      cases hcs
      exact hfront rfl

theorem sublist_brokenEnds (line : List Char) : line.Sublist (brokenEnds line) := by
  unfold brokenEnds
  fun_induction replaceAll ['*', '/'] ['*', '\\', '/'] line with
  | case1 => exact .slnil
  | case2 c cs hfront ih =>
    obtain ⟨rest, rfl, rfl⟩ := front_of_afterFront? hfront
    exact .cons_cons '*' (.cons '\\' (.cons_cons '/' ih))
  | case3 c cs _ ih => exact .cons_cons c ih

theorem mem_of_mem_replaceAll {pat new cs : List Char} {c : Char} (h : c ∈ replaceAll pat new cs) :
    c ∈ cs ∨ c ∈ new := by
  fun_induction replaceAll pat new cs with
  | case1 => exact .inl h
  | case2 d cs _ ih =>
    rcases List.mem_append.mp h with h | h
    · exact .inr h
    · exact (ih h).imp_left fun hdrop => List.mem_cons_of_mem d (List.mem_of_mem_drop hdrop)
  | case3 d cs _ ih =>
    rcases List.mem_cons.mp h with rfl | h
    · exact .inl List.mem_cons_self
    · exact (ih h).imp_left (List.mem_cons_of_mem d)

theorem onOneLine_brokenEnds {line : List Char} (h : OnOneLine line) :
    OnOneLine (brokenEnds line) := by
  have hnew : OnOneLine ['*', '\\', '/'] := by decide
  intro c hc
  rcases mem_of_mem_replaceAll hc with hc | hc
  · exact h c hc
  · exact hnew c hc

def blockFront (level : Nat) : List Char := List.replicate (2 * level) ' ' ++ [' ', '*']

def blockLine (level : Nat) (line : List Char) : List Char :=
  blockFront level ++ (if line = [] then [] else ' ' :: brokenEnds line)

theorem toList_commentBodyLine (level : Nat) (line : String) :
    (commentBodyLine level line).toList = blockLine level line.toList ++ ['\n'] := by
  by_cases h : line = ""
  · simp [commentBodyLine, blockLine, blockFront, toList_indentation, h]
  · simp [commentBodyLine, blockLine, blockFront, brokenEnds, toList_indentation, Text.replace, h]

theorem neverCloses_blockLine (level : Nat) (line : List Char) :
    NeverCloses (blockLine level line) := by
  have hfront : NeverCloses (blockFront level) :=
    neverCloses_of_not_mem (by simp [blockFront, List.mem_replicate])
  unfold blockLine
  split
  · rwa [List.append_nil]
  · have htext : NeverCloses (' ' :: brokenEnds line) :=
      NeverCloses.append (.singleton ' ') (neverCloses_brokenEnds line) (.inl (by decide))
    exact hfront.append htext (.inr (by simp))

theorem onOneLine_blockLine (level : Nat) {line : List Char} (h : OnOneLine line) :
    OnOneLine (blockLine level line) := by
  have hfront : OnOneLine (blockFront level) := (onOneLine_blanks _).append (by decide)
  apply hfront.append
  split
  · decide
  · exact List.forall_mem_cons.mpr ⟨by decide, onOneLine_brokenEnds h⟩

/-- Behind its front, a line of a comment shows all of its text. -/
theorem shown_in_blockLine (level : Nat) (line : List Char) :
    blockFront level <+: blockLine level line ∧ line.Sublist (blockLine level line) := by
  refine ⟨List.prefix_append _ _, ?_⟩
  unfold blockLine
  split
  · simp_all
  · exact ((sublist_brokenEnds line).cons ' ').trans (List.sublist_append_right _ _)

section Block

variable (level : Nat) (lines : List String)

def blockLines : List (List Char) :=
  (lines.flatMap fun line => scriptLines line.toList).map (blockLine level)

/-- What stands between the opening of a block comment and its end. -/
def blockBody : List Char :=
  '*' :: '\n' :: (endedLines (blockLines level lines) ++ (List.replicate (2 * level) ' ' ++ [' ']))

theorem toList_blockComment :
    (blockComment level lines).toList =
      List.replicate (2 * level) ' ' ++ '/' :: '*' ::
        (blockBody level lines ++ '*' :: '/' :: ['\n']) := by
  have hlines : (lines.flatMap fun line => scriptLines line.toList) =
      (lines.flatMap physicalLines).map String.toList := by
    rw [List.map_flatMap]
    exact List.flatMap_congr fun line _ => (map_toList_physicalLines line).symm
  simp [blockComment, blockBody, blockLines, endedLines, hlines, toList_indentation,
    List.flatMap_map, toList_commentBodyLine]

theorem toList_blockComment_ended :
    (blockComment level lines).toList =
      endedLines ((List.replicate (2 * level) ' ' ++ ['/', '*', '*']) ::
        (blockLines level lines ++ [List.replicate (2 * level) ' ' ++ [' ', '*', '/']])) := by
  simp [toList_blockComment, blockBody, endedLines]

theorem onOneLine_blockLines : ∀ line ∈ blockLines level lines, OnOneLine line := by
  intro line hline
  obtain ⟨given, hgiven, rfl⟩ := List.mem_map.mp hline
  obtain ⟨_, -, hgiven⟩ := List.mem_flatMap.mp hgiven
  exact onOneLine_blockLine level (onOneLine_of_mem_scriptLines hgiven)

theorem neverCloses_blockBody : NeverCloses (blockBody level lines) := by
  have hlines : NeverCloses (endedLines (blockLines level lines)) := by
    apply neverCloses_endedLines
    intro line hline
    obtain ⟨given, -, rfl⟩ := List.mem_map.mp hline
    exact neverCloses_blockLine level given
  have hrest := hlines.append_of_not_mem (v := List.replicate (2 * level) ' ' ++ [' ']) (by simp)
  have hopening : NeverCloses ['*', '\n'] := by simp [NeverCloses]
  exact hopening.append hrest (.inl (by decide))

theorem neverCloses_opened :
    NeverCloses (List.replicate (2 * level) ' ' ++ '/' :: '*' :: blockBody level lines) := by
  have hblanks : NeverCloses (List.replicate (2 * level) ' ') := neverCloses_of_not_mem (by simp)
  have hopening : NeverCloses ['/', '*'] := by simp [NeverCloses]
  have hopened := hopening.append (neverCloses_blockBody level lines) (.inr (by simp [blockBody]))
  exact hblanks.append hopened (.inl (by simp [List.getLast?_replicate]))

end Block

/-- A block comment holds no end of a comment but its own and no line terminator but line feeds,
every line of the text stands behind the front in a line of its own, and a reader comes out behind
the comment. -/
theorem blockComment_closed_by_its_end (level : Nat) (lines : List String) :
    (∃ body, (blockComment level lines).toList = body ++ '*' :: '/' :: ['\n'] ∧
      ∀ before after, (blockComment level lines).toList = before ++ '*' :: '/' :: after →
        before = body ∧ after = ['\n']) ∧
    (∃ middle, scriptLines (blockComment level lines).toList =
        (List.replicate (2 * level) ' ' ++ ['/', '*', '*']) ::
          (middle ++ [List.replicate (2 * level) ' ' ++ [' ', '*', '/'], []]) ∧
      List.Forall₂ (fun given shown => blockFront level <+: shown ∧ given.Sublist shown)
        (lines.flatMap fun line => scriptLines line.toList) middle) ∧
    (∀ c ∈ (blockComment level lines).toList, c ∈ lineTerminators → c = '\n') ∧
    ∀ rest, skipTrivia ((blockComment level lines).toList ++ rest) = skipTrivia rest := by
  have hlines : ∀ line ∈ (List.replicate (2 * level) ' ' ++ ['/', '*', '*']) ::
      (blockLines level lines ++ [List.replicate (2 * level) ' ' ++ [' ', '*', '/']]),
        OnOneLine line := by
    refine List.forall_mem_cons.mpr ⟨(onOneLine_blanks _).append (by decide), ?_⟩
    refine List.forall_mem_append.mpr ⟨onOneLine_blockLines level lines, ?_⟩
    exact List.forall_mem_singleton.mpr ((onOneLine_blanks _).append (by decide))
  refine ⟨⟨List.replicate (2 * level) ' ' ++ '/' :: '*' :: blockBody level lines, ?_, ?_⟩,
    ⟨blockLines level lines, ?_, ?_⟩, ?_, ?_⟩
  · simp [toList_blockComment]
  · intro before after h
    apply closes_once (neverCloses_opened level lines) (by simp [NeverCloses])
    simpa [toList_blockComment] using h
  · rw [toList_blockComment_ended, scriptLines_endedLines hlines]
    simp
  · rw [blockLines, List.forall₂_map_right_iff]
    exact List.forall₂_same.mpr fun line _ => shown_in_blockLine level line
  · rw [toList_blockComment_ended]
    intro c hc hend
    exact eq_lineFeed_of_mem_endedLines hlines hc hend
  · intro rest
    have htext : (blockComment level lines).toList ++ rest = List.replicate (2 * level) ' ' ++
        '/' :: '*' :: (blockBody level lines ++ '*' :: '/' :: '\n' :: rest) := by
      simp [toList_blockComment]
    rw [htext, skipTrivia_blanks, skipTrivia_block (neverCloses_blockBody level lines),
      skipTrivia_filler (by decide)]

end ExecUml.Script
