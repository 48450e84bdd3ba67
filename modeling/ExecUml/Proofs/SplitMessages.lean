import ExecUml.Proofs.EmittedCode
import ExecUml.Proofs.MessagePlaceholders
import Mathlib.Data.List.Infix

/-!
# Messages cut at their markers

The message of a transition is cut at the nearest of its markers, and what follows the marker is cut
in the same way until no marker is left. This ends for every message, and in one way only. No marker
is left in the texts between the cuts, and the parts with the markers put back are the message.
-/

set_option autoImplicit false

namespace ExecUml

open Text
open Script (Expr)

/-- One of the two markers occurs in the text. -/
def HasMarker (s : List Char) : Prop :=
  "$\x7bself.NIM\x7d".toList <:+: s ∨ "$\x7bself.NIP\x7d".toList <:+: s

instance (s : List Char) : Decidable (HasMarker s) := inferInstanceAs (Decidable (_ ∨ _))

/-- A marker of the text that no other one stands before, and the texts on both sides of it. -/
structure NearestMarker (s before : List Char) (m : String × String) (rest : List Char) : Prop where
  marker : m ∈ propertyMarkers
  cut : s = before ++ ((placeholder m.1).toList ++ rest)
  nearest : ∀ n ∈ propertyMarkers, ∀ front back, s = front ++ ((placeholder n.1).toList ++ back) →
    before.length ≤ front.length

/-- Cutting a text at the nearest marker as long as there is one. A turn takes off the text before
the marker and the property that it stands for; the text that is left when there are no more turns
comes last. -/
inductive CutsInto : List Char → List (List Char × String) → List Char → Prop where
  | done {s : List Char} (h : ¬ HasMarker s) : CutsInto s [] s
  | turn {s before rest last : List Char} {m : String × String} {turns : List (List Char × String)}
      (h : NearestMarker s before m rest) (hrest : CutsInto rest turns last) :
      CutsInto s ((before, m.2) :: turns) last

/-- A text as a part of a message; an empty text is none. -/
def textParts (cs : List Char) : List MessagePart := if cs = [] then [] else [.text cs]

/-- The parts that come from the turns and the text left after them. -/
def cutParts (turns : List (List Char × String)) (last : List Char) : List MessagePart :=
  turns.flatMap (fun t => textParts t.1 ++ [.property t.2]) ++ textParts last

/-- What a part of a sum stands for in the message. -/
def Script.Expr.asWritten : Expr → String
  | .templateText text => text
  | .member name =>
    if name = "nim" then "$\x7bself.NIM\x7d" else if name = "nip" then "$\x7bself.NIP\x7d" else ""
  | _ => ""

def MessagePart.written (part : MessagePart) : List Char := part.expr.asWritten.toList

/-- The parts of a sum hold all of the message: inert texts without markers and properties in their
place. Only the text in front may be empty. -/
structure SplitsInto (message : String) (parts : List Expr) : Prop where
  two_parts : 2 ≤ parts.length
  text_first : ∃ text, parts.head? = some (.templateText text)
  kinds : ∀ part ∈ parts,
    (∃ text, part = .templateText text) ∨ part = .member "nim" ∨ part = .member "nip"
  unmarked : ∀ text, .templateText text ∈ parts → ¬ HasMarker text.toList
  filled : .templateText "" ∉ parts.tail
  written : String.join (parts.map (·.asWritten)) = message

/-! ## Markers in a text -/

theorem isPlain_of_marker : ∀ m ∈ propertyMarkers, IsPlain m.1 := by decide

theorem marker_eq_of_name : ∀ m ∈ propertyMarkers, ∀ n ∈ propertyMarkers, m.1 = n.1 → m = n := by
  decide

theorem marker_in_front_unique {m n : String × String} (hm : m ∈ propertyMarkers)
    (hn : n ∈ propertyMarkers) {rest back : List Char}
    (h : (placeholder m.1).toList ++ rest = (placeholder n.1).toList ++ back) :
    m = n ∧ rest = back := by
  have hhole : holeInFront? ((placeholder m.1).toList ++ rest) = some (m.1, rest) :=
    holeInFront?_eq_some_iff.mpr ⟨isPlain_of_marker m hm, rfl⟩
  rw [holeInFront?_eq_some_iff.mpr ⟨isPlain_of_marker n hn, h⟩] at hhole
  obtain ⟨hname, rfl⟩ := Prod.mk.inj (Option.some.inj hhole)
  exact ⟨(marker_eq_of_name n hn m hm hname).symm, rfl⟩

theorem markerInFront?_eq_some_iff {s rest : List Char} {name : String} :
    markerInFront? s = some (name, rest)
      ↔ ∃ m ∈ propertyMarkers, m.2 = name ∧ s = (placeholder m.1).toList ++ rest := by
  constructor
  · exact exists_of_markerInFront?
  · rintro ⟨m, hm, rfl, rfl⟩
    have hsome : (markerInFront? ((placeholder m.1).toList ++ rest)).isSome := by
      rw [markerInFront?, List.findSome?_isSome_iff]
      exact ⟨m, hm, by simp [afterFront?_eq_some_iff.mpr rfl]⟩
    obtain ⟨⟨name, back⟩, h⟩ := Option.isSome_iff_exists.mp hsome
    obtain ⟨n, hn, rfl, hs⟩ := exists_of_markerInFront? h
    obtain ⟨rfl, rfl⟩ := marker_in_front_unique hm hn hs
    exact h

theorem hasMarker_iff {s : List Char} :
    HasMarker s ↔
      ∃ m ∈ propertyMarkers, ∃ front back, s = front ++ ((placeholder m.1).toList ++ back) := by
  simp [HasMarker, propertyMarkers, placeholder, List.IsInfix, eq_comm]

theorem not_hasMarker_nil : ¬ HasMarker [] := by decide

theorem hasMarker_cons {c : Char} {cs : List Char} :
    HasMarker (c :: cs) ↔ (markerInFront? (c :: cs)).isSome ∨ HasMarker cs := by
  rw [Option.isSome_iff_exists, hasMarker_iff, hasMarker_iff]
  constructor
  · rintro ⟨m, hm, front, back, h⟩
    cases front with
    | nil => exact .inl ⟨_, markerInFront?_eq_some_iff.mpr ⟨m, hm, rfl, h⟩⟩
    | cons d front => exact .inr ⟨m, hm, front, back, (List.cons.inj h).2⟩
  · rintro (⟨⟨name, rest⟩, h⟩ | ⟨m, hm, front, back, rfl⟩)
    · obtain ⟨m, hm, -, h⟩ := markerInFront?_eq_some_iff.mp h
      exact ⟨m, hm, [], rest, h⟩
    · exact ⟨m, hm, c :: front, back, rfl⟩

/-! ## The nearest marker -/

namespace NearestMarker

variable {s before rest : List Char} {m : String × String}

theorem of_front (hm : m ∈ propertyMarkers) (rest : List Char) :
    NearestMarker ((placeholder m.1).toList ++ rest) [] m rest :=
  ⟨hm, rfl, fun _ _ _ _ _ => Nat.zero_le _⟩

theorem cons {c : Char} (h : NearestMarker s before m rest)
    (hfront : markerInFront? (c :: s) = none) :
    NearestMarker (c :: s) (c :: before) m rest := by
  refine ⟨h.marker, by rw [h.cut, List.cons_append], ?_⟩
  intro n hn front back hs
  cases front with
  | nil => simp [markerInFront?_eq_some_iff.mpr ⟨n, hn, rfl, hs⟩] at hfront
  | cons d front => exact Nat.succ_le_succ (h.nearest n hn front back (List.cons.inj hs).2)

theorem tail {c : Char} (h : NearestMarker (c :: s) (c :: before) m rest) :
    NearestMarker s before m rest :=
  ⟨h.marker, (List.cons.inj h.cut).2, fun n hn front back hs =>
    Nat.le_of_succ_le_succ (h.nearest n hn (c :: front) back (congrArg (c :: ·) hs))⟩

theorem markerInFront?_eq_none {c : Char} (h : NearestMarker s (c :: before) m rest) :
    markerInFront? s = none := by
  rw [Option.eq_none_iff_forall_ne_some]
  rintro ⟨name, back⟩ hfront
  obtain ⟨n, hn, -, hs⟩ := markerInFront?_eq_some_iff.mp hfront
  exact Nat.not_succ_le_zero _ (h.nearest n hn [] back hs)

theorem hasMarker (h : NearestMarker s before m rest) : HasMarker s :=
  hasMarker_iff.mpr ⟨m, h.marker, before, rest, h.cut⟩

theorem length_rest_lt (h : NearestMarker s before m rest) : rest.length < s.length := by
  rw [h.cut, toList_placeholder]
  simp only [List.length_append, List.length_cons]
  omega

theorem not_hasMarker_before (h : NearestMarker s before m rest) : ¬ HasMarker before := by
  rw [hasMarker_iff]
  rintro ⟨n, hn, front, back, rfl⟩
  -- The marker in the text before the nearest one would be nearer.
  have hle := h.nearest n hn front (back ++ ((placeholder m.1).toList ++ rest))
    (by rw [h.cut, List.append_assoc, List.append_assoc])
  rw [toList_placeholder] at hle
  simp only [List.length_append, List.length_cons] at hle
  omega

theorem unique {before' rest' : List Char} {m' : String × String}
    (h : NearestMarker s before m rest)
    (h' : NearestMarker s before' m' rest') : before = before' ∧ m = m' ∧ rest = rest' := by
  have hlength : before.length = before'.length :=
    Nat.le_antisymm (h.nearest m' h'.marker _ _ h'.cut) (h'.nearest m h.marker _ _ h.cut)
  obtain ⟨hbefore, htail⟩ := List.append_inj (h.cut.symm.trans h'.cut) hlength
  exact ⟨hbefore, marker_in_front_unique h.marker h'.marker htail⟩

end NearestMarker

theorem exists_nearestMarker {s : List Char} (h : HasMarker s) :
    ∃ before m rest, NearestMarker s before m rest := by
  -- Induction on the text: a marker in front is the nearest one, otherwise that of the tail is.
  induction s with
  | nil => exact absurd h not_hasMarker_nil
  | cons c cs ih =>
    cases hfront : markerInFront? (c :: cs) with
    | some found =>
      obtain ⟨m, hm, -, hs⟩ := markerInFront?_eq_some_iff.mp hfront
      exact ⟨[], m, found.2, hs ▸ .of_front hm found.2⟩
    | none =>
      have hcs : HasMarker cs := by simpa [hasMarker_cons, hfront] using h
      obtain ⟨before, m, rest, hnear⟩ := ih hcs
      exact ⟨c :: before, m, rest, hnear.cons hfront⟩

/-! ## Turns -/

/-- Cutting ends, since every turn takes off a marker. -/
theorem exists_cutsInto (s : List Char) : ∃ turns last, CutsInto s turns last := by
  by_cases h : HasMarker s
  · obtain ⟨before, m, rest, hnear⟩ := exists_nearestMarker h
    obtain ⟨turns, last, hrest⟩ := exists_cutsInto rest
    exact ⟨_, _, .turn hnear hrest⟩
  · exact ⟨[], s, .done h⟩
termination_by s.length
decreasing_by exact hnear.length_rest_lt

theorem CutsInto.unique {s last last' : List Char} {turns turns' : List (List Char × String)}
    (h : CutsInto s turns last) (h' : CutsInto s turns' last') : turns' = turns ∧ last' = last := by
  induction h generalizing turns' with
  | done hnone =>
    cases h' with
    | done => exact ⟨rfl, rfl⟩
    | turn hnear => exact absurd hnear.hasMarker hnone
  | turn hnear _ ih =>
    cases h' with
    | done hnone => exact absurd hnear.hasMarker hnone
    | turn hnear' hrest' =>
      obtain ⟨rfl, rfl, rfl⟩ := hnear.unique hnear'
      obtain ⟨rfl, rfl⟩ := ih hrest'
      exact ⟨rfl, rfl⟩

/-! ## The parts of a message -/

theorem messageParts_of_front {s rest : List Char} {name : String}
    (h : markerInFront? s = some (name, rest)) :
    messageParts s = .property name :: messageParts rest := by
  cases s with
  | nil =>
    obtain ⟨m, -, -, hs⟩ := markerInFront?_eq_some_iff.mp h
    simp [toList_placeholder] at hs
  | cons c cs =>
    rw [messageParts]
    split
    · rename_i heq
      rw [h] at heq
      cases heq
      rfl
    · rename_i heq
      simp [h] at heq

theorem messageParts_cons {c : Char} {cs : List Char} (h : markerInFront? (c :: cs) = none) :
    messageParts (c :: cs) = consChar c (messageParts cs) := by
  rw [messageParts]
  split
  · rename_i heq
    simp [h] at heq
  · rfl

theorem consChar_textParts (c : Char) (cs : List Char) {parts : List MessagePart}
    (h : parts.head?.all (·.isProperty) = true) :
    consChar c (textParts cs ++ parts) = .text (c :: cs) :: parts := by
  cases cs with
  | cons d ds => rfl
  | nil =>
    cases parts with
    | nil => rfl
    | cons part parts =>
      cases part with
      | text ds => simp [MessagePart.isProperty] at h
      | property name => rfl

theorem messageParts_of_not_hasMarker {s : List Char} (h : ¬ HasMarker s) :
    messageParts s = textParts s := by
  induction s with
  | nil => simp [messageParts, textParts]
  | cons c cs ih =>
    rw [hasMarker_cons, not_or, Option.not_isSome_iff_eq_none] at h
    rw [messageParts_cons h.1, ih h.2, ← List.append_nil (textParts cs),
      consChar_textParts c cs rfl]
    rfl

theorem messageParts_of_nearest {s before rest : List Char} {m : String × String}
    (h : NearestMarker s before m rest) :
    messageParts s = textParts before ++ .property m.2 :: messageParts rest := by
  -- Induction on the text before the marker, which the parts take up one character at a time.
  induction before generalizing s with
  | nil => exact messageParts_of_front (markerInFront?_eq_some_iff.mpr ⟨m, h.marker, rfl, h.cut⟩)
  | cons c before ih =>
    obtain rfl := h.cut
    rw [List.cons_append] at h ⊢
    rw [messageParts_cons h.markerInFront?_eq_none, ih h.tail, consChar_textParts c before rfl]
    rfl

theorem cutParts_cons (before : List Char) (name : String) (turns : List (List Char × String))
    (last : List Char) :
    cutParts ((before, name) :: turns) last
      = textParts before ++ .property name :: cutParts turns last := by
  simp [cutParts]

theorem CutsInto.messageParts_eq {s last : List Char} {turns : List (List Char × String)}
    (h : CutsInto s turns last) : messageParts s = cutParts turns last := by
  induction h with
  | done hnone => exact messageParts_of_not_hasMarker hnone
  | turn hnear _ ih =>
    rw [messageParts_of_nearest hnear, ih, cutParts_cons]

theorem mem_textParts {part : MessagePart} {cs : List Char} :
    part ∈ textParts cs ↔ cs ≠ [] ∧ part = .text cs := by
  unfold textParts
  split <;> simp_all

/-- The texts between the cuts have no marker, and none of them is empty. -/
theorem CutsInto.text_of_mem {s last cs : List Char} {turns : List (List Char × String)}
    (h : CutsInto s turns last) (hcs : .text cs ∈ cutParts turns last) :
    ¬ HasMarker cs ∧ cs ≠ [] := by
  induction h with
  | done hnone =>
    obtain ⟨hne, ⟨⟩⟩ := mem_textParts.mp hcs
    exact ⟨hnone, hne⟩
  | turn hnear _ ih =>
    rw [cutParts_cons, List.mem_append, List.mem_cons] at hcs
    rcases hcs with hcs | hcs | hcs
    · obtain ⟨hne, ⟨⟩⟩ := mem_textParts.mp hcs
      exact ⟨hnear.not_hasMarker_before, hne⟩
    · cases hcs
    · exact ih hcs

theorem asWritten_property : ∀ m ∈ propertyMarkers,
    (MessagePart.property m.2).expr.asWritten = placeholder m.1 := by
  simp [propertyMarkers, MessagePart.expr, Expr.asWritten, placeholder]

theorem written_textParts (cs : List Char) : (textParts cs).flatMap (·.written) = cs := by
  unfold textParts
  split
  · simp_all
  · simp [MessagePart.written, MessagePart.expr, Expr.asWritten]

theorem CutsInto.written_eq {s last : List Char} {turns : List (List Char × String)}
    (h : CutsInto s turns last) : (cutParts turns last).flatMap (·.written) = s := by
  induction h with
  | done => exact written_textParts _
  | turn hnear _ ih =>
    rw [cutParts_cons, List.flatMap_append, List.flatMap_cons, written_textParts, ih,
      MessagePart.written, asWritten_property _ hnear.marker, ← hnear.cut]

/-! ## Sums -/

theorem legacyExpr_of_done {message : String} {last : List Char}
    (h : CutsInto message.toList [] last) : legacyExpr (some message) = .string message := by
  have hany : (messageParts message.toList).any (·.isProperty) = false := by
    rw [h.messageParts_eq, List.any_eq_false]
    intro part hpart
    obtain ⟨-, rfl⟩ := mem_textParts.mp hpart
    simp [MessagePart.isProperty]
  simp [legacyExpr, hany]

theorem legacyExpr_of_turn {message : String} {before last : List Char} {name : String}
    {turns : List (List Char × String)}
    (h : CutsInto message.toList ((before, name) :: turns) last) :
    legacyExpr (some message)
      = .concat ((.text before :: .property name :: cutParts turns last).map (·.expr)) := by
  have hparts := h.messageParts_eq
  rw [cutParts_cons] at hparts
  have hany : (messageParts message.toList).any (·.isProperty) = true := by
    simp [hparts, MessagePart.isProperty]
  have hstart : startingWithText (messageParts message.toList)
      = .text before :: .property name :: cutParts turns last := by
    rw [hparts]
    cases before <;> rfl
  simp only [legacyExpr, hany, if_true, hstart]

theorem MessagePart.IsKnown.expr_cases {part : MessagePart} (h : part.IsKnown) :
    (∃ text, part.expr = .templateText text) ∨ part.expr = .member "nim" ∨
      part.expr = .member "nip" := by
  cases part with
  | text cs => exact .inl ⟨_, rfl⟩
  | property name =>
    have hname : name = "nim" ∨ name = "nip" := by simpa [IsKnown, propertyMarkers] using h
    exact .inr (hname.imp (congrArg Expr.member) (congrArg Expr.member))

theorem expr_eq_templateText_iff {part : MessagePart} {text : String} :
    part.expr = .templateText text ↔ part = .text text.toList := by
  cases part with
  | text cs =>
    simp only [MessagePart.expr, Expr.templateText.injEq, MessagePart.text.injEq]
    rw [← String.toList_inj, String.toList_ofList]
  | property name => simp [MessagePart.expr]

theorem splitsInto_of_turn {message : String} {before last : List Char} {name : String}
    {turns : List (List Char × String)}
    (h : CutsInto message.toList ((before, name) :: turns) last) :
    SplitsInto message ((.text before :: .property name :: cutParts turns last).map (·.expr)) := by
  -- All parts but the text in front are parts of the message, which need not have a text in front.
  have hparts : ∀ part ∈ .property name :: cutParts turns last,
      part ∈ cutParts ((before, name) :: turns) last := by
    intro part hpart
    rw [cutParts_cons]
    exact List.mem_append_right _ hpart
  refine ⟨by simp, ⟨String.ofList before, rfl⟩, ?_, ?_, ?_, ?_⟩
  · rw [List.forall_mem_map, List.forall_mem_cons]
    refine ⟨.inl ⟨_, rfl⟩, fun part hpart => MessagePart.IsKnown.expr_cases ?_⟩
    exact isKnown_of_messageParts message.toList part (h.messageParts_eq ▸ hparts part hpart)
  · intro text htext
    obtain ⟨part, hpart, hexpr⟩ := List.mem_map.mp htext
    obtain rfl := expr_eq_templateText_iff.mp hexpr
    rcases List.mem_cons.mp hpart with heq | hpart
    · cases h with
      | turn hnear _ => exact MessagePart.text.inj heq ▸ hnear.not_hasMarker_before
    · exact (h.text_of_mem (hparts _ hpart)).1
  · intro htext
    obtain ⟨part, hpart, hexpr⟩ := List.mem_map.mp htext
    obtain rfl := expr_eq_templateText_iff.mp hexpr
    exact (h.text_of_mem (hparts _ hpart)).2 rfl
  · have hwritten := h.written_eq
    rw [cutParts_cons, List.flatMap_append, written_textParts] at hwritten
    rw [← String.toList_inj, String.toList_join, ← hwritten]
    simp [List.flatMap_map, MessagePart.written, MessagePart.expr, Expr.asWritten]

/-- Cutting a message at its nearest marker ends, in one way only, and gives its parts. A message
without markers is a quoted literal, and any other one a sum that holds all of it. -/
theorem messages_split_without_loss (message : String) :
    (∃ turns last,
        (∀ turns' last', CutsInto message.toList turns' last' ↔ turns' = turns ∧ last' = last)
          ∧ messageParts message.toList = cutParts turns last)
      ∧ (legacyExpr (some message) = .string message ↔ ¬ HasMarker message.toList)
      ∧ ((∃ parts, legacyExpr (some message) = .concat parts ∧ SplitsInto message parts)
        ↔ HasMarker message.toList) := by
  obtain ⟨turns, last, hcuts⟩ := exists_cutsInto message.toList
  refine ⟨⟨turns, last, ?_, hcuts.messageParts_eq⟩, ?_⟩
  · intro turns' last'
    constructor
    · exact fun h => hcuts.unique h
    · rintro ⟨rfl, rfl⟩
      exact hcuts
  cases turns with
  | nil =>
    have hnone : ¬ HasMarker message.toList := by
      cases hcuts with
      | done h => exact h
    simp [legacyExpr_of_done hcuts, hnone]
  | cons t turns =>
    have hmarker : HasMarker message.toList := by
      cases hcuts with
      | turn h => exact h.hasMarker
    simpa [legacyExpr_of_turn hcuts, hmarker] using splitsInto_of_turn hcuts

example : messageParts "$\x7bself.NIP\x7d$\x7bself.NIM\x7d → $\x7bself.NI\x7d".toList
    = [.property "nip", .property "nim", .text " → $\x7bself.NI\x7d".toList] := by
  decide +kernel

end ExecUml
