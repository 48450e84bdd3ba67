import ExecUml.Method.Message
import ExecUml.Proofs.SpelledNames
import Mathlib.Data.List.Find
import Mathlib.Data.List.Perm.Basic
import Mathlib.Data.List.TakeWhile

/-!
# Placeholders in messages

The placeholders of a message are replaced one after the other, each in the text that the ones
before leave. A placeholder is found by its name alone, so that replacing is a matter of names: each
name in the message goes through all replacements in turn. The outcome is the same as that of
replacing all placeholders at once unless a parameter is spelled like the name of a later one that
is itself spelled otherwise.
-/

set_option autoImplicit false

namespace ExecUml

open Text
open Script (Expr parameterName camelCase)

/-- A name without the characters that placeholders are written with. -/
def IsPlain (name : String) : Prop :=
  ∀ c ∈ name.toList, c ≠ '$' ∧ c ≠ '\x7b' ∧ c ≠ '\x7d'

-- By the characters of the name, not by all characters there are.
instance (name : String) : Decidable (IsPlain name) := List.decidableBAll _ name.toList

/-- Replaces, from left to right and at once, every pattern that stands in front by its text. -/
def Text.replaceTogether (subs : List (List Char × List Char)) : List Char → List Char
  | [] => []
  | c :: cs =>
    match subs.find? fun s => (afterFront? s.1 (c :: cs)).isSome with
    | some s => s.2 ++ replaceTogether subs (cs.drop (s.1.length - 1))
    | none => c :: replaceTogether subs cs
termination_by s => s.length
decreasing_by
  · simp only [List.length_drop, List.length_cons]; omega
  · simp

/-- The names of the parameters and their spellings. -/
def spellings (parameters : List Parameter) : List (String × String) :=
  parameters.map fun p => (p.name, parameterName p.name)

/-- The names that are replaced in the placeholders of a message, and what they become. -/
def renames (parameters : List Parameter) : List (String × String) :=
  ("self.NIM", "this.nim") :: ("self.NIP", "this.nip") :: spellings parameters

def placeholders (r : String × String) : List Char × List Char :=
  ((placeholder r.1).toList, (placeholder r.2).toList)

/-- The message with its placeholders replaced at once. -/
def replacedTogether (message : String) (parameters : List Parameter) : String :=
  String.ofList (replaceTogether ((renames parameters).map placeholders) message.toList)

/-- The text of a quoted literal or a template. -/
def Script.Expr.text? : Expr → Option String
  | .string text => some text
  | .template text => some text
  | _ => none

/-- If the first parameter is spelled like the name of the second, then so is the second. -/
def Parameter.Unchained (p q : Parameter) : Prop :=
  parameterName p.name = q.name → parameterName q.name = q.name

/-- Parameters with distinct plain names that are none of the names around the two markers. -/
structure PlainParameters (parameters : List Parameter) : Prop where
  nodup : (parameters.map (·.name)).Nodup
  plain : ∀ p ∈ parameters, IsPlain p.name
  apart : ∀ p ∈ parameters, p.name ∉ ["self.NIM", "self.NIP", "this.nim", "this.nip"]

/-! ## Placeholders in a text -/

theorem toList_placeholder (name : String) :
    (placeholder name).toList = '$' :: '\x7b' :: (name.toList ++ ['\x7d']) := by
  simp [placeholder, String.toList_append]

theorem toList_placeholder_append (name : String) (rest : List Char) :
    (placeholder name).toList ++ rest = '$' :: ('\x7b' :: (name.toList ++ ['\x7d']) ++ rest) := by
  rw [toList_placeholder, List.cons_append]

theorem placeholder_inj {a b : String} (h : placeholder a = placeholder b) : a = b := by
  rw [← String.toList_inj, toList_placeholder, toList_placeholder] at h
  simpa [String.toList_inj] using h

def isPlainChar (c : Char) : Bool := c != '$' && c != '\x7b' && c != '\x7d'

theorem isPlain_iff (name : String) : IsPlain name ↔ ∀ c ∈ name.toList, isPlainChar c = true := by
  simp [IsPlain, isPlainChar, and_assoc]

/-- The plain name of the placeholder that stands in front, and what follows it. -/
def holeInFront? : List Char → Option (String × List Char)
  | '$' :: '\x7b' :: cs =>
    match cs.dropWhile isPlainChar with
    | '\x7d' :: rest => some (String.ofList (cs.takeWhile isPlainChar), rest)
    | _ => none
  | _ => none

theorem holeInFront?_eq_some_iff {s rest : List Char} {name : String} :
    holeInFront? s = some (name, rest) ↔ IsPlain name ∧ s = (placeholder name).toList ++ rest := by
  constructor
  · intro h
    unfold holeInFront? at h
    split at h
    · rename_i cs
      split at h
      · rename_i after hafter
        cases h
        have hcs := List.takeWhile_append_dropWhile (p := isPlainChar) (l := cs)
        rw [hafter] at hcs
        refine ⟨?_, ?_⟩
        · rw [isPlain_iff, String.toList_ofList]
          exact fun c hc => List.mem_takeWhile_imp hc
        · rw [toList_placeholder, String.toList_ofList]
          simpa using hcs.symm
      · simp at h
    · simp at h
  · rintro ⟨hplain, rfl⟩
    rw [isPlain_iff] at hplain
    have hdrop : (name.toList ++ '\x7d' :: rest).dropWhile isPlainChar = '\x7d' :: rest := by
      rw [List.dropWhile_append_of_pos hplain]
      rfl
    have htake : (name.toList ++ '\x7d' :: rest).takeWhile isPlainChar = name.toList := by
      rw [List.takeWhile_append_of_pos hplain]
      simp [isPlainChar]
    simp [toList_placeholder, holeInFront?, hdrop, htake]

theorem length_of_holeInFront? {s rest : List Char} {name : String}
    (h : holeInFront? s = some (name, rest)) : rest.length < s.length := by
  obtain ⟨_, rfl⟩ := holeInFront?_eq_some_iff.mp h
  simp only [toList_placeholder, List.length_append, List.length_cons]
  omega

/-- The text with the plain names of its placeholders changed. -/
def mapHoles (rename : String → String) (s : List Char) : List Char :=
  match s with
  | [] => []
  | c :: cs =>
    match _h : holeInFront? (c :: cs) with
    | some (name, rest) => (placeholder (rename name)).toList ++ mapHoles rename rest
    | none => c :: mapHoles rename cs
termination_by s.length
decreasing_by
  · exact length_of_holeInFront? _h
  · simp

theorem mapHoles_of_hole (rename : String → String) {s rest : List Char} {name : String}
    (h : holeInFront? s = some (name, rest)) :
    mapHoles rename s = (placeholder (rename name)).toList ++ mapHoles rename rest := by
  cases s with
  | nil => simp [holeInFront?] at h
  | cons c cs =>
    rw [mapHoles]
    split
    · rename_i heq
      rw [h] at heq
      cases heq
      rfl
    · rename_i heq
      simp [h] at heq

theorem mapHoles_placeholder (rename : String → String) {name : String} (h : IsPlain name)
    (rest : List Char) :
    mapHoles rename ((placeholder name).toList ++ rest)
      = (placeholder (rename name)).toList ++ mapHoles rename rest :=
  mapHoles_of_hole rename (holeInFront?_eq_some_iff.mpr ⟨h, rfl⟩)

theorem mapHoles_placeholder_alone (rename : String → String) {name : String} (h : IsPlain name) :
    mapHoles rename (placeholder name).toList = (placeholder (rename name)).toList := by
  simpa [mapHoles] using mapHoles_placeholder rename h []

theorem mapHoles_cons (rename : String → String) {c : Char} {cs : List Char}
    (h : holeInFront? (c :: cs) = none) : mapHoles rename (c :: cs) = c :: mapHoles rename cs := by
  rw [mapHoles]
  split
  · rename_i heq
    simp [h] at heq
  · rfl

/-- What a change of names leaves before the next placeholder was there already. -/
theorem front_of_mapHoles {rename : String → String} {cs front rest : List Char}
    (hfront : ∀ c ∈ front, c ≠ '$') (h : mapHoles rename cs = front ++ rest) :
    ∃ rest', cs = front ++ rest' := by
  induction front generalizing cs with
  | nil => exact ⟨cs, rfl⟩
  | cons x front ih =>
    cases cs with
    | nil => simp [mapHoles] at h
    | cons c cs =>
      cases hhole : holeInFront? (c :: cs) with
      | some hole =>
        rw [mapHoles_of_hole rename hhole, toList_placeholder] at h
        exact absurd (List.cons.inj h).1.symm (hfront x List.mem_cons_self)
      | none =>
        rw [mapHoles_cons rename hhole] at h
        obtain ⟨rfl, htail⟩ := List.cons.inj h
        obtain ⟨rest', rfl⟩ := ih (fun d hd => hfront d (List.mem_cons_of_mem _ hd)) htail
        exact ⟨rest', rfl⟩

/-- What stands behind the first character of a placeholder starts no other one. -/
theorem ne_dollar_of_mem_tail {name : String} (h : IsPlain name) :
    ∀ c ∈ '\x7b' :: (name.toList ++ ['\x7d']), c ≠ '$' := by
  intro c hc
  rcases List.mem_cons.mp hc with rfl | hc
  · decide
  rcases List.mem_append.mp hc with hc | hc
  · exact (h c hc).1
  · rw [List.mem_singleton.mp hc]
    decide

theorem mapHoles_id (s : List Char) : mapHoles (fun name => name) s = s := by
  fun_induction mapHoles (fun name => name) s with
  | case1 => rfl
  | case2 c cs name rest hhole ih => rw [ih, ← (holeInFront?_eq_some_iff.mp hhole).2]
  | case3 c cs hhole ih => rw [ih]

theorem mapHoles_mapHoles (f : String → String) {g : String → String}
    (hg : ∀ name, IsPlain name → IsPlain (g name)) (s : List Char) :
    mapHoles f (mapHoles g s) = mapHoles (fun name => f (g name)) s := by
  fun_induction mapHoles g s with
  | case1 => simp [mapHoles]
  | case2 c cs name rest hhole ih =>
    have hname := (holeInFront?_eq_some_iff.mp hhole).1
    rw [mapHoles_placeholder f (hg name hname), ih, mapHoles_of_hole _ hhole]
  | case3 c cs hhole ih =>
    have hnone : holeInFront? (c :: mapHoles g cs) = none := by
      rw [Option.eq_none_iff_forall_ne_some]
      rintro ⟨name, rest⟩ hsome
      obtain ⟨hname, hs⟩ := holeInFront?_eq_some_iff.mp hsome
      rw [toList_placeholder_append] at hs
      obtain ⟨rfl, htail⟩ := List.cons.inj hs
      -- The placeholder would have been in front before the names were changed.
      obtain ⟨rest', rfl⟩ := front_of_mapHoles (ne_dollar_of_mem_tail hname) htail
      have hbefore : holeInFront? ('$' :: ('\x7b' :: (name.toList ++ ['\x7d']) ++ rest'))
          = some (name, rest') :=
        holeInFront?_eq_some_iff.mpr ⟨hname, (toList_placeholder_append name rest').symm⟩
      rw [hhole] at hbefore
      cases hbefore
    rw [mapHoles_cons f hnone, ih, mapHoles_cons _ hhole]

/-! ## Replacing as a change of names -/

/-- The name that the first pair with this name gives. -/
def renameBy (rs : List (String × String)) (name : String) : String :=
  ((rs.find? (·.1 = name)).map (·.2)).getD name

theorem replaceTogether_skip {subs : List (List Char × List Char)}
    (hsubs : ∀ s ∈ subs, ∃ cs, s.1 = '$' :: cs) {front : List Char} (hfront : ∀ c ∈ front, c ≠ '$')
    (rest : List Char) :
    replaceTogether subs (front ++ rest) = front ++ replaceTogether subs rest := by
  induction front with
  | nil => rfl
  | cons c front ih =>
    have hnone : (subs.find? fun s => (afterFront? s.1 (c :: (front ++ rest))).isSome) = none := by
      rw [List.find?_eq_none]
      intro s hs
      obtain ⟨cs, hcs⟩ := hsubs s hs
      simp [hcs, afterFront?, (hfront c List.mem_cons_self).symm]
    rw [List.cons_append, replaceTogether, hnone]
    simp only [List.cons_append]
    rw [ih fun d hd => hfront d (List.mem_cons_of_mem _ hd)]

theorem isSome_afterFront?_placeholder {a b : String} (ha : IsPlain a) (hb : IsPlain b)
    (rest : List Char) :
    (afterFront? (placeholder a).toList ((placeholder b).toList ++ rest)).isSome = decide
      (a = b) := by
  rw [Bool.eq_iff_iff, Option.isSome_iff_exists, decide_eq_true_iff]
  constructor
  · rintro ⟨rest', h⟩
    have hfront := afterFront?_eq_some_iff.mp h
    have hhole : holeInFront? ((placeholder b).toList ++ rest) = some (b, rest) :=
      holeInFront?_eq_some_iff.mpr ⟨hb, rfl⟩
    rw [holeInFront?_eq_some_iff.mpr ⟨ha, hfront⟩] at hhole
    cases hhole
    rfl
  · rintro rfl
    exact ⟨rest, afterFront?_eq_some_iff.mpr rfl⟩

theorem find?_placeholders {rs : List (String × String)} (hrs : ∀ r ∈ rs, IsPlain r.1)
    {name : String} (hname : IsPlain name) (rest : List Char) :
    ((rs.map placeholders).find? fun s =>
        (afterFront? s.1 ((placeholder name).toList ++ rest)).isSome)
      = (rs.find? (·.1 = name)).map placeholders := by
  rw [List.find?_map]
  congr 1
  exact List.find?_congr fun r hr => isSome_afterFront?_placeholder (hrs r hr) hname rest

theorem replaceTogether_eq_mapHoles {rs : List (String × String)} (hrs : ∀ r ∈ rs, IsPlain r.1)
    (s : List Char) : replaceTogether (rs.map placeholders) s = mapHoles (renameBy rs) s := by
  have hsubs : ∀ s ∈ rs.map placeholders, ∃ cs, s.1 = '$' :: cs := by
    intro s hs
    obtain ⟨r, _, rfl⟩ := List.mem_map.mp hs
    exact ⟨_, toList_placeholder r.1⟩
  fun_induction mapHoles (renameBy rs) s with
  | case1 => simp [replaceTogether]
  | case2 c cs name rest hhole ih =>
    obtain ⟨hname, hs⟩ := holeInFront?_eq_some_iff.mp hhole
    have hfind := find?_placeholders hrs hname rest
    rw [← hs] at hfind
    rw [replaceTogether, hfind, ← ih]
    obtain ⟨rfl, rfl⟩ := List.cons.inj (hs.trans (toList_placeholder_append name rest))
    cases hr : rs.find? (·.1 = name) with
    | some r =>
      have hrname : r.1 = name := by simpa using List.find?_some hr
      have hdrop : ('\x7b' :: (name.toList ++ ['\x7d']) ++ rest).drop
          ((placeholder name).toList.length - 1) = rest :=
        List.drop_left' (by rw [toList_placeholder]; rfl)
      simp only [renameBy, hr, Option.map_some, Option.getD_some, placeholders, hrname, hdrop]
    | none =>
      have hskip := replaceTogether_skip hsubs (ne_dollar_of_mem_tail hname) rest
      simp only [Option.map_none, renameBy, hr, Option.getD_none, toList_placeholder,
        List.cons_append] at hskip ⊢
      rw [hskip]
  | case3 c cs hhole ih =>
    have hnone :
        ((rs.map placeholders).find? fun s => (afterFront? s.1 (c :: cs)).isSome) = none := by
      rw [List.find?_eq_none]
      intro s hs
      obtain ⟨r, hr, rfl⟩ := List.mem_map.mp hs
      rw [Option.isSome_iff_exists]
      rintro ⟨rest, hrest⟩
      have hfront := afterFront?_eq_some_iff.mp hrest
      rw [holeInFront?_eq_some_iff.mpr ⟨hrs r hr, hfront⟩] at hhole
      cases hhole
    rw [replaceTogether, hnone, ← ih]

theorem replaceAll_eq_replaceTogether (pat new s : List Char) :
    replaceAll pat new s = replaceTogether [(pat, new)] s := by
  fun_induction replaceAll pat new s with
  | case1 => simp [replaceTogether]
  | case2 c cs h ih => simp [replaceTogether, h, ih]
  | case3 c cs h ih => simp [replaceTogether, h, ih]

theorem toList_replace {p q : String} (hp : IsPlain p) (text : String) :
    (replace text (placeholder p) (placeholder q)).toList
      = mapHoles (renameBy [(p, q)]) text.toList := by
  rw [replace, String.toList_ofList, replaceAll_eq_replaceTogether,
    ← replaceTogether_eq_mapHoles (by simpa using hp)]
  rfl

/-- The name that is left after all replacements in turn. -/
def renameInTurn (rs : List (String × String)) (name : String) : String :=
  rs.foldl (fun name r => renameBy [r] name) name

theorem isPlain_renameBy {r : String × String} (hr : IsPlain r.2) {name : String}
    (h : IsPlain name) : IsPlain (renameBy [r] name) := by
  by_cases hname : r.1 = name
  · simpa [renameBy, hname] using hr
  · simpa [renameBy, hname] using h

theorem toList_foldl_replace {rs : List (String × String)}
    (hrs : ∀ r ∈ rs, IsPlain r.1 ∧ IsPlain r.2) (text : String) :
    (rs.foldl (fun text r => replace text (placeholder r.1) (placeholder r.2)) text).toList
      = mapHoles (renameInTurn rs) text.toList := by
  induction rs generalizing text with
  | nil => exact (mapHoles_id text.toList).symm
  | cons r rs ih =>
    obtain ⟨hfirst, hsecond⟩ := hrs r List.mem_cons_self
    rw [List.foldl_cons, ih fun r hr => hrs r (List.mem_cons_of_mem _ hr), toList_replace hfirst,
      mapHoles_mapHoles _ fun name => isPlain_renameBy hsecond]
    rfl

/-! ## The names of a message -/

/-- The characters that placeholders are written with. -/
def placeholderMarks : CharClass := [(0x24, 0x24), (0x7B, 0x7B), (0x7D, 0x7D)]

theorem caseFree_placeholderMarks : Script.CaseFree placeholderMarks :=
  ⟨by decide, by decide, by decide, by decide, ⟨by decide +kernel, by decide +kernel⟩,
    ⟨by decide +kernel, by decide +kernel⟩⟩

theorem not_has_placeholderMarks {c : Char} :
    placeholderMarks.has c = false ↔ c ≠ '$' ∧ c ≠ '\x7b' ∧ c ≠ '\x7d' := by
  rw [Bool.eq_false_iff, Ne, CharClass.has_iff]
  simp only [Ne, Script.eq_iff_toNat_between c]
  simp [placeholderMarks, not_or]

theorem isPlain_parameterName {name : String} (h : IsPlain name) :
    IsPlain (parameterName name) := by
  have hcamel : IsPlain (camelCase name) := by
    intro c hc
    rw [camelCase, String.toList_ofList] at hc
    rw [← not_has_placeholderMarks]
    refine Script.has_camelChars caseFree_placeholderMarks (fun w hw d hd => ?_) hc
    have hmem : d ∈ (splitWhere Script.isSeparator name.toList).flatten :=
      List.mem_flatten.mpr ⟨w, hw, hd⟩
    rw [flatten_splitWhere] at hmem
    exact not_has_placeholderMarks.mpr (h d (List.mem_filter.mp hmem).1)
  unfold parameterName Script.escapeReserved
  split
  · intro c hc
    rw [String.toList_append] at hc
    rcases List.mem_append.mp hc with hc | hc
    · exact hcamel c hc
    · rw [show c = '_' by simpa using hc]
      decide
  · exact hcamel

theorem messageSubstitutions_eq (parameters : List Parameter) :
    messageSubstitutions parameters
      = (renames parameters).map fun r => (placeholder r.1, placeholder r.2) := by
  simp [messageSubstitutions, renames, spellings, propertyMarkers, Function.comp_def]

@[simp] theorem renameInTurn_nil (name : String) : renameInTurn [] name = name := rfl

@[simp] theorem renameInTurn_cons (r : String × String) (rs : List (String × String))
    (name : String) : renameInTurn (r :: rs) name = renameInTurn rs (renameBy [r] name) := rfl

theorem renameInTurn_append (rs ts : List (String × String)) (name : String) :
    renameInTurn (rs ++ ts) name = renameInTurn ts (renameInTurn rs name) :=
  List.foldl_append

theorem renameBy_cons (r : String × String) (rs : List (String × String)) (name : String) :
    renameBy (r :: rs) name = if r.1 = name then r.2 else renameBy rs name := by
  by_cases h : r.1 = name <;> simp [renameBy, h]

@[simp] theorem renameBy_nil (name : String) : renameBy [] name = name := rfl

/-- A name that no pair has, or only pairs that keep it, stays through all replacements. -/
theorem renameInTurn_of_kept {rs : List (String × String)} {name : String}
    (h : ∀ r ∈ rs, r.1 = name → r.2 = name) : renameInTurn rs name = name := by
  induction rs with
  | nil => rfl
  | cons r rs ih =>
    have hr : renameBy [r] name = name := by
      rw [renameBy_cons, renameBy_nil, ite_eq_right_iff]
      exact h r List.mem_cons_self
    rw [renameInTurn_cons, hr]
    exact ih fun s hs => h s (List.mem_cons_of_mem _ hs)

@[simp] theorem spellings_cons (p : Parameter) (parameters : List Parameter) :
    spellings (p :: parameters) = (p.name, parameterName p.name) :: spellings parameters := rfl

theorem forall_mem_spellings {parameters : List Parameter} {P : String × String → Prop} :
    (∀ r ∈ spellings parameters, P r) ↔ ∀ p ∈ parameters, P (p.name, parameterName p.name) :=
  List.forall_mem_map

theorem renameBy_spellings (parameters : List Parameter) (name : String) :
    renameBy (spellings parameters) name
      = if name ∈ parameters.map (·.name) then parameterName name else name := by
  induction parameters with
  | nil => rfl
  | cons p parameters ih =>
    rw [spellings_cons, renameBy_cons, ih]
    by_cases h : p.name = name
    · simp [h]
    · simp [h, Ne.symm h]

theorem renameInTurn_spellings_of_not_mem {parameters : List Parameter} {name : String}
    (h : name ∉ parameters.map (·.name)) : renameInTurn (spellings parameters) name = name :=
  renameInTurn_of_kept (forall_mem_spellings.mpr fun p hp heq =>
    absurd (List.mem_map.mpr ⟨p, hp, heq⟩) h)

/-- The last parameter ends as its own spelling: no replacement follows. -/
theorem renameInTurn_spellings_last {parameters : List Parameter} {p : Parameter}
    (h : p.name ∉ parameters.map (·.name)) :
    renameInTurn (spellings (parameters ++ [p])) p.name = parameterName p.name := by
  have hsplit : spellings (parameters ++ [p]) = spellings parameters ++ spellings [p] :=
    List.map_append
  rw [hsplit, renameInTurn_append, renameInTurn_spellings_of_not_mem h]
  simp [spellings, renameBy_cons]

/-- Each parameter ends as its own spelling if and only if none is spelled like a later one that is
itself spelled otherwise. -/
theorem renameInTurn_spellings_iff {parameters : List Parameter}
    (h : (parameters.map (·.name)).Nodup) :
    (∀ p ∈ parameters, renameInTurn (spellings parameters) p.name = parameterName p.name)
      ↔ parameters.Pairwise Parameter.Unchained := by
  induction parameters with
  | nil => simp
  | cons p rest ih =>
    obtain ⟨hp, hrest⟩ := List.nodup_cons.mp h
    have hfirst : renameInTurn (spellings (p :: rest)) p.name
        = renameInTurn (spellings rest) (parameterName p.name) := by
      simp [renameBy_cons]
    have hlater : ∀ q ∈ rest, renameInTurn (spellings (p :: rest)) q.name
        = renameInTurn (spellings rest) q.name := by
      intro q hq
      have hne : p.name ≠ q.name := fun heq => hp (List.mem_map.mpr ⟨q, hq, heq.symm⟩)
      simp [renameBy_cons, hne]
    rw [List.forall_mem_cons, hfirst, List.pairwise_cons, ← ih hrest]
    constructor
    · rintro ⟨hend, hends⟩
      have hends : ∀ q ∈ rest, renameInTurn (spellings rest) q.name = parameterName q.name :=
        fun q hq => (hlater q hq).symm.trans (hends q hq)
      refine ⟨fun q hq hpq => ?_, hends⟩
      rw [← hends q hq, ← hpq, hend]
    · rintro ⟨hkept, hends⟩
      refine ⟨renameInTurn_of_kept (forall_mem_spellings.mpr fun q hq hqp => ?_),
        fun q hq => (hlater q hq).trans (hends q hq)⟩
      dsimp only at hqp ⊢
      rw [hkept q hq hqp.symm, hqp]

namespace PlainParameters

variable {parameters : List Parameter} (h : PlainParameters parameters)
include h

theorem perm {others : List Parameter} (hperm : others.Perm parameters) :
    PlainParameters others :=
  ⟨(hperm.map _).nodup_iff.mpr h.nodup, fun p hp => h.plain p (hperm.mem_iff.mp hp),
    fun p hp => h.apart p (hperm.mem_iff.mp hp)⟩

theorem plain_renames : ∀ r ∈ renames parameters, IsPlain r.1 ∧ IsPlain r.2 := by
  rw [renames, List.forall_mem_cons, List.forall_mem_cons, forall_mem_spellings]
  refine ⟨by decide, by decide, fun p hp => ?_⟩
  dsimp only
  exact ⟨h.plain p hp, isPlain_parameterName (h.plain p hp)⟩

theorem toList_substituted (message : String) :
    (substituted message parameters).toList
      = mapHoles (renameInTurn (renames parameters)) message.toList := by
  rw [substituted, messageSubstitutions_eq, List.foldl_map]
  exact toList_foldl_replace h.plain_renames message

theorem toList_replacedTogether (message : String) :
    (replacedTogether message parameters).toList
      = mapHoles (renameBy (renames parameters)) message.toList := by
  rw [replacedTogether, String.toList_ofList]
  exact replaceTogether_eq_mapHoles (fun r hr => (h.plain_renames r hr).1) message.toList

theorem ne_marker {p : Parameter} (hp : p ∈ parameters) :
    "self.NIM" ≠ p.name ∧ "self.NIP" ≠ p.name := by
  have := h.apart p hp
  constructor <;> intro heq <;> simp [← heq] at this

theorem renameInTurn_parameter {p : Parameter} (hp : p ∈ parameters) :
    renameInTurn (renames parameters) p.name = renameInTurn (spellings parameters) p.name := by
  obtain ⟨hnim, hnip⟩ := h.ne_marker hp
  simp [renames, renameBy_cons, hnim, hnip]

theorem renameBy_parameter {p : Parameter} (hp : p ∈ parameters) :
    renameBy (renames parameters) p.name = parameterName p.name := by
  obtain ⟨hnim, hnip⟩ := h.ne_marker hp
  rw [renames, renameBy_cons, if_neg hnim, renameBy_cons, if_neg hnip, renameBy_spellings,
    if_pos (List.mem_map_of_mem hp)]

/-- A name that no parameter has, such as those around the markers, is changed by the markers
only. -/
theorem renameInTurn_other {name : String} (hname : name ∉ parameters.map (·.name)) :
    renameInTurn (renames parameters) name = renameBy (renames parameters) name := by
  have hwritten : ∀ {name : String}, name ∈ ["self.NIM", "self.NIP", "this.nim", "this.nip"] →
      renameInTurn (spellings parameters) name = name := fun hmarker =>
    renameInTurn_spellings_of_not_mem fun hmem => by
      obtain ⟨p, hp, heq⟩ := List.mem_map.mp hmem
      exact h.apart p hp (heq ▸ hmarker)
  simp only [renames, renameInTurn_cons, renameBy_cons, renameBy_nil, renameBy_spellings, hname,
    if_false]
  by_cases hnim : "self.NIM" = name
  · simp [hnim, hwritten]
  by_cases hnip : "self.NIP" = name
  · simp [← hnip, hwritten]
  · simp [hnim, hnip, renameInTurn_spellings_of_not_mem hname]

theorem renameInTurn_eq_iff :
    (∀ p ∈ parameters, renameInTurn (renames parameters) p.name = parameterName p.name)
      ↔ parameters.Pairwise Parameter.Unchained := by
  rw [← renameInTurn_spellings_iff h.nodup]
  exact forall₂_congr fun p hp => by rw [h.renameInTurn_parameter hp]

theorem renameInTurn_eq_renameBy (hpairs : parameters.Pairwise Parameter.Unchained) :
    renameInTurn (renames parameters) = renameBy (renames parameters) := by
  funext name
  by_cases hname : name ∈ parameters.map (·.name)
  · obtain ⟨p, hp, rfl⟩ := List.mem_map.mp hname
    rw [h.renameInTurn_eq_iff.mpr hpairs p hp, h.renameBy_parameter hp]
  · exact h.renameInTurn_other hname

/-! ## Messages -/

theorem substituted_placeholder {p : Parameter} (hp : p ∈ parameters) :
    substituted (placeholder p.name) parameters
      = placeholder (renameInTurn (renames parameters) p.name) := by
  rw [← String.toList_inj, h.toList_substituted]
  exact mapHoles_placeholder_alone _ (h.plain p hp)

theorem replacedTogether_placeholder {p : Parameter} (hp : p ∈ parameters) :
    replacedTogether (placeholder p.name) parameters = placeholder (parameterName p.name) := by
  rw [← String.toList_inj, h.toList_replacedTogether, mapHoles_placeholder_alone _ (h.plain p hp),
    h.renameBy_parameter hp]

theorem substituted_eq_iff :
    (∀ message, substituted message parameters = replacedTogether message parameters)
      ↔ parameters.Pairwise Parameter.Unchained := by
  constructor
  · intro heq
    refine h.renameInTurn_eq_iff.mp fun p hp => placeholder_inj ?_
    rw [← h.substituted_placeholder hp, heq, h.replacedTogether_placeholder hp]
  · intro hpairs message
    rw [← String.toList_inj, h.toList_substituted, h.toList_replacedTogether,
      h.renameInTurn_eq_renameBy hpairs]

theorem replacedTogether_perm {others : List Parameter} (hperm : others.Perm parameters)
    (message : String) : replacedTogether message others = replacedTogether message parameters := by
  have hrenames : renameBy (renames others) = renameBy (renames parameters) := by
    funext name
    simp only [renames, renameBy_cons, renameBy_spellings, (hperm.map (·.name)).mem_iff]
  rw [← String.toList_inj, (h.perm hperm).toList_replacedTogether, h.toList_replacedTogether,
    hrenames]

theorem pairwise_of_orderless
    (horder : ∀ others, others.Perm parameters →
      ∀ message, substituted message others = substituted message parameters) :
    parameters.Pairwise Parameter.Unchained := by
  refine h.renameInTurn_eq_iff.mp fun p hp => placeholder_inj ?_
  -- The order with `p` at the end shows what becomes of its placeholder in every order.
  obtain ⟨before, after, rfl⟩ := List.append_of_mem hp
  have hperm : (before ++ after ++ [p]).Perm (before ++ p :: after) :=
    (List.perm_append_singleton p _).trans List.perm_middle.symm
  have hlast := h.perm hperm
  have hmem : p ∈ before ++ after ++ [p] := List.mem_append_right _ List.mem_cons_self
  have hnot : p.name ∉ (before ++ after).map (·.name) := by
    have hnodup := hlast.nodup
    rw [List.map_append, List.nodup_append] at hnodup
    exact fun hname => hnodup.2.2 _ hname _ List.mem_cons_self rfl
  rw [← h.substituted_placeholder hp, ← horder _ hperm, hlast.substituted_placeholder hmem,
    hlast.renameInTurn_parameter hmem, renameInTurn_spellings_last hnot]

theorem orderless_iff :
    (∀ others, others.Perm parameters →
        ∀ message, substituted message others = substituted message parameters)
      ↔ ∀ p ∈ parameters, ∀ q ∈ parameters, p.Unchained q := by
  constructor
  · intro horder p hp q hq
    by_cases hpq : q = p
    · exact hpq ▸ fun heq => heq
    -- An order that starts with `p` has `q` behind it.
    obtain ⟨before, after, rfl⟩ := List.append_of_mem hp
    have hperm : (p :: (before ++ after)).Perm (before ++ p :: after) := List.perm_middle.symm
    have hpairs := (h.perm hperm).pairwise_of_orderless fun others hothers message =>
      (horder others (hothers.trans hperm) message).trans (horder _ hperm message).symm
    have hq' : q ∈ before ++ after := by
      simpa [hpq] using hperm.mem_iff.mpr hq
    exact (List.pairwise_cons.mp hpairs).1 q hq'
  · intro hall others hperm message
    have hpairs : parameters.Pairwise Parameter.Unchained :=
      List.pairwise_of_forall_mem_list hall
    have hothers : others.Pairwise Parameter.Unchained :=
      List.pairwise_of_forall_mem_list fun p hp q hq =>
        hall p (hperm.mem_iff.mp hp) q (hperm.mem_iff.mp hq)
    rw [(h.perm hperm).substituted_eq_iff.mpr hothers, h.substituted_eq_iff.mpr hpairs,
      h.replacedTogether_perm hperm]

end PlainParameters

theorem text?_messageExpr (message : String) (parameters : List Parameter) :
    (messageExpr message parameters).text? = some (substituted message parameters) := by
  unfold messageExpr
  dsimp only
  split <;> rfl

/-- The expression of a message tells the text after all replacements. -/
theorem messageExpr_eq_iff {message : String} {ps qs : List Parameter} :
    messageExpr message ps = messageExpr message qs
      ↔ substituted message ps = substituted message qs := by
  constructor
  · intro h
    have htext := congrArg Expr.text? h
    rw [text?_messageExpr, text?_messageExpr] at htext
    exact Option.some.inj htext
  · intro h
    rw [messageExpr, messageExpr, h]

/-- Messages read as if their placeholders were replaced at once exactly when no parameter is
spelled like a later one that is itself spelled otherwise. The order of the parameters does not
count exactly when this holds of any two of them, whichever comes first. -/
theorem messages_replaced_together_iff {parameters : List Parameter}
    (h : PlainParameters parameters) :
    ((∀ message,
      (messageExpr message parameters).text? = some (replacedTogether message parameters))
        ↔ parameters.Pairwise Parameter.Unchained)
      ∧ ((∀ others, others.Perm parameters →
            ∀ message, messageExpr message others = messageExpr message parameters)
          ↔ ∀ p ∈ parameters, ∀ q ∈ parameters, p.Unchained q) := by
  simp only [text?_messageExpr, Option.some.injEq, messageExpr_eq_iff]
  exact ⟨h.substituted_eq_iff, h.orderless_iff⟩

namespace Shelf

def counted : Parameter := ⟨"item_count", some "integer"⟩

def ordered : Parameter := ⟨"itemCount", some "integer"⟩

theorem plain_counts : PlainParameters [counted, ordered] :=
  ⟨by decide, by decide, by decide⟩

theorem not_unchained : ¬ counted.Unchained ordered := by
  unfold Parameter.Unchained
  decide +kernel

theorem unchained : ordered.Unchained counted := by
  unfold Parameter.Unchained
  decide +kernel

/-- With `item_count` declared first, its placeholder reads the other parameter. -/
theorem counts_not_replaced_together :
    PlainParameters [counted, ordered]
      ∧ messageExpr "$\x7bitem_count\x7d of $\x7bitemCount\x7d" [counted, ordered]
        = .template "$\x7bitemcount\x7d of $\x7bitemcount\x7d"
      ∧ replacedTogether "$\x7bitem_count\x7d of $\x7bitemCount\x7d" [counted, ordered]
        = "$\x7bitemCount\x7d of $\x7bitemcount\x7d"
      ∧ (¬ ∀ message, (messageExpr message [counted, ordered]).text?
          = some (replacedTogether message [counted, ordered]))
      ∧ (∀ message, (messageExpr message [ordered, counted]).text?
          = some (replacedTogether message [ordered, counted]))
      ∧ ¬ ∀ others, others.Perm [counted, ordered] →
          ∀ message, messageExpr message others = messageExpr message [counted, ordered] := by
  obtain ⟨htogether, horder⟩ := messages_replaced_together_iff plain_counts
  have hswap :=
    messages_replaced_together_iff (plain_counts.perm (List.Perm.swap counted ordered []))
  have htext : substituted "$\x7bitem_count\x7d of $\x7bitemCount\x7d" [counted, ordered]
      = "$\x7bitemcount\x7d of $\x7bitemcount\x7d" := by decide +kernel
  refine ⟨plain_counts, ?_, by decide +kernel, ?_, ?_, ?_⟩
  · rw [messageExpr, htext]
    rfl
  · rw [htogether]
    intro hpairs
    exact not_unchained ((List.pairwise_cons.mp hpairs).1 ordered (by simp))
  · rw [hswap.1]
    simpa using unchained
  · rw [horder]
    intro hall
    exact not_unchained (hall counted (by simp) ordered (by simp))

end Shelf

end ExecUml
