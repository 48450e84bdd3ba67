import ExecUml.Proofs.SpelledNames
import Mathlib.Data.List.Forall2

/-!
# Slashes and dots in spelled names

Spelling a name in a script changes letters, drops separators and adds hyphens, but slashes and dots
stay as they are, in order, and nothing else becomes one. So the pieces of a spelled name between
slashes are empty, one dot or two dots exactly where those of the name are, up to separators.

Of the case tables only this is used: no image is empty, and none is a slash or a dot.
-/

set_option autoImplicit false

namespace ExecUml

open Text

namespace Script

/-- The characters with a meaning in paths, dot and slash. -/
def pathMarks : CharClass := [(0x2E, 0x2F)]

def isMark (c : Char) : Bool := pathMarks.has c

def isSlash (c : Char) : Bool := c == '/'

/-- What a character may become: a mark stays, anything else becomes one or more other
characters. -/
def CharRespells (c : Char) (image : List Char) : Prop :=
  if isMark c then image = [c] else image ≠ [] ∧ ∀ x ∈ image, isMark x = false

/-- A text that is another one, character by character, up to letters. -/
inductive Respells : List Char → List Char → Prop where
  | nil : Respells [] []
  | cons {c : Char} {image cs ds : List Char} :
      CharRespells c image → Respells cs ds → Respells (c :: cs) (image ++ ds)

/-! ## Characters -/

theorem isMark_iff {c : Char} : isMark c = true ↔ c = '.' ∨ c = '/' := by
  rw [isMark, CharClass.has_iff, eq_iff_toNat_between, eq_iff_toNat_between]
  simp only [pathMarks, List.mem_singleton, exists_eq_left]
  have hdot : '.'.toNat = 0x2E := rfl
  have hslash : '/'.toNat = 0x2F := rfl
  omega

theorem caseFree_pathMarks : CaseFree pathMarks :=
  ⟨by decide, by decide, by decide, by decide, ⟨by decide +kernel, by decide +kernel⟩,
    ⟨by decide +kernel, by decide +kernel⟩⟩

theorem charRespells_self (c : Char) : CharRespells c [c] := by
  unfold CharRespells
  split
  · rfl
  · simp_all

theorem charRespells_of_not_mark {c : Char} {image : List Char} (hc : isMark c = false)
    (hne : image ≠ []) (himage : ∀ x ∈ image, isMark x = false) : CharRespells c image := by
  unfold CharRespells
  rw [if_neg (by simp [hc])]
  exact ⟨hne, himage⟩

/-- A change of case that keeps the marks, leads to no others and loses no character. -/
theorem charRespells_image {image : Char → List Char} (hdot : image '.' = ['.'])
    (hslash : image '/' = ['/']) (hne : ∀ c, image c ≠ [])
    (hmiss : ∀ c x, pathMarks.has c = false → x ∈ image c → pathMarks.has x = false) (c : Char) :
    CharRespells c (image c) := by
  cases hc : isMark c with
  | true =>
    rw [CharRespells, if_pos hc]
    rcases isMark_iff.mp hc with rfl | rfl
    · exact hdot
    · exact hslash
  | false => exact charRespells_of_not_mark hc (hne c) fun x => hmiss c x hc

theorem caseImage_ne_nil {long : List (Nat × List Nat)} (h : ∀ e ∈ long, e.2 ≠ [])
    (runs : List (Nat × Nat × Nat × Nat)) (c : Char) : caseImage long runs c ≠ [] := by
  unfold caseImage
  split
  · rename_i image hlookup
    obtain ⟨before, after, rfl, _⟩ := List.lookup_eq_some_iff.mp hlookup
    simpa using h (c.toNat, image) (by simp)
  · simp

theorem upper_ne_nil (c : Char) : upper c ≠ [] := by
  unfold upper
  split
  · simp
  · exact caseImage_ne_nil (by decide +kernel) _ c

theorem lower_ne_nil (c : Char) : lower c ≠ [] := by
  unfold lower
  split
  · simp
  · exact caseImage_ne_nil (by decide +kernel) _ c

theorem charRespells_upper (c : Char) : CharRespells c (upper c) :=
  charRespells_image rfl rfl upper_ne_nil (fun _ _ => has_upper caseFree_pathMarks) c

theorem charRespells_lower (c : Char) : CharRespells c (lower c) :=
  charRespells_image rfl rfl lower_ne_nil (fun _ _ => has_lower caseFree_pathMarks) c

/-! ## Names -/

theorem Respells.refl (cs : List Char) : Respells cs cs := by
  induction cs with
  | nil => exact .nil
  | cons c cs ih => exact .cons (charRespells_self c) ih

theorem Respells.append {cs ds cs' ds' : List Char} (h : Respells cs ds) (h' : Respells cs' ds') :
    Respells (cs ++ cs') (ds ++ ds') := by
  induction h with
  | nil => exact h'
  | cons hc _ ih =>
    rw [List.cons_append, List.append_assoc]
    exact .cons hc ih

theorem respells_lowerAfter (before cs : List Char) : Respells cs (lowerAfter before cs) := by
  induction cs generalizing before with
  | nil => exact .nil
  | cons c cs ih =>
    rw [lowerAfter]
    apply Respells.cons _ (ih _)
    split
    · rename_i hsigma
      rw [hsigma]
      apply charRespells_of_not_mark (by decide) (by simp)
      intro x hx
      rw [List.mem_singleton.mp hx]
      split <;> decide
    · exact charRespells_lower c

theorem respells_capitalized (cs : List Char) : Respells cs (capitalized cs) := by
  cases cs with
  | nil => exact .nil
  | cons c cs => exact .cons (charRespells_upper c) (respells_lowerAfter [] cs)

/-- The characters of a name that are spelled. -/
def spelled (cs : List Char) : List Char := cs.filter (!isSeparator ·)

theorem respells_pascalChars (cs : List Char) : Respells (spelled cs) (pascalChars cs) := by
  rw [spelled, ← flatten_splitWhere, pascalChars]
  induction splitWhere isSeparator cs with
  | nil => exact .nil
  | cons w ws ih =>
    rw [List.flatten_cons, List.flatMap_cons]
    exact (respells_capitalized w).append ih

theorem respells_uncapitalized (cs : List Char) : Respells cs (uncapitalized cs) := by
  cases cs with
  | nil => exact .nil
  | cons c cs => exact .cons (charRespells_lower c) (.refl cs)

theorem respells_hyphenated (before : Option Char) (cs : List Char) :
    Respells cs (hyphenated before cs) := by
  induction cs generalizing before with
  | nil => exact .nil
  | cons c cs ih =>
    rw [hyphenated]
    apply Respells.cons _ (ih _)
    split
    · rename_i hhyphen
      have hupper : isAsciiUpper c = true := (Bool.and_eq_true_iff.mp hhyphen).1
      have hc : isMark c = false := by
        rw [Bool.eq_false_iff, Ne, isMark_iff]
        rintro (rfl | rfl) <;> exact absurd hupper (by decide)
      have himage := charRespells_lower c
      rw [CharRespells, if_neg (by simp [hc])] at himage
      apply charRespells_of_not_mark hc (by simp)
      intro x hx
      rcases List.mem_cons.mp hx with rfl | hx
      · decide
      · exact himage.2 x hx
    · exact charRespells_lower c

/-! ## Pieces -/

theorem isMark_of_isSlash {c : Char} (h : isSlash c = true) : isMark c = true :=
  isMark_iff.mpr (.inr (beq_iff_eq.mp h))

/-- The pieces between slashes are respelled one by one. -/
theorem Respells.pieces {cs ds : List Char} (h : Respells cs ds) :
    List.Forall₂ Respells (splitWhere isSlash cs) (splitWhere isSlash ds) := by
  induction h with
  | nil => exact .cons .nil .nil
  | @cons c image cs ds hc _ ih =>
    by_cases hslash : isSlash c = true
    · rw [CharRespells, if_pos (isMark_of_isSlash hslash)] at hc
      rw [hc, List.singleton_append, splitWhere_cons_of_pos hslash, splitWhere_cons_of_pos hslash]
      exact .cons .nil ih
    · have himage : ∀ x ∈ image, isSlash x = false := by
        intro x hx
        unfold CharRespells at hc
        split at hc
        · rw [hc] at hx
          rw [List.mem_singleton.mp hx]
          simpa using hslash
        · rw [Bool.eq_false_iff]
          exact fun hx' => absurd (isMark_of_isSlash hx') (by simp [hc.2 x hx])
      rw [splitWhere_cons_of_neg (by simpa using hslash), splitWhere_append_left himage]
      generalize splitWhere isSlash cs = ws, splitWhere isSlash ds = vs at ih
      cases ih with
      | nil => exact .nil
      | cons hw hws => exact .cons (.cons hc hw) hws

theorem Respells.eq_nil_iff {cs ds : List Char} (h : Respells cs ds) : ds = [] ↔ cs = [] := by
  cases h with
  | nil => simp
  | @cons c image cs ds hc _ =>
    unfold CharRespells at hc
    split at hc
    · simp [hc]
    · simp [hc.1]

/-- A text that is a dot followed by something is respelled as such a text only. -/
theorem Respells.eq_dot_cons_iff {cs ds : List Char} (h : Respells cs ds) (rest : List Char)
    (hrest : ∀ cs' ds', Respells cs' ds' → (ds' = rest ↔ cs' = rest)) :
    ds = '.' :: rest ↔ cs = '.' :: rest := by
  cases h with
  | nil => simp
  | @cons c image cs ds hc hds =>
    unfold CharRespells at hc
    split at hc
    · simp [hc, hrest cs ds hds]
    · rename_i hmark
      obtain ⟨hne, himage⟩ := hc
      have hdot : c ≠ '.' := by
        rintro rfl
        exact hmark (by decide)
      cases image with
      | nil => exact absurd rfl hne
      | cons x image =>
        have hx : x ≠ '.' := by
          rintro rfl
          exact absurd (himage '.' List.mem_cons_self) (by decide)
        simp [hdot, hx]

/-- The names that lead from a directory to an entry in it. -/
def LeadsBelow (name : List Char) : Prop := name ≠ [] ∧ name ≠ ['.'] ∧ name ≠ ['.', '.']

instance : DecidablePred LeadsBelow := fun _ => inferInstanceAs (Decidable (_ ∧ _ ∧ _))

theorem Respells.leadsBelow_iff {cs ds : List Char} (h : Respells cs ds) :
    LeadsBelow ds ↔ LeadsBelow cs := by
  have hdot : ∀ cs ds, Respells cs ds → (ds = ['.'] ↔ cs = ['.']) :=
    fun cs ds h => h.eq_dot_cons_iff [] fun _ _ h' => h'.eq_nil_iff
  unfold LeadsBelow
  rw [Ne, Ne, Ne, h.eq_nil_iff, hdot cs ds h, h.eq_dot_cons_iff ['.'] hdot]

end Script

end ExecUml
