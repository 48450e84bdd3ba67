import ExecUml.Script.Name

/-!
# Characters of spelled names

Spelling a name takes its separators out and changes the case of its letters, which leads into no
class of characters without letters. So a spelled name has no low line, and putting one after the
reserved words keeps different names apart. A name with a low line is no reserved word in any case.
-/

set_option autoImplicit false

namespace ExecUml

open Text

namespace Script

/-! ## Case images outside a class -/

/-- No code point from `low` to `high` belongs to the class. -/
def Misses (ranges : CharClass) (low high : Nat) : Prop := ∀ r ∈ ranges, high < r.1 ∨ r.2 < low

instance (ranges : CharClass) (low high : Nat) : Decidable (Misses ranges low high) :=
  inferInstanceAs (Decidable (∀ _ ∈ ranges, _))

/-- A case table without images in the class. -/
structure ImagesMiss (ranges : CharClass) (long : List (Nat × List Nat))
    (runs : List (Nat × Nat × Nat × Nat)) : Prop where
  long : ∀ e ∈ long, ∀ n ∈ e.2, Misses ranges n n
  runs : ∀ r ∈ runs, Misses ranges r.2.2.2 (r.2.2.2 + (r.2.1 - r.1))

/-- A class of characters that no change of case leads into. -/
structure CaseFree (ranges : CharClass) : Prop where
  zero : Misses ranges 0 0
  capitals : Misses ranges 65 90
  smalls : Misses ranges 97 122
  sigmas : Misses ranges 0x3C2 0x3C3
  upper : ImagesMiss ranges CaseTable.upperLong CaseTable.upperRuns
  lower : ImagesMiss ranges CaseTable.lowerLong CaseTable.lowerRuns

section Class

variable {ranges : CharClass}

theorem eq_iff_toNat_between (c d : Char) : c = d ↔ d.toNat ≤ c.toNat ∧ c.toNat ≤ d.toNat := by
  constructor
  · rintro rfl
    exact ⟨Nat.le_refl _, Nat.le_refl _⟩
  · intro h
    rw [← Char.ofNat_toNat c, ← Char.ofNat_toNat d, Nat.le_antisymm h.2 h.1]

theorem Misses.has {low high : Nat} (h : Misses ranges low high) {c : Char} (hlow : low ≤ c.toNat)
    (hhigh : c.toNat ≤ high) : ranges.has c = false := by
  rw [Bool.eq_false_iff, Ne, CharClass.has_iff]
  rintro ⟨r, hr, hfirst, hlast⟩
  have := h r hr
  omega

theorem Misses.has_ofNat {low high n : Nat} (h : Misses ranges low high) (hzero : Misses ranges 0 0)
    (hlow : low ≤ n) (hhigh : n ≤ high) : ranges.has (Char.ofNat n) = false := by
  by_cases hn : n.isValidChar
  · have hcode : (Char.ofNat n).toNat = n := by
      rw [Char.ofNat, dif_pos hn]
      rfl
    exact h.has (by rwa [hcode]) (by rwa [hcode])
  · -- What is no character at all is replaced by the character of code point zero.
    rw [Char.ofNat, dif_neg hn]
    exact hzero.has (Nat.zero_le _) (Nat.le_refl _)

theorem has_runImage {runs : List (Nat × Nat × Nat × Nat)} (hzero : Misses ranges 0 0)
    (h : ∀ r ∈ runs, Misses ranges r.2.2.2 (r.2.2.2 + (r.2.1 - r.1))) {n k : Nat}
    (hk : runImage runs n = some k) : ranges.has (Char.ofNat k) = false := by
  fun_induction runImage runs n with
  | case1 => simp at hk
  | case2 first last step target runs n hcovered =>
    cases hk
    exact (h _ List.mem_cons_self).has_ofNat hzero (by simp) (by simp only; omega)
  | case3 first last step target runs n _ ih =>
    exact ih (fun r hr => h r (List.mem_cons_of_mem _ hr)) hk

theorem has_caseImage {long : List (Nat × List Nat)} {runs : List (Nat × Nat × Nat × Nat)}
    (hzero : Misses ranges 0 0) (h : ImagesMiss ranges long runs) {c x : Char}
    (hc : ranges.has c = false) (hx : x ∈ caseImage long runs c) : ranges.has x = false := by
  unfold caseImage at hx
  split at hx
  · rename_i image hlookup
    obtain ⟨before, after, rfl, _⟩ := List.lookup_eq_some_iff.mp hlookup
    obtain ⟨n, hn, rfl⟩ := List.mem_map.mp hx
    exact (h.long (c.toNat, image) (by simp) n hn).has_ofNat hzero (Nat.le_refl n) (Nat.le_refl n)
  · cases hrun : runImage runs c.toNat with
    | none =>
      have hx : x = c := by simpa [hrun] using hx
      exact hx ▸ hc
    | some k =>
      have hx : x = Char.ofNat k := by simpa [hrun] using hx
      exact hx ▸ has_runImage hzero h.runs hrun

section Spelling

variable (h : CaseFree ranges)
include h

theorem has_upper {c x : Char} (hc : ranges.has c = false) (hx : x ∈ upper c) :
    ranges.has x = false := by
  unfold upper at hx
  split at hx
  · rw [List.mem_singleton.mp hx]
    split
    · rename_i hlower
      simp only [isAsciiLower, Bool.and_eq_true, decide_eq_true_eq] at hlower
      have hfirst : 97 ≤ c.toNat := hlower.1
      have hlast : c.toNat ≤ 122 := hlower.2
      exact h.capitals.has_ofNat h.zero (by omega) (by omega)
    · exact hc
  · exact has_caseImage h.zero h.upper hc hx

theorem has_lower {c x : Char} (hc : ranges.has c = false) (hx : x ∈ lower c) :
    ranges.has x = false := by
  unfold lower at hx
  split at hx
  · rw [List.mem_singleton.mp hx]
    split
    · rename_i hupper
      simp only [isAsciiUpper, Bool.and_eq_true, decide_eq_true_eq] at hupper
      have hfirst : 65 ≤ c.toNat := hupper.1
      have hlast : c.toNat ≤ 90 := hupper.2
      exact h.smalls.has_ofNat h.zero (by omega) (by omega)
    · exact hc
  · exact has_caseImage h.zero h.lower hc hx

theorem has_lowerAfter {before cs : List Char} (hcs : ∀ c ∈ cs, ranges.has c = false) {x : Char}
    (hx : x ∈ lowerAfter before cs) : ranges.has x = false := by
  induction cs generalizing before with
  | nil => simp [lowerAfter] at hx
  | cons c cs ih =>
    rw [lowerAfter] at hx
    rcases List.mem_append.mp hx with hx | hx
    · split at hx
      · rw [List.mem_singleton.mp hx]
        split
        · exact h.sigmas.has (by decide) (by decide)
        · exact h.sigmas.has (by decide) (by decide)
      · exact has_lower h (hcs c List.mem_cons_self) hx
    · exact ih (fun d hd => hcs d (List.mem_cons_of_mem _ hd)) hx

theorem has_capitalized {cs : List Char} (hcs : ∀ c ∈ cs, ranges.has c = false) {x : Char}
    (hx : x ∈ capitalized cs) : ranges.has x = false := by
  cases cs with
  | nil => simp [capitalized] at hx
  | cons c cs =>
    rcases List.mem_append.mp hx with hx | hx
    · exact has_upper h (hcs c List.mem_cons_self) hx
    · exact has_lowerAfter h (fun d hd => hcs d (List.mem_cons_of_mem _ hd)) hx

/-- A class that has no character of the words of a name has none of the spelled name. -/
theorem has_camelChars {cs : List Char}
    (hcs : ∀ w ∈ splitWhere isSeparator cs, ∀ c ∈ w, ranges.has c = false) {x : Char}
    (hx : x ∈ camelChars cs) : ranges.has x = false := by
  have hpascal : ∀ c ∈ pascalChars cs, ranges.has c = false := by
    intro c hc
    obtain ⟨w, hw, hc⟩ := List.mem_flatMap.mp hc
    exact has_capitalized h (hcs w hw) hc
  unfold camelChars at hx
  cases hword : pascalChars cs with
  | nil => simp [hword, uncapitalized] at hx
  | cons c rest =>
    rw [hword] at hx hpascal
    rcases List.mem_append.mp hx with hx | hx
    · exact has_lower h (hpascal c List.mem_cons_self) hx
    · exact hpascal x (List.mem_cons_of_mem _ hx)

end Spelling

end Class

/-! ## Separators -/

def separators : CharClass := blanks ++ [(0x5F, 0x5F), (0x2D, 0x2D)]

theorem isSeparator_eq_has (c : Char) : isSeparator c = separators.has c := by
  have hcode : ∀ d : Char, decide (c = d) = (d.toNat ≤ c.toNat && c.toNat ≤ d.toNat) := by
    intro d
    rw [← Bool.decide_and, decide_eq_decide]
    exact eq_iff_toNat_between c d
  rw [isSeparator, hcode '_', hcode '-', isBlank, separators, CharClass.has, CharClass.has,
    List.any_append, List.any_cons, List.any_cons, List.any_nil, Bool.or_false, Bool.or_assoc]
  rfl

theorem caseFree_separators : CaseFree separators :=
  ⟨by decide, by decide, by decide, by decide, ⟨by decide +kernel, by decide +kernel⟩,
    ⟨by decide +kernel, by decide +kernel⟩⟩

theorem not_separator_camelChars {cs : List Char} {x : Char} (hx : x ∈ camelChars cs) :
    isSeparator x = false := by
  rw [isSeparator_eq_has]
  refine has_camelChars caseFree_separators (fun w hw c hc => ?_) hx
  rw [← isSeparator_eq_has]
  exact not_separator_of_mem_splitWhere hw hc

/-! ## Parameters -/

theorem not_separator_camelCase {name : String} {x : Char} (hx : x ∈ (camelCase name).toList) :
    isSeparator x = false := by
  rw [camelCase, String.toList_ofList] at hx
  exact not_separator_camelChars hx

theorem low_line_not_mem_camelCase (name : String) : '_' ∉ (camelCase name).toList :=
  fun h => absurd (not_separator_camelCase h) (by decide)

theorem low_line_mem_escaped (name : String) : '_' ∈ (name ++ "_").toList := by simp

/-- A parameter is the same as another one only if the properties are. -/
theorem parameterName_eq_iff {a b : String} :
    parameterName a = parameterName b ↔ camelCase a = camelCase b := by
  constructor
  · intro h
    unfold parameterName escapeReserved at h
    split at h <;> split at h
    · exact String.append_left_inj _ |>.mp h
    · exact absurd (h ▸ low_line_mem_escaped _) (low_line_not_mem_camelCase b)
    · exact absurd (h ▸ low_line_mem_escaped _) (low_line_not_mem_camelCase a)
    · exact h
  · intro h
    rw [parameterName, parameterName, h]

/-! ## Reserved words -/

theorem low_line_mem_lowerAfter {cs : List Char} (h : '_' ∈ cs) (before : List Char) :
    '_' ∈ lowerAfter before cs := by
  induction cs generalizing before with
  | nil => simp at h
  | cons c cs ih =>
    rw [lowerAfter]
    rcases List.mem_cons.mp h with rfl | h
    · rw [if_neg (by decide)]
      exact List.mem_append_left _ (by decide)
    · exact List.mem_append_right _ (ih h _)

theorem low_line_not_mem_reservedWords : ∀ word ∈ reservedWords, '_' ∉ word.toList := by
  decide +kernel

/-- A low line in a name is there in lower case too, where no reserved word has one. -/
theorem isReserved_of_low_line {name : String} (h : '_' ∈ name.toList) :
    isReserved name = false := by
  rw [isReserved, List.contains_eq_mem, decide_eq_false_iff_not]
  intro hword
  refine low_line_not_mem_reservedWords _ hword ?_
  rw [lowercase, String.toList_ofList]
  exact low_line_mem_lowerAfter h []

theorem isReserved_escapeReserved (name : String) : isReserved (escapeReserved name) = false := by
  unfold escapeReserved
  split
  · exact isReserved_of_low_line (low_line_mem_escaped name)
  · rename_i h
    exact Bool.eq_false_iff.mpr h

/-- No parameter is spelled like a reserved word in any case, no separator is left in a name in
camel case, and two parameters are spelled alike exactly if the names are alike in camel case. -/
theorem parameters_unreserved_and_apart (a b : String) :
    isReserved (parameterName a) = false
      ∧ ('_' ∉ (camelCase a).toList ∧ '-' ∉ (camelCase a).toList
        ∧ (camelCase a).toList.any isBlank = false)
      ∧ (parameterName a = parameterName b ↔ camelCase a = camelCase b) := by
  refine ⟨isReserved_escapeReserved _, ⟨low_line_not_mem_camelCase a, ?_, ?_⟩, parameterName_eq_iff⟩
  · exact fun h => absurd (not_separator_camelCase h) (by decide)
  · rw [List.any_eq_false]
    intro c hc hblank
    have hseparator := not_separator_camelCase hc
    simp [isSeparator, hblank] at hseparator

end Script

end ExecUml
