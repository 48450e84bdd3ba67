import ExecUml.Proofs.LeafReading
import Mathlib.Data.List.TakeWhile

/-!
# Numbers and what follows them

A number ends where something follows that cannot continue it, as a delimiter does. So it is taken,
with the same value, in front of any delimiter, and a number that can be read can also be skipped.
-/

set_option autoImplicit false

namespace ExecUml.Document

open Text (isAsciiDigit)

/-! ## Digits -/

def isNoDigit (c : Char) : Bool := !isAsciiDigit c

theorem isNoDigit_of_isDelimiter (c : Char) (h : isDelimiter c = true) : isNoDigit c = true := by
  rcases cases_of_isDelimiter h with rfl | rfl | rfl | rfl | rfl | rfl | rfl <;> decide

theorem fronted_dropWhile_digits (s : List Char) :
    Fronted isNoDigit (s.dropWhile isAsciiDigit) := by
  intro c hc
  have hfront := List.head?_dropWhile_not isAsciiDigit s
  rw [hc] at hfront
  simpa [isNoDigit] using hfront

/-- Every text is a run of digits and a text that does not start with one. -/
theorem exists_digits (s : List Char) :
    ∃ ds r, s = ds ++ r ∧ (∀ d ∈ ds, isAsciiDigit d = true) ∧ Fronted isNoDigit r :=
  ⟨s.takeWhile isAsciiDigit, s.dropWhile isAsciiDigit, List.takeWhile_append_dropWhile.symm,
    fun _ => List.mem_takeWhile_imp, fronted_dropWhile_digits s⟩

section Digits

variable {ds r : List Char} (hds : ∀ d ∈ ds, isAsciiDigit d = true) (hr : Fronted isNoDigit r)
include hds hr

theorem takeWhile_digits : (ds ++ r).takeWhile isAsciiDigit = ds := by
  rw [List.takeWhile_append_of_pos hds]
  cases r with
  | nil => simp
  | cons c r =>
    have hc : isAsciiDigit c = false := by simpa [isNoDigit] using hr c rfl
    simp [hc]

theorem dropWhile_digits : (ds ++ r).dropWhile isAsciiDigit = r := by
  have h := List.takeWhile_append_dropWhile (p := isAsciiDigit) (l := ds ++ r)
  rw [takeWhile_digits hds hr] at h
  exact List.append_cancel_left h

end Digits

theorem outcome_skipDigits_eq_some {fault : List Char → Fault} {s r : List Char} {u : Unit} :
    outcome (skipDigits fault s) = some (u, r) ↔
      ∃ ds, ds ≠ [] ∧ (∀ d ∈ ds, isAsciiDigit d = true) ∧ Fronted isNoDigit r ∧ s = ds ++ r := by
  cases s with
  | nil =>
    constructor
    · intro h
      simp [skipDigits] at h
    · rintro ⟨ds, hne, _, _, hs⟩
      exact absurd (List.append_eq_nil_iff.mp hs.symm).1 hne
  | cons c cs =>
    rw [skipDigits]
    constructor
    · intro h
      split at h
      · rename_i hc
        cases h
        refine ⟨c :: cs.takeWhile isAsciiDigit, by simp, ?_, fronted_dropWhile_digits cs, ?_⟩
        · intro d hd
          rcases List.mem_cons.mp hd with rfl | hd
          · exact hc
          · exact List.mem_takeWhile_imp hd
        · rw [List.cons_append, List.takeWhile_append_dropWhile]
      · simp at h
    · rintro ⟨ds, hne, hds, hr, hs⟩
      cases ds with
      | nil => exact absurd rfl hne
      | cons d ds =>
        rw [List.cons_append, List.cons.injEq] at hs
        obtain ⟨rfl, rfl⟩ := hs
        rw [if_pos (hds c List.mem_cons_self), outcome_ok]
        simp only [dropWhile_digits (fun d hd => hds d (List.mem_cons_of_mem _ hd)) hr]

/-! ## Exponents -/

theorem outcome_readExponentDigits_of_fronted (grows : Bool) (e : Nat) {s : List Char}
    (h : Fronted isNoDigit s) : outcome (readExponentDigits grows e s) = some (some e, s) := by
  cases s with
  | nil => rfl
  | cons c cs =>
    have hc : isAsciiDigit c = false := by simpa [isNoDigit] using h c rfl
    simp [readExponentDigits, hc]

theorem outcome_readExponentDigits_digit (grows : Bool) (e : Nat) {c : Char} {cs : List Char}
    (hc : isAsciiDigit c = true) :
    outcome (readExponentDigits grows e (c :: cs)) =
      if 10 * e + digitValue c ≤ exponentMax then
        outcome (readExponentDigits grows (10 * e + digitValue c) cs)
      else if grows then none
      else some (none, cs.dropWhile isAsciiDigit) := by
  rw [readExponentDigits, if_pos hc]
  dsimp only
  split
  · cases readExponentDigits grows (10 * e + digitValue c) cs <;> rfl
  · split <;> rfl

theorem digits_of_readExponentDigits {grows : Bool} {e : Nat} {s r : List Char} {e? : Option Nat}
    (h : outcome (readExponentDigits grows e s) = some (e?, r)) :
    ∃ ds, (∀ d ∈ ds, isAsciiDigit d = true) ∧ Fronted isNoDigit r ∧ s = ds ++ r ∧
      ∀ r', Fronted isNoDigit r' →
        outcome (readExponentDigits grows e (ds ++ r')) = some (e?, r') := by
  induction s generalizing e with
  | nil =>
    cases h
    exact ⟨[], by simp, by simp [Fronted], rfl,
      fun r' => outcome_readExponentDigits_of_fronted grows e⟩
  | cons c cs ih =>
    by_cases hc : isAsciiDigit c = true
    · rw [outcome_readExponentDigits_digit grows e hc] at h
      split at h
      · rename_i hfits
        obtain ⟨ds, hds, hr, rfl, htake⟩ := ih h
        refine ⟨c :: ds, by simpa [hc] using hds, hr, rfl, fun r' hr' => ?_⟩
        rw [List.cons_append, outcome_readExponentDigits_digit grows e hc, if_pos hfits]
        exact htake r' hr'
      · rename_i hfits
        split at h
        · simp at h
        · rename_i hgrows
          cases h
          have hds : ∀ d ∈ cs.takeWhile isAsciiDigit, isAsciiDigit d = true :=
            fun _ => List.mem_takeWhile_imp
          refine ⟨c :: cs.takeWhile isAsciiDigit, by simpa [hc] using hds,
            fronted_dropWhile_digits cs, by simp, fun r' hr' => ?_⟩
          rw [List.cons_append, outcome_readExponentDigits_digit grows e hc, if_neg hfits,
            if_neg hgrows, dropWhile_digits hds hr']
    · have hs : Fronted isNoDigit (c :: cs) := by simpa [Fronted, isNoDigit] using hc
      rw [outcome_readExponentDigits_of_fronted grows e hs] at h
      cases h
      exact ⟨[], by simp, hs, rfl, fun r' => outcome_readExponentDigits_of_fronted grows e⟩

/-- The sign of an exponent is recognised in front of any other digits. -/
theorem exponentSign_replace (s : List Char) :
    ∃ sign, s = sign ++ (exponentSign s).2 ∧ ∀ d r, isAsciiDigit d = true →
      exponentSign (sign ++ d :: r) = ((exponentSign s).1, d :: r) := by
  unfold exponentSign
  split
  · exact ⟨['+'], rfl, fun _ _ _ => rfl⟩
  · exact ⟨['-'], rfl, fun _ _ _ => rfl⟩
  · refine ⟨[], rfl, fun d r hd => ?_⟩
    rw [List.nil_append]
    split
    · simp_all [isAsciiDigit]
    · simp_all [isAsciiDigit]
    · rfl

/-- A scaled number as a numeral, if it is in range. -/
def Scaled.numeral? (x : Scaled) : Option Numeral := (x.numeral []).toOption

theorem Scaled.toOption_numeral (x : Scaled) (r : List Char) :
    (x.numeral r).toOption = x.numeral? := by
  unfold numeral? numeral
  split <;> rfl

/-- A number with the exponent that was read: none is a power too small to tell the number from
zero. -/
def Scaled.raise (x : Scaled) (positive : Bool) : Option Nat → Scaled
  | some e => { x with exponent := if positive then x.exponent + e else x.exponent - e }
  | none => { x with significand := 0, exponent := 0 }

theorem outcome_readExponent (x : Scaled) {s cs : List Char} {c : Char}
    (hs : (exponentSign s).2 = c :: cs) (hc : isAsciiDigit c = true) :
    outcome (readExponent x s) =
      (outcome (readExponentDigits ((exponentSign s).1 && x.significand ≠ 0) 0 (c :: cs))).bind
        fun p => ((x.raise (exponentSign s).1 p.1).numeral?).bind fun n => some (n, p.2) := by
  unfold readExponent
  dsimp only
  split
  · rename_i hnil
    simp [hs] at hnil
  · rename_i c' cs' hcons
    obtain ⟨rfl, rfl⟩ := List.cons.inj (hs.symm.trans hcons)
    rw [if_pos hc]
    apply outcome_bind
    rintro ⟨e?, r, hr⟩
    rw [outcome_bind_value, Scaled.toOption_numeral]
    cases e? <;> rfl

theorem digit_of_readExponent {x : Scaled} {s : List Char} {p : Numeral × List Char}
    (h : outcome (readExponent x s) = some p) :
    ∃ c cs, (exponentSign s).2 = c :: cs ∧ isAsciiDigit c = true := by
  unfold readExponent at h
  dsimp only at h
  split at h
  · simp at h
  · rename_i c cs hs
    split at h
    · rename_i hc
      exact ⟨c, cs, hs, hc⟩
    · simp at h

/-- An exponent as it is read and as it is skipped. -/
theorem takes_of_readExponent {x : Scaled} {s r : List Char} {n : Numeral}
    (h : outcome (readExponent x s) = some (n, r)) :
    ∃ t, s = t ++ r ∧ ∀ r', Ends r r' → outcome (readExponent x (t ++ r')) = some (n, r') ∧
      ∀ fault, outcome (skipDigits fault (exponentSign (t ++ r')).2) = some ((), r') := by
  obtain ⟨c, cs, hs, hc⟩ := digit_of_readExponent h
  rw [outcome_readExponent x hs hc] at h
  obtain ⟨⟨e?, r₁⟩, hdigits, hnumeral⟩ := Option.bind_eq_some_iff.mp h
  obtain ⟨n', hn, heq⟩ := Option.bind_eq_some_iff.mp hnumeral
  cases heq
  obtain ⟨ds, hds, hr, hcs, htake⟩ := digits_of_readExponentDigits hdigits
  obtain ⟨sign, hsign, hreplace⟩ := exponentSign_replace s
  cases ds with
  | nil =>
    rw [List.nil_append] at hcs
    have hno := hr c (by rw [← hcs]; rfl)
    simp [isNoDigit, hc] at hno
  | cons d ds =>
    rw [List.cons_append, List.cons.injEq] at hcs
    obtain ⟨rfl, rfl⟩ := hcs
    refine ⟨sign ++ c :: ds, by rw [List.append_assoc, List.cons_append, ← hs]; exact hsign, ?_⟩
    intro r' hr'
    have hnodigit : Fronted isNoDigit r' := hr.replace (t := []) hr' isNoDigit_of_isDelimiter
    have hfront := hreplace c (ds ++ r') hc
    rw [List.append_assoc, List.cons_append]
    constructor
    · rw [outcome_readExponent x (by rw [hfront]) hc, hfront]
      dsimp only
      rw [← List.cons_append, htake r' hnodigit, Option.bind_some, hn]
      rfl
    · intro fault
      rw [hfront, outcome_skipDigits_eq_some]
      exact ⟨c :: ds, by simp, hds, hnodigit, rfl⟩

theorem exponentMark?_replace {r r' : List Char} (h : exponentMark? r = none) (hr' : Ends r r') :
    exponentMark? r' = none := by
  rcases hr' with hend | rfl
  · unfold exponentMark?
    split
    · exact absurd (hend 'e' rfl) (by decide)
    · exact absurd (hend 'E' rfl) (by decide)
    · rfl
  · exact h

theorem exponentMark?_eq_some {s r : List Char} (h : exponentMark? s = some r) :
    ∃ mark, s = mark :: r ∧ ∀ r', exponentMark? (mark :: r') = some r' := by
  unfold exponentMark? at h
  split at h
  · cases h
    exact ⟨'e', rfl, fun _ => rfl⟩
  · cases h
    exact ⟨'E', rfl, fun _ => rfl⟩
  · simp at h

theorem outcome_skipExponent_some {s r : List Char} (h : exponentMark? s = some r) :
    outcome (skipExponent s) = outcome (skipDigits (.next .invalidNumber) (exponentSign r).2) := by
  unfold skipExponent
  split
  · rename_i r' hr'
    cases h.symm.trans hr'
    exact outcome_bind_some _ fun _ => rfl
  · rename_i hnone
    simp [h] at hnone

theorem outcome_skipExponent_none {s : List Char} (h : exponentMark? s = none) :
    outcome (skipExponent s) = some ((), s) := by
  unfold skipExponent
  split
  · rename_i r hr
    simp [h] at hr
  · rfl

/-- The end of a number: an exponent, or nothing, where the number is `plain`. -/
def lastPart (x : Scaled) (plain : Option Numeral) (s : List Char) : Option (Numeral × List Char) :=
  match exponentMark? s with
  | some r => outcome (readExponent x r)
  | none => plain.bind fun n => some (n, s)

theorem lastPart_some {s r : List Char} (h : exponentMark? s = some r) (x : Scaled)
    (plain : Option Numeral) : lastPart x plain s = outcome (readExponent x r) := by
  rw [lastPart, h]

theorem lastPart_none {s : List Char} (h : exponentMark? s = none) (x : Scaled)
    (plain : Option Numeral) : lastPart x plain s = plain.bind fun n => some (n, s) := by
  rw [lastPart, h]

theorem takes_of_lastPart {x : Scaled} {plain : Option Numeral} {s r : List Char} {n : Numeral}
    (h : lastPart x plain s = some (n, r)) :
    ∃ t, s = t ++ r ∧ ∀ r', Ends r r' → lastPart x plain (t ++ r') = some (n, r') ∧
      outcome (skipExponent (t ++ r')) = some ((), r') := by
  cases hs : exponentMark? s with
  | some q =>
    rw [lastPart_some hs] at h
    obtain ⟨mark, rfl, hmark⟩ := exponentMark?_eq_some hs
    obtain ⟨t, rfl, htake⟩ := takes_of_readExponent h
    refine ⟨mark :: t, rfl, fun r' hr' => ?_⟩
    rw [List.cons_append, lastPart_some (hmark _), outcome_skipExponent_some (hmark _)]
    exact ⟨(htake r' hr').1, (htake r' hr').2 _⟩
  | none =>
    rw [lastPart_none hs] at h
    obtain ⟨n', rfl, heq⟩ := Option.bind_eq_some_iff.mp h
    cases heq
    refine ⟨[], rfl, fun r' hr' => ?_⟩
    have hnone : exponentMark? ([] ++ r') = none := exponentMark?_replace hs hr'
    rw [lastPart_none hnone]
    exact ⟨rfl, outcome_skipExponent_none hnone⟩

theorem takes_of_skipExponent {s r : List Char} {u : Unit}
    (h : outcome (skipExponent s) = some (u, r)) : ∃ t, s = t ++ r ∧ Takes skipExponent t () r := by
  cases hs : exponentMark? s with
  | none =>
    rw [outcome_skipExponent_none hs] at h
    cases h
    exact ⟨[], rfl, fun r' hr' => outcome_skipExponent_none (exponentMark?_replace hs hr')⟩
  | some q =>
    rw [outcome_skipExponent_some hs, outcome_skipDigits_eq_some] at h
    obtain ⟨ds, hne, hds, hr, hdigits⟩ := h
    obtain ⟨mark, rfl, hmark⟩ := exponentMark?_eq_some hs
    obtain ⟨sign, hsign, hreplace⟩ := exponentSign_replace q
    refine ⟨mark :: (sign ++ ds), by rw [List.cons_append, List.append_assoc, ← hdigits, ← hsign],
      ?_⟩
    intro r' hr'
    rw [List.cons_append, outcome_skipExponent_some (hmark _), outcome_skipDigits_eq_some]
    refine ⟨ds, hne, hds, hr.replace (t := []) hr' isNoDigit_of_isDelimiter, ?_⟩
    cases ds with
    | nil => exact absurd rfl hne
    | cons d ds => rw [List.append_assoc, List.cons_append, hreplace d _ (hds d List.mem_cons_self)]

/-! ## Numbers -/

/-- The number that the digits before the point and those after it make up. -/
def pointed (negative : Bool) (significand dropped : Nat) (digits : List Char) : Scaled :=
  ⟨negative, (gather significand digits).1,
    (dropped : Int) - (digits.length - (gather significand digits).2 : Nat)⟩

theorem outcome_readScale_point (negative : Bool) (significand dropped : Nat) (s : List Char) :
    outcome (readScale negative significand dropped ('.' :: s)) =
      if (s.takeWhile isAsciiDigit).isEmpty then none
      else
        let x := pointed negative significand dropped (s.takeWhile isAsciiDigit)
        lastPart x x.numeral? (s.dropWhile isAsciiDigit) := by
  rw [readScale]
  dsimp only
  split
  · rfl
  · split
    · rename_i r hr
      rw [lastPart_some hr]
      exact outcome_bind_some _ fun _ => rfl
    · rename_i hnone
      rw [lastPart_none hnone, outcome_bind_value, Scaled.toOption_numeral]
      rfl

/-- The number that digits without a point and an exponent make up. -/
def whole? (negative : Bool) (significand dropped : Nat) : Option Numeral :=
  if dropped = 0 && !negative then some (.integer significand)
  else if dropped = 0 && 0 < significand && significand ≤ Nat.pow 2 63 then
    some (.integer (-significand))
  else Scaled.numeral? ⟨negative, significand, dropped⟩

theorem outcome_readScale_plain (negative : Bool) (significand dropped : Nat) {s : List Char}
    (h : Fronted (· ≠ '.') s) :
    outcome (readScale negative significand dropped s) =
      lastPart ⟨negative, significand, dropped⟩ (whole? negative significand dropped) s := by
  unfold readScale
  split
  · exact absurd (h '.' rfl) (by decide)
  · split
    · rename_i r hr
      rw [lastPart_some hr]
      exact outcome_bind_some _ fun _ => rfl
    · rename_i hnone
      rw [lastPart_none hnone, whole?]
      split
      · rfl
      · split
        · rfl
        · rw [outcome_bind_value, Scaled.toOption_numeral]
          rfl

theorem outcome_skipScale_point (s : List Char) :
    outcome (skipScale ('.' :: s)) = (outcome (skipDigits (.next .invalidNumber) s)).bind
      fun p => outcome (skipExponent p.2) :=
  outcome_bind _ fun _ => outcome_bind_some _ fun _ => rfl

theorem outcome_skipScale_plain {s : List Char} (h : Fronted (· ≠ '.') s) :
    outcome (skipScale s) = outcome (skipExponent s) := by
  unfold skipScale
  split
  · exact absurd (h '.' rfl) (by decide)
  · rfl

theorem ne_point_of_isDelimiter (c : Char) (h : isDelimiter c = true) :
    decide (c ≠ '.') = true := by
  rcases cases_of_isDelimiter h with rfl | rfl | rfl | rfl | rfl | rfl | rfl <;> decide

theorem fronted_or_point (s : List Char) : Fronted (· ≠ '.') s ∨ ∃ q, s = '.' :: q := by
  cases s with
  | nil => exact .inl (by simp [Fronted])
  | cons c q =>
    by_cases hc : c = '.'
    · exact .inr ⟨q, by rw [hc]⟩
    · exact .inl (by simpa [Fronted] using hc)

theorem takes_of_readScale {negative : Bool} {significand dropped : Nat} {s r : List Char}
    {n : Numeral} (h : outcome (readScale negative significand dropped s) = some (n, r)) :
    ∃ t, s = t ++ r ∧ Takes (readScale negative significand dropped) t n r ∧
      Takes skipScale t () r := by
  rcases fronted_or_point s with hs | ⟨q, rfl⟩
  · rw [outcome_readScale_plain negative significand dropped hs] at h
    obtain ⟨t, rfl, htake⟩ := takes_of_lastPart h
    refine ⟨t, rfl, fun r' hr' => ?_, fun r' hr' => ?_⟩
    · rw [outcome_readScale_plain _ _ _ (hs.replace hr' ne_point_of_isDelimiter)]
      exact (htake r' hr').1
    · rw [outcome_skipScale_plain (hs.replace hr' ne_point_of_isDelimiter)]
      exact (htake r' hr').2
  · obtain ⟨ds, q, rfl, hds, hq⟩ := exists_digits q
    rw [outcome_readScale_point, takeWhile_digits hds hq, dropWhile_digits hds hq] at h
    split at h
    · simp at h
    · rename_i hne
      obtain ⟨t, rfl, htake⟩ := takes_of_lastPart h
      refine ⟨'.' :: (ds ++ t), by simp, fun r' hr' => ?_, fun r' hr' => ?_⟩
      · have hfront := hq.replace hr' isNoDigit_of_isDelimiter
        rw [List.cons_append, List.append_assoc, outcome_readScale_point,
          takeWhile_digits hds hfront, dropWhile_digits hds hfront, if_neg hne]
        exact (htake r' hr').1
      · have hdigits : outcome (skipDigits (.next .invalidNumber) (ds ++ (t ++ r'))) =
            some ((), t ++ r') := outcome_skipDigits_eq_some.mpr
          ⟨ds, by simpa using hne, hds, hq.replace hr' isNoDigit_of_isDelimiter, rfl⟩
        rw [List.cons_append, List.append_assoc, outcome_skipScale_point, hdigits]
        exact (htake r' hr').2

theorem takes_of_skipScale {s r : List Char} {u : Unit} (h : outcome (skipScale s) = some (u, r)) :
    ∃ t, s = t ++ r ∧ Takes skipScale t () r := by
  rcases fronted_or_point s with hs | ⟨q, rfl⟩
  · rw [outcome_skipScale_plain hs] at h
    obtain ⟨t, rfl, htake⟩ := takes_of_skipExponent h
    refine ⟨t, rfl, fun r' hr' => ?_⟩
    rw [outcome_skipScale_plain (hs.replace hr' ne_point_of_isDelimiter)]
    exact htake r' hr'
  · rw [outcome_skipScale_point] at h
    obtain ⟨⟨_, q'⟩, hdigits, hexponent⟩ := Option.bind_eq_some_iff.mp h
    obtain ⟨ds, hne, hds, hq, rfl⟩ := outcome_skipDigits_eq_some.mp hdigits
    obtain ⟨t, rfl, htake⟩ := takes_of_skipExponent hexponent
    refine ⟨'.' :: (ds ++ t), by simp, fun r' hr' => ?_⟩
    have hdigits : outcome (skipDigits (.next .invalidNumber) (ds ++ (t ++ r'))) =
        some ((), t ++ r') := outcome_skipDigits_eq_some.mpr
      ⟨ds, hne, hds, hq.replace hr' isNoDigit_of_isDelimiter, rfl⟩
    rw [List.cons_append, List.append_assoc, outcome_skipScale_point, hdigits]
    exact htake r' hr'

theorem outcome_readUnsigned_zero (negative : Bool) (s : List Char) :
    outcome (readUnsigned negative ('0' :: s)) =
      if (s.takeWhile isAsciiDigit).isEmpty then outcome (readScale negative 0 0 s) else none := by
  rw [readUnsigned]
  split
  · exact outcome_bind_some _ fun _ => rfl
  · rfl

theorem outcome_readUnsigned_digit (negative : Bool) {c : Char} (hc : isAsciiDigit c = true)
    (hzero : c ≠ '0') (s : List Char) :
    outcome (readUnsigned negative (c :: s)) =
      let p := gather 0 (c :: s.takeWhile isAsciiDigit)
      outcome (readScale negative p.1 p.2 (s.dropWhile isAsciiDigit)) := by
  rw [readUnsigned, if_pos hc]
  · exact outcome_bind_some _ fun _ => rfl
  · exact hzero

theorem digit_of_readUnsigned {negative : Bool} {c : Char} {s : List Char} {p : Numeral × List Char}
    (h : outcome (readUnsigned negative (c :: s)) = some p) : isAsciiDigit c = true := by
  by_cases hzero : c = '0'
  · rw [hzero]
    rfl
  · rw [readUnsigned] at h
    · split at h
      · assumption
      · simp at h
    · exact hzero

theorem outcome_skipUnsigned_zero (s : List Char) :
    outcome (skipUnsigned ('0' :: s)) =
      if (s.takeWhile isAsciiDigit).isEmpty then outcome (skipScale s) else none := by
  rw [skipUnsigned]
  split
  · exact outcome_bind_some _ fun _ => rfl
  · rfl

theorem outcome_skipUnsigned_digit {s : List Char} (h : Fronted (· ≠ '0') s) :
    outcome (skipUnsigned s) = (outcome (skipDigits (.next .invalidNumber) s)).bind
      fun p => outcome (skipScale p.2) := by
  unfold skipUnsigned
  split
  · exact absurd (h '0' rfl) (by decide)
  · exact outcome_bind _ fun _ => outcome_bind_some _ fun _ => rfl

theorem takeWhile_isEmpty_iff {s : List Char} :
    (s.takeWhile isAsciiDigit).isEmpty = true ↔ Fronted isNoDigit s := by
  cases s with
  | nil => simp [Fronted]
  | cons c s => by_cases hc : isAsciiDigit c = true <;> simp [Fronted, isNoDigit, hc]

theorem takes_of_readUnsigned {negative : Bool} {s r : List Char} {n : Numeral}
    (h : outcome (readUnsigned negative s) = some (n, r)) :
    ∃ t, s = t ++ r ∧ Takes (readUnsigned negative) t n r ∧ Takes skipUnsigned t () r := by
  cases s with
  | nil => simp [readUnsigned] at h
  | cons c q =>
    have hc := digit_of_readUnsigned h
    by_cases hzero : c = '0'
    · rw [hzero, outcome_readUnsigned_zero] at h
      split at h
      · rename_i hq
        rw [takeWhile_isEmpty_iff] at hq
        obtain ⟨t, rfl, hread, hskip⟩ := takes_of_readScale h
        refine ⟨'0' :: t, by rw [hzero]; rfl, fun r' hr' => ?_, fun r' hr' => ?_⟩
        · rw [List.cons_append, outcome_readUnsigned_zero,
            if_pos (takeWhile_isEmpty_iff.mpr (hq.replace hr' isNoDigit_of_isDelimiter))]
          exact hread r' hr'
        · rw [List.cons_append, outcome_skipUnsigned_zero,
            if_pos (takeWhile_isEmpty_iff.mpr (hq.replace hr' isNoDigit_of_isDelimiter))]
          exact hskip r' hr'
      · simp at h
    · obtain ⟨ds, q, rfl, hds, hq⟩ := exists_digits q
      rw [outcome_readUnsigned_digit negative hc hzero, takeWhile_digits hds hq,
        dropWhile_digits hds hq] at h
      obtain ⟨t, rfl, hread, hskip⟩ := takes_of_readScale h
      refine ⟨c :: (ds ++ t), by simp, fun r' hr' => ?_, fun r' hr' => ?_⟩
      · have hfront := hq.replace hr' isNoDigit_of_isDelimiter
        rw [List.cons_append, List.append_assoc, outcome_readUnsigned_digit negative hc hzero,
          takeWhile_digits hds hfront, dropWhile_digits hds hfront]
        exact hread r' hr'
      · have hdigits : outcome (skipDigits (.next .invalidNumber) (c :: (ds ++ (t ++ r')))) =
            some ((), t ++ r') := outcome_skipDigits_eq_some.mpr
          ⟨c :: ds, by simp, by simpa [hc] using hds, hq.replace hr' isNoDigit_of_isDelimiter, rfl⟩
        rw [List.cons_append, List.append_assoc,
          outcome_skipUnsigned_digit (by simpa [Fronted] using hzero), hdigits]
        exact hskip r' hr'

theorem outcome_skipUnsigned_nil : outcome (skipUnsigned []) = none := by
  rw [outcome_skipUnsigned_digit (by simp [Fronted])]
  rfl

theorem takes_of_skipUnsigned {s r : List Char} {u : Unit}
    (h : outcome (skipUnsigned s) = some (u, r)) : ∃ t, s = t ++ r ∧ Takes skipUnsigned t () r := by
  by_cases hzero : Fronted (· ≠ '0') s
  · rw [outcome_skipUnsigned_digit hzero] at h
    obtain ⟨⟨_, q⟩, hdigits, hscale⟩ := Option.bind_eq_some_iff.mp h
    obtain ⟨ds, hne, hds, hq, rfl⟩ := outcome_skipDigits_eq_some.mp hdigits
    obtain ⟨t, rfl, htake⟩ := takes_of_skipScale hscale
    refine ⟨ds ++ t, by simp, fun r' hr' => ?_⟩
    have hdigits : outcome (skipDigits (.next .invalidNumber) (ds ++ (t ++ r'))) =
        some ((), t ++ r') := outcome_skipDigits_eq_some.mpr
      ⟨ds, hne, hds, hq.replace hr' isNoDigit_of_isDelimiter, rfl⟩
    have hfront : Fronted (· ≠ '0') (ds ++ (t ++ r')) := by
      cases ds with
      | nil => exact absurd rfl hne
      | cons d ds => exact hzero
    rw [List.append_assoc, outcome_skipUnsigned_digit hfront, hdigits]
    exact htake r' hr'
  · obtain ⟨q, rfl⟩ : ∃ q, s = '0' :: q := by
      cases s with
      | nil => exact absurd (by simp [Fronted]) hzero
      | cons c q => exact ⟨q, by simpa [Fronted] using hzero⟩
    rw [outcome_skipUnsigned_zero] at h
    split at h
    · rename_i hq
      rw [takeWhile_isEmpty_iff] at hq
      obtain ⟨t, rfl, htake⟩ := takes_of_skipScale h
      refine ⟨'0' :: t, rfl, fun r' hr' => ?_⟩
      rw [List.cons_append, outcome_skipUnsigned_zero,
        if_pos (takeWhile_isEmpty_iff.mpr (hq.replace hr' isNoDigit_of_isDelimiter))]
      exact htake r' hr'
    · simp at h

end ExecUml.Document
