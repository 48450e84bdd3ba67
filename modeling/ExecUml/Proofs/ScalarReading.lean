import ExecUml.Proofs.NumberReading

/-!
# Scalars and what follows them

The first character of a scalar tells its kind. A scalar is taken, with the same value, in front of
any delimiter, and one that can be read can also be skipped.
-/

set_option autoImplicit false

namespace ExecUml.Document

open Text (isAsciiDigit)

/-- The characters that a scalar may start with. -/
inductive ScalarFront : Char → Prop where
  | null : ScalarFront 'n'
  | yes : ScalarFront 't'
  | no : ScalarFront 'f'
  | minus : ScalarFront '-'
  | digit {c : Char} (h : isAsciiDigit c = true) : ScalarFront c
  | quote : ScalarFront '"'

section Scalar

variable (s : List Char)

theorem outcome_readScalar_null : outcome (readScalar ('n' :: s)) =
    (outcome (takeWord ['u', 'l', 'l'] s)).bind fun p => some (.null, p.2) :=
  outcome_bind _ fun _ => rfl

theorem outcome_readScalar_yes : outcome (readScalar ('t' :: s)) =
    (outcome (takeWord ['r', 'u', 'e'] s)).bind fun p => some (.flag true, p.2) :=
  outcome_bind _ fun _ => rfl

theorem outcome_readScalar_no : outcome (readScalar ('f' :: s)) =
    (outcome (takeWord ['a', 'l', 's', 'e'] s)).bind fun p => some (.flag false, p.2) :=
  outcome_bind _ fun _ => rfl

theorem outcome_readScalar_minus : outcome (readScalar ('-' :: s)) =
    (outcome (readUnsigned true s)).bind fun p => some (.number p.1, p.2) := by
  have hminus : outcome (readNumber ('-' :: s)) = outcome (readUnsigned true s) :=
    outcome_bind_some _ fun _ => rfl
  rw [← hminus]
  exact outcome_bind _ fun _ => rfl

theorem ne_of_digit {c d : Char} (hc : isAsciiDigit c = true) (hd : isAsciiDigit d = false) :
    c ≠ d := by
  rintro rfl
  simp [hc] at hd

theorem outcome_readScalar_digit {c : Char} (hc : isAsciiDigit c = true) :
    outcome (readScalar (c :: s)) =
      (outcome (readUnsigned false (c :: s))).bind fun p => some (.number p.1, p.2) := by
  have hplain : readNumber (c :: s) = readUnsigned false (c :: s) := by
    rw [readNumber]
    exact fun r heq => ne_of_digit hc rfl (List.cons.inj heq).1
  rw [readScalar, if_neg (ne_of_digit hc rfl), if_neg (ne_of_digit hc rfl),
    if_neg (ne_of_digit hc rfl), if_pos (by simp [hc]), ← hplain]
  exact outcome_bind _ fun _ => rfl

theorem outcome_readText_quote : outcome (readText ('"' :: s)) =
    (outcome (readChars s)).bind fun p => some (String.ofList p.1, p.2) :=
  outcome_bind _ fun _ => rfl

theorem outcome_readScalar_quote : outcome (readScalar ('"' :: s)) =
    (outcome (readText ('"' :: s))).bind fun p => some (.text p.1, p.2) :=
  outcome_bind _ fun _ => rfl

theorem outcome_skipScalar_null :
    outcome (skipScalar ('n' :: s)) = outcome (takeWord ['u', 'l', 'l'] s) :=
  outcome_bind_some _ fun _ => rfl

theorem outcome_skipScalar_yes :
    outcome (skipScalar ('t' :: s)) = outcome (takeWord ['r', 'u', 'e'] s) :=
  outcome_bind_some _ fun _ => rfl

theorem outcome_skipScalar_no :
    outcome (skipScalar ('f' :: s)) = outcome (takeWord ['a', 'l', 's', 'e'] s) :=
  outcome_bind_some _ fun _ => rfl

theorem outcome_skipScalar_minus : outcome (skipScalar ('-' :: s)) = outcome (skipUnsigned s) :=
  outcome_bind_some _ fun _ => rfl

theorem outcome_skipScalar_digit {c : Char} (hc : isAsciiDigit c = true) :
    outcome (skipScalar (c :: s)) = outcome (skipUnsigned (c :: s)) := by
  rw [skipScalar, if_neg (ne_of_digit hc rfl), if_neg (ne_of_digit hc rfl),
    if_neg (ne_of_digit hc rfl), if_neg (ne_of_digit hc rfl), if_pos hc]

theorem outcome_skipScalar_quote : outcome (skipScalar ('"' :: s)) = outcome (skipChars s) :=
  outcome_bind_some _ fun _ => rfl

end Scalar

theorem front_of_readScalar {s : List Char} {p : Scalar × List Char}
    (h : outcome (readScalar s) = some p) : ∃ c q, s = c :: q ∧ ScalarFront c := by
  cases s with
  | nil => simp [readScalar] at h
  | cons c q =>
    refine ⟨c, q, rfl, ?_⟩
    rw [readScalar] at h
    split_ifs at h with hn ht hf hnumber hquote
    · exact hn ▸ .null
    · exact ht ▸ .yes
    · exact hf ▸ .no
    · rcases Bool.or_eq_true_iff.mp hnumber with hminus | hdigit
      · exact of_decide_eq_true hminus ▸ .minus
      · exact .digit hdigit
    · exact hquote ▸ .quote
    · simp at h

theorem front_of_skipScalar {s : List Char} {p : Unit × List Char}
    (h : outcome (skipScalar s) = some p) : ∃ c q, s = c :: q ∧ ScalarFront c := by
  cases s with
  | nil => simp [skipScalar] at h
  | cons c q =>
    refine ⟨c, q, rfl, ?_⟩
    rw [skipScalar] at h
    split_ifs at h with hn ht hf hminus hdigit hquote
    · exact hn ▸ .null
    · exact ht ▸ .yes
    · exact hf ▸ .no
    · exact hminus ▸ .minus
    · exact .digit hdigit
    · exact hquote ▸ .quote
    · simp at h

section Word

variable {c : Char} {word q r : List Char}
  (hskip : ∀ s, outcome (skipScalar (c :: s)) = outcome (takeWord word s))
include hskip

theorem takes_word : Takes skipScalar (c :: word) () r :=
  fun _ _ => (hskip _).trans (outcome_takeWord_eq_some.mpr rfl)

theorem takes_of_skipped_word {u : Unit} (h : outcome (skipScalar (c :: q)) = some (u, r)) :
    ∃ t, c :: q = t ++ r ∧ Takes skipScalar t () r := by
  rw [hskip, outcome_takeWord_eq_some] at h
  exact ⟨c :: word, by rw [h, List.cons_append], takes_word hskip⟩

theorem takes_of_read_word {v v' : Scalar}
    (hread : ∀ s, outcome (readScalar (c :: s)) = (outcome (takeWord word s)).bind fun p =>
      some (v, p.2))
    (h : outcome (readScalar (c :: q)) = some (v', r)) :
    ∃ t, c :: q = t ++ r ∧ Takes readScalar t v' r ∧ Takes skipScalar t () r := by
  rw [hread] at h
  obtain ⟨⟨_, _⟩, hword, heq⟩ := Option.bind_eq_some_iff.mp h
  cases heq
  rw [outcome_takeWord_eq_some] at hword
  refine ⟨c :: word, by rw [hword, List.cons_append], fun r' _ => ?_, takes_word hskip⟩
  rw [List.cons_append, hread, (outcome_takeWord_eq_some (u := ())).mpr rfl]
  rfl

end Word

theorem takes_of_skipScalar {s r : List Char} {u : Unit}
    (h : outcome (skipScalar s) = some (u, r)) : ∃ t, s = t ++ r ∧ Takes skipScalar t () r := by
  obtain ⟨c, q, rfl, hc⟩ := front_of_skipScalar h
  cases hc with
  | null => exact takes_of_skipped_word outcome_skipScalar_null h
  | yes => exact takes_of_skipped_word outcome_skipScalar_yes h
  | no => exact takes_of_skipped_word outcome_skipScalar_no h
  | minus =>
    rw [outcome_skipScalar_minus] at h
    obtain ⟨t, rfl, htake⟩ := takes_of_skipUnsigned h
    exact ⟨'-' :: t, rfl, fun r' hr' => (outcome_skipScalar_minus _).trans (htake r' hr')⟩
  | digit hc =>
    rw [outcome_skipScalar_digit q hc] at h
    obtain ⟨t, ht, htake⟩ := takes_of_skipUnsigned h
    cases t with
    | nil => exact absurd (htake [] (ends_nil _)) (by simp [outcome_skipUnsigned_nil])
    | cons d t =>
      obtain ⟨rfl, _⟩ := List.cons.inj ht
      exact ⟨c :: t, ht, fun r' hr' => (outcome_skipScalar_digit _ hc).trans (htake r' hr')⟩
  | quote =>
    rw [outcome_skipScalar_quote] at h
    obtain ⟨t, rfl, htake⟩ := grabs_of_skipChars h
    exact ⟨'"' :: t, rfl, fun r' _ => (outcome_skipScalar_quote _).trans (htake r')⟩

theorem takes_of_readScalar {s r : List Char} {v : Scalar}
    (h : outcome (readScalar s) = some (v, r)) :
    ∃ t, s = t ++ r ∧ Takes readScalar t v r ∧ Takes skipScalar t () r := by
  obtain ⟨c, q, rfl, hc⟩ := front_of_readScalar h
  cases hc with
  | null => exact takes_of_read_word outcome_skipScalar_null outcome_readScalar_null h
  | yes => exact takes_of_read_word outcome_skipScalar_yes outcome_readScalar_yes h
  | no => exact takes_of_read_word outcome_skipScalar_no outcome_readScalar_no h
  | minus =>
    rw [outcome_readScalar_minus] at h
    obtain ⟨⟨n, _⟩, hnumber, heq⟩ := Option.bind_eq_some_iff.mp h
    cases heq
    obtain ⟨t, rfl, hread, hskip⟩ := takes_of_readUnsigned hnumber
    refine ⟨'-' :: t, rfl, fun r' hr' => ?_, fun r' hr' => ?_⟩
    · rw [List.cons_append, outcome_readScalar_minus, hread r' hr']
      rfl
    · exact (outcome_skipScalar_minus _).trans (hskip r' hr')
  | digit hc =>
    rw [outcome_readScalar_digit q hc] at h
    obtain ⟨⟨n, _⟩, hnumber, heq⟩ := Option.bind_eq_some_iff.mp h
    cases heq
    obtain ⟨t, ht, hread, hskip⟩ := takes_of_readUnsigned hnumber
    cases t with
    | nil => exact absurd (hread [] (ends_nil _)) (by simp [readUnsigned])
    | cons d t =>
      obtain ⟨rfl, _⟩ := List.cons.inj ht
      refine ⟨c :: t, ht, fun r' hr' => ?_, fun r' hr' => ?_⟩
      · have hnumber := hread r' hr'
        rw [List.cons_append] at hnumber ⊢
        rw [outcome_readScalar_digit _ hc, hnumber]
        rfl
      · exact (outcome_skipScalar_digit _ hc).trans (hskip r' hr')
  | quote =>
    rw [outcome_readScalar_quote, outcome_readText_quote, Option.bind_assoc] at h
    obtain ⟨⟨es, _⟩, hchars, heq⟩ := Option.bind_eq_some_iff.mp h
    cases heq
    obtain ⟨t, rfl, hread, hskip⟩ := grabs_of_readChars hchars
    refine ⟨'"' :: t, rfl, fun r' _ => ?_, fun r' _ => ?_⟩
    · rw [List.cons_append, outcome_readScalar_quote, outcome_readText_quote, hread r']
      rfl
    · exact (outcome_skipScalar_quote _).trans (hskip r')

end ExecUml.Document
