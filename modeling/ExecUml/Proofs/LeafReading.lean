import ExecUml.Document.Leaf

/-!
# Words and strings and what follows them

A reader takes a leaf off the front of a text, and what it takes depends on the leaf alone: the same
leaf is taken, with the same value, in front of any other text. A word or a string shows by itself
where it ends, so it may be followed by anything.

A string that can be read can also be skipped.
-/

set_option autoImplicit false

namespace ExecUml.Document

open Text (isAsciiDigit)

/-- What a reader answers: the value and the text that is left, without the count. -/
def outcome {k : Nat} {α : Type} {s : List Char} :
    Except Fault (Taken k α s) → Option (α × List Char)
  | .ok x => some (x.value, x.rest)
  | .error _ => none

section Outcome

variable {k j : Nat} {α β : Type} {s t : List Char}

@[simp] theorem outcome_ok (x : Taken k α s) : outcome (.ok x) = some (x.value, x.rest) := rfl

@[simp] theorem outcome_pure (x : Taken k α s) :
    outcome (pure x : Except Fault (Taken k α s)) = some (x.value, x.rest) := rfl

@[simp] theorem outcome_error (f : Fault) :
    outcome (.error f : Except Fault (Taken k α s)) = none := rfl

@[simp] theorem outcome_throw (f : Fault) :
    outcome (throw f : Except Fault (Taken k α s)) = none := rfl

/-- Two steps, one after the other; the second may use of the first only the value and the rest. -/
theorem outcome_bind (x : Except Fault (Taken k α s)) {f : Taken k α s → Except Fault (Taken j β t)}
    {g : α × List Char → Option (β × List Char)} (h : ∀ y, outcome (f y) = g (y.value, y.rest)) :
    outcome (x >>= f) = (outcome x).bind g := by
  cases x with
  | error f => rfl
  | ok y => exact h y

theorem outcome_bind_value (x : Except Fault α) (f : α → Except Fault (Taken j β t)) :
    outcome (x >>= f) = x.toOption.bind fun v => outcome (f v) := by
  cases x <;> rfl

theorem outcome_bind_some (x : Except Fault (Taken k α s))
    {f : Taken k α s → Except Fault (Taken j α t)}
    (h : ∀ y, outcome (f y) = some (y.value, y.rest)) : outcome (x >>= f) = outcome x :=
  (outcome_bind x h).trans (Option.bind_fun_some _)

end Outcome

/-- Taking `t` gives `v`, whatever follows. -/
def Grabs {k : Nat} {α : Type} (read : (s : List Char) → Except Fault (Taken k α s)) (t : List Char)
    (v : α) : Prop :=
  ∀ r, outcome (read (t ++ r)) = some (v, r)

/-- What may follow a value: a blank, a comma or a closing bracket. -/
def isDelimiter (c : Char) : Bool := isSpace c || c = ',' || c = ']' || c = '\x7d'

/-- All characters at the front of the text, which may be empty, satisfy `p`. -/
def Fronted (p : Char → Bool) (s : List Char) : Prop := ∀ c ∈ s.head?, p c = true

def Delimited (s : List Char) : Prop := Fronted isDelimiter s

/-- A text that ends a leaf in front of `r` as well: `r` itself, or one that starts with a
delimiter. -/
def Ends (r r' : List Char) : Prop := Delimited r' ∨ r' = r

/-- Taking `t` gives `v` in front of `r`, of a delimiter and of nothing. -/
def Takes {k : Nat} {α : Type} (read : (s : List Char) → Except Fault (Taken k α s)) (t : List Char)
    (v : α) (r : List Char) : Prop :=
  ∀ r', Ends r r' → outcome (read (t ++ r')) = some (v, r')

theorem ends_nil (r : List Char) : Ends r [] := .inl fun c hc => by simp at hc

theorem Ends.delimited {r : List Char} (h : Ends [] r) : Delimited r := by
  rcases h with h | rfl
  · exact h
  · intro c hc
    simp at hc

/-- What holds of the front of a text holds when the text after `t` is replaced. -/
theorem Fronted.replace {p : Char → Bool} {t r r' : List Char} (h : Fronted p (t ++ r))
    (hr' : Ends r r') (hp : ∀ c, isDelimiter c = true → p c = true) : Fronted p (t ++ r') := by
  rcases hr' with hr' | rfl
  · cases t with
    | nil => exact fun c hc => hp c (hr' c hc)
    | cons c t => exact h
  · exact h

theorem cases_of_isDelimiter {c : Char} (h : isDelimiter c = true) :
    c = ' ' ∨ c = '\n' ∨ c = '\t' ∨ c = '\r' ∨ c = ',' ∨ c = ']' ∨ c = '\x7d' := by
  simpa [isDelimiter, isSpace, or_assoc] using h

/-! ## Words -/

theorem outcome_takeWord_eq_some {word s r : List Char} {u : Unit} :
    outcome (takeWord word s) = some (u, r) ↔ s = word ++ r := by
  induction word generalizing s with
  | nil => simp [takeWord]
  | cons w ws ih =>
    cases s with
    | nil => simp [takeWord]
    | cons c cs =>
      rw [takeWord]
      split
      · rename_i hc
        rw [hc, List.cons_append, List.cons.injEq, ← ih]
        cases takeWord ws cs <;> simp [Taken.within]
      · rename_i hc
        simp [hc]

/-! ## Strings -/

theorem grabs_of_readUnit {s r : List Char} {n : Nat} (h : outcome (readUnit s) = some (n, r)) :
    ∃ t, s = t ++ r ∧ Grabs readUnit t n := by
  unfold readUnit at h
  split at h
  · rename_i a b c d rest
    split at h
    · rename_i x y z w ha hb hc hd
      simp only [outcome_ok, Option.some.injEq, Prod.mk.injEq] at h
      obtain ⟨rfl, rfl⟩ := h
      refine ⟨[a, b, c, d], rfl, fun r' => ?_⟩
      simp [readUnit, ha, hb, hc, hd]
    · simp at h
  · simp at h

theorem outcome_skipEscape_unit (s : List Char) :
    outcome (skipEscape ('u' :: s)) = (outcome (readUnit s)).bind fun p => some ((), p.2) :=
  outcome_bind _ fun _ => rfl

theorem grabs_of_skipEscape {s r : List Char} {u : Unit}
    (h : outcome (skipEscape s) = some (u, r)) : ∃ t, s = t ++ r ∧ Grabs skipEscape t () := by
  unfold skipEscape at h
  split at h
  · simp at h
  · rename_i q
    obtain ⟨⟨n, r'⟩, hunit, heq⟩ := Option.bind_eq_some_iff.mp (outcome_skipEscape_unit q ▸ h)
    cases heq
    obtain ⟨t, rfl, ht⟩ := grabs_of_readUnit hunit
    refine ⟨'u' :: t, rfl, fun r' => ?_⟩
    rw [List.cons_append, outcome_skipEscape_unit, ht r']
    rfl
  · rename_i c q hu
    split at h
    · rename_i hc
      cases h
      refine ⟨[c], rfl, fun r' => ?_⟩
      rw [List.singleton_append, skipEscape, if_pos hc]
      · rfl
      · exact hu
    · simp at h

theorem outcome_skipChars_cons (c : Char) (cs : List Char) :
    outcome (skipChars (c :: cs)) =
      if c = '"' then some ((), cs)
      else if c = '\\' then (outcome (skipEscape cs)).bind fun p => outcome (skipChars p.2)
      else if c.toNat < 0x20 then none
      else outcome (skipChars cs) := by
  rw [skipChars]
  split
  · rfl
  · split
    · exact outcome_bind _ fun _ => outcome_bind_some _ fun _ => rfl
    · split
      · rfl
      · exact outcome_bind_some _ fun _ => rfl

theorem outcome_readChars_cons (c : Char) (cs : List Char) :
    outcome (readChars (c :: cs)) =
      if c = '"' then some ([], cs)
      else if c = '\\' then
        (outcome (readEscape cs)).bind fun p =>
          (outcome (readChars p.2)).bind fun q => some (p.1 :: q.1, q.2)
      else if c.toNat < 0x20 then none
      else (outcome (readChars cs)).bind fun q => some (c :: q.1, q.2) := by
  rw [readChars]
  split
  · rfl
  · split
    · exact outcome_bind _ fun _ => outcome_bind _ fun _ => rfl
    · split
      · rfl
      · exact outcome_bind _ fun _ => rfl

theorem outcome_skipChars_escape {t : List Char} (h : Grabs skipEscape t ()) (r : List Char) :
    outcome (skipChars ('\\' :: (t ++ r))) = outcome (skipChars r) := by
  rw [outcome_skipChars_cons, if_neg (by decide), if_pos rfl, h r]
  rfl

theorem grabs_skipEscape_unit {t : List Char} {n : Nat} (h : Grabs readUnit t n) :
    Grabs skipEscape ('u' :: t) () := by
  intro r
  rw [List.cons_append, outcome_skipEscape_unit, h r]
  rfl

theorem outcome_readTrailing_unit (lead : Nat) (s : List Char) :
    outcome (readTrailing lead ('\\' :: 'u' :: s)) = (outcome (readUnit s)).bind fun p =>
      if 0xDC00 ≤ p.1 && p.1 ≤ 0xDFFF then
        some (Char.ofNat ((lead - 0xD800) * 0x400 + (p.1 - 0xDC00) + 0x10000), p.2)
      else none := by
  apply outcome_bind
  intro y
  dsimp only
  split
  · simp only [outcome_pure]
  · simp only [outcome_throw]

theorem grabs_of_readTrailing {lead : Nat} {s r : List Char} {c : Char}
    (h : outcome (readTrailing lead s) = some (c, r)) :
    ∃ t n, s = '\\' :: 'u' :: (t ++ r) ∧ Grabs readUnit t n ∧
      Grabs (readTrailing lead) ('\\' :: 'u' :: t) c := by
  unfold readTrailing at h
  split at h
  · simp at h
  · simp at h
  · rename_i q
    have h := outcome_readTrailing_unit lead q ▸ h
    obtain ⟨⟨n, r'⟩, hunit, heq⟩ := Option.bind_eq_some_iff.mp h
    dsimp only at heq
    split at heq
    · rename_i hlow
      simp only [Option.some.injEq, Prod.mk.injEq] at heq
      obtain ⟨rfl, rfl⟩ := heq
      obtain ⟨t, rfl, ht⟩ := grabs_of_readUnit hunit
      refine ⟨t, n, rfl, ht, fun r' => ?_⟩
      rw [List.cons_append, List.cons_append, outcome_readTrailing_unit, ht r', Option.bind_some,
        if_pos hlow]
    · simp at heq
  · simp at h
  · simp at h

theorem outcome_readEscape_unit (s : List Char) :
    outcome (readEscape ('u' :: s)) = (outcome (readUnit s)).bind fun p =>
      if 0xDC00 ≤ p.1 && p.1 ≤ 0xDFFF then none
      else if 0xD800 ≤ p.1 && p.1 ≤ 0xDBFF then outcome (readTrailing p.1 p.2)
      else some (Char.ofNat p.1, p.2) := by
  apply outcome_bind
  intro y
  dsimp only
  split
  · rfl
  · split
    · exact outcome_bind_some _ fun _ => rfl
    · rfl

/-- An escape that stands for one character is skipped as one escape or, where it is a pair, as
two. -/
theorem grabs_of_readEscape {s r : List Char} {e : Char}
    (h : outcome (readEscape s) = some (e, r)) :
    ∃ t, s = t ++ r ∧ Grabs readEscape t e ∧
      ∀ r', outcome (skipChars ('\\' :: (t ++ r'))) = outcome (skipChars r') := by
  unfold readEscape at h
  split at h
  · simp at h
  · rename_i q
    have h := outcome_readEscape_unit q ▸ h
    obtain ⟨⟨n, r'⟩, hunit, hchar⟩ := Option.bind_eq_some_iff.mp h
    obtain ⟨t, rfl, ht⟩ := grabs_of_readUnit hunit
    dsimp only at hchar
    split at hchar
    · simp at hchar
    · rename_i hlow
      split at hchar
      · rename_i hhigh
        obtain ⟨u, _, rfl, hu, htrailing⟩ := grabs_of_readTrailing hchar
        refine ⟨'u' :: (t ++ '\\' :: 'u' :: u), by simp, fun r₂ => ?_, fun r₂ => ?_⟩
        · rw [List.cons_append, List.append_assoc, outcome_readEscape_unit, ht, Option.bind_some]
          dsimp only
          rw [if_neg hlow, if_pos hhigh]
          exact htrailing r₂
        · have hpair : '\\' :: ('u' :: (t ++ '\\' :: 'u' :: u) ++ r₂) =
              '\\' :: ('u' :: t ++ '\\' :: ('u' :: u ++ r₂)) := by simp
          rw [hpair, outcome_skipChars_escape (grabs_skipEscape_unit ht),
            outcome_skipChars_escape (grabs_skipEscape_unit hu)]
      · rename_i hhigh
        cases hchar
        refine ⟨'u' :: t, rfl, fun r' => ?_, outcome_skipChars_escape (grabs_skipEscape_unit ht)⟩
        rw [List.cons_append, outcome_readEscape_unit, ht, Option.bind_some]
        dsimp only
        rw [if_neg hlow, if_neg hhigh]
  case h_8 c q _ _ _ _ _ _ =>
    split at h
    · rename_i hc
      cases h
      simp only [Bool.or_eq_true, decide_eq_true_eq] at hc
      refine ⟨[c], rfl, ?_, outcome_skipChars_escape ?_⟩
      · rcases hc with (rfl | rfl) | rfl <;> exact fun _ => rfl
      · rcases hc with (rfl | rfl) | rfl <;> exact fun _ => rfl
    · simp at h
  all_goals
    cases h
    exact ⟨[_], rfl, fun _ => rfl, outcome_skipChars_escape fun _ => rfl⟩

theorem grabs_of_skipChars {s r : List Char} {u : Unit} (h : outcome (skipChars s) = some (u, r)) :
    ∃ t, s = t ++ r ∧ Grabs skipChars t () := by
  induction hn : s.length using Nat.strongRecOn generalizing s with
  | ind n ih =>
    cases s with
    | nil => simp [skipChars] at h
    | cons c cs =>
      rw [outcome_skipChars_cons] at h
      split at h
      · rename_i hc
        cases h
        refine ⟨['"'], by simp [hc], fun r' => ?_⟩
        rw [List.singleton_append, outcome_skipChars_cons]
        rfl
      · rename_i hquote
        split at h
        · rename_i hslash
          obtain ⟨⟨_, r'⟩, hescape, hrest⟩ := Option.bind_eq_some_iff.mp h
          obtain ⟨t, rfl, ht⟩ := grabs_of_skipEscape hescape
          obtain ⟨t', rfl, ht'⟩ := ih r'.length (by simp at hn; omega) hrest rfl
          refine ⟨'\\' :: (t ++ t'), by simp [hslash], fun r'' => ?_⟩
          rw [List.cons_append, List.append_assoc, outcome_skipChars_escape ht]
          exact ht' r''
        · rename_i hslash
          split at h
          · simp at h
          · rename_i hcontrol
            obtain ⟨t, rfl, ht⟩ := ih cs.length (by simp at hn; omega) h rfl
            refine ⟨c :: t, rfl, fun r' => ?_⟩
            rw [List.cons_append, outcome_skipChars_cons, if_neg hquote, if_neg hslash,
              if_neg hcontrol]
            exact ht r'

theorem grabs_of_readChars {s r es : List Char} (h : outcome (readChars s) = some (es, r)) :
    ∃ t, s = t ++ r ∧ Grabs readChars t es ∧ Grabs skipChars t () := by
  induction hn : s.length using Nat.strongRecOn generalizing s es with
  | ind n ih =>
    cases s with
    | nil => simp [readChars] at h
    | cons c cs =>
      rw [outcome_readChars_cons] at h
      split at h
      · rename_i hc
        cases h
        refine ⟨['"'], by simp [hc], fun r' => ?_, fun r' => ?_⟩
        · rw [List.singleton_append, outcome_readChars_cons]; rfl
        · rw [List.singleton_append, outcome_skipChars_cons]; rfl
      · rename_i hquote
        split at h
        · rename_i hslash
          obtain ⟨⟨e, r'⟩, hescape, hrest⟩ := Option.bind_eq_some_iff.mp h
          obtain ⟨⟨es', r''⟩, hchars, heq⟩ := Option.bind_eq_some_iff.mp hrest
          cases heq
          obtain ⟨t, rfl, ht, hskip⟩ := grabs_of_readEscape hescape
          obtain ⟨t', rfl, ht', hskip'⟩ := ih r'.length (by simp at hn; omega) hchars rfl
          refine ⟨'\\' :: (t ++ t'), by simp [hslash], fun r'' => ?_, fun r'' => ?_⟩
          · rw [List.cons_append, List.append_assoc, outcome_readChars_cons, if_neg (by decide),
              if_pos rfl, ht, Option.bind_some, ht' r'']
            rfl
          · rw [List.cons_append, List.append_assoc, hskip]
            exact hskip' r''
        · rename_i hslash
          split at h
          · simp at h
          · rename_i hcontrol
            obtain ⟨⟨es', r'⟩, hrest, heq⟩ := Option.bind_eq_some_iff.mp h
            cases heq
            obtain ⟨t, rfl, ht, hskip⟩ := ih cs.length (by simp at hn; omega) hrest rfl
            refine ⟨c :: t, rfl, fun r' => ?_, fun r' => ?_⟩
            · rw [List.cons_append, outcome_readChars_cons, if_neg hquote, if_neg hslash,
                if_neg hcontrol, ht r']
              rfl
            · rw [List.cons_append, outcome_skipChars_cons, if_neg hquote, if_neg hslash,
                if_neg hcontrol]
              exact hskip r'

end ExecUml.Document
