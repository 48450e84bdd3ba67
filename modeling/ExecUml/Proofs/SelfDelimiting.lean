import Mathlib.Data.List.Basic

/-!
# Texts that end by themselves

A text is self-delimiting if it shows what it stands for and where it ends, whatever follows it.
Sequences of such texts can be taken apart again, and so can sequences with a separator between the
members.
-/

set_option autoImplicit false

namespace ExecUml.Script

/-- Among the things that satisfy `P`, the text shows which one is meant and where the text ends. -/
def SelfDelimiting {α : Type} (P : α → Prop) (text : α → List Char) : Prop :=
  ∀ ⦃a b : α⦄, P a → P b → ∀ ⦃r r' : List Char⦄, text a ++ r = text b ++ r' → a = b ∧ r = r'

/-- A text without the delimiter in it ends at the first one. -/
theorem append_cons_inj {d : Char} {u v r r' : List Char} (hu : d ∉ u) (hv : d ∉ v)
    (h : u ++ d :: r = v ++ d :: r') : u = v ∧ r = r' := by
  induction u generalizing v with
  | nil =>
    cases v with
    | nil => exact ⟨rfl, (List.cons.inj h).2⟩
    | cons c v =>
      have hc : d = c := (List.cons.inj h).1
      exact absurd List.mem_cons_self (hc ▸ hv)
  | cons a u ih =>
    cases v with
    | nil =>
      have ha : a = d := (List.cons.inj h).1
      exact absurd List.mem_cons_self (ha ▸ hu)
    | cons c v =>
      obtain ⟨rfl, hrest⟩ := List.cons.inj h
      obtain ⟨rfl, hr⟩ :=
        ih (List.not_mem_of_not_mem_cons hu) (List.not_mem_of_not_mem_cons hv) hrest
      exact ⟨rfl, hr⟩

theorem append_cons_ne {c d : Char} {u : List Char} (hu : d ∉ u) (hcd : c ≠ d) (r r' : List Char) :
    u ++ c :: r ≠ d :: r' := by
  intro h
  cases u with
  | nil => exact hcd (List.cons.inj h).1
  | cons a u =>
    have ha : a = d := (List.cons.inj h).1
    exact hu (ha ▸ List.mem_cons_self)

namespace SelfDelimiting

variable {α : Type} {P : α → Prop} {text : α → List Char}

/-- A fixed text in front changes nothing. -/
theorem prepend (h : SelfDelimiting P text) (front : List Char) :
    SelfDelimiting P fun a => front ++ text a := by
  intro a b ha hb r r' heq
  simp only [List.append_assoc] at heq
  exact h ha hb (List.append_cancel_left heq)

/-- A sequence is taken apart up to a text with which no member of it starts. -/
theorem flatMap (h : SelfDelimiting P text) {stop : List Char}
    (hstop : ∀ a, P a → ∀ r r', text a ++ r ≠ stop ++ r') :
    SelfDelimiting (fun as : List α => ∀ a ∈ as, P a) fun as => as.flatMap text ++ stop := by
  intro as bs has hbs r r' heq
  induction as generalizing bs with
  | nil =>
    cases bs with
    | nil => exact ⟨rfl, List.append_cancel_left heq⟩
    | cons b bs =>
      simp only [List.flatMap_cons, List.append_assoc] at heq
      exact absurd heq.symm (hstop b (hbs b List.mem_cons_self) _ _)
  | cons a as ih =>
    have ha := has a List.mem_cons_self
    cases bs with
    | nil =>
      simp only [List.flatMap_cons, List.append_assoc] at heq
      exact absurd heq (hstop a ha _ _)
    | cons b bs =>
      simp only [List.flatMap_cons, List.append_assoc] at heq
      obtain ⟨rfl, hrest⟩ := h ha (hbs b List.mem_cons_self) heq
      simp only [← List.append_assoc] at hrest
      obtain ⟨rfl, hr⟩ := ih (fun x hx => has x (List.mem_cons_of_mem a hx))
        (fun x hx => hbs x (List.mem_cons_of_mem a hx)) hrest
      exact ⟨rfl, hr⟩

end SelfDelimiting

theorem intercalate_cons_eq (sep u : List Char) (us : List (List Char)) :
    sep.intercalate (u :: us) = u ++ us.flatMap (sep ++ ·) := by
  induction us generalizing u with
  | nil => simp
  | cons v us ih =>
    rw [List.intercalate_cons_cons, ih, List.flatMap_cons]
    simp only [List.append_assoc]

/-- A sequence with separators is taken apart up to a stop that starts neither a member nor a
separator. -/
theorem SelfDelimiting.intercalate {α : Type} {P : α → Prop} {text : α → List Char}
    (h : SelfDelimiting P text) (c : Char) (sep : List Char) (stop : Char) (hc : c ≠ stop)
    (hstop : ∀ a, P a → ∀ r r', text a ++ r ≠ stop :: r') :
    SelfDelimiting (fun as : List α => ∀ a ∈ as, P a)
      fun as => (c :: sep).intercalate (as.map text) ++ [stop] := by
  have hrest : SelfDelimiting (fun as : List α => ∀ a ∈ as, P a)
      fun as => as.flatMap (fun a => (c :: sep) ++ text a) ++ [stop] := by
    apply (h.prepend (c :: sep)).flatMap
    intro a _ r r' heq
    exact hc (List.cons.inj heq).1
  intro as bs has hbs r r' heq
  cases as with
  | nil =>
    cases bs with
    | nil => exact ⟨rfl, List.append_cancel_left heq⟩
    | cons b bs =>
      simp only [List.map_cons, intercalate_cons_eq, List.append_assoc] at heq
      exact absurd heq.symm (hstop b (hbs b List.mem_cons_self) _ _)
  | cons a as =>
    have ha := has a List.mem_cons_self
    cases bs with
    | nil =>
      simp only [List.map_cons, intercalate_cons_eq, List.append_assoc] at heq
      exact absurd heq (hstop a ha _ _)
    | cons b bs =>
      simp only [List.map_cons, intercalate_cons_eq, List.append_assoc, List.flatMap_map] at heq
      obtain ⟨rfl, hmore⟩ := h ha (hbs b List.mem_cons_self) heq
      simp only [← List.append_assoc] at hmore
      obtain ⟨rfl, hr⟩ := hrest (fun x hx => has x (List.mem_cons_of_mem a hx))
        (fun x hx => hbs x (List.mem_cons_of_mem a hx)) hmore
      exact ⟨rfl, hr⟩

end ExecUml.Script
