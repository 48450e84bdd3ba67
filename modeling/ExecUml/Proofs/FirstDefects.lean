import ExecUml.Model.Load
import Mathlib.Data.List.TakeWhile

/-!
# The first defect of a model

The checks of a model run in a fixed order: system name, version, the list of domains, then domain
by domain its name, key letter and classes. A model passes exactly if it is complete, and a defect
is reported exactly if it is the first in this order. The order is said of the model alone, by what
holds in front of the defect.
-/

set_option autoImplicit false

namespace ExecUml

/-! ## Blank texts -/

namespace Text

/-- The code points of the characters with the property `White_Space`. -/
def whiteSpace : List Nat :=
  [0x9, 0xA, 0xB, 0xC, 0xD, 0x20, 0x85, 0xA0, 0x1680, 0x2000, 0x2001, 0x2002, 0x2003, 0x2004,
    0x2005, 0x2006, 0x2007, 0x2008, 0x2009, 0x200A, 0x2028, 0x2029, 0x202F, 0x205F, 0x3000]

/-- Only white space occurs in the text. -/
def Blank (s : String) : Prop := ∀ c ∈ s.toList, c.toNat ∈ whiteSpace

theorem isBlank_iff (c : Char) : isBlank c = true ↔ c.toNat ∈ whiteSpace := by
  rw [isBlank, CharClass.has_iff]
  simp only [blanks, whiteSpace, List.mem_cons, List.not_mem_nil, or_false, exists_eq_or_imp,
    exists_eq_left]
  omega

theorem allBlank_iff (s : String) : allBlank s = true ↔ Blank s := by
  rw [allBlank, List.all_eq_true, Blank]
  exact forall₂_congr fun c _ => isBlank_iff c

theorem trimChars_eq_nil_iff {cs : List Char} : trimChars cs = [] ↔ ∀ c ∈ cs, isBlank c = true := by
  rw [trimChars, List.reverse_eq_nil_iff, List.dropWhile_eq_nil_iff]
  constructor
  · intro h
    -- what is left at the front starts with a character that is not blank, unless nothing is left
    have hnil : cs.dropWhile isBlank = [] := by
      by_contra hne
      have hhead := List.head_dropWhile_not isBlank hne
      rw [h _ (List.mem_reverse.mpr (List.head_mem hne))] at hhead
      cases hhead
    exact List.dropWhile_eq_nil_iff.mp hnil
  · intro h c hc
    rw [List.dropWhile_eq_nil_iff.mpr h] at hc
    cases hc

theorem trim_eq_empty_iff (s : String) : trim s = "" ↔ Blank s := by
  rw [trim, ← allBlank_iff, allBlank, List.all_eq_true, ← trimChars_eq_nil_iff]
  exact ⟨fun h => by simpa using congrArg String.toList h, fun h => by rw [h]⟩

end Text

open Text

/-! ## Domains -/

/-- A domain that has what is checked. -/
structure Domain.Complete (d : Domain) : Prop where
  name : ¬Blank d.name
  keyLetter : ¬Blank d.keyLetter
  classes : d.classes ≠ []

/-- The first thing that a domain lacks, as an error about the domain of this number. -/
inductive Domain.Lacks (number : Nat) (d : Domain) : CompileError → Prop where
  | name : Blank d.name → Lacks number d (.domainWithoutName number)
  | keyLetter : ¬Blank d.name → Blank d.keyLetter → Lacks number d (.domainWithoutKeyLetter d.name)
  | classes : ¬Blank d.name → ¬Blank d.keyLetter → d.classes = [] →
    Lacks number d (.domainWithoutClasses d.name)

namespace Model

theorem domainDefect?_eq_none_iff {number : Nat} {d : Domain} :
    domainDefect? number d = none ↔ d.Complete := by
  unfold domainDefect?
  split_ifs with hname hletter hclasses
  · exact iff_of_false nofun fun h => h.name ((allBlank_iff _).mp hname)
  · exact iff_of_false nofun fun h => h.keyLetter ((allBlank_iff _).mp hletter)
  · exact iff_of_false nofun fun h => h.classes (by simpa using hclasses)
  · rw [allBlank_iff] at hname hletter
    exact iff_of_true rfl ⟨hname, hletter, by simpa using hclasses⟩

theorem domainDefect?_eq_some_iff {number : Nat} {d : Domain} {e : CompileError} :
    domainDefect? number d = some e ↔ d.Lacks number e := by
  constructor
  · intro h
    unfold domainDefect? at h
    split_ifs at h with hname hletter hclasses
    · cases h
      exact .name ((allBlank_iff _).mp hname)
    · cases h
      rw [allBlank_iff] at hname hletter
      exact .keyLetter hname hletter
    · cases h
      rw [allBlank_iff] at hname hletter
      exact .classes hname hletter (by simpa using hclasses)
  · intro h
    cases h with
    | name hname => rw [domainDefect?, if_pos ((allBlank_iff _).mpr hname)]
    | keyLetter hname hletter =>
      rw [← allBlank_iff] at hname hletter
      rw [domainDefect?, if_neg hname, if_pos hletter]
    | classes hname hletter hclasses =>
      rw [← allBlank_iff] at hname hletter
      rw [domainDefect?, if_neg hname, if_neg hletter, if_pos (by simpa using hclasses)]

/-! ## Lists of domains -/

theorem firstDefect?_eq_none_iff {number : Nat} {ds : List Domain} :
    firstDefect? number ds = none ↔ ∀ d ∈ ds, d.Complete := by
  induction ds generalizing number with
  | nil => simp [firstDefect?]
  | cons d ds ih =>
    rw [firstDefect?, Option.or_eq_none_iff, domainDefect?_eq_none_iff, ih, List.forall_mem_cons]

/-- The first defect is that of a domain with complete domains in front of it. -/
theorem firstDefect?_eq_some_iff {number : Nat} {ds : List Domain} {e : CompileError} :
    firstDefect? number ds = some e ↔ ∃ before d after, ds = before ++ d :: after ∧
      (∀ d' ∈ before, d'.Complete) ∧ d.Lacks (before.length + number) e := by
  induction ds generalizing number with
  | nil => simp [firstDefect?]
  | cons d ds ih =>
    rw [firstDefect?, Option.or_eq_some_iff, domainDefect?_eq_some_iff, domainDefect?_eq_none_iff,
      ih]
    constructor
    · rintro (hlacks | ⟨hd, before, d', after, rfl, hbefore, hlacks⟩)
      · exact ⟨[], d, ds, rfl, nofun, by simpa using hlacks⟩
      · refine ⟨d :: before, d', after, rfl, List.forall_mem_cons.mpr ⟨hd, hbefore⟩, ?_⟩
        rwa [List.length_cons, Nat.add_assoc, Nat.add_comm 1]
    · rintro ⟨before, d', after, heq, hbefore, hlacks⟩
      cases before with
      | nil =>
        cases heq
        exact .inl (by simpa using hlacks)
      | cons b before =>
        cases heq
        obtain ⟨hd, hbefore⟩ := List.forall_mem_cons.mp hbefore
        refine .inr ⟨hd, before, d', after, rfl, hbefore, ?_⟩
        rwa [List.length_cons, Nat.add_assoc, Nat.add_comm 1] at hlacks

/-! ## Models -/

/-- A model that has what is checked. -/
structure Complete (m : Model) : Prop where
  systemName : ¬Blank m.systemName
  version : ¬Blank m.version
  domains : m.domains ≠ []
  each : ∀ d ∈ m.domains, d.Complete

/-- The first thing that a model lacks, in the order of the checks. -/
inductive Lacks (m : Model) : CompileError → Prop where
  | systemName : Blank m.systemName → Lacks m .missingSystemName
  | version : ¬Blank m.systemName → Blank m.version → Lacks m .missingVersion
  | domains : ¬Blank m.systemName → ¬Blank m.version → m.domains = [] → Lacks m .noDomains
  | domain {before after : List Domain} {d : Domain} {e : CompileError} :
      ¬Blank m.systemName → ¬Blank m.version → m.domains = before ++ d :: after →
      (∀ d' ∈ before, d'.Complete) → d.Lacks (before.length + 1) e → Lacks m e

theorem defect?_eq_none_iff {m : Model} : m.defect? = none ↔ m.Complete := by
  unfold defect?
  split_ifs with hsystem hversion hdomains
  · exact iff_of_false nofun fun h => h.systemName ((allBlank_iff _).mp hsystem)
  · exact iff_of_false nofun fun h => h.version ((allBlank_iff _).mp hversion)
  · exact iff_of_false nofun fun h => h.domains (by simpa using hdomains)
  · rw [allBlank_iff] at hsystem hversion
    rw [firstDefect?_eq_none_iff]
    exact ⟨fun h => ⟨hsystem, hversion, by simpa using hdomains, h⟩, fun h => h.each⟩

theorem defect?_eq_some_iff {m : Model} {e : CompileError} : m.defect? = some e ↔ m.Lacks e := by
  constructor
  · intro h
    unfold defect? at h
    split_ifs at h with hsystem hversion hdomains
    · cases h
      exact .systemName ((allBlank_iff _).mp hsystem)
    · cases h
      rw [allBlank_iff] at hsystem hversion
      exact .version hsystem hversion
    · cases h
      rw [allBlank_iff] at hsystem hversion
      exact .domains hsystem hversion (by simpa using hdomains)
    · rw [allBlank_iff] at hsystem hversion
      obtain ⟨before, d, after, hsplit, hbefore, hlacks⟩ := firstDefect?_eq_some_iff.mp h
      exact .domain hsystem hversion hsplit hbefore hlacks
  · intro h
    cases h with
    | systemName hsystem => rw [defect?, if_pos ((allBlank_iff _).mpr hsystem)]
    | version hsystem hversion =>
      rw [← allBlank_iff] at hsystem hversion
      rw [defect?, if_neg hsystem, if_pos hversion]
    | domains hsystem hversion hdomains =>
      rw [← allBlank_iff] at hsystem hversion
      rw [defect?, if_neg hsystem, if_neg hversion, if_pos (by simpa using hdomains)]
    | domain hsystem hversion hsplit hbefore hlacks =>
      rw [← allBlank_iff] at hsystem hversion
      rw [defect?, if_neg hsystem, if_neg hversion, if_neg (by simp [hsplit])]
      exact firstDefect?_eq_some_iff.mpr ⟨_, _, _, hsplit, hbefore, hlacks⟩

theorem load_of_parse {text : String} {m : Model} (h : parse text = .ok m) :
    load text = m.defect?.elim (.ok m) .error := by
  rw [load, h]
  dsimp only [bind, Except.bind]
  cases m.defect? <;> rfl

end Model

/-- A model passes the checks exactly if it is complete, and an error is reported exactly if it is
about the first thing that the model lacks. A text that is read as the model is loaded or refused
accordingly. A blank text is one of which trimming leaves nothing. -/
theorem first_defect_reported (m : Model) :
    (m.defect? = none ↔ m.Complete) ∧ (∀ e, m.defect? = some e ↔ m.Lacks e) ∧
    (∀ text, Model.parse text = .ok m →
      (Model.load text = .ok m ↔ m.Complete) ∧ ∀ e, Model.load text = .error e ↔ m.Lacks e) ∧
    ∀ s, Blank s ↔ trim s = "" := by
  refine ⟨Model.defect?_eq_none_iff, fun e => Model.defect?_eq_some_iff, ?_, fun s =>
    (trim_eq_empty_iff s).symm⟩
  intro text hparse
  rw [Model.load_of_parse hparse, ← Model.defect?_eq_none_iff]
  refine ⟨?_, fun e => ?_⟩
  · cases m.defect? <;> simp
  · rw [← Model.defect?_eq_some_iff]
    cases m.defect? <;> simp

end ExecUml
